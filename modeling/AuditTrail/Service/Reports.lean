import AuditTrail.Service.Basic
import AuditTrail.Service.Clock
import AuditTrail.Report.Health
import AuditTrail.Validation.Scalar

/-!
# Reports

`statistics` counts events per day and level, `critical` lists the newest error events, `health`
judges the last hour, and `purge` deletes old events; each fails with its own generic failure.
-/

namespace AuditTrail

/-- Event counts per known level. -/
structure LevelCounts where
  error : Nat := 0
  warn : Nat := 0
  info : Nat := 0
  debug : Nat := 0
  deriving DecidableEq, Repr

namespace LevelCounts

def total (c : LevelCounts) : Nat := c.error + c.warn + c.info + c.debug

def withCount (c : LevelCounts) (level : Value) (n : Nat) : LevelCounts :=
  match Level.all.find? (fun l => Value.looseEq level (.str l.text)) with
  | some .error => { c with error := n }
  | some .warn => { c with warn := n }
  | some .info => { c with info := n }
  | some .debug => { c with debug := n }
  | none => c

def toValue (c : LevelCounts) : Value :=
  .record [("error", .int c.error), ("warn", .int c.warn), ("info", .int c.info),
    ("debug", .int c.debug)]

end LevelCounts

/-- The events of one day. -/
structure DailyStatistics where
  date : String
  counts : LevelCounts

def DailyStatistics.toValue (d : DailyStatistics) : Value :=
  .record [("date", .str d.date), ("totalCount", .int d.counts.total),
    ("countsByLevel", d.counts.toValue)]

/-- The recent critical events. -/
structure CriticalEvents where
  events : List EventView
  windowHours : Int
  alert : AlertLevel

def CriticalEvents.toValue (c : CriticalEvents) : Value :=
  .record [("events", .list (c.events.map EventView.toValue)), ("count", .int c.events.length),
    ("windowHours", .int c.windowHours), ("alertLevel", .str c.alert.text)]

/-- The health of the log. -/
structure HealthReport where
  status : HealthStatus
  eventsLastHour : Nat
  criticalLastHour : Nat
  alert : AlertLevel
  lastEventAt : Option Stamp
  recommendations : List String
  checkedAt : Stamp
  performedBy : String

def HealthReport.toValue (h : HealthReport) : Value :=
  .record [("status", .str h.status.text), ("eventsLastHour", .int h.eventsLastHour),
    ("criticalEventsLastHour", .int h.criticalLastHour), ("alertLevel", .str h.alert.text),
    ("lastEventAt", match h.lastEventAt with
      | some t => .str t.isoZ
      | none => .null),
    ("recommendations", .list (h.recommendations.map .str)),
    ("checkedAt", .str h.checkedAt.isoZ), ("performedBy", .str h.performedBy)]

/-- The outcome of a retention sweep. -/
structure PurgeResult where
  deleted : Nat
  ageThresholdDays : Int
  cutoff : Stamp

def PurgeResult.toValue (p : PurgeResult) : Value :=
  .record [("deleted", .int p.deleted), ("ageThresholdDays", .int p.ageThresholdDays),
    ("cutoff", .str p.cutoff.isoZ)]

def maxDaysBack : Int := 365
def maxWindowHours : Int := 168

def criticalLimit : Nat := 100

/-- Refuses a parameter outside `[1, upper]`; only a number compares, and a NaN is inside. -/
def checkRange (field : String) (value : Value) (upper : Int) : Except Failure Unit := do
  let x ← Numeric.comparable "<" value
  if x.toExact.lt (.finite 1 1) || (Exact.finite upper 1).lt x.toExact then
    .error (.invalidFilter field (field ++ " must be between 1 and " ++ toString upper))
  else .ok ()

def daysSpan (n : Value) : Except Failure Int :=
  match Numeric.ofValue? n with
  | some x => Span.ofAmounts x (.int 0) (.int 0) (.int 0)
  | none => .error (.typeMismatch ("unsupported type for timedelta days component: " ++ n.typeName))

def hoursSpan (n : Value) : Except Failure Int :=
  match Numeric.ofValue? n with
  | some x => Span.ofAmounts (.int 0) x (.int 0) (.int 0)
  | none => .error (.typeMismatch ("unsupported type for timedelta hours component: " ++ n.typeName))

def resultInt (name : String) (v : Value) : Except Failure Int :=
  (Lax.int v).mapError (fun k => .unfit ⟨[name], k⟩)

def Date.text (d : Date) : String := Stamp.dateText d

def insertDay (d : String) (level : Value) (n : Nat) :
    List DailyStatistics → List DailyStatistics
  | [] => [⟨d, LevelCounts.withCount {} level n⟩]
  | e :: es => match Value.textCmp d e.date with
    | .lt => ⟨d, LevelCounts.withCount {} level n⟩ :: e :: es
    | .eq => { e with counts := e.counts.withCount level n } :: es
    | .gt => e :: insertDay d level n es

/-- A day's level as a key of the day's counts: a missing level is a missing key, and a value
that cannot be hashed cannot be a key. -/
def levelKey : Option Value → Except Failure Value
  | none => .error (.missingKey (.str "level"))
  | some v => match Value.unhashable? v with
    | some t => .error (.typeMismatch ("unhashable type: '" ++ t ++ "'"))
    | none => .ok v

namespace Service

def now : StateM Service Stamp := do return (← get).clock

def fromExcept {α : Type} (x : Except Failure α) : StateM Service (Except Failure α) := pure x

/-- Per-day event counts for the last `daysBack` days. -/
def statistics (daysBack : Value) : StateM Service (Except Failure (List DailyStatistics)) := do
  let upto ← now
  match checkRange "daysBack" daysBack maxDaysBack >>= fun _ =>
      daysSpan daysBack >>= upto.earlier with
  | .error f => pure (.error f)
  | .ok since =>
    match ← onDb (Db.read .aggregate (fun c => c.dailyLevelCounts since upto)) with
    | .error _ => pure (.error (.queryFailed "could not complete statistics query"))
    | .ok rows => pure (rows.foldlM (fun acc r => do
        let level ← levelKey r.1.2
        pure (insertDay r.1.1.text level r.2 acc)) [])

def criticalEvents (hours : Value) : StateM Service (Except Failure (List EventView)) := do
  let t ← now
  match hoursSpan hours >>= t.earlier with
  | .error f => pure (.error f)
  | .ok since =>
    let cond : Cond := [.field "level" [.eq (.str Level.error.text)],
      .field "createdAt" [.atLeast (.stamp since)]]
    match ← onDb (Repo.findRecent cond criticalLimit) with
    | .error _ => pure (.error (.queryFailed "could not complete critical events query"))
    | .ok docs => pure (docs.mapM EventView.ofDocument)

/-- The recent critical events of a window. -/
def critical (windowHours : Value) : StateM Service (Except Failure CriticalEvents) := do
  match checkRange "windowHours" windowHours maxWindowHours with
  | .error f => pure (.error f)
  | .ok () =>
    match ← criticalEvents windowHours with
    | .error f => pure (.error f)
    | .ok events => pure (do
        let hours ← resultInt "window_hours" windowHours
        pure ⟨events, hours, AlertLevel.ofCount (.ofInt events.length)⟩)

/-- The health of the log, checked for `actor`. -/
def health (actor : String) : StateM Service (Except Failure HealthReport) := do
  let t ← now
  match Span.ofHours 1 >>= t.earlier with
  | .error f => pure (.error f)
  | .ok since =>
    let lastHour : Cond := [.field "createdAt" [.atLeast (.stamp since)]]
    let failed : Failure := .queryFailed "could not complete health check"
    match ← onDb (Repo.count lastHour) with
    | .error _ => pure (.error failed)
    | .ok events =>
      match ← onDb (Repo.findRecent lastHour 1) with
      | .error _ => pure (.error failed)
      | .ok latest =>
        match ← criticalEvents (.int 1) with
        | .error f => pure (.error f)
        | .ok critical =>
          let alert := AlertLevel.ofCount (.ofInt critical.length)
          let status := HealthStatus.judge (some alert) (events == 0)
          let lastEvent : Except Failure (Option Stamp) :=
            match latest.head?.bind (·.get? "createdAt") with
            | none | some .null => .ok none
            | some v => (StampReading.read v).map some |>.mapError
                (fun k => .unfit ⟨["lastEventAt"], k⟩)
          pure (lastEvent.map (fun lastEventAt =>
            { status, eventsLastHour := events, criticalLastHour := critical.length, alert,
              lastEventAt, recommendations :=
                HealthStatus.advice (some status) (events == 0) (.ofInt critical.length),
              checkedAt := t, performedBy := actor }))

/-- Deletes the events older than `days` days. -/
def purge (days : Value) : StateM Service (Except Failure PurgeResult) := do
  match Numeric.comparable "<" days with
  | .error f => return .error f
  | .ok x =>
    if x.toExact.lt (.finite 1 1) then
      return .error (.invalidFilter "ageThresholdDays" "ageThresholdDays must be at least 1")
  let t ← now
  match daysSpan days >>= t.earlier with
  | .error f => pure (.error f)
  | .ok cutoff =>
    let cond : Cond := [.field "createdAt" [.below (.stamp cutoff)]]
    let delete (c : Collection) : Collection × Except Failure Nat :=
      match c.deleteWhere cond with
      | .ok (c, n) => (c, .ok n)
      | .error f => (c, .error f)
    match ← onDb (Db.write .deleteMany delete) with
    | .error _ => pure (.error (.queryFailed "could not complete cleanup"))
    | .ok deleted => pure ((resultInt "age_threshold_days" days).map (⟨deleted, ·, cutoff⟩))

end Service

end AuditTrail
