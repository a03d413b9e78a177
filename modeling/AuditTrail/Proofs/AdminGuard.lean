import AuditTrail.Proofs.EventWrites
import AuditTrail.Web.App

/-!
# The administrator guard comes first

A request to an administrative endpoint without `X-Role: admin` is answered 403 whatever its
parameters, and handling it only writes its access records (`admin_guard_precedes_effects`).
-/

namespace AuditTrail

/-- The endpoints behind the administrator guard. -/
def Endpoint.administrative : List Endpoint :=
  [.listLogs, .statistics, .critical, .health, .exportLogs, .cleanup]

def Response.forbidden : Response := Response.detail 403 adminRequired

theorem Endpoint.openAnswer?_of_administrative {e : Endpoint} (he : e ∈ Endpoint.administrative) :
    e.openAnswer? = none := by
  simp only [Endpoint.administrative, List.mem_cons, List.not_mem_nil, or_false] at he
  rcases he with rfl | rfl | rfl | rfl | rfl | rfl <;> rfl

theorem Dispatch.method_ne_options {m p : String} {e : Endpoint}
    (h : Dispatch.ofRequest m p = .serve e) : m ≠ "OPTIONS" := by
  unfold Dispatch.ofRequest at h
  split at h
  · rename_i r hr
    have hfound := List.find?_some hr
    simp only [Bool.and_eq_true, beq_iff_eq] at hfound
    have hrow : ∀ row ∈ Endpoint.table, row.1 ≠ "OPTIONS" := by decide
    rw [← hfound.1]
    exact hrow r (List.mem_of_find?_eq_some hr)
  · -- no endpoint has both the method and the path
    dsimp only at h
    split_ifs at h

theorem Response.preflight?_of_method {req : HttpRequest} (h : req.method ≠ "OPTIONS") :
    Response.preflight? req = none := by
  unfold Response.preflight?
  cases req.headers.get? "origin" with
  | none => rfl
  | some origin =>
    cases req.headers.get? "access-control-request-method" with
    | none => rfl
    | some method => simp [h]

theorem Actor.ofHeaders_of_role {h : Headers} (hrole : (h.get? "X-Role").getD "" ≠ "admin") :
    Actor.ofHeaders h = .error (.forbidden adminRequired) := by
  unfold Actor.ofHeaders
  rw [if_neg hrole]

namespace Service

variable {req : HttpRequest} {e : Endpoint}

/-- A caller who is not an administrator is refused at the guard, before the endpoint runs. -/
theorem respond_of_refused (sv : Service) (hroute : Dispatch.ofRequest req.method req.path = .serve e)
    (he : e ∈ Endpoint.administrative) (hrole : (req.headers.get? "X-Role").getD "" ≠ "admin") :
    respond req sv = ((Response.forbidden, none, Observed.ofResponse Response.forbidden), sv) := by
  unfold respond serve
  simp only [hroute, Endpoint.openAnswer?_of_administrative he, Actor.ofHeaders_of_role hrole]
  rfl

theorem handle_of_refused (sv : Service) (hroute : Dispatch.ofRequest req.method req.path = .serve e)
    (he : e ∈ Endpoint.administrative) (hrole : (req.headers.get? "X-Role").getD "" ≠ "admin") :
    handle req sv = (Response.forbidden,
      (capture req none (Observed.ofResponse Response.forbidden) sv).2) := by
  unfold handle
  rw [Response.preflight?_of_method (Dispatch.method_ne_options hroute)]
  dsimp only
  rw [Db.bind_apply, respond_of_refused sv hroute he hrole]
  rfl

end Service

theorem HttpRequest.captureEvents_unattributed (req : HttpRequest) (o : Observed) :
    ∀ ev ∈ req.captureEvents none o, ev.userId = some "unknown" ∧
      ∀ d ∈ ev.details, ∀ m ∈ d.metadata, ∀ u, m.get? "userContext" = some u →
        u = .record [("userId", .null), ("email", .null), ("role", .null)] := by
  intro ev hev
  unfold HttpRequest.captureEvents at hev
  split_ifs at hev with hwatched hhigh
  · cases hev
  · simp only [List.mem_cons, List.not_mem_nil, or_false] at hev
    rcases hev with rfl | rfl
    · refine ⟨rfl, ?_⟩
      simp [HttpRequest.accessEvent, Record.get?]
    · refine ⟨rfl, ?_⟩
      simp [HttpRequest.reviewEvent, Record.get?, Actor.snapshot]
  · simp only [List.mem_singleton] at hev
    subst hev
    refine ⟨rfl, ?_⟩
    simp [HttpRequest.accessEvent, Record.get?]

/-- A request to an administrative endpoint without `X-Role: admin` is answered 403 whatever its
parameters, and handling it only writes its access records, which name no administrator. -/
theorem admin_guard_precedes_effects (sv : Service) (req : HttpRequest) {e : Endpoint}
    (hroute : Dispatch.ofRequest req.method req.path = .serve e) (he : e ∈ Endpoint.administrative)
    (hrole : (req.headers.get? "X-Role").getD "" ≠ "admin") :
    (Service.handle req sv).1 = Response.detail 403 "Admin privileges required" ∧
      (Service.handle req sv).2 =
        (Service.capture req none (Observed.ofResponse Response.forbidden) sv).2 ∧
      (∀ ev ∈ req.captureEvents none (Observed.ofResponse Response.forbidden),
        ev.userId = some "unknown" ∧
        ∀ d ∈ ev.details, ∀ m ∈ d.metadata, ∀ u, m.get? "userContext" = some u →
          u = .record [("userId", .null), ("email", .null), ("role", .null)]) ∧
      ∃ filed : List (Event × Nat),
        (filed.map Prod.fst).Sublist (req.captureEvents none (Observed.ofResponse Response.forbidden)) ∧
        (Service.handle req sv).2.db.coll.entries =
          sv.db.coll.entries ++ filed.map (fun p => p.1.entry sv.clock p.2) := by
  have hhandle := Service.handle_of_refused sv hroute he hrole
  obtain ⟨-, -, -, filed, hsub, hentries⟩ := Service.forM_store
    (req.captureEvents none (Observed.ofResponse Response.forbidden)) sv
  refine ⟨by rw [hhandle]; rfl, by rw [hhandle], req.captureEvents_unattributed _,
    filed, hsub, ?_⟩
  rw [hhandle]
  exact hentries

def staleEvent : Service where
  db := { coll := { entries := [(.objectId 1, [("_id", .objectId 1), ("level", .str "info"),
    ("action", .str "login"), ("message", .str "a"),
    ("createdAt", .stamp ⟨1577836800000000, none⟩)])], nextId := 2 } }
  clock := ⟨1717200000000000, none⟩

def userCleanup : HttpRequest where
  method := "DELETE"
  path := "/admin/logs/cleanup"
  query := [("ageThresholdDays", "1")]
  headers := [("X-Role", "user"), ("X-User-Id", "u-7")]
  host := "testserver"

theorem user_cleanup_refused :
    Dispatch.ofRequest userCleanup.method userCleanup.path = .serve .cleanup ∧
      Endpoint.cleanup ∈ Endpoint.administrative ∧
      (userCleanup.headers.get? "X-Role").getD "" ≠ "admin" ∧
      (Service.handle userCleanup staleEvent).1 = Response.detail 403 "Admin privileges required" ∧
      (Service.handle userCleanup staleEvent).2 =
        (Service.capture userCleanup none (Observed.ofResponse Response.forbidden) staleEvent).2 ∧
      (∀ ev ∈ userCleanup.captureEvents none (Observed.ofResponse Response.forbidden),
        ev.userId = some "unknown" ∧
        ∀ d ∈ ev.details, ∀ m ∈ d.metadata, ∀ u, m.get? "userContext" = some u →
          u = .record [("userId", .null), ("email", .null), ("role", .null)]) ∧
      ∃ filed : List (Event × Nat),
        (filed.map Prod.fst).Sublist
          (userCleanup.captureEvents none (Observed.ofResponse Response.forbidden)) ∧
        (Service.handle userCleanup staleEvent).2.db.coll.entries =
          staleEvent.db.coll.entries ++ filed.map (fun p => p.1.entry staleEvent.clock p.2) := by
  have hroute : Dispatch.ofRequest userCleanup.method userCleanup.path = .serve .cleanup := by
    decide
  have hrole : (userCleanup.headers.get? "X-Role").getD "" ≠ "admin" := by decide
  exact ⟨hroute, by decide, hrole,
    admin_guard_precedes_effects staleEvent userCleanup hroute (by decide) hrole⟩

end AuditTrail
