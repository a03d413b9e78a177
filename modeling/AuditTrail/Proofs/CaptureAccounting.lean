import AuditTrail.Proofs.EventWrites

/-!
# The records a request leaves

With no insert fault planned, writing the records inserts each document in turn; when the store
takes them all, the collection gains exactly their entries under consecutive ids.
-/

namespace AuditTrail

namespace Collection

def insertAll (c : Collection) (docs : List Record) : Collection :=
  docs.foldl (fun c d => (c.insert d).1) c

@[simp] theorem insertAll_nil (c : Collection) : c.insertAll [] = c := rfl

@[simp] theorem insertAll_cons (c : Collection) (d : Record) (ds : List Record) :
    c.insertAll (d :: ds) = (c.insert d).1.insertAll ds := rfl

/-- The store takes each of the documents in turn: every insert answers an id. -/
def TakesAll : Collection → List Record → Prop
  | _, [] => True
  | c, d :: ds => (∃ i, (c.insert d).2 = .ok i) ∧ TakesAll (c.insert d).1 ds

theorem insertAll_events (evs : List Event) (t : Stamp) (c : Collection)
    (h : c.TakesAll (evs.map (·.toDocument t))) :
    (c.insertAll (evs.map (·.toDocument t))).entries =
      c.entries ++ evs.mapIdx (fun k e => e.entry t (c.nextId + k)) := by
  induction evs generalizing c with
  | nil => simp
  | cons e es ih =>
    obtain ⟨⟨i, hi⟩, hrest⟩ := h
    have hins : c.insert (e.toDocument t) = ((c.insert (e.toDocument t)).1, .ok i) := by
      rw [← hi]
    obtain ⟨rfl, hc⟩ := insert_eq_ok_of_no_id (e.get?_id_toDocument t) hins
    rw [List.map_cons, insertAll_cons, ih _ hrest, hc]
    simp [List.mapIdx_cons, Event.entry, Nat.add_assoc, Nat.add_comm 1]

end Collection

namespace Service

open Collection

theorem store_of_insertsPass (e : Event) {sv : Service} (h : Db.InsertsPass sv.db.plans) :
    store e sv = ((), { sv with db := { sv.db with
      coll := (sv.db.coll.insert (e.toDocument sv.clock)).1 } }) := by
  rw [store_eq]
  unfold Db.write
  rw [Db.attempt_insertOne h]

theorem forM_store_of_insertsPass (evs : List Event) (sv : Service) (h : Db.InsertsPass sv.db.plans) :
    evs.forM store sv = ((), { sv with db := { sv.db with
      coll := sv.db.coll.insertAll (evs.map (·.toDocument sv.clock)) } }) := by
  induction evs generalizing sv with
  | nil => rfl
  | cons e es ih =>
    have hrun : (List.forM (e :: es) store) sv = (es.forM store) (store e sv).2 := rfl
    rw [hrun, store_of_insertsPass e h]
    dsimp only
    rw [ih { sv with db := { sv.db with coll := (sv.db.coll.insert (e.toDocument sv.clock)).1 } } h]
    rfl

/-! ### The answer -/

variable {req : HttpRequest}

theorem serve_actor (e : Endpoint) (sv : Service) {a : Actor} (h : (serve req e sv).1.1 = some a) :
    e.openAnswer? = none ∧ Actor.ofHeaders req.headers = .ok a := by
  unfold serve at h
  cases hopen : e.openAnswer? with
  | some r =>
    rw [hopen] at h
    cases h
  | none =>
    rw [hopen] at h
    cases ha : Actor.ofHeaders req.headers with
    | error f =>
      rw [ha] at h
      cases h
    | ok a' =>
      rw [ha] at h
      dsimp only at h
      rw [Db.bind_apply] at h
      cases h
      exact ⟨rfl, rfl⟩

theorem serve_actor_of_guard {e : Endpoint} (sv : Service) {a : Actor} (he : e.openAnswer? = none)
    (ha : Actor.ofHeaders req.headers = .ok a) : (serve req e sv).1.1 = some a := by
  unfold serve
  rw [he, ha]
  rfl

theorem respond_observed (sv : Service) :
    (respond req sv).1.2.2 = Observed.ofResponse (respond req sv).1.1 ∨
      ((respond req sv).1.1 = Response.internalError ∧ (respond req sv).1.2.2 = Observed.crashed) := by
  unfold respond
  rcases Dispatch.ofRequest req.method req.path with e | _ | path | _
  · dsimp only
    rw [Db.bind_apply]
    rcases serve req e sv with ⟨⟨actor, f | resp⟩, sv'⟩
    · dsimp only
      rcases Response.ofFailure? f with _ | resp
      · exact .inr ⟨rfl, rfl⟩
      · exact .inl rfl
    · exact .inl rfl
  all_goals exact .inl rfl

/-- The records name an administrator exactly when the request went to a guarded endpoint and
the guard let that administrator through. -/
theorem respond_actor (sv : Service) (a : Actor) :
    (respond req sv).1.2.1 = some a ↔ ∃ e, Dispatch.ofRequest req.method req.path = .serve e ∧
      e.openAnswer? = none ∧ Actor.ofHeaders req.headers = .ok a := by
  unfold respond
  rcases hroute : Dispatch.ofRequest req.method req.path with e | _ | path | _
  · dsimp only
    rw [Db.bind_apply]
    have hserved : ∀ r : Response × Option Actor × Observed,
        (r.2.1 = (serve req e sv).1.1) → (r.2.1 = some a ↔ (serve req e sv).1.1 = some a) :=
      fun r hr => by rw [hr]
    rw [hserved]
    · constructor
      · intro h
        exact ⟨e, rfl, serve_actor e sv h⟩
      · rintro ⟨e', he', hopen, ha⟩
        cases he'
        exact serve_actor_of_guard sv hopen ha
    · rcases serve req e sv with ⟨⟨actor, f | resp⟩, sv'⟩
      · dsimp only
        rcases Response.ofFailure? f with _ | resp <;> rfl
      · rfl
  all_goals
    constructor
    · intro h
      cases h
    · rintro ⟨e, he, -⟩
      cases he

theorem handle_of_preflight (sv : Service) {r : Response} (h : Response.preflight? req = some r) :
    handle req sv = (r, sv) := by
  unfold handle
  rw [h]
  rfl

theorem handle_of_not_preflight (sv : Service) (h : Response.preflight? req = none) :
    handle req sv = ((respond req sv).1.1,
      (capture req (respond req sv).1.2.1 (respond req sv).1.2.2 (respond req sv).2).2) := by
  unfold handle
  rw [h]
  dsimp only
  rw [Db.bind_apply]
  rfl

/-! ### What the endpoint leaves -/

namespace Keeps

variable {R : Change}

theorem serve_of (e : Endpoint) (h : ∀ a, Keeps R (Service.answer a req.query e).run) :
    Keeps R (serve req e) := by
  unfold Service.serve
  split
  · exact pure _
  · split
    · exact pure _
    · exact bind (h _) fun r => pure _

theorem respond_of
    (h : ∀ e, Dispatch.ofRequest req.method req.path = .serve e → ∀ a, Keeps R (Service.answer a req.query e).run) :
    Keeps R (respond req) := by
  unfold Service.respond
  split
  · rename_i e he
    refine bind (serve_of e (h e he)) fun ⟨actor, r⟩ => ?_
    dsimp only
    split
    · exact pure _
    · split <;> exact pure _
  all_goals exact pure _

theorem respond (req : HttpRequest) : Keeps .deletes (Service.respond req) :=
  respond_of fun e _ a => if he : e = .cleanup then he ▸ answer_cleanup a _ else answer a _ he

theorem respond_of_not_cleanup (h : Dispatch.ofRequest req.method req.path ≠ .serve .cleanup) :
    Keeps .none (Service.respond req) :=
  respond_of fun _ he a => answer a _ fun hc => h (hc ▸ he)

end Keeps

end Service

open Collection in
/-- What a request leaves in a steady store: the collection its endpoint left, with the
documents of its records (`HttpRequest.captureEvents`) inserted in turn, which name the
administrator the guard let through and record the answer. -/
theorem handle_access_records (req : HttpRequest) (sv : Service) (hsv : sv.db.Steady) :
    (∀ r, Response.preflight? req = some r → Service.handle req sv = (r, sv)) ∧
    (Response.preflight? req = none →
      ∃ (c : Collection) (actor : Option Actor) (o : Observed),
        sv.db.coll.Deletes c ∧
        (Dispatch.ofRequest req.method req.path ≠ .serve .cleanup → c = sv.db.coll) ∧
        (o = Observed.ofResponse (Service.handle req sv).1 ∨
          ((Service.handle req sv).1 = Response.internalError ∧ o = Observed.crashed)) ∧
        (∀ a, actor = some a ↔ ∃ e, Dispatch.ofRequest req.method req.path = .serve e ∧
          e.openAnswer? = none ∧ Actor.ofHeaders req.headers = .ok a) ∧
        (Service.handle req sv).2.clock = sv.clock ∧ (Service.handle req sv).2.db.Steady ∧
        (Service.handle req sv).2.db.coll =
          c.insertAll ((req.captureEvents actor o).map (·.toDocument sv.clock)) ∧
        (c.TakesAll ((req.captureEvents actor o).map (·.toDocument sv.clock)) →
          (Service.handle req sv).2.db.coll.entries =
            c.entries ++ (req.captureEvents actor o).mapIdx (fun k e => e.entry sv.clock (c.nextId + k)))) := by
  refine ⟨fun r hr => Service.handle_of_preflight sv hr, fun hpre => ?_⟩
  obtain ⟨hsteady, hdel, hclock⟩ := Service.Keeps.respond req sv hsv
  have hcapture := Service.forM_store_of_insertsPass
    (req.captureEvents (Service.respond req sv).1.2.1 (Service.respond req sv).1.2.2)
    (Service.respond req sv).2 hsteady.inserts
  rw [hclock] at hcapture
  rw [Service.handle_of_not_preflight sv hpre]
  unfold Service.capture
  rw [hcapture]
  refine ⟨(Service.respond req sv).2.db.coll, (Service.respond req sv).1.2.1,
    (Service.respond req sv).1.2.2, hdel, fun hroute => ?_, Service.respond_observed sv,
    Service.respond_actor sv, rfl, ⟨hsteady.queue, hsteady.inserts⟩, rfl,
    insertAll_events _ _ _⟩
  exact (((Service.Keeps.respond_of_not_cleanup hroute) sv hsv).2.1).symm

def quietService : Service where
  clock := ⟨1718452800000000, none⟩

def adminListing : HttpRequest where
  method := "GET"
  path := "/admin/logs"
  headers := [("X-Role", "admin"), ("X-User-Id", "a1")]
  host := "testserver"

theorem admin_listing_records :
    (Service.handle adminListing quietService).2.clock = quietService.clock ∧
      ∃ c actor o, quietService.db.coll.Deletes c ∧ actor = some ⟨"a1", none, "admin"⟩ ∧
        (Service.handle adminListing quietService).2.db.coll =
          c.insertAll ((adminListing.captureEvents actor o).map (·.toDocument quietService.clock)) := by
  obtain ⟨-, hrest⟩ := handle_access_records adminListing quietService ⟨nofun, nofun⟩
  obtain ⟨c, actor, o, hc, -, -, hactor, hclock, -, hcoll, -⟩ := hrest rfl
  exact ⟨hclock, c, actor, o, hc, (hactor _).2 ⟨.listLogs, rfl, rfl, rfl⟩, hcoll⟩

def adminPreflight : HttpRequest where
  method := "OPTIONS"
  path := "/admin/logs"
  headers := [("Origin", "http://localhost:5173"), ("Access-Control-Request-Method", "GET")]
  host := "testserver"

/-- A preflight request on the log's path is answered and leaves no access record. -/
theorem preflight_leaves_no_record :
    isWatched adminPreflight.urlPath = true ∧
      Service.handle adminPreflight quietService = (Response.plain 200 "OK", quietService) :=
  ⟨by decide +kernel, Service.handle_of_preflight quietService rfl⟩

end AuditTrail
