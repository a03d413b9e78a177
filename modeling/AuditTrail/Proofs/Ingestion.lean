import AuditTrail.Proofs.InsertFaults
import AuditTrail.Proofs.EventWrites
import AuditTrail.Proofs.StoredEvents

/-!
# Ingestion

A refused event fails before the store is touched; an accepted one is one insert of its document
stamped with the clock, whatever it answers (`ingestion_atomic`).
-/

namespace AuditTrail

namespace Db

variable {db : Db} {m : StoreMethod}

theorem openGathering_pair (db : Db) (works : List Work) (waiter : Waiter) :
    db.openGathering works waiter =
      ({ db with gatherings := db.gatherings.push ⟨works.length, 0, none, waiter⟩,
                 queue := db.queue ++ works.map (fun w => .step w (some db.gatherings.size)) },
        db.gatherings.size) := by
  rw [← openGathering_eq]
  rfl

theorem runUntilMain_of_runFront {db' : Db} (h : db.runFront = some db') (fuel : Nat) :
    runUntilMain (fuel + 1) db = runUntilMain fuel db' := by
  rw [runUntilMain, h]

theorem runUntilMain_resumeMain {rest : List Entry} (h : db.queue = .resumeMain :: rest)
    (fuel : Nat) : runUntilMain (fuel + 1) db = { db with queue := rest } := by
  simp only [runUntilMain, runFront, h, List.drop_succ_cons, List.drop_zero]

theorem attempt_with (db : Db) (m : StoreMethod) (q : List Entry) (gs : Array Gathering) :
    { db with queue := q, gatherings := gs }.attempt m =
      ({ (db.attempt m).1 with queue := q, gatherings := gs }, (db.attempt m).2) := by
  unfold attempt
  dsimp only
  split
  · split <;> rfl
  · rfl

theorem write_with {α : Type} (db : Db) (m : StoreMethod)
    (op : Collection → Collection × Except Failure α) (q : List Entry) (gs : Array Gathering) :
    Db.write m op { db with queue := q, gatherings := gs } =
      ((Db.write m op db).1, { (Db.write m op db).2 with queue := q, gatherings := gs }) := by
  unfold write
  rw [attempt_with]
  rcases db.attempt m with ⟨db', _ | f⟩ <;> rfl

theorem write_outcome {α : Type} (m : StoreMethod) (op : Collection → Collection × Except Failure α)
    (db : Db) : ∃ plans, (∃ f, Db.write m op db = (.error f, { db with plans })) ∨
      Db.write m op db = ((op db.coll).2, { db with plans, coll := (op db.coll).1 }) := by
  obtain ⟨plans, hatt⟩ := attempt_fst db m
  refine ⟨plans, ?_⟩
  unfold Db.write
  rcases hA : db.attempt m with ⟨db', f⟩
  rw [hA] at hatt
  cases hatt
  cases f with
  | some f => exact .inl ⟨f, rfl⟩
  | none => exact .inr rfl

theorem runWork_write (db : Db) (parent : Option Nat) {α : Type} (m : StoreMethod)
    (op : Collection → Collection × Except Failure α) :
    db.runWork parent (.write m (fun c => (op c).1)) = (Db.write m op db).2.finish parent false := by
  unfold runWork write
  dsimp only
  rcases db.attempt m with ⟨db', _ | f⟩ <;> rfl

theorem gather_write_idle (hidle : db.queue = []) {α : Type} (m : StoreMethod)
    (op : Collection → Collection × Except Failure α) :
    Db.gather [.write m (fun c => (op c).1)] db =
      (false, { (Db.write m op db).2 with
        queue := [],
        gatherings := (db.gatherings.push ⟨1, 0, none, .main⟩).setIfInBounds db.gatherings.size
          ⟨1, 1, some false, .main⟩ }) := by
  unfold Db.gather
  rw [openGathering_pair]
  dsimp only
  rw [hidle]
  simp only [List.nil_append, List.map_cons, List.map_nil, Db.fuel, Db.totalWeight, Entry.weight,
    List.length_singleton]
  rw [runUntilMain_of_runFront rfl]
  dsimp only
  rw [runWork_write, write_with]
  simp only [finish, enqueue, List.nil_append]
  rw [runUntilMain_of_runFront rfl]
  simp only [settle, Array.getElem?_push_size, Option.isSome_none, Bool.false_eq_true, if_false,
    Nat.zero_add, beq_self_eq_true, if_true, wake, enqueue, List.nil_append]
  rw [runUntilMain_resumeMain rfl]
  simp [failedGathering]

end Db

namespace Collection

variable {c : Collection} {doc : Record}

theorem entries_of_insert_error {c' : Collection} {f : Failure}
    (h : c.insert doc = (c', .error f)) : c'.entries = c.entries := by
  unfold insert at h
  split at h
  · cases h
    rfl
  · -- giving the document an id only moves the counter on, and every refusal after that keeps
    cases hid : doc.get? "_id" <;> simp only [hid] at h <;> split at h
    all_goals
      (try split_ifs at h)
      all_goals simp only [Prod.mk.injEq, reduceCtorEq, and_false] at h <;> rw [← h.1]

theorem insert_outcome (c : Collection) (hdoc : doc.get? "_id" = none) :
    (∃ f, (c.insert doc).2 = .error f ∧ (c.insert doc).1.entries = c.entries) ∨
      ((c.insert doc).2 = .ok (autoId c.nextId) ∧ autoId c.nextId ∉ c.entries.map Prod.fst ∧
        (c.insert doc).1.entries =
          c.entries ++ [(autoId c.nextId, Value.storedFields (("_id", autoId c.nextId) :: doc))]) := by
  rcases hc : c.insert doc with ⟨c', _ | i⟩
  · exact .inl ⟨_, rfl, entries_of_insert_error hc⟩
  · obtain ⟨rfl, rfl⟩ := insert_eq_ok_of_no_id hdoc hc
    refine .inr ⟨rfl, ?_, rfl⟩
    rcases c.insert_entries_of_no_id hdoc with hsame | ⟨-, hfresh, -⟩
    · -- the entries grew, so they are not the old ones
      rw [hc] at hsame
      simp at hsame
    · exact hfresh

end Collection

namespace Service

variable (level action message userId resource resourceId details context : Value) (sv : Service)

/-- The repository's insert is one call of the store's insert on the document without `_id`
and `id`: it fails and files nothing, or files it under the next counter id. -/
theorem insertDoc_spec (doc : Record) :
    (insertDoc doc sv).2.clock = sv.clock ∧ (insertDoc doc sv).2.db.queue = sv.db.queue ∧
      (insertDoc doc sv).2.db.gatherings = sv.db.gatherings ∧
      ((∃ f, (insertDoc doc sv).1 = .error f ∧
          (insertDoc doc sv).2.db.coll.entries = sv.db.coll.entries) ∨
        ((insertDoc doc sv).1 = .ok (Collection.autoId sv.db.coll.nextId) ∧
          Collection.autoId sv.db.coll.nextId ∉ sv.db.coll.entries.map Prod.fst ∧
          (insertDoc doc sv).2.db.coll.entries = sv.db.coll.entries ++
            [(Collection.autoId sv.db.coll.nextId, Value.storedFields
              (("_id", Collection.autoId sv.db.coll.nextId) :: (doc.erase "_id").erase "id"))])) := by
  have hid : ((doc.erase "_id").erase "id").get? "_id" = none := by
    rw [Record.get?_erase_ne _ (by decide), Record.get?_erase_self]
  unfold insertDoc insertRaw onDb
  obtain ⟨plans, ⟨f, hw⟩ | hw⟩ := Db.write_outcome .insertOne
    (fun c => c.insert ((doc.erase "_id").erase "id")) sv.db
  · rw [hw]
    exact ⟨rfl, rfl, rfl, .inl ⟨f, rfl, rfl⟩⟩
  · rw [hw]
    exact ⟨rfl, rfl, rfl, sv.db.coll.insert_outcome hid⟩

theorem receive_of_check {i : Issue}
    (h : Event.check level action message userId resource resourceId details context = .error i) :
    Event.receive level action message userId resource resourceId details context =
      .error (.invalidEvent ("invalid audit event: " ++ i.message)) := by
  unfold Event.receive
  rw [h]
  rfl

theorem record_of_refused {f : Failure}
    (h : Event.receive level action message userId resource resourceId details context = .error f) :
    record level action message userId resource resourceId details context sv = (.error f, sv) := by
  unfold record
  rw [h]
  rfl

theorem emit_of_refused {f : Failure}
    (h : Event.receive level action message userId resource resourceId details context = .error f) :
    emit level action message userId resource resourceId details context sv = (.error f, sv) := by
  unfold emit
  rw [h]
  rfl

theorem record_of_accepted {e : Event}
    (h : Event.receive level action message userId resource resourceId details context = .ok e) :
    record level action message userId resource resourceId details context sv =
      (.ok (), (insertDoc (e.toDocument sv.clock) sv).2) := by
  unfold record
  rw [h]
  dsimp only
  rw [Db.bind_apply, store_eq]
  unfold insertDoc insertRaw onDb
  rw [Event.toDocument_erase_ids]
  rfl

theorem emit_of_accepted_eq {e : Event}
    (h : Event.receive level action message userId resource resourceId details context = .ok e) :
    emit level action message userId resource resourceId details context sv =
      (.ok 1, { sv with db := (Db.gather [.write .insertOne
        (fun c => (c.insert (((e.toDocument sv.clock).erase "_id").erase "id")).1)] sv.db).2 }) := by
  unfold emit
  rw [h]
  rfl

theorem emit_of_accepted {e : Event}
    (h : Event.receive level action message userId resource resourceId details context = .ok e)
    (hidle : sv.db.queue = []) :
    (emit level action message userId resource resourceId details context sv).1 = .ok 1 ∧
      (emit level action message userId resource resourceId details context sv).2.clock = sv.clock ∧
      (emit level action message userId resource resourceId details context sv).2.db.queue = [] ∧
      (emit level action message userId resource resourceId details context sv).2.db.coll =
        (insertDoc (e.toDocument sv.clock) sv).2.db.coll ∧
      (emit level action message userId resource resourceId details context sv).2.db.plans =
        (insertDoc (e.toDocument sv.clock) sv).2.db.plans := by
  rw [emit_of_accepted_eq _ _ _ _ _ _ _ _ sv h, Db.gather_write_idle hidle .insertOne
    (fun c => c.insert (((e.toDocument sv.clock).erase "_id").erase "id"))]
  exact ⟨rfl, rfl, rfl, rfl, rfl⟩

end Service

/-- Ingestion is atomic and swallows store failures: a refused event changes nothing, an accepted
one is exactly one insert of its document, and an insert fault never changes a response. -/
theorem ingestion_atomic (level action message userId resource resourceId details context : Value)
    (sv : Service) :
    (∀ i, Event.check level action message userId resource resourceId details context = .error i →
      Service.record level action message userId resource resourceId details context sv =
          (.error (.invalidEvent ("invalid audit event: " ++ i.message)), sv) ∧
        Service.emit level action message userId resource resourceId details context sv =
          (.error (.invalidEvent ("invalid audit event: " ++ i.message)), sv)) ∧
    (∀ e, Event.receive level action message userId resource resourceId details context = .ok e →
      ∀ r sv', Service.insertDoc (e.toDocument sv.clock) sv = (r, sv') →
        Service.record level action message userId resource resourceId details context sv =
            (.ok (), sv') ∧
          sv'.clock = sv.clock ∧ sv'.db.queue = sv.db.queue ∧
          ((∃ f, r = .error f ∧ sv'.db.coll.entries = sv.db.coll.entries) ∨
            (r = .ok (Collection.autoId sv.db.coll.nextId) ∧
              Collection.autoId sv.db.coll.nextId ∉ sv.db.coll.entries.map Prod.fst ∧
              sv'.db.coll.entries = sv.db.coll.entries ++
                [(Collection.autoId sv.db.coll.nextId, Value.storedFields
                  (("_id", Collection.autoId sv.db.coll.nextId) :: e.toDocument sv.clock))])) ∧
          (sv.db.queue = [] →
            (Service.emit level action message userId resource resourceId details context sv).1 =
                .ok 1 ∧
              (Service.emit level action message userId resource resourceId details context
                sv).2.db.queue = [] ∧
              (Service.emit level action message userId resource resourceId details context
                sv).2.db.coll = sv'.db.coll)) ∧
    (∀ req p, sv.db.AvoidsInserts →
      (Service.handle req { sv with db := sv.db.arm .insertOne p }).1 = (Service.handle req sv).1) := by
  refine ⟨fun i hi => ?_, fun e he r sv' hw => ?_, fun req p h => Service.handle_arm_insert req h p⟩
  · have hrefused := Service.receive_of_check _ _ _ _ _ _ _ _ hi
    exact ⟨Service.record_of_refused _ _ _ _ _ _ _ _ sv hrefused,
      Service.emit_of_refused _ _ _ _ _ _ _ _ sv hrefused⟩
  · obtain ⟨hclock, hqueue, -, houtcome⟩ := Service.insertDoc_spec sv (e.toDocument sv.clock)
    rw [Event.toDocument_erase_ids, hw] at houtcome
    rw [hw] at hclock hqueue
    refine ⟨?_, hclock, hqueue, houtcome, fun hidle => ?_⟩
    · rw [Service.record_of_accepted _ _ _ _ _ _ _ _ sv he, hw]
    · obtain ⟨hok, -, hq, hcoll, -⟩ := Service.emit_of_accepted _ _ _ _ _ _ _ _ sv he hidle
      rw [hw] at hcoll
      exact ⟨hok, hq, hcoll⟩

def microClock : Service where
  clock := ⟨1718452800123456, none⟩

theorem sign_in_ingestion :
    Service.record (.str "info") (.str "login") (.str "signed in") (.str "u1") .null .null .null
        .null microClock =
      (.ok (), (Service.insertDoc (signInEvent.toDocument microClock.clock) microClock).2) ∧
    (Service.emit (.str "info") (.str "login") (.str "signed in") (.str "u1") .null .null .null
        .null microClock).2.db.coll =
      (Service.insertDoc (signInEvent.toDocument microClock.clock) microClock).2.db.coll ∧
    (∃ i, Event.check (.str "notice") (.str "login") (.str "signed in") .null .null .null .null
        .null = .error i ∧
      Service.record (.str "notice") (.str "login") (.str "signed in") .null .null .null .null
        .null microClock = (.error (.invalidEvent ("invalid audit event: " ++ i.message)), microClock)) ∧
    ∀ req p, (Service.handle req { microClock with db := microClock.db.arm .insertOne p }).1 =
      (Service.handle req microClock).1 := by
  obtain ⟨-, hacc, harm⟩ := ingestion_atomic (.str "info") (.str "login") (.str "signed in")
    (.str "u1") .null .null .null .null microClock
  obtain ⟨hrec, -, -, -, hemit⟩ := hacc signInEvent rfl _ _ rfl
  obtain ⟨hrefused, -, -⟩ := ingestion_atomic (.str "notice") (.str "login") (.str "signed in")
    .null .null .null .null .null microClock
  exact ⟨hrec, (hemit rfl).2.2, ⟨_, rfl, (hrefused _ rfl).1⟩,
    fun req p => harm req p nofun⟩

/-- The store keeps the clock reading cut to the millisecond: the document `record` files is
not the event's document as stamped, whose `createdAt` is the clock itself. -/
theorem record_cuts_clock_to_millis :
    (signInEvent.toDocument microClock.clock).get? "createdAt" =
        some (.stamp ⟨1718452800123456, none⟩) ∧
      (Service.record (.str "info") (.str "login") (.str "signed in") (.str "u1") .null .null .null
        .null microClock).2.db.coll.docs.map (·.get? "createdAt") =
        [some (.stamp ⟨1718452800123000, none⟩)] := by
  have hins : (Service.insertDoc (signInEvent.toDocument microClock.clock) microClock).1 =
      .ok (.objectId 1) := by
    unfold Service.insertDoc Service.insertRaw Service.onDb
    rw [Event.toDocument_erase_ids]
    unfold Db.write Collection.insert
    rw [signInEvent_refusal]
    rfl
  obtain ⟨-, -, -, hout⟩ := Service.insertDoc_spec microClock (signInEvent.toDocument microClock.clock)
  rw [Event.toDocument_erase_ids, hins] at hout
  rcases hout with ⟨f, hf, -⟩ | ⟨-, -, hentries⟩
  · cases hf
  · refine ⟨rfl, ?_⟩
    rw [Service.record_of_accepted _ _ _ _ _ _ _ _ microClock receive_signIn]
    unfold Collection.docs
    rw [hentries]
    rfl

end AuditTrail
