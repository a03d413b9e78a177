import AuditTrail.Proofs.ReadOnlyWork
import AuditTrail.Proofs.EventStore

/-!
# Writing events

Writing an event is one insert of its document stamped with the clock; writing events one by one
files some of them, in order, and changes nothing else (`Service.forM_store`).
-/

namespace AuditTrail

/-- The entry an event's document is filed as when stamped at `t` under counter value `n`. -/
def Event.entry (e : Event) (t : Stamp) (n : Nat) : Value × Record :=
  (Collection.autoId n, Value.storedFields (("_id", Collection.autoId n) :: e.toDocument t))

namespace Db

theorem write_state {α : Type} (m : StoreMethod) (op : Collection → Collection × Except Failure α)
    (db : Db) : ∃ plans, (Db.write m op db).2 = { db with plans } ∨
      (Db.write m op db).2 = { db with plans, coll := (op db.coll).1 } := by
  obtain ⟨plans, hatt⟩ := attempt_fst db m
  refine ⟨plans, ?_⟩
  unfold Db.write
  rcases hA : db.attempt m with ⟨db', f⟩
  rw [hA] at hatt
  cases hatt
  cases f with
  | some f => exact .inl rfl
  | none => exact .inr rfl

end Db

namespace Service

theorem store_eq (e : Event) (sv : Service) :
    Service.store e sv = ((), { sv with db :=
      (Db.write .insertOne (fun c => c.insert (e.toDocument sv.clock)) sv.db).2 }) := by
  unfold Service.store Service.insertDoc Service.insertRaw Service.onDb
  simp only [Event.toDocument_erase_ids]
  rfl

theorem store_entries (e : Event) (sv : Service) :
    (Service.store e sv).2.clock = sv.clock ∧
      (Service.store e sv).2.db.queue = sv.db.queue ∧
      (Service.store e sv).2.db.gatherings = sv.db.gatherings ∧
      ((Service.store e sv).2.db.coll.entries = sv.db.coll.entries ∨
        ∃ n, (Service.store e sv).2.db.coll.entries =
          sv.db.coll.entries ++ [e.entry sv.clock n]) := by
  rw [store_eq]
  obtain ⟨plans, hw | hw⟩ := Db.write_state .insertOne
    (fun c => c.insert (e.toDocument sv.clock)) sv.db
  · rw [hw]
    exact ⟨rfl, rfl, rfl, .inl rfl⟩
  · rw [hw]
    refine ⟨rfl, rfl, rfl, ?_⟩
    rcases sv.db.coll.insert_entries_of_no_id (e.get?_id_toDocument sv.clock) with hsame | ⟨-, -, hnew⟩
    · exact .inl hsame
    · exact .inr ⟨sv.db.coll.nextId, hnew⟩

/-- Writing events one by one files some of them, in order, each under a counter id: the
collection gains their entries after its own and nothing else, and the clock, the work in flight
and the gatherings stay. -/
theorem forM_store (evs : List Event) (sv : Service) :
    (evs.forM Service.store sv).2.clock = sv.clock ∧
      (evs.forM Service.store sv).2.db.queue = sv.db.queue ∧
      (evs.forM Service.store sv).2.db.gatherings = sv.db.gatherings ∧
      ∃ filed : List (Event × Nat), (filed.map Prod.fst).Sublist evs ∧
        (evs.forM Service.store sv).2.db.coll.entries =
          sv.db.coll.entries ++ filed.map (fun p => p.1.entry sv.clock p.2) := by
  induction evs generalizing sv with
  | nil => exact ⟨rfl, rfl, rfl, [], List.Sublist.slnil, by simp [List.forM_nil]; rfl⟩
  | cons e es ih =>
    have hrun : (List.forM (e :: es) Service.store) sv =
        (es.forM Service.store) (Service.store e sv).2 := rfl
    obtain ⟨hclock, hqueue, hgath, hfirst⟩ := store_entries e sv
    obtain ⟨hclock', hqueue', hgath', filed, hsub, hentries⟩ := ih (Service.store e sv).2
    rw [hclock] at hentries
    rw [hrun]
    refine ⟨hclock'.trans hclock, hqueue'.trans hqueue, hgath'.trans hgath, ?_⟩
    rcases hfirst with hsame | ⟨n, hnew⟩
    · exact ⟨filed, hsub.cons e, by rw [hentries, hsame]⟩
    · refine ⟨(e, n) :: filed, hsub.cons_cons e, ?_⟩
      rw [hentries, hnew, List.map_cons, List.append_assoc, List.singleton_append]

end Service

end AuditTrail
