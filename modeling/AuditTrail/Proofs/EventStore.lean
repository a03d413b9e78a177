import AuditTrail.Proofs.StoredEvents
import AuditTrail.Proofs.EncodedText
import AuditTrail.Proofs.AccessRecords

/-!
# A collection of stored events

`Collection.OfEvents`: every document is a stored event (`StoredEvent`) and no two share an id.
Inserting an event's document and deleting documents keep it so.
-/

namespace AuditTrail

namespace Record

def Apart (extra : Record) (fields : List (String × String)) : Prop :=
  ∀ p ∈ extra, ∀ f ∈ fields, p.1 ≠ f.1

theorem get?_isSome_of_mem {r : Record} {p : String × Value} (hp : p ∈ r) : (r.get? p.1).isSome := by
  unfold get?
  rw [Option.isSome_map, List.find?_isSome]
  exact ⟨p, hp, by simp⟩

theorem mem_of_get? {r : Record} {k : String} {v : Value} (h : r.get? k = some v) : (k, v) ∈ r := by
  unfold get? at h
  obtain ⟨p, hp, rfl⟩ := Option.map_eq_some_iff.1 h
  have hk : p.1 = k := by simpa using List.find?_some hp
  exact hk ▸ List.mem_of_find?_eq_some hp

theorem get?_eq_none_of_apart {extra : Record} {fields : List (String × String)}
    (h : extra.Apart fields) : ∀ k ∈ fields.map Prod.fst, (nonNull extra).get? k = none := by
  intro k hk
  obtain ⟨f, hf, rfl⟩ := List.mem_map.1 hk
  simp only [get?, Option.map_eq_none_iff, List.find?_eq_none, beq_iff_eq]
  intro p hp
  exact h p (List.mem_of_mem_filter hp) f hf

end Record

theorem Form.rest_apart (r : Record) (fields : List (String × String)) :
    (Form.rest r fields).Apart fields := by
  intro p hp f hf hpf
  simp only [Form.rest, List.mem_filter, Bool.not_eq_true'] at hp
  obtain ⟨v, hv⟩ := Option.isSome_iff_exists.1 (Record.get?_isSome_of_mem hp.1)
  have htaken : (Form.lookup r f.1 f.2).map (·.1) = some f.1 := by
    rw [hpf] at hv
    simp [Form.lookup, hv]
  have hmem : p.1 ∈ fields.filterMap (fun f => (Form.lookup r f.1 f.2).map (·.1)) :=
    List.mem_filterMap.2 ⟨f, hf, by rw [htaken, hpf]⟩
  simp [hmem] at hp

theorem Form.extras_apart {r x : Record} {fields : List (String × String)}
    (h : Form.extras r fields = .ok x) : x.Apart fields := by
  unfold Form.extras at h
  dsimp only at h
  split at h
  · cases h
  · cases h
    exact Form.rest_apart r fields

theorem Details.read_apart {fs : Record} {d : Details} (h : Details.read fs = .ok d) :
    d.extra.Apart Details.fieldNames := by
  simp only [Details.read, bind_eq_ok] at h
  obtain ⟨_, -, _, -, _, -, _, -, _, -, _, -, x, hx, hd⟩ := h
  cases hd
  exact Form.extras_apart hx

theorem Context.read_apart {fs : Record} {c : Context} (h : Context.read fs = .ok c) :
    c.extra.Apart Context.fieldNames := by
  simp only [Context.read, bind_eq_ok] at h
  obtain ⟨_, -, _, -, _, -, _, -, _, -, _, -, _, -, x, hx, hc⟩ := h
  cases hc
  exact Form.extras_apart hx

/-- The extra entries of an event's details and context keep apart from their declared
fields. -/
structure Event.ExtrasApart (e : Event) : Prop where
  details : ∀ d ∈ e.details, d.extra.Apart Details.fieldNames
  context : ∀ c ∈ e.context, c.extra.Apart Context.fieldNames

theorem Event.receive_extrasApart {level action message userId resource resourceId details
    context : Value} {e : Event}
    (he : Event.receive level action message userId resource resourceId details context = .ok e) :
    e.ExtrasApart := by
  simp only [Event.receive, mapError_eq_ok, Event.check, bind_eq_ok] at he
  obtain ⟨_, -, _, -, _, -, he⟩ := he
  split at he
  all_goals
    simp only [bind_eq_ok] at he
    obtain ⟨_, -, d, hd, c, hc, he⟩ := he
    cases he
    constructor
    · intro d' hd'
      obtain rfl : d = some d' := hd'
      obtain ⟨fs, hfs⟩ := Event.partField_eq_some hd
      exact Details.read_apart hfs
    · intro c' hc'
      obtain rfl : c = some c' := hc'
      obtain ⟨fs, hfs⟩ := Event.partField_eq_some hc
      exact Context.read_apart hfs

namespace HttpRequest

variable (req : HttpRequest) (actor : Option Actor) (o : Observed)

theorem accessEvent_extrasApart : (req.accessEvent actor o).ExtrasApart where
  details d hd := by
    simp only [accessEvent, Option.mem_def, Option.some.injEq] at hd
    subst hd
    simp [Record.Apart]
  context c hc := by
    simp only [accessEvent, Option.mem_def, Option.some.injEq] at hc
    subst hc
    simp [Record.Apart, Context.fieldNames]

theorem reviewEvent_extrasApart : (req.reviewEvent actor o).ExtrasApart where
  details d hd := by
    simp only [reviewEvent, Option.mem_def, Option.some.injEq] at hd
    subst hd
    simp [Record.Apart]
  context c hc := by
    simp only [reviewEvent, Option.mem_def, Option.some.injEq] at hc
    subst hc
    simp [Record.Apart, Context.fieldNames]

theorem captureEvents_extrasApart : ∀ e ∈ req.captureEvents actor o, e.ExtrasApart := by
  unfold captureEvents
  split_ifs <;> simp [accessEvent_extrasApart, reviewEvent_extrasApart]

end HttpRequest

namespace Value

theorem encodeProblem?_str {s : String} :
    encodeProblem? (.str s) = none ↔ Surrogate.occursIn s = false := by
  rw [← utf8Refusal?_eq_none_iff]
  simp [encodeProblem?]

theorem encodeProblem?_int {n : Int} : encodeProblem? (.int n) = none ↔ fitsEightBytes n = true := by
  simp [encodeProblem?]

theorem encodeProblem?_of_mem {fs : Record} (h : fieldsEncodeProblem? fs = none) :
    ∀ p ∈ fs, encodeProblem? p.2 = none := by
  induction fs with
  | nil => simp
  | cons q fs ih =>
    obtain ⟨k, x⟩ := q
    unfold fieldsEncodeProblem? at h
    split at h
    · cases h
    · split at h
      · cases h
      · cases hx : encodeProblem? x with
        | some _ => simp [hx] at h
        | none =>
          simp only [hx, Option.orElse_none] at h
          simpa [hx] using ih h

end Value

theorem Collection.fieldsEncodeProblem?_of_refusal? {doc : Record} (h : Collection.refusal? doc = none) :
    Value.fieldsEncodeProblem? (doc.erase "_id") = none := by
  unfold Collection.refusal? at h
  split at h
  · cases h
  · split at h
    · cases h
    · simp only [Option.map_eq_none_iff, Option.orElse_eq_or, Option.or_eq_none_iff] at h
      exact h.2

/-- The stored document of an event stamped at `t` and filed under object id `n`, whose extras
keep apart and whose encoding the store accepted. -/
inductive StoredEvent : Value × Record → Prop where
  | mk (e : Event) (t : Stamp) (n : Nat) (apart : e.ExtrasApart)
      (accepted : Collection.refusal? (e.toDocument t) = none) (small : n < 16777216) :
      StoredEvent (.objectId n, Value.storedFields (("_id", .objectId n) :: e.toDocument t))

namespace Collection

/-- Every document is a stored event, and no two share an id. -/
structure OfEvents (c : Collection) : Prop where
  events : ∀ p ∈ c.entries, StoredEvent p
  keys : (c.entries.map Prod.fst).Nodup

theorem ofEvents_empty : ({} : Collection).OfEvents := ⟨nofun, List.nodup_nil⟩

/-- The outcomes of inserting a document without an id: nothing is filed, or the document is
filed under the next counter id, which no stored document has. -/
theorem insert_entries_of_no_id (c : Collection) {doc : Record} (hdoc : doc.get? "_id" = none) :
    (c.insert doc).1.entries = c.entries ∨
      (refusal? doc = none ∧ autoId c.nextId ∉ c.entries.map Prod.fst ∧
        (c.insert doc).1.entries =
          c.entries ++ [(autoId c.nextId, Value.storedFields (("_id", autoId c.nextId) :: doc))]) := by
  unfold insert
  split
  · exact Or.inl rfl
  · rename_i hr
    rw [hdoc]
    simp only [Record.get?_cons, if_true, Option.getD_some]
    have hkey : (autoId c.nextId).idProblem? = none := rfl
    rw [hkey]
    dsimp only
    split
    · exact Or.inl rfl
    · rename_i hdup
      refine Or.inr ⟨?_, fun hmem => hdup ?_, rfl⟩
      · cases hf : refusal? doc with
        | none => rfl
        | some f => exact absurd hf (hr f)
      · -- an id the store files is equal to itself
        obtain ⟨p, hp, hpk⟩ := List.mem_map.1 hmem
        exact List.any_eq_true.2 ⟨p, hp, by simp [hpk, autoId, Value.sameEq, Value.looseEq]⟩

/-- Inserting an event's document keeps a collection of stored events, whatever the outcome. -/
theorem OfEvents.insert_event {c : Collection} (h : c.OfEvents) {e : Event} (he : e.ExtrasApart)
    (t : Stamp) : (c.insert (((e.toDocument t).erase "_id").erase "id")).1.OfEvents := by
  -- the document brings no id of its own, so the repository's erasures change nothing
  rw [Record.erase_of_get?_eq_none (e.get?_id_toDocument t),
    Record.erase_of_get?_eq_none (e.get?_aliasId_toDocument t)]
  rcases c.insert_entries_of_no_id (e.get?_id_toDocument t) with hsame | ⟨hacc, hfresh, hnew⟩
  · exact ⟨hsame ▸ h.events, hsame ▸ h.keys⟩
  · refine ⟨fun p hp => ?_, ?_⟩
    · rw [hnew] at hp
      rcases List.mem_append.1 hp with hp | hp
      · exact h.events p hp
      · rw [List.mem_singleton.1 hp]
        exact .mk e t _ he hacc (Nat.mod_lt _ (by decide))
    · rw [hnew, List.map_append, List.nodup_append]
      refine ⟨h.keys, List.nodup_singleton _, fun k hk k' hk' hkk' => ?_⟩
      rw [List.map_singleton, List.mem_singleton] at hk'
      rw [hkk', hk'] at hk
      exact hfresh hk

theorem OfEvents.of_deletes {c c' : Collection} (h : c.OfEvents) (hd : c.Deletes c') :
    c'.OfEvents :=
  ⟨fun p hp => h.events p (hd.1.subset hp), (hd.1.map Prod.fst).nodup h.keys⟩

theorem OfEvents.size_le {c : Collection} (h : c.OfEvents) : c.size ≤ 16777216 := by
  have hsub : c.entries.map Prod.fst ⊆ (List.range 16777216).map Value.objectId := by
    intro k hk
    obtain ⟨p, hp, rfl⟩ := List.mem_map.1 hk
    obtain ⟨e, t, n, -, -, hn⟩ := h.events p hp
    exact List.mem_map.2 ⟨n, List.mem_range.2 hn, rfl⟩
  have hle := (h.keys.subperm hsub).length_le
  simpa [size] using hle

end Collection

end AuditTrail
