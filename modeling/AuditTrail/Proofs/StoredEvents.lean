import Mathlib
import AuditTrail.Proofs.EventFields
import AuditTrail.Store.Collection
import AuditTrail.Event.Build

/-!
# Stored events read back

The document of an accepted event, as the store files it, reads back as the event with its
assigned id and stored stamps (`EventView.ofDocument_storedEvent`).
-/

namespace AuditTrail

namespace Record

@[simp] theorem get?_cons (r : Record) (k k' : String) (v : Value) :
    get? ((k', v) :: r) k = if k' = k then some v else get? r k := by
  by_cases h : k' = k <;> simp [get?, h]

theorem get?_append (r s : Record) (k : String) : (r ++ s).get? k = (r.get? k).or (s.get? k) := by
  unfold get?
  rw [List.find?_append]
  cases r.find? (·.1 == k) <;> rfl

@[simp] theorem get?_set_self (r : Record) (k : String) (v : Value) : (r.set k v).get? k = some v := by
  unfold set
  split
  · -- in place: the first field named `k` is the one replaced
    rename_i hk
    unfold get?
    have hkeys : ((·.1 == k) ∘ fun p : String × Value => if p.1 == k then (k, v) else p) =
        (·.1 == k) := by
      funext p
      by_cases hp : p.1 = k <;> simp [hp]
    rw [List.find?_map, hkeys]
    obtain ⟨q, hq⟩ : ∃ q, r.find? (·.1 == k) = some q := by
      apply Option.isSome_iff_exists.1
      rw [List.find?_isSome]
      simpa [contains, List.any_eq_true] using hk
    have hqk : q.1 = k := by simpa using List.find?_some hq
    simp [hq, hqk]
  · -- at the end: no earlier field is named `k`
    rename_i hk
    have hnone : r.get? k = none := by
      simp only [get?, Option.map_eq_none_iff, List.find?_eq_none]
      intro p hp hpk
      exact hk (List.any_eq_true.2 ⟨p, hp, hpk⟩)
    rw [get?_append, hnone]
    simp

theorem erase_of_get?_eq_none {r : Record} {k : String} (h : r.get? k = none) : r.erase k = r := by
  unfold erase
  rw [List.filter_eq_self]
  intro p hp
  simp only [get?, Option.map_eq_none_iff, List.find?_eq_none] at h
  simpa using h p hp

theorem get?_erase_self (r : Record) (k : String) : (r.erase k).get? k = none := by
  simp [get?, erase, List.find?_filter]

theorem get?_storedFields (r : Record) (k : String) :
    Record.get? (Value.storedFields r) k = (r.get? k).map Value.stored := by
  induction r with
  | nil => rfl
  | cons p r ih =>
    obtain ⟨k', v⟩ := p
    by_cases h : k' = k <;> simp [Value.storedFields, h, ih]

@[simp] theorem get?_setEntries_nil (k : String) : (setEntries []).get? k = none := rfl

@[simp] theorem get?_setEntries_cons (es : List (String × Option Value)) (k k' : String)
    (o : Option Value) :
    (setEntries ((k', o) :: es)).get? k =
      if k' = k then o.or ((setEntries es).get? k) else (setEntries es).get? k := by
  cases o <;> by_cases h : k' = k <;> simp [setEntries, h]

end Record

namespace EventView

theorem get?_plainPart_self (r : Record) (k : String) :
    (plainPart r k).get? k = (r.get? k).map Value.plain := by
  unfold plainPart
  split
  · rename_i h
    rw [h]
    rfl
  · rename_i h
    rw [h]
    rfl
  · rename_i h
    simp [h]

/-- What the record checked by `ofDocument` holds: the id under `id`, no `_id`, details and
context made plain, and every other field as in the document. -/
theorem get?_readBack (doc : Record) (idv : Value) (k : String) :
    (plainPart (plainPart ((doc.erase "_id").set "id" idv) "details") "context").get? k =
      if k = "id" then some idv
      else if k = "_id" then none
      else if k = "details" ∨ k = "context" then (doc.get? k).map Value.plain
      else doc.get? k := by
  by_cases hc : k = "context"
  · subst hc
    rw [get?_plainPart_self, Record.get?_plainPart_ne _ (by decide),
      Record.get?_set_ne _ _ (by decide), Record.get?_erase_ne _ (by decide)]
    simp
  by_cases hd : k = "details"
  · subst hd
    rw [Record.get?_plainPart_ne _ (by decide), get?_plainPart_self,
      Record.get?_set_ne _ _ (by decide), Record.get?_erase_ne _ (by decide)]
    simp
  rw [Record.get?_plainPart_ne _ hc, Record.get?_plainPart_ne _ hd]
  by_cases hi : k = "id"
  · subst hi
    simp
  rw [Record.get?_set_ne _ _ hi]
  by_cases hu : k = "_id"
  · subst hu
    simp [Record.get?_erase_self]
  rw [Record.get?_erase_ne _ hu]
  simp [hi, hu, hd, hc]

end EventView

section
variable {α : Type} {r : Record} {wire other : String} {read : Value → Except Issue.Kind α}

theorem Form.required_of_get? (v : Value) {a : α} (hw : r.get? wire = some v)
    (hv : read v = .ok a) : Form.required r wire other read = .ok a := by
  simp [Form.required, Form.lookup, hw, hv]

theorem Form.optional_of_get? (f : α → Value) (hf : ∀ a, f a ≠ .null)
    (hread : ∀ a, read (f a) = .ok a) {o : Option α} (hw : r.get? wire = o.map f)
    (ho : o = none → r.get? other = none) : Form.optional r wire other read = .ok o := by
  cases o with
  | none => simp [Form.optional, Form.lookup, hw, ho]
  | some a =>
    have hfa := hf a
    have hra := hread a
    simp only [Option.map_some] at hw
    generalize f a = v at hfa hra hw
    cases v <;> simp_all [Form.optional, Form.lookup]

end

theorem Level.choice_text (l : Level) (refusal : Issue.Kind) :
    Lax.choice Level.ofText? refusal (.str l.text) = .ok l := by
  cases l <;> rfl

theorem Action.choice_text (a : Action) (refusal : Issue.Kind) :
    Lax.choice Action.ofText? refusal (.str a.text) = .ok a := by
  cases a <;> rfl

/-- The event a stored event reads back as: the given id, the event's own fields, the stored
clock reading for both stamps, and details and context as stored, made plain. -/
def Event.readBack (e : Event) (t : Stamp) (id : String) : EventView where
  id := id
  level := e.level
  action := e.action
  message := e.message
  userId := e.userId
  resource := e.resource
  resourceId := e.resourceId
  details := e.details.map fun d => Value.plainFields (Value.storedFields d.toRecord)
  context := e.context.map fun c => Value.plainFields (Value.storedFields c.toRecord)
  createdAt := t.toStored
  updatedAt := some t.toStored

theorem EventView.ofDocument_storedEvent (e : Event) (t : Stamp) (n : Nat) :
    EventView.ofDocument (Value.storedFields (("_id", .objectId n) :: e.toDocument t)) =
      .ok (e.readBack t (ObjectId.hex n)) := by
  unfold ofDocument
  simp only [Record.get?_storedFields, Record.get?_cons, if_true, Option.map_some]
  rw [mapError_eq_ok]
  generalize hR : plainPart (plainPart _ "details") "context" = R
  have hget : ∀ k, R.get? k = _ := fun k => hR ▸ get?_readBack _ _ k
  obtain ⟨hid, hlevel, haction, hmessage, huser, huser', hres, hresId, hresId', hdetails, hcontext,
      hcreated, hupdated, hupdated'⟩ :
      R.get? "id" = some (.str (ObjectId.hex n)) ∧
      R.get? "level" = some (.str e.level.text) ∧
      R.get? "action" = some (.str e.action.text) ∧
      R.get? "message" = some (.str e.message) ∧
      R.get? "userId" = e.userId.map .str ∧ R.get? "user_id" = none ∧
      R.get? "resource" = e.resource.map .str ∧
      R.get? "resourceId" = e.resourceId.map .str ∧ R.get? "resource_id" = none ∧
      R.get? "details" =
        (e.details.map fun d => Value.plainFields (Value.storedFields d.toRecord)).map .record ∧
      R.get? "context" =
        (e.context.map fun c => Value.plainFields (Value.storedFields c.toRecord)).map .record ∧
      R.get? "createdAt" = some (.stamp t.toStored) ∧
      R.get? "updatedAt" = (some t.toStored).map .stamp ∧ R.get? "updated_at" = none := by
    simp [hget, Record.get?_storedFields, Event.toDocument, Record.get?_append, Option.map_map,
      Function.comp_def, Value.stored, Value.plain, Value.display]
  have hstr : ∀ s : String, Lax.str (.str s) = .ok s := fun _ => rfl
  have hrec : ∀ fs : Record, recordField (.record fs) = .ok fs := fun _ => rfl
  have hstamp : ∀ s : Stamp, StampReading.read (.stamp s) = .ok s := fun _ => rfl
  unfold check
  rw [Form.required_of_get? _ hid (hstr _), Form.required_of_get? _ hlevel (Level.choice_text _ _),
    Form.required_of_get? _ haction (Action.choice_text _ _),
    Form.required_of_get? _ hmessage (hstr _),
    Form.optional_of_get? Value.str (fun _ => nofun) hstr huser fun _ => huser',
    Form.optional_of_get? Value.str (fun _ => nofun) hstr hres fun h => by simp [hres, h],
    Form.optional_of_get? Value.str (fun _ => nofun) hstr hresId fun _ => hresId',
    Form.optional_of_get? Value.record (fun _ => nofun) hrec hdetails fun h => by simp [hdetails, h],
    Form.optional_of_get? Value.record (fun _ => nofun) hrec hcontext fun h => by simp [hcontext, h],
    Form.required_of_get? _ hcreated (hstamp _),
    Form.optional_of_get? Value.stamp (fun _ => nofun) hstamp hupdated fun _ => hupdated']
  rfl

/-! ### No null entries in a received payload -/

theorem mem_setEntries {p : String × Value} {es : List (String × Option Value)} :
    p ∈ setEntries es ↔ (p.1, some p.2) ∈ es := by
  obtain ⟨k, v⟩ := p
  simp [setEntries, List.mem_filterMap]

theorem Form.optional_anyValue_ne_null {r : Record} {wire other : String} {v : Value}
    (h : Form.optional r wire other Details.anyValue = .ok (some v)) : v ≠ .null := by
  unfold Form.optional at h
  split at h <;> simp_all [Details.anyValue]

theorem Value.isNull_eq_false {v : Value} (h : v ≠ .null) : v.isNull = false := by
  cases v <;> simp_all [Value.isNull]

theorem Value.isNull_of_map {α : Type} {f : α → Value} {o : Option α} {v : Value}
    (h : some v = o.map f) (hf : ∀ a, f a ≠ .null) : v.isNull = false := by
  obtain ⟨a, -, rfl⟩ := Option.map_eq_some_iff.1 h.symm
  exact Value.isNull_eq_false (hf a)

theorem Details.read_nonNull {fs : Record} {d : Details} (h : Details.read fs = .ok d) :
    ∀ p ∈ d.toRecord, p.2.isNull = false := by
  simp only [Details.read, bind_eq_ok] at h
  obtain ⟨ps, hps, ns, hns, _, -, _, -, _, -, _, -, _, -, hd⟩ := h
  cases hd
  intro p hp
  simp only [Details.toRecord, List.mem_append, mem_setEntries, nonNull, List.mem_filter,
    List.mem_cons, List.not_mem_nil, or_false, Prod.mk.injEq] at hp
  rcases hp with (⟨-, h⟩ | ⟨-, h⟩ | ⟨-, h⟩ | ⟨-, h⟩ | ⟨-, h⟩ | ⟨-, h⟩) | ⟨-, h⟩
  · exact Value.isNull_eq_false (Form.optional_anyValue_ne_null (h ▸ hps))
  · exact Value.isNull_eq_false (Form.optional_anyValue_ne_null (h ▸ hns))
  · exact Value.isNull_of_map h fun _ => by simp
  · exact Value.isNull_of_map h fun _ => by simp
  · exact Value.isNull_of_map h fun _ => by simp
  · exact Value.isNull_of_map h fun _ => by simp
  · simpa using h

theorem Context.read_nonNull {fs : Record} {c : Context} (h : Context.read fs = .ok c) :
    ∀ p ∈ c.toRecord, p.2.isNull = false := by
  simp only [Context.read, bind_eq_ok] at h
  obtain ⟨_, -, _, -, _, -, _, -, _, -, _, -, _, -, _, -, hc⟩ := h
  cases hc
  intro p hp
  simp only [Context.toRecord, List.mem_append, mem_setEntries, nonNull, List.mem_filter,
    List.mem_cons, List.not_mem_nil, or_false, Prod.mk.injEq] at hp
  rcases hp with (⟨-, h⟩ | ⟨-, h⟩ | ⟨-, h⟩ | ⟨-, h⟩ | ⟨-, h⟩ | ⟨-, h⟩ | ⟨-, h⟩) | ⟨-, h⟩
  · exact Value.isNull_of_map h fun _ => by simp
  · exact Value.isNull_of_map h fun _ => by simp
  · exact Value.isNull_of_map h fun _ => by simp
  · exact Value.isNull_of_map h fun _ => by simp
  · exact Value.isNull_of_map h fun _ => by simp
  · exact Value.isNull_of_map h fun _ => by simp
  · exact Value.isNull_of_map h fun _ => by simp
  · simpa using h

theorem Event.partField_eq_some {α : Type} {shape name : String} {read : Record → Except Issue α}
    {v : Value} {a : α} (h : Event.partField shape read v name = .ok (some a)) :
    ∃ fs, read fs = .ok a := by
  unfold Event.partField at h
  split at h
  · cases h
  · rename_i fs
    cases hr : read fs with
    | error i => simp [hr, Except.map, Except.mapError] at h
    | ok b =>
      simp only [hr, Except.map, Except.mapError, Except.ok.injEq, Option.some.injEq] at h
      exact ⟨fs, h ▸ hr⟩
  · cases h

theorem Event.receive_parts_nonNull {level action message userId resource resourceId details
    context : Value} {e : Event}
    (he : Event.receive level action message userId resource resourceId details context = .ok e) :
    (∀ d ∈ e.details, ∀ p ∈ d.toRecord, p.2.isNull = false) ∧
      (∀ c ∈ e.context, ∀ p ∈ c.toRecord, p.2.isNull = false) := by
  simp only [Event.receive, mapError_eq_ok, Event.check, bind_eq_ok] at he
  obtain ⟨_, -, _, -, _, -, he⟩ := he
  split at he
  all_goals
    simp only [bind_eq_ok] at he
    obtain ⟨_, -, d, hd, c, hc, he⟩ := he
    cases he
    constructor
    · intro d' hd'
      obtain rfl : d = some d' := hd'
      obtain ⟨fs, hfs⟩ := Event.partField_eq_some hd
      exact Details.read_nonNull hfs
    · intro c' hc'
      obtain rfl : c = some c' := hc'
      obtain ⟨fs, hfs⟩ := Event.partField_eq_some hc
      exact Context.read_nonNull hfs

namespace Event

theorem get?_id_toDocument (e : Event) (t : Stamp) : (e.toDocument t).get? "_id" = none := by
  simp [Event.toDocument, Record.get?_append]

theorem get?_aliasId_toDocument (e : Event) (t : Stamp) : (e.toDocument t).get? "id" = none := by
  simp [Event.toDocument, Record.get?_append]

theorem toDocument_erase_ids (e : Event) (t : Stamp) :
    ((e.toDocument t).erase "_id").erase "id" = e.toDocument t := by
  rw [Record.erase_of_get?_eq_none (e.get?_id_toDocument t),
    Record.erase_of_get?_eq_none (e.get?_aliasId_toDocument t)]

end Event

namespace Collection

theorem insert_eq_ok_of_no_id {c c' : Collection} {doc : Record} {i : Value}
    (hdoc : doc.get? "_id" = none) (h : c.insert doc = (c', .ok i)) :
    i = autoId c.nextId ∧
      c' = { entries := c.entries ++ [(i, Value.storedFields (("_id", i) :: doc))],
             nextId := c.nextId + 1 } := by
  unfold insert at h
  split at h
  · simp at h
  · rw [hdoc] at h
    simp only [Record.get?_cons, if_true, Option.getD_some] at h
    have hkey : (autoId c.nextId).idProblem? = none := rfl
    have hid : Record.get? (Value.storedFields (("_id", autoId c.nextId) :: doc)) "_id" =
        some (autoId c.nextId) := by
      simp [Record.get?_storedFields, autoId, Value.stored]
    rw [hkey, hid] at h
    dsimp only at h
    split at h
    · simp at h
    · simp only [Option.getD_some, Prod.mk.injEq, Except.ok.injEq] at h
      obtain ⟨rfl, rfl⟩ := h
      exact ⟨rfl, rfl⟩

end Collection

theorem Stamp.toStored_of_naive {t : Stamp} (h : t.offset = none) : t.toStored = t.truncMillis := by
  obtain ⟨w, o⟩ := t
  subst h
  simp only [Stamp.toStored, Stamp.truncMillis, Stamp.toNaiveUtc, Stamp.utc, Stamp.micro,
    Stamp.timeOfDay, microsPerDay, microsPerHour, microsPerMinute, microsPerSecond,
    Option.getD_none, Stamp.mk.injEq, and_true]
  omega

/-- An accepted event that the store takes is filed under the next counter id and reads back as
the event with that id and the stored clock reading. -/
theorem received_event_reads_back {level action message userId resource resourceId details
    context : Value} {e : Event}
    (he : Event.receive level action message userId resource resourceId details context = .ok e)
    (t : Stamp) {c c' : Collection} {i : Value}
    (hins : c.insert (((e.toDocument t).erase "_id").erase "id") = (c', .ok i)) :
    i = Collection.autoId c.nextId ∧
      c'.entries = c.entries ++ [(i, Value.storedFields (("_id", i) :: e.toDocument t))] ∧
      EventView.ofDocument (Value.storedFields (("_id", i) :: e.toDocument t)) =
        .ok (e.readBack t i.display) ∧
      (∀ d ∈ e.details, ∀ p ∈ d.toRecord, p.2.isNull = false) ∧
      (∀ x ∈ e.context, ∀ p ∈ x.toRecord, p.2.isNull = false) := by
  rw [e.toDocument_erase_ids] at hins
  obtain ⟨rfl, rfl⟩ := Collection.insert_eq_ok_of_no_id (e.get?_id_toDocument t) hins
  exact ⟨rfl, rfl, EventView.ofDocument_storedEvent e t _, Event.receive_parts_nonNull he⟩

def signInEvent : Event :=
  { level := .info, action := .login, message := "signed in", userId := some "u1" }

theorem receive_signIn : Event.receive (.str "info") (.str "login") (.str "signed in") (.str "u1")
    .null .null .null .null = .ok signInEvent := rfl

-- the store's checks on field names are decided by `simp`, the encoder's by evaluation
theorem signInEvent_refusal (t : Stamp) : Collection.refusal? (signInEvent.toDocument t) = none := by
  simp [Collection.refusal?, signInEvent, Event.toDocument, setEntries, Value.fieldsNullName?,
    Value.nullNameInRecords?, Value.encodeProblem?, Value.fieldsEncodeProblem?, Record.get?,
    Record.erase, Level.text, Action.text]
  rfl

theorem received_sign_in_reads_back :
    Event.receive (.str "info") (.str "login") (.str "signed in") (.str "u1") .null .null .null
        .null = .ok signInEvent ∧
      ({} : Collection).insert
          (((signInEvent.toDocument ⟨1718452800000000, none⟩).erase "_id").erase "id") =
        ((({} : Collection).insert
          (((signInEvent.toDocument ⟨1718452800000000, none⟩).erase "_id").erase "id")).1,
          .ok (.objectId 1)) ∧
      EventView.ofDocument
          (Value.storedFields (("_id", .objectId 1) :: signInEvent.toDocument ⟨1718452800000000, none⟩)) =
        .ok (signInEvent.readBack ⟨1718452800000000, none⟩ (ObjectId.hex 1)) := by
  have hins : ({} : Collection).insert
      (((signInEvent.toDocument ⟨1718452800000000, none⟩).erase "_id").erase "id") =
      ((({} : Collection).insert
        (((signInEvent.toDocument ⟨1718452800000000, none⟩).erase "_id").erase "id")).1,
        .ok (.objectId 1)) := by
    unfold Collection.insert
    rw [signInEvent.toDocument_erase_ids, signInEvent_refusal]
    rfl
  exact ⟨receive_signIn, hins, (received_event_reads_back receive_signIn _ hins).2.2.1⟩

end AuditTrail
