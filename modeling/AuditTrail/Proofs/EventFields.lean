import AuditTrail.Event.View
import AuditTrail.Proofs.Monadic
import AuditTrail.Proofs.ScalarFields
import AuditTrail.Proofs.ValueOrder

/-!
# The text fields of a stored event

A document that reads back as an event holds text, or null where optional, in the fields a
listing sorts by and counts (`ofDocument_textual`).
-/

namespace AuditTrail

def Value.IsTextOrNull : Value → Prop
  | .null | .str _ | .member _ _ => True
  | _ => False

theorem Value.IsTextOrNull.eq_or {v : Value} (h : v.IsTextOrNull) :
    v = .null ∨ (∃ s, v = .str s) ∨ ∃ e m, v = .member e m := by
  cases v <;> simp_all [Value.IsTextOrNull]

theorem Value.IsTextOrNull.sortable {v : Value} (h : v.IsTextOrNull) : v.Sortable := by
  cases v <;> simp_all [Value.IsTextOrNull, Value.Sortable]

theorem Value.IsTextOrNull.unhashable {v : Value} (h : v.IsTextOrNull) : v.unhashable? = none := by
  cases v <;> simp_all [Value.IsTextOrNull, Value.unhashable?]

theorem Value.IsTextOrNull.naive {v : Value} (h : v.IsTextOrNull) : v.Naive := by
  cases v <;> simp_all [Value.IsTextOrNull, Value.Naive]

namespace Record

theorem get?_erase_ne (r : Record) {k k' : String} (h : k ≠ k') :
    (r.erase k').get? k = r.get? k := by
  unfold get? erase
  rw [List.find?_filter]
  congr 2
  funext p
  by_cases hp : p.1 = k
  · simp [hp, h]
  · simp [hp]

theorem get?_set_ne (r : Record) {k k' : String} (v : Value) (h : k ≠ k') :
    (r.set k' v).get? k = r.get? k := by
  unfold set
  split
  · -- set in place: the field asked for is not the one replaced
    unfold get?
    have hf : ((·.1 == k) ∘ fun p : String × Value => if p.1 == k' then (k', v) else p) =
        (·.1 == k) := by
      funext p
      by_cases hp : p.1 = k'
      · simp [hp]
      · simp [hp]
    rw [List.find?_map, hf]
    cases hx : r.find? (·.1 == k) with
    | none => rfl
    | some p =>
      have hp : p.1 = k := by simpa using List.find?_some hx
      simp [hp, h]
  · -- set at the end: the new field is not the one asked for
    unfold get?
    rw [List.find?_append]
    simp [Ne.symm h]

theorem get?_plainPart_ne (r : Record) {k k' : String} (h : k ≠ k') :
    (EventView.plainPart r k').get? k = r.get? k := by
  unfold EventView.plainPart
  split
  · rfl
  · rfl
  · exact get?_set_ne r _ h

end Record

/-! ### Reading fields -/

section
variable {α : Type} {r : Record} {k other : String} {read : Value → Except Issue.Kind α}

theorem Form.read_of_required {a : α} (h : Form.required r k other read = .ok a) {x : Value}
    (hx : r.get? k = some x) : ∃ a, read x = .ok a := by
  unfold Form.required Form.lookup at h
  rw [hx] at h
  dsimp only at h
  split at h
  · exact ⟨_, ‹_›⟩
  · cases h

theorem Form.read_of_optional {a : Option α} (h : Form.optional r k other read = .ok a)
    {x : Value} (hx : r.get? k = some x) : x = .null ∨ ∃ a, read x = .ok a := by
  unfold Form.optional Form.lookup at h
  rw [hx] at h
  cases x
  case null => exact .inl rfl
  all_goals
    right
    dsimp only at h
    split at h
    · exact ⟨_, ‹_›⟩
    · cases h

end

theorem Lax.str_textual {x : Value} {s : String} (h : Lax.str x = .ok s) : x.IsTextOrNull := by
  cases x <;> simp_all [Lax.str, Value.IsTextOrNull]

theorem Lax.choice_textual {α : Type} {rd : String → Option α} {refusal : Issue.Kind} {x : Value}
    {a : α} (h : Lax.choice rd refusal x = .ok a) : x.IsTextOrNull := by
  cases x <;> simp_all [Lax.choice, Value.IsTextOrNull]

/-- The fields a listing may sort by, besides the creation stamp, and the ones its summary
counts. -/
def textPaths : List String := ["level", "action", "message", "userId", "resource", "resourceId"]

namespace EventView

theorem check_textual {r : Record} {v : EventView} (h : check r = .ok v) :
    ∀ k ∈ textPaths, ∀ x, r.get? k = some x → x.IsTextOrNull := by
  simp only [check, bind_eq_ok] at h
  obtain ⟨_, _, _, hlevel, _, haction, _, hmessage, _, huser, _, hres, _, hresId, -⟩ := h
  intro k hk x hx
  simp only [textPaths, List.mem_cons, List.not_mem_nil, or_false] at hk
  rcases hk with rfl | rfl | rfl | rfl | rfl | rfl
  · obtain ⟨_, hr⟩ := Form.read_of_required hlevel hx
    exact Lax.choice_textual hr
  · obtain ⟨_, hr⟩ := Form.read_of_required haction hx
    exact Lax.choice_textual hr
  · obtain ⟨_, hr⟩ := Form.read_of_required hmessage hx
    exact Lax.str_textual hr
  · rcases Form.read_of_optional huser hx with rfl | ⟨_, hr⟩
    · trivial
    · exact Lax.str_textual hr
  · rcases Form.read_of_optional hres hx with rfl | ⟨_, hr⟩
    · trivial
    · exact Lax.str_textual hr
  · rcases Form.read_of_optional hresId hx with rfl | ⟨_, hr⟩
    · trivial
    · exact Lax.str_textual hr

/-- A document that reads back as an event holds text, or null where optional, in the fields
a listing sorts by and counts. -/
theorem ofDocument_textual {d : Record} {v : EventView} (h : ofDocument d = .ok v) :
    ∀ k ∈ textPaths, ∀ x, d.get? k = some x → x.IsTextOrNull := by
  unfold ofDocument at h
  cases hid : d.get? "_id" with
  | none =>
    rw [hid] at h
    cases h
  | some oid =>
    rw [hid] at h
    dsimp only at h
    rw [mapError_eq_ok] at h
    intro k hk x hx
    have hne : k ≠ "_id" ∧ k ≠ "id" ∧ k ≠ "details" ∧ k ≠ "context" := by
      simp only [textPaths, List.mem_cons, List.not_mem_nil, or_false] at hk
      rcases hk with rfl | rfl | rfl | rfl | rfl | rfl <;> decide
    refine check_textual h k hk x ?_
    rw [Record.get?_plainPart_ne _ hne.2.2.2, Record.get?_plainPart_ne _ hne.2.2.1,
      Record.get?_set_ne _ _ hne.2.1, Record.get?_erase_ne _ hne.1, hx]

end EventView

/-! ### Paths a listing sorts by -/

def sortPaths : List String := "createdAt" :: "_id" :: textPaths

theorem splitOn_sortPath {p : String} (hp : p ∈ sortPaths) : p.splitOn "." = [p] := by
  simp only [sortPaths, textPaths, List.mem_cons, List.not_mem_nil, or_false] at hp
  rcases hp with rfl | rfl | rfl | rfl | rfl | rfl | rfl | rfl <;>
  · rw [String.splitOn, if_neg (by decide)]
    -- one step per character of the key, none of which is a dot
    repeat rw [String.splitOnAux, if_neg (by decide), if_neg (by decide)]
    rw [String.splitOnAux, if_pos (by decide)]
    rfl

theorem atPath_sortPath (d : Record) {p : String} (hp : p ∈ sortPaths) :
    (Value.record d).atPath p = d.get? p := by
  rw [Value.atPath_eq_pathValue, splitOn_sortPath hp, Value.pathValue_cons]
  change (Record.get? d p).bind (Value.pathValue []) = _
  cases Record.get? d p <;> rfl

end AuditTrail
