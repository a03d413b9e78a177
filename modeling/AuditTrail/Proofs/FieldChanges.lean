import AuditTrail.Proofs.CalendarText
import AuditTrail.Proofs.EventStore
import AuditTrail.Proofs.ListingSummary
import AuditTrail.Proofs.SortRuns
import AuditTrail.Value.Diff

/-!
# Field changes between snapshots

Between two regular snapshots, `Value.changes` lists exactly the keys whose values are not
loosely equal, in code-point order, and the other way round the same keys with the values
exchanged (`Value.changes_exact`).
-/

namespace AuditTrail

namespace Exact

theorem same_comm (a b : Exact) : same a b = same b a := by
  cases a <;> cases b
  case finite.finite a da b db =>
    rw [Bool.eq_iff_iff]
    simp only [same, cmp, beq_iff_eq, compare_eq_iff_eq]
    exact eq_comm
  all_goals rfl

end Exact

namespace Record

theorem get?_eq_some_of_mem {r : Record} (hr : (r.map Prod.fst).Nodup) {k : String} {v : Value}
    (h : (k, v) ∈ r) : r.get? k = some v := by
  induction r with
  | nil => cases h
  | cons p r ih =>
    obtain ⟨k', v'⟩ := p
    rw [List.map_cons, List.nodup_cons] at hr
    rcases List.mem_cons.1 h with h | h
    · cases h
      simp
    · -- `k` is a key of the rest, which the head's key is not
      have hk : k' ≠ k := by
        rintro rfl
        exact hr.1 (List.mem_map.2 ⟨_, h, rfl⟩)
      rw [get?_cons, if_neg hk]
      exact ih hr.2 h

end Record

namespace Value

mutual
/-- Whether a value holds no NaN double and each of its records holds each key once, at any
depth. -/
def isRegular : Value → Bool
  | .float x => !x.isNaN
  | .list xs | .tuple xs => itemsRegular xs
  | .record fs => decide (fs.map Prod.fst).Nodup && fieldsRegular fs
  | _ => true
def itemsRegular : List Value → Bool
  | [] => true
  | x :: xs => isRegular x && itemsRegular xs
def fieldsRegular : List (String × Value) → Bool
  | [] => true
  | (_, x) :: fs => isRegular x && fieldsRegular fs
end

theorem isRegular_of_mem_fields {fs : Record} (h : fieldsRegular fs = true) {p : String × Value}
    (hp : p ∈ fs) : p.2.isRegular = true := by
  induction fs with
  | nil => cases hp
  | cons q fs ih =>
    obtain ⟨k, x⟩ := q
    simp only [fieldsRegular, Bool.and_eq_true] at h
    rcases List.mem_cons.1 hp with rfl | hp
    · exact h.1
    · exact ih h.2 hp

theorem isRegular_getD {fs : Record} (h : fieldsRegular fs = true) (k : String) :
    ((fs.get? k).getD .null).isRegular = true := by
  cases hk : fs.get? k with
  | none => rfl
  | some v => exact isRegular_of_mem_fields h (Record.mem_of_get? hk)

theorem bothNaN_comm (a b : Value) : bothNaN a b = bothNaN b a := by
  cases a <;> cases b <;> simp only [bothNaN, Bool.and_comm]

/-! ### Records compared key by key -/

theorem sameFields_iff {xs ys : Record} :
    sameFields xs ys = true ↔ ∀ p ∈ xs, ∃ y, ys.get? p.1 = some y ∧ sameEq p.2 y = true := by
  induction xs with
  | nil => simp [sameFields]
  | cons p xs ih =>
    obtain ⟨k, x⟩ := p
    simp only [sameFields, Bool.and_eq_true, ih, List.forall_mem_cons]
    cases ys.get? k <;> simp [sameEq]

theorem sameFields_iff_of_nodup {xs ys : Record} (hx : (xs.map Prod.fst).Nodup)
    (hy : (ys.map Prod.fst).Nodup) (hlen : xs.length = ys.length) :
    sameFields xs ys = true ↔ (∀ k, k ∈ xs.map Prod.fst ↔ k ∈ ys.map Prod.fst) ∧
      ∀ k x y, (k, x) ∈ xs → (k, y) ∈ ys → sameEq x y = true := by
  rw [sameFields_iff]
  constructor
  · intro h
    have hsub : xs.map Prod.fst ⊆ ys.map Prod.fst := by
      intro k hk
      obtain ⟨⟨k, x⟩, hp, rfl⟩ := List.mem_map.1 hk
      obtain ⟨y, hky, -⟩ := h _ hp
      exact List.mem_map.2 ⟨(k, y), Record.mem_of_get? hky, rfl⟩
    -- as many keys on both sides, each once: the keys are the same
    have hperm := (List.subperm_of_subset hx hsub).perm_of_length_le (by simp [hlen])
    refine ⟨fun k => hperm.mem_iff, fun k x y hkx hky => ?_⟩
    obtain ⟨y', hy', hxy⟩ := h _ hkx
    rw [Record.get?_eq_some_of_mem hy hky, Option.some.injEq] at hy'
    rwa [hy']
  · rintro ⟨hkeys, hvals⟩ ⟨k, x⟩ hkx
    obtain ⟨⟨k', y⟩, hky, hk⟩ :=
      List.mem_map.1 ((hkeys k).1 (List.mem_map.2 ⟨_, hkx, rfl⟩))
    have hky : (k, y) ∈ ys := (show k' = k from hk) ▸ hky
    exact ⟨y, Record.get?_eq_some_of_mem hy hky, hvals k x y hkx hky⟩

theorem sameFields_comm {xs ys : Record} (hx : (xs.map Prod.fst).Nodup)
    (hy : (ys.map Prod.fst).Nodup) (hlen : xs.length = ys.length)
    (H : ∀ k x y, (k, x) ∈ xs → (k, y) ∈ ys → sameEq x y = sameEq y x) :
    sameFields xs ys = sameFields ys xs := by
  rw [Bool.eq_iff_iff, sameFields_iff_of_nodup hx hy hlen, sameFields_iff_of_nodup hy hx hlen.symm]
  constructor
  · rintro ⟨hkeys, hvals⟩
    exact ⟨fun k => (hkeys k).symm, fun k y x hky hkx => (H k x y hkx hky) ▸ hvals k x y hkx hky⟩
  · rintro ⟨hkeys, hvals⟩
    exact ⟨fun k => (hkeys k).symm, fun k x y hkx hky => (H k x y hkx hky).symm ▸ hvals k y x hky hkx⟩

/-! ### Loose equality is reflexive and symmetric on regular values -/

-- one induction over the value and its items and fields, following `looseEq`
mutual
theorem looseEq_self : ∀ v : Value, v.isRegular = true → looseEq v v = true
  | .null, _ => rfl
  | .bool b, _ => by cases b <;> rfl
  | .int n, _ => by simp [looseEq, looseNumber?, Exact.same, Exact.cmp]
  | .float x, h => by
    simp only [isRegular, Bool.not_eq_true'] at h
    exact same_self _ (ofFloat_ne_nan h)
  | .str s, _ => by simp [looseEq]
  | .list xs, h => sameItems_self xs h
  | .tuple xs, h => sameItems_self xs h
  | .record fs, h => by
    simp only [isRegular, Bool.and_eq_true, decide_eq_true_eq] at h
    simp only [looseEq, beq_self_eq_true, Bool.true_and]
    exact sameFields_iff.2 fun p hp =>
      ⟨p.2, Record.get?_eq_some_of_mem h.1 hp, fieldsSelf fs h.2 p hp⟩
  | .stamp t, _ => by
    simp only [looseEq]
    cases t.offset <;> simp
  | .objectId n, _ => by simp [looseEq]
  | .decimal d, _ => by simp [looseEq]
  | .member e s, _ => by simp [looseEq]
theorem sameItems_self : ∀ xs : List Value, itemsRegular xs = true → sameItems xs xs = true
  | [], _ => rfl
  | x :: xs, h => by
    simp only [itemsRegular, Bool.and_eq_true] at h
    simp only [sameItems, looseEq_self x h.1, Bool.or_true, sameItems_self xs h.2, Bool.and_self]
theorem fieldsSelf : ∀ fs : List (String × Value), fieldsRegular fs = true →
    ∀ p ∈ fs, sameEq p.2 p.2 = true
  | [], _ => by simp
  | (k, x) :: fs, h => by
    simp only [fieldsRegular, Bool.and_eq_true] at h
    simp only [List.forall_mem_cons]
    exact ⟨by simp [sameEq, looseEq_self x h.1], fieldsSelf fs h.2⟩
end

theorem looseEq_record_comm {xs ys : Record} (hx : (xs.map Prod.fst).Nodup)
    (hy : (ys.map Prod.fst).Nodup) (H : ∀ k x y, (k, x) ∈ xs → (k, y) ∈ ys → sameEq x y = sameEq y x) :
    looseEq (.record xs) (.record ys) = looseEq (.record ys) (.record xs) := by
  simp only [looseEq]
  by_cases hlen : xs.length = ys.length
  · rw [sameFields_comm hx hy hlen H, hlen]
  · rw [beq_eq_false_iff_ne.2 hlen, beq_eq_false_iff_ne.2 (Ne.symm hlen), Bool.false_and,
      Bool.false_and]

-- one induction over the first value and its items and fields; the second is taken apart by cases
mutual
theorem looseEq_comm : ∀ a b : Value, a.isRegular = true → b.isRegular = true →
    looseEq a b = looseEq b a
  | .list xs, b, ha, hb => by
    cases b
    case list ys => exact sameItems_comm xs ys ha hb
    all_goals simp [looseEq, looseNumber?]
  | .tuple xs, b, ha, hb => by
    cases b
    case tuple ys => exact sameItems_comm xs ys ha hb
    all_goals simp [looseEq, looseNumber?]
  | .record xs, b, ha, hb => by
    cases b
    case record ys =>
      simp only [isRegular, Bool.and_eq_true, decide_eq_true_eq] at ha hb
      exact looseEq_record_comm ha.1 hb.1 fun k x y hkx hky =>
        fieldsComm xs ha.2 (k, x) hkx y (isRegular_of_mem_fields hb.2 hky)
    all_goals simp [looseEq, looseNumber?]
  | .null, b, _, _ => by cases b <;> simp [looseEq, looseNumber?]
  | .bool p, b, _, _ => by cases b <;> simp [looseEq, looseNumber?, Exact.same_comm]
  | .int n, b, _, _ => by cases b <;> simp [looseEq, looseNumber?, Exact.same_comm]
  | .float x, b, _, _ => by cases b <;> simp [looseEq, looseNumber?, Exact.same_comm]
  | .str s, b, _, _ => by cases b <;> simp [looseEq, looseNumber?, eq_comm]
  | .stamp t, b, _, _ => by
    cases b
    case stamp u _ =>
      simp only [looseEq]
      cases t.offset <;> cases u.offset <;> simp [eq_comm]
    all_goals simp [looseEq, looseNumber?]
  | .objectId n, b, _, _ => by cases b <;> simp [looseEq, looseNumber?, eq_comm]
  | .decimal d, b, _, _ => by cases b <;> simp [looseEq, looseNumber?, eq_comm]
  | .member e s, b, _, _ => by cases b <;> simp [looseEq, looseNumber?, eq_comm]
theorem sameItems_comm : ∀ xs ys : List Value, itemsRegular xs = true → itemsRegular ys = true →
    sameItems xs ys = sameItems ys xs
  | [], [], _, _ => rfl
  | [], _ :: _, _, _ => rfl
  | _ :: _, [], _, _ => rfl
  | x :: xs, y :: ys, hx, hy => by
    simp only [itemsRegular, Bool.and_eq_true] at hx hy
    simp only [sameItems, bothNaN_comm x y, looseEq_comm x y hx.1 hy.1,
      sameItems_comm xs ys hx.2 hy.2]
theorem fieldsComm : ∀ xs : List (String × Value), fieldsRegular xs = true →
    ∀ p ∈ xs, ∀ y, y.isRegular = true → sameEq p.2 y = sameEq y p.2
  | [], _ => by simp
  | (k, x) :: xs, h => by
    simp only [fieldsRegular, Bool.and_eq_true] at h
    simp only [List.forall_mem_cons]
    exact ⟨fun y hy => by simp only [sameEq, bothNaN_comm x y, looseEq_comm x y h.1 hy],
      fieldsComm xs h.2⟩
end

end Value

/-! ### The keys of two records -/

namespace Record

open Value (textCmp)

theorem mem_insertKey {k j : String} {ks : List String} : k ∈ insertKey j ks ↔ k = j ∨ k ∈ ks := by
  induction ks with
  | nil => simp [insertKey]
  | cons i ks ih =>
    unfold insertKey
    split
    · exact List.mem_cons
    · rename_i h
      obtain rfl := Value.textCmp_eq_eq_iff.1 h
      simp
    · simp [ih, or_left_comm]

theorem pairwise_insertKey {j : String} {ks : List String}
    (h : ks.Pairwise (textCmp · · = .lt)) : (insertKey j ks).Pairwise (textCmp · · = .lt) := by
  induction ks with
  | nil => simp [insertKey]
  | cons i ks ih =>
    obtain ⟨hi, hks⟩ := List.pairwise_cons.1 h
    unfold insertKey
    split
    · rename_i hji
      refine List.Pairwise.cons (fun k hk => ?_) h
      rcases List.mem_cons.1 hk with rfl | hk
      · exact hji
      · exact Value.textCmp_lt_trans hji (hi k hk)
    · exact h
    · rename_i hji
      refine List.Pairwise.cons (fun k hk => ?_) (ih hks)
      rcases mem_insertKey.1 hk with rfl | hk
      · exact Value.textCmp_eq_gt_iff.1 hji
      · exact hi k hk

theorem mem_foldl_insertKey {l : Record} {acc : List String} {k : String} :
    k ∈ l.foldl (fun ks p => insertKey p.1 ks) acc ↔ k ∈ acc ∨ k ∈ l.map Prod.fst := by
  induction l generalizing acc with
  | nil => simp
  | cons p l ih =>
    simp only [List.foldl_cons, ih, mem_insertKey, List.map_cons, List.mem_cons]
    tauto

theorem pairwise_foldl_insertKey {l : Record} {acc : List String}
    (h : acc.Pairwise (textCmp · · = .lt)) :
    (l.foldl (fun ks p => insertKey p.1 ks) acc).Pairwise (textCmp · · = .lt) := by
  induction l generalizing acc with
  | nil => exact h
  | cons p l ih => exact ih (pairwise_insertKey h)

theorem mem_unionKeys {a b : Record} {k : String} :
    k ∈ unionKeys a b ↔ k ∈ a.map Prod.fst ∨ k ∈ b.map Prod.fst := by
  simp [unionKeys, mem_foldl_insertKey]

theorem pairwise_unionKeys (a b : Record) : (unionKeys a b).Pairwise (textCmp · · = .lt) :=
  pairwise_foldl_insertKey List.Pairwise.nil

/-- The keys of two records do not depend on which comes first: both orders list the same keys
in strictly increasing order. -/
theorem unionKeys_comm (a b : Record) : unionKeys a b = unionKeys b a := by
  have hnodup : ∀ c d : Record, (unionKeys c d).Nodup := fun c d =>
    (pairwise_unionKeys c d).imp Value.textCmp_ne_of_lt
  refine List.Perm.eq_of_pairwise (fun x y _ _ hxy hyx => ?_) (pairwise_unionKeys a b)
    (pairwise_unionKeys b a) ((List.perm_ext_iff_of_nodup (hnodup a b) (hnodup b a)).2 fun k => ?_)
  · rw [Value.textCmp_eq_gt_iff.2 hyx] at hxy
    cases hxy
  · simp only [mem_unionKeys, or_comm]

/-! ### The changes between two records -/

theorem mem_changes {old new : Record} {k : String} {v : Value} :
    (k, v) ∈ changes old new ↔ (k ∈ old.map Prod.fst ∨ k ∈ new.map Prod.fst) ∧
      Value.looseEq ((old.get? k).getD .null) ((new.get? k).getD .null) = false ∧
      v = .record [("from", (old.get? k).getD .null), ("to", (new.get? k).getD .null)] := by
  simp only [changes, List.mem_filterMap, ← mem_unionKeys]
  constructor
  · rintro ⟨j, hj, hsome⟩
    split at hsome
    · cases hsome
    · rename_i hne
      cases hsome
      exact ⟨hj, by simpa using hne, rfl⟩
  · rintro ⟨hk, hne, rfl⟩
    exact ⟨k, hk, by rw [if_neg (by simp [hne])]⟩

theorem pairwise_changes (old new : Record) :
    (changes old new).Pairwise (fun c d => textCmp c.1 d.1 = .lt) := by
  refine (pairwise_unionKeys old new).filterMap _ fun j j' h c hc c' hc' => ?_
  dsimp only at hc hc'
  split at hc <;> split at hc' <;> cases hc <;> cases hc'
  exact h

def reverseChange : String × Value → String × Value
  | (k, .record [("from", x), ("to", y)]) => (k, .record [("from", y), ("to", x)])
  | c => c

theorem changes_comm {old new : Record} (ho : Value.fieldsRegular old = true)
    (hn : Value.fieldsRegular new = true) :
    changes new old = (changes old new).map reverseChange := by
  unfold changes
  rw [unionKeys_comm new old, List.map_filterMap]
  congr 1
  funext k
  dsimp only
  rw [Value.looseEq_comm _ _ (Value.isRegular_getD hn k) (Value.isRegular_getD ho k)]
  split <;> rfl

theorem changes_self {r : Record} (h : Value.fieldsRegular r = true) : changes r r = [] := by
  unfold changes
  rw [List.filterMap_eq_nil_iff]
  intro k _
  simp [Value.looseEq_self _ (Value.isRegular_getD h k)]

end Record

/-! ### Gathering and sorting the keys of two snapshots -/

namespace KeyTable

theorem mapM_eq_none_of_mem {α β : Type} {f : α → Option β} {l : List α} {x : α} (hx : x ∈ l)
    (hf : f x = none) : l.mapM f = none := by
  induction l with
  | nil => cases hx
  | cons y l ih =>
    rw [List.mapM_cons]
    rcases List.mem_cons.1 hx with rfl | hx
    · rw [hf]
      rfl
    · cases f y <;> simp [ih hx]

theorem mem_of_mem_foldl_firstMet {l acc : List Value} {v : Value}
    (h : v ∈ l.foldl (fun acc k => if acc.any (Value.sameEq · k) then acc else acc ++ [k]) acc) :
    v ∈ acc ∨ v ∈ l := by
  induction l generalizing acc with
  | nil => exact Or.inl h
  | cons k l ih =>
    rcases ih h with h | h
    · dsimp only at h
      split at h
      · exact Or.inl h
      · rcases List.mem_append.1 h with h | h
        · exact Or.inl h
        · rw [List.mem_singleton.1 h]
          exact Or.inr List.mem_cons_self
    · exact Or.inr (List.mem_cons_of_mem k h)

theorem foldl_firstMet_ne_nil {l acc : List Value} (h : acc ≠ [] ∨ l ≠ []) :
    l.foldl (fun acc k => if acc.any (Value.sameEq · k) then acc else acc ++ [k]) acc ≠ [] := by
  induction l generalizing acc with
  | nil => simpa using h
  | cons k l ih =>
    apply ih
    left
    dsimp only
    split
    · rename_i hany
      rintro rfl
      simp at hany
    · simp

theorem unionOrder_of_unhashed {a b : List Value} {v : Value} (hv : v ∈ a ++ b)
    (hh : v.hash? = none) :
    unionOrder a b = (a ++ b).foldl
      (fun acc k => if acc.any (Value.sameEq · k) then acc else acc ++ [k]) [] := by
  have hf : (v.hash?.map fun h => (v, Hash.word h)) = none := by rw [hh]; rfl
  unfold unionOrder
  split
  · -- both lists would give every key a hash
    rename_i ka kb hka hkb
    rcases List.mem_append.1 hv with hva | hvb
    · rw [mapM_eq_none_of_mem hva hf] at hka
      cases hka
    · rw [mapM_eq_none_of_mem hvb hf] at hkb
      cases hkb
  · rfl

theorem unionOrder_textKeys (a b : Record) :
    (∀ v ∈ unionOrder (a.map fun p => .str p.1) (b.map fun p => .str p.1), ∃ s, v = .str s) ∧
      (unionOrder (a.map fun p => .str p.1) (b.map fun p => .str p.1) = [] ↔ a = [] ∧ b = []) := by
  by_cases hab : a = [] ∧ b = []
  · obtain ⟨rfl, rfl⟩ := hab
    have h : unionOrder [] [] = [] := rfl
    simp [h]
  have hne : (a.map fun p => Value.str p.1) ++ (b.map fun p => Value.str p.1) ≠ [] := by
    simpa [not_and_or] using hab
  have hstr : ∀ w ∈ (a.map fun p => Value.str p.1) ++ (b.map fun p => Value.str p.1),
      ∃ s, w = .str s := by
    intro w hw
    rcases List.mem_append.1 hw with hw | hw <;>
      · obtain ⟨p, -, rfl⟩ := List.mem_map.1 hw
        exact ⟨p.1, rfl⟩
  -- a text has no fixed hash
  obtain ⟨v, hv⟩ := List.exists_mem_of_ne_nil _ hne
  obtain ⟨s, rfl⟩ := hstr v hv
  rw [unionOrder_of_unhashed hv rfl]
  refine ⟨fun w hw => ?_, iff_of_false (foldl_firstMet_ne_nil (Or.inr hne)) hab⟩
  rcases mem_of_mem_foldl_firstMet hw with hw | hw
  · cases hw
  · exact hstr w hw

end KeyTable

namespace Value

theorem sortByM_texts {ks : List Value} (hks : ∀ v ∈ ks, ∃ s, v = .str s) :
    ∃ ys, Sorting.sortByM (pyCompare .less) false ks = .ok ys ∧ ys.Perm ks := by
  have hp : Sorting.StrictWeakOn (fun a b => compare (codes a) (codes b) == .lt)
      (fun v => ∃ s, v = .str s) :=
    ((Sorting.StrictWeakOn.of_cmp (S := fun _ => True) compare).comap codes).mono
      (fun _ _ => trivial) fun _ _ _ _ => rfl
  have hlt : ∀ x y, (∃ s, x = .str s) → (∃ s, y = .str s) →
      pyCompare .less x y = pure (compare (codes x) (codes y) == .lt) := by
    rintro _ _ ⟨s, rfl⟩ ⟨t, rfl⟩
    rfl
  obtain ⟨ys, hys, hsort⟩ := Sorting.sortByM_spec hp hlt false ks hks
  exact ⟨ys, hys, hsort.perm⟩

/-- A snapshot of a resource: null (read as the empty record) or a record, regular at every
depth. -/
def IsSnapshot (v : Value) : Prop := v.isRegular = true ∧ (v = .null ∨ ∃ fs, v = .record fs)

namespace IsSnapshot

variable {v : Value} (h : v.IsSnapshot)
include h

theorem fieldsRegular_fields : fieldsRegular v.fields = true := by
  obtain ⟨hr, rfl | ⟨fs, rfl⟩⟩ := h
  · rfl
  · simp only [isRegular, Bool.and_eq_true] at hr
    exact hr.2

theorem keysOf_eq : v.keysOf = .ok (v.fields.map fun p => .str p.1) := by
  obtain ⟨-, rfl | ⟨fs, rfl⟩⟩ := h
  · rfl
  · cases fs <;> rfl

theorem snapshot_eq : v.snapshot = .ok v.fields := by
  obtain ⟨-, rfl | ⟨fs, rfl⟩⟩ := h
  · rfl
  · rfl

theorem field?_eq (k : String) : v.field? k = v.fields.get? k := by
  obtain ⟨-, rfl | ⟨fs, rfl⟩⟩ := h
  · rfl
  · rfl

end IsSnapshot

theorem changes_eq_record {old new : Value} (ho : old.IsSnapshot) (hn : new.IsSnapshot) :
    old.changes new = .ok (Record.changes old.fields new.fields) := by
  obtain ⟨htexts, hnil⟩ := KeyTable.unionOrder_textKeys old.fields new.fields
  obtain ⟨ys, hys, hperm⟩ := sortByM_texts htexts
  unfold changes
  rw [ho.keysOf_eq, hn.keysOf_eq, ho.snapshot_eq, hn.snapshot_eq]
  simp only [bind, Except.bind, hys]
  by_cases hempty : old.fields = [] ∧ new.fields = []
  · rw [hempty.1, hempty.2]
    split <;> rfl
  · -- some key is gathered, so the sorted keys are not empty
    have hys : ys.isEmpty = false := by
      rw [List.isEmpty_eq_false_iff, ← List.length_pos_iff, hperm.length_eq, List.length_pos_iff]
      exact fun h => hempty (hnil.1 h)
    rw [hys, if_neg Bool.false_ne_true]
    rfl

/-- The changes between two snapshots are exactly the keys whose values are not loosely equal,
in code-point order; the other way round they exchange their values, and a snapshot has none
against itself. -/
theorem changes_exact {old new : Value} (ho : old.IsSnapshot) (hn : new.IsSnapshot) :
    ∃ cs, old.changes new = .ok cs ∧
      (∀ k v, (k, v) ∈ cs ↔ (k ∈ old.fields.map Prod.fst ∨ k ∈ new.fields.map Prod.fst) ∧
        looseEq ((old.field? k).getD .null) ((new.field? k).getD .null) = false ∧
        v = .record [("from", (old.field? k).getD .null), ("to", (new.field? k).getD .null)]) ∧
      cs.Pairwise (fun c d => textCmp c.1 d.1 = .lt) ∧
      new.changes old = .ok (cs.map Record.reverseChange) ∧
      old.changes old = .ok [] := by
  refine ⟨_, changes_eq_record ho hn, fun k v => ?_, Record.pairwise_changes _ _, ?_, ?_⟩
  · rw [Record.mem_changes, ho.field?_eq, hn.field?_eq]
  · rw [changes_eq_record hn ho, Record.changes_comm ho.fieldsRegular_fields hn.fieldsRegular_fields]
  · rw [changes_eq_record ho ho, Record.changes_self ho.fieldsRegular_fields]

def userBefore : Value :=
  .record [("name", .str "Ana"), ("email", .str "ana@parking.test"), ("visits", .int 1)]

def userAfter : Value :=
  .record [("name", .str "Ana Maria"), ("email", .str "ana@parking.test"), ("visits", .bool true),
    ("note", .null)]

theorem user_correction_changes :
    userBefore.IsSnapshot ∧ userAfter.IsSnapshot ∧
      ∃ cs, userBefore.changes userAfter = .ok cs ∧
        (∀ k v, (k, v) ∈ cs ↔
          (k ∈ userBefore.fields.map Prod.fst ∨ k ∈ userAfter.fields.map Prod.fst) ∧
          looseEq ((userBefore.field? k).getD .null) ((userAfter.field? k).getD .null) = false ∧
          v = .record [("from", (userBefore.field? k).getD .null),
            ("to", (userAfter.field? k).getD .null)]) ∧
        cs.Pairwise (fun c d => textCmp c.1 d.1 = .lt) ∧
        userAfter.changes userBefore = .ok (cs.map Record.reverseChange) ∧
        userBefore.changes userBefore = .ok [] :=
  have hb : userBefore.IsSnapshot := ⟨by decide, .inr ⟨_, rfl⟩⟩
  have ha : userAfter.IsSnapshot := ⟨by decide, .inr ⟨_, rfl⟩⟩
  ⟨hb, ha, changes_exact hb ha⟩

/-- Only the name changed: `true` is the count `1`, and a null note is no note. -/
example : userBefore.changes userAfter =
    .ok [("name", .record [("from", .str "Ana"), ("to", .str "Ana Maria")])] := by
  cbv

end Value

end AuditTrail
