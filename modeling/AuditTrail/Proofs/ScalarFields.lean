import AuditTrail.Store.Collection
import AuditTrail.Proofs.Monadic

/-!
# Conditions on documents whose tested fields are scalars

When a path ends on a scalar (`Value.ScalarAt`), a condition's tests are asked of the one value
`atPath` finds, and each filter's test comes down to a plain statement about it.
-/

namespace AuditTrail

theorem splitOnAux_ne_nil (s sep : String) (b i j : String.Pos.Raw) (r : List String) :
    String.splitOnAux s sep b i j r ≠ [] := by
  fun_induction String.splitOnAux s sep b i j r with
  | case1 => simp
  | case2 => assumption
  | case3 => assumption
  | case4 => assumption

theorem splitOn_ne_nil (s sep : String) : s.splitOn sep ≠ [] := by
  unfold String.splitOn
  split
  · simp
  · exact splitOnAux_ne_nil _ _ _ _ _ _

namespace Value

def IsScalar : Value → Prop
  | .list _ | .tuple _ | .record _ => False
  | _ => True

def pathValue (ks : List String) (v : Value) : Option Value :=
  ks.foldl (fun acc k => acc.bind (·.field? k)) (some v)

/-- A path ends on a scalar or on nothing: no list stands on its way, and what it ends on is not
a container. -/
def ScalarAt : List String → Value → Prop
  | [], v => v.IsScalar
  | _ :: _, .list _ => False
  | k :: ks, .record r => ∀ x, Record.get? r k = some x → ScalarAt ks x
  | _ :: _, _ => True

theorem atPath_eq_pathValue (v : Value) (path : String) :
    v.atPath path = pathValue (path.splitOn ".") v := rfl

theorem foldl_bind_none (ks : List String) :
    ks.foldl (fun acc k => acc.bind (·.field? k)) (none : Option Value) = none := by
  induction ks with
  | nil => rfl
  | cons k ks ih => exact ih

@[simp] theorem pathValue_nil (v : Value) : pathValue [] v = some v := rfl

theorem pathValue_cons (k : String) (ks : List String) (v : Value) :
    pathValue (k :: ks) v = (v.field? k).bind (pathValue ks) := by
  cases h : v.field? k with
  | none => simp [pathValue, h, foldl_bind_none]
  | some x => simp [pathValue, h]

theorem reach_record_nil (ks : List String) (hks : ks ≠ []) :
    reach ks (.record []) = [none] := by
  induction ks with
  | nil => exact absurd rfl hks
  | cons k ks ih =>
    cases ks with
    | nil => rfl
    | cons k' ks' => simpa [reach] using ih (by simp)

theorem reach_of_scalarAt (ks : List String) (v : Value) (h : ScalarAt ks v) :
    reach ks v = [pathValue ks v] ∨
      (reach ks v = [] ∧ (pathValue ks v = none ∨ pathValue ks v = some .null)) := by
  induction ks generalizing v with
  | nil =>
    cases v <;> simp_all [reach, ScalarAt, IsScalar]
  | cons k ks ih =>
    cases v with
    | null => simp [reach, pathValue_cons, field?]
    | list xs => simp [ScalarAt] at h
    | record r =>
      cases ks with
      | nil =>
        left
        cases Record.get? r k <;> rfl
      | cons k' ks' =>
        cases hr : Record.get? r k with
        | none =>
          left
          simp [reach, hr, pathValue_cons, field?, reach_record_nil]
        | some x =>
          have hx : ScalarAt (k' :: ks') x := h x hr
          simpa [reach, hr, pathValue_cons, field?] using ih x hx
    | _ => simp [reach, pathValue_cons, field?]

theorem isScalar_of_pathValue {ks : List String} {v y : Value} (h : ScalarAt ks v)
    (hy : pathValue ks v = some y) : y.IsScalar := by
  induction ks generalizing v with
  | nil =>
    simp only [pathValue_nil, Option.some.injEq] at hy
    subst hy
    exact h
  | cons k ks ih =>
    rw [pathValue_cons] at hy
    cases v with
    | list xs => simp [ScalarAt] at h
    | record r =>
      cases hr : Record.get? r k with
      | none => simp [field?, hr] at hy
      | some x => exact ih (h x hr) (by simpa [field?, hr] using hy)
    | _ => simp [field?] at hy

theorem scalarAt_of_fields_scalar {d : Record} (hd : ∀ p ∈ d, p.2.IsScalar) :
    ∀ ks : List String, ks ≠ [] → ScalarAt ks (.record d)
  | [], hks => absurd rfl hks
  | k :: ks, _ => by
    intro x hx
    have hsx : x.IsScalar := hd (k, x) (by
      obtain ⟨p, hp, rfl⟩ := Option.map_eq_some_iff.mp hx
      have := List.find?_some hp
      simp only [beq_iff_eq] at this
      exact this ▸ List.mem_of_find?_eq_some hp)
    cases ks with
    | nil => exact hsx
    | cons k' ks' => cases x <;> simp_all [ScalarAt, IsScalar]

theorem candidates_of_isScalar {y : Value} (h : y.IsScalar) : y.candidates = [y] := by
  cases y <;> simp_all [candidates, IsScalar]

theorem storeEq_str (y : Value) (a : String) : storeEq y (.str a) = (y.textOf? == some a) := by
  cases y <;> simp [storeEq, textOf?, equalityNum?, exactNum?]

theorem storeCmp_stamp (a b : Stamp) : storeCmp (.stamp a) (.stamp b) = compare a.utc b.utc := rfl

end Value

namespace Case

/-- Ignoring case, `needle` occurs in `hay`: a stretch of `hay` matches it character by
character (`foldsTo`). -/
def ContainsIgnoringCase (hay needle : List Char) : Prop :=
  ∃ pre mid post, hay = pre ++ mid ++ post ∧
    List.Forall₂ (fun p t => foldsTo p t = true) needle mid

theorem matchesAt_iff (needle hay : List Char) :
    (needle.length ≤ hay.length && (List.zipWith foldsTo needle (hay.take needle.length)).all id)
      = true ↔ ∃ mid post, hay = mid ++ post ∧
        List.Forall₂ (fun p t => foldsTo p t = true) needle mid := by
  induction needle generalizing hay with
  | nil => simp
  | cons p ps ih =>
    cases hay with
    | nil => simp
    | cons t ts =>
      have ih := ih ts
      simp only [List.length_cons, Nat.add_le_add_iff_right, List.take_succ_cons,
        List.zipWith_cons_cons, List.all_cons, id, Bool.and_eq_true, decide_eq_true_eq] at ih ⊢
      constructor
      · rintro ⟨hlen, hpt, hrest⟩
        obtain ⟨mid, post, rfl, hmid⟩ := ih.mp ⟨hlen, hrest⟩
        exact ⟨t :: mid, post, rfl, .cons hpt hmid⟩
      · rintro ⟨mid, post, hts, hmid⟩
        cases hmid with
        | cons hpt hrest =>
          simp only [List.cons_append, List.cons.injEq] at hts
          obtain ⟨rfl, rfl⟩ := hts
          have hts := ih.mpr ⟨_, post, rfl, hrest⟩
          exact ⟨hts.1, hpt, hts.2⟩

/-- Case-blind search finds exactly the stretches that match the needle character by
character: what the store's escaped, case-ignoring pattern matches is the needle read
literally. -/
theorem containsFolded_iff (hay needle : List Char) :
    containsFolded hay needle = true ↔ ContainsIgnoringCase hay needle := by
  induction hay with
  | nil =>
    constructor
    · intro h
      have hn : needle = [] := by simpa [containsFolded] using h
      subst hn
      exact ⟨[], [], [], rfl, .nil⟩
    · rintro ⟨pre, mid, post, hnil, hmid⟩
      have hmid' : mid = [] := by simp_all
      subst hmid'
      cases hmid
      rfl
  | cons c rest ih =>
    rw [containsFolded, Bool.or_eq_true, matchesAt_iff, ih]
    constructor
    · rintro (⟨mid, post, hhay, hmid⟩ | ⟨pre, mid, post, hrest, hmid⟩)
      · exact ⟨[], mid, post, by simpa using hhay, hmid⟩
      · exact ⟨c :: pre, mid, post, by simp [hrest], hmid⟩
    · rintro ⟨pre, mid, post, hhay, hmid⟩
      cases pre with
      | nil => exact .inl ⟨mid, post, by simpa using hhay, hmid⟩
      | cons c' pre =>
        simp only [List.cons_append, List.cons.injEq] at hhay
        exact .inr ⟨pre, mid, post, hhay.2, hmid⟩

end Case

namespace Test

/-- A test that fails on an absent value and on null alike, or passes on both when it asks for
a difference. -/
def Blind (t : Test) : Prop :=
  t.holds none = .ok t.isNegative ∧ t.holds (some .null) = .ok t.isNegative

section
variable (x : Option Value) (hx : ∀ y, x = some y → y.IsScalar)
include hx

theorem eqHolds_str (a : String) : eqHolds (.str a) x = (x.bind Value.textOf? == some a) := by
  cases x with
  | none => rfl
  | some y => simp [eqHolds, Value.candidates_of_isScalar (hx y rfl), Value.storeEq_str]

theorem cmpHolds_stamp_eq_ok_true (s : Stamp) (ok : Ordering → Bool) :
    cmpHolds (.stamp s) ok x = .ok true ↔
      ∃ t, x = some (.stamp t) ∧ ok (compare t.utc s.utc) = true := by
  cases x with
  | none => simp [cmpHolds]
  | some y =>
    rw [cmpHolds, Value.candidates_of_isScalar (hx y rfl), anyM_singleton]
    cases y with
    | stamp t =>
      simp [Value.sortRank, Value.rank, Value.storeCmp_stamp, bind, Except.bind, pure,
        Except.pure]
    | decimal d => simp [Value.sortRank, bind, Except.bind]
    | _ => simp [Value.sortRank, Value.rank, bind, Except.bind, pure, Except.pure]

theorem holds_atLeast_stamp_eq_ok_true (s : Stamp) :
    (Test.atLeast (.stamp s)).holds x = .ok true ↔ ∃ t, x = some (.stamp t) ∧ s.utc ≤ t.utc := by
  rw [holds, cmpHolds_stamp_eq_ok_true x hx]
  simp only [bne_iff_ne, ne_eq, Int.compare_eq_lt, Int.not_lt]

theorem holds_atMost_stamp_eq_ok_true (s : Stamp) :
    (Test.atMost (.stamp s)).holds x = .ok true ↔ ∃ t, x = some (.stamp t) ∧ t.utc ≤ s.utc := by
  rw [holds, cmpHolds_stamp_eq_ok_true x hx]
  simp only [bne_iff_ne, ne_eq, Int.compare_eq_gt, Int.not_lt]

theorem holds_contains_eq_ok_true (n : String) :
    (Test.contains n).holds x = .ok true ↔
      ∃ t, x.bind Value.textOf? = some t ∧ Case.containsFolded t.toList n.toList = true := by
  cases x with
  | none => simp [holds]
  | some y =>
    rw [holds, Value.candidates_of_isScalar (hx y rfl)]
    cases y <;> simp [Value.textOf?]

theorem holds_notEq_true_eq_ok_true :
    (Test.notEq (.bool true)).holds x = .ok true ↔
      ∀ y, x = some y → Value.storeEq y (.bool true) = false := by
  cases x with
  | none => simp [holds, eqHolds, Value.isNull]
  | some y => simp [holds, eqHolds, Value.candidates_of_isScalar (hx y rfl)]

end

theorem eqHolds_str_null (a : String) : eqHolds (.str a) (some .null) = false := by
  simp [eqHolds, Value.candidates, Value.storeEq_str, Value.textOf?]

theorem blind_eq_str (a : String) : (Test.eq (.str a)).Blind := by
  constructor <;> rfl

theorem blind_isIn_str (as : List String) : (Test.isIn (as.map .str)).Blind := by
  constructor
  · simp [holds, isNegative, eqHolds, Value.isNull]
  · simp [holds, isNegative, eqHolds_str_null]

theorem blind_atLeast_stamp (s : Stamp) : (Test.atLeast (.stamp s)).Blind := by
  constructor <;> simp [holds, cmpHolds, isNegative, Value.candidates, Value.sortRank,
    Value.rank, bind, Except.bind, pure, Except.pure]

theorem blind_atMost_stamp (s : Stamp) : (Test.atMost (.stamp s)).Blind := by
  constructor <;> simp [holds, cmpHolds, isNegative, Value.candidates, Value.sortRank,
    Value.rank, bind, Except.bind, pure, Except.pure]

theorem blind_contains (n : String) : (Test.contains n).Blind := by
  constructor <;> simp [holds, isNegative, Value.candidates]

theorem blind_notEq_true : (Test.notEq (.bool true)).Blind := by
  constructor
  · rfl
  · simp [holds, isNegative, eqHolds, Value.candidates]
    rfl

theorem allHold_singleton (tests : List Test) (x : Option Value) :
    allHold tests [x] = tests.allM (·.holds x) := by
  unfold allHold
  split
  · simp only [List.isEmpty_cons, Bool.false_eq_true, ↓reduceIte]
    exact allM_singleton _ _
  · exact anyM_singleton _ _

theorem allHold_nil (tests : List Test) (hne : tests ≠ []) :
    allHold tests [] = .ok (tests.all isNegative) := by
  unfold allHold
  split
  · rfl
  · obtain ⟨t, ts, rfl⟩ := List.exists_cons_of_ne_nil hne
    have ht : t.isNegative = false := by simp_all
    simp [List.anyM, ht, pure, Except.pure]

theorem allM_holds_eq_of_blind (tests : List Test) (x : Option Value)
    (h : ∀ t ∈ tests, t.holds x = .ok t.isNegative) :
    tests.allM (·.holds x) = .ok (tests.all isNegative) := by
  induction tests with
  | nil => rfl
  | cons t ts ih =>
    have ht := h t (by simp)
    have ih := ih (fun u hu => h u (by simp [hu]))
    cases hn : t.isNegative <;> simp_all [List.allM, bind, Except.bind, pure, Except.pure]

end Test

namespace Clause

theorem holds_field_of_scalarAt (path : String) (tests : List Test) (doc : Value)
    (h : doc.ScalarAt (path.splitOn ".")) (hne : tests ≠ [])
    (hb : ∀ t ∈ tests, t.Blind) :
    (Clause.field path tests).holds doc = tests.allM (·.holds (doc.atPath path)) := by
  show Test.allHold tests (doc.reach (path.splitOn ".")) = _
  rw [Value.atPath_eq_pathValue]
  rcases Value.reach_of_scalarAt _ _ h with h1 | ⟨h1, h2 | h2⟩
  · rw [h1, Test.allHold_singleton]
  · rw [h1, Test.allHold_nil _ hne, h2,
      Test.allM_holds_eq_of_blind _ _ (fun t ht => (hb t ht).1)]
  · rw [h1, Test.allHold_nil _ hne, h2,
      Test.allM_holds_eq_of_blind _ _ (fun t ht => (hb t ht).2)]

theorem storedAll_eq_map (cs : List Clause) : storedAll cs = cs.map stored := by
  induction cs with
  | nil => rfl
  | cons c cs ih => simp [storedAll, ih]

theorem anyHolds_eq_ok_true_iff (doc : Value) (cs : List Clause)
    (hcs : ∀ c ∈ cs, ∃ b, c.holds doc = .ok b) :
    anyHolds doc cs = .ok true ↔ ∃ c ∈ cs, c.holds doc = .ok true := by
  induction cs with
  | nil => simp [anyHolds]
  | cons c cs ih =>
    obtain ⟨b, hc⟩ := hcs c (by simp)
    have ih := ih (fun c' hc' => hcs c' (by simp [hc']))
    cases b with
    | true => simp [anyHolds, hc, bind, Except.bind, pure, Except.pure]
    | false => simp [anyHolds, hc, bind, Except.bind, ih]

end Clause

theorem Cond.holds_storedAll_eq_ok_true_iff (cs : List Clause) (doc : Value) :
    Cond.holds (Clause.storedAll cs) doc = .ok true ↔
      ∀ c ∈ cs, c.stored.holds doc = .ok true := by
  rw [Cond.holds, allM_eq_ok_true_iff, Clause.storedAll_eq_map, List.forall_mem_map]

end AuditTrail
