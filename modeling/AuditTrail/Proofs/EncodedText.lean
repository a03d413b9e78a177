import Mathlib
import AuditTrail.Export.Content

/-!
# Texts with a UTF-8 form

A text has a UTF-8 form exactly when it holds no stand-in of a lone surrogate; the service's own
texts of numbers, ids and stamps are ASCII, so a CSV file of such cells can be stored.
-/

namespace AuditTrail

namespace Surrogate

theorem isStandIn_eq_false_of_lt {c : Char} (h : c.toNat < offset) : isStandIn c = false := by
  simp [isStandIn, unit?, Nat.not_le.2 h]

theorem isStandIn_eq_false_of_ascii {c : Char} (h : c.toNat < 128) : isStandIn c = false :=
  isStandIn_eq_false_of_lt (by unfold offset; omega)

@[simp] theorem occursIn_append (a b : String) : occursIn (a ++ b) = (occursIn a || occursIn b) := by
  simp [occursIn, String.toList_append]

@[simp] theorem occursIn_ofList (cs : List Char) : occursIn (String.ofList cs) = cs.any isStandIn := by
  simp [occursIn]

@[simp] theorem occursIn_join (ss : List String) : occursIn (String.join ss) = ss.any occursIn := by
  show (String.join ss).toList.any isStandIn = ss.any fun s => s.toList.any isStandIn
  rw [String.toList_join, List.any_flatMap]

theorem occursIn_intercalate {sep : String} {ss : List String} (hsep : occursIn sep = false)
    (h : ∀ s ∈ ss, occursIn s = false) : occursIn (sep.intercalate ss) = false := by
  induction ss with
  | nil => rfl
  | cons s ss ih =>
    cases ss with
    | nil => simpa using h s (by simp)
    | cons s' ss =>
      rw [String.intercalate_cons_cons]
      simp only [occursIn_append, hsep, h s (by simp), Bool.or_false, Bool.false_or]
      exact ih fun t ht => h t (List.mem_cons_of_mem _ ht)

theorem occursIn_eq_false_of_ascii {s : String} (h : ∀ c ∈ s.toList, c.toNat < 128) :
    occursIn s = false := by
  simp only [occursIn, List.any_eq_false, Bool.not_eq_true]
  exact fun c hc => isStandIn_eq_false_of_ascii (h c hc)

theorem toNat_lt_of_isDigit {c : Char} (h : c.isDigit = true) : c.toNat < 128 := by
  simp only [Char.isDigit, Bool.and_eq_true, decide_eq_true_eq] at h
  have : c.val.toNat ≤ 57 := by simpa [UInt32.le_iff_toNat_le] using h.2
  exact Nat.lt_of_le_of_lt this (by norm_num)

@[simp] theorem occursIn_toString_nat (n : Nat) : occursIn (toString n) = false := by
  refine occursIn_eq_false_of_ascii fun c hc => ?_
  rw [Nat.toString_eq_ofList_toDigits, String.toList_ofList] at hc
  exact toNat_lt_of_isDigit (Nat.isDigit_of_mem_toDigits (by norm_num) (by norm_num) hc)

@[simp] theorem occursIn_repr (n : Nat) : occursIn n.repr = false := by
  rw [← Nat.toString_eq_repr]
  exact occursIn_toString_nat n

theorem occursIn_toString_int (n : Int) : occursIn (toString n) = false := by
  cases n with
  | ofNat n => exact occursIn_toString_nat n
  | negSucc n =>
    show occursIn ("-" ++ Nat.repr (n + 1)) = false
    rw [occursIn_append, occursIn_repr]
    decide

theorem occursIn_replicate (k : Nat) {c : Char} (hc : c.toNat < 128) :
    occursIn (String.ofList (List.replicate k c)) = false := by
  simp [List.any_replicate, isStandIn_eq_false_of_ascii hc]

end Surrogate

open Surrogate

/-- A text has a UTF-8 form exactly when it holds no stand-in. -/
theorem utf8Refusal?_eq_none_iff (s : String) : utf8Refusal? s = none ↔ occursIn s = false := by
  unfold utf8Refusal? encodeRefusalBy
  have hdrop : s.toList.drop (s.toList.takeWhile (fun c => !isStandIn c)).length =
      s.toList.dropWhile (fun c => !isStandIn c) :=
    calc s.toList.drop (s.toList.takeWhile (fun c => !isStandIn c)).length
        = (s.toList.takeWhile (fun c => !isStandIn c) ++
            s.toList.dropWhile (fun c => !isStandIn c)).drop
            (s.toList.takeWhile (fun c => !isStandIn c)).length := by
          rw [List.takeWhile_append_dropWhile]
      _ = s.toList.dropWhile (fun c => !isStandIn c) := List.drop_left
  simp only [hdrop]
  split
  · rename_i h
    simp only [true_iff, occursIn, List.any_eq_false]
    intro c hc
    simpa using List.dropWhile_eq_nil_iff.1 h c hc
  · rename_i c rest h
    have hc : isStandIn c = true := by
      have := List.head_dropWhile_not (fun c => !isStandIn c) (l := s.toList) (by simp [h])
      simp only [h, List.head_cons] at this
      simpa using this
    have hmem : c ∈ s.toList := List.dropWhile_subset _ (h ▸ List.mem_cons_self)
    constructor
    · intro hr
      split at hr <;> cases hr
    · intro hocc
      simp only [occursIn, List.any_eq_false] at hocc
      exact absurd hc (hocc c hmem)

/-! ### Numbers, ids and stamps as text -/

theorem toNat_ofNat_le (m : Nat) : (Char.ofNat m).toNat ≤ m := by
  unfold Char.ofNat
  split
  · simp [Char.ofNatAux]
  · simp

theorem hexDigit_lt {d : Nat} (h : d < 16) : (hexDigit d).toNat < 128 := by
  unfold hexDigit
  split
  · exact Nat.lt_of_le_of_lt (toNat_ofNat_le _) (by omega)
  · exact Nat.lt_of_le_of_lt (toNat_ofNat_le _) (by omega)

theorem ObjectId.occursIn_hex (n : Nat) : occursIn (ObjectId.hex n) = false := by
  refine occursIn_eq_false_of_ascii fun c hc => ?_
  rw [ObjectId.hex, String.toList_ofList] at hc
  obtain ⟨i, -, rfl⟩ := List.mem_map.1 hc
  exact hexDigit_lt (Nat.mod_lt _ (by norm_num))

theorem occursIn_padded (w n : Nat) : occursIn (Stamp.padded w n) = false := by
  simp only [Stamp.padded, occursIn_append, occursIn_replicate _ (c := '0') (by decide),
    occursIn_toString_nat, Bool.or_false]

theorem Stamp.occursIn_dateText (d : Date) : occursIn (Stamp.dateText d) = false := by
  unfold Stamp.dateText
  split_ifs <;> simp +decide [occursIn_padded]

theorem Stamp.occursIn_clockText (t : Stamp) : occursIn (Stamp.clockText t) = false := by
  unfold Stamp.clockText
  split_ifs <;> simp +decide [occursIn_padded]

theorem Stamp.occursIn_offsetText (off : Int) : occursIn (Stamp.offsetText off) = false := by
  unfold Stamp.offsetText
  dsimp only
  split_ifs <;> simp +decide [occursIn_padded]

theorem Stamp.occursIn_iso (t : Stamp) : occursIn t.iso = false := by
  unfold Stamp.iso Stamp.isoWith
  split <;> simp +decide [occursIn_dateText, occursIn_clockText, occursIn_offsetText]

theorem occursIn_exponentText (x : Int) : occursIn (exponentText x) = false := by
  unfold exponentText
  dsimp only
  split_ifs <;> simp +decide

theorem occursIn_placeDigits {ds : List Char} (h : ∀ c ∈ ds, isStandIn c = false)
    (point lo hi : Int) (dotZero : Bool) :
    occursIn (placeDigits ds point lo hi dotZero) = false := by
  have htake : ∀ k, (ds.take k).any isStandIn = false := fun k =>
    List.any_eq_false.2 fun c hc => by simp [h c (List.mem_of_mem_take hc)]
  have hdrop : ∀ k, (ds.drop k).any isStandIn = false := fun k =>
    List.any_eq_false.2 fun c hc => by simp [h c (List.mem_of_mem_drop hc)]
  have hall : ds.any isStandIn = false := List.any_eq_false.2 fun c hc => by simp [h c hc]
  have htail : ∀ c ∈ ds.tail, isStandIn c = false := fun c hc => h c (List.mem_of_mem_tail hc)
  unfold placeDigits
  dsimp only
  split_ifs <;> simp +decide [htake, hdrop, hall, occursIn_exponentText]
  exact htail

theorem Float.occursIn_shortText (x : Float) : occursIn (Float.shortText x) = false := by
  unfold Float.shortText
  have hdigits : ∀ c : Nat, ∀ ch ∈ digitsOf c, isStandIn ch = false := fun c ch hch =>
    isStandIn_eq_false_of_ascii <| toNat_lt_of_isDigit <| by
      rw [digitsOf, Nat.toString_eq_ofList_toDigits, String.toList_ofList] at hch
      exact Nat.isDigit_of_mem_toDigits (by norm_num) (by norm_num) hch
  split_ifs
  · decide
  · decide
  · decide
  all_goals
    dsimp only
    split_ifs <;> simp +decide [occursIn_placeDigits (hdigits _)]

namespace Json

theorem occursIn_hex4 (n : Nat) : occursIn (hex4 n) = false := by
  refine occursIn_eq_false_of_ascii fun c hc => ?_
  simp only [hex4, String.toList_ofList, List.mem_cons, List.not_mem_nil, or_false] at hc
  rcases hc with rfl | rfl | rfl | rfl <;> exact hexDigit_lt (Nat.mod_lt _ (by norm_num))

theorem occursIn_unitEscape (c : Char) : occursIn (unitEscape c) = false := by
  unfold unitEscape
  dsimp only
  split_ifs <;> simp +decide [occursIn_hex4]

theorem occursIn_escapeChar (ascii : Bool) (c : Char) : occursIn (escapeChar ascii c) = false := by
  unfold escapeChar
  split
  any_goals decide
  rename_i hne
  split_ifs with hesc
  · exact occursIn_unitEscape c
  · simp only [Bool.or_eq_true, not_or] at hesc
    simpa [occursIn] using hesc.2

theorem occursIn_quote (ascii : Bool) (s : String) : occursIn (quote ascii s) = false := by
  simp +decide [quote, List.any_map, occursIn_escapeChar]

theorem occursIn_floatText (x : Float) : occursIn (floatText x) = false := by
  unfold floatText
  split_ifs <;> simp +decide [Float.occursIn_shortText]

theorem occursIn_newline (st : Style) (d : Nat) : occursIn (newline st d) = false := by
  unfold newline
  split <;> simp +decide

section Layout

variable {st : Style} (hsep : occursIn st.itemSep = false) (hkey : occursIn st.keySep = false)

include hsep in
theorem occursIn_bracket (d : Nat) {o c : String} (ho : occursIn o = false)
    (hc : occursIn c = false) {items : List String} (h : ∀ s ∈ items, occursIn s = false) :
    occursIn (bracket st d o c items) = false := by
  have hsepAt : occursIn (itemSepAt st (d + 1)) = false := by
    simp [itemSepAt, hsep, occursIn_newline]
  unfold bracket
  split_ifs <;> simp [ho, hc, occursIn_newline, occursIn_intercalate hsepAt h]

include hsep hkey

-- one induction over the value and its items and fields, following `write`; the linter does
-- not see the separators used through the mutual calls
set_option linter.unusedSectionVars false in
mutual
theorem occursIn_write : ∀ (d : Nat) (v : Value), occursIn (write st d v) = false
  | _, .null => by simp only [write]; decide
  | _, .bool b => by cases b <;> simp only [write] <;> decide
  | _, .int n => occursIn_toString_int n
  | _, .float x => occursIn_floatText x
  | _, .str s => occursIn_quote _ s
  | d, .list xs =>
    occursIn_bracket hsep d (by decide) (by decide) (occursIn_writeItems d xs)
  | d, .tuple xs =>
    occursIn_bracket hsep d (by decide) (by decide) (occursIn_writeItems d xs)
  | d, .record fs =>
    occursIn_bracket hsep d (by decide) (by decide) (occursIn_writeFields d fs)
  | _, .stamp t => occursIn_quote _ _
  | _, .objectId n => occursIn_quote _ _
  | _, .decimal s => occursIn_quote _ _
  | _, .member _ v => occursIn_quote _ v
theorem occursIn_writeItems : ∀ (d : Nat) (xs : List Value), ∀ s ∈ writeItems st d xs,
    occursIn s = false
  | _, [] => by simp [writeItems]
  | d, x :: xs => by
    simp only [writeItems, List.mem_cons, forall_eq_or_imp]
    exact ⟨occursIn_write (d + 1) x, occursIn_writeItems d xs⟩
theorem occursIn_writeFields : ∀ (d : Nat) (fs : List (String × Value)),
    ∀ s ∈ writeFields st d fs, occursIn s = false
  | _, [] => by simp [writeFields]
  | d, (k, x) :: fs => by
    simp only [writeFields, List.mem_cons, forall_eq_or_imp, occursIn_append, occursIn_quote,
      hkey, occursIn_write (d + 1) x]
    exact ⟨rfl, occursIn_writeFields d fs⟩
end

end Layout

theorem occursIn_render_spaced (v : Value) : occursIn (render Style.spaced v) = false :=
  occursIn_write (by decide) (by decide) 0 v

end Json

namespace Csv

theorem occursIn_field {s : String} (h : occursIn s = false) : occursIn (field s) = false := by
  unfold field
  split_ifs
  · simp only [occursIn_append, occursIn_join, List.any_map, Bool.or_eq_false_iff]
    refine ⟨⟨by decide, List.any_eq_false.2 fun c hc => ?_⟩, by decide⟩
    simp only [Function.comp_apply]
    split
    · decide
    · simp only [occursIn] at h
      simpa [occursIn] using List.any_eq_false.1 h c hc
  · exact h

theorem occursIn_line {fields : List String} (h : ∀ s ∈ fields, occursIn s = false) :
    occursIn (line fields) = false := by
  unfold line
  rw [occursIn_append, occursIn_intercalate (by decide) fun s hs => ?_]
  · decide
  · obtain ⟨t, ht, rfl⟩ := List.mem_map.1 hs
    exact occursIn_field (h t ht)

theorem occursIn_write {rows : List Row}
    (h : ∀ r ∈ rows, ∀ v ∈ r.cells, occursIn (cellText v) = false) :
    occursIn (write rows) = false := by
  unfold write
  rw [occursIn_append, occursIn_line (by decide), Bool.false_or, occursIn_join]
  refine List.any_eq_false.2 fun s hs => ?_
  obtain ⟨r, hr, rfl⟩ := List.mem_map.1 hs
  rw [occursIn_line fun t ht => ?_]
  · decide
  · obtain ⟨v, hv, rfl⟩ := List.mem_map.1 ht
    exact h r hr v hv

end Csv

end AuditTrail
