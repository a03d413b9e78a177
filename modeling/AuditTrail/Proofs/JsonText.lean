import Mathlib
import AuditTrail.Json.Read
import AuditTrail.Proofs.EncodedText

/-!
# Reading written JSON back

`Json.parse (Json.render st v) = .ok v` for every readable style and every value JSON holds
without loss (`Json.Plain`). Positions are described by the text that remains from them.
-/

namespace AuditTrail

namespace Surrogate

def isHigh (c : Char) : Bool := isStandIn c && code c < 0xDC00

def isLow (c : Char) : Bool := isStandIn c && 0xDC00 ≤ code c

/-- Whether a text holds a high surrogate's stand-in directly before a low one's. -/
def splitsPair : List Char → Bool
  | a :: b :: rest => (isHigh a && isLow b) || splitsPair (b :: rest)
  | _ => false

theorem splitsPair_eq_false {cs : List Char} (h : ∀ c ∈ cs, isStandIn c = false) :
    splitsPair cs = false := by
  induction cs with
  | nil => rfl
  | cons a cs ih =>
    cases cs with
    | nil => rfl
    | cons b rest =>
      simp only [splitsPair, isHigh, h a List.mem_cons_self, Bool.false_and, Bool.false_or]
      exact ih fun c hc => h c (List.mem_cons_of_mem a hc)

theorem splitsPair_of_occursIn {t : String} (h : occursIn t = false) : splitsPair t.toList = false :=
  splitsPair_eq_false fun c hc => by
    simp only [occursIn, List.any_eq_false] at h
    simpa using h c hc

theorem code_of_not_standIn {c : Char} (h : isStandIn c = false) : code c = c.toNat := by
  cases hu : unit? c with
  | none => simp [code, hu]
  | some u => simp [isStandIn, hu] at h

theorem standIn_code {c : Char} (h : isStandIn c = true) :
    standIn (code c) = c ∧ 0xD800 ≤ code c ∧ code c ≤ 0xDFFF := by
  cases hu : unit? c with
  | none => simp [isStandIn, hu] at h
  | some u =>
    have hu' := hu
    unfold unit? at hu'
    split_ifs at hu' with hc
    simp only [isUnit, Bool.and_eq_true, decide_eq_true_eq] at hc
    simp only [code, hu, Option.getD_some]
    rw [← Option.some.inj hu']
    refine ⟨?_, hc.1.1, hc.1.2⟩
    rw [standIn, Nat.add_sub_cancel' hc.2, Char.ofNat_toNat]

theorem code_lt (c : Char) : code c < 0x110000 := by
  cases hs : isStandIn c
  · rw [code_of_not_standIn hs]
    have hv : c.toNat < 0xd800 ∨ (0xdfff < c.toNat ∧ c.toNat < 0x110000) := c.valid
    omega
  · have := (standIn_code hs).2.2
    omega

theorem code_valid_of_not_standIn {c : Char} (h : isStandIn c = false) :
    code c = c.toNat ∧ (c.toNat < 0xD800 ∨ (0xDFFF < c.toNat ∧ c.toNat < 0x110000)) :=
  ⟨code_of_not_standIn h, c.valid⟩

end Surrogate

namespace Record

theorem set_of_not_mem {r : Record} {k : String} (v : Value) (h : k ∉ r.map Prod.fst) :
    r.set k v = r ++ [(k, v)] := by
  have hk : r.contains k = false := by
    simp only [contains, List.any_eq_false, beq_iff_eq]
    exact fun p hp he => h (List.mem_map.2 ⟨p, hp, he⟩)
  simp [set, hk]

end Record

namespace Json

open Surrogate

/-! ### Positions as remaining text -/

section Cursor

variable {s : Array Char} {i : Nat}

theorem at?_add_of_drop {u : List Char} (h : s.toList.drop i = u) (p : Nat) :
    at? s (i + p) = u[p]? := by
  rw [← h, List.getElem?_drop, Array.getElem?_toList]
  rfl

theorem at?_of_drop {u : List Char} (h : s.toList.drop i = u) : at? s i = u.head? := by
  simpa [List.head?_eq_getElem?] using at?_add_of_drop h 0

theorem drop_add_of_drop {w u : List Char} (h : s.toList.drop i = w ++ u) :
    s.toList.drop (i + w.length) = u := by
  rw [← List.drop_drop, h, List.drop_left]

theorem drop_succ_of_drop {c : Char} {u : List Char} (h : s.toList.drop i = c :: u) :
    s.toList.drop (i + 1) = u :=
  drop_add_of_drop (w := [c]) h

theorem drop_two_of_drop {a c : Char} {u : List Char} (h : s.toList.drop i = a :: c :: u) :
    s.toList.drop (i + 2) = u :=
  drop_add_of_drop (w := [a, c]) h

theorem lt_size_of_drop {c : Char} {u : List Char} (h : s.toList.drop i = c :: u) :
    i < s.size := by
  have hlen := congrArg List.length h
  simp only [List.length_drop, Array.length_toList, List.length_cons] at hlen
  omega

theorem size_of_drop {u : List Char} (h : s.toList.drop i = u) (hu : u ≠ []) :
    s.size = i + u.length := by
  have hlen := congrArg List.length h
  simp only [List.length_drop, Array.length_toList] at hlen
  have : u.length ≠ 0 := by simpa using hu
  omega

theorem getElem_of_drop {c : Char} {u : List Char} (h : s.toList.drop i = c :: u)
    (hi : i < s.size) : s[i] = c := by
  have := at?_of_drop h
  simp only [at?, List.head?_cons, Array.getElem?_eq_getElem hi, Option.some.injEq] at this
  exact this

theorem skipBlanks_go_of_drop {b u : List Char} (hb : ∀ c ∈ b, isBlank c = true)
    (hu : ∀ c ∈ u.head?, isBlank c = false) :
    ∀ n i, s.toList.drop i = b ++ u → b.length ≤ n → skipBlanks.go s n i = i + b.length := by
  induction b with
  | nil =>
    intro n i h _
    cases n with
    | zero => rfl
    | succ n =>
      simp only [List.nil_append] at h
      simp only [skipBlanks.go, List.length_nil, Nat.add_zero]
      split
      · rename_i hi
        cases u with
        | nil => simp [List.drop_eq_nil_iff] at h; omega
        | cons c u => simp [getElem_of_drop h hi, hu c rfl]
      · rfl
  | cons c b ih =>
    intro n i h hn
    obtain ⟨n, rfl⟩ : ∃ m, n = m + 1 := ⟨n - 1, by simp at hn; omega⟩
    have hi := lt_size_of_drop h
    simp only [skipBlanks.go, dif_pos hi, getElem_of_drop h hi, hb c (by simp), if_true]
    rw [ih (fun c hc => hb c (List.mem_cons_of_mem _ hc)) n (i + 1) (drop_succ_of_drop h)
      (by simp at hn; omega)]
    simp
    omega

theorem skipBlanks_of_drop {b u : List Char} (h : s.toList.drop i = b ++ u)
    (hb : ∀ c ∈ b, isBlank c = true) (hu : ∀ c ∈ u.head?, isBlank c = false) :
    skipBlanks s i = i + b.length := by
  -- the loop runs on the number of characters left, which is at least the blanks
  refine skipBlanks_go_of_drop hb hu _ i h ?_
  have hlen := congrArg List.length h
  simp only [List.length_drop, Array.length_toList, List.length_append] at hlen
  omega

theorem skipBlanks_of_head {u : List Char} (h : s.toList.drop i = u)
    (hu : ∀ c ∈ u.head?, isBlank c = false) : skipBlanks s i = i := by
  simpa using skipBlanks_of_drop (b := []) (by simpa using h) (by simp) hu

theorem lookingAt_of_drop {w : String} {u : List Char} (h : s.toList.drop i = w.toList ++ u) :
    lookingAt s i w = true := by
  simp only [lookingAt, List.all_eq_true]
  rintro ⟨c, j⟩ hmem
  rw [List.mem_zipIdx_iff_getElem?] at hmem
  obtain ⟨hj, -⟩ := List.getElem?_eq_some_iff.1 hmem
  rw [at?_add_of_drop h, List.getElem?_append_left hj]
  simp [hmem]

theorem lookingAt_eq_false {w : String} {c : Char} {cs : List Char} (hw : w.toList = c :: cs)
    (h : at? s i ≠ some c) : lookingAt s i w = false := by
  simp only [lookingAt, hw, List.all_eq_false]
  exact ⟨(c, 0), by simp [List.zipIdx_cons], by simpa using h⟩

end Cursor

/-! ### Hexadecimal units -/

theorem hexValue?_hexDigit {d : Nat} (h : d < 16) : hexValue? (hexDigit d) = some d := by
  have key : ∀ d : Fin 16, hexValue? (hexDigit d) = some d.val := by decide
  exact key ⟨d, h⟩

theorem hex4At?_of_drop {s : Array Char} {i n : Nat} {u : List Char}
    (h : s.toList.drop i = (hex4 n).toList ++ u) (hn : n < 0x10000) : hex4At? s i = some n := by
  have hat := at?_add_of_drop h
  simp only [hex4, String.toList_ofList, List.cons_append, List.nil_append] at hat
  simp only [hex4At?, show List.range 4 = [0, 1, 2, 3] by rfl, List.foldl_cons, List.foldl_nil,
    Option.bind_some, hat, List.getElem?_cons_zero, List.getElem?_cons_succ,
    hexValue?_hexDigit (Nat.mod_lt _ (by norm_num : 16 > 0)), Option.map_some, Option.some.injEq]
  omega

/-! ### Texts -/

section Texts

variable {s : Array Char} {i b : Nat}

def leadUnit (c : Char) : Nat :=
  if code c < 0x10000 then code c else 0xD800 + (code c - 0x10000) / 1024

theorem leadUnit_lt (c : Char) : leadUnit c < 0x10000 := by
  have := code_lt c
  unfold leadUnit
  split <;> omega

theorem isLow_of_leadUnit {c : Char} (h : 0xDC00 ≤ leadUnit c ∧ leadUnit c ≤ 0xDFFF) :
    isLow c = true := by
  unfold leadUnit at h
  cases hs : isStandIn c
  · -- a code point is no surrogate, and the leading unit of a pair is a high one
    have hv : c.toNat < 0xd800 ∨ (0xdfff < c.toNat ∧ c.toNat < 0x110000) := c.valid
    rw [code_of_not_standIn hs] at h
    split_ifs at h <;> omega
  · simp only [isLow, hs, Bool.true_and, decide_eq_true_eq]
    split_ifs at h <;> omega

@[simp] theorem length_hex4 (n : Nat) : (hex4 n).toList.length = 4 := by simp [hex4]

theorem unitEscape_toList_of_lt {c : Char} (h : code c < 0x10000) :
    (unitEscape c).toList = '\\' :: 'u' :: (hex4 (code c)).toList := by
  simp [unitEscape, h]

theorem toList_unitPair (hi lo : Nat) :
    ("\\u" ++ hex4 hi ++ "\\u" ++ hex4 lo).toList =
      '\\' :: 'u' :: (hex4 hi).toList ++ '\\' :: 'u' :: (hex4 lo).toList := by
  have hu : "\\u".toList = ['\\', 'u'] := by simp
  simp only [String.toList_append, hu, List.cons_append, List.nil_append, List.append_assoc]

theorem unitEscape_of_ge {c : Char} (h : 0x10000 ≤ code c) :
    unitEscape c = "\\u" ++ hex4 (0xD800 + (code c - 0x10000) / 1024) ++ "\\u" ++
      hex4 (0xDC00 + (code c - 0x10000) % 1024) := by
  rw [unitEscape, if_neg (Nat.not_lt.2 h)]

theorem unitEscape_toList_lead (c : Char) :
    ∃ r, (unitEscape c).toList = '\\' :: 'u' :: (hex4 (leadUnit c)).toList ++ r := by
  by_cases h : code c < 0x10000
  · exact ⟨[], by simp [unitEscape_toList_of_lt h, leadUnit, h]⟩
  · refine ⟨'\\' :: 'u' :: (hex4 (0xDC00 + (code c - 0x10000) % 1024)).toList, ?_⟩
    rw [unitEscape_of_ge (by omega), toList_unitPair, leadUnit, if_neg h]

theorem escapeChar_cases (ascii : Bool) (c : Char) :
    ((escapeChar ascii c).toList = [c] ∧ c ≠ '"' ∧ c ≠ '\\' ∧ 0x20 ≤ c.toNat ∧
      isStandIn c = false) ∨
    (∃ e, (escapeChar ascii c).toList = ['\\', e] ∧ e ≠ 'u' ∧ simpleEscape? e = some c ∧
      isStandIn c = false) ∨
    escapeChar ascii c = unitEscape c := by
  unfold escapeChar
  split
  · exact .inr (.inl ⟨'"', by decide, by decide, rfl, by decide⟩)
  · exact .inr (.inl ⟨'\\', by decide, by decide, rfl, by decide⟩)
  · exact .inr (.inl ⟨'n', by decide, by decide, rfl, by decide⟩)
  · exact .inr (.inl ⟨'r', by decide, by decide, rfl, by decide⟩)
  · exact .inr (.inl ⟨'t', by decide, by decide, rfl, by decide⟩)
  · exact .inr (.inl ⟨'b', by decide, by decide, rfl, by decide⟩)
  · exact .inr (.inl ⟨'f', by decide, by decide, rfl, by decide⟩)
  · rename_i hq hb _ _ _ _ _
    split_ifs with hesc
    · exact .inr (.inr rfl)
    · simp only [Bool.or_eq_true, decide_eq_true_eq, Bool.and_eq_true, not_or, not_and,
        not_le] at hesc
      exact .inl ⟨by simp, hq, hb, by omega, by simpa using hesc.2⟩

theorem scanString_unitEscape {c : Char} {t acc : List Char} {fuel : Nat}
    (h : s.toList.drop i = (unitEscape c).toList ++ t) (ht : t ≠ [])
    (hnext : isHigh c = true → at? s (i + 6) = some '\\' → at? s (i + 7) = some 'u' →
      ∃ lo, hex4At? s (i + 8) = some lo ∧ ¬(0xDC00 ≤ lo ∧ lo ≤ 0xDFFF)) :
    scanString s b (fuel + 1) i acc =
      scanString s b fuel (i + (unitEscape c).toList.length) (c :: acc) := by
  have hsize := size_of_drop h (by simp [ht])
  obtain ⟨r, hr⟩ := unitEscape_toList_lead c
  have h0 : at? s i = some '\\' := by rw [at?_of_drop h, hr]; rfl
  have h1 : at? s (i + 1) = some 'u' := by rw [at?_add_of_drop h, hr]; rfl
  by_cases hc : code c < 0x10000
  · -- one unit: the code itself, or a surrogate's stand-in
    have hw := unitEscape_toList_of_lt hc
    -- rewriting only: the kernel must not unfold the digits' text
    replace h : s.toList.drop i = '\\' :: 'u' :: ((hex4 (code c)).toList ++ t) := by
      rw [h, hw, List.cons_append, List.cons_append]
    have hlen : (unitEscape c).toList.length = 6 := by
      rw [hw, List.length_cons, List.length_cons, length_hex4]
    have hsz : i + 6 < s.size := by
      rw [hsize, List.length_append, hlen]
      have := List.length_pos_of_ne_nil ht
      omega
    have hhex : hex4At? s (i + 2) = some (code c) := hex4At?_of_drop (drop_two_of_drop h) hc
    rw [hlen]
    simp only [scanString, h0, h1, hhex]
    rw [if_neg (by omega)]
    split_ifs with hm hs
    · -- the merge check passes only for a high stand-in, and then finds no low unit
      have hstand : isStandIn c = true := by
        by_contra hn
        have := code_valid_of_not_standIn (by simpa using hn)
        omega
      have hhigh : isHigh c = true := by
        simp only [isHigh, hstand, Bool.true_and, decide_eq_true_eq]
        omega
      obtain ⟨lo, hlo, hnlo⟩ := hnext hhigh (by simpa using hm.2.2.2.1) (by simpa using hm.2.2.2.2)
      simp only [hlo, if_neg hnlo, (standIn_code hstand).1]
    · have hstand : isStandIn c = true := by
        by_contra hn
        have := code_valid_of_not_standIn (by simpa using hn)
        omega
      rw [(standIn_code hstand).1]
    · have hstand : isStandIn c = false := by
        by_contra hn
        have := (standIn_code (by simpa using hn)).2
        omega
      rw [code_of_not_standIn hstand, Char.ofNat_toNat]
  · -- a pair, combined back into the character
    have hstand : isStandIn c = false := by
      by_contra hn
      have := (standIn_code (by simpa using hn)).2
      omega
    have hcode := code_lt c
    have hw := unitEscape_of_ge (Nat.le_of_not_lt hc)
    replace h : s.toList.drop i = '\\' :: 'u' :: ((hex4 (0xD800 + (code c - 0x10000) / 1024)).toList ++
        '\\' :: 'u' :: ((hex4 (0xDC00 + (code c - 0x10000) % 1024)).toList ++ t)) := by
      rw [h, hw, toList_unitPair, List.cons_append, List.cons_append, List.append_assoc,
        List.cons_append, List.cons_append, List.cons_append]
    have hlen : (unitEscape c).toList.length = 12 := by
      rw [hw, toList_unitPair, List.length_append, List.length_cons, List.length_cons,
        List.length_cons, List.length_cons, length_hex4, length_hex4]
    have hsz : i + 12 < s.size := by
      rw [hsize, List.length_append, hlen]
      have := List.length_pos_of_ne_nil ht
      omega
    have hhi : hex4At? s (i + 2) = some (0xD800 + (code c - 0x10000) / 1024) :=
      hex4At?_of_drop (drop_two_of_drop h) (by omega)
    have hrest : s.toList.drop (i + 6) = '\\' :: 'u' ::
        ((hex4 (0xDC00 + (code c - 0x10000) % 1024)).toList ++ t) := by
      have := drop_add_of_drop (drop_two_of_drop h)
      rwa [length_hex4, Nat.add_assoc] at this
    have h6 : at? s (i + 6) = some '\\' := by rw [at?_of_drop hrest]; rfl
    have h7 : at? s (i + 7) = some 'u' := by rw [at?_add_of_drop hrest 1]; rfl
    have hlo : hex4At? s (i + 8) = some (0xDC00 + (code c - 0x10000) % 1024) :=
      hex4At?_of_drop (drop_two_of_drop hrest) (by omega)
    rw [hlen]
    simp only [scanString, h0, h1, hhi, h6, h7, hlo]
    rw [if_neg (by omega), if_pos (by simp; omega), if_pos (by omega)]
    have hv : 0x10000 + (0xD800 + (code c - 0x10000) / 1024 - 0xD800) * 1024 +
        (0xDC00 + (code c - 0x10000) % 1024 - 0xDC00) = c.toNat := by
      rw [code_of_not_standIn hstand] at hc ⊢
      omega
    rw [hv, Char.ofNat_toNat]

theorem length_escapeChar_pos (ascii : Bool) (c : Char) :
    0 < (escapeChar ascii c).toList.length := by
  rcases escapeChar_cases ascii c with ⟨hw, -⟩ | ⟨e, hw, -⟩ | hw
  · simp [hw]
  · simp [hw]
  · obtain ⟨r, hr⟩ := unitEscape_toList_lead c
    rw [hw, hr, List.length_append, List.length_cons, List.length_cons]
    omega

theorem scanString_escapeChar {ascii : Bool} {c : Char} {t acc : List Char} {fuel : Nat}
    (h : s.toList.drop i = (escapeChar ascii c).toList ++ t) (ht : t ≠ [])
    (hnext : isHigh c = true → at? s (i + 6) = some '\\' → at? s (i + 7) = some 'u' →
      ∃ lo, hex4At? s (i + 8) = some lo ∧ ¬(0xDC00 ≤ lo ∧ lo ≤ 0xDFFF)) :
    scanString s b (fuel + 1) i acc =
      scanString s b fuel (i + (escapeChar ascii c).toList.length) (c :: acc) := by
  rcases escapeChar_cases ascii c with ⟨hw, hq, hb, hlo, -⟩ | ⟨e, hw, he, hse, -⟩ | hw
  · -- the character itself
    have h0 : at? s i = some c := by rw [at?_of_drop h, hw]; rfl
    rw [hw]
    simp only [scanString, h0]
    rw [if_neg (by omega)]
    rfl
  · -- a backslash and a letter
    have h0 : at? s i = some '\\' := by rw [at?_of_drop h, hw]; rfl
    have h1 : at? s (i + 1) = some e := by rw [at?_add_of_drop h, hw]; rfl
    rw [hw]
    simp only [scanString, h0, h1, hse]
    rfl
  · rw [hw] at h ⊢
    exact scanString_unitEscape h ht hnext

theorem hex4At?_of_next {ascii : Bool} {cs rest : List Char} {j : Nat}
    (h : s.toList.drop j = cs.flatMap (fun c => (escapeChar ascii c).toList) ++ '"' :: rest)
    (hb : at? s j = some '\\') (hu : at? s (j + 1) = some 'u') :
    ∃ c ∈ cs.head?, hex4At? s (j + 2) = some (leadUnit c) := by
  cases cs with
  | nil =>
    rw [at?_of_drop h, List.flatMap_nil, List.nil_append, List.head?_cons] at hb
    exact absurd (Option.some.inj hb) (by decide)
  | cons c cs =>
    rw [List.flatMap_cons, List.append_assoc] at h
    rcases escapeChar_cases ascii c with ⟨hw, -, hnb, -, -⟩ | ⟨e, hw, he, -, -⟩ | hw
    · rw [at?_of_drop h, hw] at hb
      exact absurd (Option.some.inj hb) hnb
    · rw [at?_add_of_drop h, hw] at hu
      exact absurd (Option.some.inj hu) he
    · obtain ⟨r, hr⟩ := unitEscape_toList_lead c
      replace h : s.toList.drop j = '\\' :: 'u' :: ((hex4 (leadUnit c)).toList ++
          (r ++ (cs.flatMap (fun c => (escapeChar ascii c).toList) ++ '"' :: rest))) := by
        rw [h, hw, hr, List.append_assoc, List.cons_append, List.cons_append]
      exact ⟨c, rfl, hex4At?_of_drop (drop_two_of_drop h) (leadUnit_lt c)⟩

def escaped (ascii : Bool) (cs : List Char) : List Char :=
  cs.flatMap fun c => (escapeChar ascii c).toList

/-- Reading the escaped characters of a text up to the closing quote gives the text back, when
no high stand-in stands directly before a low one. -/
theorem scanString_escaped (ascii : Bool) :
    ∀ (cs : List Char), splitsPair cs = false → ∀ {i : Nat} {acc rest : List Char} {fuel : Nat},
      s.toList.drop i = escaped ascii cs ++ '"' :: rest → (escaped ascii cs).length < fuel →
      scanString s b fuel i acc =
        .ok (String.ofList (acc.reverse ++ cs), i + (escaped ascii cs).length + 1)
  | [], _, i, acc, rest, fuel, h, hfuel => by
    obtain ⟨fuel, rfl⟩ : ∃ f, fuel = f + 1 := ⟨fuel - 1, by simp [escaped] at hfuel; omega⟩
    have h0 : at? s i = some '"' := by rw [at?_of_drop h]; rfl
    simp only [scanString, h0, escaped, List.flatMap_nil, List.length_nil, List.append_nil]
  | c :: cs, hsplit, i, acc, rest, fuel, h, hfuel => by
    obtain ⟨fuel, rfl⟩ : ∃ f, fuel = f + 1 := ⟨fuel - 1, by omega⟩
    have hlen : (escaped ascii (c :: cs)).length =
        (escapeChar ascii c).toList.length + (escaped ascii cs).length := by
      rw [escaped, List.flatMap_cons, List.length_append]
      rfl
    have hcs : splitsPair cs = false := by
      cases cs with
      | nil => rfl
      | cons c' cs =>
        simp only [splitsPair, Bool.or_eq_false_iff] at hsplit
        exact hsplit.2
    rw [escaped, List.flatMap_cons, List.append_assoc] at h
    -- a high stand-in is written as one unit escape, and what follows is no low unit's escape
    have hnext : isHigh c = true → at? s (i + 6) = some '\\' → at? s (i + 7) = some 'u' →
        ∃ lo, hex4At? s (i + 8) = some lo ∧ ¬(0xDC00 ≤ lo ∧ lo ≤ 0xDFFF) := by
      intro hhigh hb hu
      have hstand : isStandIn c = true := by
        simp only [isHigh, Bool.and_eq_true] at hhigh
        exact hhigh.1
      have hcode : code c < 0x10000 := by
        have := (standIn_code hstand).2
        omega
      have hw : escapeChar ascii c = unitEscape c := by
        rcases escapeChar_cases ascii c with ⟨-, -, -, -, hn⟩ | ⟨e, -, -, -, hn⟩ | hw
        · rw [hn] at hstand; cases hstand
        · rw [hn] at hstand; cases hstand
        · exact hw
      have hlen6 : (escapeChar ascii c).toList.length = 6 := by
        rw [hw, unitEscape_toList_of_lt hcode, List.length_cons, List.length_cons, length_hex4]
      have hafter := drop_add_of_drop h
      rw [hlen6] at hafter
      obtain ⟨c', hc', hlo⟩ := hex4At?_of_next hafter hb hu
      refine ⟨leadUnit c', hlo, fun hl => ?_⟩
      have hlow := isLow_of_leadUnit hl
      cases cs with
      | nil => cases hc'
      | cons c'' cs =>
        obtain rfl : c'' = c' := Option.some.inj hc'
        simp [splitsPair, hhigh, hlow] at hsplit
    have hpos := length_escapeChar_pos ascii c
    rw [scanString_escapeChar h (by simp) hnext,
      scanString_escaped ascii cs hcs (drop_add_of_drop h) (by omega)]
    simp only [List.reverse_cons, List.append_assoc, List.cons_append, List.nil_append, hlen,
      Except.ok.injEq, Prod.mk.injEq, true_and]
    omega

end Texts

/-! ### Numbers -/

section Numbers

variable {s : Array Char} {i : Nat}

def continuesNumber (c : Char) : Bool :=
  c.isDigit || c == '.' || c == 'e' || c == 'E' || c == '+' || c == '-'

theorem continuesNumber_of_isDigit {c : Char} (h : c.isDigit = true) : continuesNumber c = true := by
  simp [continuesNumber, h]

theorem takeWhile_append_of_head {q : Char → Bool} {R : List Char}
    (hR : ∀ c ∈ R.head?, q c = false) (A : List Char) : (A ++ R).takeWhile q = A.takeWhile q := by
  induction A with
  | nil =>
    cases R with
    | nil => rfl
    | cons c R => simp [hR c rfl]
  | cons a A ih => simp only [List.cons_append, List.takeWhile_cons, ih]

theorem digitsAt_eq (s : Array Char) (i : Nat) :
    digitsAt s i = (s.toList.drop i).takeWhile Char.isDigit := by
  suffices hgo : ∀ n i, s.size - i ≤ n →
      digitsAt.go s n i = (s.toList.drop i).takeWhile Char.isDigit from
    hgo _ i le_rfl
  intro n
  induction n with
  | zero =>
    intro i hi
    rw [List.drop_eq_nil_of_le (by simp; omega)]
    rfl
  | succ n ih =>
    intro i hi
    cases hu : s.toList.drop i with
    | nil =>
      simp only [digitsAt.go, at?_of_drop hu, List.head?_nil, List.takeWhile_nil]
    | cons c u =>
      simp only [digitsAt.go, at?_of_drop hu, List.head?_cons, List.takeWhile_cons]
      split
      · rw [ih (i + 1) (by omega), drop_succ_of_drop hu]
      · rfl

theorem digitsAt_of_drop {D R : List Char} (h : s.toList.drop i = D ++ R)
    (hD : ∀ c ∈ D, c.isDigit = true) (hR : ∀ c ∈ R.head?, c.isDigit = false) :
    digitsAt s i = D := by
  rw [digitsAt_eq, h, takeWhile_append_of_head hR, List.takeWhile_eq_self_iff.2 hD]

theorem lt_length_of_at? {W : List Char} {p : Nat} {c : Char} (h : at? W.toArray p = some c) :
    p < W.length := by
  rw [at?, List.getElem?_toArray] at h
  exact (List.getElem?_eq_some_iff.1 h).1

theorem lt_length_of_at?_or {W : List Char} {p : Nat} {a b : Char}
    (h : (at? W.toArray p == some a || at? W.toArray p == some b) = true) : p < W.length := by
  simp only [Bool.or_eq_true, beq_iff_eq] at h
  rcases h with h | h
  · exact lt_length_of_at? h
  · exact lt_length_of_at? h

theorem add_length_digitsAt_le {W : List Char} {p : Nat} (hp : p ≤ W.length) :
    p + (digitsAt W.toArray p).length ≤ W.length := by
  have := (List.takeWhile_prefix Char.isDigit (l := W.toArray.toList.drop p)).length_le
  rw [digitsAt_eq]
  simp only [List.length_drop] at this ⊢
  omega

/-! A number is read in stages: its integer digits, its fraction, its exponent, and the value
they make. Each stage reads only the characters it needs, so each can be moved along a text on
its own. -/

def fractionAt (s : Array Char) (k : Nat) : List Char :=
  if at? s k == some '.' then digitsAt s (k + 1) else []

def fractionEnd (k : Nat) (fracDs : List Char) : Nat :=
  if fracDs.isEmpty then k else k + 1 + fracDs.length

def exponentAt (s : Array Char) (k : Nat) : Int × Nat × Bool :=
  if at? s k == some 'e' || at? s k == some 'E' then
    let sgn := at? s (k + 1)
    let off := if sgn == some '+' || sgn == some '-' then 2 else 1
    let eds := digitsAt s (k + off)
    if eds.isEmpty then ((0 : Int), k, false)
    else
      let e : Int := natOfDigits eds
      ((if sgn == some '-' then -e else e), k + off + eds.length, true)
  else (0, k, false)

def numberOf (neg : Bool) (intDs fracDs : List Char) :
    Int × Nat × Bool → Except ReadError (Value × Nat)
  | (expVal, k, hasExp) =>
    if fracDs.isEmpty ∧ ¬hasExp then
      if intDs.length > maxIntDigits then .error (.tooManyDigits intDs.length)
      else
        let n : Int := natOfDigits intDs
        .ok (.int (if neg then -n else n), k)
    else
      let x := Float.ofDecimal (natOfDigits (intDs ++ fracDs)) (expVal - fracDs.length)
      .ok (.float (if neg then -x else x), k)

def numberAfter (s : Array Char) (neg : Bool) (j : Nat) (intDs : List Char) :
    Except ReadError (Value × Nat) :=
  let k := j + intDs.length
  let fracDs := fractionAt s k
  numberOf neg intDs fracDs (exponentAt s (fractionEnd k fracDs))

def numberFrom (s : Array Char) (i j : Nat) (neg : Bool) : Except ReadError (Value × Nat) :=
  let intDs := digitsAt s j
  match intDs with
  | [] => .error (.malformed "Expecting value" i)
  | d :: _ => numberAfter s neg j (if d == '0' then ['0'] else intDs)

theorem scanNumber_eq (s : Array Char) (i : Nat) :
    scanNumber s i =
      numberFrom s i (if at? s i == some '-' then i + 1 else i) (at? s i == some '-') :=
  rfl

theorem fractionEnd_add (i k : Nat) (fracDs : List Char) :
    fractionEnd (i + k) fracDs = i + fractionEnd k fracDs := by
  unfold fractionEnd
  split <;> omega

theorem fractionEnd_le {W : List Char} {k : Nat} (hk : k ≤ W.length) :
    fractionEnd k (fractionAt W.toArray k) ≤ W.length := by
  unfold fractionEnd fractionAt
  split
  · rename_i hdot
    have := lt_length_of_at? (c := '.') (by simpa using hdot)
    have := add_length_digitsAt_le (W := W) (p := k + 1) (by omega)
    split <;> omega
  · simpa using hk

theorem numberOf_shift {neg : Bool} {intDs fracDs : List Char} {e : Int × Nat × Bool}
    {v : Value} {n : Nat} (h : numberOf neg intDs fracDs e = .ok (v, n)) (i : Nat) :
    numberOf neg intDs fracDs (e.1, i + e.2.1, e.2.2) = .ok (v, i + n) := by
  obtain ⟨ev, k, he⟩ := e
  rw [numberOf] at h ⊢
  split_ifs at h ⊢ <;> cases h <;> rfl

section Within

variable {W R : List Char} (hs : s.toList.drop i = W ++ R)
  (hR : ∀ c ∈ R.head?, continuesNumber c = false)
include hs hR

theorem at?_beq_within {p : Nat} (hp : p ≤ W.length) {c : Char}
    (hc : continuesNumber c = true) : (at? s (i + p) == some c) = (at? W.toArray p == some c) := by
  rw [at?_add_of_drop hs, at?, List.getElem?_toArray]
  rcases Nat.lt_or_eq_of_le hp with hp | rfl
  · rw [List.getElem?_append_left hp]
  · rw [List.getElem?_append_right le_rfl, Nat.sub_self, List.getElem?_eq_none le_rfl]
    cases R with
    | nil => rfl
    | cons r R =>
      have hr := hR r rfl
      simp only [List.getElem?_cons_zero, Option.some.injEq, reduceCtorEq, decide_false,
        Bool.beq_eq_decide_eq, decide_eq_false_iff_not]
      rintro rfl
      rw [hc] at hr
      cases hr

theorem digitsAt_within {p : Nat} (hp : p ≤ W.length) :
    digitsAt s (i + p) = digitsAt W.toArray p := by
  have hR' : ∀ c ∈ R.head?, c.isDigit = false := fun c hc => by
    have := hR c hc
    simp only [continuesNumber, Bool.or_eq_false_iff] at this
    exact this.1.1.1.1.1
  rw [digitsAt_eq, digitsAt_eq, ← List.drop_drop, hs, List.drop_append_of_le_length hp,
    takeWhile_append_of_head hR', List.toList_toArray]

theorem fractionAt_within {k : Nat} (hk : k ≤ W.length) :
    fractionAt s (i + k) = fractionAt W.toArray k := by
  unfold fractionAt
  rw [at?_beq_within hs hR hk (c := '.') rfl]
  split
  · rename_i hdot
    have := lt_length_of_at? (c := '.') (by simpa using hdot)
    rw [Nat.add_assoc, digitsAt_within hs hR (p := k + 1) (by omega)]
  · rfl

theorem exponentAt_within {k : Nat} (hk : k ≤ W.length) :
    exponentAt s (i + k) = ((exponentAt W.toArray k).1, i + (exponentAt W.toArray k).2.1,
      (exponentAt W.toArray k).2.2) := by
  unfold exponentAt
  rw [at?_beq_within hs hR hk (c := 'e') rfl, at?_beq_within hs hR hk (c := 'E') rfl]
  split
  · rename_i hE
    have hk' := lt_length_of_at?_or hE
    dsimp only
    rw [Nat.add_assoc i k 1, at?_beq_within hs hR (p := k + 1) hk' (c := '+') rfl,
      at?_beq_within hs hR (p := k + 1) hk' (c := '-') rfl]
    have hoff : k + (if (at? W.toArray (k + 1) == some '+' || at? W.toArray (k + 1) == some '-')
        then 2 else 1) ≤ W.length := by
      split
      · rename_i hS
        have := lt_length_of_at?_or hS
        omega
      · omega
    rw [Nat.add_assoc i k, digitsAt_within hs hR hoff]
    split <;> split <;> simp only [Nat.add_assoc]
  · rfl

theorem numberAfter_within {j : Nat} {intDs : List Char} (hj : j + intDs.length ≤ W.length)
    {neg : Bool} {v : Value} {n : Nat} (h : numberAfter W.toArray neg j intDs = .ok (v, n)) :
    numberAfter s neg (i + j) intDs = .ok (v, i + n) := by
  unfold numberAfter at h ⊢
  dsimp only at h ⊢
  rw [Nat.add_assoc, fractionAt_within hs hR hj, fractionEnd_add,
    exponentAt_within hs hR (fractionEnd_le hj)]
  exact numberOf_shift h i

theorem numberFrom_within {j : Nat} (hj : j ≤ W.length) {a b : Nat} {neg : Bool} {v : Value}
    {n : Nat} (h : numberFrom W.toArray a j neg = .ok (v, n)) :
    numberFrom s b (i + j) neg = .ok (v, i + n) := by
  unfold numberFrom at h ⊢
  rw [digitsAt_within hs hR hj]
  have hlen := add_length_digitsAt_le hj
  generalize digitsAt W.toArray j = D at h ⊢ hlen
  cases D with
  | nil => cases h
  | cons d ds =>
    -- a leading zero stands alone, so the integer digits are no more than those read
    have hI : j + (if (d == '0') = true then ['0'] else d :: ds).length ≤ W.length := by
      split <;> simp only [List.length_cons, List.length_nil] at hlen ⊢ <;> omega
    exact numberAfter_within hs hR hI h

end Within

theorem scanNumber_of_prefix {W R : List Char} (hs : s.toList.drop i = W ++ R)
    (hR : ∀ c ∈ R.head?, continuesNumber c = false) {v : Value} {n : Nat}
    (hok : scanNumber W.toArray 0 = .ok (v, n)) : scanNumber s i = .ok (v, i + n) := by
  rw [scanNumber_eq] at hok ⊢
  have h0 := at?_beq_within hs hR (Nat.zero_le _) (c := '-') rfl
  rw [Nat.add_zero] at h0
  rw [h0]
  cases hN : (at? W.toArray 0 == some '-') with
  | false =>
    rw [hN] at hok
    exact numberFrom_within hs hR (j := 0) (Nat.zero_le _) hok
  | true =>
    rw [hN] at hok
    have h1 : 1 ≤ W.length := lt_length_of_at? (c := '-') (by simpa using hN)
    exact numberFrom_within hs hR (j := 1) h1 hok

theorem natOfDigits_toDigits (m : Nat) : natOfDigits (Nat.toDigits 10 m) = m := by
  have h : natOfDigits (Nat.toDigits 10 m) = Nat.ofDigitChars 10 (Nat.toDigits 10 m) 0 := by
    simp only [natOfDigits, Nat.ofDigitChars, Nat.mul_comm, Char.reduceToNat]
  rw [h, Nat.ofDigitChars_ten_toDigits]

theorem toDigits_eq_zero_cons {m : Nat} {ds : List Char} (h : Nat.toDigits 10 m = '0' :: ds) :
    m = 0 ∧ ds = [] := by
  induction m using Nat.strong_induction_on generalizing ds with
  | _ m ih =>
    rw [Nat.toDigits_eq_if (by norm_num)] at h
    split at h
    · rename_i hm
      simp only [List.cons.injEq] at h
      obtain ⟨hd, rfl⟩ := h
      refine ⟨?_, rfl⟩
      have key : ∀ k : Fin 10, Nat.digitChar k = '0' → k.val = 0 := by decide
      exact key ⟨m, hm⟩ hd
    · rename_i hm
      obtain ⟨ds', hds'⟩ : ∃ ds', Nat.toDigits 10 (m / 10) = '0' :: ds' := by
        cases hq : Nat.toDigits 10 (m / 10) with
        | nil => exact absurd hq Nat.toDigits_ne_nil
        | cons c cs =>
          rw [hq, List.cons_append, List.cons.injEq] at h
          exact ⟨cs, by rw [h.1]⟩
      have := (ih (m / 10) (by omega) hds').1
      omega

theorem scanNumber_digits {R : List Char} {neg : Bool} {m : Nat}
    (hs : s.toList.drop i = (if neg then ['-'] else []) ++ (Nat.toDigits 10 m ++ R))
    (hR : ∀ c ∈ R.head?, continuesNumber c = false)
    (hm : (Nat.toDigits 10 m).length ≤ maxIntDigits) :
    scanNumber s i = .ok (.int (if neg then -(m : Int) else m),
      i + ((if neg then 1 else 0) + (Nat.toDigits 10 m).length)) := by
  have hdigits : ∀ c ∈ Nat.toDigits 10 m, c.isDigit = true := fun c hc =>
    Nat.isDigit_of_mem_toDigits (by norm_num) (by norm_num) hc
  have hRdig : ∀ c ∈ R.head?, c.isDigit = false := fun c hc => by
    have := hR c hc
    simp only [continuesNumber, Bool.or_eq_false_iff] at this
    exact this.1.1.1.1.1
  have hneg : (at? s i == some '-') = neg := by
    rw [at?_of_drop hs]
    cases neg
    · obtain ⟨d, ds, hd⟩ : ∃ d ds, Nat.toDigits 10 m = d :: ds := by
        cases hq : Nat.toDigits 10 m with
        | nil => exact absurd hq Nat.toDigits_ne_nil
        | cons d ds => exact ⟨d, ds, rfl⟩
      have hdd := hdigits d (by simp [hd])
      simp only [Bool.false_eq_true, if_false, List.nil_append, hd, List.cons_append,
        List.head?_cons, beq_eq_false_iff_ne, ne_eq, Option.some.injEq]
      rintro rfl
      simp at hdd
    · rfl
  have hj : s.toList.drop (i + (if neg then 1 else 0)) = Nat.toDigits 10 m ++ R := by
    have := drop_add_of_drop hs
    cases neg <;> simpa using this
  have hD : digitsAt s (i + (if neg then 1 else 0)) = Nat.toDigits 10 m :=
    digitsAt_of_drop hj hdigits hRdig
  have hafter := drop_add_of_drop hj
  have hstop : ∀ c, continuesNumber c = true →
      (at? s (i + (if neg then 1 else 0) + (Nat.toDigits 10 m).length) == some c) = false := by
    intro c hc
    rw [at?_of_drop hafter]
    cases R with
    | nil => rfl
    | cons r R =>
      have hr := hR r rfl
      simp only [List.head?_cons, beq_eq_false_iff_ne, ne_eq, Option.some.injEq]
      rintro rfl
      rw [hc] at hr
      cases hr
  unfold scanNumber
  simp only [hneg]
  have hjpos : (if neg = true then i + 1 else i) = i + (if neg then 1 else 0) := by
    cases neg <;> rfl
  rw [hjpos, hD]
  obtain ⟨d, ds, hd⟩ : ∃ d ds, Nat.toDigits 10 m = d :: ds := by
    cases hq : Nat.toDigits 10 m with
    | nil => exact absurd hq Nat.toDigits_ne_nil
    | cons d ds => exact ⟨d, ds, rfl⟩
  have hI : (if (d == '0') = true then ['0'] else d :: ds) = d :: ds := by
    split
    · rename_i h0
      simp only [beq_iff_eq] at h0
      subst h0
      rw [(toDigits_eq_zero_cons hd).2]
    · rfl
  rw [hd] at hstop hm
  simp only [hd, hI]
  simp only [hstop '.' rfl, Bool.false_eq_true, if_false, List.isEmpty_nil, if_true]
  simp only [hstop 'e' rfl, hstop 'E' rfl, Bool.or_self, Bool.false_eq_true, if_false, true_and,
    not_false_eq_true, if_true]
  rw [if_neg (by omega), ← hd, natOfDigits_toDigits, Nat.add_assoc]

theorem toList_toString_int (n : Int) :
    (toString n).toList = (if n < 0 then ['-'] else []) ++ Nat.toDigits 10 n.natAbs := by
  rw [Int.toString_eq_repr, Int.repr_eq_if]
  by_cases h : 0 ≤ n
  · have hn : n.toNat = n.natAbs := by omega
    rw [if_pos h, if_neg (by omega), Nat.toList_repr, hn, List.nil_append]
  · have hn : (-n).toNat = n.natAbs := by omega
    rw [if_neg h, if_pos (by omega), String.toList_append, Nat.toList_repr, hn]
    rfl

theorem scanNumber_int {n : Int} {R : List Char} (hs : s.toList.drop i = (toString n).toList ++ R)
    (hR : ∀ c ∈ R.head?, continuesNumber c = false) (hn : n.natAbs < 10 ^ maxIntDigits) :
    scanNumber s i = .ok (.int n, i + (toString n).toList.length) := by
  rw [toList_toString_int, List.append_assoc] at hs
  have hlen : (Nat.toDigits 10 n.natAbs).length ≤ maxIntDigits :=
    (Nat.length_toDigits_le_iff (by norm_num) (by decide)).2 hn
  rw [toList_toString_int, List.length_append]
  by_cases hneg : n < 0
  · rw [if_pos hneg] at hs ⊢
    have hs' : s.toList.drop i = (if true then ['-'] else []) ++ (Nat.toDigits 10 n.natAbs ++ R) := hs
    rw [scanNumber_digits hs' hR hlen]
    simp [abs_of_neg hneg]
  · rw [if_neg hneg] at hs ⊢
    have hs' : s.toList.drop i = (if false then ['-'] else []) ++ (Nat.toDigits 10 n.natAbs ++ R) :=
      hs
    rw [scanNumber_digits hs' hR hlen]
    simp [abs_of_nonneg (not_lt.1 hneg)]

theorem continuesNumber_toString_nat (m : Nat) :
    ∀ c ∈ (toString m).toList, continuesNumber c = true := fun c hc =>
  continuesNumber_of_isDigit (Nat.isDigit_of_mem_toDigits (b := 10) (by norm_num) (by norm_num)
    (by simpa [Nat.toList_repr] using hc))

theorem continuesNumber_toString_int (n : Int) :
    ∀ c ∈ (toString n).toList, continuesNumber c = true := by
  rw [toList_toString_int]
  intro c hc
  rcases List.mem_append.1 hc with hc | hc
  · split_ifs at hc
    · rw [List.mem_singleton.1 hc]
      rfl
    · cases hc
  · exact continuesNumber_of_isDigit (Nat.isDigit_of_mem_toDigits (by norm_num) (by norm_num) hc)

theorem toString_int_ne_nil (n : Int) : (toString n).toList ≠ [] := by
  rw [toList_toString_int]
  simp [Nat.toDigits_ne_nil]

theorem continuesNumber_placeDigits {ds : List Char} (h : ∀ c ∈ ds, c.isDigit = true)
    (point lo hi : Int) (dotZero : Bool) :
    ∀ c ∈ (placeDigits ds point lo hi dotZero).toList, continuesNumber c = true := by
  have hds : ∀ c ∈ ds, continuesNumber c = true := fun c hc => continuesNumber_of_isDigit (h c hc)
  have htake : ∀ k, ∀ c ∈ ds.take k, continuesNumber c = true :=
    fun k c hc => hds c (List.mem_of_mem_take hc)
  have hdrop : ∀ k, ∀ c ∈ ds.drop k, continuesNumber c = true :=
    fun k c hc => hds c (List.mem_of_mem_drop hc)
  have hzero : ∀ k, ∀ c ∈ List.replicate k '0', continuesNumber c = true := by
    intro k c hc
    rw [List.eq_of_mem_replicate hc]
    rfl
  have hexp : ∀ x : Int, ∀ c ∈ (exponentText x).toList, continuesNumber c = true := by
    intro x
    unfold exponentText
    dsimp only
    simp only [String.toList_append, List.forall_mem_append]
    refine ⟨?_, ?_⟩
    · split_ifs <;> simp [continuesNumber]
    · split_ifs
      · simp only [String.toList_append, List.forall_mem_append]
        exact ⟨by simp [continuesNumber], continuesNumber_toString_nat _⟩
      · exact continuesNumber_toString_nat _
  unfold placeDigits
  dsimp only
  split_ifs <;>
    simp only [String.toList_append, String.toList_ofList, List.forall_mem_append]
  · exact ⟨⟨by simp [continuesNumber], hzero _⟩, hds⟩
  · exact ⟨⟨hds, hzero _⟩, by simp [continuesNumber]⟩
  · exact ⟨⟨hds, hzero _⟩, by simp⟩
  · exact ⟨⟨htake _, by simp [continuesNumber]⟩, hdrop _⟩
  · exact ⟨⟨⟨htake _, by simp⟩, by simp [continuesNumber]⟩, hexp _⟩
  · exact ⟨⟨⟨htake _, by simp [continuesNumber], hdrop _⟩, by simp [continuesNumber]⟩,
      hexp _⟩

theorem placeDigits_ne_nil {ds : List Char} (h : ds ≠ []) (point lo hi : Int) (dotZero : Bool) :
    (placeDigits ds point lo hi dotZero).toList ≠ [] := by
  unfold placeDigits
  dsimp only
  split_ifs <;> simp [h]

theorem floatText_cases (x : Float) :
    floatText x = "NaN" ∨ floatText x = "Infinity" ∨ floatText x = "-Infinity" ∨
      ((floatText x).toList ≠ [] ∧ ∀ c ∈ (floatText x).toList, continuesNumber c = true) := by
  unfold floatText
  split_ifs with hnan hinf hneg
  · exact Or.inl rfl
  · exact Or.inr (Or.inr (Or.inl rfl))
  · exact Or.inr (Or.inl rfl)
  refine Or.inr (Or.inr (Or.inr ?_))
  unfold Float.shortText
  simp only [hnan, hinf, if_false, Bool.false_eq_true]
  generalize Binary.ofFloat x = b
  generalize hsg : (if b.neg = true then "-" else "") = sign
  have hsign : ∀ c ∈ sign.toList, continuesNumber c = true := by
    subst hsg
    split_ifs <;> simp [continuesNumber]
  split_ifs with hm
  · simp only [String.toList_append, List.forall_mem_append]
    exact ⟨by simp, hsign, by simp [continuesNumber]⟩
  · obtain ⟨c, k⟩ := b.shortest
    have hds : ∀ d ∈ digitsOf c, d.isDigit = true := fun d hd =>
      Nat.isDigit_of_mem_toDigits (b := 10) (by norm_num) (by norm_num)
        (by simpa [digitsOf, Nat.toList_repr] using hd)
    have hne : digitsOf c ≠ [] := by simp [digitsOf, Nat.toList_repr, Nat.toDigits_ne_nil]
    simp only [String.toList_append, List.forall_mem_append, ne_eq, List.append_eq_nil_iff,
      not_and]
    exact ⟨fun _ => placeDigits_ne_nil hne _ _ _ _, hsign, continuesNumber_placeDigits hds _ _ _ _⟩

end Numbers

section Values

variable {s : Array Char} {i : Nat}

def closesValue (c : Char) : Bool := c == ',' || c == ']' || c == '\x7d' || isBlank c

def EndsValue (rest : List Char) : Prop := ∀ c ∈ rest.head?, closesValue c = true

theorem closesValue_of_isBlank {c : Char} (h : isBlank c = true) : closesValue c = true := by
  simp [closesValue, h]

theorem continuesNumber_of_closesValue {c : Char} (h : closesValue c = true) :
    continuesNumber c = false := by
  simp only [closesValue, isBlank, Bool.or_eq_true, beq_iff_eq] at h
  rcases h with ((rfl | rfl) | rfl) | ((rfl | rfl) | rfl) | rfl <;> rfl

theorem EndsValue.continuesNumber {rest : List Char} (h : EndsValue rest) :
    ∀ c ∈ rest.head?, continuesNumber c = false :=
  fun c hc => continuesNumber_of_closesValue (h c hc)

theorem isBlank_of_closesValue {c : Char} (h : closesValue c = false) : isBlank c = false := by
  cases hb : isBlank c
  · rfl
  · rw [closesValue_of_isBlank hb] at h
    cases h

theorem isBlank_of_continuesNumber {c : Char} (h : continuesNumber c = true) : isBlank c = false := by
  cases hb : isBlank c
  · rfl
  · rw [continuesNumber_of_closesValue (closesValue_of_isBlank hb)] at h
    cases h

theorem ne_of_test {q : Char → Bool} {c d : Char} (hc : q c = true) (hd : q d = false) : c ≠ d := by
  rintro rfl
  rw [hc] at hd
  cases hd

theorem newline_blank (st : Style) (d : Nat) : ∀ c ∈ (newline st d).toList, isBlank c = true := by
  unfold newline
  split
  · simp
  · simp only [String.toList_append, String.toList_ofList, List.mem_append, List.mem_replicate]
    rintro c (hc | ⟨-, rfl⟩)
    · simp at hc
      subst hc
      rfl
    · rfl

theorem scanValue_of_head {depth fuel : Nat} {c : Char} (h : at? s i = some c)
    (hq : c ≠ '"') (ho : c ≠ '\x7b') (hl : c ≠ '[') :
    scanValue s depth (fuel + 1) i =
      if c == 'n' && lookingAt s i "null" then .ok (.null, i + 4)
      else if c == 't' && lookingAt s i "true" then .ok (.bool true, i + 4)
      else if c == 'f' && lookingAt s i "false" then .ok (.bool false, i + 5)
      else if c == 'N' && lookingAt s i "NaN" then .ok (.float (0.0 / 0.0), i + 3)
      else if c == 'I' && lookingAt s i "Infinity" then .ok (.float (1.0 / 0.0), i + 8)
      else if c == '-' && lookingAt s (i + 1) "Infinity" then .ok (.float (-1.0 / 0.0), i + 9)
      else scanNumber s i := by
  rw [scanValue, h]
  split <;> simp_all

theorem scanValue_number {depth fuel : Nat} {W rest : List Char}
    (h : s.toList.drop i = W ++ rest) (hW : ∀ c ∈ W, continuesNumber c = true) (hne : W ≠ [])
    (hrest : EndsValue rest) : scanValue s depth (fuel + 1) i = scanNumber s i := by
  obtain ⟨c, W, rfl⟩ := List.exists_cons_of_ne_nil hne
  have hc := hW c List.mem_cons_self
  -- the character after a leading minus is a number's or closes it, so no `Infinity` follows
  have hI : lookingAt s (i + 1) "Infinity" = false := by
    refine lookingAt_eq_false
      (show "Infinity".toList = ['I', 'n', 'f', 'i', 'n', 'i', 't', 'y'] from rfl) ?_
    rw [at?_of_drop (drop_succ_of_drop h)]
    cases W with
    | cons c' W =>
      exact fun he => ne_of_test (hW c' (by simp)) (rfl : continuesNumber 'I' = false)
        (Option.some.inj he)
    | nil =>
      cases rest with
      | nil => simp
      | cons c' rest =>
        exact fun he => ne_of_test (hrest c' rfl) (rfl : closesValue 'I' = false)
          (Option.some.inj he)
  rw [scanValue_of_head (at?_of_drop h) (ne_of_test hc rfl) (ne_of_test hc rfl)
    (ne_of_test hc rfl), hI]
  simp [beq_false_of_ne (ne_of_test hc (rfl : continuesNumber 'n' = false)),
    beq_false_of_ne (ne_of_test hc (rfl : continuesNumber 't' = false)),
    beq_false_of_ne (ne_of_test hc (rfl : continuesNumber 'f' = false)),
    beq_false_of_ne (ne_of_test hc (rfl : continuesNumber 'N' = false)),
    beq_false_of_ne (ne_of_test hc (rfl : continuesNumber 'I' = false))]

theorem scanValue_null {depth fuel : Nat} {rest : List Char}
    (h : s.toList.drop i = "null".toList ++ rest) :
    scanValue s depth (fuel + 1) i = .ok (.null, i + 4) := by
  have hc : at? s i = some 'n' := by rw [at?_of_drop h]; rfl
  rw [scanValue_of_head hc (by decide) (by decide) (by decide), lookingAt_of_drop h]
  rfl

theorem scanValue_true {depth fuel : Nat} {rest : List Char}
    (h : s.toList.drop i = "true".toList ++ rest) :
    scanValue s depth (fuel + 1) i = .ok (.bool true, i + 4) := by
  have hc : at? s i = some 't' := by rw [at?_of_drop h]; rfl
  rw [scanValue_of_head hc (by decide) (by decide) (by decide), lookingAt_of_drop h]
  rfl

theorem scanValue_false {depth fuel : Nat} {rest : List Char}
    (h : s.toList.drop i = "false".toList ++ rest) :
    scanValue s depth (fuel + 1) i = .ok (.bool false, i + 5) := by
  have hc : at? s i = some 'f' := by rw [at?_of_drop h]; rfl
  rw [scanValue_of_head hc (by decide) (by decide) (by decide), lookingAt_of_drop h]
  rfl

theorem scanValue_nan {depth fuel : Nat} {rest : List Char}
    (h : s.toList.drop i = "NaN".toList ++ rest) :
    scanValue s depth (fuel + 1) i = .ok (.float (0.0 / 0.0), i + 3) := by
  have hc : at? s i = some 'N' := by rw [at?_of_drop h]; rfl
  rw [scanValue_of_head hc (by decide) (by decide) (by decide), lookingAt_of_drop h]
  rfl

theorem scanValue_infinity {depth fuel : Nat} {rest : List Char}
    (h : s.toList.drop i = "Infinity".toList ++ rest) :
    scanValue s depth (fuel + 1) i = .ok (.float (1.0 / 0.0), i + 8) := by
  have hc : at? s i = some 'I' := by rw [at?_of_drop h]; rfl
  rw [scanValue_of_head hc (by decide) (by decide) (by decide), lookingAt_of_drop h]
  rfl

theorem scanValue_negInfinity {depth fuel : Nat} {rest : List Char}
    (h : s.toList.drop i = "-Infinity".toList ++ rest) :
    scanValue s depth (fuel + 1) i = .ok (.float (-1.0 / 0.0), i + 9) := by
  have hc : at? s i = some '-' := by rw [at?_of_drop h]; rfl
  have h1 : s.toList.drop (i + 1) = "Infinity".toList ++ rest := drop_succ_of_drop h
  rw [scanValue_of_head hc (by decide) (by decide) (by decide), lookingAt_of_drop h1]
  rfl

theorem parse_of_scanValue {t : String} {c : Char} {cs : List Char} {v : Value}
    (ht : t.toList = c :: cs) (hc : isBlank c = false) (hbom : c ≠ Char.ofNat 0xFEFF)
    (h : scanValue t.toList.toArray t.length (2 * t.toList.length + 2) 0 =
      .ok (v, t.toList.length)) :
    parse t = .ok v := by
  have h0 : t.toList.toArray.toList.drop 0 = c :: cs := by simp [ht]
  have hsk : skipBlanks t.toList.toArray 0 = 0 := skipBlanks_of_head h0 (by simpa using hc)
  have hend : skipBlanks t.toList.toArray t.toList.length = t.toList.length :=
    skipBlanks_of_head (u := []) (by simp) (by simp)
  simp only [parse, parseWithin, at?_of_drop h0, List.head?_cons, List.size_toArray, hsk, h,
    hend, if_true]
  simp [hbom]

theorem scanNumber_of_parse {t : String} {v : Value} (hp : parse t = .ok v)
    (hne : t.toList ≠ []) (hW : ∀ c ∈ t.toList, continuesNumber c = true) :
    scanNumber t.toList.toArray 0 = .ok (v, t.toList.length) := by
  obtain ⟨c, cs, ht⟩ := List.exists_cons_of_ne_nil hne
  have h0 : t.toList.toArray.toList.drop 0 = t.toList ++ [] := by simp
  have hc : continuesNumber c = true := hW c (by simp [ht])
  -- no character of a number's text is a blank, so no blanks are skipped anywhere in it
  have hskip : ∀ j, skipBlanks t.toList.toArray j = j := fun j =>
    skipBlanks_of_head rfl fun d hd => isBlank_of_continuesNumber
      (hW d (List.mem_of_mem_drop (by simpa using List.mem_of_mem_head? hd)))
  have hbom : at? t.toList.toArray 0 = some c := by rw [at?_of_drop h0, ht]; rfl
  have hval : scanValue t.toList.toArray t.length (2 * t.toList.length + 1 + 1) 0 =
      scanNumber t.toList.toArray 0 := scanValue_number h0 hW hne (by simp [EndsValue])
  simp only [parse, parseWithin, hbom, List.size_toArray, hskip] at hp
  rw [beq_false_of_ne (by simpa using ne_of_test hc (rfl : continuesNumber (Char.ofNat 0xFEFF) = false))]
    at hp
  simp only [Bool.false_eq_true, if_false, show 2 * t.toList.length + 2 =
    2 * t.toList.length + 1 + 1 from rfl, hval] at hp
  cases hs : scanNumber t.toList.toArray 0 with
  | error e => simp [hs] at hp
  | ok r =>
    obtain ⟨v', j⟩ := r
    simp only [hs] at hp
    split_ifs at hp with hj
    cases hp
    rw [hj]

theorem parse_nan : parse "NaN" = .ok (.float (0.0 / 0.0)) := by
  refine parse_of_scanValue (show "NaN".toList = ['N', 'a', 'N'] from rfl) rfl (by decide) ?_
  exact scanValue_nan (show "NaN".toList.toArray.toList.drop 0 = "NaN".toList ++ [] by simp)

theorem parse_infinity : parse "Infinity" = .ok (.float (1.0 / 0.0)) := by
  refine parse_of_scanValue
    (show "Infinity".toList = ['I', 'n', 'f', 'i', 'n', 'i', 't', 'y'] from rfl) rfl (by decide) ?_
  exact scanValue_infinity
    (show "Infinity".toList.toArray.toList.drop 0 = "Infinity".toList ++ [] by simp)

theorem parse_negInfinity : parse "-Infinity" = .ok (.float (-1.0 / 0.0)) := by
  refine parse_of_scanValue
    (show "-Infinity".toList = ['-', 'I', 'n', 'f', 'i', 'n', 'i', 't', 'y'] from rfl) rfl
    (by decide) ?_
  exact scanValue_negInfinity
    (show "-Infinity".toList.toArray.toList.drop 0 = "-Infinity".toList ++ [] by simp)

theorem scanValue_quote {depth fuel : Nat} (h : at? s i = some '"') :
    scanValue s depth (fuel + 1) i =
      (scanString s i (s.size + 1) (i + 1) []).map (fun (t, j) => (.str t, j)) := by
  rw [scanValue, h]
  rfl

theorem scanValue_listOpen {depth fuel : Nat} (h : at? s i = some '[') :
    scanValue s (depth + 1) (fuel + 1) i = scanArray s depth fuel (skipBlanks s (i + 1)) [] true := by
  rw [scanValue, h]
  rfl

theorem scanValue_recordOpen {depth fuel : Nat} (h : at? s i = some '\x7b') :
    scanValue s (depth + 1) (fuel + 1) i =
      scanObject s depth fuel (skipBlanks s (i + 1)) [] true := by
  rw [scanValue, h]
  rfl

theorem scanArray_empty {depth fuel : Nat} {acc : List Value} (h : at? s i = some ']') :
    scanArray s depth (fuel + 1) i acc true = .ok (.list acc.reverse, i + 1) := by
  rw [scanArray]
  simp [h]

theorem scanObject_empty {depth fuel : Nat} {acc : Record} (h : at? s i = some '\x7d') :
    scanObject s depth (fuel + 1) i acc true = .ok (.record acc, i + 1) := by
  rw [scanObject]
  simp [h]

/-! One step of the list and record readers, after an item has been read. -/

theorem scanArray_last {depth fuel j k : Nat} {acc : List Value} {first : Bool} {v : Value}
    (hi : at? s i ≠ some ']') (hv : scanValue s depth fuel i = .ok (v, k))
    (hk : skipBlanks s k = j) (hj : at? s j = some ']') :
    scanArray s depth (fuel + 1) i acc first = .ok (.list (v :: acc).reverse, j + 1) := by
  rw [scanArray]
  simp [hi, hv, hk, hj]

theorem scanArray_next {depth fuel j k : Nat} {acc : List Value} {first : Bool} {v : Value}
    (hi : at? s i ≠ some ']') (hv : scanValue s depth fuel i = .ok (v, k))
    (hk : skipBlanks s k = j) (hj : at? s j = some ',') :
    scanArray s depth (fuel + 1) i acc first =
      scanArray s depth fuel (skipBlanks s (j + 1)) (v :: acc) false := by
  rw [scanArray]
  simp [hi, hv, hk, hj]

theorem scanObject_last {depth fuel j j' k m : Nat} {acc : Record} {first : Bool} {key : String}
    {v : Value} (hi : at? s i = some '"')
    (hkey : scanString s i (s.size + 1) (i + 1) [] = .ok (key, j))
    (hj : skipBlanks s j = j') (hcolon : at? s j' = some ':')
    (hv : scanValue s depth fuel (skipBlanks s (j' + 1)) = .ok (v, k))
    (hk : skipBlanks s k = m) (hm : at? s m = some '\x7d') :
    scanObject s depth (fuel + 1) i acc first = .ok (.record (acc.set key v), m + 1) := by
  rw [scanObject]
  simp [hi, hkey, hj, hcolon, hv, hk, hm]

theorem scanObject_next {depth fuel j j' k m : Nat} {acc : Record} {first : Bool} {key : String}
    {v : Value} (hi : at? s i = some '"')
    (hkey : scanString s i (s.size + 1) (i + 1) [] = .ok (key, j))
    (hj : skipBlanks s j = j') (hcolon : at? s j' = some ':')
    (hv : scanValue s depth fuel (skipBlanks s (j' + 1)) = .ok (v, k))
    (hk : skipBlanks s k = m) (hm : at? s m = some ',') :
    scanObject s depth (fuel + 1) i acc first =
      scanObject s depth fuel (skipBlanks s (m + 1)) (acc.set key v) false := by
  rw [scanObject]
  simp [hi, hkey, hj, hcolon, hv, hk, hm]

theorem separator_of_drop {b u : List Char} (h : s.toList.drop i = ',' :: (b ++ u))
    (hb : ∀ c ∈ b, isBlank c = true) (hu : ∀ c ∈ u.head?, isBlank c = false) :
    skipBlanks s i = i ∧ at? s i = some ',' ∧ skipBlanks s (i + 1) = i + 1 + b.length :=
  ⟨skipBlanks_of_head h (by rintro c ⟨⟩; rfl), by rw [at?_of_drop h]; rfl,
    skipBlanks_of_drop (drop_succ_of_drop h) hb hu⟩

theorem endsValue_blanks {b u : List Char} (hb : ∀ c ∈ b, isBlank c = true) (hu : EndsValue u) :
    EndsValue (b ++ u) := by
  cases b with
  | nil => exact hu
  | cons c b =>
    intro c' hc'
    obtain rfl : c = c' := Option.some.inj hc'
    exact closesValue_of_isBlank (hb c List.mem_cons_self)

theorem toList_quote (ascii : Bool) (t : String) :
    (quote ascii t).toList = '"' :: (escaped ascii t.toList ++ ['"']) := by
  simp [quote, escaped, List.flatMap_map]

theorem toList_bracket (st : Style) (d : Nat) (o c : String) (items : List String) :
    ∃ u, (bracket st d o c items).toList = o.toList ++ u := by
  unfold bracket
  split_ifs
  · exact ⟨_, String.toList_append⟩
  · rw [String.append_assoc, String.append_assoc, String.append_assoc, String.toList_append]
    exact ⟨_, rfl⟩

theorem head_write (st : Style) (d : Nat) (v : Value) :
    ∃ c u, (write st d v).toList = c :: u ∧ closesValue c = false ∧ c ≠ Char.ofNat 0xFEFF := by
  have hnum : ∀ W : List Char, W ≠ [] → (∀ c ∈ W, continuesNumber c = true) →
      ∃ c u, W = c :: u ∧ closesValue c = false ∧ c ≠ Char.ofNat 0xFEFF := by
    intro W hne hW
    obtain ⟨c, u, rfl⟩ := List.exists_cons_of_ne_nil hne
    have hc := hW c List.mem_cons_self
    refine ⟨c, u, rfl, ?_, ne_of_test hc rfl⟩
    cases h : closesValue c
    · rfl
    · rw [continuesNumber_of_closesValue h] at hc
      cases hc
  have hquote : ∀ t, ∃ c u, (quote st.ascii t).toList = c :: u ∧ closesValue c = false ∧
      c ≠ Char.ofNat 0xFEFF := fun t => ⟨'"', _, toList_quote st.ascii t, rfl, by decide⟩
  have hopen : ∀ (o c : String) (oc : Char) items, o.toList = [oc] → closesValue oc = false →
      oc ≠ Char.ofNat 0xFEFF → ∃ c' u, (bracket st d o c items).toList = c' :: u ∧
        closesValue c' = false ∧ c' ≠ Char.ofNat 0xFEFF := by
    intro o c oc items ho hoc hbom
    obtain ⟨u, hu⟩ := toList_bracket st d o c items
    exact ⟨oc, u, by rw [hu, ho]; rfl, hoc, hbom⟩
  cases v with
  | null => exact ⟨'n', ['u', 'l', 'l'], by simp [write], rfl, by decide⟩
  | bool b =>
    cases b
    · exact ⟨'f', ['a', 'l', 's', 'e'], by simp [write], rfl, by decide⟩
    · exact ⟨'t', ['r', 'u', 'e'], by simp [write], rfl, by decide⟩
  | int n => exact hnum _ (toString_int_ne_nil n) (continuesNumber_toString_int n)
  | float x =>
    simp only [write]
    rcases floatText_cases x with hw | hw | hw | ⟨hne, hW⟩
    · exact ⟨'N', ['a', 'N'], by simp [hw], rfl, by decide⟩
    · exact ⟨'I', ['n', 'f', 'i', 'n', 'i', 't', 'y'], by simp [hw], rfl, by decide⟩
    · exact ⟨'-', ['I', 'n', 'f', 'i', 'n', 'i', 't', 'y'], by simp [hw], rfl, by decide⟩
    · exact hnum _ hne hW
  | str t => exact hquote t
  | list xs => exact hopen _ _ '[' _ (by simp) rfl (by decide)
  | tuple xs => exact hopen _ _ '[' _ (by simp) rfl (by decide)
  | record fs => exact hopen _ _ '\x7b' _ (by simp) rfl (by decide)
  | stamp t => exact hquote _
  | objectId n => exact hquote _
  | decimal t => exact hquote _
  | member _ t => exact hquote t

end Values

/-! ### Values that read back -/

section Plain

/-- The values JSON text holds without loss: no rich scalars, bounded integers, floats that read
back, no split surrogate pairs, records with distinct keys. -/
inductive Plain : Value → Prop
  | null : Plain .null
  | bool (b : Bool) : Plain (.bool b)
  | int {n : Int} : n.natAbs < 10 ^ maxIntDigits → Plain (.int n)
  | float {x : Float} : parse (floatText x) = .ok (.float x) → Plain (.float x)
  | str {t : String} : splitsPair t.toList = false → Plain (.str t)
  | list {xs : List Value} : (∀ x ∈ xs, Plain x) → Plain (.list xs)
  | record {fs : List (String × Value)} : (fs.map Prod.fst).Nodup →
      (∀ p ∈ fs, splitsPair p.1.toList = false) → (∀ p ∈ fs, Plain p.2) → Plain (.record fs)

/-- The layouts whose separators are a comma and a colon, each followed by blanks only. -/
structure Style.Readable (st : Style) : Prop where
  item : ∃ b, st.itemSep.toList = ',' :: b ∧ ∀ c ∈ b, isBlank c = true
  key : ∃ b, st.keySep.toList = ':' :: b ∧ ∀ c ∈ b, isBlank c = true

theorem Style.readable_indented : Style.indented.Readable :=
  ⟨⟨[], by simp [Style.indented], by simp⟩,
    ⟨[' '], by simp [Style.indented], by simp [isBlank]⟩⟩

/-- The reader takes back the text written for `v` at depth `d`, wherever it stands in a text
that leaves it room: what follows may close it, and the budgets cover its length. -/
def ReadsBack (st : Style) (d : Nat) (v : Value) : Prop :=
  ∀ {s : Array Char} {i depth fuel : Nat} {rest : List Char},
    s.toList.drop i = (write st d v).toList ++ rest → EndsValue rest →
    (write st d v).toList.length ≤ depth → (write st d v).toList.length < fuel →
    scanValue s depth fuel i = .ok (v, i + (write st d v).toList.length)

variable {st : Style} {d : Nat}

theorem readsBack_null : ReadsBack st d .null := by
  intro s i depth fuel rest h _ _ hfuel
  obtain ⟨fuel, rfl⟩ : ∃ f, fuel = f + 1 := ⟨fuel - 1, by omega⟩
  simp only [write] at h ⊢
  rw [scanValue_null h]
  rfl

theorem readsBack_bool (b : Bool) : ReadsBack st d (.bool b) := by
  intro s i depth fuel rest h _ _ hfuel
  obtain ⟨fuel, rfl⟩ : ∃ f, fuel = f + 1 := ⟨fuel - 1, by omega⟩
  cases b
  · simp only [write, Bool.false_eq_true, if_false] at h ⊢
    rw [scanValue_false h]
    rfl
  · simp only [write, if_true] at h ⊢
    rw [scanValue_true h]
    rfl

theorem readsBack_int {n : Int} (hn : n.natAbs < 10 ^ maxIntDigits) : ReadsBack st d (.int n) := by
  intro s i depth fuel rest h hrest _ hfuel
  obtain ⟨fuel, rfl⟩ : ∃ f, fuel = f + 1 := ⟨fuel - 1, by omega⟩
  simp only [write] at h ⊢
  rw [scanValue_number h (continuesNumber_toString_int n) (toString_int_ne_nil n) hrest]
  exact scanNumber_int h hrest.continuesNumber hn

theorem readsBack_float {x : Float} (hx : parse (floatText x) = .ok (.float x)) :
    ReadsBack st d (.float x) := by
  intro s i depth fuel rest h hrest _ hfuel
  obtain ⟨fuel, rfl⟩ : ∃ f, fuel = f + 1 := ⟨fuel - 1, by omega⟩
  simp only [write] at h ⊢
  rcases floatText_cases x with hw | hw | hw | ⟨hne, hW⟩
  · have hv : Value.float (0.0 / 0.0) = .float x := by
      rw [hw, parse_nan] at hx
      exact Except.ok.inj hx
    rw [hw] at h ⊢
    rw [scanValue_nan h, hv]
    rfl
  · have hv : Value.float (1.0 / 0.0) = .float x := by
      rw [hw, parse_infinity] at hx
      exact Except.ok.inj hx
    rw [hw] at h ⊢
    rw [scanValue_infinity h, hv]
    rfl
  · have hv : Value.float (-1.0 / 0.0) = .float x := by
      rw [hw, parse_negInfinity] at hx
      exact Except.ok.inj hx
    rw [hw] at h ⊢
    rw [scanValue_negInfinity h, hv]
    rfl
  · rw [scanValue_number h hW hne hrest]
    exact scanNumber_of_prefix h hrest.continuesNumber (scanNumber_of_parse hx hne hW)

theorem readsBack_str {t : String} (ht : splitsPair t.toList = false) : ReadsBack st d (.str t) := by
  intro s i depth fuel rest h _ _ hfuel
  obtain ⟨fuel, rfl⟩ : ∃ f, fuel = f + 1 := ⟨fuel - 1, by omega⟩
  simp only [write] at h ⊢
  have hlen : (quote st.ascii t).toList.length = (escaped st.ascii t.toList).length + 2 := by
    rw [toList_quote, List.length_cons, List.length_append, List.length_singleton]
  replace h : s.toList.drop i = '"' :: (escaped st.ascii t.toList ++ '"' :: rest) := by
    rw [h, toList_quote, List.cons_append, List.append_assoc, List.singleton_append]
  have hsize := size_of_drop h (List.cons_ne_nil _ _)
  rw [List.length_cons, List.length_append, List.length_cons] at hsize
  rw [scanValue_quote (by rw [at?_of_drop h]; rfl),
    scanString_escaped st.ascii t.toList ht (drop_succ_of_drop h) (by omega), hlen]
  simp only [Except.map, List.reverse_nil, List.nil_append, String.ofList_toList, Except.ok.injEq,
    Prod.mk.injEq, true_and]
  omega

theorem toList_itemSepAt (hst : st.Readable) (d : Nat) :
    ∃ b, (itemSepAt st d).toList = ',' :: b ∧ ∀ c ∈ b, isBlank c = true := by
  obtain ⟨b, hsep, hb⟩ := hst.item
  refine ⟨b ++ (newline st d).toList, ?_, ?_⟩
  · rw [itemSepAt, String.toList_append, hsep, List.cons_append]
  · intro c hc
    rcases List.mem_append.1 hc with hc | hc
    · exact hb c hc
    · exact newline_blank st d c hc

theorem toList_intercalate_cons (sep w : String) (ws : List String) :
    ∃ r, (sep.intercalate (w :: ws)).toList = w.toList ++ r := by
  cases ws with
  | nil => exact ⟨[], by simp⟩
  | cons w' ws =>
    rw [String.intercalate_cons_cons, String.append_assoc, String.toList_append]
    exact ⟨_, rfl⟩

theorem head_items (st : Style) (d : Nat) (x : Value) (xs : List Value) :
    ∃ c u, ((itemSepAt st (d + 1)).intercalate (writeItems st d (x :: xs))).toList = c :: u ∧
      closesValue c = false := by
  obtain ⟨c, u, hw, hc, -⟩ := head_write st (d + 1) x
  obtain ⟨r, hr⟩ := toList_intercalate_cons (itemSepAt st (d + 1)) (write st (d + 1) x)
    (writeItems st d xs)
  exact ⟨c, u ++ r, by rw [writeItems, hr, hw, List.cons_append], hc⟩

theorem at?_ne_of_write {s : Array Char} {i : Nat} {v : Value} {R : List Char} {c : Char}
    (h : s.toList.drop i = (write st d v).toList ++ R) (hc : closesValue c = true) :
    at? s i ≠ some c := by
  obtain ⟨c', u, hw, hc', -⟩ := head_write st d v
  rw [at?_of_drop h, hw]
  exact fun he => ne_of_test hc hc' (Option.some.inj he).symm

theorem toList_intercalate_sep {sep a : String} {l : List String} {b : List Char}
    (hsep : sep.toList = ',' :: b) (hl : l ≠ []) :
    (sep.intercalate (a :: l)).toList = a.toList ++ (',' :: (b ++ (sep.intercalate l).toList)) := by
  rw [String.intercalate_cons_of_ne_nil hl, String.toList_append, String.toList_append, hsep,
    List.append_assoc, List.cons_append]

theorem scanArray_writeItems (hst : st.Readable) (x : Value) (xs : List Value)
    (hxs : ∀ y ∈ x :: xs, ReadsBack st (d + 1) y) :
    ∀ {s : Array Char} {i depth fuel : Nat} {acc : List Value} {first : Bool} {rest : List Char},
      s.toList.drop i = ((itemSepAt st (d + 1)).intercalate (writeItems st d (x :: xs))).toList ++
        ((newline st d).toList ++ ']' :: rest) →
      ((itemSepAt st (d + 1)).intercalate (writeItems st d (x :: xs))).toList.length ≤ depth →
      ((itemSepAt st (d + 1)).intercalate (writeItems st d (x :: xs))).toList.length +
        (newline st d).toList.length + 1 < fuel →
      scanArray s depth fuel i acc first = .ok (.list (acc.reverse ++ x :: xs),
        i + ((itemSepAt st (d + 1)).intercalate (writeItems st d (x :: xs))).toList.length +
          (newline st d).toList.length + 1) := by
  induction xs generalizing x with
  | nil =>
    intro s i depth fuel acc first rest h hdepth hfuel
    obtain ⟨fuel, rfl⟩ : ∃ f, fuel = f + 1 := ⟨fuel - 1, by omega⟩
    have hI : (itemSepAt st (d + 1)).intercalate (writeItems st d [x]) = write st (d + 1) x := by
      simp [writeItems]
    rw [hI] at h hdepth hfuel ⊢
    have hx := hxs x List.mem_cons_self h
      (endsValue_blanks (newline_blank st d) (by rintro c ⟨⟩; rfl)) hdepth
      (show (write st (d + 1) x).toList.length < fuel by omega)
    have hk := skipBlanks_of_drop (drop_add_of_drop h) (newline_blank st d) (by rintro c ⟨⟩; rfl)
    have hj : at? s (i + (write st (d + 1) x).toList.length + (newline st d).toList.length) =
        some ']' := by
      rw [at?_of_drop (drop_add_of_drop (drop_add_of_drop h))]
      rfl
    rw [scanArray_last (at?_ne_of_write h rfl) hx hk hj]
    simp
  | cons y ys ih =>
    intro s i depth fuel acc first rest h hdepth hfuel
    obtain ⟨fuel, rfl⟩ : ∃ f, fuel = f + 1 := ⟨fuel - 1, by omega⟩
    obtain ⟨b, hsep, hb⟩ := toList_itemSepAt hst (d + 1)
    have hI : ((itemSepAt st (d + 1)).intercalate (writeItems st d (x :: y :: ys))).toList =
        (write st (d + 1) x).toList ++ (',' :: (b ++
          ((itemSepAt st (d + 1)).intercalate (writeItems st d (y :: ys))).toList)) :=
      toList_intercalate_sep hsep (by simp [writeItems])
    rw [hI] at hdepth hfuel ⊢
    replace h : s.toList.drop i = (write st (d + 1) x).toList ++ (',' :: (b ++
        (((itemSepAt st (d + 1)).intercalate (writeItems st d (y :: ys))).toList ++
          ((newline st d).toList ++ ']' :: rest)))) := by
      rw [h, hI, List.append_assoc, List.cons_append, List.append_assoc]
    simp only [List.length_append, List.length_cons] at hdepth hfuel ⊢
    have hx := hxs x List.mem_cons_self h (by rintro c ⟨⟩; rfl)
      (show (write st (d + 1) x).toList.length ≤ depth by omega)
      (show (write st (d + 1) x).toList.length < fuel by omega)
    obtain ⟨c, u, hJ, hc⟩ := head_items st d y ys
    obtain ⟨hk, hj, hskip⟩ := separator_of_drop (drop_add_of_drop h) hb
      (by rw [hJ]; rintro c' ⟨⟩; exact isBlank_of_closesValue hc)
    rw [scanArray_next (at?_ne_of_write h rfl) hx hk hj, hskip,
      ih y (fun z hz => hxs z (List.mem_cons_of_mem x hz))
        (drop_add_of_drop (drop_succ_of_drop (drop_add_of_drop h))) (by omega) (by omega)]
    simp only [List.reverse_cons, List.append_assoc, List.cons_append, List.nil_append,
      Except.ok.injEq, Prod.mk.injEq, true_and]
    omega

theorem toList_bracket_of_ne_nil (st : Style) (d : Nat) (o c : String) {items : List String}
    (h : items ≠ []) :
    (bracket st d o c items).toList = o.toList ++ ((newline st (d + 1)).toList ++
      (((itemSepAt st (d + 1)).intercalate items).toList ++ ((newline st d).toList ++ c.toList))) := by
  rw [bracket, if_neg (by simpa using h)]
  simp only [String.toList_append, List.append_assoc]

theorem readsBack_list (hst : st.Readable) {xs : List Value}
    (hxs : ∀ x ∈ xs, ReadsBack st (d + 1) x) : ReadsBack st d (.list xs) := by
  intro s i depth fuel rest h hrest hdepth hfuel
  obtain ⟨fuel, rfl⟩ : ∃ f, fuel = f + 1 := ⟨fuel - 1, by omega⟩
  simp only [write] at h hdepth hfuel ⊢
  cases xs with
  | nil =>
    have hw : (bracket st d "[" "]" (writeItems st d [])).toList = ['[', ']'] := by
      simp [bracket, writeItems]
    rw [hw] at h hdepth hfuel ⊢
    simp only [List.length_cons, List.length_nil] at hdepth hfuel ⊢
    obtain ⟨depth, rfl⟩ : ∃ e, depth = e + 1 := ⟨depth - 1, by omega⟩
    obtain ⟨fuel, rfl⟩ : ∃ f, fuel = f + 1 := ⟨fuel - 1, by omega⟩
    have h1 := drop_succ_of_drop h
    rw [scanValue_listOpen (by rw [at?_of_drop h]; rfl), skipBlanks_of_head h1 (by rintro c ⟨⟩; rfl),
      scanArray_empty (by rw [at?_of_drop h1]; rfl)]
    rfl
  | cons x xs =>
    have hne : writeItems st d (x :: xs) ≠ [] := by simp [writeItems]
    have hw := toList_bracket_of_ne_nil st d "[" "]" hne
    rw [hw] at hdepth hfuel ⊢
    replace h : s.toList.drop i = '[' :: ((newline st (d + 1)).toList ++
        (((itemSepAt st (d + 1)).intercalate (writeItems st d (x :: xs))).toList ++
          ((newline st d).toList ++ ']' :: rest))) := by
      rw [h, hw]
      simp
    simp only [List.length_append, show "[".toList.length = 1 by simp,
      show "]".toList.length = 1 by simp] at hdepth hfuel ⊢
    obtain ⟨depth, rfl⟩ : ∃ e, depth = e + 1 := ⟨depth - 1, by omega⟩
    have h1 := drop_succ_of_drop h
    obtain ⟨c, u, hI, hc⟩ := head_items st d x xs
    have hskip := skipBlanks_of_drop h1 (newline_blank st (d + 1))
      (by rw [hI]; rintro c' ⟨⟩; exact isBlank_of_closesValue hc)
    rw [scanValue_listOpen (by rw [at?_of_drop h]; rfl), hskip,
      scanArray_writeItems hst x xs hxs (drop_add_of_drop h1) (by omega) (by omega)]
    simp only [List.reverse_nil, List.nil_append, Except.ok.injEq, Prod.mk.injEq, true_and]
    omega

theorem toList_field (hst : st.Readable) (k : String) (x : Value) :
    ∃ b, (∀ c ∈ b, isBlank c = true) ∧
      (quote st.ascii k ++ st.keySep ++ write st (d + 1) x).toList =
        '"' :: (escaped st.ascii k.toList ++ '"' :: ':' :: (b ++ (write st (d + 1) x).toList)) := by
  obtain ⟨b, hkey, hb⟩ := hst.key
  refine ⟨b, hb, ?_⟩
  rw [String.toList_append, String.toList_append, toList_quote, hkey]
  simp

theorem scanField (hst : st.Readable) {k : String} {x : Value} (hk : splitsPair k.toList = false)
    (hx : ReadsBack st (d + 1) x) {s : Array Char} {i depth fuel : Nat} {R : List Char}
    (h : s.toList.drop i = (quote st.ascii k ++ st.keySep ++ write st (d + 1) x).toList ++ R)
    (hR : EndsValue R)
    (hdepth : (quote st.ascii k ++ st.keySep ++ write st (d + 1) x).toList.length ≤ depth)
    (hfuel : (quote st.ascii k ++ st.keySep ++ write st (d + 1) x).toList.length < fuel) :
    ∃ j j', at? s i = some '"' ∧ scanString s i (s.size + 1) (i + 1) [] = .ok (k, j) ∧
      skipBlanks s j = j' ∧ at? s j' = some ':' ∧
      scanValue s depth fuel (skipBlanks s (j' + 1)) =
        .ok (x, i + (quote st.ascii k ++ st.keySep ++ write st (d + 1) x).toList.length) := by
  obtain ⟨b, hb, htext⟩ := toList_field (d := d) hst k x
  rw [htext] at hdepth hfuel ⊢
  simp only [List.length_cons, List.length_append] at hdepth hfuel ⊢
  replace h : s.toList.drop i = '"' :: (escaped st.ascii k.toList ++
      '"' :: ':' :: (b ++ ((write st (d + 1) x).toList ++ R))) := by
    rw [h, htext]
    simp
  have hsize := size_of_drop h (List.cons_ne_nil _ _)
  simp only [List.length_cons, List.length_append] at hsize
  have h1 := drop_succ_of_drop h
  have hstr : scanString s i (s.size + 1) (i + 1) [] = .ok (String.ofList ([].reverse ++ k.toList),
      i + 1 + (escaped st.ascii k.toList).length + 1) :=
    scanString_escaped st.ascii k.toList hk h1 (by omega)
  have h2 := drop_succ_of_drop (drop_add_of_drop h1)
  have h3 := drop_succ_of_drop h2
  obtain ⟨c, u, hw, hc, -⟩ := head_write st (d + 1) x
  have hsk := skipBlanks_of_drop h3 hb
    (by rw [hw]; rintro c' ⟨⟩; exact isBlank_of_closesValue hc)
  refine ⟨_, _, by rw [at?_of_drop h]; rfl, by simpa using hstr,
    skipBlanks_of_head h2 (by rintro c' ⟨⟩; rfl), by rw [at?_of_drop h2]; rfl, ?_⟩
  rw [hsk, hx (drop_add_of_drop h3) hR (by omega) (by omega), Except.ok.injEq, Prod.mk.injEq]
  refine ⟨rfl, ?_⟩
  omega

theorem not_mem_keys_of_nodup {acc : Record} {k : String} {x : Value} {fs : List (String × Value)}
    (h : ((acc ++ (k, x) :: fs).map Prod.fst).Nodup) : k ∉ acc.map Prod.fst := by
  rw [List.map_append, List.nodup_append] at h
  exact fun hk => h.2.2 k hk k List.mem_cons_self rfl

theorem head_fields (st : Style) (d : Nat) (p : String × Value) (fs : List (String × Value)) :
    ∃ u, ((itemSepAt st (d + 1)).intercalate (writeFields st d (p :: fs))).toList = '"' :: u := by
  obtain ⟨r, hr⟩ := toList_intercalate_cons (itemSepAt st (d + 1))
    (quote st.ascii p.1 ++ st.keySep ++ write st (d + 1) p.2) (writeFields st d fs)
  rw [writeFields, hr, String.toList_append, String.toList_append, toList_quote]
  exact ⟨_, rfl⟩

theorem scanObject_writeFields (hst : st.Readable) (p : String × Value)
    (fs : List (String × Value))
    (hfs : ∀ q ∈ p :: fs, splitsPair q.1.toList = false ∧ ReadsBack st (d + 1) q.2) :
    ∀ {s : Array Char} {i depth fuel : Nat} {acc : Record} {first : Bool} {rest : List Char},
      ((acc ++ p :: fs).map Prod.fst).Nodup →
      s.toList.drop i = ((itemSepAt st (d + 1)).intercalate (writeFields st d (p :: fs))).toList ++
        ((newline st d).toList ++ '\x7d' :: rest) →
      ((itemSepAt st (d + 1)).intercalate (writeFields st d (p :: fs))).toList.length ≤ depth →
      ((itemSepAt st (d + 1)).intercalate (writeFields st d (p :: fs))).toList.length +
        (newline st d).toList.length + 1 < fuel →
      scanObject s depth fuel i acc first = .ok (.record (acc ++ p :: fs),
        i + ((itemSepAt st (d + 1)).intercalate (writeFields st d (p :: fs))).toList.length +
          (newline st d).toList.length + 1) := by
  induction fs generalizing p with
  | nil =>
    intro s i depth fuel acc first rest hnd h hdepth hfuel
    obtain ⟨k, x⟩ := p
    obtain ⟨fuel, rfl⟩ : ∃ f, fuel = f + 1 := ⟨fuel - 1, by omega⟩
    have hI : (itemSepAt st (d + 1)).intercalate (writeFields st d [(k, x)]) =
        quote st.ascii k ++ st.keySep ++ write st (d + 1) x := by
      simp [writeFields]
    rw [hI] at h hdepth hfuel ⊢
    obtain ⟨hk, hx⟩ : splitsPair k.toList = false ∧ ReadsBack st (d + 1) x :=
      hfs (k, x) List.mem_cons_self
    obtain ⟨j, j', hi, hkey, hj, hcolon, hv⟩ := scanField hst hk hx h
      (endsValue_blanks (newline_blank st d) (by rintro c ⟨⟩; rfl)) hdepth
      (show _ < fuel by omega)
    have hm := skipBlanks_of_drop (drop_add_of_drop h) (newline_blank st d) (by rintro c ⟨⟩; rfl)
    have hclose := at?_of_drop (drop_add_of_drop (drop_add_of_drop h))
    rw [scanObject_last hi hkey hj hcolon hv hm hclose,
      Record.set_of_not_mem x (not_mem_keys_of_nodup hnd)]
  | cons q fs ih =>
    intro s i depth fuel acc first rest hnd h hdepth hfuel
    obtain ⟨k, x⟩ := p
    obtain ⟨fuel, rfl⟩ : ∃ f, fuel = f + 1 := ⟨fuel - 1, by omega⟩
    obtain ⟨b, hsep, hb⟩ := toList_itemSepAt hst (d + 1)
    have hI : ((itemSepAt st (d + 1)).intercalate (writeFields st d ((k, x) :: q :: fs))).toList =
        (quote st.ascii k ++ st.keySep ++ write st (d + 1) x).toList ++ (',' :: (b ++
          ((itemSepAt st (d + 1)).intercalate (writeFields st d (q :: fs))).toList)) :=
      toList_intercalate_sep hsep (by simp [writeFields])
    rw [hI] at hdepth hfuel ⊢
    replace h : s.toList.drop i = (quote st.ascii k ++ st.keySep ++ write st (d + 1) x).toList ++
        (',' :: (b ++ (((itemSepAt st (d + 1)).intercalate (writeFields st d (q :: fs))).toList ++
          ((newline st d).toList ++ '\x7d' :: rest)))) := by
      rw [h, hI, List.append_assoc, List.cons_append, List.append_assoc]
    simp only [List.length_append, List.length_cons] at hdepth hfuel ⊢
    obtain ⟨hk, hx⟩ : splitsPair k.toList = false ∧ ReadsBack st (d + 1) x :=
      hfs (k, x) List.mem_cons_self
    have hR : EndsValue (',' :: (b ++ (((itemSepAt st (d + 1)).intercalate
        (writeFields st d (q :: fs))).toList ++ ((newline st d).toList ++ '\x7d' :: rest)))) := by
      intro c hc
      rw [List.head?_cons, Option.mem_def, Option.some.injEq] at hc
      subst hc
      rfl
    have hFd : (quote st.ascii k ++ st.keySep ++ write st (d + 1) x).toList.length ≤ depth := by
      omega
    have hFf : (quote st.ascii k ++ st.keySep ++ write st (d + 1) x).toList.length < fuel := by
      omega
    obtain ⟨j, j', hi, hkey, hj, hcolon, hv⟩ := scanField hst hk hx h hR hFd hFf
    obtain ⟨u, hJ⟩ := head_fields st d q fs
    obtain ⟨hm, hcomma, hskip⟩ := separator_of_drop (drop_add_of_drop h) hb
      (by rw [hJ]; rintro c ⟨⟩; rfl)
    have hnd' : (((acc ++ [(k, x)]) ++ q :: fs).map Prod.fst).Nodup := by
      rwa [List.append_assoc, List.singleton_append]
    rw [scanObject_next hi hkey hj hcolon hv hm hcomma, hskip,
      Record.set_of_not_mem x (not_mem_keys_of_nodup hnd),
      ih q (fun z hz => hfs z (List.mem_cons_of_mem _ hz)) hnd'
        (drop_add_of_drop (drop_succ_of_drop (drop_add_of_drop h))) (by omega) (by omega)]
    simp only [List.append_assoc, List.singleton_append, Except.ok.injEq, Prod.mk.injEq, true_and]
    omega

theorem readsBack_record (hst : st.Readable) {fs : List (String × Value)}
    (hkeys : (fs.map Prod.fst).Nodup)
    (hfs : ∀ p ∈ fs, splitsPair p.1.toList = false ∧ ReadsBack st (d + 1) p.2) :
    ReadsBack st d (.record fs) := by
  intro s i depth fuel rest h hrest hdepth hfuel
  obtain ⟨fuel, rfl⟩ : ∃ f, fuel = f + 1 := ⟨fuel - 1, by omega⟩
  simp only [write] at h hdepth hfuel ⊢
  cases fs with
  | nil =>
    have hw : (bracket st d "\x7b" "\x7d" (writeFields st d [])).toList = ['\x7b', '\x7d'] := by
      simp [bracket, writeFields]
    rw [hw] at h hdepth hfuel ⊢
    simp only [List.length_cons, List.length_nil] at hdepth hfuel ⊢
    obtain ⟨depth, rfl⟩ : ∃ e, depth = e + 1 := ⟨depth - 1, by omega⟩
    obtain ⟨fuel, rfl⟩ : ∃ f, fuel = f + 1 := ⟨fuel - 1, by omega⟩
    have h1 := drop_succ_of_drop h
    rw [scanValue_recordOpen (by rw [at?_of_drop h]; rfl),
      skipBlanks_of_head h1 (by rintro c ⟨⟩; rfl), scanObject_empty (by rw [at?_of_drop h1]; rfl)]
  | cons p fs =>
    have hne : writeFields st d (p :: fs) ≠ [] := by simp [writeFields]
    have hw := toList_bracket_of_ne_nil st d "\x7b" "\x7d" hne
    rw [hw] at hdepth hfuel ⊢
    replace h : s.toList.drop i = '\x7b' :: ((newline st (d + 1)).toList ++
        (((itemSepAt st (d + 1)).intercalate (writeFields st d (p :: fs))).toList ++
          ((newline st d).toList ++ '\x7d' :: rest))) := by
      rw [h, hw]
      simp
    simp only [List.length_append, show "\x7b".toList.length = 1 by simp,
      show "\x7d".toList.length = 1 by simp] at hdepth hfuel ⊢
    obtain ⟨depth, rfl⟩ : ∃ e, depth = e + 1 := ⟨depth - 1, by omega⟩
    have h1 := drop_succ_of_drop h
    obtain ⟨u, hI⟩ := head_fields st d p fs
    have hskip := skipBlanks_of_drop h1 (newline_blank st (d + 1)) (by rw [hI]; rintro c ⟨⟩; rfl)
    rw [scanValue_recordOpen (by rw [at?_of_drop h]; rfl), hskip,
      scanObject_writeFields hst p fs hfs (by simpa using hkeys) (drop_add_of_drop h1)
        (by omega) (by omega)]
    simp only [List.nil_append, Except.ok.injEq, Prod.mk.injEq, true_and]
    omega

/-- Every plain value reads back from its text, at every depth of the layout. -/
theorem readsBack_of_plain (hst : st.Readable) {v : Value} (hv : Plain v) :
    ∀ d, ReadsBack st d v := by
  induction hv with
  | null => exact fun _ => readsBack_null
  | bool b => exact fun _ => readsBack_bool b
  | int hn => exact fun _ => readsBack_int hn
  | float hx => exact fun _ => readsBack_float hx
  | str ht => exact fun _ => readsBack_str ht
  | list _ ih => exact fun d => readsBack_list hst fun x hx => ih x hx (d + 1)
  | record hkeys hsplit _ ih =>
    exact fun d => readsBack_record hst hkeys fun p hp => ⟨hsplit p hp, ih p hp (d + 1)⟩

/-- The reader takes back every plain value from the text the writer gives it, in every layout
whose separators are a comma and a colon followed by blanks. -/
theorem parse_render (hst : st.Readable) {v : Value} (hv : Plain v) :
    parse (render st v) = .ok v := by
  show parse (write st 0 v) = .ok v
  obtain ⟨c, u, hw, hc, hbom⟩ := head_write st 0 v
  refine parse_of_scanValue hw (isBlank_of_closesValue hc) hbom ?_
  have hr := readsBack_of_plain hst hv 0
    (show (write st 0 v).toList.toArray.toList.drop 0 = (write st 0 v).toList ++ [] by simp)
    (by simp [EndsValue]) (le_of_eq String.length_toList)
    (show _ < 2 * (write st 0 v).toList.length + 2 by omega)
  rwa [Nat.zero_add] at hr

end Plain


end Json

end AuditTrail
