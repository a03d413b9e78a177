import AuditTrail.Proofs.ExportRows
import AuditTrail.Proofs.JsonText

/-!
# Exports read back

A CSV reader of the default dialect, as a state machine over the characters of each line, reads
an export back as its header and a record per row (`csv_export_reads_back`); a JSON export reads
back as its document (`json_export_reads_back`).
-/

namespace AuditTrail

namespace Csv

inductive ReadState where
  | startRecord | startField | inField | inQuoted | quoteInQuoted | eatLineEnd
  deriving DecidableEq, Repr

/-- A reader: where it stands, the characters of the field being read, last first, and the
fields of the record read so far. -/
structure Reader where
  state : ReadState
  field : List Char
  fields : List String

namespace Reader

def fresh : Reader := ⟨.startRecord, [], []⟩

def fieldLimit : Nat := 131072

def tooLarge : String := "field larger than field limit (" ++ toString fieldLimit ++ ")"

def addChar (p : Reader) (c : Char) (st : ReadState) : Except String Reader :=
  if p.field.length < fieldLimit then .ok ⟨st, c :: p.field, p.fields⟩ else .error tooLarge

def saveField (p : Reader) (st : ReadState) : Reader :=
  ⟨st, [], p.fields ++ [String.ofList p.field.reverse]⟩

def startField (p : Reader) : Option Char → Except String Reader
  | none => .ok (p.saveField .startRecord)
  | some '\n' | some '\r' => .ok (p.saveField .eatLineEnd)
  | some '"' => .ok { p with state := .inQuoted }
  | some ',' => .ok (p.saveField .startField)
  | some c => p.addChar c .inField

def step (p : Reader) (e : Option Char) : Except String Reader :=
  match p.state, e with
  | .startRecord, none => .ok p
  | .startRecord, some '\n' | .startRecord, some '\r' => .ok { p with state := .eatLineEnd }
  | .startRecord, some c => p.startField (some c)
  | .startField, e => p.startField e
  | .inField, none => .ok (p.saveField .startRecord)
  | .inField, some '\n' | .inField, some '\r' => .ok (p.saveField .eatLineEnd)
  | .inField, some ',' => .ok (p.saveField .startField)
  | .inField, some c => p.addChar c .inField
  | .inQuoted, none => .ok p
  | .inQuoted, some '"' => .ok { p with state := .quoteInQuoted }
  | .inQuoted, some c => p.addChar c .inQuoted
  | .quoteInQuoted, none => .ok (p.saveField .startRecord)
  | .quoteInQuoted, some '"' => p.addChar '"' .inQuoted
  | .quoteInQuoted, some ',' => .ok (p.saveField .startField)
  | .quoteInQuoted, some '\n' | .quoteInQuoted, some '\r' => .ok (p.saveField .eatLineEnd)
  | .quoteInQuoted, some c => p.addChar c .inField
  | .eatLineEnd, none => .ok { p with state := .startRecord }
  | .eatLineEnd, some '\n' | .eatLineEnd, some '\r' => .ok p
  | .eatLineEnd, some _ =>
    .error "new-line character seen in unquoted field - do you need to open the file with newline=''?"

/-- The records read from `p` on: a record is over when a line ends at the start of a record;
at the end of the text, a field still open ends the last record. -/
def readEvents : Reader → List (Option Char) → Except String (List (List String))
  | p, [] =>
    .ok (if p.state = .inQuoted ∨ p.field ≠ [] then [(p.saveField .startRecord).fields] else [])
  | p, e :: es => do
    let q ← p.step e
    if e = none ∧ q.state = .startRecord then
      return q.fields :: (← readEvents fresh es)
    else readEvents q es

end Reader

def charEvents (c : Char) : List (Option Char) := if c = '\n' then [some c, none] else [some c]

def events (cs : List Char) : List (Option Char) :=
  cs.flatMap charEvents ++ (if cs.getLast? = some '\n' ∨ cs = [] then [] else [none])

/-- The records of a CSV text, as the reader reads them. -/
def read (text : String) : Except String (List (List String)) :=
  Reader.readEvents .fresh (events text.toList)

/-! ### Reading a field -/

namespace Reader

def special (c : Char) : Bool := c == ',' || c == '"' || c == '\r' || c == '\n'

theorem readEvents_cons_some (p : Reader) (c : Char) (es : List (Option Char)) :
    readEvents p (some c :: es) = p.step (some c) >>= fun q => readEvents q es := by
  simp [readEvents]

theorem readEvents_of_step {p q : Reader} {c : Char} (h : p.step (some c) = .ok q)
    (es : List (Option Char)) : readEvents p (some c :: es) = readEvents q es := by
  rw [readEvents_cons_some, h]
  rfl

theorem addChar_bind {β : Type} (p : Reader) (c : Char) (st : ReadState)
    (k : Reader → Except String β) :
    (p.addChar c st >>= k) =
      if p.field.length < fieldLimit then k ⟨st, c :: p.field, p.fields⟩ else .error tooLarge := by
  unfold addChar
  split_ifs <;> rfl

theorem step_inQuoted_of_ne {f : List Char} {fs : List String} {c : Char} (hc : c ≠ '"') :
    step ⟨.inQuoted, f, fs⟩ (some c) = addChar ⟨.inQuoted, f, fs⟩ c .inQuoted := by
  simp [step]

theorem step_inField_of_plain {f : List Char} {fs : List String} {c : Char}
    (hc : special c = false) :
    step ⟨.inField, f, fs⟩ (some c) = addChar ⟨.inField, f, fs⟩ c .inField := by
  simp only [special, Bool.or_eq_false_iff, beq_eq_false_iff_ne] at hc
  simp [step, hc]

theorem readEvents_quotedChar (c : Char) (f : List Char) (fs : List String)
    (es : List (Option Char)) :
    readEvents ⟨.inQuoted, f, fs⟩
        ((if c = '"' then ['"', '"'] else [c]).flatMap charEvents ++ es) =
      if f.length < fieldLimit then readEvents ⟨.inQuoted, c :: f, fs⟩ es else .error tooLarge := by
  by_cases hq : c = '"'
  · subst hq
    simp only [if_pos, List.flatMap_cons, List.flatMap_nil, charEvents, List.append_nil]
    exact addChar_bind _ _ _ _
  · rw [if_neg hq, List.flatMap_singleton]
    by_cases hn : c = '\n'
    · -- the end of the line inside the quotes leaves the reader where it was
      subst hn
      rw [charEvents, if_pos rfl, List.cons_append, readEvents_cons_some,
        step_inQuoted_of_ne (by decide), addChar_bind]
      split_ifs <;> rfl
    · rw [charEvents, if_neg hn, List.singleton_append, readEvents_cons_some,
        step_inQuoted_of_ne hq, addChar_bind]

theorem readEvents_quoted (rest : List (Option Char)) :
    ∀ (cs f : List Char) (fs : List String), f.length ≤ fieldLimit →
      readEvents ⟨.inQuoted, f, fs⟩
          ((cs.flatMap fun c => if c = '"' then ['"', '"'] else [c]).flatMap charEvents ++
            some '"' :: rest) =
        if f.length + cs.length ≤ fieldLimit then
          readEvents ⟨.quoteInQuoted, cs.reverse ++ f, fs⟩ rest
        else .error tooLarge
  | [], f, fs, hf => by
    rw [if_pos (by simpa using hf)]
    rfl
  | c :: cs, f, fs, hf => by
    rw [List.flatMap_cons, List.flatMap_append, List.append_assoc, readEvents_quotedChar]
    by_cases hlt : f.length < fieldLimit
    · have hle : (c :: f).length + cs.length ≤ fieldLimit ↔
          f.length + (c :: cs).length ≤ fieldLimit := by
        simp only [List.length_cons]
        omega
      rw [if_pos hlt, readEvents_quoted rest cs (c :: f) fs (by simp only [List.length_cons]; omega)]
      simp only [hle, List.reverse_cons, List.append_assoc, List.singleton_append]
    · rw [if_neg hlt, if_neg (by simp only [List.length_cons]; omega)]

theorem readEvents_plain (rest : List (Option Char)) :
    ∀ (cs f : List Char) (fs : List String), f.length ≤ fieldLimit →
      (∀ c ∈ cs, special c = false) →
      readEvents ⟨.inField, f, fs⟩ (cs.map some ++ rest) =
        if f.length + cs.length ≤ fieldLimit then readEvents ⟨.inField, cs.reverse ++ f, fs⟩ rest
        else .error tooLarge
  | [], f, fs, hf, _ => by
    rw [if_pos (by simpa using hf)]
    rfl
  | c :: cs, f, fs, hf, hcs => by
    rw [List.map_cons, List.cons_append, readEvents_cons_some,
      step_inField_of_plain (hcs c List.mem_cons_self), addChar_bind]
    by_cases hlt : f.length < fieldLimit
    · have hle : (c :: f).length + cs.length ≤ fieldLimit ↔
          f.length + (c :: cs).length ≤ fieldLimit := by
        simp only [List.length_cons]
        omega
      rw [if_pos hlt, readEvents_plain rest cs (c :: f) fs (by simp only [List.length_cons]; omega)
        fun x hx => hcs x (List.mem_cons_of_mem _ hx)]
      simp only [hle, List.reverse_cons, List.append_assoc, List.singleton_append]
    · rw [if_neg hlt, if_neg (by simp only [List.length_cons]; omega)]

end Reader

theorem needsQuotes_eq (s : String) : needsQuotes s = s.toList.any Reader.special :=
  String.contains_bool_eq

theorem charEvents_of_plain {c : Char} (h : Reader.special c = false) : charEvents c = [some c] := by
  simp only [Reader.special, Bool.or_eq_false_iff, beq_eq_false_iff_ne] at h
  simp [charEvents, h.2]

theorem flatMap_charEvents_of_plain :
    ∀ {cs : List Char}, (∀ c ∈ cs, Reader.special c = false) →
      cs.flatMap charEvents = cs.map some
  | [], _ => rfl
  | c :: cs, h => by
    rw [List.flatMap_cons, charEvents_of_plain (h c List.mem_cons_self),
      flatMap_charEvents_of_plain fun x hx => h x (List.mem_cons_of_mem _ hx)]
    rfl

theorem toList_field (s : String) :
    (field s).toList = if needsQuotes s = true then
      '"' :: (s.toList.flatMap fun c => if c = '"' then ['"', '"'] else [c]) ++ ['"']
    else s.toList := by
  unfold field
  split_ifs
  · have hquote : "\"".toList = ['"'] := rfl
    have hdouble : (fun c : Char => (if (c == '"') = true then "\"\"" else c.toString).toList) =
        fun c => if c = '"' then ['"', '"'] else [c] := by
      funext c
      by_cases hc : c = '"' <;> simp [hc]
    simp only [String.toList_append, String.toList_join, List.flatMap_map, hquote, hdouble]
    rfl
  · rfl

namespace Reader

def afterField (st : ReadState) (s : String) : ReadState :=
  if needsQuotes s = true then .quoteInQuoted else if s = "" then st else .inField

theorem readEvents_field {st : ReadState} (hst : st = .startRecord ∨ st = .startField)
    (s : String) (acc : List String) (rest : List (Option Char)) :
    readEvents ⟨st, [], acc⟩ ((Csv.field s).toList.flatMap charEvents ++ rest) =
      if s.length ≤ fieldLimit then readEvents ⟨afterField st s, s.toList.reverse, acc⟩ rest
      else .error tooLarge := by
  rw [toList_field, afterField]
  by_cases hq : needsQuotes s = true
  · rw [if_pos hq, if_pos hq]
    have hstep : step ⟨st, [], acc⟩ (some '"') = .ok ⟨.inQuoted, [], acc⟩ := by
      rcases hst with rfl | rfl <;> rfl
    have hev : ('"' :: (s.toList.flatMap fun c => if c = '"' then ['"', '"'] else [c]) ++
          ['"']).flatMap charEvents ++ rest =
        some '"' :: ((s.toList.flatMap fun c => if c = '"' then ['"', '"'] else [c]).flatMap
          charEvents ++ some '"' :: rest) := by
      simp only [List.cons_append, List.flatMap_cons, List.flatMap_append, List.append_assoc]
      rfl
    rw [hev, readEvents_of_step hstep, readEvents_quoted rest s.toList [] acc (Nat.zero_le _)]
    simp [String.length_toList]
  · rw [if_neg hq, if_neg hq]
    have hplain : ∀ c ∈ s.toList, special c = false := by
      rw [needsQuotes_eq] at hq
      simpa using hq
    cases hs : s.toList with
    | nil =>
      have he : s = "" := String.toList_inj.1 (by simpa using hs)
      subst he
      simp
    | cons c cs =>
      have hne : s ≠ "" := by
        rintro rfl
        simp at hs
      have hc := hplain c (by simp [hs])
      have hstep : step ⟨st, [], acc⟩ (some c) = .ok ⟨.inField, [c], acc⟩ := by
        simp only [special, Bool.or_eq_false_iff, beq_eq_false_iff_ne] at hc
        rcases hst with rfl | rfl <;> simp [step, startField, addChar, hc, fieldLimit]
      rw [List.flatMap_cons, charEvents_of_plain hc, List.singleton_append, List.cons_append,
        readEvents_of_step hstep]
      have hlen : s.length = cs.length + 1 := by
        rw [← String.length_toList, hs, List.length_cons]
      have hiff : [c].length + cs.length ≤ fieldLimit ↔ s.length ≤ fieldLimit := by
        rw [hlen, List.length_singleton, Nat.add_comm]
      rw [flatMap_charEvents_of_plain fun x hx => hplain x (by simp [hs, hx]),
        readEvents_plain rest cs [c] acc (by simp [fieldLimit]) fun x hx => hplain x (by simp [hs, hx]),
        if_neg hne]
      simp only [hiff, List.reverse_cons]

theorem step_afterField_comma {st : ReadState} (hst : st = .startRecord ∨ st = .startField)
    (s : String) (f : List Char) (acc : List String) :
    step ⟨afterField st s, f, acc⟩ (some ',') =
      .ok ⟨.startField, [], acc ++ [String.ofList f.reverse]⟩ := by
  unfold afterField
  rcases hst with rfl | rfl <;> split_ifs <;> rfl

theorem readEvents_lineEnd (s : String) (f : List Char) (acc : List String)
    (rest : List (Option Char)) :
    readEvents ⟨afterField .startField s, f, acc⟩ (['\r', '\n'].flatMap charEvents ++ rest) =
      (do let more ← readEvents fresh rest; pure ((acc ++ [String.ofList f.reverse]) :: more)) := by
  unfold afterField
  split_ifs <;> rfl

theorem readEvents_fields (rest : List (Option Char)) :
    ∀ (fs acc : List String), fs ≠ [] →
      readEvents ⟨.startField, [], acc⟩
          (([','].intercalate (fs.map fun s => (Csv.field s).toList) ++ ['\r', '\n']).flatMap
            charEvents ++ rest) =
        if ∀ s ∈ fs, s.length ≤ fieldLimit then
          (do let more ← readEvents fresh rest; pure ((acc ++ fs) :: more))
        else .error tooLarge
  | [], _, h => absurd rfl h
  | [s], acc, _ => by
    rw [List.map_singleton, List.intercalate_singleton, List.flatMap_append, List.append_assoc,
      readEvents_field (Or.inr rfl)]
    by_cases h : s.length ≤ fieldLimit
    · rw [if_pos h, readEvents_lineEnd, if_pos (by simpa using h)]
      simp
    · rw [if_neg h, if_neg (by simpa using h)]
  | s :: t :: more, acc, _ => by
    have hsplit : [','].intercalate ((s :: t :: more).map fun s => (Csv.field s).toList) =
        (Csv.field s).toList ++ [','] ++
          [','].intercalate ((t :: more).map fun s => (Csv.field s).toList) := by
      simp only [List.map_cons, List.intercalate_cons_cons]
    rw [hsplit, List.append_assoc, List.append_assoc, List.flatMap_append, List.append_assoc,
      readEvents_field (Or.inr rfl)]
    by_cases h : s.length ≤ fieldLimit
    · rw [if_pos h, List.flatMap_append, List.append_assoc, List.flatMap_cons, List.flatMap_nil,
        List.append_nil, charEvents, if_neg (by decide), List.singleton_append,
        readEvents_of_step (step_afterField_comma (Or.inr rfl) _ _ _),
        readEvents_fields rest (t :: more) _ (List.cons_ne_nil _ _)]
      simp [h]
    · rw [if_neg h, if_neg (by simp [h])]

theorem readEvents_line (rest : List (Option Char)) (s t : String) (more : List String) :
    readEvents fresh ((Csv.line (s :: t :: more)).toList.flatMap charEvents ++ rest) =
      if ∀ x ∈ s :: t :: more, x.length ≤ fieldLimit then
        (do let records ← readEvents fresh rest; pure ((s :: t :: more) :: records))
      else .error tooLarge := by
  have hsplit : (Csv.line (s :: t :: more)).toList =
      (Csv.field s).toList ++ [','] ++
        ([','].intercalate ((t :: more).map fun s => (Csv.field s).toList) ++ ['\r', '\n']) := by
    simp [Csv.line, Function.comp_def]
  rw [hsplit, List.flatMap_append, List.flatMap_append, List.append_assoc, List.append_assoc]
  show readEvents ⟨.startRecord, [], []⟩ _ = _
  rw [readEvents_field (Or.inl rfl)]
  by_cases h : s.length ≤ fieldLimit
  · rw [if_pos h, List.flatMap_cons, List.flatMap_nil, List.append_nil, charEvents,
      if_neg (by decide), List.singleton_append,
      readEvents_of_step (step_afterField_comma (Or.inl rfl) _ _ _),
      readEvents_fields rest (t :: more) _ (List.cons_ne_nil _ _)]
    simp [h]
  · rw [if_neg h, if_neg (by simp [h])]

end Reader

theorem readEvents_rows : ∀ rows : List Row,
    Reader.readEvents .fresh
        (((rows.map fun r => line (r.cells.map cellText)).flatMap String.toList).flatMap
          charEvents) =
      if ∀ r ∈ rows, ∀ v ∈ r.cells, (cellText v).length ≤ Reader.fieldLimit then
        .ok (rows.map (·.cells.map cellText))
      else .error Reader.tooLarge
  | [] => rfl
  | r :: rs => by
    obtain ⟨s, t, more, hcells⟩ : ∃ s t more, r.cells.map cellText = s :: t :: more :=
      ⟨_, _, _, rfl⟩
    rw [List.map_cons, List.flatMap_cons, List.flatMap_append, hcells, Reader.readEvents_line,
      readEvents_rows rs]
    have hrow : (∀ x ∈ s :: t :: more, x.length ≤ Reader.fieldLimit) ↔
        ∀ v ∈ r.cells, (cellText v).length ≤ Reader.fieldLimit := by
      rw [← hcells]
      simp
    by_cases h : ∀ v ∈ r.cells, (cellText v).length ≤ Reader.fieldLimit
    · rw [if_pos (hrow.2 h)]
      by_cases hrs : ∀ r ∈ rs, ∀ v ∈ r.cells, (cellText v).length ≤ Reader.fieldLimit
      · rw [if_pos hrs, if_pos (List.forall_mem_cons.2 ⟨h, hrs⟩), ← hcells]
        rfl
      · rw [if_neg hrs, if_neg fun hall => hrs (List.forall_mem_cons.1 hall).2]
        rfl
    · rw [if_neg (mt hrow.1 h), if_neg fun hall => h (List.forall_mem_cons.1 hall).1]

theorem getLast?_append_join_lines :
    ∀ (rows : List Row) (pre : List Char), pre.getLast? = some '\n' →
      (pre ++ (rows.map fun r => line (r.cells.map cellText)).flatMap String.toList).getLast? =
        some '\n'
  | [], pre, h => by simpa using h
  | r :: rs, pre, h => by
    rw [List.map_cons, List.flatMap_cons, ← List.append_assoc]
    exact getLast?_append_join_lines rs _ (by simp [line])

/-- A CSV export reads back as its header and one record per row, each field the text of its
cell, unless a text is longer than the field limit. -/
theorem read_write (rows : List Row) :
    read (write rows) =
      if ∀ r ∈ rows, ∀ v ∈ r.cells, (cellText v).length ≤ Reader.fieldLimit then
        .ok ((Column.all.map Column.key) :: rows.map (·.cells.map cellText))
      else .error Reader.tooLarge := by
  have htext : (write rows).toList = (line (Column.all.map Column.key)).toList ++
      (rows.map fun r => line (r.cells.map cellText)).flatMap String.toList := by
    simp [write, String.toList_join]
  have hlast : (write rows).toList.getLast? = some '\n' := by
    rw [htext]
    exact getLast?_append_join_lines rows _ (by simp [line])
  have hheader : ∀ x ∈ Column.all.map Column.key, x.length ≤ Reader.fieldLimit := by
    have hall : ((Column.all.map Column.key).all fun x => decide (x.length ≤ Reader.fieldLimit)) =
        true := by decide
    simpa using hall
  rw [read, events, if_pos (Or.inl hlast), List.append_nil, htext, List.flatMap_append]
  obtain ⟨s, t, more, hkeys⟩ : ∃ s t more, Column.all.map Column.key = s :: t :: more :=
    ⟨_, _, _, rfl⟩
  rw [hkeys, Reader.readEvents_line, if_pos (hkeys ▸ hheader), readEvents_rows]
  split_ifs <;> rfl

theorem mem_intercalate {α : Type} {sep x : List α} {a : α} :
    ∀ {l : List (List α)}, x ∈ l → a ∈ x → a ∈ sep.intercalate l
  | [], hx, _ => absurd hx List.not_mem_nil
  | [y], hx, ha => by
    rw [List.intercalate_singleton, ← List.mem_singleton.1 hx]
    exact ha
  | y :: z :: l, hx, ha => by
    rw [List.intercalate_cons_cons]
    rcases List.mem_cons.1 hx with rfl | hx
    · exact List.mem_append_left _ (List.mem_append_left _ ha)
    · exact List.mem_append_right _ (mem_intercalate hx ha)

theorem mem_write {rows : List Row} {r : Row} {v : Value} {c : Char} (hr : r ∈ rows)
    (hv : v ∈ r.cells) (hc : c ∈ (cellText v).toList) : c ∈ (write rows).toList := by
  have hfield : c ∈ (field (cellText v)).toList := by
    rw [toList_field]
    split_ifs
    · refine List.mem_cons_of_mem _ (List.mem_append_left _ (List.mem_flatMap.2 ⟨c, hc, ?_⟩))
      split_ifs with hq <;> simp [hq]
    · exact hc
  have hline : c ∈ (line (r.cells.map cellText)).toList := by
    rw [line, String.toList_append, String.toList_intercalate]
    refine List.mem_append_left _ (mem_intercalate ?_ hfield)
    exact List.mem_map.2 ⟨field (cellText v),
      List.mem_map.2 ⟨cellText v, List.mem_map.2 ⟨v, hv, rfl⟩, rfl⟩, rfl⟩
  simp only [write, String.toList_append, String.toList_join, List.mem_append, List.mem_flatMap,
    List.mem_map]
  exact Or.inr ⟨_, ⟨r, hr, rfl⟩, hline⟩

end Csv

/-- A CSV export with a lone surrogate is refused; otherwise it reads back as its header and a
record per row, unless a text is longer than the reader's field limit. -/
theorem csv_export_reads_back (rows : List Row) (filters : Value) (now : Stamp) :
    ((∃ r ∈ rows, ∃ v ∈ r.cells, Surrogate.occursIn (Csv.cellText v) = true) →
      ∃ m, ExportContent.write .csv rows filters now = .error (.unencodable m)) ∧
    ((∀ r ∈ rows, ∀ v ∈ r.cells, Surrogate.occursIn (Csv.cellText v) = false) →
      ExportContent.write .csv rows filters now = .ok (.text (Csv.write rows)) ∧
        Csv.read (Csv.write rows) =
          if ∀ r ∈ rows, ∀ v ∈ r.cells, (Csv.cellText v).length ≤ Csv.Reader.fieldLimit then
            .ok ((Column.all.map Column.key) :: rows.map (·.cells.map Csv.cellText))
          else .error Csv.Reader.tooLarge) := by
  refine ⟨fun ⟨r, hr, v, hv, hocc⟩ => ?_, fun hfree => ⟨?_, Csv.read_write rows⟩⟩
  · -- the stand-in of the cell stands in the file's text, which has no UTF-8 form
    obtain ⟨c, hc, hstand⟩ := List.any_eq_true.1 hocc
    have htext : Surrogate.occursIn (Csv.write rows) = true :=
      List.any_eq_true.2 ⟨c, Csv.mem_write hr hv hc, hstand⟩
    obtain ⟨m, hm⟩ := Option.ne_none_iff_exists'.1 fun h =>
      Bool.false_ne_true (((utf8Refusal?_eq_none_iff _).1 h).symm.trans htext)
    exact ⟨m, by simp [ExportContent.write, hm]⟩
  · have hnone := (utf8Refusal?_eq_none_iff _).2 (Csv.occursIn_write hfree)
    simp [ExportContent.write, hnone]

namespace Value

theorem encodableItems_eq_map : ∀ xs : List Value, encodableItems xs = xs.map encodable
  | [] => rfl
  | x :: xs => by rw [encodableItems, encodableItems_eq_map xs, List.map_cons]

theorem encodableFields_eq_map :
    ∀ fs : List (String × Value), encodableFields fs = fs.map fun p => (p.1, p.2.encodable)
  | [] => rfl
  | (k, x) :: fs => by rw [encodableFields, encodableFields_eq_map fs, List.map_cons]

end Value

namespace JsonExport

theorem document_encodable (rows : List Row) (filters : Value) (now : Stamp) :
    (document rows filters now).encodable =
      .record [("metadata", .record [("exportDate", .str now.iso),
          ("totalRecords", .int rows.length), ("generatedBy", .str generatedBy),
          ("version", .str exportVersion), ("filters", filters.encodable)]),
        ("logs", .list (rows.map fun r =>
          .record (Column.all.map fun c => (c.key, (r.cell c).encodable))))] := by
  simp [document, Value.encodable, Value.encodableFields, Value.encodableItems_eq_map,
    Value.encodableFields_eq_map, Row.toRecord]

theorem plain_document {rows : List Row} {filters : Value} (now : Stamp)
    (hcells : ∀ r ∈ rows, ∀ c, Json.Plain (r.cell c).encodable) (hf : Json.Plain filters.encodable)
    (hlen : rows.length < 10 ^ maxIntDigits) :
    Json.Plain (document rows filters now).encodable := by
  have hrow : ∀ r ∈ rows,
      Json.Plain (.record (Column.all.map fun c => (c.key, (r.cell c).encodable))) := by
    intro r hr
    refine .record ?_ ?_ ?_
    · simpa [List.map_map, Function.comp_def] using (by decide : (Column.all.map Column.key).Nodup)
    · simpa using (by decide : ∀ c ∈ Column.all, Surrogate.splitsPair c.key.toList = false)
    · simp only [List.mem_map]
      rintro _ ⟨c, -, rfl⟩
      exact hcells r hr c
  have hmeta : Json.Plain (.record [("exportDate", .str now.iso),
      ("totalRecords", .int rows.length), ("generatedBy", .str generatedBy),
      ("version", .str exportVersion), ("filters", filters.encodable)]) := by
    refine .record (by simp only [List.map_cons, List.map_nil]; decide) ?_ ?_
    · simp only [List.mem_cons, List.not_mem_nil, or_false, forall_eq_or_imp, forall_eq]
      decide
    · simp only [List.mem_cons, List.not_mem_nil, or_false, forall_eq_or_imp, forall_eq]
      refine ⟨.str (Surrogate.splitsPair_of_occursIn (Stamp.occursIn_iso now)), .int (by simpa),
        .str (by decide), .str (by decide), hf⟩
  rw [document_encodable]
  refine .record (by simp only [List.map_cons, List.map_nil]; decide) ?_ ?_
  · simp only [List.mem_cons, List.not_mem_nil, or_false, forall_eq_or_imp, forall_eq]
    decide
  · simp only [List.mem_cons, List.not_mem_nil, or_false, forall_eq_or_imp, forall_eq]
    refine ⟨hmeta, .list ?_⟩
    simp only [List.mem_map]
    rintro _ ⟨r, hr, rfl⟩
    exact hrow r hr

end JsonExport

/-- A JSON export reads back as its document when every cell and the filters are values JSON
holds without loss. -/
theorem json_export_reads_back (rows : List Row) (filters : Value) (now : Stamp)
    (hcells : ∀ r ∈ rows, ∀ c, Json.Plain (r.cell c).encodable) (hf : Json.Plain filters.encodable)
    (hlen : rows.length < 10 ^ maxIntDigits) :
    ExportContent.write .json rows filters now = .ok (.text (JsonExport.write rows filters now)) ∧
      Json.parse (JsonExport.write rows filters now) =
        .ok (.record [("metadata", .record [("exportDate", .str now.iso),
            ("totalRecords", .int rows.length), ("generatedBy", .str generatedBy),
            ("version", .str exportVersion), ("filters", filters.encodable)]),
          ("logs", .list (rows.map fun r =>
            .record (Column.all.map fun c => (c.key, (r.cell c).encodable))))]) := by
  refine ⟨rfl, ?_⟩
  rw [JsonExport.write, Json.parse_render Json.Style.readable_indented
    (JsonExport.plain_document now hcells hf hlen), JsonExport.document_encodable]

/-- Exports read back: the CSV text as its header and a record per row, each field the text of
its cell, and the JSON text as its metadata and rows, under the conditions above. -/
theorem exports_read_back (rows : List Row) (filters : Value) (now : Stamp) :
    (((∃ r ∈ rows, ∃ v ∈ r.cells, Surrogate.occursIn (Csv.cellText v) = true) →
        ∃ m, ExportContent.write .csv rows filters now = .error (.unencodable m)) ∧
      ((∀ r ∈ rows, ∀ v ∈ r.cells, Surrogate.occursIn (Csv.cellText v) = false) →
        ExportContent.write .csv rows filters now = .ok (.text (Csv.write rows)) ∧
          Csv.read (Csv.write rows) =
            if ∀ r ∈ rows, ∀ v ∈ r.cells, (Csv.cellText v).length ≤ Csv.Reader.fieldLimit then
              .ok ((Column.all.map Column.key) :: rows.map (·.cells.map Csv.cellText))
            else .error Csv.Reader.tooLarge)) ∧
    ((∀ r ∈ rows, ∀ c, Json.Plain (r.cell c).encodable) → Json.Plain filters.encodable →
      rows.length < 10 ^ maxIntDigits →
      ExportContent.write .json rows filters now = .ok (.text (JsonExport.write rows filters now)) ∧
        Json.parse (JsonExport.write rows filters now) =
          .ok (.record [("metadata", .record [("exportDate", .str now.iso),
              ("totalRecords", .int rows.length), ("generatedBy", .str generatedBy),
              ("version", .str exportVersion), ("filters", filters.encodable)]),
            ("logs", .list (rows.map fun r =>
              .record (Column.all.map fun c => (c.key, (r.cell c).encodable))))])) :=
  ⟨csv_export_reads_back rows filters now, json_export_reads_back rows filters now⟩

def quotedRows : List Row :=
  [⟨fun c => if c = .message then .str "a,b \"q\"\r\nline" else
      if c = .level then .member "LogLevel" "error" else .null⟩]

theorem quoted_rows_read_back :
    quotedRows ≠ [] ∧
      (∀ r ∈ quotedRows, ∀ v ∈ r.cells, Surrogate.occursIn (Csv.cellText v) = false) ∧
      (∀ r ∈ quotedRows, ∀ v ∈ r.cells, (Csv.cellText v).length ≤ Csv.Reader.fieldLimit) ∧
      Csv.read (Csv.write quotedRows) =
        .ok ((Column.all.map Column.key) :: quotedRows.map (·.cells.map Csv.cellText)) ∧
      (∀ r ∈ quotedRows, ∀ c, Json.Plain (r.cell c).encodable) ∧
      Json.parse (JsonExport.write quotedRows .null ⟨0, none⟩) =
        .ok (.record [("metadata", .record [("exportDate", .str (Stamp.iso ⟨0, none⟩)),
            ("totalRecords", .int 1), ("generatedBy", .str generatedBy),
            ("version", .str exportVersion), ("filters", .null)]),
          ("logs", .list (quotedRows.map fun r =>
            .record (Column.all.map fun c => (c.key, (r.cell c).encodable))))]) := by
  have hcells : ∀ r ∈ quotedRows, ∀ v ∈ r.cells,
      v = .str "a,b \"q\"\r\nline" ∨ v = .member "LogLevel" "error" ∨ v = .null := by
    intro r hr v hv
    simp only [quotedRows, List.mem_singleton] at hr
    subst hr
    simp only [Row.cells, Column.all, List.map_cons, List.map_nil, List.mem_cons,
      List.not_mem_nil, or_false] at hv
    rcases hv with h | h | h | h | h | h | h | h | h | h | h | h | h | h | h | h | h <;>
      simp [h]
  have hsur : ∀ r ∈ quotedRows, ∀ v ∈ r.cells, Surrogate.occursIn (Csv.cellText v) = false := by
    intro r hr v hv
    rcases hcells r hr v hv with rfl | rfl | rfl <;> decide
  have hlen : ∀ r ∈ quotedRows, ∀ v ∈ r.cells, (Csv.cellText v).length ≤ Csv.Reader.fieldLimit := by
    intro r hr v hv
    rcases hcells r hr v hv with rfl | rfl | rfl <;> decide
  have hplain : ∀ r ∈ quotedRows, ∀ c, Json.Plain (r.cell c).encodable := by
    intro r hr c
    have hc : r.cell c ∈ r.cells := List.mem_map_of_mem (by cases c <;> decide)
    rcases hcells r hr _ hc with h | h | h <;> rw [h]
    · exact .str (by decide)
    · exact .str (by decide)
    · exact .null
  have hcsv := ((exports_read_back quotedRows .null ⟨0, none⟩).1.2 hsur).2
  rw [if_pos hlen] at hcsv
  have hjson := ((exports_read_back quotedRows .null ⟨0, none⟩).2 hplain .null
    (Nat.one_lt_pow (by decide) (by decide))).2
  exact ⟨by simp [quotedRows], hsur, hlen, hcsv, hplain, hjson⟩

/-- A member of an enumeration is exported as its value in both texts, not as its display text
`LogLevel.error`. -/
theorem member_exported_as_value :
    Csv.cellText (.member "LogLevel" "error") = "error" ∧
      (Value.member "LogLevel" "error").encodable = .str "error" ∧
      (Value.member "LogLevel" "error").display = "LogLevel.error" :=
  ⟨rfl, rfl, by simp [Value.display]⟩

end AuditTrail
