import AuditTrail.Proofs.ExportRows
import AuditTrail.Proofs.CalendarText

/-!
# Export workbooks read back

For rows of scalars the workbook is written unless an integer has no double, and a reader sees
the header and the rows as `Sheet.loaded` says, unless a kept text holds a character XML does
not allow (`excel_export_reads_back`).
-/

namespace AuditTrail

/-- A row value as the exported rows hold it: a text (or a member of an enumeration, a text by
its value), a number, a boolean or nothing. -/
def Value.isSheetScalar : Value → Bool
  | .str _ | .member _ _ | .int _ | .float _ | .bool _ | .null => true
  | _ => false

def Value.hasDouble : Value → Bool
  | .int n => (Float.ofRatio? n 1).isSome
  | _ => true

theorem Column.mem_all (c : Column) : c ∈ Column.all := by
  cases c <;> decide

instance Column.decidableForall (P : Column → Prop) [DecidablePred P] : Decidable (∀ c, P c) :=
  decidable_of_iff (∀ c ∈ Column.all, P c) ⟨fun h c => h c (Column.mem_all c), fun h c _ => h c⟩

@[simp] theorem Value.hasDouble_str (t : String) : (Value.str t).hasDouble = true := rfl

namespace Sheet

open SheetFile

/-! ### Data types -/

theorem startsWith_eq_false_of_errorCode {t : String} (h : errorCodes.contains t = true) :
    t.startsWith "=" = false := by
  have hcodes : ∀ c ∈ errorCodes, c.startsWith "=" = false := by simp [errorCodes]
  exact hcodes t (List.contains_iff_mem.1 h)

theorem bindType_str_eq_formula_iff (t : String) :
    bindType (.str t) = 'f' ↔ 1 < t.length ∧ t.startsWith "=" = true := by
  simp only [bindType]
  split_ifs with hf he
  · exact iff_of_true rfl hf
  · exact iff_of_false (by decide) hf
  · exact iff_of_false (by decide) hf

/-- The export keeps every text a text, unless it spells an error value: no text is a
formula. -/
theorem cellType_str (t : String) :
    cellType (.str t) = if errorCodes.contains t = true then 'e' else 's' := by
  simp only [cellType, bindType]
  by_cases hs : t.startsWith "=" = true
  · -- set back to a text; no error value starts with `=`
    have hcode : errorCodes.contains t = false := by
      cases hc : errorCodes.contains t
      · rfl
      · rw [startsWith_eq_false_of_errorCode hc] at hs
        cases hs
    rw [if_pos hs, if_neg (by rw [hcode]; decide)]
  · rw [if_neg hs, if_neg (fun h => hs h.2)]

/-! ### The cells of a sheet -/

def keptText (s : String) : String :=
  String.ofList ((s.toList.filter (!illegal ·)).take maxCellText)

def held : Value → Value
  | .str s | .member _ s => .str (keptText s)
  | v => v

theorem cellValue_of_scalar {v : Value} (h : v.isSheetScalar = true) :
    cellValue v = .ok (held v) := by
  cases v with
  | list _ | record _ | stamp _ | objectId _ | decimal _ | tuple _ => cases h
  | _ => rfl

theorem isSheetScalar_held {v : Value} (h : v.isSheetScalar = true) :
    (held v).isSheetScalar = true := by
  cases v <;> first | rfl | cases h

@[simp] theorem hasDouble_held (v : Value) : (held v).hasDouble = v.hasDouble := by
  cases v <;> rfl

def levelRange (n : Nat) : String := if n = 1 then "C2" else "C2:C" ++ toString (n + 1)

def headerRow : List Value := Column.all.map fun c => .str c.header

theorem mapM_eq_ok_map {α β ε : Type} {f : α → Except ε β} {g : α → β} :
    ∀ {xs : List α}, (∀ x ∈ xs, f x = .ok (g x)) → xs.mapM f = .ok (xs.map g)
  | [], _ => rfl
  | x :: xs, h => by
    rw [List.mapM_cons, h x List.mem_cons_self,
      mapM_eq_ok_map fun y hy => h y (List.mem_cons_of_mem _ hy)]
    rfl

theorem build_of_scalars {rows : List Row} (hne : rows ≠ [])
    (h : ∀ r ∈ rows, ∀ c, (r.cell c).isSheetScalar = true) :
    ∃ s, build rows = .ok s ∧ s.title = sheetTitle ∧
      s.rows = headerRow :: rows.map (·.cells.map held) ∧
      s.rules = levelFills.map (fun (l, fill) =>
        ⟨levelRange rows.length, "\"" ++ l.text ++ "\"", fill⟩) := by
  have hbody : rows.mapM (fun r => r.cells.mapM cellValue) = .ok (rows.map (·.cells.map held)) :=
    mapM_eq_ok_map fun r hr => mapM_eq_ok_map fun v hv => by
      obtain ⟨c, -, rfl⟩ := List.mem_map.1 hv
      exact cellValue_of_scalar (h r hr c)
  obtain ⟨r, rs, rfl⟩ := List.exists_cons_of_ne_nil hne
  unfold build
  rw [hbody]
  cases rs with
  | nil => exact ⟨_, rfl, rfl, rfl, rfl⟩
  | cons r' rs => exact ⟨_, rfl, rfl, rfl, rfl⟩

theorem isSheetScalar_of_rows {s : Sheet} {rows : List Row}
    (hrows : s.rows = headerRow :: rows.map (·.cells.map held))
    (h : ∀ r ∈ rows, ∀ c, (r.cell c).isSheetScalar = true) :
    ∀ x ∈ s.rows, ∀ v ∈ x, v.isSheetScalar = true := by
  rw [hrows]
  intro x hx v hv
  rcases List.mem_cons.1 hx with rfl | hx
  · obtain ⟨c, -, rfl⟩ := List.mem_map.1 hv
    rfl
  · obtain ⟨r, hr, rfl⟩ := List.mem_map.1 hx
    obtain ⟨w, hw, rfl⟩ := List.mem_map.1 hv
    obtain ⟨c, -, rfl⟩ := List.mem_map.1 hw
    exact isSheetScalar_held (h r hr c)

/-! ### Writing the file -/

theorem forM_eq_ite {α ε : Type} {f : α → Except ε Unit} (e : ε) (p : α → Bool) :
    ∀ {xs : List α}, (∀ x ∈ xs, f x = if p x then .ok () else .error e) →
      xs.forM f = if xs.all p then .ok () else .error e
  | [], _ => rfl
  | x :: xs, h => by
    have hxs := forM_eq_ite e p fun y hy => h y (List.mem_cons_of_mem _ hy)
    unfold List.forM
    rw [h x List.mem_cons_self]
    cases hx : p x
    · simp [hx, bind, Except.bind]
    · simp [hx, hxs, bind, Except.bind]

theorem checkWritable_of_scalars {s : Sheet} {rows : List Row}
    (hrows : s.rows = headerRow :: rows.map (·.cells.map held))
    (h : ∀ r ∈ rows, ∀ c, (r.cell c).isSheetScalar = true) :
    s.checkWritable = if ∀ r ∈ rows, ∀ c, (r.cell c).hasDouble = true then .ok ()
      else .error (.overflow "int too large to convert to float") := by
  have hscalar := isSheetScalar_of_rows hrows h
  have hall : s.rows.all (·.all Value.hasDouble) = true ↔
      ∀ r ∈ rows, ∀ c, (r.cell c).hasDouble = true := by
    simp [hrows, headerRow, Row.cells, Column.mem_all]
  unfold checkWritable
  refine (forM_eq_ite _ (·.all Value.hasDouble) fun x hx =>
    forM_eq_ite (Failure.overflow "int too large to convert to float") Value.hasDouble
      fun v hv => ?_).trans ?_
  · -- only an integer is checked: the sheet holds no stamp
    have hv := hscalar x hx v hv
    cases v <;> first | rfl | cases hv
  · by_cases hd : ∀ r ∈ rows, ∀ c, (r.cell c).hasDouble = true
    · rw [if_pos (hall.2 hd), if_pos hd]
    · rw [if_neg (mt hall.1 hd), if_neg hd]

/-! ### Where a reader of the file stops -/

theorem badCharAt_eq_none_iff (cs : List Char) (line col : Nat) (afterReturn : Bool) :
    badCharAt cs line col afterReturn = none ↔ ∀ c ∈ cs, isXmlChar c = true := by
  fun_induction badCharAt cs line col afterReturn <;> simp_all

theorem mem_join_zipIdx {α : Type} {l : List α} (f : α × Nat → String) {a : α} {c : Char}
    (ha : a ∈ l) (hc : ∀ i, c ∈ (f (a, i)).toList) :
    c ∈ (String.join (l.zipIdx.map f)).toList := by
  obtain ⟨i, hi⟩ := List.mem_iff_getElem?.1 ha
  simp only [String.toList_join, List.mem_flatMap, List.mem_map]
  exact ⟨_, ⟨(a, i), List.mem_zipIdx_iff_getElem?.2 hi, rfl⟩, hc i⟩

theorem mem_escapeContent {t : String} {c : Char} (h : c ∈ t.toList)
    (hc : isXmlChar c = false) : c ∈ (escapeContent t).toList := by
  have hplain : c ≠ '&' ∧ c ≠ '<' ∧ c ≠ '>' := by
    refine ⟨?_, ?_, ?_⟩ <;> (rintro rfl; revert hc; decide)
  simp only [escapeContent, String.toList_join, List.mem_flatMap, List.mem_map]
  exact ⟨_, ⟨c, h, rfl⟩, by simp [hplain]⟩

theorem mem_cellXml {t : String} {c : Char} (h : c ∈ t.toList) (hc : isXmlChar c = false)
    (ref : String) (style : Option Nat) : c ∈ (cellXml ref style (.str t)).toList := by
  have hne : t ≠ "" := by
    rintro rfl
    simp at h
  have he := mem_escapeContent h hc
  have hne' : (escapeContent t).isEmpty = false := by
    simp only [String.isEmpty_eq_false_iff]
    rintro h'
    simp [h'] at he
  rw [cellXml.eq_def]
  simp only [hne', Bool.false_eq_true, if_false]
  rw [cellType_str]
  cases style <;> split_ifs <;> simp [he]

theorem mem_sheetXml {s : Sheet} {x : List Value} {t : String} {c : Char} (hx : x ∈ s.rows)
    (ht : .str t ∈ x) (hc : c ∈ t.toList) (hbad : isXmlChar c = false) :
    c ∈ (sheetXml s).toList := by
  have hrow : ∀ i, c ∈ (rowXml (i + 1) x).toList := fun i => by
    unfold rowXml
    rw [String.toList_append, List.mem_append]
    left
    rw [String.toList_append, List.mem_append]
    right
    exact mem_join_zipIdx _ ht fun j => mem_cellXml hc hbad _ _
  unfold sheetXml
  rw [String.toList_append, List.mem_append]
  left
  rw [String.toList_append, List.mem_append]
  right
  exact mem_join_zipIdx _ hx hrow

theorem stopsAt_eq_none_iff (s : Sheet) :
    stopsAt s = none ↔ ∀ x ∈ s.rows, ∀ t, .str t ∈ x → ∀ c ∈ t.toList, isXmlChar c = true := by
  constructor
  · intro h x hx t ht c hc
    by_contra hne
    have hbad : isXmlChar c = false := by simpa using hne
    simp only [stopsAt] at h
    rw [if_pos (by
      simp only [List.any_eq_true]
      exact ⟨x, hx, .str t, ht, List.any_eq_true.2 ⟨c, hc, by simp [hbad]⟩⟩),
      badCharAt_eq_none_iff] at h
    rw [h c (mem_sheetXml hx ht hc hbad)] at hbad
    cases hbad
  · intro h
    simp only [stopsAt]
    rw [if_neg]
    simp only [List.any_eq_true, not_exists, not_and]
    intro x hx v hv
    cases v with
    | str t => simpa using h x hx t hv
    | _ => simp

theorem isXmlChar_of_printable {c : Char} (h : 0x20 ≤ c.toNat ∧ c.toNat < 0x7F) :
    isXmlChar c = true := by
  have hlt : ¬Surrogate.offset ≤ c.toNat := by
    unfold Surrogate.offset
    omega
  have hcode : Surrogate.code c = c.toNat := by
    rw [Surrogate.code, Surrogate.unit?, if_neg (by simp [hlt])]
    rfl
  rw [isXmlChar, hcode]
  simp only [Bool.or_eq_true, Bool.and_eq_true, decide_eq_true_eq, beq_iff_eq]
  omega

def xmlSafe : Value → Bool
  | .str s | .member _ s => (keptText s).toList.all isXmlChar
  | _ => true

theorem xmlSafe_iff (v : Value) :
    xmlSafe v = true ↔ ∀ t, held v = .str t → ∀ c ∈ t.toList, isXmlChar c = true := by
  cases v <;> simp [xmlSafe, held]

theorem stopsAt_of_scalars {s : Sheet} {rows : List Row}
    (hrows : s.rows = headerRow :: rows.map (·.cells.map held)) :
    stopsAt s = none ↔ ∀ r ∈ rows, ∀ c, xmlSafe (r.cell c) = true := by
  have hheader : ∀ c : Column, ∀ ch ∈ c.header.toList, isXmlChar ch = true := by
    intro c ch hch
    have hprint : (c.header.toList.all fun ch => 0x20 ≤ ch.toNat && ch.toNat < 0x7F) = true := by
      cases c <;> decide
    refine isXmlChar_of_printable ?_
    simpa using List.all_eq_true.1 hprint ch hch
  rw [stopsAt_eq_none_iff, hrows]
  constructor
  · intro hall r hr c
    rw [xmlSafe_iff]
    intro t ht
    refine hall _ (List.mem_cons_of_mem _ (List.mem_map.2 ⟨r, hr, rfl⟩)) t ?_
    exact List.mem_map.2 ⟨r.cell c, List.mem_map.2 ⟨c, Column.mem_all c, rfl⟩, ht⟩
  · intro hall x hx t ht
    rcases List.mem_cons.1 hx with rfl | hx
    · -- a header text
      obtain ⟨c, -, hct⟩ := List.mem_map.1 ht
      cases hct
      exact hheader c
    · obtain ⟨r, hr, rfl⟩ := List.mem_map.1 hx
      obtain ⟨v, hv, hvt⟩ := List.mem_map.1 ht
      obtain ⟨c, -, rfl⟩ := List.mem_map.1 hv
      exact (xmlSafe_iff _).1 (hall r hr c) t hvt

/-! ### Reading the file back -/

theorem readLineEnds_of_not_mem {cs : List Char} (h : '\r' ∉ cs) : readLineEnds cs = cs := by
  fun_induction readLineEnds cs <;> simp_all

def loadedText (t : String) : Value × String :=
  if t = "" then (.null, "inlineStr")
  else if errorCodes.contains t then (.str t, "e")
  else (.str (String.ofList (readLineEnds t.toList)), "s")

/-- A row value as a reader sees it in its cell, with its data type: a text as the cell keeps
it, a number through the text the file stores, a boolean as it is, and nothing as nothing. -/
def loaded : Value → Value × String
  | .str s | .member _ s => loadedText (keptText s)
  | .int n => (((Float.ofRatio? n 1).map readFloat).getD .null, "n")
  | .float x => (readFloat x, "n")
  | .bool b => (.bool b, "b")
  | _ => (.null, "n")

theorem readCell_str (t : String) : readCell (.str t) = loadedText t := by
  by_cases ht : t = ""
  · subst ht
    rfl
  · rw [readCell.eq_2 _ ht, cellType_str, loadedText, if_neg ht]
    split_ifs <;> rfl

theorem readCell_held {v : Value} (h : v.isSheetScalar = true) : readCell (held v) = loaded v := by
  cases v with
  | str s | member _ s => exact readCell_str _
  | int n =>
    show readCell (.int n) = _
    cases hx : Float.ofRatio? n 1 <;> simp [readCell, loaded, hx]
  | float _ | bool _ | null => rfl
  | _ => cases h

theorem readCell_header (c : Column) : readCell (.str c.header) = (.str c.header, "s") := by
  have hne : c.header ≠ "" := by cases c <;> decide
  have hcode : c.header ∉ errorCodes := by cases c <;> decide
  have hcr : '\r' ∉ c.header.toList := by cases c <;> decide
  simp [readCell_str, loadedText, hne, hcode, readLineEnds_of_not_mem hcr]

theorem readRows {rows : List Row} (h : ∀ r ∈ rows, ∀ c, (r.cell c).isSheetScalar = true) :
    (headerRow :: rows.map (·.cells.map held)).map (·.map readCell) =
      (Column.all.map fun c => (.str c.header, "s")) :: rows.map (·.cells.map loaded) := by
  rw [List.map_cons]
  congr 1
  · rw [headerRow, List.map_map]
    exact List.map_congr_left fun c _ => readCell_header c
  · rw [List.map_map]
    refine List.map_congr_left fun r hr => ?_
    rw [Function.comp_apply, List.map_map]
    refine List.map_congr_left fun v hv => ?_
    obtain ⟨c, -, rfl⟩ := List.mem_map.1 hv
    exact readCell_held (h r hr c)

theorem insertRule_same_range (range f g fill fill' : String) (qs : List ShadeRule) :
    insertRule ⟨range, f, fill⟩ (⟨range, g, fill'⟩ :: qs) =
      if compare f.toList g.toList == .gt then ⟨range, g, fill'⟩ :: insertRule ⟨range, f, fill⟩ qs
      else ⟨range, f, fill⟩ :: ⟨range, g, fill'⟩ :: qs := by
  simp only [insertRule]
  rw [Stamp.compare_append_of_length_eq _ _ rfl]
  simp

theorem sort_levelRules (range : String) :
    (levelFills.map fun (l, fill) => (⟨range, "\"" ++ l.text ++ "\"", fill⟩ : ShadeRule)).foldr
        insertRule [] =
      [⟨range, "\"debug\"", "FFD9D9D9"⟩, ⟨range, "\"error\"", "FFFF6B6B"⟩,
        ⟨range, "\"info\"", "FF6BCF7F"⟩, ⟨range, "\"warn\"", "FFFFD93D"⟩] := by
  simp +decide [levelFills, Level.text, insertRule_same_range, insertRule.eq_1]

def levelRulesRead (range : String) : List Value :=
  [("debug", "FFD9D9D9"), ("error", "FFFF6B6B"), ("info", "FF6BCF7F"), ("warn", "FFFFD93D")].map
    fun (l, fill) => .record [("range", .str range), ("type", .str "cellIs"),
      ("operator", .str "equal"), ("formula", .list [.str ("\"" ++ l ++ "\"")]),
      ("fill", .str fill)]

/-- What a reader of the export workbook of `rows` sees, in the fields of its summary: the
title, the rows, counting the header row, each row's values and data types, and the shading
rules of the level column. -/
structure ReadBack (rows : List Row) (fields : Record) : Prop where
  title : Record.get? fields "title" = some (.str "Parking Logs")
  maxRow : Record.get? fields "max_row" = some (.int (rows.length + 1))
  values : Record.get? fields "rows" = some (.list
    (.list headerRow :: rows.map fun r => .list (r.cells.map fun v => (loaded v).1)))
  types : Record.get? fields "types" = some (.list
    (.str "sssssssssssssssss" :: rows.map fun r => .str (String.join (r.cells.map fun v => (loaded v).2))))
  rules : Record.get? fields "conditional_formatting" =
    some (.list (levelRulesRead (levelRange rows.length)))

/-- A sheet of rows of scalars that the reader does not stop at reads back as `ReadBack`
says. -/
theorem readBack_of_stopsAt {s : Sheet} {rows : List Row} (htitle : s.title = sheetTitle)
    (hrows : s.rows = headerRow :: rows.map (·.cells.map held))
    (hrules : s.rules = levelFills.map (fun (l, fill) =>
        ⟨levelRange rows.length, "\"" ++ l.text ++ "\"", fill⟩))
    (h : ∀ r ∈ rows, ∀ c, (r.cell c).isSheetScalar = true) (hstop : stopsAt s = none) :
    ∃ fields, s.summary = .ok (.record fields) ∧ ReadBack rows fields := by
  have hread := readRows h
  rw [← hrows] at hread
  refine ⟨_, by unfold summary; rw [hstop], ⟨?_, ?_, ?_, ?_, ?_⟩⟩
  · simp [Record.get?, htitle, sheetTitle]
  · simp [Record.get?, hrows]
  · simp [Record.get?, hread, headerRow]
  · simp [Record.get?, hread, Column.all, Function.comp_def]
  · rw [hrules, sort_levelRules]
    simp [Record.get?, levelRulesRead]

end Sheet

/-- The workbook of rows of scalars: no text becomes a formula, an integer without a double is
refused, and otherwise a reader sees the header and the rows as `Sheet.loaded` says, unless a
kept text holds a character XML does not allow. -/
theorem excel_export_reads_back {rows : List Row} (hne : rows ≠ [])
    (hscalar : ∀ r ∈ rows, ∀ c, (r.cell c).isSheetScalar = true) (filters : Value) (now : Stamp) :
    (∀ t, Sheet.cellType (.str t) ≠ 'f') ∧
    ((∃ r ∈ rows, ∃ c, (r.cell c).hasDouble = false) →
      ExportContent.write .excel rows filters now =
        .error (.overflow "int too large to convert to float")) ∧
    ((∀ r ∈ rows, ∀ c, (r.cell c).hasDouble = true) →
      ∃ s, ExportContent.write .excel rows filters now = .ok (.sheet s) ∧
        ((∃ r ∈ rows, ∃ c, Sheet.xmlSafe (r.cell c) = false) →
          ∃ m, s.summary = .error (.badXml m)) ∧
        ((∀ r ∈ rows, ∀ c, Sheet.xmlSafe (r.cell c) = true) →
          ∃ fields, s.summary = .ok (.record fields) ∧ Sheet.ReadBack rows fields)) := by
  obtain ⟨s, hs, htitle, hrows, hrules⟩ := Sheet.build_of_scalars hne hscalar
  have hwrite : Sheet.write rows = if ∀ r ∈ rows, ∀ c, (r.cell c).hasDouble = true then .ok s
      else .error (.overflow "int too large to convert to float") := by
    rw [Sheet.write, hs]
    simp only [bind, Except.bind, Sheet.checkWritable_of_scalars hrows hscalar]
    split_ifs <;> rfl
  refine ⟨fun t => ?_, fun hwide => ?_, fun hd => ⟨s, ?_, ?_, ?_⟩⟩
  · rw [Sheet.cellType_str]
    split_ifs <;> decide
  · obtain ⟨r, hr, c, hc⟩ := hwide
    have hd : ¬∀ r ∈ rows, ∀ c, (r.cell c).hasDouble = true := fun hd => by
      rw [hd r hr c] at hc
      cases hc
    rw [if_neg hd] at hwrite
    simp [ExportContent.write, hwrite, Except.map]
  · rw [if_pos hd] at hwrite
    simp [ExportContent.write, hwrite, Except.map]
  · -- the reader stops at a character XML does not allow
    rintro ⟨r, hr, c, hc⟩
    have hstop : SheetFile.stopsAt s ≠ none := fun hstop => by
      rw [(Sheet.stopsAt_of_scalars hrows).1 hstop r hr c] at hc
      cases hc
    obtain ⟨⟨ch, line, col⟩, hsome⟩ := Option.ne_none_iff_exists'.1 hstop
    exact ⟨_, by unfold Sheet.summary; rw [hsome]⟩
  · intro hsafe
    exact Sheet.readBack_of_stopsAt htitle hrows hrules hscalar
      ((Sheet.stopsAt_of_scalars hrows).2 hsafe)

end AuditTrail

namespace AuditTrail

def formulaRows : List Row :=
  [⟨fun c => if c = .message then .str "=1+1" else .str "N/A"⟩,
   ⟨fun c => if c = .message then .str "\x01=SUM(A1:A2)" else
      if c = .statusCode then .int 200 else .str "N/A"⟩]

theorem formula_rows_read_back :
    formulaRows ≠ [] ∧ (∀ r ∈ formulaRows, ∀ c, (r.cell c).isSheetScalar = true) ∧
      ∃ s, ExportContent.write .excel formulaRows .null ⟨0, none⟩ = .ok (.sheet s) ∧
        ∃ fields, s.summary = .ok (.record fields) ∧ Sheet.ReadBack formulaRows fields := by
  have hne : formulaRows ≠ [] := by simp [formulaRows]
  have hscalar : ∀ r ∈ formulaRows, ∀ c, (r.cell c).isSheetScalar = true := by
    intro r hr c
    simp only [formulaRows, List.mem_cons, List.not_mem_nil, or_false] at hr
    rcases hr with rfl | rfl <;> cases c <;> rfl
  have hd : ∀ r ∈ formulaRows, ∀ c, (r.cell c).hasDouble = true := by
    intro r hr c
    simp only [formulaRows, List.mem_cons, List.not_mem_nil, or_false] at hr
    rcases hr with rfl | rfl <;> cases c <;> rfl
  have hsafe : ∀ r ∈ formulaRows, ∀ c, Sheet.xmlSafe (r.cell c) = true := by
    intro r hr c
    simp only [formulaRows, List.mem_cons, List.not_mem_nil, or_false] at hr
    rcases hr with rfl | rfl <;> cases c <;> decide
  obtain ⟨s, hs, -, hread⟩ := (excel_export_reads_back hne hscalar .null ⟨0, none⟩).2.2 hd
  exact ⟨hne, hscalar, s, hs, hread hsafe⟩

/-- A text that spells an error value is kept as it is, and a reader sees an error cell. -/
theorem error_value_text_reads_as_error :
    Sheet.cellValue (.str "#N/A") = .ok (.str "#N/A") ∧ Sheet.cellType (.str "#N/A") = 'e' ∧
      SheetFile.readCell (.str "#N/A") = (.str "#N/A", "e") := by
  refine ⟨rfl, ?_, ?_⟩
  · rw [Sheet.cellType_str]
    decide
  · rw [Sheet.readCell_str]
    simp [Sheet.loadedText, Sheet.errorCodes]

end AuditTrail
