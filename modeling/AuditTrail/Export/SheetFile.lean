import AuditTrail.Export.Workbook
import AuditTrail.Validation.Scalar

/-!
# Export workbook files

What the file of an export sheet holds (one line of XML, cells by their data type) and what a
reader of it sees: line ends as line feeds, numbers through their text, serial numbers as stamps,
and a stop at the first character that XML does not allow.
-/

namespace AuditTrail

namespace SheetFile

open Sheet

def epochDay : Int := Date.toDays ⟨1899, 12, 30⟩

/-- The serial number of a naive stamp: whole days since 1899-12-30, one fewer from 1899-12-31
through 1900-02-28 (the calendar counts a 29 February 1900), plus the fraction of the day, as
doubles. -/
def serial (t : Stamp) : Float :=
  let days := t.date.toDays - epochDay
  let days := if 0 < days ∧ days ≤ 60 then days - 1 else days
  let secs := t.hour * 3600 + t.minute * 60 + t.second
  Float.ofInt days + (Float.ofNat secs + Float.ofNat t.micro / 1000000.0) / 86400.0

def wholeOf (x : Float) : Int := ((Exact.ofFloat x).floor?).getD 0

/-- A double split into whole days, rounded down, and the rest of a day, as the language's
`divmod` by 1 gives them: the rest of a negative number is the double nearest to the
fraction plus one. -/
def splitDay (x : Float) : Float × Float :=
  let w := if x < 0 then x.ceil else x.floor
  let m := x - w
  if m < 0 then (w - 1, m + 1) else (w, m)

def roundHalfEven (x : Float) : Float :=
  let r := x.round
  if (x - r).abs == 0.5 then 2.0 * (x / 2.0).round else r

def epochStamp : Stamp := ⟨epochDay * microsPerDay, none⟩

/-- The stamp a serial number read back stands for: the fraction of the day rounded to the
millisecond, one day more below 60 (undoing the skipped 29 February 1900); `none` outside the
years 1 to 9999. -/
def stampOfSerial : Value → Option Stamp
  | .int n => epochStamp.shift ((if 0 ≤ n ∧ n < 60 then n + 1 else n) * microsPerDay)
  | .float x =>
    let (day, frac) := splitDay x
    let ms := wholeOf (roundHalfEven (frac * 86400.0 * 1000.0))
    let day := wholeOf day + (if 0 ≤ x ∧ x < 60 then 1 else 0)
    (epochStamp.shift (day * microsPerDay)).bind (·.shift (ms * 1000))
  | _ => none

/-- Whether a serial number read back is a time of day rather than a stamp: from 0 up to 1,
with its fraction rounded to the millisecond still short of a whole day. -/
def clockSerial : Value → Bool
  | .int n => n == 0
  | .float x => 0 ≤ x && x < 1 && wholeOf (roundHalfEven (x * 86400.0 * 1000.0)) < 86400000
  | _ => false

def clockCell : Value := .record [("$repr", .str "time")]

/-- Whether a character may appear in an XML file, raw or as a reference; a lone surrogate,
which the file can only hold as a reference to its number, may not. -/
def isXmlChar (c : Char) : Bool :=
  let n := Surrogate.code c
  n == 9 || n == 10 || n == 13 || (0x20 ≤ n && n ≤ 0xD7FF) || (0xE000 ≤ n && n ≤ 0xFFFD) ||
    0x10000 ≤ n

def escapeContent (s : String) : String :=
  String.join (s.toList.map fun c =>
    if c == '&' then "&amp;" else if c == '<' then "&lt;" else if c == '>' then "&gt;"
    else c.toString)

/-- A number as the file writes it: sixteen significant digits, nothing for a NaN or an
infinity. -/
def numberText (x : Float) : String :=
  if x.isNaN || x.isInf then "" else Float.generalText 16 x

/-- The element of one cell at reference `ref`, with the style `style` when it has one;
nothing for an empty cell. -/
def cellXml (ref : String) (style : Option Nat) (v : Value) : String :=
  let open_ (kind : String) (style : Option Nat) : String :=
    "<c r=\"" ++ ref ++ "\"" ++ (match style with
      | some n => " s=\"" ++ toString n ++ "\""
      | none => "") ++ " t=\"" ++ kind ++ "\""
  let withValue (kind : String) (style : Option Nat) (text : String) : String :=
    open_ kind style ++ (if text.isEmpty then "><v /></c>" else "><v>" ++ text ++ "</v></c>")
  match v with
  | .str "" => open_ "inlineStr" style ++ " />"
  | .str t =>
    match cellType v with
    | 'f' =>
      -- a formula cell names no type and holds the text after its `=`
      "<c r=\"" ++ ref ++ "\"" ++ (match style with
        | some n => " s=\"" ++ toString n ++ "\""
        | none => "") ++ "><f>" ++ escapeContent (String.ofList (t.toList.drop 1)) ++
        "</f><v /></c>"
    | 'e' => withValue "e" style (escapeContent t)
    | _ =>
      let stripped := Blank.strip t
      let keep := if !stripped.isEmpty && stripped != t then " xml:space=\"preserve\"" else ""
      open_ "inlineStr" style ++ "><is><t" ++ keep ++ ">" ++ escapeContent t ++ "</t></is></c>"
  | .int n => withValue "n" style (((Float.ofRatio? n 1).map numberText).getD "")
  | .float x => withValue "n" style (numberText x)
  | .bool b => withValue "b" style (if b then "1" else "0")
  | .stamp t => withValue "n" (some 2) (numberText (serial t))
  | _ => ""

def rowXml (r : Nat) (cells : List Value) : String :=
  let style := if r = 1 then some 1 else none
  "<row r=\"" ++ toString r ++ "\">" ++
    String.join (cells.zipIdx.map (fun (v, i) =>
      cellXml (columnLetters i ++ toString r) style v)) ++ "</row>"

def sheetXml (s : Sheet) : String :=
  let width := (s.rows.map List.length).foldl max 0
  "<worksheet xmlns=\"http://schemas.openxmlformats.org/spreadsheetml/2006/main\">" ++
  "<sheetPr><outlinePr summaryBelow=\"1\" summaryRight=\"1\" /><pageSetUpPr /></sheetPr>" ++
  "<dimension ref=\"A1:" ++ columnLetters (width - 1) ++ toString s.rows.length ++ "\" />" ++
  "<sheetViews><sheetView workbookViewId=\"0\">" ++
  "<pane ySplit=\"1\" topLeftCell=\"" ++ s.freezePanes ++
  "\" activePane=\"bottomLeft\" state=\"frozen\" />" ++
  "<selection pane=\"bottomLeft\" activeCell=\"A1\" sqref=\"A1\" /></sheetView></sheetViews>" ++
  "<sheetFormatPr baseColWidth=\"8\" defaultRowHeight=\"15\" />" ++
  "<cols>" ++ String.join (s.widths.zipIdx.map (fun (w, i) =>
    "<col min=\"" ++ toString (i + 1) ++ "\" max=\"" ++ toString (i + 1) ++ "\" width=\"" ++
      toString w.2 ++ "\" customWidth=\"1\" />")) ++ "</cols>" ++
  "<sheetData>" ++ String.join (s.rows.zipIdx.map (fun (r, i) => rowXml (i + 1) r)) ++
  "</sheetData>"

/-- The first character of a text that XML does not allow, if there is one, with its line,
from 1, and its column, from 0. -/
def badCharAt : List Char → Nat → Nat → Bool → Option (Char × Nat × Nat)
  | [], _, _, _ => none
  | c :: cs, line, col, afterReturn =>
    if !isXmlChar c then some (c, line, col)
    else if c == '\n' then
      if afterReturn then badCharAt cs line 0 false else badCharAt cs (line + 1) 0 false
    else if c == '\r' then badCharAt cs (line + 1) 0 true
    else badCharAt cs line (col + 1) false

/-- Where a reader of the sheet's file stops, if it does: only a text cell can hold a
character that XML does not allow. -/
def stopsAt (s : Sheet) : Option (Char × Nat × Nat) :=
  let suspect := s.rows.any (·.any (fun v => match v with
    | .str t => t.toList.any (!isXmlChar ·)
    | _ => false))
  if suspect then badCharAt (sheetXml s).toList 1 0 false else none

/-- Line ends as a reader of the file sees them: CR LF and a lone CR become LF. -/
def readLineEnds : List Char → List Char
  | [] => []
  | '\r' :: '\n' :: cs => '\n' :: readLineEnds cs
  | '\r' :: cs => '\n' :: readLineEnds cs
  | c :: cs => c :: readLineEnds cs

/-- A stored number as read back: a float when written with a point or an exponent, an
integer otherwise. -/
def readNumber (text : String) : Value :=
  if text.toList.any (fun c => c == '.' || c == 'e' || c == 'E') then
    match Lax.floatOfText? text with
    | some x => .float x
    | none => .null
  else match Lax.intOfText? text with
    | some n => .int n
    | none => .null

def readFloat (x : Float) : Value :=
  if x.isNaN || x.isInf then .null else readNumber (Float.generalText 16 x)

def readCell : Value → Value × String
  | .str "" => (.null, "inlineStr")
  | .str s =>
    match cellType (.str s) with
    | 'f' => (.str ("=" ++ String.ofList (readLineEnds (s.toList.drop 1))), "f")
    | 'e' => (.str s, "e")
    | _ => (.str (String.ofList (readLineEnds s.toList)), "s")
  | .int n => match Float.ofRatio? n 1 with
    | some x => (readFloat x, "n")
    | none => (.null, "n")
  | .float x => (readFloat x, "n")
  | .bool b => (.bool b, "b")
  | .stamp t =>
    let x := readFloat (serial t)
    if clockSerial x then (clockCell, "d")
    else match stampOfSerial x with
      | some u => (.stamp u, "d")
      | none => (.str "#VALUE!", "e")
  | v => (v, "n")

def insertRule (r : ShadeRule) : List ShadeRule → List ShadeRule
  | [] => [r]
  | q :: qs =>
    let key (x : ShadeRule) : List Char := x.range.toList ++ ['\x00'] ++ x.formula.toList
    if compare (key r) (key q) == Ordering.gt then
      q :: insertRule r qs
    else r :: q :: qs

end SheetFile

namespace Sheet

open SheetFile in
/-- The sheet as a reader of its file sees it, or where the reader stops. -/
def summary (s : Sheet) : Except Failure Value :=
  match stopsAt s with
  | some (c, line, col) =>
    let why := if Surrogate.isStandIn c then "reference to invalid character number"
      else "not well-formed (invalid token)"
    .error (.badXml (why ++ ": line " ++ toString line ++ ", column " ++ toString col))
  | none =>
    let read := s.rows.map (·.map readCell)
    .ok (.record [("sheets", .list [.str s.title]), ("title", .str s.title),
      ("creator", .str s.creator), ("freeze_panes", .str s.freezePanes),
      ("max_row", .int s.rows.length),
      ("max_column", .int (((s.rows.map List.length).foldl max 0 : Nat) : Int)),
      ("rows", .list (read.map (fun r => .list (r.map (·.1))))),
      ("types", .list (read.map (fun r => .str (String.join (r.map (·.2)))))),
      ("header_style", .record [("bold", .bool true), ("color", .str "FFFFFFFF"),
        ("fill", .str "FF4F81BD"), ("border", .str "thin")]),
      ("widths", .record (s.widths.map (fun (c, w) => (c, .float w.toFloat)))),
      ("conditional_formatting", .list ((s.rules.foldr insertRule []).map (fun r =>
        .record [("range", .str r.range), ("type", .str "cellIs"), ("operator", .str "equal"),
          ("formula", .list [.str r.formula]), ("fill", .str r.fill)])))])

end Sheet

end AuditTrail
