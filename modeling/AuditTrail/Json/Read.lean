import AuditTrail.Value
import AuditTrail.Number.Text
import AuditTrail.Text.Surrogate

/-!
# Reading JSON text

`Json.parse` reads one JSON value between optional blanks, integers of up to `maxIntDigits`
digits apart from doubles; a failure names the first offending position, and
`Json.parseWithin depth` also bounds the nesting.
-/

namespace AuditTrail

namespace Json

/-- Why reading stopped. -/
inductive ReadError where
  /-- The text is not JSON: the reason, and the offset where reading stopped. -/
  | malformed (msg : String) (pos : Nat)
  /-- Lists and records were nested deeper than allowed; the kind of the value that went one
  level too deep. -/
  | tooDeep (kind : String)
  /-- An integer was written with more than `maxIntDigits` digits; how many. -/
  | tooManyDigits (count : Nat)
  deriving Repr, DecidableEq

/-- The message: for a malformed text, with line, column and offset, lines and columns
counted from 1. -/
def ReadError.describe (e : ReadError) (text : String) : String :=
  match e with
  | .malformed msg pos =>
    let before := text.toList.take pos
    let line := before.count '\n' + 1
    let col := (before.reverse.takeWhile (· != '\n')).length + 1
    msg ++ ": line " ++ toString line ++ " column " ++ toString col ++ " (char " ++
      toString pos ++ ")"
  | .tooDeep kind =>
    "maximum recursion depth exceeded while decoding a JSON " ++ kind ++ " from a unicode string"
  | .tooManyDigits n =>
    "Exceeds the limit (" ++ toString maxIntDigits ++
      " digits) for integer string conversion: value has " ++ toString n ++
      " digits; use sys.set_int_max_str_digits() to increase the limit"

def isBlank (c : Char) : Bool := c == ' ' || c == '\t' || c == '\n' || c == '\r'

def skipBlanks (s : Array Char) (i : Nat) : Nat :=
  go (s.size - i) i
where
  go : Nat → Nat → Nat
    | 0, i => i
    | n + 1, i => if h : i < s.size then (if isBlank s[i] then go n (i + 1) else i) else i

def at? (s : Array Char) (i : Nat) : Option Char := s[i]?

def lookingAt (s : Array Char) (i : Nat) (w : String) : Bool :=
  (w.toList.zipIdx).all (fun (c, j) => at? s (i + j) == some c)

def hex4At? (s : Array Char) (i : Nat) : Option Nat :=
  (List.range 4).foldl (fun acc j => acc.bind (fun a =>
    ((at? s (i + j)).bind hexValue?).map (a * 16 + ·))) (some 0)

def simpleEscape? (c : Char) : Option Char :=
  match c with
  | '"' => some '"'
  | '\\' => some '\\'
  | '/' => some '/'
  | 'b' => some '\x08'
  | 'f' => some '\x0c'
  | 'n' => some '\n'
  | 'r' => some '\r'
  | 't' => some '\t'
  | _ => none

/-- Reads the rest of a string whose opening quote stands at `begin`; `i` is the next
character to read and `acc` holds the characters read so far, last first. -/
def scanString (s : Array Char) (begin : Nat) : Nat → Nat → List Char → Except ReadError (String × Nat)
  | 0, _, _ => .error (.malformed "Unterminated string starting at" begin)
  | fuel + 1, i, acc =>
    match at? s i with
    | none => .error (.malformed "Unterminated string starting at" begin)
    | some '"' => .ok (String.ofList acc.reverse, i + 1)
    | some '\\' =>
      match at? s (i + 1) with
      | none => .error (.malformed "Unterminated string starting at" begin)
      | some 'u' =>
        if i + 6 ≥ s.size then .error (.malformed "Invalid \\uXXXX escape" (i + 1))
        else
          match hex4At? s (i + 2) with
          | none => .error (.malformed "Invalid \\uXXXX escape" (i + 1))
          | some hi =>
            if 0xD800 ≤ hi ∧ hi ≤ 0xDBFF ∧ i + 12 < s.size ∧ at? s (i + 6) == some '\\' ∧
                at? s (i + 7) == some 'u' then
              match hex4At? s (i + 8) with
              | none => .error (.malformed "Invalid \\uXXXX escape" (i + 7))
              | some lo =>
                if 0xDC00 ≤ lo ∧ lo ≤ 0xDFFF then
                  scanString s begin fuel (i + 12)
                    (Char.ofNat (0x10000 + (hi - 0xD800) * 1024 + (lo - 0xDC00)) :: acc)
                else scanString s begin fuel (i + 6) (Surrogate.standIn hi :: acc)
            else if 0xD800 ≤ hi ∧ hi ≤ 0xDFFF then
              scanString s begin fuel (i + 6) (Surrogate.standIn hi :: acc)
            else scanString s begin fuel (i + 6) (Char.ofNat hi :: acc)
      | some e =>
        match simpleEscape? e with
        | some c => scanString s begin fuel (i + 2) (c :: acc)
        | none => .error (.malformed "Invalid \\escape" i)
    | some c =>
      if c.toNat ≤ 0x1F then .error (.malformed "Invalid control character at" i)
      else scanString s begin fuel (i + 1) (c :: acc)

def digitsAt (s : Array Char) (i : Nat) : List Char :=
  go (s.size - i) i
where
  go : Nat → Nat → List Char
    | 0, _ => []
    | n + 1, i => match at? s i with
      | some c => if c.isDigit then c :: go n (i + 1) else []
      | none => []

def natOfDigits (ds : List Char) : Nat := ds.foldl (fun a c => a * 10 + (c.toNat - 48)) 0

/-- Reads a number at `i`: an optional minus, an integer part without leading zeros, then
an optional fraction and an optional exponent, each taken only when digits follow. An integer
of more than `maxIntDigits` digits is refused. -/
def scanNumber (s : Array Char) (i : Nat) : Except ReadError (Value × Nat) :=
  let neg := at? s i == some '-'
  let j := if neg then i + 1 else i
  let intDs := digitsAt s j
  match intDs with
  | [] => .error (.malformed "Expecting value" i)
  | d :: _ =>
    let intDs := if d == '0' then ['0'] else intDs
    let k := j + intDs.length
    let fracDs := if at? s k == some '.' then digitsAt s (k + 1) else []
    let k := if fracDs.isEmpty then k else k + 1 + fracDs.length
    let (expVal, k, hasExp) :=
      if at? s k == some 'e' || at? s k == some 'E' then
        let sgn := at? s (k + 1)
        let off := if sgn == some '+' || sgn == some '-' then 2 else 1
        let eds := digitsAt s (k + off)
        if eds.isEmpty then ((0 : Int), k, false)
        else
          let e : Int := natOfDigits eds
          ((if sgn == some '-' then -e else e), k + off + eds.length, true)
      else (0, k, false)
    if fracDs.isEmpty ∧ ¬hasExp then
      if intDs.length > maxIntDigits then .error (.tooManyDigits intDs.length)
      else
        let n : Int := natOfDigits intDs
        .ok (.int (if neg then -n else n), k)
    else
      let x := Float.ofDecimal (natOfDigits (intDs ++ fracDs)) (expVal - fracDs.length)
      .ok (.float (if neg then -x else x), k)

mutual
def scanValue (s : Array Char) (depth : Nat) : Nat → Nat → Except ReadError (Value × Nat)
  | 0, i => .error (.malformed "Expecting value" i)
  | fuel + 1, i =>
    match at? s i with
    | none => .error (.malformed "Expecting value" i)
    | some '"' => (scanString s i (s.size + 1) (i + 1) []).map (fun (t, j) => (.str t, j))
    | some '{' =>
      if depth = 0 then .error (.tooDeep "object")
      else scanObject s (depth - 1) fuel (skipBlanks s (i + 1)) [] true
    | some '[' =>
      if depth = 0 then .error (.tooDeep "array")
      else scanArray s (depth - 1) fuel (skipBlanks s (i + 1)) [] true
    | some c =>
      if c == 'n' && lookingAt s i "null" then .ok (.null, i + 4)
      else if c == 't' && lookingAt s i "true" then .ok (.bool true, i + 4)
      else if c == 'f' && lookingAt s i "false" then .ok (.bool false, i + 5)
      else if c == 'N' && lookingAt s i "NaN" then .ok (.float (0.0 / 0.0), i + 3)
      else if c == 'I' && lookingAt s i "Infinity" then .ok (.float (1.0 / 0.0), i + 8)
      else if c == '-' && lookingAt s (i + 1) "Infinity" then .ok (.float (-1.0 / 0.0), i + 9)
      else scanNumber s i
def scanObject (s : Array Char) (depth : Nat) :
    Nat → Nat → Record → Bool → Except ReadError (Value × Nat)
  | 0, i, _, _ => .error (.malformed "Expecting value" i)
  | fuel + 1, i, acc, first =>
    if first && at? s i == some '}' then .ok (.record acc, i + 1)
    else if at? s i != some '"' then
      .error (.malformed "Expecting property name enclosed in double quotes" i)
    else
      match scanString s i (s.size + 1) (i + 1) [] with
      | .error e => .error e
      | .ok (key, j) =>
        let j := skipBlanks s j
        if at? s j != some ':' then .error (.malformed "Expecting ':' delimiter" j)
        else
          match scanValue s depth fuel (skipBlanks s (j + 1)) with
          | .error e => .error e
          | .ok (v, k) =>
            let acc := acc.set key v
            let k := skipBlanks s k
            if at? s k == some '}' then .ok (.record acc, k + 1)
            else if at? s k != some ',' then .error (.malformed "Expecting ',' delimiter" k)
            else scanObject s depth fuel (skipBlanks s (k + 1)) acc false
def scanArray (s : Array Char) (depth : Nat) :
    Nat → Nat → List Value → Bool → Except ReadError (Value × Nat)
  | 0, i, _, _ => .error (.malformed "Expecting value" i)
  | fuel + 1, i, acc, first =>
    if first && at? s i == some ']' then .ok (.list acc.reverse, i + 1)
    else
      match scanValue s depth fuel i with
      | .error e => .error e
      | .ok (v, k) =>
        let k := skipBlanks s k
        if at? s k == some ']' then .ok (.list (v :: acc).reverse, k + 1)
        else if at? s k != some ',' then .error (.malformed "Expecting ',' delimiter" k)
        else scanArray s depth fuel (skipBlanks s (k + 1)) (v :: acc) false
end

/-- Reads a whole text as one JSON value, with lists and records nested at most `depth`
levels deep. -/
def parseWithin (depth : Nat) (text : String) : Except ReadError Value :=
  let s := text.toList.toArray
  if at? s 0 == some (Char.ofNat 0xFEFF) then
    .error (.malformed "Unexpected UTF-8 BOM (decode using utf-8-sig)" 0)
  else
    match scanValue s depth (2 * s.size + 2) (skipBlanks s 0) with
    | .error e => .error e
    | .ok (v, i) =>
      let j := skipBlanks s i
      if j = s.size then .ok v else .error (.malformed "Extra data" j)

/-- Reads a whole text as one JSON value, nested as deeply as it is. -/
def parse (text : String) : Except ReadError Value := parseWithin text.length text

end Json

end AuditTrail
