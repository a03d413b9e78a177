import AuditTrail.Value
import AuditTrail.Number.Decimal
import AuditTrail.Number.Text
import AuditTrail.Text.Surrogate

/-!
# Writing JSON text

`Json.write style v`: the style fixes the separators, the indentation and whether the text is
ASCII. Values outside JSON are written as the text that stands for them.
-/

namespace AuditTrail

namespace Json

/-- How JSON text is laid out. -/
structure Style where
  itemSep : String
  keySep : String
  indent : Option Nat := none
  ascii : Bool

def Style.compact : Style := ⟨",", ":", none, false⟩

def Style.spaced : Style := ⟨", ", ": ", none, true⟩

def Style.indented : Style := ⟨",", ": ", some 2, true⟩

def hex4 (n : Nat) : String :=
  String.ofList [hexDigit (n / 4096 % 16), hexDigit (n / 256 % 16), hexDigit (n / 16 % 16),
    hexDigit (n % 16)]

/-- The escape of a character outside the plain range: one `\uXXXX` (the unit itself for a
lone surrogate's stand-in), or a surrogate pair above U+FFFF. -/
def unitEscape (c : Char) : String :=
  let n := Surrogate.code c
  if n < 0x10000 then "\\u" ++ hex4 n
  else
    let v := n - 0x10000
    "\\u" ++ hex4 (0xD800 + v / 1024) ++ "\\u" ++ hex4 (0xDC00 + v % 1024)

/-- One character of a JSON string. -/
def escapeChar (ascii : Bool) (c : Char) : String :=
  match c with
  | '"' => "\\\""
  | '\\' => "\\\\"
  | '\n' => "\\n"
  | '\r' => "\\r"
  | '\t' => "\\t"
  | '\x08' => "\\b"
  | '\x0c' => "\\f"
  | c =>
    if c.toNat < 0x20 || (ascii && c.toNat ≥ 0x7F) || Surrogate.isStandIn c then unitEscape c
    else c.toString

def quote (ascii : Bool) (s : String) : String :=
  "\"" ++ String.join (s.toList.map (escapeChar ascii)) ++ "\""

def floatText (x : Float) : String :=
  if x.isNaN then "NaN"
  else if x.isInf then (if x < 0 then "-Infinity" else "Infinity")
  else Float.shortText x

def newline (st : Style) (d : Nat) : String :=
  match st.indent with
  | none => ""
  | some w => "\n" ++ String.ofList (List.replicate (w * d) ' ')

def itemSepAt (st : Style) (d : Nat) : String := st.itemSep ++ newline st d

def bracket (st : Style) (d : Nat) (o c : String) (items : List String) : String :=
  if items.isEmpty then o ++ c
  else o ++ newline st (d + 1) ++ (itemSepAt st (d + 1)).intercalate items ++ newline st d ++ c

mutual
def write (st : Style) (d : Nat) : Value → String
  | .null => "null"
  | .bool b => if b then "true" else "false"
  | .int n => toString n
  | .float x => floatText x
  | .str s => quote st.ascii s
  | .list xs => bracket st d "[" "]" (writeItems st d xs)
  | .tuple xs => bracket st d "[" "]" (writeItems st d xs)
  | .record fs => bracket st d "\x7b" "\x7d" (writeFields st d fs)
  | .stamp t => quote st.ascii t.iso
  | .objectId n => quote st.ascii (ObjectId.hex n)
  | .decimal s => quote st.ascii (Decimal.text s)
  | .member _ v => quote st.ascii v
def writeItems (st : Style) (d : Nat) : List Value → List String
  | [] => []
  | x :: xs => write st (d + 1) x :: writeItems st d xs
def writeFields (st : Style) (d : Nat) : List (String × Value) → List String
  | [] => []
  | (k, x) :: fs => (quote st.ascii k ++ st.keySep ++ write st (d + 1) x) :: writeFields st d fs
end

/-- The JSON text of a value. -/
def render (st : Style) (v : Value) : String := write st 0 v

end Json

end AuditTrail
