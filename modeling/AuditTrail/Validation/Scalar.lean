import AuditTrail.Value
import AuditTrail.Validation.Issue
import AuditTrail.Text.Blank
import AuditTrail.Text.Digit
import AuditTrail.Number.Shortest
import AuditTrail.Number.Text
import AuditTrail.Text.Surrogate

/-!
# Lax scalar fields

How a raw value is read laxly into an integer, number, boolean, text or choice field.
-/

namespace AuditTrail

namespace Lax

def splitSign (cs : List Char) : Bool × List Char :=
  match cs with
  | '-' :: r => (true, r)
  | '+' :: r => (false, r)
  | r => (false, r)

/-- Reads an integer as the language's integer conversion reads a text: White_Space around
it, an optional sign, then decimal digits of any script (`Digit.value?`) with single
underscores between digits, and at most `maxIntDigits` digits, leading zeros counted. -/
def intOfText? (s : String) : Option Int :=
  let (neg, body) := splitSign (Blank.trim s).toList
  let groups := body.splitOn '_'
  let digits := groups.flatten
  if body.isEmpty || groups.any List.isEmpty || digits.length > maxIntDigits then none
  else
    (digits.mapM Digit.value?).map fun ds =>
      let n : Int := ds.foldl (fun (a : Int) (d : Nat) => a * 10 + (d : Int)) 0
      if neg then -n else n

def floatToInt? (x : Float) : Option Int :=
  if x.isNaN || x.isInf then none
  else
    let b := Binary.ofFloat x
    let magnitude : Option Nat :=
      if b.exp ≥ 0 then some (b.mant * Nat.pow 2 b.exp.toNat)
      else if b.mant % Nat.pow 2 (-b.exp).toNat = 0 then some (b.mant / Nat.pow 2 (-b.exp).toNat)
      else none
    magnitude.map (fun m => if b.neg then -(m : Int) else m)

/-- Reads an integer written as a JSON number: an optional `-`, then `0` alone or a digit from
1 to 9 and more digits, all ASCII, and nothing after; at most `maxIntDigits` characters, the
sign counted. -/
def jsonWhole? (cs : List Char) : Option Int :=
  let (neg, body) := match cs with
    | '-' :: r => (true, r)
    | r => (false, r)
  match body with
  | [] => none
  | d :: more =>
    if !body.all Char.isDigit || (d == '0' && !more.isEmpty) || cs.length > maxIntDigits then none
    else
      let n : Int := body.foldl (fun a c => a * 10 + ((c.toNat - 48 : Nat) : Int)) 0
      some (if neg then -n else n)

/-- Drops the zeros and underscores that lead a number's digits, keeping a zero before a point
and the last character of a text of zeros; a text not starting with a digit is refused. -/
def stripLeadingZeros (cs : List Char) : Option (List Char) :=
  match cs with
  | '0' :: rest =>
    match rest.dropWhile (fun c => c == '0' || c == '_') with
    | [] => some (cs.getLast?).toList
    | c :: r =>
      if c.isDigit || c == '-' then some (c :: r)
      else if c == '.' then some (cs.drop (cs.length - r.length - 2))
      else none
  | c :: r => if c.isDigit then some (c :: r) else none
  | [] => none

/-- Removes the underscores of a text, which may neither start nor end with one nor hold two
together. -/
def stripUnderscores (cs : List Char) : Option (List Char) :=
  if cs.head? == some '_' || cs.getLast? == some '_' ||
      (cs.zip cs.tail).any (fun p => p.1 == '_' && p.2 == '_') then none
  else some (cs.filter (· != '_'))

/-- Reads a trimmed integer text: an optional sign, then the digits rid of their leading zeros
(`stripLeadingZeros`), the sign put back, and the whole rid of its underscores
(`stripUnderscores`), read as a JSON number (`jsonWhole?`). -/
def signedWhole? (cs : List Char) : Option Int := do
  let (neg, body) := splitSign cs
  let digits ← stripLeadingZeros body
  let text ← stripUnderscores (if neg then '-' :: digits else digits)
  jsonWhole? text

/-- The text before the first point, when the point is followed by one or more zeros and
nothing else. -/
def dropZeroFraction? (cs : List Char) : Option (List Char) :=
  match cs.dropWhile (· != '.') with
  | '.' :: zs => if !zs.isEmpty && zs.all (· == '0') then some (cs.takeWhile (· != '.')) else none
  | _ => none

def int : Value → Except Issue.Kind Int
  | .int n => .ok n
  | .bool b => .ok (if b then 1 else 0)
  | .float x =>
    if x.isNaN || x.isInf then .error .finiteNumber
    else match floatToInt? x with
      | some n =>
        if -9223372036854775808 < n ∧ n < 9223372036854775808 then .ok n else .error .intParsingSize
      | none => .error .intFromFloat
  | .str s | .member _ s =>
    if Surrogate.occursIn s then .error .stringUnicode else
    let t := (Blank.trim s).toList
    match (signedWhole? t).orElse (fun _ => (dropZeroFraction? t).bind signedWhole?) with
    | some n => .ok n
    | none => .error .intParsing
  | _ => .error .intType

/-- Reads a decimal number `[+-](d+[.d*]|.d+)[(e|E)[+-]d+]`, or `nan`, `inf`, `infinity` in
any case, with ASCII digits. -/
def floatOfText? (s : String) : Option Float := do
  let (neg, body) := splitSign s.toList
  let low := String.ofList (body.map Char.toLower)
  let x ← if low == "nan" then some (0.0 / 0.0)
    else if low == "inf" || low == "infinity" then some (1.0 / 0.0)
    else
      let intDs := body.takeWhile Char.isDigit
      let rest := body.drop intDs.length
      let (fracDs, rest) := match rest with
        | '.' :: r => (r.takeWhile Char.isDigit, r.drop (r.takeWhile Char.isDigit).length)
        | r => ([], r)
      if intDs.isEmpty && fracDs.isEmpty then none
      else
        let exp : Option Int := match rest with
          | [] => some 0
          | c :: r =>
            if c == 'e' || c == 'E' then
              let (eneg, ds) := match r with
                | '-' :: r' => (true, r')
                | '+' :: r' => (false, r')
                | r' => (false, r')
              if ds.isEmpty || !ds.all Char.isDigit then none
              else
                let v : Int := ds.foldl (fun a d => a * 10 + (d.toNat - 48 : Nat)) 0
                some (if eneg then -v else v)
            else none
        exp.map (fun e =>
          Float.ofDecimal ((intDs ++ fracDs).foldl (fun a d => a * 10 + (d.toNat - 48)) 0)
            (e - fracDs.length))
  pure (if neg then -x else x)

/-- Whether the underscores of a text may be dropped: none at either end and no two
together. -/
def underscoresDroppable (cs : List Char) : Bool :=
  cs.head? != some '_' && cs.getLast? != some '_' &&
    !(cs.zip cs.tail).any (fun p => p.1 == '_' && p.2 == '_')

/-- Reads a number text: trimmed of White_Space, else, when its underscores may be dropped
(`underscoresDroppable`), untrimmed with every underscore removed. -/
def numberOfText? (s : String) : Option Float :=
  (floatOfText? (Blank.trim s)).orElse fun _ =>
    let cs := s.toList
    if underscoresDroppable cs then floatOfText? (String.ofList (cs.filter (· != '_')))
    else none

def float : Value → Except Issue.Kind Float
  | .float x => .ok x
  | .int n => let x := Float.ofInt n; if x.isInf then .error .floatType else .ok x
  | .bool b => .ok (if b then 1.0 else 0.0)
  | .str s | .member _ s =>
    if Surrogate.occursIn s then .error .stringUnicode else match numberOfText? s with
    | some x => .ok x
    | none => .error .floatParsing
  | _ => .error .floatType

def falseTexts : List String := ["0", "off", "f", "false", "n", "no"]
def trueTexts : List String := ["1", "on", "t", "true", "y", "yes"]

def isWord (n : Int) : Bool := decide (-9223372036854775808 ≤ n) && decide (n < 9223372036854775808)

def bool : Value → Except Issue.Kind Bool
  | .bool b => .ok b
  | .int n =>
    if n = 0 then .ok false else if n = 1 then .ok true
    else if isWord n then .error .boolParsing else .error .boolType
  | .float x => match floatToInt? x with
    | some n =>
      if n = 0 then .ok false else if n = 1 then .ok true
      else if -9223372036854775808 < n ∧ n < 9223372036854775808 then .error .boolParsing
      else .error .boolType
    | none => .error .boolType
  | .str s | .member _ s =>
    if Surrogate.occursIn s then .error .stringUnicode else
    let low := String.ofList (s.toList.map Char.toLower)
    if falseTexts.contains low then .ok false
    else if trueTexts.contains low then .ok true
    else .error .boolParsing
  | _ => .error .boolType

def str : Value → Except Issue.Kind String
  | .str s => .ok s
  | .member _ v => .ok v
  | _ => .error .stringType

/-- A text field with a constraint: before the constraint looks at it, the text is read as
Unicode, which a lone surrogate fails. -/
def constrainedStr (v : Value) : Except Issue.Kind String := do
  let s ← str v
  if Surrogate.occursIn s then throw .stringUnicode
  pure s

def choice {α : Type} (read : String → Option α) (refusal : Issue.Kind) : Value → Except Issue.Kind α
  | .str s =>
    if Surrogate.occursIn s then .error .stringUnicode
    else match read s with
      | some a => .ok a
      | none => .error refusal
  | .member _ s => match read s with
    | some a => .ok a
    | none => .error refusal
  | _ => .error refusal

end Lax

end AuditTrail
