import AuditTrail.Text.Digit

/-!
# 128-bit decimals

`Decimal.ofText` reads a text as the document store's decimal context does (34 digits, exponents
folded into range, overflow, inexact and bad syntax refused) and gives its canonical text.
-/

namespace AuditTrail

/-- The conditions of decimal arithmetic that stop a conversion into a 128-bit decimal. -/
inductive DecimalSignal where
  | conversionSyntax | overflow | inexact
  deriving DecidableEq, Repr

namespace DecimalSignal

def name : DecimalSignal → String
  | .conversionSyntax => "InvalidOperation"
  | .overflow => "Overflow"
  | .inexact => "Inexact"

def message : DecimalSignal → String
  | .conversionSyntax => "[<class 'decimal.ConversionSyntax'>]"
  | .overflow => "[<class 'decimal.Overflow'>, <class 'decimal.Inexact'>]"
  | .inexact => "[<class 'decimal.Inexact'>]"

end DecimalSignal

/-- Why a text is not a 128-bit decimal. -/
inductive DecimalError where
  | signal (s : DecimalSignal)
  /-- A NaN that carries a payload. -/
  | nanPayload
  deriving DecidableEq, Repr

namespace Decimal

def precision : Nat := 34

def minExponent : Int := -6176
def maxExponent : Int := 6111

def asciiLower (s : String) : String := String.ofList (s.toList.map Char.toLower)

/-- The canonical text of a coefficient `c` (digits, no leading zero unless it is `0`) times
`10^e`. -/
def sciText (neg : Bool) (c : List Char) (e : Int) : String :=
  let n : Int := c.length
  let adjusted := e + n - 1
  let sign := if neg then "-" else ""
  if e ≤ 0 ∧ adjusted ≥ -6 then
    if e = 0 then sign ++ String.ofList c
    else if n > -e then
      sign ++ String.ofList (c.take (n + e).toNat) ++ "." ++ String.ofList (c.drop (n + e).toNat)
    else sign ++ "0." ++ String.ofList (List.replicate (-e - n).toNat '0') ++ String.ofList c
  else
    sign ++ String.ofList (c.take 1) ++ (if n > 1 then "." ++ String.ofList (c.drop 1) else "") ++
      "E" ++ (if adjusted ≥ 0 then "+" else "-") ++ toString adjusted.natAbs

/-- The characters as the reader sees them: digits of any script as ASCII digits, other ASCII
characters but the end marker as they are; `none` for any other character. -/
def asciiForm (cs : List Char) : Option (List Char) :=
  cs.mapM fun c =>
    if 0 < c.toNat ∧ c.toNat < 128 then some c
    else (Digit.value? c).map (fun d => Char.ofNat (48 + d))

def exponentOf? (cs : List Char) : Option Int :=
  let (neg, ds) := match cs with
    | '-' :: r => (true, r)
    | '+' :: r => (false, r)
    | r => (false, r)
  if ds.isEmpty || !ds.all Char.isDigit then none
  else
    let v : Int := ds.foldl (fun a d => a * 10 + ((d.toNat - 48 : Nat) : Int)) 0
    some (if neg then -v else v)

def exponentPart? : List Char → Option Int
  | [] => some 0
  | c :: r => if c == 'e' || c == 'E' then exponentOf? r else none

/-- Whether rounding to the nearest, ties to even, raises the kept digits by one in their last
place when the dropped digits follow them. -/
def roundsUp (kept dropped : List Char) : Bool :=
  match dropped with
  | [] => false
  | d :: rest =>
    d > '5' || (d == '5' && (rest.any (· != '0') ||
      ((kept.getLast?.map (fun c => (c.toNat - 48) % 2 == 1)).getD false)))

/-- A finite number in the range of the format: the coefficient's digits `c` (no leading zero
unless it is `0`) times `10^e`, folded into the range. -/
def fitFinite (neg : Bool) (c : List Char) (e : Int) : Except DecimalError String := do
  if c == ['0'] then
    return sciText neg c (max minExponent (min e maxExponent))
  let n : Int := c.length
  let lowest := n + e - precision
  if lowest > maxExponent then throw (.signal .overflow)
  let lowest := max lowest minExponent
  let (c, e) ← if e < lowest then do
      let k := (lowest - e).toNat
      if k ≥ c.length || (c.drop (c.length - k)).any (· != '0') then
        let kept := c.take (c.length - k)
        if lowest == maxExponent && !kept.isEmpty && kept.all (· == '9') &&
            roundsUp kept (c.drop (c.length - k)) then
          throw (.signal .overflow)
        throw (.signal .inexact)
      pure (c.take (c.length - k), lowest)
    else pure (c, e)
  if e > maxExponent then
    return sciText neg (c ++ List.replicate (e - maxExponent).toNat '0') maxExponent
  return sciText neg c e

/-- The text of a decimal given by its canonical form: every NaN, quiet or signalling, of either
sign, is written `NaN`. -/
def text (d : String) : String :=
  if d.endsWith "NaN" then "NaN" else d

/-- Reads a text as a 128-bit decimal and gives its canonical form: the canonical text of a
number or an infinity, and `NaN` or `sNaN` with its sign for a NaN, so that two decimals are
the same exactly when their forms are. -/
def ofText (s : String) : Except DecimalError String := do
  let some cs := asciiForm s.toList | throw (.signal .conversionSyntax)
  let (neg, cs) := match cs with
    | '-' :: r => (true, r)
    | '+' :: r => (false, r)
    | r => (false, r)
  let sign := if neg then "-" else ""
  let low := (asciiLower (String.ofList cs)).toList
  if low == "inf".toList || low == "infinity".toList then return sign ++ "Infinity"
  let payload? : Option (String × List Char) :=
    if low.take 3 == "nan".toList then some ("NaN", low.drop 3)
    else if low.take 4 == "snan".toList then some ("sNaN", low.drop 4)
    else none
  if let some (kind, payload) := payload? then
    if !payload.all Char.isDigit then throw (.signal .conversionSyntax)
    let significant := payload.dropWhile (· == '0')
    if significant.length > precision - 1 then throw (.signal .conversionSyntax)
    if !significant.isEmpty then throw .nanPayload
    return sign ++ kind
  let intDs := cs.takeWhile Char.isDigit
  let rest := cs.drop intDs.length
  let (fracDs, rest) := match rest with
    | '.' :: r => (r.takeWhile Char.isDigit, r.drop (r.takeWhile Char.isDigit).length)
    | r => ([], r)
  if intDs.isEmpty && fracDs.isEmpty then throw (.signal .conversionSyntax)
  let some ex := exponentPart? rest | throw (.signal .conversionSyntax)
  let digits := (intDs ++ fracDs).dropWhile (· == '0')
  fitFinite neg (if digits.isEmpty then ['0'] else digits) (ex - fracDs.length)

end Decimal

end AuditTrail
