import AuditTrail.Number.Shortest

/-!
# Text of numbers

`Float.shortText` is the shortest text that reads back, positional from 1e-4 up to 1e16;
`Float.generalText p` the general format with `p` digits; `Float.ofDecimal` reads a decimal.
-/

namespace AuditTrail

def maxIntDigits : Nat := 4300

def digitsOf (n : Nat) : List Char := (toString n).toList

def exponentText (x : Int) : String :=
  (if x < 0 then "-" else "+") ++
    (let s := toString x.natAbs; if s.length < 2 then "0" ++ s else s)

/-- Writes the decimal `0.d₁d₂…dₙ · 10^point`, given its digits, positionally or with an
exponent: positional when `lo < point ≤ hi`. `dotZero` asks for `.0` after a whole number
written positionally. -/
def placeDigits (ds : List Char) (point : Int) (lo hi : Int) (dotZero : Bool) : String :=
  let n : Int := ds.length
  if lo < point ∧ point ≤ hi then
    if point ≤ 0 then "0." ++ String.ofList (List.replicate (-point).toNat '0') ++ String.ofList ds
    else if point ≥ n then
      String.ofList ds ++ String.ofList (List.replicate (point - n).toNat '0') ++
        (if dotZero then ".0" else "")
    else String.ofList (ds.take point.toNat) ++ "." ++ String.ofList (ds.drop point.toNat)
  else
    let head := String.ofList (ds.take 1)
    let tail := ds.drop 1
    head ++ (if tail.isEmpty then "" else "." ++ String.ofList tail) ++ "e" ++
      exponentText (point - 1)

namespace Float

/-- The shortest text that reads back as the same double; `nan`, `inf` and `-inf` for the
values that are not finite. -/
def shortText (x : Float) : String :=
  if x.isNaN then "nan"
  else if x.isInf then (if x < 0 then "-inf" else "inf")
  else
    let b := Binary.ofFloat x
    let sign := if b.neg then "-" else ""
    if b.mant = 0 then sign ++ "0.0"
    else
      let (c, k) := b.shortest
      let ds := digitsOf c
      sign ++ placeDigits ds (ds.length + k) (-4) 16 true

def generalText (p : Nat) (x : Float) : String :=
  if x.isNaN then "nan"
  else if x.isInf then (if x < 0 then "-inf" else "inf")
  else
    let b := Binary.ofFloat x
    let sign := if b.neg then "-" else ""
    if b.mant = 0 then sign ++ "0"
    else
      let (c, k) := b.roundTo p
      let ds := (digitsOf c).reverse.dropWhile (· == '0') |>.reverse
      sign ++ placeDigits ds ((digitsOf c).length + k) (-4) p false

/-- The double nearest to `m · 10^e`; values far outside the range of doubles become
infinity or zero without computing the power. -/
def ofDecimal (m : Nat) (e : Int) : Float :=
  if m = 0 then 0.0
  else
    let size : Int := (digitsOf m).length + e
    if size > 311 then Float.ofScientific 1 false 400
    else if size < -330 then 0.0
    else if e ≥ 0 then Float.ofScientific m false e.toNat
    else Float.ofScientific m true (-e).toNat

end Float

end AuditTrail
