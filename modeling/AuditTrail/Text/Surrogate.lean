/-!
# Lone surrogates

A lone UTF-16 surrogate is held as a stand-in character in plane 13 (`Surrogate.standIn`), read
through `Surrogate.code` wherever the runtime looks at a character's code.
-/

namespace AuditTrail

namespace Surrogate

def offset : Nat := 0xD0000

def isUnit (u : Nat) : Bool := 0xD800 ≤ u && u ≤ 0xDFFF

/-- The stand-in of the surrogate unit `u`. -/
def standIn (u : Nat) : Char := Char.ofNat (offset + u)

def unit? (c : Char) : Option Nat :=
  if isUnit (c.toNat - offset) && offset ≤ c.toNat then some (c.toNat - offset) else none

def isStandIn (c : Char) : Bool := (unit? c).isSome

/-- The code of a character as the runtime sees it: its surrogate unit for a stand-in, its
code point otherwise. -/
def code (c : Char) : Nat := (unit? c).getD c.toNat

def occursIn (s : String) : Bool := s.toList.any isStandIn

def textCmp (a b : String) : Ordering := compare (a.toList.map code) (b.toList.map code)

end Surrogate

end AuditTrail
