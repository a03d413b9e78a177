/-!
# Blank characters

`Blank.isSpace` is the Unicode White_Space property, which number readers trim; `Blank.isBlank`
adds U+001C to U+001F, which text stripping removes.
-/

namespace AuditTrail.Blank

/-- The Unicode White_Space property. -/
def isSpace (c : Char) : Bool :=
  let n := c.toNat
  (9 ≤ n && n ≤ 13) || n == 32 || n == 0x85 || n == 0xA0 || n == 0x1680 ||
    (0x2000 ≤ n && n ≤ 0x200A) || n == 0x2028 || n == 0x2029 || n == 0x202F ||
    n == 0x205F || n == 0x3000

/-- White_Space together with the information separators U+001C to U+001F. -/
def isBlank (c : Char) : Bool :=
  isSpace c || (0x1C ≤ c.toNat && c.toNat ≤ 0x1F)

def trimBy (p : Char → Bool) (s : String) : String :=
  String.ofList ((s.toList.dropWhile p).reverse.dropWhile p).reverse

def strip (s : String) : String := trimBy isBlank s

def trim (s : String) : String := trimBy isSpace s

def stripStart (s : String) : String := String.ofList (s.toList.dropWhile isBlank)

def isBlankText (s : String) : Bool := s.toList.all isBlank

end AuditTrail.Blank
