import AuditTrail.Failure
import AuditTrail.Value

/-!
# Request targets

From the target a client is handed to the path the service receives: refused targets, scheme and
host set aside, dot segments resolved, escapes decoded.
-/

namespace AuditTrail

namespace Target

def maxLength : Nat := 65536

def isControl (c : Char) : Bool := c.toNat < 32 || c.toNat == 127

def refusal? (t : String) : Option String :=
  if t.length > maxLength then some "URL too long"
  else
    let cs := t.toList
    match cs.findIdx? isControl with
    | some i =>
      some ("Invalid non-printable ASCII character in URL, " ++
        quoteText (String.singleton (cs.getD i ' ')) ++ " at position " ++ toString i ++ ".")
    | none => none

def isSchemeChar (c : Char) : Bool :=
  c.isAlphanum || c == '+' || c == '.' || c == '-'

/-- Splits a leading scheme, which is a letter and scheme characters before a colon, or
nothing before one. -/
def splitScheme (cs : List Char) : String × List Char :=
  let (name, rest) := cs.span (fun c => c != ':')
  match name, rest with
  | [], ':' :: r => ("", r)
  | c :: more, ':' :: r =>
    if c.isAlpha && more.all isSchemeChar then (String.ofList name, r) else ("", cs)
  | _, _ => ("", cs)

def splitAuthority (cs : List Char) : String × List Char :=
  match cs with
  | '/' :: '/' :: r =>
    let (a, rest) := r.span (fun c => c != '/' && c != '?' && c != '#')
    (String.ofList a, rest)
  | _ => ("", cs)

/-- A path without its `.` segments and with each `..` segment removing the segment before
it; the root is never removed. -/
def dropDotSegments (p : String) : String :=
  let parts := p.splitOn "/"
  if !(parts.contains "." || parts.contains "..") then p
  else
    let kept := parts.foldl (fun (out : List String) seg =>
      if seg == "." then out
      else if seg == ".." then (if out.isEmpty || out == [""] then out else out.dropLast)
      else out ++ [seg]) []
    "/".intercalate kept

/-- The bytes of a text with each `%XX` escape (hexadecimal of either case) made the byte it
names; a `%` not followed by two hexadecimal digits stands for itself. -/
def unescapeBytes : List UInt8 → List UInt8
  | [] => []
  | 37 :: h :: l :: rest =>
    match hexValue? (Char.ofNat h.toNat), hexValue? (Char.ofNat l.toNat) with
    | some a, some b => (a * 16 + b).toUInt8 :: unescapeBytes rest
    | _, _ => 37 :: unescapeBytes (h :: l :: rest)
  | b :: rest => b :: unescapeBytes rest

/-- For a byte that starts a well-formed UTF-8 sequence of more than one byte: how many bytes
follow it, and the range its second byte must fall in. -/
def leadShape (b : UInt8) : Option (Nat × UInt8 × UInt8) :=
  if 0xC2 ≤ b && b ≤ 0xDF then some (1, 0x80, 0xBF)
  else if b == 0xE0 then some (2, 0xA0, 0xBF)
  else if b == 0xED then some (2, 0x80, 0x9F)
  else if 0xE1 ≤ b && b ≤ 0xEF then some (2, 0x80, 0xBF)
  else if b == 0xF0 then some (3, 0x90, 0xBF)
  else if b == 0xF4 then some (3, 0x80, 0x8F)
  else if 0xF1 ≤ b && b ≤ 0xF3 then some (3, 0x80, 0xBF)
  else none

/-- How many of the first `n` bytes continue a sequence, the first in `lo..hi` and the others
in `0x80..0xBF`, before one does not. -/
def continuing : Nat → UInt8 → UInt8 → List UInt8 → Nat
  | 0, _, _, _ => 0
  | _ + 1, _, _, [] => 0
  | n + 1, lo, hi, c :: cs => if lo ≤ c && c ≤ hi then continuing n 0x80 0xBF cs + 1 else 0

def codePoint (b : UInt8) (n : Nat) (cont : List UInt8) : Nat :=
  let lead := b.toNat % Nat.pow 2 (6 - n)
  cont.foldl (fun acc c => acc * 64 + c.toNat % 64) lead

def decodeLossy (bs : List UInt8) : List Char :=
  match bs with
  | [] => []
  | b :: rest =>
    if b < 0x80 then Char.ofNat b.toNat :: decodeLossy rest
    else match leadShape b with
      | none => Char.ofNat 0xFFFD :: decodeLossy rest
      | some (n, lo, hi) =>
        let k := continuing n lo hi rest
        if k == n then Char.ofNat (codePoint b n (rest.take n)) :: decodeLossy (rest.drop k)
        else Char.ofNat 0xFFFD :: decodeLossy (rest.drop k)
termination_by bs.length
decreasing_by
  all_goals simp only [List.length_cons, List.length_drop]
  all_goals omega

def unescape (p : String) : String :=
  String.ofList (decodeLossy (unescapeBytes p.toUTF8.data.toList))

/-- The path the service receives for a target, or why the client refuses the target. -/
def receivedPath (t : String) : Except Failure String := do
  if let some m := refusal? t then throw (.invalidUrl m)
  let (scheme, rest) := splitScheme t.toList
  let (authority, rest) := splitAuthority rest
  let path := String.ofList (rest.takeWhile (fun c => c != '?' && c != '#'))
  if scheme.isEmpty && authority.isEmpty then
    if path.startsWith "//" then
      throw (.invalidUrl "Relative URLs cannot have a path starting with '//'")
    if path.startsWith ":" then
      throw (.invalidUrl "Relative URLs cannot have a path starting with ':'")
  if let some m := (rest.find? Surrogate.isStandIn).bind (utf8Refusal? ∘ String.singleton) then
    throw (.unencodable m)
  let path := if scheme.isEmpty || authority.isEmpty then
      "/" ++ String.ofList (path.toList.dropWhile (· == '/'))
    else path
  let path := dropDotSegments path
  pure (unescape (if path.isEmpty then "/" else path))

/-- The path of the service's URL for a received path: `?`, `#` and the backslash escaped as
`%3F`, `%23` and `%5C`, so that the path keeps them, and tabs and line breaks dropped. -/
def urlPath (path : String) : String :=
  String.join (path.toList.filterMap fun c =>
    if c == '\t' || c == '\r' || c == '\n' then none
    else if c == '?' then some "%3F"
    else if c == '#' then some "%23"
    else if c == '\\' then some "%5C"
    else some c.toString)

/-- Whether a character may appear in a host name: an ASCII letter or digit, one of `-._~`, a
`%` of an escape, or one of `!$&'()*+,;=`. -/
def isHostChar (c : Char) : Bool :=
  c.isAlphanum || "-._~%!$&'()*+,;=".toList.contains c

/-- Whether a character may appear in a bracketed address: a hexadecimal digit, a colon or a
point. -/
def isAddressChar (c : Char) : Bool :=
  (hexValue? c).isSome || c == ':' || c == '.'

def digitsValue (ds : List Char) : Nat := ds.foldl (fun a c => a * 10 + (c.toNat - 48)) 0

/-- Whether the text after a host is a port, or nothing: a colon, then digits (maybe none)
spelling at most 65535. -/
def isPortPart : List Char → Bool
  | [] => true
  | ':' :: ds => ds.all Char.isDigit && digitsValue ds ≤ 65535
  | _ => false

/-- Whether a `Host` header is a host, with or without a port, that the service builds its URL
on: a nonempty host name of host characters, or a bracketed address, then the port part. -/
def isHostHeader (h : String) : Bool :=
  match h.toList with
  | '[' :: r =>
    match r.span (· != ']') with
    | (addr, ']' :: rest) => !addr.isEmpty && addr.all isAddressChar && isPortPart rest
    | _ => false
  | cs =>
    let (name, rest) := cs.span (· != ':')
    !name.isEmpty && name.all isHostChar && isPortPart rest

/-- Why a client cannot read the port of an absolute URL, if it cannot: what follows the host
(after its colon), up to the path, must be digits. The host is bracketed or runs to the first
colon. -/
def portProblem? (url : String) : Option String :=
  let cs := url.toList
  let (_, rest) := cs.span (· != ':')
  let authority := match rest with
    | ':' :: '/' :: '/' :: r => r.takeWhile (fun c => c != '/' && c != '?' && c != '#')
    | _ => []
  let afterHost := match authority with
    | '[' :: r => (r.dropWhile (· != ']')).drop 1
    | a => a.dropWhile (· != ':')
  let port := match afterHost with
    | ':' :: p => p
    | p => p
  if port.all Char.isDigit then none else some ("Invalid port: " ++ quoteText (String.ofList port))

end Target

end AuditTrail
