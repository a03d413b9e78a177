import AuditTrail.Text.Blank
import AuditTrail.Failure

/-!
# The caller of a request

Headers are looked up with ASCII case ignored, the first of repeated ones winning. The guard
admits a request only when `X-Role` is exactly `admin`; the caller's address comes from
`X-Forwarded-For`, else `X-Real-IP`, else the connection.
-/

namespace AuditTrail

/-- Request headers, in the order sent. -/
abbrev Headers := List (String × String)

namespace Headers

def fold (s : String) : String := String.ofList (s.toList.map Char.toLower)

def get? (h : Headers) (name : String) : Option String :=
  (h.find? (fun p => fold p.1 == fold name)).map (·.2)

def given? (h : Headers) (name : String) : Option String :=
  match h.get? name with
  | some "" => none
  | v => v

def clientIp (h : Headers) (peer : Option String) : String :=
  match (h.given? "x-forwarded-for").or (h.given? "x-real-ip") with
  | some fwd => Blank.strip ((fwd.splitOn ",").headD "")
  | none => peer.getD "unknown"

end Headers

/-- An authenticated caller. -/
structure Actor where
  userId : String
  email : Option String
  role : String
  deriving DecidableEq, Repr

def adminRequired : String := "Admin privileges required"

/-- The administrator making a request, or the refusal. -/
def Actor.ofHeaders (h : Headers) : Except Failure Actor :=
  let role := (h.get? "X-Role").getD ""
  if role = "admin" then
    .ok { userId := (h.given? "X-User-Id").getD "unknown", email := h.get? "X-User-Email", role }
  else .error (.forbidden adminRequired)

/-- Checks that headers have a form in an encoding: every name and every value, pair by pair,
is asked `refusal?`. -/
def Headers.checkEncodable (refusal? : String → Option String) (h : Headers) :
    Except Failure Unit :=
  h.forM (fun p => do
    if let some m := refusal? p.1 then throw (.unencodable m)
    if let some m := refusal? p.2 then throw (.unencodable m))

def Headers.checkLatin1 (h : Headers) : Except Failure Unit := h.checkEncodable latin1Refusal?

def Headers.checkAscii (h : Headers) : Except Failure Unit := h.checkEncodable asciiRefusal?

end AuditTrail
