import AuditTrail.Access.Caller
import AuditTrail.Export.Content
import AuditTrail.Json.Write
import AuditTrail.Web.Target

/-!
# Requests and responses

A request's method, path, query pairs in order, headers and connection address; a response's
status, content type, headers and body.
-/

namespace AuditTrail

/-- A query string's pairs, in the order sent. -/
abbrev QueryPairs := List (String × String)

namespace QueryPairs

/-- The value a parameter is read as: the last one sent. -/
def last? (q : QueryPairs) (k : String) : Option String :=
  (q.reverse.find? (·.1 == k)).map (·.2)

def toRecord (q : QueryPairs) : Record :=
  Record.ofPairs (q.map (fun p => (p.1, .str p.2)))

/-- Refuses the pairs when a name or a value has no UTF-8 form, as the client encodes them:
pair by pair, the name before the value. -/
def checkUtf8 : QueryPairs → Except Failure Unit
  | [] => .ok ()
  | (k, v) :: q => do
    if let some m := utf8Refusal? k then throw (.unencodable m)
    if let some m := utf8Refusal? v then throw (.unencodable m)
    checkUtf8 q

end QueryPairs

/-- A request to the service. -/
structure HttpRequest where
  method : String
  path : String
  query : QueryPairs := []
  headers : Headers := []
  /-- The host the request was sent to, as its `Host` header names it. -/
  host : String
  /-- The name and port of the server the connection reached, as the client addressed it. -/
  server : String × Option Nat := ("testserver", none)
  /-- The address of the connection, if known. -/
  peer : Option String := none

/-- The body of a response. -/
inductive Body where
  | json (v : Value)
  | text (s : String)
  | sheet (s : Sheet)
  | empty

/-- A response of the service. -/
structure Response where
  status : Nat
  contentType : Option String
  /-- Further headers, named in lower case. -/
  headers : List (String × String) := []
  body : Body

namespace Response

def json (status : Nat) (v : Value) : Response :=
  { status, contentType := some "application/json", body := .json v }

def detail (status : Nat) (message : String) : Response :=
  json status (.record [("detail", .str message)])

def bodyText : Body → String
  | .json v => Json.render Json.Style.compact v
  | .text s => s
  | .sheet _ => ""
  | .empty => ""

def length (r : Response) : Nat := (bodyText r.body).utf8ByteSize

def header? (r : Response) (name : String) : Option String :=
  (r.headers.find? (·.1 == name)).map (·.2)

def recordCount (r : Response) : Nat :=
  ((r.header? "x-result-count").bind String.toNat?).getD 0

def mediaType (t : String) : String :=
  if t.startsWith "text/" && (t.splitOn "charset=").length ≤ 1 then t ++ "; charset=utf-8"
  else t

end Response

def hexUpper (n : Nat) : Char :=
  if n < 10 then Char.ofNat (48 + n) else Char.ofNat (55 + n)

/-- Whether a byte stands for itself in a URL: letters, digits, `_.-~` and the characters of
`safe`. -/
def urlKeeps (safe : List Char) (b : UInt8) : Bool :=
  let c := Char.ofNat b.toNat
  b < 128 && (c.isAlphanum || "_.-~".toList.contains c || safe.contains c)

def percentEncode (safe : List Char) (s : String) : String :=
  String.join (s.toUTF8.data.toList.map (fun b =>
    if urlKeeps safe b then String.singleton (Char.ofNat b.toNat)
    else String.ofList ['%', hexUpper (b.toNat / 16), hexUpper (b.toNat % 16)]))

/-- A text as a form field: blanks written `+`, every other byte but letters, digits and
`_.-~` written `%XX`. -/
def formEncode (s : String) : String :=
  String.join (s.toUTF8.data.toList.map (fun b =>
    if b == 32 then "+"
    else if urlKeeps [] b then String.singleton (Char.ofNat b.toNat)
    else String.ofList ['%', hexUpper (b.toNat / 16), hexUpper (b.toNat % 16)]))

/-- The query string sent for a request's pairs: names and values form-encoded, joined by `=`
and `&`. -/
def QueryPairs.encode (q : QueryPairs) : String :=
  "&".intercalate (q.map (fun p => formEncode p.1 ++ "=" ++ formEncode p.2))

/-- The characters a redirect leaves as they are in its target, besides letters, digits and
`_.-~`. -/
def redirectSafe : List Char := ":/%#?=@[]!$&'()*+,;".toList

/-- The host and port the service reads its own request under: the `Host` header when it is
well-formed, and otherwise the server's name and port, the port omitted when it is 80 and
written `None` when the client addressed none. -/
def HttpRequest.authority (req : HttpRequest) : String :=
  if Target.isHostHeader req.host then req.host
  else match req.server with
    | (name, some 80) => name
    | (name, some p) => name ++ ":" ++ toString p
    | (name, none) => name ++ ":None"

def Response.redirect (req : HttpRequest) (path : String) : Response :=
  let target := "http://" ++ req.authority ++ path ++
    (if req.query.isEmpty then "" else "?" ++ req.query.encode)
  { status := 307, contentType := none, headers := [("location", percentEncode redirectSafe target)],
    body := .empty }

end AuditTrail
