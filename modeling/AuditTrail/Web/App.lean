import AuditTrail.Web.Endpoint
import AuditTrail.Web.Capture
import AuditTrail.Text.Case

/-!
# The application

`Service.handle` answers a request and writes its access records; `Service.fetch` is the client's
side. Failures become answers by kind, and preflight requests are answered first.
-/

namespace AuditTrail

namespace Response

def internalError : Response :=
  json 500 (.record [("detail", .str "Internal Server Error"),
    ("message", .str "An unexpected error occurred. Please try again later.")])

def ofFailure? : Failure → Option Response
  | .invalidFilter field m => some (json 400 (.record [("detail", .str m), ("field", .str field)]))
  | .queryFailed m => some (detail 503 m)
  | .exportFailed m => some (detail 503 m)
  | .forbidden m => some (detail 403 m)
  | _ => none

end Response

def corsOrigins : List String := ["http://localhost:5173", "http://127.0.0.1:5173"]

def corsMethods : List String := ["DELETE", "GET", "HEAD", "OPTIONS", "PATCH", "POST", "PUT"]

def Response.plain (status : Nat) (text : String) : Response :=
  { status, contentType := some "text/plain; charset=utf-8", body := .text text }

def Response.preflight? (req : HttpRequest) : Option Response := do
  let origin ← req.headers.get? "origin"
  let method ← req.headers.get? "access-control-request-method"
  if req.method != "OPTIONS" then none
  let refused := (if corsOrigins.contains origin then [] else ["origin"]) ++
    (if corsMethods.contains method then [] else ["method"])
  if refused.isEmpty then pure (Response.plain 200 "OK")
  else pure (Response.plain 400 ("Disallowed CORS " ++ ", ".intercalate refused))

/-- A response as the client receives it: a client that asked for the head only gets no
body. -/
def Response.receivedFor (r : Response) (method : String) : Response :=
  if method == "HEAD" then { r with body := .empty } else r

def methodName (m : String) : String := Case.upperText m

namespace Service

/-- The answer to a request, with the administrator it was served to and what its access
record says of it. -/
def respond (req : HttpRequest) : StateM Service (Response × Option Actor × Observed) := do
  match Dispatch.ofRequest req.method req.path with
  | .serve e =>
    let (actor, r) ← serve req e
    match r with
    | .ok resp => pure (resp, actor, Observed.ofResponse resp)
    | .error f => match Response.ofFailure? f with
      | some resp => pure (resp, actor, Observed.ofResponse resp)
      | none => pure (Response.internalError, actor, Observed.crashed)
  | .wrongMethod =>
    let resp := Response.detail 405 "Method Not Allowed"
    pure (resp, none, Observed.ofResponse resp)
  | .redirect path =>
    let resp := Response.redirect req path
    pure (resp, none, Observed.ofResponse resp)
  | .notFound =>
    let resp := Response.detail 404 "Not Found"
    pure (resp, none, Observed.ofResponse resp)

/-- Answers a request and writes its access records. -/
def handle (req : HttpRequest) : StateM Service Response := do
  match Response.preflight? req with
  | some resp => pure resp
  | none =>
    let (resp, actor, o) ← respond req
    capture req actor o
    pure resp

/-- Sends a request as a client does and gives the answer as the client receives it, after the
work in flight from earlier steps and the request's own work have finished. -/
def fetch (req : HttpRequest) : StateM Service (Except Failure Response) := do
  match (do
      let path ← Target.receivedPath req.path
      req.headers.checkAscii
      req.query.checkUtf8
      pure path) with
  | .error f => pure (.error f)
  | .ok path =>
    let req := { req with method := methodName req.method, path }
    Service.settle
    let resp ← handle req
    Service.settle
    match (resp.headers.lookup "location").bind Target.portProblem? with
    | some m => pure (.error (.badRedirect m))
    | none => pure (.ok (resp.receivedFor req.method))

end Service

end AuditTrail
