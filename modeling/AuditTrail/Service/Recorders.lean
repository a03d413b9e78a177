import AuditTrail.Service.Basic
import AuditTrail.Value.Diff

/-!
# Business events

The events other parts of the system record (logins, reservations, user changes, system errors),
each with its fixed level, action, message and payload; `BusinessEvent.ofArgs` reads one.
-/

namespace AuditTrail

/-- An event of the parking system. -/
inductive BusinessEvent where
  | userLogin (userId email context : Value)
  | userLogout (userId email context : Value)
  | reservationCreated (userId reservationId plazaId vehicleId details : Value)
  | reservationCancelled (userId reservationId plazaId details : Value)
  | roleChange (adminId targetId previousRole newRole : Value)
  | userUpdated (adminId targetId previousState newState reason : Value)
  | systemError (kind : String) (message : String) (context userId : Value)

/-- The arguments of a recorded event, in the order the service takes them. -/
structure EventArgs where
  level : Value
  action : Value
  message : Value
  userId : Value := .null
  resource : Value := .null
  resourceId : Value := .null
  details : Value := .null
  context : Value := .null

namespace BusinessEvent

def mergeDetails (base : Record) : Value → Except Failure Record
  | .record fs => .ok (fs.foldl (fun r p => r.set p.1 p.2) base)
  | v => if v.truthy then .error (.typeMismatch ("'" ++ v.typeName ++ "' object is not a mapping"))
    else .ok base

def qualifiedKind (kind : String) : String :=
  if kind = "RuntimeError" ∨ kind = "ValueError" then kind else "pymongo.errors." ++ kind

def args : BusinessEvent → Except Failure EventArgs
  | .userLogin u e ctx => .ok
    { level := .str "info", action := .str "login",
      message := .str ("User authenticated: " ++ e.display), userId := u, resource := .str "user",
      resourceId := u, details := .record [("metadata", .record [("email", e)])], context := ctx }
  | .userLogout u e ctx => .ok
    { level := .str "info", action := .str "logout",
      message := .str ("User logged out: " ++ e.display), userId := u, resource := .str "user",
      resourceId := u, details := .record [("metadata", .record [("email", e)])], context := ctx }
  | .reservationCreated u r p v d => do
    let metadata ← mergeDetails [("plazaId", p), ("vehicleId", v)] d
    pure
      { level := .str "info", action := .str "create_reservation",
        message := .str ("Reservation created: " ++ r.display ++ " - Plaza " ++ p.display),
        userId := u, resource := .str "reserva", resourceId := r,
        details := .record [("metadata", .record metadata)] }
  | .reservationCancelled u r p d => do
    let metadata ← mergeDetails [("plazaId", p)] d
    pure
      { level := .str "info", action := .str "cancel_reservation",
        message := .str ("Reservation cancelled: " ++ r.display ++ " - Plaza " ++ p.display),
        userId := u, resource := .str "reserva", resourceId := r,
        details := .record [("metadata", .record metadata)] }
  | .roleChange a t p n => .ok
    { level := .str "warn", action := .str "role_change",
      message := .str ("Administrator " ++ a.display ++ " changed role of user " ++ t.display ++
        " from " ++ p.display ++ " to " ++ n.display),
      userId := a, resource := .str "user", resourceId := t,
      details := .record [("previousState", .record [("role", p)]),
        ("newState", .record [("role", n)]), ("metadata", .record [("changedBy", a)])],
      context := .record [("method", .str "PATCH"), ("criticalOperation", .bool true)] }
  | .userUpdated a t p n reason => do
    let changes ← Value.changes p n
    pure
      { level := .str "info", action := .str "update_user",
        message := .str ("Administrator " ++ a.display ++ " updated user " ++ t.display),
        userId := a, resource := .str "user", resourceId := t,
        details := .record [("previousState", p), ("newState", n), ("reason", reason),
          ("metadata", .record [("changes", .record changes), ("updatedBy", a)])],
        context := .record [("method", .str "PATCH")] }
  | .systemError kind msg ctx u => .ok
    { level := .str "error", action := .str "system_error",
      message := .str ("System error: " ++ msg), userId := u, resource := .str "system",
      details := .record [("error", .str msg), ("stackTrace", .str (qualifiedKind kind ++
        (if msg.isEmpty then "" else ": " ++ msg) ++ "\n"))],
      context := ctx }

def params : String → Option (List (String × Bool))
  | "user_login" => some [("user_id", false), ("email", false), ("context", true)]
  | "user_logout" => some [("user_id", false), ("email", false), ("context", true)]
  | "reservation_created" => some [("user_id", false), ("reservation_id", false),
      ("plaza_id", false), ("vehicle_id", false), ("details", true)]
  | "reservation_cancelled" => some [("user_id", false), ("reservation_id", false),
      ("plaza_id", false), ("details", true)]
  | "role_change" => some [("admin_user_id", false), ("target_user_id", false),
      ("previous_role", false), ("new_role", false)]
  | "user_updated" => some [("admin_user_id", false), ("target_user_id", false),
      ("previous_state", false), ("new_state", false), ("reason", true)]
  | "system_error" => some [("context", true), ("user_id", true)]
  | _ => none

def nameList : List String → String
  | [] => ""
  | [a] => "'" ++ a ++ "'"
  | [a, b] => "'" ++ a ++ "' and '" ++ b ++ "'"
  | names => ", ".intercalate ((names.dropLast).map (fun n => "'" ++ n ++ "'")) ++
      ", and '" ++ (names.getLast?.getD "") ++ "'"

/-- The parameters a call of a kind fills by position: the service itself, and the error of a
system error. -/
def positional (kind : String) : List String :=
  if kind = "system_error" then ["self", "error"] else ["self"]

/-- Checks named arguments against the parameters of a kind: the first argument that names a
parameter filled by position, or no parameter, is refused; then every required parameter
must be named. -/
def checkArgs (kind : String) (ps : List (String × Bool)) (args : Record) : Except Failure Unit :=
  let fn := "AuditService.log_" ++ kind ++ "()"
  match args.find? (fun a => (positional kind).contains a.1 || !ps.any (·.1 == a.1)) with
  | some (k, _) =>
    if (positional kind).contains k then
      .error (.typeMismatch (fn ++ " got multiple values for argument '" ++ k ++ "'"))
    else .error (.typeMismatch (fn ++ " got an unexpected keyword argument '" ++ k ++ "'"))
  | none =>
    let missing := (ps.filter (fun p => !p.2 && !args.contains p.1)).map (·.1)
    if missing.isEmpty then .ok ()
    else .error (.typeMismatch (fn ++ " missing " ++ toString missing.length ++ " required " ++
      (if missing.length = 1 then "positional argument: " else "positional arguments: ") ++
      nameList missing))

/-- The error kind named by a system error's arguments: a fault kind, `RuntimeError` when none
is named. A name that is no fault kind is a missing key; a value that cannot be hashed
(`Value.unhashable?`) cannot be one. -/
def errorKind (args : Record) : Except Failure String :=
  match (args.get? "error_type").getD (.str "RuntimeError") with
  | .str k => if (FaultKind.ofName? k).isSome then .ok k else .error (.missingKey (.str k))
  | v => match v.unhashable? with
    | some t => .error (.typeMismatch ("unhashable type: '" ++ t ++ "'"))
    | none => .error (.missingKey v)

/-- Reads an event of a kind from named arguments. A system error is built first from its
kind and its message (empty when none is given), and the rest are the named arguments. -/
def ofArgs (kind : String) (args : Record) : Except Failure BusinessEvent := do
  let some ps := params kind | throw (.typeMismatch ("unknown event kind '" ++ kind ++ "'"))
  if kind = "system_error" then
    let k ← errorKind args
    let m := (args.get? "error_message").getD (.str "")
    let rest : Record := args.filter (fun a => a.1 != "error_type" && a.1 != "error_message")
    checkArgs kind ps rest
    let a (k : String) : Value := (rest.get? k).getD .null
    return .systemError k m.display (a "context") (a "user_id")
  checkArgs kind ps args
  let a (k : String) : Value := (args.get? k).getD .null
  match kind with
  | "user_login" => pure (.userLogin (a "user_id") (a "email") (a "context"))
  | "user_logout" => pure (.userLogout (a "user_id") (a "email") (a "context"))
  | "reservation_created" => pure (.reservationCreated (a "user_id") (a "reservation_id")
      (a "plaza_id") (a "vehicle_id") (a "details"))
  | "reservation_cancelled" => pure (.reservationCancelled (a "user_id") (a "reservation_id")
      (a "plaza_id") (a "details"))
  | "role_change" => pure (.roleChange (a "admin_user_id") (a "target_user_id")
      (a "previous_role") (a "new_role"))
  | _ => pure (.userUpdated (a "admin_user_id") (a "target_user_id")
      (a "previous_state") (a "new_state") (a "reason"))

end BusinessEvent

/-- Records a business event. -/
def Service.log (e : BusinessEvent) : StateM Service (Except Failure Unit) :=
  match e.args with
  | .ok a => Service.record a.level a.action a.message a.userId a.resource a.resourceId
      a.details a.context
  | .error f => pure (.error f)

end AuditTrail
