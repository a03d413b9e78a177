/-!
# Kinds of events and request options

Event levels, actions, sort fields, sort directions and export formats, each with its exact wire
text (`text`), its members in order (`all`) and a reader of the text (`ofText?`).
-/

namespace AuditTrail

/-- How severe an event is. -/
inductive Level where
  | error | warn | info | debug
  deriving DecidableEq, Repr, Inhabited

namespace Level

def all : List Level := [.error, .warn, .info, .debug]

def text : Level → String
  | .error => "error"
  | .warn => "warn"
  | .info => "info"
  | .debug => "debug"

def ofText? (s : String) : Option Level := all.find? (·.text == s)

end Level

/-- What an event records. -/
inductive Action where
  | login | logout | register
  | createReservation | cancelReservation | finishReservation
  | updateUser | deleteUser | roleChange
  | createPlaza | updatePlaza | deletePlaza
  | parkingOccupation | accessLogs | systemError
  deriving DecidableEq, Repr, Inhabited

namespace Action

def all : List Action :=
  [.login, .logout, .register, .createReservation, .cancelReservation, .finishReservation,
    .updateUser, .deleteUser, .roleChange, .createPlaza, .updatePlaza, .deletePlaza,
    .parkingOccupation, .accessLogs, .systemError]

def text : Action → String
  | .login => "login"
  | .logout => "logout"
  | .register => "register"
  | .createReservation => "create_reservation"
  | .cancelReservation => "cancel_reservation"
  | .finishReservation => "finish_reservation"
  | .updateUser => "update_user"
  | .deleteUser => "delete_user"
  | .roleChange => "role_change"
  | .createPlaza => "create_plaza"
  | .updatePlaza => "update_plaza"
  | .deletePlaza => "delete_plaza"
  | .parkingOccupation => "parking_occupation"
  | .accessLogs => "access_logs"
  | .systemError => "system_error"

def ofText? (s : String) : Option Action := all.find? (·.text == s)

def reservations : List Action := [.createReservation, .cancelReservation, .finishReservation]

end Action

/-- What an action filter asks for: one action, or every reservation action. -/
inductive ActionFilter where
  | one (a : Action)
  | reservations
  deriving DecidableEq, Repr

namespace ActionFilter

def reservationsText : String := "reservation_actions"

def text : ActionFilter → String
  | .one a => a.text
  | .reservations => reservationsText

def ofText? (s : String) : Option ActionFilter :=
  if s == reservationsText then some .reservations else (Action.ofText? s).map .one

end ActionFilter

/-- The fields a listing can be sorted by. -/
inductive SortField where
  | createdAt | level | action | userId | resource | resourceId | message
  deriving DecidableEq, Repr

namespace SortField

def all : List SortField := [.createdAt, .level, .action, .userId, .resource, .resourceId, .message]

def text : SortField → String
  | .createdAt => "createdAt"
  | .level => "level"
  | .action => "action"
  | .userId => "userId"
  | .resource => "resource"
  | .resourceId => "resourceId"
  | .message => "message"

def ofText? (s : String) : Option SortField := all.find? (·.text == s)

end SortField

/-- A sort direction. -/
inductive SortOrder where
  | asc | desc
  deriving DecidableEq, Repr

namespace SortOrder

def all : List SortOrder := [.asc, .desc]

def text : SortOrder → String
  | .asc => "asc"
  | .desc => "desc"

def ofText? (s : String) : Option SortOrder := all.find? (·.text == s)

def sign : SortOrder → Int
  | .asc => 1
  | .desc => -1

end SortOrder

/-- The file formats of an export. -/
inductive ExportFormat where
  | csv | json | excel
  deriving DecidableEq, Repr

namespace ExportFormat

def all : List ExportFormat := [.csv, .json, .excel]

def text : ExportFormat → String
  | .csv => "csv"
  | .json => "json"
  | .excel => "excel"

def ofText? (s : String) : Option ExportFormat := all.find? (·.text == s)

def mediaType : ExportFormat → String
  | .csv => "text/csv"
  | .json => "application/json"
  | .excel => "application/vnd.openxmlformats-officedocument.spreadsheetml.sheet"

def extension : ExportFormat → String
  | .csv => "csv"
  | .json => "json"
  | .excel => "xlsx"

end ExportFormat

end AuditTrail
