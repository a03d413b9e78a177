import AuditTrail.Validation.Issue
import AuditTrail.Number.Decimal
import AuditTrail.Text.Printable
import AuditTrail.Value.Display

/-!
# Failures

Everything that can end an operation without a result, with the name it is reported under
(`Failure.kind`) and its text; the first five kinds of store fault are transient.
-/

namespace AuditTrail

/-- The kinds of store failure. -/
inductive FaultKind where
  | autoReconnect | networkTimeout | connectionFailure | executionTimeout
  | serverSelectionTimeout | operationFailure | runtimeError | valueError
  deriving DecidableEq, Repr

namespace FaultKind

def all : List FaultKind :=
  [.autoReconnect, .networkTimeout, .connectionFailure, .executionTimeout,
    .serverSelectionTimeout, .operationFailure, .runtimeError, .valueError]

def name : FaultKind → String
  | .autoReconnect => "AutoReconnect"
  | .networkTimeout => "NetworkTimeout"
  | .connectionFailure => "ConnectionFailure"
  | .executionTimeout => "ExecutionTimeout"
  | .serverSelectionTimeout => "ServerSelectionTimeoutError"
  | .operationFailure => "OperationFailure"
  | .runtimeError => "RuntimeError"
  | .valueError => "ValueError"

def ofName? (s : String) : Option FaultKind := all.find? (·.name == s)

/-- Lost connections and timeouts are transient: a read is tried again after one. -/
def isTransient : FaultKind → Bool
  | .autoReconnect | .networkTimeout | .connectionFailure | .executionTimeout
  | .serverSelectionTimeout => true
  | _ => false

end FaultKind

/-- Why an operation ended without a result. -/
inductive Failure where
  /-- A request parameter was refused; names the parameter. -/
  | invalidFilter (field message : String)
  /-- The store could not answer a read. -/
  | queryFailed (message : String)
  /-- The store could not answer an export. -/
  | exportFailed (message : String)
  /-- A stored value did not fit the shape of an answer. -/
  | unfit (issue : Issue)
  /-- An event was refused at ingestion. -/
  | invalidEvent (message : String)
  /-- A key is not in a mapping; the key is reported by its representation. -/
  | missingKey (key : Value)
  /-- A value of the wrong type was asked for an attribute. -/
  | noAttribute (typeName attr : String)
  /-- The store failed. -/
  | store (kind : FaultKind) (message : String)
  /-- A time span or stamp left the representable range. -/
  | overflow (message : String)
  /-- A division by zero; the text says whether the division was of doubles. -/
  | divisionByZero (message : String)
  /-- A value outside the domain of a conversion. -/
  | outOfDomain (message : String)
  /-- A JSON text could not be read. -/
  | badJson (message : String)
  /-- An inserted document reused an id. -/
  | duplicateKey (message : String)
  /-- A value of the wrong type reached an operation. -/
  | typeMismatch (message : String)
  /-- The caller is not an administrator. -/
  | forbidden (message : String)
  /-- A conversion into a 128-bit decimal stopped on a trapped condition. -/
  | decimalSignal (s : DecimalSignal)
  /-- A text is not an object id. -/
  | invalidId (text : String)
  /-- A text has no form in an encoding; the text says which characters. -/
  | unencodable (message : String)
  /-- Values were nested deeper than the reader allows. -/
  | tooDeep (message : String)
  /-- A file read back is not well-formed XML; the text says where. -/
  | badXml (message : String)
  /-- A client refused a request target; the text says why. -/
  | invalidUrl (message : String)
  /-- A client could not read the target of a redirect; the text says why. -/
  | badRedirect (message : String)
  /-- The store refused a document for its field names; the text says which. -/
  | invalidDocument (message : String)
  /-- The store was asked to place a decimal in its order; the decimal's text. -/
  | unsortable (text : String)

namespace Failure

def kind : Failure → String
  | .invalidFilter .. => "InvalidFilter"
  | .queryFailed _ => "QueryFailed"
  | .exportFailed _ => "ExportFailed"
  | .unfit _ => "ValidationError"
  | .invalidEvent _ => "ValueError"
  | .missingKey _ => "KeyError"
  | .noAttribute .. => "AttributeError"
  | .store k _ => k.name
  | .overflow _ => "OverflowError"
  | .divisionByZero _ => "ZeroDivisionError"
  | .outOfDomain _ => "ValueError"
  | .badJson _ => "JSONDecodeError"
  | .duplicateKey _ => "DuplicateKeyError"
  | .typeMismatch _ => "TypeError"
  | .forbidden _ => "HTTPException"
  | .decimalSignal s => s.name
  | .invalidId _ => "InvalidId"
  | .unencodable _ => "UnicodeEncodeError"
  | .tooDeep _ => "RecursionError"
  | .badXml _ => "ParseError"
  | .invalidUrl _ => "InvalidURL"
  | .badRedirect _ => "RemoteProtocolError"
  | .invalidDocument _ => "InvalidDocument"
  | .unsortable _ => "NotImplementedError"

def message : Failure → String
  | .invalidFilter _ m => m
  | .queryFailed m => m
  | .exportFailed m => m
  | .unfit i => i.message
  | .invalidEvent m => m
  | .missingKey k => k.repr
  | .noAttribute t a => "'" ++ t ++ "' object has no attribute '" ++ a ++ "'"
  | .store _ m => m
  | .overflow m => m
  | .divisionByZero m => m
  | .outOfDomain m => m
  | .badJson m => m
  | .duplicateKey m => m
  | .typeMismatch m => m
  | .forbidden m => m
  | .decimalSignal s => s.message
  | .invalidId t =>
    quoteText t ++ " is not a valid ObjectId, it must be a 12-byte input or a 24-character hex string"
  | .unencodable m => m
  | .tooDeep m => m
  | .badXml m => m
  | .invalidUrl m => m
  | .badRedirect m => "Invalid URL in location header: " ++ m ++ "."
  | .invalidDocument m => m
  | .unsortable t =>
    "Mongomock does not know how to sort '" ++ t ++ "' of type '<class 'bson.decimal128.Decimal128'>'"

/-- A refused request parameter, reported under the first field of the issue's path, or
under `endDate` when the issue concerns the request as a whole. -/
def ofIssue (i : Issue) : Failure :=
  let field := i.loc.head?.getD "endDate"
  .invalidFilter field (field ++ ": " ++ i.message)

end Failure

end AuditTrail
