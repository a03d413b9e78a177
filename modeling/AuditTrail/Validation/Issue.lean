/-!
# Validation issues

An `Issue` is a kind with its stable code and message, and the path of field names that leads to
it.
-/

namespace AuditTrail

namespace Issue

/-- Why a value was refused. -/
inductive Kind where
  | missing
  | stringType
  | stringUnicode
  | stringTooShort (min : Nat)
  | intType
  | intParsing
  | intParsingSize
  | intFromFloat
  | finiteNumber
  | floatType
  | floatParsing
  | boolType
  | boolParsing
  | dictType
  | modelType (model : String)
  | enum (expected : List String)
  | literal (expected : List String)
  | greaterEqual (bound : Int)
  | datetimeType
  | datetimeParsing (reason : String)
  | datetimeFromDate (reason : String)
  | valueError (text : String)
  deriving DecidableEq, Repr

def expectedText (xs : List String) : String :=
  let qs := xs.map (fun x => "'" ++ x ++ "'")
  match qs.reverse with
  | [] => ""
  | [q] => q
  | last :: rest => ", ".intercalate rest.reverse ++ " or " ++ last

namespace Kind

def code : Kind → String
  | .missing => "missing"
  | .stringType => "string_type"
  | .stringUnicode => "string_unicode"
  | .stringTooShort _ => "string_too_short"
  | .intType => "int_type"
  | .intParsing => "int_parsing"
  | .intParsingSize => "int_parsing_size"
  | .intFromFloat => "int_from_float"
  | .finiteNumber => "finite_number"
  | .floatType => "float_type"
  | .floatParsing => "float_parsing"
  | .boolType => "bool_type"
  | .boolParsing => "bool_parsing"
  | .dictType => "dict_type"
  | .modelType _ => "model_type"
  | .enum _ => "enum"
  | .literal _ => "literal_error"
  | .greaterEqual _ => "greater_than_equal"
  | .datetimeType => "datetime_type"
  | .datetimeParsing _ => "datetime_parsing"
  | .datetimeFromDate _ => "datetime_from_date_parsing"
  | .valueError _ => "value_error"

def message : Kind → String
  | .missing => "Field required"
  | .stringType => "Input should be a valid string"
  | .stringUnicode => "Input should be a valid string, unable to parse raw data as a unicode string"
  | .stringTooShort n =>
    "String should have at least " ++ toString n ++ (if n = 1 then " character" else " characters")
  | .intType => "Input should be a valid integer"
  | .intParsing => "Input should be a valid integer, unable to parse string as an integer"
  | .intParsingSize => "Unable to parse input string as an integer, exceeded maximum size"
  | .intFromFloat => "Input should be a valid integer, got a number with a fractional part"
  | .finiteNumber => "Input should be a finite number"
  | .floatType => "Input should be a valid number"
  | .floatParsing => "Input should be a valid number, unable to parse string as a number"
  | .boolType => "Input should be a valid boolean"
  | .boolParsing => "Input should be a valid boolean, unable to interpret input"
  | .dictType => "Input should be a valid dictionary"
  | .modelType m => "Input should be a valid dictionary or instance of " ++ m
  | .enum xs => "Input should be " ++ expectedText xs
  | .literal xs => "Input should be " ++ expectedText xs
  | .greaterEqual b => "Input should be greater than or equal to " ++ toString b
  | .datetimeType => "Input should be a valid datetime"
  | .datetimeParsing r => "Input should be a valid datetime, " ++ r
  | .datetimeFromDate r => "Input should be a valid datetime or date, " ++ r
  | .valueError t => "Value error, " ++ t

end Kind

end Issue

/-- One validation failure: where it is and why. -/
structure Issue where
  loc : List String
  kind : Issue.Kind
  deriving DecidableEq, Repr

namespace Issue

def message (i : Issue) : String := i.kind.message

def under (k : String) (i : Issue) : Issue := { i with loc := k :: i.loc }

end Issue

end AuditTrail
