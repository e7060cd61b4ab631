/-!
# Invalid input

Why a value given for a field is refused. A `Row` says which field it was and for what cause; rows
are reported in the order of their location, the kind of their cause and its message.
-/

namespace TypeLowering

/-- Why a value is refused. -/
inductive Cause where
  | notText
  | blankName
  | unknownField
  /-- The record cannot be changed. -/
  | frozen
  | unknownLevel (given : String)
  /-- The text is none of the words for yes and no. -/
  | unreadableFlag
  | notFlag
  | notProfile
  /-- A key holds 16-bit units that are no characters. -/
  | notUnicode
  deriving DecidableEq, Repr

namespace Cause

/-- The kind of a cause, for use by programs. -/
def kind : Cause → String
  | .notText => "string_type"
  | .blankName => "value_error"
  | .unknownField => "extra_forbidden"
  | .frozen => "frozen_instance"
  | .unknownLevel _ => "value_error"
  | .unreadableFlag => "bool_parsing"
  | .notFlag => "bool_type"
  | .notProfile => "model_type"
  | .notUnicode => "string_unicode"

/-- The message of a cause, for people. -/
def message : Cause → String
  | .notText => "Input should be a valid string"
  | .blankName => "Value error, type name must not be blank"
  | .unknownField => "Extra inputs are not permitted"
  | .frozen => "Instance is frozen"
  | .unknownLevel given => "Value error, Unknown log level: " ++ given
  | .unreadableFlag => "Input should be a valid boolean, unable to interpret input"
  | .notFlag => "Input should be a valid boolean"
  | .notProfile => "Input should be a valid dictionary or instance of TargetProfile"
  | .notUnicode =>
    "Input should be a valid string, unable to parse raw data as a unicode string"

end Cause

/-- A refused value: the path of field names that leads to it, and the cause. -/
structure Row where
  location : List String
  cause : Cause
  deriving DecidableEq, Repr

namespace Row

/-- Whether one row is reported no later than another. -/
def isBefore (a b : Row) : Bool :=
  if a.location ≠ b.location then a.location < b.location
  else if a.cause.kind ≠ b.cause.kind then a.cause.kind < b.cause.kind
  else a.cause.message ≤ b.cause.message

/-- The rows in the order in which they are reported. -/
def sort (rows : List Row) : List Row :=
  rows.mergeSort isBefore

/-- The row for a field inside a record that is itself the value of a field. -/
def within (field : String) (r : Row) : Row :=
  { r with location := field :: r.location }

end Row

end TypeLowering
