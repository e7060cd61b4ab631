import TypeLowering.Json
import TypeLowering.Text.Case

/-!
# How the environment is read

The names of variables begin with `TYPEREF_` and count in any letter case, two underscores lead into
the profile, and empty values count. Fields whose names begin with an underscore change this where
settings are given outright; null leaves the usual way.
-/

namespace TypeLowering

/-- How variables are named and what their values mean. -/
structure Reading where
  /-- Whether names count only in the letter case of the fields. -/
  keepsCase : Bool := false
  /-- What the names of all variables begin with; without it none has a name. -/
  start? : Option String := some "TYPEREF_"
  /-- The type of a common beginning that has to be put in lower case and is no text. -/
  misfit? : Option String := none
  /-- What leads from the profile to its fields, and on into nested objects. -/
  delimiter? : Option String := some "__"
  /-- At how many delimiters a path is cut at most. -/
  cuts? : Option Nat := none
  ignoresEmpty : Bool := false
  /-- The value that means null. -/
  nullWord? : Option String := none
  deriving DecidableEq, Repr

namespace Reading

/-- The value of a field that is not null. -/
def option? (fields : Entries String Json) (key : String) : Option Json :=
  (fields.find? key).filter fun v => !v.isNull

/-- Whether a field asks for something. -/
def isChosen (fields : Entries String Json) (key : String) : Bool :=
  (fields.find? key).any Json.isGiven

/-- The text of a value. -/
def text? : Json → Option String
  | .text s => some s
  | _ => none

/-- The delimiter that a value gives. The empty text is none, and no name holds another value. -/
def delimiterOf? (v : Json) : Option String :=
  (text? v).filter fun s => s ≠ ""

/-- The number of cuts for the number of levels that a value gives. -/
def cutsOf? : Json → Option Nat
  | .integer n => if 0 < n then some (n.toNat - 1) else none
  | .bool true => some 0
  | _ => none

/-- Whether the common beginning is put before the names of fields, as it is unless another target
is set for it. -/
def startsFields (fields : Entries String Json) : Bool :=
  (option? fields "_env_prefix_target").all fun v =>
    text? v = some "variable" || text? v = some "all"

/-- The type of a common beginning that is no text. Where letter case counts it does no harm. -/
def misfitOf? (fields : Entries String Json) : Option String :=
  if isChosen fields "_case_sensitive" then none
  else
    match option? fields "_env_prefix" with
    | none | some (.text _) => none
    | some v => some v.typeName

/-- The way of reading that fields ask for. -/
def ofFields (fields : Entries String Json) : Reading where
  keepsCase := isChosen fields "_case_sensitive"
  start? :=
    if startsFields fields then
      match option? fields "_env_prefix" with
      | none => some "TYPEREF_"
      | some v => text? v
    else some ""
  misfit? := misfitOf? fields
  delimiter? :=
    match option? fields "_env_nested_delimiter" with
    | none => some "__"
    | some v => delimiterOf? v
  cuts? := (option? fields "_env_nested_max_split").bind cutsOf?
  ignoresEmpty := isChosen fields "_env_ignore_empty"
  nullWord? := (option? fields "_env_parse_none_str").bind text?

/-- A name as it is compared. -/
def name (r : Reading) (s : String) : String :=
  if r.keepsCase then s else Text.lower s

/-- The name of the variable for a field of the settings. -/
def variableName? (r : Reading) (field : String) : Option String :=
  r.start?.map fun start => r.name (start ++ field)

/-- What a variable's text means. -/
def value (r : Reading) (s : String) : Json :=
  if r.nullWord? = some s then .null else .text s

theorem ofFields_nil : ofFields [] = {} := rfl

end Reading

end TypeLowering
