/-!
# Kinds of inferred types

The closed set of variants that type inference produces.
-/

namespace TypeLowering

/-- The variant of an inferred type. -/
inductive Kind where
  | unknown
  | dict
  | instanceOf
  | list
  | set
  | union
  | string
  | integer
  | float
  | boolean
  | tuple
  | function
  | namedClass
  | namedModule
  deriving DecidableEq, Repr

namespace Kind

/-- All kinds. -/
def all : List Kind :=
  [.unknown, .dict, .instanceOf, .list, .set, .union, .string, .integer, .float, .boolean, .tuple,
    .function, .namedClass, .namedModule]

/-- The word for a kind. -/
def text : Kind → String
  | .unknown => "unknown"
  | .dict => "dict"
  | .instanceOf => "instance"
  | .list => "list"
  | .set => "set"
  | .union => "union"
  | .string => "str"
  | .integer => "int"
  | .float => "float"
  | .boolean => "bool"
  | .tuple => "tuple"
  | .function => "fun"
  | .namedClass => "class"
  | .namedModule => "module"

/-- The name of a kind: its word in capitals. -/
def name (k : Kind) : String :=
  String.ofList (k.text.toList.map Char.toUpper)

/-- The kind that a word names. -/
def ofText? (s : String) : Option Kind :=
  all.find? fun k => k.text = s

theorem ofText?_text (k : Kind) : ofText? k.text = some k := by
  cases k <;> decide

end Kind

end TypeLowering
