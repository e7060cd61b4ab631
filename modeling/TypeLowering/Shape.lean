import TypeLowering.Json
import TypeLowering.Kind

/-!
# Shapes of inferred types

A shape is one layer of an inferred type: its variant and the values directly inside it. It is
generic in what stands for those values, so that the same layer serves for the nodes of a graph and
for descriptions that a graph is built from. Besides the closed set of variants there are variants
without a rule and values that are no types at all; both are refused when they are met.
-/

namespace TypeLowering

/-- One layer of an inferred type, over the values inside it. -/
inductive Shape (ρ : Type) where
  | unknown
  | string
  | integer
  | float
  | boolean
  | namedClass (name : String)
  | namedModule (name : String)
  | instanceOf (cls : ρ)
  | list (element : ρ)
  | set (element : ρ)
  | dict (key value : ρ)
  | tuple (elements : List ρ)
  | union (alternatives : List ρ)
  /-- Call signatures, from parameter to result, in the order of their declaration. -/
  | function (arrows : List (ρ × ρ))
  /-- A variant outside the closed set. -/
  | custom (name : String)
  /-- A plain value in the place of a type. -/
  | foreign (value : Json)

namespace Shape

variable {ρ : Type}

/-- The kind that a value gives itself. A variant outside the closed set calls itself a set. -/
def kind? : Shape ρ → Option Kind
  | .unknown => some .unknown
  | .string => some .string
  | .integer => some .integer
  | .float => some .float
  | .boolean => some .boolean
  | .namedClass _ => some .namedClass
  | .namedModule _ => some .namedModule
  | .instanceOf _ => some .instanceOf
  | .list _ => some .list
  | .set _ => some .set
  | .dict _ _ => some .dict
  | .tuple _ => some .tuple
  | .union _ => some .union
  | .function _ => some .function
  | .custom _ => some .set
  | .foreign _ => none

/-- The name of the variant. -/
def typeName : Shape ρ → String
  | .unknown => "UnknownType"
  | .string => "StrType"
  | .integer => "IntType"
  | .float => "FloatType"
  | .boolean => "BoolType"
  | .namedClass _ => "ClassType"
  | .namedModule _ => "ModuleType"
  | .instanceOf _ => "InstanceType"
  | .list _ => "ListType"
  | .set _ => "SetType"
  | .dict _ _ => "DictType"
  | .tuple _ => "TupleType"
  | .union _ => "UnionType"
  | .function _ => "FunType"
  | .custom name => name
  | .foreign value => value.typeName

/-- The form of a value inside a message. -/
def literal : Shape ρ → String
  | .namedClass name => "<ClassType " ++ name ++ ">"
  | .namedModule name => "<ModuleType " ++ name ++ ">"
  | .foreign value => value.literal
  | s => "<" ++ s.typeName ++ ">"

/-- Whether a value belongs to the closed set of variants. -/
def isClosed : Shape ρ → Bool
  | .custom _ => false
  | .foreign _ => false
  | _ => true

end Shape

end TypeLowering
