/-!
# References to types of the target language

A reference names a type and gives its generic arguments: `Dictionary<string, List<int>>`.
-/

namespace TypeLowering

/-- A type of the target language with its generic arguments in declaration order. -/
inductive Reference where
  | mk (name : String) (arguments : List Reference)
  deriving Repr

namespace Reference

/-- The name of the type, without its arguments. -/
def name : Reference → String
  | mk name _ => name

/-- The generic arguments. -/
def arguments : Reference → List Reference
  | mk _ arguments => arguments

/-- A type without arguments. -/
def named (name : String) : Reference :=
  mk name []

/-- The number of generic arguments. -/
def arity (r : Reference) : Nat :=
  r.arguments.length

mutual

/-- The text of a reference. -/
def text : Reference → String
  | mk name [] => name
  | mk name (first :: rest) => name ++ "<" ++ ", ".intercalate (texts (first :: rest)) ++ ">"

/-- The texts of several references. -/
def texts : List Reference → List String
  | [] => []
  | r :: rest => r.text :: texts rest

end

mutual

/-- The names of a reference and of all references inside it, each before those inside it. -/
def walk : Reference → List String
  | mk name arguments => name :: walkAll arguments

/-- The names of several references, one reference after another. -/
def walkAll : List Reference → List String
  | [] => []
  | r :: rest => r.walk ++ walkAll rest

end

mutual

/-- Whether two references have the same names in the same places. -/
def same : Reference → Reference → Bool
  | mk name arguments, mk name' arguments' => name == name' && sameAll arguments arguments'

/-- Whether two lists of references agree in every place. -/
def sameAll : List Reference → List Reference → Bool
  | [], [] => true
  | r :: rest, r' :: rest' => r.same r' && sameAll rest rest'
  | _, _ => false

end

mutual

theorem same_iff : ∀ {r r' : Reference}, r.same r' ↔ r = r'
  | mk name arguments, mk name' arguments' => by
    have hAll := @sameAll_iff arguments arguments'
    simp [same, hAll]

theorem sameAll_iff : ∀ {rs rs' : List Reference}, sameAll rs rs' ↔ rs = rs'
  | [], [] => by simp [sameAll]
  | [], _ :: _ => by simp [sameAll]
  | _ :: _, [] => by simp [sameAll]
  | r :: rest, r' :: rest' => by
    have hHead := @same_iff r r'
    have hRest := @sameAll_iff rest rest'
    simp [sameAll, hHead, hRest]

end

instance : DecidableEq Reference := fun r r' =>
  decidable_of_iff (r.same r') same_iff

end Reference

end TypeLowering
