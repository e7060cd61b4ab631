import TypeLowering.Lowering

/-!
# Types of syntax nodes

Type inference records types under the keys of syntax nodes. A key may also be recorded with no
type. Both a key without record and one without type are lowered to the opaque reference.
-/

namespace TypeLowering

/-- The key of a syntax node. -/
inductive SyntaxKey where
  | null
  | integer (value : Int)
  | text (value : String)
  deriving DecidableEq, Repr

/-- The form of a key inside a message. -/
def SyntaxKey.literal : SyntaxKey → String
  | .null => Json.literal .null
  | .integer n => Json.literal (.integer n)
  | .text s => Json.literal (.text s)

/-- The recorded types; a key may be recorded with no type. -/
abbrev Bindings : Type := Entries SyntaxKey (Option Node)

namespace Bindings

/-- What is recorded for a key: the unknown type if the key was never recorded. -/
def typeOf (b : Bindings) (key : SyntaxKey) : Option Node :=
  (Entries.find? b key).getD (some Builtin.unknown.node)

/-- Lowers the type of a syntax node. -/
def lowerTypeOf (b : Bindings) (g : Graph) (p : Profile) (key : SyntaxKey) :
    Traced Failure Lowered :=
  match Entries.find? b key with
  | some (some n) => g.lower p n
  | _ => ⟨[.typeNotFound key.literal], .ok (.opaqueType p)⟩

/-- Lowers the element type of a syntax node that is a list; anything else is opaque. -/
def lowerListElementOf (b : Bindings) (g : Graph) (p : Profile) (key : SyntaxKey) :
    Traced Failure Lowered :=
  match (b.typeOf key).map g.shape with
  | some (.list element) => g.lower p element
  | _ => return .opaqueType p

end Bindings

end TypeLowering
