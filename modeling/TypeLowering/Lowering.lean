import TypeLowering.Form
import TypeLowering.Namespaces
import TypeLowering.Reference
import TypeLowering.Trace

/-!
# Lowering of inferred types

Lowering turns a node of a type graph into a reference of the target language together with what
the reference needs imported. It walks the graph depth first. A node that is met again inside
itself becomes the opaque reference, so cycles end; a chain of more containers than the nesting
limit and a value outside the closed set of variants make it fail.
-/

namespace TypeLowering

/-- A reference with what it needs imported. -/
structure Lowered where
  reference : Reference
  imports : Requirement
  deriving DecidableEq

namespace Lowered

/-- The opaque reference. -/
def opaqueType (p : Profile) : Lowered :=
  ⟨.named p.objectName, none⟩

/-- A reference without arguments. -/
def leaf (p : Profile) (l : Label) : Lowered :=
  ⟨.named (l.name p), none⟩

/-- A generic reference with the given arguments. -/
def branch (p : Profile) (s : Slot) (arguments : List Lowered) : Lowered :=
  ⟨.mk (p.name s) (arguments.map reference),
    (Requirement.joinAll (arguments.map imports)).add (p.required s)⟩

/-- The reference of a callable whose signature is unknown. -/
def bareCall (p : Profile) : Lowered :=
  ⟨.mk (p.name .function) [.named p.objectName, .named p.objectName],
    Requirement.add none (p.required .function)⟩

end Lowered

/-- What stops the walk through a graph. -/
inductive Obstacle where
  /-- A value outside the closed set of variants, below the given number of containers. -/
  | unsupported (node : Node) (depth : Nat)
  /-- More containers inside each other than allowed. -/
  | tooDeep
  deriving DecidableEq, Repr

/-- Why a node cannot be lowered. -/
inductive Failure where
  /-- A value outside the closed set of variants, below the given number of containers. -/
  | unsupported (node : Node) (depth : Nat)
  /-- The containers below the node nest too deeply. -/
  | tooDeep (root : Node)
  deriving DecidableEq, Repr

/-- The failure that an obstacle means for the node at which the walk began. -/
def Obstacle.toFailure (root : Node) : Obstacle → Failure
  | .unsupported node depth => .unsupported node depth
  | .tooDeep => .tooDeep root

namespace Graph

/-- What is noted when a node with several call signatures is lowered. -/
def overloadEvents (g : Graph) (n : Node) : List Event :=
  if 1 < g.arrowCount n then [.overloadsCollapsed (g.arrowCount n)] else []

/-- Lowers a node below the containers of `path`, innermost first, with room for so many more. -/
def lowerBelow (g : Graph) (p : Profile) (room : Nat) (path : List Node) (n : Node) :
    Traced Obstacle Lowered :=
  if n ∈ path then do
    Traced.note (.cycleCut (g.shape n).kind? path.length)
    return .opaqueType p
  else
    match g.form p.noneClassName n with
    | .leaf l => return .leaf p l
    | .bareCall => return .bareCall p
    | .outside => .fail (.unsupported n path.length)
    | .branch s children => do
      Traced.noteAll (g.overloadEvents n)
      match room with
      | 0 => .fail .tooDeep
      | room + 1 =>
        let arguments ← Traced.each (g.lowerBelow p room (n :: path)) children
        return .branch p s arguments

/-- Lowers a node with room for the given number of containers inside each other. -/
def lowerWithin (g : Graph) (p : Profile) (limit : Nat) (root : Node) : Traced Failure Lowered :=
  (g.lowerBelow p limit [] root).mapFailure (Obstacle.toFailure root)

/-- How many containers may stand inside each other. -/
def nestingLimit : Nat := 256

/-- Lowers a node. -/
def lower (g : Graph) (p : Profile) (root : Node) : Traced Failure Lowered :=
  g.lowerWithin p nestingLimit root

/-- The call signature that is kept of a node with call signatures, with what is noted. -/
def selectArrow? (g : Graph) (n : Node) : Option (Traced Failure (Node × Node)) :=
  match g.shape n with
  | .function (arrow :: _) => some ⟨g.overloadEvents n, .ok arrow⟩
  | _ => none

end Graph

end TypeLowering
