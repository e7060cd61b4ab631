import TypeLowering.Graph
import TypeLowering.Profile

/-!
# Target forms of inferred types

What the reference of a node looks like at its head, and which nodes its arguments come from. The
form depends on the graph and on the name of the class that marks a missing result, and on nothing
else of the profile.
-/

namespace TypeLowering

/-- What names the head of a reference. -/
inductive Label where
  /-- A name that the profile gives. -/
  | slot (s : Slot)
  /-- The own name of a class or module. -/
  | own (name : String)
  deriving DecidableEq, Repr

/-- The name of a label under a profile. -/
def Label.name (p : Profile) : Label → String
  | .slot s => p.name s
  | .own name => name

/-- The head of a node's reference. -/
inductive Form where
  /-- A reference without arguments that needs nothing imported. -/
  | leaf (label : Label)
  /-- A generic reference with one argument for each of the nodes. -/
  | branch (slot : Slot) (children : List Node)
  /-- A callable of unknown signature: opaque parameter and opaque result. -/
  | bareCall
  /-- A value outside the closed set of variants. -/
  | outside

namespace Graph

/-- The form of a node. Only the first call signature counts, and its result only if there is one:
the instance of the class `noneClassName` means that there is none. -/
def form (g : Graph) (noneClassName : String) (n : Node) : Form :=
  match g.shape n with
  | .unknown => .leaf (.slot .object)
  | .instanceOf _ => .leaf (.slot .object)
  | .union _ => .leaf (.slot .object)
  | .string => .leaf (.slot .string)
  | .integer => .leaf (.slot .integer)
  | .float => .leaf (.slot .float)
  | .boolean => .leaf (.slot .boolean)
  | .namedClass name => .leaf (.own name)
  | .namedModule name => .leaf (.own name)
  | .list element => .branch .list [element]
  | .set element => .branch .set [element]
  | .dict key value => .branch .dict [key, value]
  | .tuple elements => .branch .tuple elements
  | .function [] => .bareCall
  | .function ((parameter, result) :: _) =>
    if g.isInstanceOf noneClassName result then .branch .procedure [parameter]
    else .branch .function [parameter, result]
  | .custom _ => .outside
  | .foreign _ => .outside

/-- The number of call signatures of a node. -/
def arrowCount (g : Graph) (n : Node) : Nat :=
  match g.shape n with
  | .function arrows => arrows.length
  | _ => 0

end Graph

end TypeLowering
