import TypeLowering.Graph

/-!
# Recursion guards

A guard is the stack of the nodes that are being worked on, innermost first, with a record of which
entries have been left. Leaving an entry takes the top off the stack, whichever entry it is, and
leaving it again does nothing. An exception that is in flight when an entry is left goes on.
-/

namespace TypeLowering

/-- The stack of nodes in progress, and for every entry so far whether it is still open. -/
structure Guard where
  stack : List Node := []
  isOpen : List Bool := []

namespace Guard

/-- Puts a node on the stack, as a new entry. -/
def enter (g : Guard) (n : Node) : Guard :=
  ⟨n :: g.stack, g.isOpen ++ [true]⟩

/-- Ends an entry, given by its number in order of entering. -/
def leave (g : Guard) (entry : Nat) : Guard :=
  if g.isOpen[entry]? = some true then ⟨g.stack.tail, g.isOpen.set entry false⟩ else g

/-- Whether a node is on the stack. -/
def contains (g : Guard) (n : Node) : Bool :=
  n ∈ g.stack

/-- The height of the stack. -/
def depth (g : Guard) : Nat :=
  g.stack.length

/-- What may be in flight when an entry is left: an exception of the work that was going on, or the
one that is thrown where there is nothing to take off the stack. -/
inductive Thrown (ε : Type) where
  | own (e : ε)
  | emptyStack
  deriving DecidableEq, Repr

/-- What a guard can be asked for. An entry is left with an exception in flight or with none. -/
inductive Operation (ε : Type) where
  | enter (n : Node)
  | leave (entry : Nat) (thrown? : Option (Thrown ε))
  | contains (n : Node)
  deriving DecidableEq, Repr

variable {ε : Type}

/-- Leaves an entry, and gives what is in flight after that. -/
def exit (g : Guard) (entry : Nat) (thrown? : Option (Thrown ε)) : Guard × Option (Thrown ε) :=
  (g.leave entry,
    if g.isOpen[entry]? = some true ∧ g.stack.isEmpty = true then some .emptyStack else thrown?)

/-- Does what it is asked for. To leave an entry is answered by whether an exception was swallowed. -/
def perform (g : Guard) : Operation ε → Guard × Option Bool
  | .enter n => (g.enter n, none)
  | .leave entry thrown? =>
    let left := g.exit entry thrown?
    (left.1, some (thrown?.isSome && left.2.isNone))
  | .contains n => (g, some (g.contains n))

theorem depth_enter (g : Guard) (n : Node) : (g.enter n).depth = g.depth + 1 := rfl

end Guard

end TypeLowering
