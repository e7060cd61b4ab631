import TypeLowering.Kind

/-!
# Traced computations

A computation that notes events on its way and ends with a value or a failure. A failure ends the
computation and keeps what was noted before it.
-/

namespace TypeLowering

/-- What is noted while types are lowered. -/
inductive Event where
  /-- A node was met again inside itself, below the given number of containers. -/
  | cycleCut (kind : Option Kind) (depth : Nat)
  /-- Only the first of several call signatures is kept. -/
  | overloadsCollapsed (signatures : Nat)
  /-- No type is recorded for a syntax node. -/
  | typeNotFound (key : String)
  deriving DecidableEq, Repr

/-- The events of a computation and how it ended. -/
structure Traced (ε α : Type) where
  events : List Event
  outcome : Except ε α

namespace Traced

variable {ε α β : Type}

/-- Ends with a value and notes nothing. -/
protected def pure (a : α) : Traced ε α := ⟨[], .ok a⟩

/-- Ends with a failure and notes nothing. -/
def fail (e : ε) : Traced ε α := ⟨[], .error e⟩

/-- Goes on with the value of a computation, if it has one. -/
protected def bind (t : Traced ε α) (f : α → Traced ε β) : Traced ε β :=
  match t.outcome with
  | .error e => ⟨t.events, .error e⟩
  | .ok a => ⟨t.events ++ (f a).events, (f a).outcome⟩

instance : Monad (Traced ε) where
  pure := Traced.pure
  bind := Traced.bind

/-- The same computation with its failure, if any, seen from outside. -/
def mapFailure {ε' : Type} (f : ε → ε') (t : Traced ε α) : Traced ε' α :=
  ⟨t.events, t.outcome.mapError f⟩

/-- Notes one event. -/
def note (e : Event) : Traced ε Unit := ⟨[e], .ok ()⟩

/-- Notes the given events. -/
def noteAll (es : List Event) : Traced ε Unit := ⟨es, .ok ()⟩

/-- Runs a computation on each member of a list, in order, up to the first failure. -/
def each (f : α → Traced ε β) : List α → Traced ε (List β)
  | [] => .pure []
  | a :: rest => (f a).bind fun b => (each f rest).bind fun bs => .pure (b :: bs)

end Traced

end TypeLowering
