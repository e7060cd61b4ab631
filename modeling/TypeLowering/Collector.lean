import TypeLowering.Lowering

/-!
# Collecting imports

A collector gathers what the references of one compilation unit need imported and writes one
directive for each namespace. Namespaces whose first segment is `System` come first.
-/

namespace TypeLowering

/-- The first of the segments of a namespace, which points separate. -/
def firstSegment (name : String) : String :=
  String.ofList (name.toList.takeWhile (· ≠ '.'))

/-- Whether one namespace is listed no later than another. -/
def isListedBefore (a b : String) : Bool :=
  if firstSegment a = "System" then
    if firstSegment b = "System" then a ≤ b else true
  else if firstSegment b = "System" then false
  else a ≤ b

/-- What has been gathered so far. -/
structure Collector where
  collected : Requirement := none
  deriving DecidableEq

namespace Collector

/-- Gathers what a reference needs and hands the reference back. -/
def add (c : Collector) (l : Lowered) : Collector × Reference :=
  (⟨c.collected.join l.imports⟩, l.reference)

/-- Gathers the given namespaces. -/
def addNamespaces (c : Collector) (names : List String) : Collector :=
  ⟨c.collected.join (some (.ofList names))⟩

/-- The gathered namespaces in the order of their directives. -/
def sorted (c : Collector) : List String :=
  c.collected.names.mergeSort isListedBefore

/-- The directive that imports a namespace. -/
def directive (name : String) : String :=
  "using " ++ name ++ ";"

/-- The directives, one on a line. -/
def usings (c : Collector) : String :=
  "\n".intercalate (c.sorted.map directive)

end Collector

end TypeLowering
