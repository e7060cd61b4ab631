import TypeLowering.Entries
import TypeLowering.Shape

/-!
# Graphs of inferred types

Inferred types refer to each other freely, also in cycles, and are told apart by identity and not by
content. A `Node` is such an identity and a `Graph` gives every node its shape. Every graph begins
with one node for each `Builtin`.
-/

namespace TypeLowering

/-- The identity of an inferred type within a graph. -/
structure Node where
  index : Nat
  deriving DecidableEq, Repr

/-- A finite graph of inferred types. -/
structure Graph where
  shapes : Array (Shape Node)

/-- The types that exist once in every graph. -/
inductive Builtin where
  | unknown
  | string
  | integer
  | float
  | boolean
  /-- The instance of the class named `None`, which a procedure returns. -/
  | none
  /-- The class named `None`. -/
  | noneClass
  deriving DecidableEq, Repr

namespace Builtin

/-- All builtin types. -/
def all : List Builtin :=
  [.unknown, .string, .integer, .float, .boolean, .none, .noneClass]

/-- The node of a builtin type. -/
def node : Builtin → Node
  | .unknown => ⟨0⟩
  | .string => ⟨1⟩
  | .integer => ⟨2⟩
  | .float => ⟨3⟩
  | .boolean => ⟨4⟩
  | .none => ⟨5⟩
  | .noneClass => ⟨6⟩

/-- The shape of a builtin type. -/
def shape : Builtin → Shape Node
  | .unknown => .unknown
  | .string => .string
  | .integer => .integer
  | .float => .float
  | .boolean => .boolean
  | .none => .instanceOf noneClass.node
  | .noneClass => .namedClass "None"

end Builtin

namespace Graph

/-- The graph of the builtin types. -/
def base : Graph :=
  ⟨(Builtin.all.map Builtin.shape).toArray⟩

/-- The shape of a node; a node that was never made is of unknown type. -/
def shape (g : Graph) (n : Node) : Shape Node :=
  g.shapes[n.index]?.getD .unknown

/-- Makes a new node of a shape. -/
def insert (g : Graph) (s : Shape Node) : Graph × Node :=
  let index := g.shapes.size
  (⟨g.shapes.push s⟩, ⟨index⟩)

/-- The node of a plain value that exists only once, if the graph has it. -/
def plainNode? (g : Graph) (v : Json) : Option Node :=
  (g.shapes.findIdx? fun s =>
    match s with
    | .foreign w => w.identical v
    | _ => false).map Node.mk

/-- The node of a shape: for a plain value that exists only once the one that is there, if there is
one, and a new node otherwise. -/
def place (g : Graph) (s : Shape Node) : Graph × Node :=
  match s with
  | .foreign v =>
    match g.plainNode? v with
    | some n => (g, n)
    | none => g.insert s
  | _ => g.insert s

/-- Gives a node another shape and keeps its identity. -/
def replace (g : Graph) (n : Node) (s : Shape Node) : Graph :=
  ⟨g.shapes.setIfInBounds n.index s⟩

/-- The type that a node is recorded with; the null value records no type. -/
def type? (g : Graph) (n : Node) : Option Node :=
  match g.shape n with
  | .foreign .null => none
  | _ => some n

/-- Whether a node is an instance of the class with the given name. -/
def isInstanceOf (g : Graph) (className : String) (n : Node) : Bool :=
  match g.shape n with
  | .instanceOf c =>
    match g.shape c with
    | .namedClass name => name = className
    | _ => false
  | _ => false

/-- Whether two nodes are one and the same parameter: they are identical, or equal plain values. -/
def sameParameter (g : Graph) (m n : Node) : Bool :=
  m = n ||
    match g.shape m, g.shape n with
    | .foreign v, .foreign w => v.sameKey w
    | _, _ => false

/-- Adds a call signature. A parameter that is there keeps its place and takes the new result. -/
def putArrow (g : Graph) (arrows : Entries Node Node) (arrow : Node × Node) : Entries Node Node :=
  let parameter := ((arrows.map Prod.fst).find? (g.sameParameter · arrow.1)).getD arrow.1
  arrows.put parameter arrow.2

/-- The call signatures that a sequence of pairs declares. -/
def arrowsOf (g : Graph) (pairs : List (Node × Node)) : Entries Node Node :=
  pairs.foldl g.putArrow []

theorem shape_insert (g : Graph) (s : Shape Node) : (g.insert s).1.shape (g.insert s).2 = s := by
  simp [shape, insert]

theorem shape_insert_of_lt {g : Graph} {n : Node} (s : Shape Node)
    (hn : n.index < g.shapes.size) : (g.insert s).1.shape n = g.shape n := by
  simp [shape, insert, Array.getElem?_push, Nat.ne_of_lt hn]

theorem shape_plainNode? {g : Graph} {v : Json} {n : Node} (h : g.plainNode? v = some n) :
    g.shape n = .foreign v := by
  obtain ⟨i, hFound, rfl⟩ := Option.map_eq_some_iff.mp h
  obtain ⟨hi, hHit, -⟩ := Array.findIdx?_eq_some_iff_getElem.mp hFound
  split at hHit
  · rename_i w hShape
    simp [shape, hi, hShape, Json.eq_of_identical hHit]
  · simp at hHit

theorem shape_place (g : Graph) (s : Shape Node) : (g.place s).1.shape (g.place s).2 = s := by
  unfold place
  split
  · split
    · exact shape_plainNode? ‹_›
    · exact shape_insert g _
  · exact shape_insert g _

theorem shape_replace {g : Graph} {n : Node} (s : Shape Node) (hn : n.index < g.shapes.size) :
    (g.replace n s).shape n = s := by
  simp [shape, replace, hn]

theorem shape_replace_of_ne {g : Graph} {m n : Node} (s : Shape Node) (h : m ≠ n) :
    (g.replace n s).shape m = g.shape m := by
  have hIndex : n.index ≠ m.index := fun he => h (by cases m; cases n; simp_all)
  simp [shape, replace, hIndex]

theorem shape_builtin (b : Builtin) : base.shape b.node = b.shape := by
  cases b <;> rfl

end Graph

end TypeLowering
