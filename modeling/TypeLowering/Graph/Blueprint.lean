import TypeLowering.Graph

/-!
# Blueprints of type graphs

A blueprint says how a node is found or made: a builtin type, a declared node by its name, a fresh
node of a shape, or fresh nodes wrapped around another one many times. Building a blueprint adds its
fresh nodes to a graph, the inner ones first and from left to right. Only a plain value that exists
no more than once gets the node that it has already.
-/

namespace TypeLowering

/-- A container with one place left open. -/
inductive Wrap where
  | list
  | set
  | tuple
  | union
  | dictKey
  | dictValue
  | functionParameter
  | functionResult
  deriving DecidableEq, Repr

/-- The container with a node in its open place. The other place of a dictionary whose key is open
is an integer, that of one whose value is open a string, and so for functions. -/
def Wrap.shape (n : Node) : Wrap → Shape Node
  | .list => .list n
  | .set => .set n
  | .tuple => .tuple [n]
  | .union => .union [n]
  | .dictKey => .dict n Builtin.integer.node
  | .dictValue => .dict Builtin.string.node n
  | .functionParameter => .function [(n, Builtin.integer.node)]
  | .functionResult => .function [(Builtin.string.node, n)]

/-- How a node is found or made. -/
inductive Blueprint where
  | builtin (b : Builtin)
  | declared (name : String)
  | fresh (shape : Shape Blueprint)
  | wrapped (times : Nat) (wrap : Wrap) (inner : Blueprint)

/-- The declared nodes by their names. -/
abbrev NodeNames : Type := Entries String Node

namespace Graph

/-- Wraps a node many times. -/
def wrap (w : Wrap) : Nat → Graph × Node → Graph × Node
  | 0, gn => gn
  | times + 1, gn => wrap w times (gn.1.insert (w.shape gn.2))

mutual

/-- Finds or makes the node of a blueprint. A name that was not declared stands for the unknown
type. -/
def build (names : NodeNames) (g : Graph) : Blueprint → Graph × Node
  | .builtin b => (g, b.node)
  | .declared name => (g, (names.find? name).getD Builtin.unknown.node)
  | .fresh s =>
    let built := buildShape names g s
    built.1.place built.2
  | .wrapped times w inner => wrap w times (build names g inner)

/-- Builds what is inside a shape. -/
def buildShape (names : NodeNames) (g : Graph) : Shape Blueprint → Graph × Shape Node
  | .unknown => (g, .unknown)
  | .string => (g, .string)
  | .integer => (g, .integer)
  | .float => (g, .float)
  | .boolean => (g, .boolean)
  | .namedClass name => (g, .namedClass name)
  | .namedModule name => (g, .namedModule name)
  | .instanceOf cls =>
    let c := build names g cls
    (c.1, .instanceOf c.2)
  | .list element =>
    let e := build names g element
    (e.1, .list e.2)
  | .set element =>
    let e := build names g element
    (e.1, .set e.2)
  | .dict key value =>
    let k := build names g key
    let v := build names k.1 value
    (v.1, .dict k.2 v.2)
  | .tuple elements =>
    let es := buildAll names g elements
    (es.1, .tuple es.2)
  | .union alternatives =>
    let as := buildAll names g alternatives
    (as.1, .union as.2)
  | .function arrows =>
    let ps := buildPairs names g arrows
    (ps.1, .function (ps.1.arrowsOf ps.2))
  | .custom name => (g, .custom name)
  | .foreign value => (g, .foreign value)

/-- Builds blueprints from left to right. -/
def buildAll (names : NodeNames) (g : Graph) : List Blueprint → Graph × List Node
  | [] => (g, [])
  | b :: rest =>
    let n := build names g b
    let ns := buildAll names n.1 rest
    (ns.1, n.2 :: ns.2)

/-- Builds pairs of blueprints from left to right. -/
def buildPairs (names : NodeNames) (g : Graph) :
    List (Blueprint × Blueprint) → Graph × List (Node × Node)
  | [] => (g, [])
  | (a, b) :: rest =>
    let m := build names g a
    let n := build names m.1 b
    let ps := buildPairs names n.1 rest
    (ps.1, (m.2, n.2) :: ps.2)

end

/-- The shape that a declared node has until it is defined. Plain values are there from the start,
because call signatures compare them. -/
def placeholder : Shape Blueprint → Shape Node
  | .foreign value => .foreign value
  | _ => .unknown

/-- Finds or makes the node of each declaration, without what is inside it. -/
def declareNames (g : Graph) (nodes : List (String × Shape Blueprint)) : Graph × NodeNames :=
  nodes.foldl (fun acc d =>
    let made := acc.1.place (placeholder d.2)
    (made.1, acc.2.put d.1 made.2)) (g, [])

/-- Gives a declared node the shape of a blueprint. -/
def define (names : NodeNames) (g : Graph) (name : String) (s : Shape Blueprint) : Graph :=
  match names.find? name with
  | none => g
  | some n =>
    let built := buildShape names g s
    built.1.replace n built.2

/-- The graph of nodes that may refer to each other in any way, with their names. -/
def declare (nodes : List (String × Shape Blueprint)) : Graph × NodeNames :=
  let declared := base.declareNames nodes
  (nodes.foldl (fun g d => define declared.2 g d.1 d.2) declared.1, declared.2)

end Graph

end TypeLowering
