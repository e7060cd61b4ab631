import TypeLowering.Proofs.Effects

/-!
# What every session has

Building only adds nodes to a graph (`extends_build`), and a declared node is never one of the builtin
types, so defining it again leaves those alone (`Declares.define`). Every session that can be reached
therefore has the builtin types, whatever was declared, built, bound and redefined before
(`Reached.shape_builtin`).

* `Graph.Extends`: a graph has all nodes of another one, of the same shapes.
* `Session.Reached`: the sessions that starting one and taking steps lead to.
* `graph_step`, `bindings_step`: what a step does to the graph and to the recorded types.
-/

namespace TypeLowering

namespace Graph

/-! ### Graphs that grow -/

/-- A graph has all nodes of another one, of the same shapes. -/
structure Extends (g g' : Graph) : Prop where
  size_le : g.shapes.size ≤ g'.shapes.size
  shape_eq : ∀ n : Node, n.index < g.shapes.size → g'.shape n = g.shape n

namespace Extends

variable {g g' g'' : Graph}

theorem refl (g : Graph) : g.Extends g where
  size_le := Nat.le_refl _
  shape_eq := fun _ _ => rfl

theorem trans (h : g.Extends g') (h' : g'.Extends g'') : g.Extends g'' where
  size_le := Nat.le_trans h.size_le h'.size_le
  shape_eq := fun n hn => by
    rw [h'.shape_eq n (Nat.lt_of_lt_of_le hn h.size_le), h.shape_eq n hn]

end Extends

variable {g : Graph} {names : NodeNames}

theorem extends_insert (g : Graph) (s : Shape Node) : g.Extends (g.insert s).1 where
  size_le := by
    show g.shapes.size ≤ (g.shapes.push s).size
    rw [Array.size_push]
    exact Nat.le_succ _
  shape_eq := fun _ hn => shape_insert_of_lt s hn

/-- A node is placed where it is already or at the end. -/
theorem place_cases (g : Graph) (s : Shape Node) :
    (∃ v n, s = .foreign v ∧ g.shape n = .foreign v ∧ g.place s = (g, n)) ∨
      g.place s = g.insert s := by
  unfold place
  split
  · split
    · exact .inl ⟨_, _, rfl, shape_plainNode? ‹_›, rfl⟩
    · exact .inr rfl
  · exact .inr rfl

theorem extends_place (g : Graph) (s : Shape Node) : g.Extends (g.place s).1 := by
  rcases g.place_cases s with ⟨v, n, -, -, hplace⟩ | hplace
  · rw [hplace]
    exact .refl g
  · rw [hplace]
    exact extends_insert g s

theorem extends_wrap (w : Wrap) (times : Nat) (gn : Graph × Node) :
    gn.1.Extends (wrap w times gn).1 := by
  induction times generalizing gn with
  | zero => exact .refl _
  | succ times ih => exact (extends_insert gn.1 (w.shape gn.2)).trans (ih _)

mutual

/-- **Building a blueprint only adds nodes.** -/
theorem extends_build (names : NodeNames) (g : Graph) : ∀ b : Blueprint,
    g.Extends (g.build names b).1
  | .builtin _ => .refl g
  | .declared _ => .refl g
  | .fresh s => (extends_buildShape names g s).trans (extends_place _ _)
  | .wrapped times w inner => (extends_build names g inner).trans (extends_wrap w times _)

theorem extends_buildShape (names : NodeNames) (g : Graph) : ∀ s : Shape Blueprint,
    g.Extends (g.buildShape names s).1
  | .unknown | .string | .integer | .float | .boolean => .refl g
  | .namedClass _ | .namedModule _ | .custom _ | .foreign _ => .refl g
  | .instanceOf cls => extends_build names g cls
  | .list element => extends_build names g element
  | .set element => extends_build names g element
  | .dict key value => (extends_build names g key).trans (extends_build names _ value)
  | .tuple elements => extends_buildAll names g elements
  | .union alternatives => extends_buildAll names g alternatives
  | .function arrows => extends_buildPairs names g arrows

theorem extends_buildAll (names : NodeNames) (g : Graph) : ∀ bs : List Blueprint,
    g.Extends (g.buildAll names bs).1
  | [] => .refl g
  | b :: rest => (extends_build names g b).trans (extends_buildAll names _ rest)

theorem extends_buildPairs (names : NodeNames) (g : Graph) : ∀ ps : List (Blueprint × Blueprint),
    g.Extends (g.buildPairs names ps).1
  | [] => .refl g
  | (a, b) :: rest =>
    ((extends_build names g a).trans (extends_build names _ b)).trans
      (extends_buildPairs names _ rest)

end

/-! ### Names of nodes -/

/-- The builtin types are the first nodes of every graph, and none of them is a plain value. -/
theorem base_shape_ne_foreign (n : Node) (v : Json) : base.shape n ≠ .foreign v := by
  have hmem : base.shape n = .unknown ∨ base.shape n ∈ base.shapes := by
    unfold shape
    cases h : base.shapes[n.index]? with
    | none => exact .inl rfl
    | some s => exact .inr (Array.mem_of_getElem? h)
  rcases hmem with h | h
  · rw [h]
    exact fun h => by cases h
  · rw [Array.mem_def] at h
    obtain ⟨b, -, hb⟩ := List.mem_map.mp h
    rw [← hb]
    cases b <;> exact fun h => by cases h

/-- A graph has the builtin types, and all names stand for nodes that it has besides them. -/
structure Declares (g : Graph) (names : NodeNames) : Prop where
  extends_base : base.Extends g
  not_builtin : ∀ {name n}, names.find? name = some n → base.shapes.size ≤ n.index
  lt_size : ∀ {name n}, names.find? name = some n → n.index < g.shapes.size

theorem Extends.shape_builtin (h : base.Extends g) (b : Builtin) : g.shape b.node = b.shape := by
  rw [h.shape_eq b.node (by cases b <;> decide), Graph.shape_builtin]

theorem Extends.builtin_lt_size (h : base.Extends g) (b : Builtin) :
    b.node.index < g.shapes.size :=
  Nat.lt_of_lt_of_le (by cases b <;> decide) h.size_le

theorem place_lt_size (g : Graph) (s : Shape Node) :
    (g.place s).2.index < (g.place s).1.shapes.size := by
  rcases g.place_cases s with ⟨v, n, -, hshape, hplace⟩ | hplace
  · rw [hplace]
    refine Nat.lt_of_not_le fun hle => ?_
    rw [shape, Array.getElem?_eq_none hle] at hshape
    cases hshape
  · rw [hplace]
    show g.shapes.size < (g.shapes.push s).size
    rw [Array.size_push]
    exact Nat.lt_succ_self _

theorem size_base_le_place (h : base.Extends g) (s : Shape Node) :
    base.shapes.size ≤ (g.place s).2.index := by
  rcases g.place_cases s with ⟨v, n, -, hshape, hplace⟩ | hplace
  · rw [hplace]
    refine Nat.le_of_not_lt fun hlt => base_shape_ne_foreign n v ?_
    rw [← h.shape_eq n hlt, hshape]
  · rw [hplace]
    exact h.size_le

namespace Declares

variable {g' : Graph} {n : Node}

theorem of_extends (h : g.Declares names) (he : g.Extends g') : g'.Declares names where
  extends_base := h.extends_base.trans he
  not_builtin := h.not_builtin
  lt_size := fun hn => Nat.lt_of_lt_of_le (h.lt_size hn) he.size_le

theorem place (h : g.Declares names) (name : String) (s : Shape Node) :
    (g.place s).1.Declares (names.put name (g.place s).2) where
  extends_base := h.extends_base.trans (extends_place g s)
  not_builtin := by
    intro name' n hn
    rw [Entries.find?_put] at hn
    split at hn
    · cases hn
      exact size_base_le_place h.extends_base s
    · exact h.not_builtin hn
  lt_size := by
    intro name' n hn
    rw [Entries.find?_put] at hn
    split at hn
    · cases hn
      exact place_lt_size g s
    · exact Nat.lt_of_lt_of_le (h.lt_size hn) (extends_place g s).size_le

theorem replace (h : g.Declares names) (hn : base.shapes.size ≤ n.index) (s : Shape Node) :
    (g.replace n s).Declares names where
  extends_base := {
    size_le := by
      show _ ≤ (g.shapes.setIfInBounds n.index s).size
      rw [Array.size_setIfInBounds]
      exact h.extends_base.size_le
    shape_eq := fun m hm => by
      have hne : m ≠ n := fun heq => Nat.not_lt_of_le hn (heq ▸ hm)
      rw [shape_replace_of_ne s hne, h.extends_base.shape_eq m hm] }
  not_builtin := h.not_builtin
  lt_size := fun hm => by
    show _ < (g.shapes.setIfInBounds n.index s).size
    rw [Array.size_setIfInBounds]
    exact h.lt_size hm

/-- **Defining a declared node again leaves the builtin types alone.** -/
theorem define (h : g.Declares names) (name : String) (s : Shape Blueprint) :
    (Graph.define names g name s).Declares names := by
  unfold Graph.define
  cases hn : names.find? name with
  | none => exact h
  | some n => exact (h.of_extends (extends_buildShape names g s)).replace (h.not_builtin hn) _

end Declares

theorem declares_base : base.Declares [] where
  extends_base := .refl base
  not_builtin := fun hn => by cases hn
  lt_size := fun hn => by cases hn

theorem declares_declareNames (nodes : List (String × Shape Blueprint)) (h : g.Declares names) :
    let made := nodes.foldl (fun acc d =>
      let made := acc.1.place (placeholder d.2)
      (made.1, acc.2.put d.1 made.2)) (g, names)
    made.1.Declares made.2 := by
  induction nodes generalizing g names with
  | nil => exact h
  | cons d rest ih => exact ih (h.place d.1 (placeholder d.2))

theorem declares_defineAll (nodes : List (String × Shape Blueprint)) (h : g.Declares names) :
    (nodes.foldl (fun g d => define names g d.1 d.2) g).Declares names := by
  induction nodes generalizing g with
  | nil => exact h
  | cons d rest ih => exact ih (h.define d.1 d.2)

theorem declares_declare (nodes : List (String × Shape Blueprint)) :
    (declare nodes).1.Declares (declare nodes).2 :=
  declares_defineAll nodes (declares_declareNames nodes declares_base)

theorem wrap_lt_size (w : Wrap) (times : Nat) {gn : Graph × Node}
    (h : gn.2.index < gn.1.shapes.size) :
    (wrap w times gn).2.index < (wrap w times gn).1.shapes.size := by
  induction times generalizing gn with
  | zero => exact h
  | succ times ih =>
    refine ih ?_
    show gn.1.shapes.size < (gn.1.shapes.push _).size
    rw [Array.size_push]
    exact Nat.lt_succ_self _

/-- The node of a blueprint is there once it has been built. -/
theorem Declares.build_lt_size (h : g.Declares names) : ∀ b : Blueprint,
    (g.build names b).2.index < (g.build names b).1.shapes.size
  | .builtin b => h.extends_base.builtin_lt_size b
  | .declared name => by
    show ((names.find? name).getD Builtin.unknown.node).index < g.shapes.size
    cases hn : names.find? name with
    | none => exact h.extends_base.builtin_lt_size .unknown
    | some n => exact h.lt_size hn
  | .fresh s => place_lt_size _ _
  | .wrapped times w inner => wrap_lt_size w times (h.build_lt_size inner)

/-! ### Recorded types -/

/-- What is recorded with a type is a node of the graph, and not the null value. -/
def Types (g : Graph) (b : Bindings) : Prop :=
  ∀ key n, Entries.find? b key = some (some n) →
    n.index < g.shapes.size ∧ g.shape n ≠ .foreign .null

theorem type?_eq_some {m n : Node} (h : g.type? m = some n) :
    m = n ∧ g.shape n ≠ .foreign .null := by
  unfold type? at h
  split at h
  · cases h
  · next hne =>
    cases h
    exact ⟨rfl, hne⟩

theorem isClosed_buildShape (names : NodeNames) (g : Graph) (s : Shape Blueprint) :
    (g.buildShape names s).2.isClosed = s.isClosed := by
  cases s <;> rfl

namespace Types

variable {g' : Graph} {b : Bindings} {n : Node}

theorem of_extends (h : g.Types b) (he : g.Extends g') : g'.Types b := by
  intro key n hn
  obtain ⟨hlt, hne⟩ := h key n hn
  exact ⟨Nat.lt_of_lt_of_le hlt he.size_le, by rwa [he.shape_eq n hlt]⟩

theorem put (h : g.Types b) (hn : n.index < g.shapes.size) (key : SyntaxKey) :
    g.Types (Entries.put b key (g.type? n)) := by
  intro key' m hm
  rw [Entries.find?_put] at hm
  split at hm
  · obtain ⟨rfl, hne⟩ := type?_eq_some (Option.some.inj hm)
    exact ⟨hn, hne⟩
  · exact h key' m hm

theorem remove (h : g.Types b) (key : SyntaxKey) : g.Types (Entries.remove b key) := by
  intro key' m hm
  rw [Entries.find?_remove] at hm
  split at hm
  · cases hm
  · exact h key' m hm

theorem replace (h : g.Types b) {s : Shape Node} (hs : s.isClosed = true) (n : Node) :
    (g.replace n s).Types b := by
  intro key m hm
  obtain ⟨hlt, hne⟩ := h key m hm
  refine ⟨?_, ?_⟩
  · show _ < (g.shapes.setIfInBounds n.index s).size
    rwa [Array.size_setIfInBounds]
  · by_cases hmn : m = n
    · subst hmn
      rw [shape_replace s hlt]
      rintro rfl
      cases hs
    · rwa [shape_replace_of_ne s hmn]

theorem define (h : g.Types b) (names : NodeNames) (name : String) {s : Shape Blueprint}
    (hs : s.isClosed = true) : (Graph.define names g name s).Types b := by
  unfold Graph.define
  cases names.find? name with
  | none => exact h
  | some n =>
    exact (h.of_extends (extends_buildShape names g s)).replace
      ((isClosed_buildShape names g s).trans hs) n

end Types

end Graph

/-! ### Sessions -/

namespace Session

variable {s : Session}

/-- The graph after a step. -/
def graphAfter (s : Session) : Step → Graph
  | .redefine name shape =>
    if shape.isClosed then Graph.define s.names s.graph name shape else s.graph
  | .bind _ b => (s.graph.build s.names b).1
  | _ => s.graph

/-- The recorded types after a step. -/
def bindingsAfter (s : Session) : Step → Bindings
  | .bind key b =>
    let built := s.graph.build s.names b
    Entries.put s.bindings key (built.1.type? built.2)
  | .unbind key => Entries.remove s.bindings key
  | _ => s.bindings

/-- **What a step changes** of the graph, of the names and of the recorded types. -/
theorem perform_records (s : Session) (st : Step) :
    (s.perform st).1.graph = s.graphAfter st ∧ (s.perform st).1.names = s.names ∧
      (s.perform st).1.bindings = s.bindingsAfter st := by
  cases st with
  | useSettings =>
    show s.useSettings.1.graph = _ ∧ s.useSettings.1.names = _ ∧ s.useSettings.1.bindings = _
    rcases s.useSettings_cases with ⟨settings, -, huse⟩ | ⟨f, -, -, -, -, huse⟩
    · rw [huse]
      exact ⟨rfl, rfl, rfl⟩
    · rw [huse]
      exact ⟨rfl, rfl, rfl⟩
  | configureLogging level json? =>
    show (s.configureLogging level json?).1.graph = _ ∧
      (s.configureLogging level json?).1.names = _ ∧ (s.configureLogging level json?).1.bindings = _
    rcases s.configureLogging_cases level json? with
      ⟨level', writesJson, -, -, hconfigure⟩ | ⟨f, -, -, -, hconfigure⟩
    · rw [hconfigure]
      exact ⟨rfl, rfl, rfl⟩
    · rw [hconfigure]
      exact ⟨rfl, rfl, rfl⟩
  | settings =>
    show s.readSettings.1.graph = _ ∧ s.readSettings.1.names = _ ∧ s.readSettings.1.bindings = _
    rw [readSettings_fst]
    exact ⟨rfl, rfl, rfl⟩
  | settingsAreKept =>
    show s.readSettings.1.graph = _ ∧ s.readSettings.1.names = _ ∧ s.readSettings.1.bindings = _
    rw [readSettings_fst]
    exact ⟨rfl, rfl, rfl⟩
  | useProfile members =>
    simp only [perform]
    cases Profile.ofMembers members <;> exact ⟨rfl, rfl, rfl⟩
  | redefine name shape =>
    show (s.redefine name shape).graph = _ ∧ (s.redefine name shape).names = _ ∧
      (s.redefine name shape).bindings = _
    simp only [redefine, graphAfter]
    cases shape.isClosed <;> exact ⟨rfl, rfl, rfl⟩
  | setVariable name value =>
    simp only [perform]
    cases s.environment.set name value <;> exact ⟨rfl, rfl, rfl⟩
  | makeSettings fields =>
    simp only [perform]
    split <;> exact ⟨rfl, rfl, rfl⟩
  | collect b =>
    simp only [perform, collect]
    split <;> exact ⟨rfl, rfl, rfl⟩
  | collectTypeOf key =>
    simp only [perform, collect]
    split <;> exact ⟨rfl, rfl, rfl⟩
  | _ => exact ⟨rfl, rfl, rfl⟩

theorem graph_step (s : Session) (st : Step) : (s.step st).1.graph = s.graphAfter st := by
  rw [step_fst]
  exact (s.perform_records st).1

theorem names_step (s : Session) (st : Step) : (s.step st).1.names = s.names := by
  rw [step_fst]
  exact (s.perform_records st).2.1

theorem bindings_step (s : Session) (st : Step) : (s.step st).1.bindings = s.bindingsAfter st := by
  rw [step_fst]
  exact (s.perform_records st).2.2

/-- The sessions that starting one and taking steps lead to. -/
inductive Reached : Session → Prop
  | start (nodes : List (String × Shape Blueprint)) (types : List (SyntaxKey × Blueprint))
      (profile? : Option Profile) (captures : Bool) :
      Reached (start nodes types profile? captures)
  | step {s : Session} (h : Reached s) (st : Step) : Reached (s.step st).1

/-- A session knows of the builtin types, of the declared nodes and of the recorded types. -/
structure Knows (s : Session) : Prop where
  declares : s.graph.Declares s.names
  types : s.graph.Types s.bindings

theorem knows_bindAll (types : List (SyntaxKey × Blueprint)) {names : NodeNames} {g : Graph}
    {b : Bindings} (h : g.Declares names) (hb : g.Types b) :
    let built := types.foldl (fun (acc : Graph × Bindings) t =>
      let n := acc.1.build names t.2
      (n.1, Entries.put acc.2 t.1 (n.1.type? n.2))) (g, b)
    built.1.Declares names ∧ built.1.Types built.2 := by
  induction types generalizing g b with
  | nil => exact ⟨h, hb⟩
  | cons t rest ih =>
    have hgrow := Graph.extends_build names g t.2
    exact ih (h.of_extends hgrow) ((hb.of_extends hgrow).put (h.build_lt_size t.2) t.1)

theorem knows_start (nodes : List (String × Shape Blueprint)) (types : List (SyntaxKey × Blueprint))
    (profile? : Option Profile) (captures : Bool) : (start nodes types profile? captures).Knows := by
  have hdeclared := Graph.declares_declare nodes
  obtain ⟨hdeclares, htypes⟩ := knows_bindAll types hdeclared (b := []) fun _ _ hn => by cases hn
  exact ⟨hdeclares, htypes⟩

theorem Knows.step (h : s.Knows) (st : Step) : (s.step st).1.Knows := by
  obtain ⟨hdeclares, htypes⟩ := h
  refine ⟨?_, ?_⟩
  · rw [graph_step, names_step]
    cases st with
    | redefine name shape =>
      simp only [graphAfter]
      split
      · exact hdeclares.define name shape
      · exact hdeclares
    | bind key b => exact hdeclares.of_extends (Graph.extends_build _ _ b)
    | _ => exact hdeclares
  · rw [graph_step, bindings_step]
    cases st with
    | redefine name shape =>
      simp only [graphAfter, bindingsAfter]
      split
      · next hclosed => exact htypes.define s.names name hclosed
      · exact htypes
    | bind key b =>
      exact (htypes.of_extends (Graph.extends_build _ _ b)).put (hdeclares.build_lt_size b) key
    | unbind key => exact htypes.remove key
    | _ => exact htypes

namespace Reached

/-- **Every session has the builtin types**, and records no null values as types. -/
theorem knows (h : s.Reached) : s.Knows := by
  induction h with
  | start nodes types profile? captures => exact knows_start nodes types profile? captures
  | step _ st ih => exact ih.step st

theorem shape_builtin (h : s.Reached) (b : Builtin) : s.graph.shape b.node = b.shape :=
  h.knows.declares.extends_base.shape_builtin b

end Reached

end Session

end TypeLowering
