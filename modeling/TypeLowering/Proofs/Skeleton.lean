import TypeLowering.Proofs.Imports
import TypeLowering.Proofs.Room

/-!
# References before they are named

Lowering asks a profile for two things: for the class that marks a missing result, while it walks the
graph, and for names and namespaces, when it builds references. The walk alone gives a `Skeleton`, in
which labels stand for the names, and events and obstacles are those of the walk
(`lowerBelow_eq_sketch`). A profile then fills in the skeleton: its names make the reference, and its
namespaces the imports, so the two speak of the same tree (`lowering_factors`).
-/

namespace TypeLowering

/-- The namespace that a label needs imported under a profile. -/
def Label.required (p : Profile) : Label → Option String
  | .slot s => p.required s
  | .own _ => none

/-- A reference in which labels stand for the names. -/
inductive Skeleton where
  | mk (label : Label) (arguments : List Skeleton)

namespace Skeleton

variable {α : Type}

mutual

/-- Combines what the labels of a skeleton stand for, from the leaves up. -/
def fold (f : Label → List α → α) : Skeleton → α
  | mk label arguments => f label (foldAll f arguments)

/-- What each of several skeletons is combined to. -/
def foldAll (f : Label → List α → α) : List Skeleton → List α
  | [] => []
  | s :: rest => s.fold f :: foldAll f rest

end

/-- All labels of a skeleton, each before those inside it. -/
def labels : Skeleton → List Label :=
  fold fun label inner => label :: inner.flatten

/-- The reference with the names of a profile. -/
def reference (p : Profile) : Skeleton → Reference :=
  fold fun label => .mk (label.name p)

/-- The imports with the namespaces of a profile. -/
def imports (p : Profile) : Skeleton → Requirement :=
  fold fun label inner => (Requirement.joinAll inner).add (label.required p)

/-- The skeleton with the names and namespaces of a profile. -/
def lowered (p : Profile) (s : Skeleton) : Lowered :=
  ⟨s.reference p, s.imports p⟩

/-- The skeleton that is a label with nothing inside it. -/
def leaf (label : Label) : Skeleton :=
  mk label []

/-- The skeleton of a callable whose signature is unknown. -/
def bareCall : Skeleton :=
  mk (.slot .function) [leaf (.slot .object), leaf (.slot .object)]

variable {p p' : Profile} {label : Label} {arguments : List Skeleton} {s : Skeleton}

theorem foldAll_eq_map (f : Label → List α → α) (l : List Skeleton) :
    foldAll f l = l.map (fold f) := by
  induction l with
  | nil => rfl
  | cons s rest ih => rw [foldAll, ih, List.map_cons]

theorem fold_mk (f : Label → List α → α) (label : Label) (arguments : List Skeleton) :
    (mk label arguments).fold f = f label (arguments.map (fold f)) := by
  rw [fold, foldAll_eq_map]

mutual

theorem induction {motive : Skeleton → Prop}
    (hmk : ∀ label arguments, (∀ s ∈ arguments, motive s) → motive (mk label arguments)) :
    ∀ s, motive s
  | mk label arguments => hmk label arguments (inductionAll hmk arguments)

theorem inductionAll {motive : Skeleton → Prop}
    (hmk : ∀ label arguments, (∀ s ∈ arguments, motive s) → motive (mk label arguments)) :
    ∀ (arguments : List Skeleton), ∀ s ∈ arguments, motive s
  | [], _, hs => absurd hs List.not_mem_nil
  | s :: rest, s', hs =>
    (List.mem_cons.mp hs).elim (fun heq => heq ▸ induction hmk s) (inductionAll hmk rest s')

end

theorem mem_labels_mk {label' : Label} :
    label' ∈ (mk label arguments).labels ↔
      label' = label ∨ ∃ s ∈ arguments, label' ∈ s.labels := by
  rw [labels, fold_mk, List.mem_cons, List.mem_flatten, ← labels]
  simp

@[simp]
theorem mem_labels_leaf {label' : Label} : label' ∈ (leaf label).labels ↔ label' = label := by
  rw [leaf, mem_labels_mk]
  simp

theorem imports_mk :
    (mk label arguments).imports p =
      (Requirement.joinAll (arguments.map (imports p))).add (label.required p) := by
  rw [imports, fold_mk]

theorem lowered_mk :
    (mk label arguments).lowered p =
      ⟨.mk (label.name p) ((arguments.map (lowered p)).map Lowered.reference),
        (Requirement.joinAll ((arguments.map (lowered p)).map Lowered.imports)).add
          (label.required p)⟩ := by
  rw [lowered, imports_mk, reference, fold_mk, List.map_map, List.map_map]
  rfl

theorem mem_imports {x : String} :
    x ∈ (s.imports p).names ↔ ∃ label ∈ s.labels, label.required p = some x := by
  induction s using induction with
  | hmk label arguments ih =>
    rw [imports_mk, Requirement.mem_names_add, Requirement.mem_names_joinAll]
    constructor
    · rintro (⟨r, hr, hx⟩ | hx)
      · obtain ⟨s, hs, rfl⟩ := List.mem_map.mp hr
        obtain ⟨label', hlabel', hx⟩ := (ih s hs).mp hx
        exact ⟨label', mem_labels_mk.mpr (.inr ⟨s, hs, hlabel'⟩), hx⟩
      · exact ⟨label, mem_labels_mk.mpr (.inl rfl), hx⟩
    · rintro ⟨label', hlabel', hx⟩
      rcases mem_labels_mk.mp hlabel' with rfl | ⟨s, hs, hlabel'⟩
      · exact .inr hx
      · exact .inl ⟨s.imports p, List.mem_map_of_mem hs, (ih s hs).mpr ⟨label', hlabel', hx⟩⟩

theorem isProper_imports : (s.imports p).IsProper := by
  induction s using induction with
  | hmk label arguments ih =>
    rw [imports_mk]
    refine (Requirement.isProper_joinAll fun r hr => ?_).add _
    obtain ⟨s, hs, rfl⟩ := List.mem_map.mp hr
    exact ih s hs

theorem imports_ne_empty : s.imports p ≠ some .empty := by
  intro hempty
  have hnone := isProper_imports (congrArg Requirement.names hempty)
  rw [hempty] at hnone
  cases hnone

theorem imports_eq_none_iff :
    s.imports p = none ↔ ∀ label ∈ s.labels, label.required p = none := by
  rw [isProper_imports.eq_none_iff]
  simp only [mem_imports, Option.eq_none_iff_forall_ne_some, not_exists, not_and]
  exact ⟨fun h label hlabel x => h x label hlabel, fun h x label hlabel => h label hlabel x⟩

theorem reference_congr (h : ∀ s, p.name s = p'.name s) : s.reference p = s.reference p' := by
  have hname : Label.name p = Label.name p' := by
    funext label
    cases label with
    | slot s => exact h s
    | own name => rfl
  rw [reference, hname, ← reference]

theorem imports_congr (h : ∀ i, p.namespaceOf i = p'.namespaceOf i) :
    s.imports p = s.imports p' := by
  have hnamespace : p.namespaceOf = p'.namespaceOf := funext h
  have hrequired : Label.required p = Label.required p' := by
    funext label
    cases label with
    | slot s => rw [Label.required, Label.required, Profile.required, Profile.required, hnamespace]
    | own name => rfl
  rw [imports, hrequired, ← imports]

end Skeleton

/-! ### Sketching -/

namespace Traced

variable {ε α β γ : Type}

/-- The same computation with another value. -/
def mapValue (k : α → β) (t : Traced ε α) : Traced ε β :=
  ⟨t.events, t.outcome.map k⟩

theorem mapValue_error {k : α → β} {t : Traced ε α} {e : ε} :
    (t.mapValue k).outcome = .error e ↔ t.outcome = .error e := by
  show t.outcome.map k = _ ↔ _
  cases t.outcome <;> simp [Except.map]

theorem each_mapValue (k : β → γ) (f : α → Traced ε β) (l : List α) :
    each (fun a => (f a).mapValue k) l = (each f l).mapValue (List.map k) := by
  induction l with
  | nil => rfl
  | cons a l ih =>
    cases ha : (f a).outcome with
    | error e =>
      have ha' : ((f a).mapValue k).outcome = .error e := by rw [mapValue, ha]; rfl
      rw [each_cons_of_error ha, each_cons_of_error (f := fun a => (f a).mapValue k) ha']
      rfl
    | ok b =>
      have ha' : ((f a).mapValue k).outcome = .ok (k b) := by rw [mapValue, ha]; rfl
      rw [each_cons_of_ok ha, each_cons_of_ok (f := fun a => (f a).mapValue k) ha', ih]
      show Traced.mk _ _ = mapValue (List.map k) ⟨_, (each f l).outcome.map (b :: ·)⟩
      unfold mapValue
      cases (each f l).outcome <;> rfl

end Traced

namespace Graph

/-- Walks a node as `lowerBelow` does, and gives a skeleton. -/
def sketchBelow (g : Graph) (noneClassName : String) (room : Nat) (path : List Node) (n : Node) :
    Traced Obstacle Skeleton :=
  if n ∈ path then do
    Traced.note (.cycleCut (g.shape n).kind? path.length)
    return .leaf (.slot .object)
  else
    match g.form noneClassName n with
    | .leaf l => return .leaf l
    | .bareCall => return .bareCall
    | .outside => .fail (.unsupported n path.length)
    | .branch s children => do
      Traced.noteAll (g.overloadEvents n)
      match room with
      | 0 => .fail .tooDeep
      | room + 1 =>
        let arguments ← Traced.each (g.sketchBelow noneClassName room (n :: path)) children
        return .mk (.slot s) arguments

variable {g : Graph} {c : String} {p : Profile} {room : Nat} {path : List Node} {n root : Node}

theorem shape_of_own {name : String} (h : g.form c n = .leaf (.own name)) :
    g.shape n = .namedClass name ∨ g.shape n = .namedModule name := by
  unfold form at h
  cases hs : g.shape n with
  | namedClass name' =>
    rw [hs] at h
    cases h
    exact .inl rfl
  | namedModule name' =>
    rw [hs] at h
    cases h
    exact .inr rfl
  | function arrows =>
    rw [hs] at h
    cases arrows with
    | nil => cases h
    | cons arrow rest =>
      simp only at h
      split at h <;> cases h
  | _ =>
    rw [hs] at h
    cases h

theorem sketchBelow_of_mem (hn : n ∈ path) :
    g.sketchBelow c room path n =
      ⟨[.cycleCut (g.shape n).kind? path.length], .ok (.leaf (.slot .object))⟩ := by
  unfold sketchBelow
  rw [if_pos hn]
  rfl

theorem sketchBelow_leaf {label : Label} (hn : n ∉ path) (hf : g.form c n = .leaf label) :
    g.sketchBelow c room path n = ⟨[], .ok (.leaf label)⟩ := by
  unfold sketchBelow
  rw [if_neg hn, hf]
  rfl

theorem sketchBelow_bareCall (hn : n ∉ path) (hf : g.form c n = .bareCall) :
    g.sketchBelow c room path n = ⟨[], .ok .bareCall⟩ := by
  unfold sketchBelow
  rw [if_neg hn, hf]
  rfl

theorem sketchBelow_outside (hn : n ∉ path) (hf : g.form c n = .outside) :
    g.sketchBelow c room path n = ⟨[], .error (.unsupported n path.length)⟩ := by
  unfold sketchBelow
  rw [if_neg hn, hf]
  rfl

theorem sketchBelow_full {s : Slot} {cs : List Node} (hn : n ∉ path)
    (hf : g.form c n = .branch s cs) :
    g.sketchBelow c 0 path n = ⟨g.overloadEvents n, .error .tooDeep⟩ := by
  unfold sketchBelow
  rw [if_neg hn, hf]
  show Traced.mk (g.overloadEvents n ++ []) _ = _
  rw [List.append_nil]
  rfl

theorem sketchBelow_branch {s : Slot} {cs : List Node} (hn : n ∉ path)
    (hf : g.form c n = .branch s cs) :
    g.sketchBelow c (room + 1) path n =
      ⟨g.overloadEvents n ++ (Traced.each (g.sketchBelow c room (n :: path)) cs).events,
        (Traced.each (g.sketchBelow c room (n :: path)) cs).outcome.map (.mk (.slot s))⟩ := by
  conv => lhs; unfold sketchBelow
  rw [if_neg hn, hf]
  show Traced.bind (Traced.noteAll _) (fun _ => Traced.bind _ _) = _
  unfold Traced.bind
  cases (Traced.each (g.sketchBelow c room (n :: path)) cs).outcome <;>
    simp [Traced.noteAll, pure, Traced.pure, Except.map]

/-- Names of its own has a skeleton only from classes and modules that can be reached. -/
theorem exists_named_of_own {room : Nat} {path : List Node} {n : Node} {s : Skeleton} {name : String}
    (h : (g.sketchBelow c room path n).outcome = .ok s) (hname : .own name ∈ s.labels) :
    ∃ e, g.Reaches c n e ∧ (g.shape e = .namedClass name ∨ g.shape e = .namedModule name) := by
  by_cases hn : n ∈ path
  · rw [sketchBelow_of_mem hn] at h
    cases h
    cases Skeleton.mem_labels_leaf.mp hname
  cases hf : g.form c n with
  | leaf label =>
    rw [sketchBelow_leaf hn hf] at h
    cases h
    obtain rfl := Skeleton.mem_labels_leaf.mp hname
    exact ⟨n, .refl, shape_of_own hf⟩
  | bareCall =>
    rw [sketchBelow_bareCall hn hf] at h
    cases h
    simp [Skeleton.bareCall, Skeleton.mem_labels_mk] at hname
  | outside =>
    rw [sketchBelow_outside hn hf] at h
    cases h
  | branch slot cs =>
    cases room with
    | zero =>
      rw [sketchBelow_full hn hf] at h
      cases h
    | succ room =>
      rw [sketchBelow_branch hn hf] at h
      cases ho : (Traced.each (g.sketchBelow c room (n :: path)) cs).outcome with
      | error o =>
        rw [ho] at h
        cases h
      | ok arguments =>
        rw [ho] at h
        cases h
        obtain hslot | ⟨s, hs, hname⟩ := Skeleton.mem_labels_mk.mp hname
        · cases hslot
        obtain ⟨hlen, hall⟩ := Traced.each_ok ho
        obtain ⟨i, hi⟩ := List.mem_iff_getElem?.mp hs
        obtain ⟨m, hm⟩ := exists_opposite hlen.symm hi
        -- the arguments are sketched with less room: this is an induction on `room`
        obtain ⟨e, he, hshape⟩ := exists_named_of_own (hall i m s hm hi) hname
        exact ⟨e, .head (children_of_form hf ▸ List.mem_of_getElem? hm) he, hshape⟩

/-! ### Lowering and sketching -/

theorem required_of_leaf {label : Label} (h : g.form c n = .leaf label) :
    label.required p = none := by
  unfold form at h
  split at h <;> first | (cases h; rfl) | (split at h <;> cases h) | cases h

theorem leaf_eq_lowered {label : Label} (h : label.required p = none) :
    Lowered.leaf p label = (Skeleton.leaf label).lowered p := by
  rw [Skeleton.leaf, Skeleton.lowered_mk, h]
  rfl

theorem branch_eq_lowered (p : Profile) (s : Slot) (arguments : List Skeleton) :
    Lowered.branch p s (arguments.map (Skeleton.lowered p)) =
      (Skeleton.mk (.slot s) arguments).lowered p := by
  rw [Skeleton.lowered_mk]
  rfl

/-- **Lowering is sketching**, with the names and namespaces of the profile filled in. -/
theorem lowerBelow_eq_sketch (g : Graph) (p : Profile) (room : Nat) (path : List Node) (n : Node) :
    g.lowerBelow p room path n =
      (g.sketchBelow p.noneClassName room path n).mapValue (Skeleton.lowered p) := by
  by_cases hn : n ∈ path
  · rw [lowerBelow_of_mem hn, sketchBelow_of_mem hn]
    rfl
  cases hf : g.form p.noneClassName n with
  | leaf label =>
    rw [lowerBelow_leaf hn hf, sketchBelow_leaf hn hf, leaf_eq_lowered (required_of_leaf hf)]
    rfl
  | bareCall =>
    rw [lowerBelow_bareCall hn hf, sketchBelow_bareCall hn hf]
    rfl
  | outside =>
    rw [lowerBelow_outside hn hf, sketchBelow_outside hn hf]
    rfl
  | branch s cs =>
    cases room with
    | zero =>
      rw [lowerBelow_full hn hf, sketchBelow_full hn hf]
      rfl
    | succ room =>
      have hcs : Traced.each (g.lowerBelow p room (n :: path)) cs =
          (Traced.each (g.sketchBelow p.noneClassName room (n :: path)) cs).mapValue
            (List.map (Skeleton.lowered p)) := by
        rw [← Traced.each_mapValue]
        exact Traced.each_congr fun m _ => lowerBelow_eq_sketch g p room (n :: path) m
      rw [lowerBelow_branch hn hf, hcs, sketchBelow_branch hn hf]
      generalize Traced.each (g.sketchBelow p.noneClassName room (n :: path)) cs = t
      obtain ⟨events, outcome⟩ := t
      cases outcome with
      | error o => rfl
      | ok arguments =>
        exact congrArg (fun l => Traced.mk _ (Except.ok l)) (branch_eq_lowered p s arguments)

/-- Walks a node with room for everything, and gives a skeleton. -/
def sketch (g : Graph) (noneClassName : String) (root : Node) : Traced Obstacle Skeleton :=
  g.sketchBelow noneClassName g.shapes.size [] root

/-- What a node is lowered to is its skeleton filled in, whatever the limit. -/
theorem exists_sketch_of_lowerWithin {limit : Nat} {l : Lowered}
    (h : (g.lowerWithin p limit root).outcome = .ok l) :
    ∃ s, (g.sketch p.noneClassName root).outcome = .ok s ∧ l = s.lowered p := by
  rw [lowerWithin_outcome] at h
  have hdeep : (g.lowerBelow p limit [] root).outcome ≠ .error .tooDeep := by
    intro hdeep
    rw [hdeep] at h
    cases h
  have hsize : (g.lowerBelow p g.shapes.size [] root).outcome ≠ .error .tooDeep :=
    (nestsWithin_size g p.noneClassName root).ne_tooDeep
  rw [lowerBelow_eq_of_ne_tooDeep hdeep hsize, lowerBelow_eq_sketch, ← sketch] at h
  unfold Traced.mapValue at h
  cases hs : (g.sketch p.noneClassName root).outcome with
  | error o =>
    rw [hs] at h
    cases h
  | ok s =>
    rw [hs] at h
    cases h
    exact ⟨s, rfl, rfl⟩

theorem lowerWithin_eq_sketch (g : Graph) (p : Profile) (limit : Nat) (root : Node) :
    g.lowerWithin p limit root =
      ((g.sketchBelow p.noneClassName limit [] root).mapFailure (Obstacle.toFailure root)).mapValue
        (Skeleton.lowered p) := by
  unfold lowerWithin
  rw [lowerBelow_eq_sketch]
  unfold Traced.mapFailure Traced.mapValue
  cases (g.sketchBelow p.noneClassName limit [] root).outcome <;> rfl

/-- One skeleton serves all profiles with one name for the class that marks a missing result. -/
theorem exists_skeleton (g : Graph) (c : String) (root : Node) :
    ∃ s : Skeleton,
      (∀ name, .own name ∈ s.labels →
        ∃ n, g.Reaches c root n ∧ (g.shape n = .namedClass name ∨ g.shape n = .namedModule name)) ∧
      ∀ p : Profile, p.noneClassName = c → ∀ limit l,
        (g.lowerWithin p limit root).outcome = .ok l → l = s.lowered p := by
  cases hs : (g.sketch c root).outcome with
  | ok s =>
    refine ⟨s, fun name hname => exists_named_of_own hs hname, ?_⟩
    rintro p rfl limit l hl
    obtain ⟨s', hs', rfl⟩ := exists_sketch_of_lowerWithin hl
    cases hs.symm.trans hs'
    rfl
  | error o =>
    -- no profile lowers the node, and any skeleton will do
    refine ⟨.leaf (.slot .object), fun name hname => ?_, ?_⟩
    · cases Skeleton.mem_labels_leaf.mp hname
    · rintro p rfl limit l hl
      obtain ⟨s', hs', -⟩ := exists_sketch_of_lowerWithin hl
      cases hs.symm.trans hs'

/-- **Reference and imports speak of one tree.** For a node and a name of the class that marks a
missing result there is one skeleton, with names of its own only from classes and modules that can be
reached. Whatever profile lowers the node, the reference is the skeleton with the names of the
profile, and the imports are the namespaces of the labels in it, absent if there are none. Two
profiles note the same events and have the same failures; they give the same reference if their names
agree, and the same imports if their namespaces do. -/
theorem lowering_factors (g : Graph) (c : String) (root : Node) :
    (∃ s : Skeleton,
      (∀ name, .own name ∈ s.labels →
        ∃ n, g.Reaches c root n ∧ (g.shape n = .namedClass name ∨ g.shape n = .namedModule name)) ∧
      ∀ p : Profile, p.noneClassName = c → ∀ limit l,
        (g.lowerWithin p limit root).outcome = .ok l →
          l.reference = s.reference p ∧
          (∀ x, x ∈ l.imports.names ↔ ∃ label ∈ s.labels, label.required p = some x) ∧
          (l.imports = none ↔ ∀ label ∈ s.labels, label.required p = none) ∧
          l.imports ≠ some .empty) ∧
    ∀ p p' : Profile, p.noneClassName = c → p'.noneClassName = c → ∀ limit,
      (g.lowerWithin p limit root).events = (g.lowerWithin p' limit root).events ∧
      (∀ f, (g.lowerWithin p limit root).outcome = .error f ↔
        (g.lowerWithin p' limit root).outcome = .error f) ∧
      ∀ l l', (g.lowerWithin p limit root).outcome = .ok l →
        (g.lowerWithin p' limit root).outcome = .ok l' →
          ((∀ s, p.name s = p'.name s) → l.reference = l'.reference) ∧
          ((∀ i, p.namespaceOf i = p'.namespaceOf i) → l.imports = l'.imports) := by
  obtain ⟨s, hown, hs⟩ := exists_skeleton g c root
  refine ⟨⟨s, hown, fun p hp limit l hl => ?_⟩, fun p p' hp hp' limit => ⟨?_, fun f => ?_, ?_⟩⟩
  · obtain rfl := hs p hp limit l hl
    exact ⟨rfl, fun x => Skeleton.mem_imports, Skeleton.imports_eq_none_iff,
      Skeleton.imports_ne_empty⟩
  · rw [lowerWithin_eq_sketch, lowerWithin_eq_sketch, hp, hp']
    rfl
  · rw [lowerWithin_eq_sketch, lowerWithin_eq_sketch, hp, hp', Traced.mapValue_error,
      Traced.mapValue_error]
  · intro l l' hl hl'
    obtain rfl := hs p hp limit l hl
    obtain rfl := hs p' hp' limit l' hl'
    exact ⟨fun h => Skeleton.reference_congr h, fun h => Skeleton.imports_congr h⟩

/-- Other namespaces leave the reference of the set in `knot` as it is. -/
theorem lowering_factors_knot : ∃ l l',
    (knot.lowerWithin {} 150 ⟨7⟩).outcome = .ok l ∧
    (knot.lowerWithin { setNamespace := none, callableNamespace := some "Calls" } 150 ⟨7⟩).outcome =
      .ok l' ∧
    l.reference = l'.reference ∧ l.imports ≠ l'.imports := by
  obtain ⟨-, hboth⟩ := lowering_factors knot "None" ⟨7⟩
  have hl : (knot.lowerWithin {} 150 ⟨7⟩).outcome = .ok _ := rfl
  have hl' : (knot.lowerWithin { setNamespace := none, callableNamespace := some "Calls" }
    150 ⟨7⟩).outcome = .ok _ := rfl
  obtain ⟨-, -, hsame⟩ :=
    hboth {} { setNamespace := none, callableNamespace := some "Calls" } rfl rfl 150
  exact ⟨_, _, hl, hl', (hsame _ _ hl hl').1 (fun s => by cases s <;> rfl), by decide⟩

end Graph

end TypeLowering
