import TypeLowering.Proofs.Position
import TypeLowering.Proofs.Room
import TypeLowering.Proofs.Tour
import TypeLowering.Session

/-!
# Lowering goes by a tour

Lowering comes to the places of the unfolding in the order of a tour and stops at the first one that
offends: at a value that no rule covers, or at a container inside as many others as the limit allows.

* `Traced.GoesBy`: the events and the outcome of a computation are those of a list of stops.
  `lowerBelow_goesBy` says that lowering goes by its tour.
* `outcome_by_tour`: the first stop that offends decides how lowering ends, and a lower limit makes it
  fail for depth or changes nothing.
* `events_by_tour`: the events are those of the stops up to the first that offends.
-/

namespace TypeLowering

/-- The members of a list up to the first of a kind, which is the last of them. -/
def upTo {α : Type} (q : α → Bool) : List α → List α
  | [] => []
  | a :: rest => if q a then [a] else a :: upTo q rest

section UpTo

variable {α : Type} {q : α → Bool}

theorem upTo_of_find?_eq_none {l : List α} (h : l.find? q = none) : upTo q l = l := by
  induction l with
  | nil => rfl
  | cons a l ih =>
    rw [List.find?_cons] at h
    rw [upTo]
    cases ha : q a with
    | true => rw [ha] at h; cases h
    | false =>
      rw [ha] at h
      rw [ih h]
      rfl

theorem upTo_append (q : α → Bool) (l l' : List α) :
    upTo q (l ++ l') = upTo q l ++ if (l.find? q).isSome then [] else upTo q l' := by
  induction l with
  | nil => rfl
  | cons a l ih =>
    rw [List.cons_append, upTo, upTo, List.find?_cons]
    cases ha : q a with
    | true => rfl
    | false =>
      rw [ih]
      rfl

theorem mem_of_mem_upTo {a : α} {l : List α} (h : a ∈ upTo q l) : a ∈ l := by
  induction l with
  | nil => exact h
  | cons b l ih =>
    rw [upTo] at h
    split at h
    · rw [List.mem_singleton.mp h]
      exact List.mem_cons_self
    · rcases List.mem_cons.mp h with rfl | h
      · exact List.mem_cons_self
      · exact List.mem_cons_of_mem _ (ih h)

end UpTo

/-- The kinds of the values that can stand around others. -/
def Kind.ofContainers : List Kind :=
  [.dict, .list, .set, .tuple, .function]

theorem Shape.exists_kind_of_isContainer {ρ : Type} {s : Shape ρ} (h : s.isContainer = true) :
    ∃ k ∈ Kind.ofContainers, s.kind? = some k := by
  cases s <;> first
    | exact ⟨_, by decide, rfl⟩
    | simp [isContainer] at h

namespace Stop

/-- Whether lowering cannot go on at a stop: no rule covers the value, or it is a container inside as
many others as the limit allows. -/
def offends (g : Graph) (limit : Nat) (s : Stop) : Bool :=
  s.node ∉ s.path &&
    (!(g.shape s.node).isClosed || (g.isContainer s.node && decide (limit ≤ s.path.length)))

/-- What is in the way at a stop that offends. -/
def obstacle (g : Graph) (s : Stop) : Obstacle :=
  if (g.shape s.node).isClosed then .tooDeep else .unsupported s.node s.path.length

/-- What is noted at a stop: that its node stands above it already, or else that only the first of
several call signatures is kept. -/
def events (g : Graph) (s : Stop) : List Event :=
  if s.node ∈ s.path then [.cycleCut (g.shape s.node).kind? s.path.length]
  else if 1 < g.arrowCount s.node then [.overloadsCollapsed (g.arrowCount s.node)]
  else []

end Stop

/-- A computation notes what there is at the stops up to the first that offends, and fails for that
one, or has a value if none offends. -/
structure Traced.GoesBy {α : Type} (g : Graph) (limit : Nat) (t : Traced Obstacle α)
    (stops : List Stop) : Prop where
  events : t.events = (upTo (Stop.offends g limit) stops).flatMap (Stop.events g)
  ok : stops.find? (Stop.offends g limit) = none → ∃ a, t.outcome = .ok a
  error : ∀ s, stops.find? (Stop.offends g limit) = some s → t.outcome = .error (s.obstacle g)

/-- The problem that a failure is reported as is of a class, and tells the type of a node. -/
def Failure.IsAbout (g : Graph) (cls : ProblemClass) (n : Node) (f : Failure) : Prop :=
  ∃ q, (f.toFault g).problem? = some q ∧ q.cls = cls ∧
    q.typeName? = some (.text (g.shape n).typeName)

namespace Traced.GoesBy

variable {g : Graph} {limit : Nat} {α β : Type} {s : Stop} {t : Traced Obstacle α}
  {stops : List Stop}

theorem map_outcome {es : List Event} {o : Except Obstacle α} (h : GoesBy g limit ⟨es, o⟩ stops)
    (k : α → β) : GoesBy g limit ⟨es, o.map k⟩ stops where
  events := h.events
  ok := fun hfind => by
    obtain ⟨a, ha⟩ := h.ok hfind
    exact ⟨k a, congrArg (Except.map k) ha⟩
  error := fun s hs => congrArg (Except.map k) (h.error s hs)

/-- A single stop that does not offend. -/
theorem single (hs : s.offends g limit = false) {a : α} :
    GoesBy g limit ⟨s.events g, .ok a⟩ [s] where
  events := by simp [upTo, hs]
  ok := fun _ => ⟨a, rfl⟩
  error := fun s' hs' => by simp [hs] at hs'

/-- Nothing that comes after a stop that offends counts. -/
theorem stuck (hs : s.offends g limit = true) (stops : List Stop) :
    GoesBy (α := α) g limit ⟨s.events g, .error (s.obstacle g)⟩ (s :: stops) where
  events := by simp [upTo, hs]
  ok := fun hfind => by simp [hs] at hfind
  error := fun s' hs' => by
    rw [List.find?_cons, hs] at hs'
    cases hs'
    rfl

/-- Past a stop that does not offend, a computation goes on by the others. -/
theorem cons (hs : s.offends g limit = false) (h : GoesBy g limit t stops) :
    GoesBy g limit ⟨s.events g ++ t.events, t.outcome⟩ (s :: stops) where
  events := by
    rw [upTo, hs, h.events]
    rfl
  ok := fun hfind => by
    rw [List.find?_cons, hs] at hfind
    exact h.ok hfind
  error := fun s' hs' => by
    rw [List.find?_cons, hs] at hs'
    exact h.error s' hs'

/-- Computations on the members of a list go by their stops one after another. -/
theorem each {f : Node → Traced Obstacle α} {stopsAt : Node → Nat → List Stop}
    (h : ∀ m i, GoesBy g limit (f m) (stopsAt m i)) (l : List Node) (k : Nat) :
    GoesBy g limit (Traced.each f l) ((l.zipIdx k).flatMap fun m => stopsAt m.1 m.2) := by
  induction l generalizing k with
  | nil =>
    refine ⟨rfl, fun _ => ⟨[], rfl⟩, fun s hs => ?_⟩
    cases hs
  | cons m l ih =>
    have hm := h m k
    have hl := ih (k + 1)
    rw [List.zipIdx_cons, List.flatMap_cons]
    cases hfind : (stopsAt m k).find? (Stop.offends g limit) with
    | some s =>
      have hfail := hm.error s hfind
      rw [Traced.each_cons_of_error hfail]
      refine ⟨?_, fun hnone => ?_, fun s' hs' => ?_⟩
      · rw [hm.events, upTo_append, hfind]
        simp
      · rw [List.find?_append, hfind] at hnone
        cases hnone
      · rw [List.find?_append, hfind] at hs'
        cases hs'
        rfl
    | none =>
      obtain ⟨a, ha⟩ := hm.ok hfind
      rw [Traced.each_cons_of_ok ha]
      refine ⟨?_, fun hnone => ?_, fun s' hs' => ?_⟩
      · rw [hm.events, hl.events, upTo_append, hfind, List.flatMap_append]
        rfl
      · rw [List.find?_append, hfind, Option.none_or] at hnone
        obtain ⟨as, has⟩ := hl.ok hnone
        exact ⟨a :: as, congrArg (Except.map (a :: ·)) has⟩
      · rw [List.find?_append, hfind, Option.none_or] at hs'
        exact congrArg (Except.map (a :: ·)) (hl.error s' hs')

end Traced.GoesBy

namespace Graph

variable {g : Graph} {p : Profile} {limit room : Nat} {path : List Node} {n root : Node}

/-! ### Lowering -/

theorem arrowCount_eq_zero {n : Node} (h : g.isContainer n = false) : g.arrowCount n = 0 := by
  unfold isContainer at h
  unfold arrowCount
  cases hs : g.shape n with
  | function arrows =>
    rw [hs] at h
    cases arrows with
    | nil => rfl
    | cons => cases h
  | _ => rfl

theorem events_of_not_isContainer (pos : List Nat) (hn : n ∉ path) (h : g.isContainer n = false) :
    Stop.events g ⟨pos, path, n⟩ = [] := by
  simp [Stop.events, hn, arrowCount_eq_zero h]

theorem isContainer_eq_false (h : (g.shape n).isClosed = false) : g.isContainer n = false := by
  cases hcont : g.isContainer n with
  | false => rfl
  | true =>
    rw [Shape.isClosed_of_isContainer hcont] at h
    cases h

/-- **Lowering goes by the tour**: what is noted and how it ends is decided by the stops. -/
theorem lowerBelow_goesBy (g : Graph) (p : Profile) (room : Nat) (path : List Node) (n : Node)
    (pos : List Nat) :
    (g.lowerBelow p room path n).GoesBy g (path.length + room)
      (g.tourBelow p.noneClassName pos path n) := by
  by_cases hn : n ∈ path
  · have hs : Stop.offends g (path.length + room) ⟨pos, path, n⟩ = false := by
      simp [Stop.offends, hn]
    have hevents : Stop.events g ⟨pos, path, n⟩ = [.cycleCut (g.shape n).kind? path.length] := by
      simp [Stop.events, hn]
    rw [lowerBelow_of_mem hn, tourBelow_of_mem hn, ← hevents]
    exact .single hs
  -- a node that is no container and is covered is one stop where nothing happens
  have hleaf : ∀ l : Lowered, (g.shape n).isClosed = true → g.isContainer n = false →
      Traced.GoesBy g (path.length + room) ⟨[], .ok l⟩
        (g.tourBelow p.noneClassName pos path n) := by
    intro l hclosed hcont
    have hs : Stop.offends g (path.length + room) ⟨pos, path, n⟩ = false := by
      simp [Stop.offends, hclosed, hcont]
    rw [tourBelow_of_not_isContainer hcont, ← events_of_not_isContainer pos hn hcont]
    exact .single hs
  cases hf : g.form p.noneClassName n with
  | leaf label =>
    rw [lowerBelow_leaf hn hf]
    obtain ⟨hclosed, hcont, -⟩ := Fits.of_form hf
    exact hleaf _ hclosed hcont
  | bareCall =>
    have hshape : g.shape n = .function [] := Fits.of_form hf
    rw [lowerBelow_bareCall hn hf]
    exact hleaf _ (by rw [hshape]; rfl) (by rw [isContainer, hshape]; rfl)
  | outside =>
    have hclosed : (g.shape n).isClosed = false := Fits.of_form hf
    have hcont := isContainer_eq_false hclosed
    have hs : Stop.offends g (path.length + room) ⟨pos, path, n⟩ = true := by
      simp [Stop.offends, hn, hclosed]
    have hobstacle : Stop.obstacle g ⟨pos, path, n⟩ = .unsupported n path.length := by
      simp [Stop.obstacle, hclosed]
    rw [lowerBelow_outside hn hf, tourBelow_of_not_isContainer hcont,
      ← events_of_not_isContainer pos hn hcont, ← hobstacle]
    exact .stuck hs []
  | branch s cs =>
    obtain ⟨hcont, rfl, -⟩ := Fits.of_form hf
    have hclosed : (g.shape n).isClosed = true := Shape.isClosed_of_isContainer hcont
    have hevents : Stop.events g ⟨pos, path, n⟩ = g.overloadEvents n := by
      simp only [Stop.events, if_neg hn]
      rfl
    rw [tourBelow_of_isContainer hn hcont]
    cases room with
    | zero =>
      have hs : Stop.offends g (path.length + 0) ⟨pos, path, n⟩ = true := by
        simp [Stop.offends, hn, hcont]
      have hobstacle : Stop.obstacle g ⟨pos, path, n⟩ = .tooDeep := by
        simp [Stop.obstacle, hclosed]
      rw [lowerBelow_full hn hf, ← hevents, ← hobstacle]
      exact .stuck hs _
    | succ room =>
      have hs : Stop.offends g (path.length + (room + 1)) ⟨pos, path, n⟩ = false := by
        simp [Stop.offends, hclosed]
      have hlimit : path.length + (room + 1) = (n :: path).length + room := by
        rw [List.length_cons]
        omega
      rw [lowerBelow_branch hn hf, ← hevents]
      have hchild : ∀ m i, (g.lowerBelow p room (n :: path) m).GoesBy g
          (path.length + (room + 1)) (g.tourBelow p.noneClassName (pos ++ [i]) (n :: path) m) :=
        fun m i => hlimit ▸ lowerBelow_goesBy g p room (n :: path) m (pos ++ [i])
      exact ((Traced.GoesBy.each hchild (g.children p.noneClassName n) 0).cons hs).map_outcome _

theorem goesBy_tour (g : Graph) (p : Profile) (limit : Nat) (root : Node) :
    (g.lowerBelow p limit [] root).GoesBy g limit (g.tour p.noneClassName root) := by
  have h := lowerBelow_goesBy g p limit [] root []
  rwa [List.length_nil, Nat.zero_add] at h

/-! ### How lowering ends -/

theorem unsupported_isAbout (g : Graph) (n : Node) (depth : Nat) :
    (Failure.unsupported n depth).IsAbout g .unsupported n :=
  ⟨_, rfl, rfl, rfl⟩

theorem tooDeep_isAbout (g : Graph) (root : Node) :
    (Failure.tooDeep root).IsAbout g .tooDeep root :=
  ⟨_, rfl, rfl, rfl⟩

/-- A lower limit makes lowering fail for depth, or changes nothing. -/
theorem outcome_of_le {limit limit' : Nat} (hle : limit ≤ limit') (root : Node) :
    (g.lowerWithin p limit root).outcome = (g.lowerWithin p limit' root).outcome ∨
      (g.lowerWithin p limit root).outcome = .error (.tooDeep root) := by
  by_cases h : (g.lowerBelow p limit [] root).outcome = .error .tooDeep
  · right
    rw [lowerWithin_outcome, h]
    rfl
  · left
    rw [lowerWithin_outcome, lowerWithin_outcome, lowerBelow_of_le hle h]

/-- **The first stop that offends decides.** The tour of a graph stops at the walks from the root that
leave no node twice, in the lexicographic order of their positions. If the first stop that offends
under a limit has a value that no rule covers, lowering fails for that value; if it is a container that
nests too deeply, lowering fails for the root of all, whose type is told; if no stop offends, lowering
succeeds. So a lower limit makes lowering fail for depth, or changes nothing. -/
theorem outcome_by_tour (g : Graph) (p : Profile) (limit : Nat) (root : Node) :
    let stops := g.tour p.noneClassName root
    let first? := stops.find? (Stop.offends g limit)
    let outcome := (g.lowerWithin p limit root).outcome
    g.IsTour p.noneClassName root stops ∧
    (∀ s, first? = some s → (g.shape s.node).isClosed = false →
      ∃ f, outcome = .error f ∧ f = .unsupported s.node s.path.length ∧
        f.IsAbout g .unsupported s.node) ∧
    (∀ s, first? = some s → (g.shape s.node).isClosed = true →
      ∃ f, outcome = .error f ∧ f = .tooDeep root ∧ f.IsAbout g .tooDeep root) ∧
    (first? = none → ∃ l, outcome = .ok l) ∧
    (∀ limit', limit ≤ limit' → outcome = (g.lowerWithin p limit' root).outcome ∨
      outcome = .error (.tooDeep root)) := by
  intro stops first? outcome
  have hgoes := goesBy_tour g p limit root
  have houtcome : outcome =
      (g.lowerBelow p limit [] root).outcome.mapError (Obstacle.toFailure root) := rfl
  refine ⟨isTour_tour g _ root, ?_, ?_, ?_, fun limit' hle => outcome_of_le hle root⟩
  · intro s hs hclosed
    refine ⟨_, ?_, rfl, unsupported_isAbout g s.node s.path.length⟩
    rw [houtcome, hgoes.error s hs, Stop.obstacle, hclosed]
    rfl
  · intro s hs hclosed
    refine ⟨_, ?_, rfl, tooDeep_isAbout g root⟩
    rw [houtcome, hgoes.error s hs, Stop.obstacle, hclosed]
    rfl
  · intro hnone
    obtain ⟨l, hl⟩ := hgoes.ok hnone
    exact ⟨l, by rw [houtcome, hl]; rfl⟩

/-- Under a limit of three the cycle through `knot` nests too deeply, before lowering comes to the value
that no rule covers; with more room that value is met. -/
theorem outcome_by_tour_knot :
    (knot.lowerWithin {} 3 ⟨13⟩).outcome = .error (.tooDeep ⟨13⟩) ∧
    (knot.lowerWithin {} 3 ⟨13⟩).outcome ≠ (knot.lowerWithin {} 150 ⟨13⟩).outcome := by
  have hdeep : (knot.lowerWithin {} 3 ⟨13⟩).outcome ≠ (knot.lowerWithin {} 150 ⟨13⟩).outcome :=
    fun h => by cases h
  obtain ⟨-, -, -, -, hlimits⟩ := outcome_by_tour knot {} 3 ⟨13⟩
  exact ⟨(hlimits 150 (by decide)).resolve_left hdeep, hdeep⟩

/-! ### What is noted -/

theorem kind_of_mem_path {s : Stop} {c : String} (hs : s ∈ g.tour c root) (hcut : s.node ∈ s.path) :
    (∀ m ∈ s.path, g.isContainer m = true) ∧
      ∃ k ∈ Kind.ofContainers, (g.shape s.node).kind? = some k := by
  obtain ⟨hw, -⟩ := mem_tour.mp hs
  have hpath : ∀ m ∈ s.path, g.isContainer m = true :=
    fun m hm => hw.isContainer_of_mem m (List.mem_reverse.mpr hm)
  exact ⟨hpath, Shape.exists_kind_of_isContainer (hpath s.node hcut)⟩

theorem cycleCut_mem_events {s : Stop} :
    (∃ k depth, Event.cycleCut k depth ∈ s.events g) ↔ s.node ∈ s.path := by
  unfold Stop.events
  constructor
  · rintro ⟨k, depth, hmem⟩
    split at hmem
    · assumption
    · split at hmem <;> simp at hmem
  · intro hcut
    rw [if_pos hcut]
    exact ⟨_, _, List.mem_singleton_self _⟩

/-- **What is noted is what there is at the stops** up to the first that offends, in their order:
parents before children and from left to right. Where the node of a stop stands above it already, that
is a cycle, with the kind of that node and the number of containers above the stop. At any other stop it
is that only the first of several call signatures is kept, ahead of all that is noted inside. So no cycle
is noted exactly if none was cut, and where lowering succeeds it cuts the cycles at all stops that are
below themselves. -/
theorem events_by_tour (g : Graph) (p : Profile) (limit : Nat) (root : Node) :
    let stops := g.tour p.noneClassName root
    let visited := upTo (Stop.offends g limit) stops
    let t := g.lowerWithin p limit root
    g.IsTour p.noneClassName root stops ∧
    t.events = visited.flatMap (Stop.events g) ∧
    (∀ s ∈ visited, s.node ∈ s.path →
      ∃ k ∈ Kind.ofContainers, (g.shape s.node).kind? = some k ∧
        s.events g = [.cycleCut (some k) s.path.length] ∧ 0 < s.path.length ∧
        ∀ m ∈ s.path, g.isContainer m = true) ∧
    (∀ s ∈ visited, s.node ∉ s.path →
      s.events g = if 1 < g.arrowCount s.node then [.overloadsCollapsed (g.arrowCount s.node)]
        else []) ∧
    ((∀ k depth, .cycleCut k depth ∉ t.events) ↔ ∀ s ∈ visited, s.node ∉ s.path) ∧
    (∀ l, t.outcome = .ok l → visited = stops ∧ ∀ s ∈ stops, s.node ∈ s.path →
      l.reference.at? s.position = some (.named p.objectName)) := by
  intro stops visited t
  have hgoes := goesBy_tour g p limit root
  have hevents : t.events = visited.flatMap (Stop.events g) := hgoes.events
  refine ⟨isTour_tour g _ root, hevents, ?_, ?_, ?_, ?_⟩
  · intro s hs hcut
    obtain ⟨hpath, k, hk, hkind⟩ := kind_of_mem_path (mem_of_mem_upTo hs) hcut
    refine ⟨k, hk, hkind, ?_, List.length_pos_of_mem hcut, hpath⟩
    rw [Stop.events, if_pos hcut, hkind]
  · intro s _ hcut
    rw [Stop.events, if_neg hcut]
  · rw [hevents]
    constructor
    · intro h s hs hcut
      obtain ⟨k, depth, hmem⟩ := cycleCut_mem_events.mpr hcut
      exact h k depth (List.mem_flatMap.mpr ⟨s, hs, hmem⟩)
    · intro h k depth hmem
      obtain ⟨s, hs, hmem⟩ := List.mem_flatMap.mp hmem
      exact h s hs (cycleCut_mem_events.mp ⟨k, depth, hmem⟩)
  · intro l hl
    have hnone : stops.find? (Stop.offends g limit) = none := by
      cases hfind : stops.find? (Stop.offends g limit) with
      | none => rfl
      | some s =>
        rw [lowerWithin_outcome, hgoes.error s hfind] at hl
        cases hl
    refine ⟨upTo_of_find?_eq_none hnone, fun s hs hcut => ?_⟩
    obtain ⟨hw, hnd⟩ := mem_tour.mp hs
    obtain ⟨path, a, hpath, ha, hla⟩ :=
      (lowers_of_lowerWithin hl).exists_at?_of_walk hw (List.nodup_reverse.mpr hnd)
    rw [ha, hla.reference_of_mem ((hpath s.node).mpr (List.mem_reverse.mpr hcut))]

/-- The cycle through `knot` is cut below its four containers, and the callable that leads back to it
has a second call signature. -/
theorem events_by_tour_knot :
    ∃ s ∈ upTo (Stop.offends knot 150) (knot.tour "None" ⟨7⟩), s.node ∈ s.path := by
  obtain ⟨-, -, -, -, hcut, -⟩ := events_by_tour knot {} 150 ⟨7⟩
  by_contra hnone
  refine hcut.mpr (fun s hs hmem => hnone ⟨s, hs, hmem⟩) (some .set) 4 ?_
  decide +kernel

end Graph

end TypeLowering
