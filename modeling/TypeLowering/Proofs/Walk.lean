import Mathlib.Data.List.Nodup
import Mathlib.Data.List.Perm.Subperm
import Mathlib.Logic.Relation
import TypeLowering.Graph
import TypeLowering.Profile

/-!
# Walks through a type graph

Lowering walks from a node to its children: the key and the value of a dict, the elements of a list,
a set or a tuple, and of a callable the parameter of the first call signature and its result, unless
that result is the instance that means that there is none.

* `Walk`: a list of indices leads from a node to another through children. The walk lists the nodes
  that it leaves behind.
* `Reaches.exists_walk_nodup`: what can be reached is reached by a walk without repetitions. Cutting
  a walk where it meets a node again therefore hides nothing.
* `Visit`: a walk that is cut where it meets a node again, below containers that are open already.
  `visit_iff` says which walks these are.
-/

namespace TypeLowering

namespace Shape

variable {ρ : Type}

/-- Whether a value is open while the values inside it are lowered. A callable without call
signatures has nothing inside it. -/
def isContainer : Shape ρ → Bool
  | .list _ => true
  | .set _ => true
  | .dict _ _ => true
  | .tuple _ => true
  | .function arrows => !arrows.isEmpty
  | _ => false

/-- The namespace that the variant of a value calls for. -/
def import? : Shape ρ → Option Import
  | .list _ => some .list
  | .set _ => some .set
  | .dict _ _ => some .dict
  | .tuple _ => some .tuple
  | .function _ => some .callable
  | _ => none

theorem isClosed_of_isContainer {s : Shape ρ} (h : s.isContainer = true) : s.isClosed = true := by
  cases s <;> first | rfl | simp [isContainer] at h

end Shape

namespace Graph

/-- The nodes that a node is walked to, in their order. -/
def children (g : Graph) (noneClassName : String) (n : Node) : List Node :=
  match g.shape n with
  | .dict key value => [key, value]
  | .list element => [element]
  | .set element => [element]
  | .tuple elements => elements
  | .function ((parameter, result) :: _) =>
    if g.isInstanceOf noneClassName result then [parameter] else [parameter, result]
  | _ => []

/-- Whether a node is a container. -/
def isContainer (g : Graph) (n : Node) : Bool :=
  (g.shape n).isContainer

/-- A node is reached from another through any number of children. -/
abbrev Reaches (g : Graph) (c : String) : Node → Node → Prop :=
  Relation.ReflTransGen fun m n => n ∈ g.children c m

/-- `g.Walk c n pos above e`: the indices `pos` lead from `n` through children to `e`, past the
nodes `above`, of which `n` is the first. -/
inductive Walk (g : Graph) (c : String) : Node → List Nat → List Node → Node → Prop
  | refl (n : Node) : Walk g c n [] [] n
  | step {n m e : Node} {i : Nat} {pos : List Nat} {above : List Node} :
      (g.children c n)[i]? = some m → Walk g c m pos above e →
      Walk g c n (i :: pos) (n :: above) e

/-- `g.Visit c path n pos above e`: as `Walk`, below the open containers `path`, where no step
leaves a node that is open already. -/
inductive Visit (g : Graph) (c : String) : List Node → Node → List Nat → List Node → Node → Prop
  | here (path : List Node) (n : Node) : Visit g c path n [] [] n
  | step {path : List Node} {n m e : Node} {i : Nat} {pos : List Nat} {above : List Node} :
      n ∉ path → (g.children c n)[i]? = some m → Visit g c (n :: path) m pos above e →
      Visit g c path n (i :: pos) (n :: above) e

variable {g : Graph} {c : String}

/-! ### Containers -/

theorem isContainer_of_mem_children {m n : Node} (h : n ∈ g.children c m) :
    g.isContainer m = true := by
  unfold children at h
  unfold isContainer
  split at h <;> first | (rename_i hs; rw [hs]; rfl) | exact absurd h List.not_mem_nil

theorem import?_isSome_of_isContainer {n : Node} (h : g.isContainer n = true) :
    (g.shape n).import?.isSome = true := by
  unfold isContainer at h
  cases hs : g.shape n <;> rw [hs] at h <;> first | rfl | simp [Shape.isContainer] at h

theorem index_lt_of_import?_isSome {n : Node} (h : (g.shape n).import?.isSome = true) :
    n.index < g.shapes.size := by
  refine Nat.lt_of_not_le fun hn => ?_
  have hs : g.shape n = .unknown := by
    rw [shape, Array.getElem?_eq_none hn, Option.getD_none]
  rw [hs] at h
  cases h

/-- A graph has no more containers than shapes. -/
theorem length_le_size_of_nodup {l : List Node} (hnd : l.Nodup)
    (hl : ∀ n ∈ l, g.isContainer n = true) : l.length ≤ g.shapes.size := by
  have hinj : Function.Injective Node.index := fun m n h => by cases m; cases n; cases h; rfl
  have hsub : l.map Node.index ⊆ List.range g.shapes.size := by
    intro i hi
    obtain ⟨n, hn, rfl⟩ := List.mem_map.mp hi
    exact List.mem_range.mpr (index_lt_of_import?_isSome (import?_isSome_of_isContainer (hl n hn)))
  have hle := (List.subperm_of_subset (hnd.map hinj) hsub).length_le
  rwa [List.length_map, List.length_range] at hle

/-- Among nodes of which none is listed twice, there are no more containers than shapes. -/
theorem countP_isContainer_le {l : List Node} (hnd : l.Nodup) :
    l.countP g.isContainer ≤ g.shapes.size := by
  rw [List.countP_eq_length_filter]
  exact length_le_size_of_nodup (hnd.filter _) fun n hn => (List.mem_filter.mp hn).2

/-! ### Walks -/

namespace Walk

variable {n m e : Node} {pos pos' : List Nat} {above above' : List Node}

theorem trans (h : g.Walk c n pos above m) (h' : g.Walk c m pos' above' e) :
    g.Walk c n (pos ++ pos') (above ++ above') e := by
  induction h with
  | refl => exact h'
  | step hi _ ih => exact .step hi (ih h')

theorem snoc {i : Nat} (h : g.Walk c n pos above m) (hi : (g.children c m)[i]? = some e) :
    g.Walk c n (pos ++ [i]) (above ++ [m]) e :=
  h.trans (.step hi (.refl e))

theorem reaches (h : g.Walk c n pos above e) : g.Reaches c n e := by
  induction h with
  | refl => exact .refl
  | step hi _ ih => exact .head (List.mem_of_getElem? hi) ih

theorem isContainer_of_mem (h : g.Walk c n pos above e) : ∀ k ∈ above, g.isContainer k = true := by
  induction h with
  | refl => exact fun k hk => absurd hk List.not_mem_nil
  | step hi _ ih =>
    intro k hk
    rcases List.mem_cons.mp hk with rfl | hk
    · exact isContainer_of_mem_children (List.mem_of_getElem? hi)
    · exact ih k hk

theorem length_eq (h : g.Walk c n pos above e) : pos.length = above.length := by
  induction h with
  | refl => rfl
  | step _ _ ih => rw [List.length_cons, List.length_cons, ih]

/-- The rest of a walk, from one of the nodes that it leaves behind. -/
theorem drop (h : g.Walk c n pos (above ++ m :: above') e) :
    ∃ pos', g.Walk c m pos' (m :: above') e := by
  induction above generalizing n pos with
  | nil =>
    cases h with
    | step hi h' => exact ⟨_, .step hi h'⟩
  | cons k above ih =>
    cases h with
    | step _ h' => exact ih h'

/-- The start of a walk, up to one of the nodes that it leaves behind. -/
theorem take (h : g.Walk c n pos (above ++ m :: above') e) :
    ∃ pos', g.Walk c n pos' above m := by
  induction above generalizing n pos with
  | nil =>
    cases h with
    | step hi h' => exact ⟨[], .refl _⟩
  | cons k above ih =>
    cases h with
    | step hi h' =>
      obtain ⟨pos', hw⟩ := ih h'
      exact ⟨_, .step hi hw⟩

/-- The nodes of a walk are all reached from its start. -/
theorem reaches_of_mem (h : g.Walk c n pos above e) : ∀ k ∈ above, g.Reaches c n k := by
  intro k hk
  obtain ⟨above', rest, rfl⟩ := List.append_of_mem hk
  obtain ⟨_, hw⟩ := h.take
  exact hw.reaches

end Walk

/-- **What is reached is reached without a detour.** A walk that meets a node twice can leave out
what lies between. -/
theorem Reaches.exists_walk_nodup {n e : Node} (h : g.Reaches c n e) :
    ∃ pos above, g.Walk c n pos above e ∧ (above ++ [e]).Nodup := by
  induction h using Relation.ReflTransGen.head_induction_on with
  | refl => exact ⟨[], [], .refl e, by simp⟩
  | @head n m hm _ ih =>
    obtain ⟨pos, above, hw, hnd⟩ := ih
    obtain ⟨i, hi⟩ := List.mem_iff_getElem?.mp hm
    by_cases hn : n ∈ above
    · -- the walk from `m` comes back to `n`: what it does before that is left out
      obtain ⟨before, after, rfl⟩ := List.append_of_mem hn
      obtain ⟨pos', hw'⟩ := hw.drop
      rw [List.append_assoc] at hnd
      exact ⟨pos', n :: after, hw', (List.nodup_append.mp hnd).2.1⟩
    · by_cases he : n = e
      · subst he
        exact ⟨[], [], .refl n, by simp⟩
      · refine ⟨i :: pos, n :: above, .step hi hw, List.nodup_cons.mpr ⟨?_, hnd⟩⟩
        intro hmem
        rcases List.mem_append.mp hmem with h | h
        · exact hn h
        · exact he (List.mem_singleton.mp h)

/-- A set that holds a node with the children of its members holds all that can be reached. -/
theorem Reaches.mem_of_closed {n e : Node} {S : List Node} (h : g.Reaches c n e) (hn : n ∈ S)
    (hS : ∀ m ∈ S, ∀ k ∈ g.children c m, k ∈ S) : e ∈ S := by
  induction h with
  | refl => exact hn
  | tail _ hstep ih => exact hS _ ih _ hstep

/-! ### Visits -/

/-- The visits are the walks that leave no node twice and none that is open already. -/
theorem visit_iff {path : List Node} {n e : Node} {pos : List Nat} {above : List Node} :
    g.Visit c path n pos above e ↔
      g.Walk c n pos above e ∧ above.Nodup ∧ ∀ m ∈ above, m ∉ path := by
  constructor
  · intro h
    induction h with
    | here path n => exact ⟨.refl n, List.nodup_nil, fun m hm => absurd hm List.not_mem_nil⟩
    | @step path n m e i pos above hn hi _ ih =>
      obtain ⟨hw, hnd, hfresh⟩ := ih
      refine ⟨.step hi hw, List.nodup_cons.mpr ⟨?_, hnd⟩, ?_⟩
      · exact fun hmem => hfresh n hmem (List.mem_cons_self ..)
      · intro k hk
        rcases List.mem_cons.mp hk with rfl | hk
        · exact hn
        · exact fun hp => hfresh k hk (List.mem_cons_of_mem _ hp)
  · rintro ⟨hw, hnd, hfresh⟩
    induction hw generalizing path with
    | refl n => exact .here path n
    | @step n m e i pos above hi _ ih =>
      obtain ⟨hn, hnd⟩ := List.nodup_cons.mp hnd
      refine .step (hfresh n (List.mem_cons_self ..)) hi (ih hnd ?_)
      intro k hk hp
      rcases List.mem_cons.mp hp with rfl | hp
      · exact hn hk
      · exact hfresh k (List.mem_cons_of_mem _ hk) hp

/-- Below nothing, the visits are the walks that leave no node twice. -/
theorem visit_nil_iff {n e : Node} {pos : List Nat} {above : List Node} :
    g.Visit c [] n pos above e ↔ g.Walk c n pos above e ∧ above.Nodup := by
  rw [visit_iff]
  exact ⟨fun h => ⟨h.1, h.2.1⟩, fun h => ⟨h.1, h.2, fun m _ => List.not_mem_nil⟩⟩

/-! ### An example -/

/-- A set (node 7) that holds itself twice, as the values of a dict and as the parameter of a
callable without result. The tuple (node 13) around it also holds a value (node 12) that no rule
covers; the callable has the same value as the result of a call signature that does not count. -/
def knot : Graph :=
  ⟨base.shapes ++ #[.set ⟨8⟩, .tuple [⟨1⟩, ⟨9⟩, ⟨11⟩], .list ⟨10⟩, .dict ⟨2⟩ ⟨7⟩,
    .function [(⟨7⟩, ⟨5⟩), (⟨1⟩, ⟨12⟩)], .custom "FrozenSetType", .tuple [⟨7⟩, ⟨12⟩]]⟩

end Graph

end TypeLowering
