import Mathlib.Data.Set.Card
import Mathlib.Data.Set.Finite.Range
import TypeLowering.Proofs.Machine
import TypeLowering.Proofs.Position
import TypeLowering.Proofs.Unsupported

/-!
# How deep lowering goes

The containers that stand inside each other at any moment are all reached from the root and none of
them is there twice, so they are no more than the containers that can be reached
(`containersFrom`). This bounds the stack of the guard and the height of the reference, and it is
the room with which lowering never fails for depth; `lowering_ends` collects what follows.
-/

namespace TypeLowering

namespace Reference

mutual

/-- How many references stand around the innermost one. -/
def height : Reference → Nat
  | mk _ arguments => heights arguments

/-- How many references stand around the innermost one in any of several arguments. -/
def heights : List Reference → Nat
  | [] => 0
  | r :: rest => max (r.height + 1) (heights rest)

end

mutual

/-- Some position is as long as the reference is high. -/
theorem exists_at?_height : ∀ r : Reference, ∃ pos a, r.at? pos = some a ∧ pos.length = r.height
  | mk name arguments => by
    rcases exists_at?_heights arguments with h | ⟨i, r, pos, a, hi, ha, hlen⟩
    · exact ⟨[], _, rfl, by rw [height, h]; rfl⟩
    · refine ⟨i :: pos, a, ?_, by rw [height, ← hlen]; rfl⟩
      rw [at?_cons]
      show arguments[i]?.bind _ = _
      rw [hi]
      exact ha

theorem exists_at?_heights : ∀ rs : List Reference, heights rs = 0 ∨
    ∃ (i : Nat) (r : Reference) (pos : List Nat) (a : Reference),
      rs[i]? = some r ∧ r.at? pos = some a ∧ pos.length + 1 = heights rs
  | [] => .inl rfl
  | r :: rest => by
    obtain ⟨pos, a, ha, hlen⟩ := exists_at?_height r
    rw [heights]
    rcases Nat.le_total (heights rest) (r.height + 1) with hle | hle
    · rw [Nat.max_eq_left hle]
      exact .inr ⟨0, r, pos, a, rfl, ha, congrArg (· + 1) hlen⟩
    · rw [Nat.max_eq_right hle]
      rcases exists_at?_heights rest with h | ⟨i, r', pos', a', hi, ha', hlen'⟩
      · rw [h] at hle
        exact absurd hle (Nat.not_succ_le_zero _)
      · exact .inr ⟨i + 1, r', pos', a', hi, ha', hlen'⟩

end

end Reference

namespace Graph

/-- The containers that can be reached from a node, itself included. -/
def containersFrom (g : Graph) (c : String) (root : Node) : Set Node :=
  {n | g.Reaches c root n ∧ g.isContainer n = true}

/-- The nodes of generic type that can be reached from a node, itself included: the containers and
the callables of unknown signature. -/
def genericsFrom (g : Graph) (c : String) (root : Node) : Set Node :=
  {n | g.Reaches c root n ∧ (g.shape n).import?.isSome = true}

variable {g : Graph} {c : String} {p : Profile} {root : Node}

theorem containersFrom_subset (g : Graph) (c : String) (root : Node) :
    g.containersFrom c root ⊆ g.genericsFrom c root :=
  fun _ hn => ⟨hn.1, import?_isSome_of_isContainer hn.2⟩

theorem finite_genericsFrom (g : Graph) (c : String) (root : Node) :
    (g.genericsFrom c root).Finite := by
  refine (Set.finite_range fun i : Fin g.shapes.size => (⟨i⟩ : Node)).subset ?_
  rintro n ⟨-, hn⟩
  exact ⟨⟨n.index, index_lt_of_import?_isSome hn⟩, rfl⟩

theorem finite_containersFrom (g : Graph) (c : String) (root : Node) :
    (g.containersFrom c root).Finite :=
  (finite_genericsFrom g c root).subset (containersFrom_subset g c root)

/-- Nodes of a set of which none is listed twice are no more than there are. -/
theorem length_le_ncard {s : Set Node} (hs : s.Finite) {l : List Node} (hnd : l.Nodup)
    (hl : ∀ n ∈ l, n ∈ s) : l.length ≤ s.ncard := by
  rw [← List.toFinset_card_of_nodup hnd, ← Set.ncard_coe_finset]
  refine Set.ncard_le_ncard (fun n hn => ?_) hs
  exact hl n (List.mem_toFinset.mp (Finset.mem_coe.mp hn))

theorem ncard_containersFrom_le (g : Graph) (c : String) (root : Node) :
    (g.containersFrom c root).ncard ≤ g.shapes.size := by
  rw [Set.ncard_eq_toFinset_card _ (finite_containersFrom g c root), ← Finset.length_toList]
  refine length_le_size_of_nodup (g := g) (Finset.nodup_toList _) fun n hn => ?_
  have hn' : n ∈ g.containersFrom c root := by simpa using hn
  exact hn'.2

theorem Walk.mem_containersFrom {pos : List Nat} {above : List Node} {n : Node}
    (hw : g.Walk c root pos above n) : ∀ m ∈ above, m ∈ g.containersFrom c root :=
  fun m hm => ⟨hw.reaches_of_mem m hm, hw.isContainer_of_mem m hm⟩

/-- With room for all containers that can be reached, nothing nests too deeply. -/
theorem not_tooDeep_of_ncard_le {limit : Nat}
    (hlimit : (g.containersFrom p.noneClassName root).ncard ≤ limit) (r : Node) :
    (g.lowerWithin p limit root).outcome ≠ .error (.tooDeep r) := by
  intro h
  obtain ⟨pos, above, e, hw, hnd, hcont, hlen⟩ := exists_walk_of_tooDeep h
  have hle : (above ++ [e]).length ≤ (g.containersFrom p.noneClassName root).ncard := by
    refine length_le_ncard (finite_containersFrom ..) hnd fun n hn => ⟨?_, hcont n hn⟩
    rcases List.mem_append.mp hn with hn | hn
    · exact hw.reaches_of_mem n hn
    · exact List.mem_singleton.mp hn ▸ hw.reaches
  omega

/-- A reference is as high as some walk without repetitions is long, or one higher where the walk
ends at a callable of unknown signature. -/
theorem exists_walk_height {limit : Nat} {l : Lowered}
    (h : (g.lowerWithin p limit root).outcome = .ok l) :
    ∃ pos above n, g.Walk p.noneClassName root pos above n ∧ above.Nodup ∧
      (l.reference.height = above.length ∨
        l.reference.height = above.length + 1 ∧ n ∉ above ∧ g.shape n = .function []) := by
  obtain ⟨pos, a, ha, hlen⟩ := l.reference.exists_at?_height
  have hl := lowers_of_lowerWithin h
  rcases hl.visit_of_at? ha with ⟨above, n, hv⟩ | ⟨pos', i, above, n, rfl, -, hv, -, hn, hs⟩
  · obtain ⟨hw, hnd⟩ := visit_nil_iff.mp hv
    exact ⟨pos, above, n, hw, hnd, .inl (by rw [← hlen, hw.length_eq])⟩
  · obtain ⟨hw, hnd⟩ := visit_nil_iff.mp hv
    refine ⟨pos', above, n, hw, hnd, .inr ⟨?_, hn, hs⟩⟩
    rw [← hlen, List.length_append, hw.length_eq]
    rfl

/-- A reference is at most one higher than there are containers to stand around each other: the
arguments of a callable of unknown signature, which is not counted here, may stand one deeper. -/
theorem height_le_containers {limit : Nat} {l : Lowered}
    (h : (g.lowerWithin p limit root).outcome = .ok l) :
    l.reference.height ≤ (g.containersFrom p.noneClassName root).ncard + 1 := by
  obtain ⟨pos, above, n, hw, hnd, hheight⟩ := exists_walk_height h
  have hle := length_le_ncard (finite_containersFrom ..) hnd hw.mem_containersFrom
  rcases hheight with hheight | ⟨hheight, -, -⟩ <;> omega

/-- A reference is no higher than there are nodes of generic type. -/
theorem height_le_generics {limit : Nat} {l : Lowered}
    (h : (g.lowerWithin p limit root).outcome = .ok l) :
    l.reference.height ≤ (g.genericsFrom p.noneClassName root).ncard := by
  obtain ⟨pos, above, n, hw, hnd, hheight⟩ := exists_walk_height h
  have habove : ∀ m ∈ above, m ∈ g.genericsFrom p.noneClassName root :=
    fun m hm => containersFrom_subset _ _ _ (hw.mem_containersFrom m hm)
  rcases hheight with hheight | ⟨hheight, hn, hs⟩
  · rw [hheight]
    exact length_le_ncard (finite_genericsFrom ..) hnd habove
  · have hnd' : (n :: above).Nodup := List.nodup_cons.mpr ⟨hn, hnd⟩
    rw [hheight, ← List.length_cons]
    refine length_le_ncard (finite_genericsFrom ..) hnd' fun m hm => ?_
    rcases List.mem_cons.mp hm with rfl | hm
    · exact ⟨hw.reaches, by rw [hs]; rfl⟩
    · exact habove m hm

/-! ### Lowering ends -/

/-- At every moment of a run, the containers that are open are among those that can be reached. -/
theorem depth_le_of_runs {s : Machine} (h : Machine.Runs g p (.start root) s) :
    s.guard.depth ≤ (g.containersFrom p.noneClassName root).ncard := by
  have hinv := Machine.inv_of_runs h
  refine length_le_ncard (finite_containersFrom ..) hinv.nodup fun n hn => ?_
  refine ⟨?_, hinv.isContainer n hn⟩
  obtain ⟨before, below, heq⟩ := List.append_of_mem hn
  obtain ⟨pos, hw⟩ := hinv.walk n below ⟨before, heq.symm⟩
  exact hw.reaches

theorem outcome_ne_tooDeep {limit : Nat}
    (hlimit : (g.containersFrom p.noneClassName root).ncard ≤ limit) :
    (g.lowerBelow p limit [] root).outcome ≠ .error .tooDeep := by
  intro h
  refine not_tooDeep_of_ncard_le hlimit root ?_
  rw [lowerWithin_outcome, h]
  rfl

/-- With room enough, a machine ends with what lowering gives, and has left all containers. -/
theorem runs_lowerBelow {limit : Nat}
    (hlimit : (g.containersFrom p.noneClassName root).ncard ≤ limit) :
    ∃ guard : Guard, guard.stack = [] ∧
      Machine.Runs g p (.start root)
        ⟨guard, [], .back (g.lowerBelow p limit [] root).outcome,
          (g.lowerBelow p limit [] root).events⟩ := by
  have hanswers : Machine.Answers g p {} root (g.lowerBelow p limit [] root) :=
    Machine.runs_call (outcome_ne_tooDeep hlimit)
  obtain ⟨guard, hkeeps, hruns⟩ := hanswers [] []
  exact ⟨guard, hkeeps.1, hruns⟩

/-- **Lowering ends**, also without a limit. A machine comes to an end, with what lowering gives
under every limit that leaves room for all containers that can be reached, and never for depth. At
each call on the way the guard holds the nodes of the walk from the root to the node that is called:
containers, none of them twice. So it is never higher than there are containers to be reached, the
reference is at most one level deeper than that, and 150 of them are never too many where 150 may be
nested. -/
theorem lowering_ends (g : Graph) (p : Profile) (root : Node) :
    (∃ (guard : Guard) (outcome : Except Obstacle Lowered) (events : List Event),
      Machine.Runs g p (.start root) ⟨guard, [], .back outcome, events⟩ ∧ guard.stack = [] ∧
      outcome ≠ .error .tooDeep ∧ ∀ limit, (g.containersFrom p.noneClassName root).ncard ≤ limit →
        g.lowerWithin p limit root =
          Traced.mapFailure (Obstacle.toFailure root) ⟨events, outcome⟩) ∧
    (∀ s, Machine.Runs g p (.start root) s →
      s.guard.depth ≤ (g.containersFrom p.noneClassName root).ncard ∧
      ∀ n, s.control = .call n →
        s.guard.stack.Nodup ∧ (∀ m ∈ s.guard.stack, g.isContainer m = true) ∧
        ∃ pos, g.Walk p.noneClassName root pos s.guard.stack.reverse n) ∧
    (∀ limit l, (g.lowerWithin p limit root).outcome = .ok l →
      l.reference.height ≤ (g.containersFrom p.noneClassName root).ncard + 1 ∧
      l.reference.height ≤ (g.genericsFrom p.noneClassName root).ncard) ∧
    ((g.containersFrom p.noneClassName root).ncard ≤ 150 → ∀ limit, 150 ≤ limit →
      ∀ r, (g.lowerWithin p limit root).outcome ≠ .error (.tooDeep r)) := by
  refine ⟨?_, fun s hs => ⟨depth_le_of_runs hs, fun n hn => ?_⟩,
    fun limit l h => ⟨height_le_containers h, height_le_generics h⟩,
    fun hcount limit hlimit => not_tooDeep_of_ncard_le (hcount.trans hlimit)⟩
  · have hruns : ∃ guard : Guard, guard.stack = [] ∧ Machine.Runs g p (.start root) _ :=
      runs_lowerBelow (le_refl (g.containersFrom p.noneClassName root).ncard)
    obtain ⟨guard, hstack, hruns⟩ := hruns
    refine ⟨guard, _, _, hruns, hstack, outcome_ne_tooDeep le_rfl, fun limit hlimit => ?_⟩
    obtain ⟨guard', -, hruns'⟩ := runs_lowerBelow hlimit
    have hsame := hruns.eq_of_ended hruns' (Machine.step_ended ..) (Machine.step_ended ..)
    simp only [Machine.mk.injEq, Control.back.injEq] at hsame
    obtain ⟨-, -, houtcome, hevents⟩ := hsame
    show Traced.mapFailure (Obstacle.toFailure root) (g.lowerBelow p limit [] root) = _
    rw [houtcome, hevents]
  · have hinv := Machine.inv_of_runs hs
    exact ⟨hinv.nodup, hinv.isContainer, hinv.called n hn⟩

/-- The cycles of `knot` nest nothing too deeply. -/
theorem lowering_ends_knot :
    (knot.lowerWithin {} 150 ⟨7⟩).outcome ≠ .error (.tooDeep ⟨7⟩) := by
  have hsize : knot.shapes.size ≤ 150 := by decide
  obtain ⟨-, -, -, hcount⟩ := lowering_ends knot {} ⟨7⟩
  exact hcount ((ncard_containersFrom_le ..).trans hsize) 150 le_rfl ⟨7⟩

end Graph

end TypeLowering
