import Mathlib.Data.Finset.Card
import Mathlib.Data.List.Lex
import TypeLowering.Proofs.Walk

/-!
# The unfolding of a graph, stop by stop

A graph is unfolded from a root into a tree that is cut where a node is met again inside itself. A tour
stops at every place of this tree, parents before children and from left to right.

* `Graph.tourBelow`: the stops from a node on, below containers that are open already. It comes to an
  end because every container that it opens was not open before (`card_unopened_lt`); `induction_below`
  is the induction that goes with it.
* `isTour_tour`: the places are the walks that are cut where they meet a node again, and their positions
  stand in lexicographic order.
-/

namespace TypeLowering

/-- A place of the unfolding: the indices that lead to it, the nodes above it, innermost first, and
the node that stands there. -/
structure Stop where
  position : List Nat
  path : List Node
  node : Node

namespace Graph

/-- The indices of the nodes that are not open yet. -/
def unopened (g : Graph) (path : List Node) : Finset Nat :=
  Finset.range g.shapes.size \ (path.map Node.index).toFinset

theorem card_unopened_lt {g : Graph} {path : List Node} {n : Node} (hn : n ∉ path)
    (hcont : g.isContainer n = true) : (g.unopened (n :: path)).card < (g.unopened path).card := by
  refine Finset.card_lt_card (Finset.ssubset_iff_subset_ne.mpr ⟨?_, fun heq => ?_⟩)
  · intro i hi
    simp only [unopened, List.map_cons, List.toFinset_cons, Finset.mem_sdiff, Finset.mem_insert,
      not_or] at hi ⊢
    exact ⟨hi.1, hi.2.2⟩
  · have hlt := index_lt_of_import?_isSome (import?_isSome_of_isContainer hcont)
    have hfresh : n.index ∉ path.map Node.index := by
      intro hmem
      obtain ⟨m, hm, hindex⟩ := List.mem_map.mp hmem
      have hmn : m = n := by cases m; cases n; cases hindex; rfl
      exact hn (hmn ▸ hm)
    have hmem : n.index ∈ g.unopened path := by
      simp only [unopened, Finset.mem_sdiff, Finset.mem_range, List.mem_toFinset]
      exact ⟨hlt, hfresh⟩
    rw [← heq] at hmem
    simp [unopened] at hmem

/-- The stops of the unfolding from a node on, which stands at `pos` below the open containers `path`.
What stands inside a node that is open already is not visited. -/
def tourBelow (g : Graph) (c : String) (pos : List Nat) (path : List Node) (n : Node) : List Stop :=
  ⟨pos, path, n⟩ ::
    if h : n ∉ path ∧ g.isContainer n = true then
      (g.children c n).zipIdx.flatMap fun m => tourBelow g c (pos ++ [m.2]) (n :: path) m.1
    else []
termination_by (g.unopened path).card
decreasing_by exact card_unopened_lt h.1 h.2

/-- The stops of the unfolding from a root on. -/
def tour (g : Graph) (c : String) (root : Node) : List Stop :=
  g.tourBelow c [] [] root

variable {g : Graph} {c : String} {path : List Node} {n m e root : Node} {pos : List Nat}

/-- What holds of a node if it holds of everything below it once it is open, holds of all nodes. -/
theorem induction_below {motive : List Node → Node → Prop}
    (h : ∀ path n, (n ∉ path → g.isContainer n = true → ∀ m, motive (n :: path) m) →
      motive path n) (path : List Node) (n : Node) : motive path n :=
  h path n fun _ _ m => induction_below h (n :: path) m
termination_by (g.unopened path).card
decreasing_by exact card_unopened_lt ‹_› ‹_›

theorem tourBelow_of_mem (h : n ∈ path) : g.tourBelow c pos path n = [⟨pos, path, n⟩] := by
  rw [tourBelow, dif_neg fun hn => hn.1 h]

theorem tourBelow_of_not_isContainer (h : g.isContainer n = false) :
    g.tourBelow c pos path n = [⟨pos, path, n⟩] := by
  rw [tourBelow, dif_neg fun hn => by rw [h] at hn; cases hn.2]

theorem tourBelow_of_isContainer (hn : n ∉ path) (h : g.isContainer n = true) :
    g.tourBelow c pos path n = ⟨pos, path, n⟩ ::
      (g.children c n).zipIdx.flatMap fun m => g.tourBelow c (pos ++ [m.2]) (n :: path) m.1 := by
  rw [tourBelow, dif_pos ⟨hn, h⟩]

/-! ### The places of the unfolding -/

theorem mem_tourBelow_of_visit {above : List Node} (hv : g.Visit c path n pos above e)
    (pos₀ : List Nat) : ⟨pos₀ ++ pos, above.reverse ++ path, e⟩ ∈ g.tourBelow c pos₀ path n := by
  induction hv generalizing pos₀ with
  | here path n =>
    rw [tourBelow, List.append_nil]
    exact List.mem_cons_self
  | @step path n m e i pos above hn hi _ ih =>
    have hcont := isContainer_of_mem_children (List.mem_of_getElem? hi)
    rw [tourBelow_of_isContainer hn hcont]
    refine List.mem_cons_of_mem _ (List.mem_flatMap.mpr ⟨(m, i), ?_, ?_⟩)
    · exact List.mem_zipIdx_iff_getElem?.mpr hi
    · have hmem := ih (pos₀ ++ [i])
      rw [List.append_assoc] at hmem
      rw [List.reverse_cons, List.append_assoc]
      exact hmem

theorem visit_of_mem_tourBelow (path : List Node) (n : Node) : ∀ pos₀, ∀ s ∈ g.tourBelow c pos₀ path n,
    ∃ pos above, s.position = pos₀ ++ pos ∧ s.path = above.reverse ++ path ∧
      g.Visit c path n pos above s.node := by
  induction path, n using induction_below (g := g) with
  | h path n ih =>
    intro pos₀ s hs
    rw [tourBelow] at hs
    rcases List.mem_cons.mp hs with rfl | hs
    · exact ⟨[], [], (List.append_nil _).symm, rfl, .here path n⟩
    · split at hs
      · next h =>
        obtain ⟨⟨m, i⟩, hm, hs⟩ := List.mem_flatMap.mp hs
        obtain ⟨pos, above, hpos, hpath, hv⟩ := ih h.1 h.2 m (pos₀ ++ [i]) s hs
        refine ⟨i :: pos, n :: above, ?_, ?_, ?_⟩
        · rw [hpos, List.append_assoc]
          rfl
        · rw [hpath, List.reverse_cons, List.append_assoc]
          rfl
        · exact .step h.1 (List.mem_zipIdx_iff_getElem?.mp hm) hv
      · cases hs

/-- **The places of the unfolding** are the walks that leave no node twice. -/
theorem mem_tour {s : Stop} :
    s ∈ g.tour c root ↔ g.Walk c root s.position s.path.reverse s.node ∧ s.path.Nodup := by
  constructor
  · intro hs
    obtain ⟨pos, above, hpos, hpath, hv⟩ := visit_of_mem_tourBelow [] root [] s hs
    obtain ⟨hw, hnd⟩ := visit_nil_iff.mp hv
    rw [List.append_nil] at hpath
    rw [hpos, hpath, List.reverse_reverse]
    exact ⟨hw, List.nodup_reverse.mpr hnd⟩
  · rintro ⟨hw, hnd⟩
    have hv := visit_nil_iff.mpr ⟨hw, List.nodup_reverse.mpr hnd⟩
    have hmem := mem_tourBelow_of_visit hv []
    rwa [List.reverse_reverse, List.append_nil] at hmem

/-! ### Their order -/

theorem lex_append_of_lt {i j : Nat} (hij : i < j) (pos pos' pos₀ : List Nat) :
    List.Lex (· < ·) (pos₀ ++ [i] ++ pos) (pos₀ ++ [j] ++ pos') := by
  rw [List.append_assoc, List.append_assoc]
  exact List.Lex.append_left _ (.rel hij) pos₀

theorem pairwise_tourBelow (path : List Node) (n : Node) : ∀ pos₀,
    (g.tourBelow c pos₀ path n).Pairwise fun s t => List.Lex (· < ·) s.position t.position := by
  induction path, n using induction_below (g := g) with
  | h path n ih =>
    intro pos₀
    by_cases h : n ∉ path ∧ g.isContainer n = true
    · rw [tourBelow_of_isContainer h.1 h.2]
      have hbelow : ∀ m ∈ (g.children c n).zipIdx,
          ∀ s ∈ g.tourBelow c (pos₀ ++ [m.2]) (n :: path) m.1,
            ∃ pos, s.position = pos₀ ++ [m.2] ++ pos := by
        intro m _ s hs
        obtain ⟨pos, -, hpos, -⟩ := visit_of_mem_tourBelow _ _ _ s hs
        exact ⟨pos, hpos⟩
      refine List.pairwise_cons.mpr ⟨?_, List.pairwise_flatMap.mpr ⟨fun m _ => ?_, ?_⟩⟩
      · intro s hs
        obtain ⟨m, hm, hs⟩ := List.mem_flatMap.mp hs
        obtain ⟨pos, hpos⟩ := hbelow m hm s hs
        rw [hpos, List.append_assoc]
        have hlex := List.Lex.append_left (· < ·) (.nil (a := m.2) (l := pos)) pos₀
        rwa [List.append_nil] at hlex
      · exact ih h.1 h.2 m.1 (pos₀ ++ [m.2])
      · have horder : (g.children c n).zipIdx.Pairwise fun m m' => m.2 < m'.2 := by
          refine List.pairwise_map.mp ?_
          rw [List.zipIdx_map_snd]
          exact List.pairwise_lt_range'
        refine horder.imp_of_mem fun {m m'} hm hm' hlt s hs t ht => ?_
        obtain ⟨pos, hpos⟩ := hbelow m hm s hs
        obtain ⟨pos', hpos'⟩ := hbelow m' hm' t ht
        rw [hpos, hpos']
        exact lex_append_of_lt hlt pos pos' pos₀
    · rw [tourBelow, dif_neg h]
      exact List.pairwise_singleton _ _

/-- **A tour goes from left to right**, parents before children: its stops stand in the lexicographic
order of their positions. -/
theorem pairwise_tour (g : Graph) (c : String) (root : Node) :
    (g.tour c root).Pairwise fun s t => List.Lex (· < ·) s.position t.position :=
  pairwise_tourBelow [] root []

/-- The stops are the walks from a root that leave no node twice, each once, parents before children and
from left to right. -/
structure IsTour (g : Graph) (c : String) (root : Node) (stops : List Stop) : Prop where
  mem_iff : ∀ s, s ∈ stops ↔ g.Walk c root s.position s.path.reverse s.node ∧ s.path.Nodup
  order : stops.Pairwise fun s t => List.Lex (· < ·) s.position t.position

theorem isTour_tour (g : Graph) (c : String) (root : Node) : g.IsTour c root (g.tour c root) where
  mem_iff _ := mem_tour
  order := pairwise_tour g c root

end Graph

end TypeLowering
