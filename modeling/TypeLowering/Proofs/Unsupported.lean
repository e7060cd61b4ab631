import TypeLowering.Proofs.Outcome

/-!
# Values that no rule covers

A node outside the closed set of variants makes lowering fail exactly when it can be reached, and of
several the first one on the way counts: positions are compared in lexicographic order, which is the
order in which lowering comes to them, parents before children and from left to right.

* `Lowers.isClosed_of_visit`: where there is a reference, every node of every walk is covered.
* `Blocked.exists_first`: a value that is refused ends a walk, and no other such walk comes before.
* `Blocked.exists_deep`: what nests too deeply is a walk without repetitions through one container
  more than there is room for.
* `outcome_lowerWithin`: the three facts together, for graphs without such deep walks.
-/

namespace TypeLowering

namespace Graph

variable {g : Graph} {p : Profile} {path : List Node} {n e : Node} {pos : List Nat}
  {above : List Node}

/-- Where there is a reference, every node that a walk comes to is covered by a rule. -/
theorem Lowers.isClosed_of_visit (hv : g.Visit p.noneClassName path n pos above e) (he : e ∉ path)
    {l : Lowered} (h : g.Lowers p path n l) : (g.shape e).isClosed = true := by
  induction hv generalizing l with
  | here path n =>
    cases h with
    | cut hn => exact absurd hn he
    | leaf _ hf =>
      obtain ⟨hclosed, -⟩ := hf
      exact hclosed
    | bareCall _ hf =>
      have hs : g.shape n = .function [] := hf
      rw [hs]
      rfl
    | branch _ hf _ _ =>
      obtain ⟨hcont, -⟩ := hf
      exact Shape.isClosed_of_isContainer hcont
  | @step path n m e i pos above hn hi _ ih =>
    by_cases hen : e = n
    · subst hen
      exact Shape.isClosed_of_isContainer (isContainer_of_mem_children (List.mem_of_getElem? hi))
    · obtain ⟨s, ls, rfl, a, ha, hl⟩ := h.of_child hn hi
      exact ih (fun hm => (List.mem_cons.mp hm).elim hen he) hl

/-- **The first refused value is named**, with the number of containers above it. -/
theorem Blocked.exists_first {room depth : Nat}
    (h : g.Blocked p room path n (.unsupported e depth)) :
    ∃ pos above, g.Visit p.noneClassName path n pos above e ∧ (g.shape e).isClosed = false ∧
      depth = path.length + above.length ∧
      ∀ pos' above' e', g.Visit p.noneClassName path n pos' above' e' → e' ∉ path →
        (g.shape e').isClosed = false → ¬ List.Lex (· < ·) pos' pos := by
  generalize ho : Obstacle.unsupported e depth = o at h
  induction h with
  | @outside room path n hn hf =>
    cases ho
    have hs : (g.shape e).isClosed = false := hf
    exact ⟨[], [], .here path e, hs, rfl, fun _ _ _ _ _ _ hlt => by cases hlt⟩
  | full _ _ => cases ho
  | @child room path n m s cs i o hn hf hm _ hbefore ih =>
    obtain ⟨pos, above, hv, hs, hdepth, hfirst⟩ := ih ho
    obtain ⟨hcont, rfl, -⟩ := hf
    have hclosed : (g.shape n).isClosed = true := Shape.isClosed_of_isContainer hcont
    refine ⟨i :: pos, n :: above, .step hn hm hv, hs, ?_, ?_⟩
    · rw [List.length_cons] at hdepth ⊢
      omega
    · intro pos' above' e' hv' he' hs'
      have hne : e' ≠ n := fun heq => by rw [heq, hclosed] at hs'; cases hs'
      cases hv' with
      | here _ _ => exact absurd rfl hne
      | @step _ _ m' _ j pos' above' _ hm' hv' =>
        have he'' : e' ∉ n :: path := fun hmem => (List.mem_cons.mp hmem).elim hne he'
        intro hlt
        cases hlt with
        | rel hji =>
          -- everything left of the refused child has a reference
          obtain ⟨l, hl⟩ := hbefore j hji m' hm'
          rw [hl.isClosed_of_visit hv' he''] at hs'
          cases hs'
        | cons hlt =>
          rw [hm] at hm'
          cases hm'
          exact hfirst pos' above' e' hv' he'' hs' hlt

/-- What nests too deeply is a walk through more containers than there is room for. -/
theorem Blocked.exists_deep {room : Nat} (h : g.Blocked p room path n .tooDeep) :
    ∃ pos above e, g.Visit p.noneClassName path n pos above e ∧ e ∉ path ∧ e ∉ above ∧
      g.isContainer e = true ∧ above.length = room := by
  generalize ho : Obstacle.tooDeep = o at h
  induction h with
  | outside _ _ => cases ho
  | @full path n s cs hn hf =>
    obtain ⟨hcont, -⟩ := hf
    exact ⟨[], [], n, .here path n, hn, List.not_mem_nil, hcont, rfl⟩
  | @child room path n m s cs i o hn hf hm _ _ ih =>
    obtain ⟨pos, above, e, hv, he, hea, hcont, hlen⟩ := ih ho
    obtain ⟨-, rfl, -⟩ := hf
    rw [List.mem_cons, not_or] at he
    refine ⟨i :: pos, n :: above, e, .step hn hm hv, he.2, ?_, hcont, congrArg (· + 1) hlen⟩
    rw [List.mem_cons, not_or]
    exact ⟨he.1, hea⟩

/-- Lowering fails for depth only if a walk without repetitions goes through more containers than
the limit allows. -/
theorem exists_walk_of_tooDeep {limit : Nat} {root r : Node}
    (h : (g.lowerWithin p limit root).outcome = .error (.tooDeep r)) :
    ∃ pos above e, g.Walk p.noneClassName root pos above e ∧ (above ++ [e]).Nodup ∧
      (∀ m ∈ above ++ [e], g.isContainer m = true) ∧ (above ++ [e]).length = limit + 1 := by
  obtain ⟨o, hfail, hblocked⟩ := blocked_of_lowerWithin h
  cases o with
  | unsupported e depth => cases hfail
  | tooDeep =>
    obtain ⟨pos, above, e, hv, -, hea, hcont, hlen⟩ := hblocked.exists_deep
    obtain ⟨hw, hnd⟩ := visit_nil_iff.mp hv
    refine ⟨pos, above, e, hw, ?_, ?_, ?_⟩
    · refine List.nodup_append.mpr ⟨hnd, by simp, fun a ha b hb hab => ?_⟩
      rw [List.mem_singleton] at hb
      exact hea (hb ▸ hab ▸ ha)
    · intro m hm
      rcases List.mem_append.mp hm with hm | hm
      · exact hw.isContainer_of_mem m hm
      · exact List.mem_singleton.mp hm ▸ hcont
    · rw [List.length_append, hlen]
      rfl

/-- **Lowering fails exactly for what it can reach.** Let no walk without repetitions go through
more than 150 containers, for which every limit leaves room. Then lowering fails if and only if a
value that no rule covers can be reached, and has a reference otherwise. If it fails, it names the
first such value, in the order of the positions, and the number of containers on the walk to it. -/
theorem outcome_lowerWithin {limit : Nat} {root : Node} (hlimit : 150 ≤ limit)
    (hwalks : ∀ pos above n, g.Walk p.noneClassName root pos above n → (above ++ [n]).Nodup →
      (above ++ [n]).countP g.isContainer ≤ 150) :
    ((∃ n depth, (g.lowerWithin p limit root).outcome = .error (.unsupported n depth)) ↔
      ∃ n, g.Reaches p.noneClassName root n ∧ (g.shape n).isClosed = false) ∧
    ((¬ ∃ n, g.Reaches p.noneClassName root n ∧ (g.shape n).isClosed = false) →
      ∃ l, (g.lowerWithin p limit root).outcome = .ok l) ∧
    (∀ f, (g.lowerWithin p limit root).outcome = .error f →
      ∃ pos above n, g.Walk p.noneClassName root pos above n ∧ above.Nodup ∧
        (g.shape n).isClosed = false ∧ f = .unsupported n (above.countP g.isContainer) ∧
        ∀ pos' above' n', g.Walk p.noneClassName root pos' above' n' → above'.Nodup →
          (g.shape n').isClosed = false → ¬ List.Lex (· < ·) pos' pos) := by
  have herror : ∀ f, (g.lowerWithin p limit root).outcome = .error f →
      ∃ pos above n, g.Walk p.noneClassName root pos above n ∧ above.Nodup ∧
        (g.shape n).isClosed = false ∧ f = .unsupported n (above.countP g.isContainer) ∧
        ∀ pos' above' n', g.Walk p.noneClassName root pos' above' n' → above'.Nodup →
          (g.shape n').isClosed = false → ¬ List.Lex (· < ·) pos' pos := by
    intro f hf
    obtain ⟨o, rfl, hblocked⟩ := blocked_of_lowerWithin hf
    cases o with
    | tooDeep =>
      obtain ⟨pos, above, e, hw, hnd, hcont, hlen⟩ := exists_walk_of_tooDeep hf
      have hcount := hwalks pos above e hw hnd
      rw [List.countP_eq_length.mpr hcont, hlen] at hcount
      omega
    | unsupported n depth =>
      obtain ⟨pos, above, hv, hs, hdepth, hfirst⟩ := hblocked.exists_first
      obtain ⟨hw, hnd⟩ := visit_nil_iff.mp hv
      refine ⟨pos, above, n, hw, hnd, hs, ?_, ?_⟩
      · rw [List.countP_eq_length.mpr hw.isContainer_of_mem, hdepth, List.length_nil, Nat.zero_add]
        rfl
      · intro pos' above' n' hw' hnd' hs'
        exact hfirst pos' above' n' (visit_nil_iff.mpr ⟨hw', hnd'⟩) List.not_mem_nil hs'
  refine ⟨⟨?_, ?_⟩, ?_, herror⟩
  · rintro ⟨n, depth, h⟩
    obtain ⟨pos, above, n', hw, -, hs, hf, -⟩ := herror _ h
    exact ⟨n', hw.reaches, hs⟩
  · rintro ⟨n, hn, hs⟩
    cases h : (g.lowerWithin p limit root).outcome with
    | ok l =>
      obtain ⟨pos, above, hw, hnd⟩ := Reaches.exists_walk_nodup hn
      have hv := visit_nil_iff.mpr ⟨hw, (List.nodup_append.mp hnd).1⟩
      have hl := lowers_of_lowerWithin h
      rw [hl.isClosed_of_visit hv List.not_mem_nil] at hs
      cases hs
    | error f =>
      obtain ⟨pos, above, n', -, -, -, rfl, -⟩ := herror f h
      exact ⟨n', _, rfl⟩
  · intro hnone
    cases h : (g.lowerWithin p limit root).outcome with
    | ok l => exact ⟨l, rfl⟩
    | error f =>
      obtain ⟨pos, above, n, hw, -, hs, -⟩ := herror f h
      exact absurd ⟨n, hw.reaches, hs⟩ hnone

/-- The value that no rule covers can be reached from the tuple around `knot`, which is too small to
nest too deeply. -/
theorem outcome_knot : ∃ n depth,
    (knot.lowerWithin {} 150 ⟨13⟩).outcome = .error (.unsupported n depth) := by
  have hreach : knot.Reaches "None" ⟨13⟩ ⟨12⟩ := .single (by decide)
  have hsize : knot.shapes.size ≤ 150 := by decide
  have hwalks : ∀ pos above n, knot.Walk ({} : Profile).noneClassName ⟨13⟩ pos above n →
      (above ++ [n]).Nodup → (above ++ [n]).countP knot.isContainer ≤ 150 :=
    fun _ _ _ _ hnd => Nat.le_trans (countP_isContainer_le hnd) hsize
  have hl := outcome_lowerWithin (Nat.le_refl 150) hwalks
  exact hl.1.mpr ⟨⟨12⟩, hreach, rfl⟩

end Graph

end TypeLowering
