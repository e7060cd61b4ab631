import TypeLowering.Proofs.Acyclic
import TypeLowering.Proofs.Position

/-!
# Shared values in graphs without cycles

Without cycles, a node has the same reference wherever it is met: `exists_at?_of_acyclic` finds there
what the node is lowered to on its own. Nor does it matter whether a value that is used several times
is one node or several that look alike (`Bisimulation.matches_of_acyclic`), for copies of a graph
without cycles have none either (`Bisimulation.acyclic`). `lowering_acyclic` collects what holds of
such graphs.
-/

namespace TypeLowering

theorem Traced.mem_events_each {ε α β : Type} {f : α → Traced ε β} {l : List α} {event : Event}
    (h : event ∈ (each f l).events) : ∃ a ∈ l, event ∈ (f a).events := by
  induction l with
  | nil => cases h
  | cons a l ih =>
    rw [events_each_cons] at h
    rcases List.mem_append.mp h with h | h
    · exact ⟨a, List.mem_cons_self .., h⟩
    · split at h
      · obtain ⟨a', ha', h'⟩ := ih h
        exact ⟨a', List.mem_cons_of_mem _ ha', h'⟩
      · cases h

namespace Graph

variable {g g' : Graph} {c : String} {p : Profile} {root root' n : Node} {limit : Nat}
  {R : Node → Node → Prop}

theorem cycleCut_not_mem_overloadEvents (g : Graph) (n : Node) (kind : Option Kind) (depth : Nat) :
    .cycleCut kind depth ∉ g.overloadEvents n := by
  unfold overloadEvents
  split <;> simp

theorem cycleCut_not_mem_events (hacyclic : g.Acyclic p.noneClassName root)
    (hnest : g.NestsWithin p.noneClassName limit root) (kind : Option Kind) (depth : Nat)
    (hn : g.Reaches p.noneClassName root n) :
    .cycleCut kind depth ∉ (g.lowerWithin p limit n).events := by
  refine hacyclic.induction
    (motive := fun n => .cycleCut kind depth ∉ (g.lowerWithin p limit n).events) ?_ hn
  intro n hn ih hmem
  rw [lowerWithin_eq_byRule (hacyclic.of_reaches hn) (hnest.of_reaches hacyclic hn)] at hmem
  cases hf : g.form p.noneClassName n with
  | branch s cs =>
    rw [lowerByRule_branch _ hf] at hmem
    rcases List.mem_append.mp hmem with hmem | hmem
    · exact cycleCut_not_mem_overloadEvents g n kind depth hmem
    · obtain ⟨m, hm, hmem⟩ := Traced.mem_events_each hmem
      exact ih m (children_of_form hf ▸ hm) hmem
  | _ =>
    unfold lowerByRule at hmem
    rw [hf] at hmem
    cases hmem

/-! ### The rule of a container -/

theorem exists_branch_of_isContainer (hn : g.isContainer n = true) :
    ∃ s, g.form p.noneClassName n = .branch s (g.children p.noneClassName n) ∧
      p.name s = g.headName p n ∧ p.required s = g.namespace? p n := by
  cases hf : g.form p.noneClassName n with
  | branch s cs =>
    have hfits := Fits.of_form hf
    obtain ⟨-, rfl, -, hname⟩ := hfits
    exact ⟨s, rfl, hname, (Fits.of_form hf).required_branch⟩
  | leaf label =>
    obtain ⟨-, hcont, -⟩ := Fits.of_form hf
    rw [hcont] at hn
    cases hn
  | bareCall =>
    have hs : g.shape n = .function [] := Fits.of_form hf
    rw [isContainer, hs] at hn
    cases hn
  | outside =>
    have hs : (g.shape n).isClosed = false := Fits.of_form hf
    rw [Shape.isClosed_of_isContainer hn] at hs
    cases hs

/-- A container is lowered to its name with the references of its children, and needs what they need
and what its variant calls for. -/
theorem outcome_of_children (hacyclic : g.Acyclic p.noneClassName n)
    (hnest : g.NestsWithin p.noneClassName limit n) (hn : g.isContainer n = true)
    {ls : List Lowered} (hls : List.Forall₂ (fun m l => (g.lowerWithin p limit m).outcome = .ok l)
      (g.children p.noneClassName n) ls) :
    (g.lowerWithin p limit n).outcome =
      .ok ⟨.mk (g.headName p n) (ls.map Lowered.reference),
        (Requirement.joinAll (ls.map Lowered.imports)).add (g.namespace? p n)⟩ := by
  obtain ⟨s, hf, hname, hrequired⟩ := exists_branch_of_isContainer (p := p) hn
  rw [lowerWithin_eq_byRule hacyclic hnest, lowerByRule_branch _ hf,
    Traced.each_outcome_of_forall hls, ← hname, ← hrequired]
  rfl

/-- A container fails with the first of its children that fails, one container further out. -/
theorem outcome_of_first (hacyclic : g.Acyclic p.noneClassName n)
    (hnest : g.NestsWithin p.noneClassName limit n) (hn : g.isContainer n = true) {i : Nat}
    {m : Node} {f : Failure} (hi : (g.children p.noneClassName n)[i]? = some m)
    (hm : (g.lowerWithin p limit m).outcome = .error f)
    (hbefore : ∀ j < i, ∀ k, (g.children p.noneClassName n)[j]? = some k →
      ∃ l, (g.lowerWithin p limit k).outcome = .ok l) :
    (g.lowerWithin p limit n).outcome = .error f.outward := by
  obtain ⟨s, hf, -⟩ := exists_branch_of_isContainer (p := p) hn
  rw [lowerWithin_eq_byRule hacyclic hnest, lowerByRule_branch _ hf,
    Traced.each_outcome_of_first hi hm hbefore]
  rfl

/-- **A node has the same reference wherever it is met**: the one it has on its own. -/
theorem exists_at?_of_acyclic {e : Node} {pos : List Nat} {above : List Node}
    (hw : g.Walk p.noneClassName n pos above e) (hacyclic : g.Acyclic p.noneClassName n)
    (hnest : g.NestsWithin p.noneClassName limit n) {l : Lowered}
    (hl : (g.lowerWithin p limit n).outcome = .ok l) :
    ∃ a, (g.lowerWithin p limit e).outcome = .ok a ∧ l.reference.at? pos = some a.reference := by
  induction hw generalizing l with
  | refl n => exact ⟨l, hl, rfl⟩
  | @step n m e i pos above hi _ ih =>
    have hm : m ∈ g.children p.noneClassName n := List.mem_of_getElem? hi
    obtain ⟨s, hf, -⟩ := exists_branch_of_isContainer (p := p) (isContainer_of_mem_children hm)
    rw [lowerWithin_eq_byRule hacyclic hnest, lowerByRule_branch _ hf] at hl
    cases ho : (Traced.each (g.lowerWithin p limit) (g.children p.noneClassName n)).outcome with
    | error f =>
      rw [ho] at hl
      cases hl
    | ok ls =>
      rw [ho] at hl
      cases hl
      obtain ⟨hlen, hall⟩ := Traced.each_ok ho
      obtain ⟨b, hb⟩ := exists_opposite hlen hi
      obtain ⟨a, ha, hat⟩ := ih (hacyclic.of_reaches (.single hm))
        (hnest.of_reaches hacyclic (.single hm)) (hall i m b hi hb)
      refine ⟨a, ha, ?_⟩
      have harg : (Lowered.branch p s ls).reference.arguments[i]? = some b.reference := by
        show (ls.map Lowered.reference)[i]? = _
        rw [List.getElem?_map, hb, Option.map_some]
      rw [Reference.at?_cons, harg]
      exact hat

/-! ### Copies -/

/-- What looks like a graph without cycles has none either. -/
theorem Bisimulation.acyclic (h : Bisimulation g g' c R) (hR : R root root')
    (hacyclic : g.Acyclic c root) : g'.Acyclic c root' := by
  -- no node opposite to `n` is on a cycle, since that would go through a node opposite to a child
  have hcycle : ∀ n, g.Reaches c root n → ∀ n', R n n' → ∀ m' ∈ g'.children c n',
      ¬ g'.Reaches c m' n' := by
    intro n hn
    refine hacyclic.induction
      (motive := fun n => ∀ n', R n n' → ∀ m' ∈ g'.children c n', ¬ g'.Reaches c m' n') ?_ hn
    intro n _ ih n' hR m' hm' hback
    obtain ⟨m, hm, hRm⟩ := h.symm.child hR hm'
    rcases Relation.ReflTransGen.cases_head hback with rfl | ⟨k', hk', hback⟩
    · exact ih m hm m' hRm m' hm' .refl
    · exact ih m hm m' hRm k' hk' (hback.tail hm')
  intro n' hn' m' hm' hback
  obtain ⟨n, hn, hRn⟩ := h.symm.reaches hR hn'
  exact hcycle n hn n' hRn m' hm' hback

/-- Graphs that look alike and have no cycles give the same, whatever is shared in either. -/
theorem Bisimulation.matches_of_acyclic (h : Bisimulation g g' p.noneClassName R)
    {noted : List Event → List Event → Prop} (hadd : Traced.Additive noted)
    (hoverloads : ∀ n n', R n n' → noted (g.overloadEvents n) (g'.overloadEvents n'))
    (hR : R root root') (hacyclic : g.Acyclic p.noneClassName root)
    (hacyclic' : g'.Acyclic p.noneClassName root') (limit : Nat) :
    Traced.Matches noted (Obstacle.Related R 0) (g.lowerBelow p limit [] root)
      (g'.lowerBelow p limit [] root') :=
  (h.lockstep_of_acyclic hadd hoverloads 0).matches limit
    ⟨hR, rfl, ⟨hacyclic, fun _ _ => List.not_mem_nil⟩, hacyclic', fun _ _ => List.not_mem_nil⟩

/-! ### All of it -/

/-- **Without cycles, nothing depends on what is shared.** Let no container be reached from itself,
and let the graph nest within the limit. Then lowering is the only function that follows the rules of
the nodes. No cut is noted. A container has the name of its variant with the references that its
children have on their own, and needs what they need together with its own namespace; if children
fail, it fails with the first of them, one container further out. Wherever a node is met, it has the
reference that it has on its own. And a graph that looks alike, with as many call signatures, gives
the same events, the same references and the same imports, and fails for an opposite node at the same
depth. -/
theorem lowering_acyclic (hacyclic : g.Acyclic p.noneClassName root)
    (hnest : g.NestsWithin p.noneClassName limit root) :
    (∀ f : Node → Traced Failure Lowered,
      (∀ n, g.Reaches p.noneClassName root n → f n = g.lowerByRule p f n) ↔
        ∀ n, g.Reaches p.noneClassName root n → f n = g.lowerWithin p limit n) ∧
    (∀ n, g.Reaches p.noneClassName root n →
      (∀ kind depth, .cycleCut kind depth ∉ (g.lowerWithin p limit n).events) ∧
      (∀ r, (g.lowerWithin p limit n).outcome ≠ .error (.tooDeep r)) ∧
      (g.isContainer n = true →
        (∀ ls, List.Forall₂ (fun m l => (g.lowerWithin p limit m).outcome = .ok l)
            (g.children p.noneClassName n) ls →
          (g.lowerWithin p limit n).outcome =
            .ok ⟨.mk (g.headName p n) (ls.map Lowered.reference),
              (Requirement.joinAll (ls.map Lowered.imports)).add (g.namespace? p n)⟩) ∧
        (∀ (i : Nat) m e depth, (g.children p.noneClassName n)[i]? = some m →
          (g.lowerWithin p limit m).outcome = .error (.unsupported e depth) →
          (∀ j < i, ∀ k, (g.children p.noneClassName n)[j]? = some k →
            ∃ l, (g.lowerWithin p limit k).outcome = .ok l) →
          (g.lowerWithin p limit n).outcome = .error (.unsupported e (depth + 1))))) ∧
    (∀ l, (g.lowerWithin p limit root).outcome = .ok l →
      ∀ pos above n, g.Walk p.noneClassName root pos above n →
        ∃ a, (g.lowerWithin p limit n).outcome = .ok a ∧
          l.reference.at? pos = some a.reference) ∧
    (∀ (g' : Graph) (R : Node → Node → Prop) (root' : Node),
      Bisimulation g g' p.noneClassName R → (∀ n n', R n n' → g.arrowCount n = g'.arrowCount n') →
      R root root' →
      (g'.lowerWithin p limit root').events = (g.lowerWithin p limit root).events ∧
      (∀ l, (g.lowerWithin p limit root).outcome = .ok l →
        (g'.lowerWithin p limit root').outcome = .ok l) ∧
      (∀ n depth, (g.lowerWithin p limit root).outcome = .error (.unsupported n depth) →
        ∃ n', R n n' ∧
          (g'.lowerWithin p limit root').outcome = .error (.unsupported n' depth))) := by
  refine ⟨fun f => ⟨fun hf n hn => hacyclic.eq_lowerWithin hnest hf hn, fun hf n hn => ?_⟩,
    fun n hn => ?_, fun l hl pos above n hw => exists_at?_of_acyclic hw hacyclic hnest hl,
    fun g' R root' h hcount hR => ?_⟩
  · have hrule : g.lowerByRule p f n = g.lowerByRule p (g.lowerWithin p limit) n :=
      lowerByRule_congr fun m hm => hf m (hn.tail hm)
    rw [hrule, hf n hn]
    exact lowerWithin_eq_byRule (hacyclic.of_reaches hn) (hnest.of_reaches hacyclic hn)
  · have hacyclic' := hacyclic.of_reaches hn
    have hnest' := hnest.of_reaches hacyclic hn
    refine ⟨fun kind depth => cycleCut_not_mem_events hacyclic hnest kind depth hn,
      hnest'.lowerWithin_ne_tooDeep, fun hcont => ⟨fun ls hls => ?_, ?_⟩⟩
    · exact outcome_of_children hacyclic' hnest' hcont hls
    · intro i m e depth hi hm hbefore
      exact outcome_of_first hacyclic' hnest' hcont hi hm hbefore
  · have hoverloads : ∀ n n', R n n' → g.overloadEvents n = g'.overloadEvents n' := by
      intro n n' hn
      rw [overloadEvents, overloadEvents, hcount n n' hn]
    have hmatches := h.matches_of_acyclic Traced.additive_eq hoverloads hR hacyclic
      (h.acyclic hR hacyclic) limit
    exact ⟨hmatches.events.symm, fun l hl => lowerWithin_ok_of_matches hmatches hl,
      fun n depth hn => lowerWithin_unsupported_of_matches hmatches hn⟩

/-- A dict (node 7) that a tuple (node 9) holds twice, outright and as the parameter of a callable
(node 8). -/
def shared : Graph :=
  ⟨base.shapes ++ #[.dict ⟨1⟩ ⟨2⟩, .function [(⟨7⟩, ⟨3⟩), (⟨1⟩, ⟨7⟩)], .tuple [⟨7⟩, ⟨8⟩]]⟩

/-- The dict in `shared` has one reference, in both places and on its own. -/
theorem lowering_acyclic_shared : ∃ l a, (shared.lowerWithin {} 150 ⟨9⟩).outcome = .ok l ∧
    (shared.lowerWithin {} 150 ⟨7⟩).outcome = .ok a ∧
    l.reference.at? [0] = some a.reference ∧ l.reference.at? [1, 0] = some a.reference := by
  have hacyclic : shared.Acyclic "None" ⟨9⟩ := acyclic_of_index_lt (by decide) _
  have hnest : shared.NestsWithin "None" 150 ⟨9⟩ :=
    (nestsWithin_size shared "None" ⟨9⟩).mono (by decide)
  have hl : (shared.lowerWithin {} 150 ⟨9⟩).outcome = .ok _ := rfl
  obtain ⟨-, -, hwalk, -⟩ := lowering_acyclic (p := {}) hacyclic hnest
  obtain ⟨a, ha, hat⟩ := hwalk _ hl [0] _ ⟨7⟩ (.step rfl (.refl _))
  obtain ⟨a', ha', hat'⟩ := hwalk _ hl [1, 0] _ ⟨7⟩ (.step rfl (.step rfl (.refl _)))
  rw [ha] at ha'
  cases ha'
  exact ⟨_, a, hl, ha, hat, hat'⟩

end Graph

end TypeLowering
