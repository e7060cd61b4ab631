import TypeLowering.Proofs.Sharing

/-!
# What lowering can tell apart

Nodes that stand opposite each other in a bisimulation are both lowered or both refused, and need the
same imports, since both questions are about what can be reached. Their references may differ, for
the guard tells nodes apart and cuts a cycle where it closes: an unrolled cycle is cut later. They are
the same where the nodes that can be reached correspond one to one, and where there are no cycles.

A redefinition that leaves the walked part as it is changes nothing (`Keeps.outcome_eq`). One
thing counts that is not walked: whether the first call signature has a result, which the name of a
class decides (`outcome_widget`).
-/

namespace TypeLowering

theorem Traced.Agree.eq {ε α : Type} {failed : ε → ε → Prop} {o o' : Except ε α}
    (h : Agree failed o o') (hfailed : ∀ {e e'}, failed e e' → e = e') : o = o' := by
  cases h with
  | ok a => rfl
  | error he => rw [hfailed he]

/-- A value is as another was, up to what is not walked: the class of an instance, the alternatives
of a union, and the call signatures after the first. -/
inductive Shape.Keeps {ρ : Type} : Shape ρ → Shape ρ → Prop
  | same (s : Shape ρ) : Keeps s s
  | instanceOf (cls cls' : ρ) : Keeps (.instanceOf cls) (.instanceOf cls')
  | union (as as' : List ρ) : Keeps (.union as) (.union as')
  | function (arrow : ρ × ρ) (rest rest' : List (ρ × ρ)) :
      Keeps (.function (arrow :: rest)) (.function (arrow :: rest'))

theorem Shape.Keeps.alike {ρ : Type} {s s' : Shape ρ} (h : s.Keeps s') : s.Alike s' := by
  cases h with
  | same => exact .refl s
  | _ => constructor

namespace Graph

variable {g g' : Graph} {c : String} {p : Profile} {R : Node → Node → Prop} {root root' n e : Node}
  {limit : Nat} {l l' : Lowered}

/-! ### What can be reached decides -/

theorem Reaches.exists_visit (h : g.Reaches c n e) :
    ∃ pos above, g.Visit c [] n pos above e ∧ e ∉ above := by
  obtain ⟨pos, above, hw, hnd⟩ := h.exists_walk_nodup
  obtain ⟨habove, -, hdisj⟩ := List.nodup_append.mp hnd
  exact ⟨pos, above, visit_nil_iff.mpr ⟨hw, habove⟩,
    fun he => hdisj e he e (List.mem_singleton_self e) rfl⟩

theorem Lowers.isClosed_of_reaches (h : g.Lowers p [] n l) (he : g.Reaches p.noneClassName n e) :
    (g.shape e).isClosed = true := by
  obtain ⟨pos, above, hv, -⟩ := he.exists_visit
  exact h.isClosed_of_visit hv List.not_mem_nil

theorem Lowers.mem_imports_iff (h : g.Lowers p [] n l) {x : String} :
    x ∈ l.imports.names ↔ ∃ e, g.Reaches p.noneClassName n e ∧ g.namespace? p e = some x := by
  refine ⟨h.reaches_of_mem_imports, ?_⟩
  rintro ⟨e, he, hx⟩
  obtain ⟨pos, above, hv, habove⟩ := he.exists_visit
  exact h.mem_imports_of_visit hv List.not_mem_nil habove hx

theorem reaches_of_unsupported {depth : Nat}
    (h : (g.lowerWithin p limit root).outcome = .error (.unsupported e depth)) :
    g.Reaches p.noneClassName root e ∧ (g.shape e).isClosed = false := by
  obtain ⟨o, ho, hblocked⟩ := blocked_of_lowerWithin h
  cases o with
  | tooDeep => cases ho
  | unsupported m d =>
    cases ho
    obtain ⟨pos, above, hv, hclosed, -⟩ := hblocked.exists_first
    exact ⟨(visit_nil_iff.mp hv).1.reaches, hclosed⟩

/-- Where a graph nests within the limit, a node is lowered or a value refused. -/
theorem NestsWithin.ok_or_unsupported (h : g.NestsWithin p.noneClassName limit root) :
    (∃ l, (g.lowerWithin p limit root).outcome = .ok l) ∨
      ∃ n depth, (g.lowerWithin p limit root).outcome = .error (.unsupported n depth) := by
  cases ho : (g.lowerWithin p limit root).outcome with
  | ok l => exact .inl ⟨l, rfl⟩
  | error f =>
    cases f with
    | unsupported n depth => exact .inr ⟨n, depth, rfl⟩
    | tooDeep r => exact absurd ho (h.lowerWithin_ne_tooDeep r)

/-! ### Opposite nodes -/

namespace Bisimulation

theorem namespace?_eq (h : Bisimulation g g' c R) {n n' : Node} (hR : R n n') :
    g.namespace? p n = g'.namespace? p n' := by
  rw [namespace?, namespace?, (h.alike hR).import?_eq]

/-- If a node is lowered, what stands opposite to it is not refused. -/
theorem ne_unsupported (h : Bisimulation g g' p.noneClassName R) (hR : R root root')
    (hl : g.Lowers p [] root l) (n' : Node) (depth : Nat) :
    (g'.lowerWithin p limit root').outcome ≠ .error (.unsupported n' depth) := by
  intro hfail
  obtain ⟨hn', hclosed'⟩ := reaches_of_unsupported hfail
  obtain ⟨n, hn, hRn⟩ := h.symm.reaches hR hn'
  have hclosed := (h.alike hRn).isClosed_eq
  rw [hl.isClosed_of_reaches hn, hclosed'] at hclosed
  cases hclosed

theorem names_subset (h : Bisimulation g g' p.noneClassName R) (hR : R root root')
    (hl : g.Lowers p [] root l) (hl' : g'.Lowers p [] root' l') {x : String}
    (hx : x ∈ l.imports.names) : x ∈ l'.imports.names := by
  obtain ⟨n, hn, hx⟩ := hl.mem_imports_iff.mp hx
  obtain ⟨n', hn', hRn⟩ := h.reaches hR hn
  exact hl'.mem_imports_iff.mpr ⟨n', hn', h.namespace?_eq hRn ▸ hx⟩

theorem imports_eq (h : Bisimulation g g' p.noneClassName R) (hR : R root root')
    (hl : g.Lowers p [] root l) (hl' : g'.Lowers p [] root' l') : l.imports = l'.imports := by
  -- a requirement that lowering builds is absent if it has no members
  refine hl.isProper_imports.eq_of_names hl'.isProper_imports fun x => ?_
  exact ⟨h.names_subset hR hl hl', h.symm.names_subset hR hl' hl⟩

/-- Opposite nodes are both lowered or both refused. -/
theorem same_imports (h : Bisimulation g g' p.noneClassName R) (hR : R root root')
    (hnest : g.NestsWithin p.noneClassName limit root)
    (hnest' : g'.NestsWithin p.noneClassName limit root') :
    (∃ l l', (g.lowerWithin p limit root).outcome = .ok l ∧
      (g'.lowerWithin p limit root').outcome = .ok l' ∧ l.imports = l'.imports) ∨
    ∃ n depth n' depth', (g.lowerWithin p limit root).outcome = .error (.unsupported n depth) ∧
      (g'.lowerWithin p limit root').outcome = .error (.unsupported n' depth') := by
  rcases hnest.ok_or_unsupported with ⟨l, hl⟩ | ⟨n, depth, hn⟩
  · rcases hnest'.ok_or_unsupported with ⟨l', hl'⟩ | ⟨n', depth', hn'⟩
    · exact .inl ⟨l, l', hl, hl',
        h.imports_eq hR (lowers_of_lowerWithin hl) (lowers_of_lowerWithin hl')⟩
    · exact absurd hn' (h.ne_unsupported hR (lowers_of_lowerWithin hl) n' depth')
  · rcases hnest'.ok_or_unsupported with ⟨l', hl'⟩ | ⟨n', depth', hn'⟩
    · exact absurd hn (h.symm.ne_unsupported hR (lowers_of_lowerWithin hl') n depth)
    · exact .inr ⟨n, depth, n', depth', hn, hn'⟩

/-- Where opposite nodes are lowered in step, they have the same reference or the same failure. -/
theorem same_of_matches {noted : List Event → List Event → Prop}
    (h : Bisimulation g g' p.noneClassName R) (hnest : g.NestsWithin p.noneClassName limit root)
    (hmatches : Traced.Matches noted (Obstacle.Related R 0) (g.lowerBelow p limit [] root)
      (g'.lowerBelow p limit [] root')) :
    (∃ l, (g.lowerWithin p limit root).outcome = .ok l ∧
      (g'.lowerWithin p limit root').outcome = .ok l) ∨
    ∃ n n' depth, (g.lowerWithin p limit root).outcome = .error (.unsupported n depth) ∧
      (g'.lowerWithin p limit root').outcome = .error (.unsupported n' depth) ∧
      (g.shape n).typeName = (g'.shape n').typeName := by
  rcases hnest.ok_or_unsupported with ⟨l, hl⟩ | ⟨n, depth, hn⟩
  · exact .inl ⟨l, hl, lowerWithin_ok_of_matches hmatches hl⟩
  · obtain ⟨n', hR, hn'⟩ := lowerWithin_unsupported_of_matches hmatches hn
    exact .inr ⟨n, n', depth, hn, hn', (h.alike hR).typeName_eq⟩

/-- Where what can be reached corresponds one to one, opposite roots are lowered in step. -/
theorem matches_of_unique (h : Bisimulation g g' p.noneClassName R) (hR : R root root')
    (hunique : Relator.BiUnique (Opposite g g' p.noneClassName R root root')) (limit : Nat) :
    Traced.Matches (fun _ _ => True)
      (Obstacle.Related (Opposite g g' p.noneClassName R root root') 0)
      (g.lowerBelow p limit [] root) (g'.lowerBelow p limit [] root') :=
  ((h.restrict root root').lockstep_of_unique hunique).matches limit ⟨⟨hR, .refl, .refl⟩, .nil⟩

end Bisimulation

/-! ### Redefinitions -/

/-- Whether a node is a callable whose first call signature has no result. -/
def isProcedure (g : Graph) (c : String) (n : Node) : Bool :=
  match g.shape n with
  | .function ((_, result) :: _) => g.isInstanceOf c result
  | _ => false

/-- Another graph has what can be reached from a node as it was, and the same callables there have
no result. -/
structure Keeps (g g' : Graph) (c : String) (root : Node) : Prop where
  shape : ∀ n, g.Reaches c root n → (g.shape n).Keeps (g'.shape n)
  procedure : ∀ n, g.Reaches c root n → g.isProcedure c n = g'.isProcedure c n

theorem Keeps.children_eq (h : g.Keeps g' c root) (hn : g.Reaches c root n) :
    g.children c n = g'.children c n := by
  have hshape := h.shape n hn
  have hprocedure := h.procedure n hn
  unfold isProcedure at hprocedure
  unfold children
  generalize g.shape n = s, g'.shape n = s' at *
  cases hshape with
  | same =>
    cases s with
    | function arrows =>
      cases arrows with
      | nil => rfl
      | cons arrow rest =>
        simp only at hprocedure ⊢
        rw [hprocedure]
    | _ => rfl
  | instanceOf cls cls' => rfl
  | union as as' => rfl
  | function arrow rest rest' =>
    simp only at hprocedure ⊢
    rw [hprocedure]

/-- What can be reached stands opposite itself. -/
theorem Keeps.bisimulation (h : g.Keeps g' c root) :
    Bisimulation g g' c fun n n' => n = n' ∧ g.Reaches c root n where
  alike := by
    rintro n _ ⟨rfl, hn⟩
    exact (h.shape n hn).alike
  children := by
    rintro n _ ⟨rfl, hn⟩
    rw [← h.children_eq hn]
    exact List.forall₂_same.mpr fun m hm => ⟨rfl, hn.tail hm⟩

/-- **What is not walked does not count**, unless it tells whether there is a result. -/
theorem Keeps.outcome_eq (h : g.Keeps g' p.noneClassName root) (limit : Nat) :
    (g.lowerWithin p limit root).outcome = (g'.lowerWithin p limit root).outcome := by
  have hunique : Relator.BiUnique fun n n' => n = n' ∧ g.Reaches p.noneClassName root n :=
    ⟨fun _ _ _ hm hn => hm.1.trans hn.1.symm, fun _ _ _ hm hn => hm.1.symm.trans hn.1⟩
  have hmatches : Traced.Matches (fun _ _ => True) (Obstacle.Related _ 0)
      (g.lowerBelow p limit [] root) (g'.lowerBelow p limit [] root) :=
    (h.bisimulation.lockstep_of_unique hunique).matches limit ⟨⟨rfl, .refl⟩, .nil⟩
  have houtcome := hmatches.outcome.eq fun hrel => by
    cases hrel with
    | unsupported depth hn => rw [hn.1]; rfl
    | tooDeep => rfl
  rw [lowerWithin_outcome, lowerWithin_outcome, houtcome]

/-! ### All of it -/

/-- **What lowering can tell apart.** Let the roots of two graphs stand opposite each other in a
bisimulation, and let both graphs nest within the limit. Then both are lowered and need the same
imports, or both are refused. If what can be reached corresponds one to one, or neither graph has
cycles, then they have the same reference, or they are refused for values of the same type at the same
depth. And a graph that keeps what can be reached from a node, up to what is not walked and the
callables without result, has the same outcome for it. -/
theorem lowering_alike (p : Profile) (limit : Nat) :
    (∀ (g g' : Graph) (R : Node → Node → Prop) (root root' : Node),
      Bisimulation g g' p.noneClassName R → R root root' →
      g.NestsWithin p.noneClassName limit root → g'.NestsWithin p.noneClassName limit root' →
      ((∃ l l', (g.lowerWithin p limit root).outcome = .ok l ∧
          (g'.lowerWithin p limit root').outcome = .ok l' ∧ l.imports = l'.imports) ∨
        ∃ n depth n' depth', (g.lowerWithin p limit root).outcome = .error (.unsupported n depth) ∧
          (g'.lowerWithin p limit root').outcome = .error (.unsupported n' depth')) ∧
      (Relator.BiUnique (Opposite g g' p.noneClassName R root root') ∨
          (g.Acyclic p.noneClassName root ∧ g'.Acyclic p.noneClassName root') →
        (∃ l, (g.lowerWithin p limit root).outcome = .ok l ∧
          (g'.lowerWithin p limit root').outcome = .ok l) ∨
        ∃ n n' depth, (g.lowerWithin p limit root).outcome = .error (.unsupported n depth) ∧
          (g'.lowerWithin p limit root').outcome = .error (.unsupported n' depth) ∧
          (g.shape n).typeName = (g'.shape n').typeName)) ∧
    (∀ (g g' : Graph) (root : Node), g.Keeps g' p.noneClassName root →
      (g.lowerWithin p limit root).outcome = (g'.lowerWithin p limit root).outcome) := by
  refine ⟨fun g g' R root root' h hR hnest hnest' => ⟨h.same_imports hR hnest hnest', ?_⟩,
    fun g g' root h => h.outcome_eq limit⟩
  rintro (hunique | ⟨hacyclic, hacyclic'⟩)
  · exact (h.restrict root root').same_of_matches hnest (h.matches_of_unique hR hunique limit)
  · exact h.same_of_matches hnest
      (h.matches_of_acyclic Traced.additive_true (fun _ _ _ => trivial) hR hacyclic hacyclic' limit)

/-- A list that holds itself (node 7), the same unrolled (nodes 8 and 9), and a copy (node 10). -/
def loops : Graph :=
  ⟨base.shapes ++ #[.list ⟨7⟩, .list ⟨9⟩, .list ⟨8⟩, .list ⟨10⟩]⟩

theorem bisimulation_unrolled :
    Bisimulation loops loops "None" fun n n' => n = ⟨7⟩ ∧ (n' = ⟨8⟩ ∨ n' = ⟨9⟩) where
  alike := by rintro _ _ ⟨rfl, rfl | rfl⟩ <;> exact .list _ _
  children := by
    rintro _ _ ⟨rfl, rfl | rfl⟩
    · exact .cons ⟨rfl, .inr rfl⟩ .nil
    · exact .cons ⟨rfl, .inl rfl⟩ .nil

theorem bisimulation_copied :
    Bisimulation loops loops "None" fun n n' => n = ⟨7⟩ ∧ n' = ⟨10⟩ where
  alike := by
    rintro _ _ ⟨rfl, rfl⟩
    exact .list _ _
  children := by
    rintro _ _ ⟨rfl, rfl⟩
    exact .cons ⟨rfl, rfl⟩ .nil

/-- A callable (node 9) that returns an instance (node 8) of a class (node 7). -/
def widget : Graph :=
  ⟨base.shapes ++ #[.namedClass "Widget", .instanceOf ⟨7⟩, .function [(⟨1⟩, ⟨8⟩)]]⟩

/-- Another name for the class in `widget` is not seen from the callable. -/
theorem keeps_widget :
    widget.Keeps (widget.replace ⟨7⟩ (.namedClass "Gadget")) "None" ⟨9⟩ := by
  have hmem : ∀ n, widget.Reaches "None" ⟨9⟩ n → n ∈ [⟨9⟩, ⟨1⟩, ⟨8⟩] :=
    fun n hn => hn.mem_of_closed (by decide) (by decide)
  refine ⟨fun n hn => ?_, fun n hn => ?_⟩
  · rw [shape_replace_of_ne _ fun h => absurd (hmem n hn) (by rw [h]; decide)]
    exact .same _
  · have hall : ∀ m ∈ [⟨9⟩, ⟨1⟩, ⟨8⟩], widget.isProcedure "None" m =
        (widget.replace ⟨7⟩ (.namedClass "Gadget")).isProcedure "None" m := by decide
    exact hall n (hmem n hn)

/-- Unrolling the list in `loops` changes its reference and not its imports, copying it changes
nothing, and neither does another name for the class in `widget`. -/
theorem lowering_alike_loops :
    (∃ l l', (loops.lowerWithin {} 150 ⟨7⟩).outcome = .ok l ∧
      (loops.lowerWithin {} 150 ⟨8⟩).outcome = .ok l' ∧ l.imports = l'.imports ∧
      l.reference ≠ l'.reference) ∧
    (loops.lowerWithin {} 150 ⟨7⟩).outcome = (loops.lowerWithin {} 150 ⟨10⟩).outcome ∧
    (widget.lowerWithin {} 150 ⟨9⟩).outcome =
      ((widget.replace ⟨7⟩ (.namedClass "Gadget")).lowerWithin {} 150 ⟨9⟩).outcome := by
  obtain ⟨hlike, hkeeps⟩ := lowering_alike {} 150
  have hnest : ∀ n, loops.NestsWithin "None" 150 n :=
    fun n => (nestsWithin_size loops "None" n).mono (by decide)
  have hl : (loops.lowerWithin {} 150 ⟨7⟩).outcome = .ok _ := rfl
  refine ⟨?_, ?_, hkeeps _ _ _ keeps_widget⟩
  · obtain ⟨himports, -⟩ :=
      hlike _ _ _ ⟨7⟩ ⟨8⟩ bisimulation_unrolled ⟨rfl, .inl rfl⟩ (hnest _) (hnest _)
    rcases himports with ⟨l, l', hl₁, hl', heq⟩ | ⟨n, depth, -, -, hn, -⟩
    · refine ⟨l, l', hl₁, hl', heq, ?_⟩
      cases hl.symm.trans hl₁
      cases (show (loops.lowerWithin {} 150 ⟨8⟩).outcome = .ok _ from rfl).symm.trans hl'
      decide
    · cases hl.symm.trans hn
  · obtain ⟨-, hsame⟩ := hlike _ _ _ ⟨7⟩ ⟨10⟩ bisimulation_copied ⟨rfl, rfl⟩ (hnest _) (hnest _)
    have hunique : Relator.BiUnique
        (Opposite loops loops "None" (fun n n' => n = ⟨7⟩ ∧ n' = ⟨10⟩) ⟨7⟩ ⟨10⟩) :=
      ⟨fun _ _ _ hm hn => hm.1.1.trans hn.1.1.symm, fun _ _ _ hm hn => hm.1.2.trans hn.1.2.symm⟩
    rcases hsame (.inl hunique) with ⟨l, hl₁, hl'⟩ | ⟨n, n', depth, hn, -⟩
    · exact hl₁.trans hl'.symm
    · cases hl.symm.trans hn

/-- **The name of a class that is not walked may count.** The class in `widget` cannot be reached from
the callable, and the instance of it does not mark a missing result. With the name of the class that
does, the callable has no result. -/
theorem outcome_widget :
    ¬ widget.Reaches "None" ⟨9⟩ ⟨7⟩ ∧
    ¬ (widget.replace ⟨7⟩ (.namedClass "None")).Reaches "None" ⟨9⟩ ⟨7⟩ ∧
    widget.isInstanceOf "None" ⟨8⟩ = false ∧
    (∃ imports, (widget.lower {} ⟨9⟩).outcome =
      .ok ⟨.mk "Func" [.named "string", .named "object"], imports⟩) ∧
    ∃ imports, ((widget.replace ⟨7⟩ (.namedClass "None")).lower {} ⟨9⟩).outcome =
      .ok ⟨.mk "Action" [.named "string"], imports⟩ := by
  refine ⟨fun h => ?_, fun h => ?_, rfl, ⟨_, rfl⟩, ⟨_, rfl⟩⟩
  · have hmem : (⟨7⟩ : Node) ∈ [⟨9⟩, ⟨1⟩, ⟨8⟩] := h.mem_of_closed (by decide) (by decide)
    exact absurd hmem (by decide)
  · have hmem : (⟨7⟩ : Node) ∈ [⟨9⟩, ⟨1⟩] := h.mem_of_closed (by decide) (by decide)
    exact absurd hmem (by decide)

end Graph

end TypeLowering
