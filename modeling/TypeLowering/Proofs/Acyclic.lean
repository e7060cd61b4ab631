import TypeLowering.Proofs.Bisimulation
import TypeLowering.Proofs.Imports
import TypeLowering.Proofs.Room

/-!
# Graphs without cycles

Where no container can be reached from itself (`Acyclic`), the guard never cuts anything, and what is
open around a node only counts towards the depth of a failure (`lowerBelow_eq_raise`). So a node is
lowered by its own rule from what its children are lowered to on their own: lowering is the only
function for which this holds (`lowerWithin_eq_byRule`, `Acyclic.eq_lowerWithin`).
-/

namespace TypeLowering

namespace Traced

variable {ε ε' α β : Type}

theorem mapFailure_each (k : ε → ε') (f : α → Traced ε β) (l : List α) :
    (each f l).mapFailure k = each (fun a => (f a).mapFailure k) l := by
  induction l with
  | nil => rfl
  | cons a l ih =>
    cases ha : (f a).outcome with
    | error e =>
      have ha' : ((f a).mapFailure k).outcome = .error (k e) := by rw [mapFailure, ha]; rfl
      rw [each_cons_of_error ha, each_cons_of_error (f := fun a => (f a).mapFailure k) ha']
      rfl
    | ok b =>
      have ha' : ((f a).mapFailure k).outcome = .ok b := by rw [mapFailure, ha]; rfl
      rw [each_cons_of_ok ha, each_cons_of_ok (f := fun a => (f a).mapFailure k) ha', ← ih]
      show mapFailure k ⟨_, (each f l).outcome.map (b :: ·)⟩ = _
      unfold mapFailure
      cases (each f l).outcome <;> rfl

theorem each_outcome_of_forall {f : α → Traced ε β} {l : List α} {bs : List β}
    (h : List.Forall₂ (fun a b => (f a).outcome = .ok b) l bs) : (each f l).outcome = .ok bs := by
  induction h with
  | nil => rfl
  | cons ha _ ih =>
    rw [each_cons_of_ok ha, ih]
    rfl

theorem each_outcome_of_first {f : α → Traced ε β} {l : List α} {i : Nat} {a : α} {e : ε}
    (hi : l[i]? = some a) (ha : (f a).outcome = .error e)
    (hbefore : ∀ j < i, ∀ b, l[j]? = some b → ∃ r, (f b).outcome = .ok r) :
    (each f l).outcome = .error e := by
  induction l generalizing i with
  | nil => cases hi
  | cons b l ih =>
    cases i with
    | zero =>
      cases hi
      rw [each_cons_of_error ha]
    | succ i =>
      obtain ⟨r, hr⟩ := hbefore 0 (Nat.succ_pos i) b rfl
      have hl : (each f l).outcome = .error e :=
        ih hi fun j hj => hbefore (j + 1) (Nat.succ_lt_succ hj)
      rw [each_cons_of_ok hr, hl]
      rfl

end Traced

/-- An obstacle seen from outside so many more containers. -/
def Obstacle.raise (k : Nat) : Obstacle → Obstacle
  | .unsupported node depth => .unsupported node (depth + k)
  | .tooDeep => .tooDeep

/-- A failure seen from outside one more container. -/
def Failure.outward : Failure → Failure
  | .unsupported node depth => .unsupported node (depth + 1)
  | .tooDeep root => .tooDeep root

/-- Runs of one graph that match are the same up to the depth of a failure. -/
theorem Traced.Matches.eq_mapFailure {α : Type} {k : Nat} {t t' : Traced Obstacle α}
    (h : Matches Eq (Obstacle.Related Eq k) t t') : t = t'.mapFailure (Obstacle.raise k) := by
  obtain ⟨events, outcome⟩ := t
  obtain ⟨events', outcome'⟩ := t'
  obtain ⟨hevents, houtcome⟩ := h
  cases hevents
  cases houtcome with
  | ok a => rfl
  | error he =>
    cases he with
    | unsupported depth hn =>
      cases hn
      rfl
    | tooDeep => rfl

namespace Graph

/-- No container that can be reached from the root can be reached from itself. -/
def Acyclic (g : Graph) (c : String) (root : Node) : Prop :=
  ∀ n, g.Reaches c root n → ∀ m ∈ g.children c n, ¬ g.Reaches c m n

variable {g : Graph} {c : String} {p : Profile} {root n m : Node} {k limit : Nat}

theorem Acyclic.of_reaches (h : g.Acyclic c root) (hn : g.Reaches c root n) : g.Acyclic c n :=
  fun e he => h e (hn.trans he)

/-- A graph whose nodes only refer to earlier ones has no cycles. -/
theorem acyclic_of_index_lt (h : ∀ i < g.shapes.size, ∀ m ∈ g.children c ⟨i⟩, m.index < i)
    (root : Node) : g.Acyclic c root := by
  have hlt : ∀ n m, m ∈ g.children c n → m.index < n.index := by
    intro n m hm
    have hn : n.index < g.shapes.size :=
      index_lt_of_import?_isSome (import?_isSome_of_isContainer (isContainer_of_mem_children hm))
    exact h n.index hn m hm
  have hle : ∀ n m, g.Reaches c n m → m.index ≤ n.index := by
    intro n m hm
    induction hm with
    | refl => exact Nat.le_refl _
    | tail _ hstep ih => exact Nat.le_of_lt (Nat.lt_of_lt_of_le (hlt _ _ hstep) ih)
  intro n _ m hm hback
  have hforth := hlt n m hm
  have hback := hle m n hback
  omega

/-! ### Nesting without cycles -/

theorem NestsWithin.exists_succ (h : g.NestsWithin c k n) (hn : g.isContainer n = true) :
    ∃ k', k = k' + 1 := by
  have hcount := h [] [] n (.refl n) (List.nodup_singleton n)
  rw [List.nil_append, List.countP_cons_of_pos hn] at hcount
  exact ⟨k - 1, by omega⟩

/-- The children of a node need room for one container less. -/
theorem NestsWithin.child (h : g.NestsWithin c (k + 1) n) (hacyclic : g.Acyclic c n)
    (hm : m ∈ g.children c n) : g.NestsWithin c k m := by
  intro pos above e hw hnd
  obtain ⟨i, hi⟩ := List.mem_iff_getElem?.mp hm
  have hn : n ∉ above ++ [e] := by
    intro hmem
    refine hacyclic n .refl m hm ?_
    rcases List.mem_append.mp hmem with hmem | hmem
    · exact hw.reaches_of_mem n hmem
    · exact List.mem_singleton.mp hmem ▸ hw.reaches
  have hcount := h (i :: pos) (n :: above) e (.step hi hw) (List.nodup_cons.mpr ⟨hn, hnd⟩)
  rw [List.cons_append, List.countP_cons_of_pos (isContainer_of_mem_children hm)] at hcount
  omega

theorem NestsWithin.of_reaches (h : g.NestsWithin c k root) (hacyclic : g.Acyclic c root)
    (hn : g.Reaches c root n) : g.NestsWithin c k n := by
  induction hn with
  | refl => exact h
  | tail hm hstep ih => exact (ih.mono (Nat.le_succ k)).child (hacyclic.of_reaches hm) hstep

/-- **Induction from the children to a node.** -/
theorem Acyclic.induction {motive : Node → Prop} (hacyclic : g.Acyclic c root)
    (hstep : ∀ n, g.Reaches c root n → (∀ m ∈ g.children c n, motive m) → motive n)
    (hn : g.Reaches c root n) : motive n := by
  have hnest : g.NestsWithin c g.shapes.size n := nestsWithin_size g c n
  generalize g.shapes.size = k at hnest
  -- the induction is on the room for containers, of which the children need less
  induction k generalizing n with
  | zero =>
    refine hstep n hn fun m hm => ?_
    obtain ⟨k', hk'⟩ := hnest.exists_succ (isContainer_of_mem_children hm)
    cases hk'
  | succ k ih =>
    refine hstep n hn fun m hm => ?_
    exact ih (hn.tail hm) (hnest.child (hacyclic.of_reaches hn) hm)

/-! ### What is open does not matter -/

/-- What a child can reach is open nowhere below its parent. -/
theorem Acyclic.free_child {path : List Node} (hacyclic : g.Acyclic c n)
    (hfree : ∀ e, g.Reaches c n e → e ∉ path) (hm : m ∈ g.children c n) :
    ∀ e, g.Reaches c m e → e ∉ n :: path := by
  intro e he hmem
  rcases List.mem_cons.mp hmem with rfl | hmem
  · exact hacyclic e .refl m hm he
  · exact hfree e (.head hm he) hmem

/-- **Without cycles, related nodes are lowered in step**, below open containers that cannot be
reached. The guard cuts nothing on either side, so nothing else about these containers matters. -/
theorem Bisimulation.lockstep_of_acyclic {g' : Graph} {R : Node → Node → Prop}
    (h : Bisimulation g g' c R) {noted : List Event → List Event → Prop}
    (hadd : Traced.Additive noted)
    (hoverloads : ∀ n n', R n n' → noted (g.overloadEvents n) (g'.overloadEvents n')) (k : Nat) :
    Lockstep g g' c noted R k fun path n path' n' =>
      R n n' ∧ path.length = path'.length + k ∧
        (g.Acyclic c n ∧ ∀ e, g.Reaches c n e → e ∉ path) ∧
        g'.Acyclic c n' ∧ ∀ e, g'.Reaches c n' e → e ∉ path' where
  additive := hadd
  related := And.left
  length_eq := fun hS => hS.2.1
  mem_iff := by
    rintro path n path' n' ⟨-, -, ⟨-, hfree⟩, -, hfree'⟩
    exact ⟨fun hn => absurd hn (hfree n .refl), fun hn' => absurd hn' (hfree' n' .refl)⟩
  cut := by
    rintro path n path' n' ⟨-, -, ⟨-, hfree⟩, -⟩ hn
    exact absurd hn (hfree n .refl)
  overloads := fun hS _ => hoverloads _ _ hS.1
  form := by
    rintro path n path' n' ⟨hR, hlen, ⟨hacyclic, hfree⟩, hacyclic', hfree'⟩ _
    refine match_form (h.alike hR) ((forall_mem_of_forall (h.children hR)).imp fun m m' hm => ?_)
    obtain ⟨hRm, hm, hm'⟩ := hm
    refine ⟨hRm, ?_, ⟨hacyclic.of_reaches (.single hm), hacyclic.free_child hfree hm⟩,
      hacyclic'.of_reaches (.single hm'), hacyclic'.free_child hfree' hm'⟩
    rw [List.length_cons, List.length_cons, hlen]
    omega

/-- **What is open around a node only counts towards the depth**, as long as none of it can be
reached from the node. -/
theorem lowerBelow_eq_raise {path : List Node} (hacyclic : g.Acyclic p.noneClassName n)
    (hfree : ∀ e, g.Reaches p.noneClassName n e → e ∉ path) (room : Nat) :
    g.lowerBelow p room path n =
      (g.lowerBelow p room [] n).mapFailure (Obstacle.raise path.length) := by
  have hstep := (Bisimulation.refl g p.noneClassName).lockstep_of_acyclic Traced.additive_eq
    (by rintro n _ rfl; rfl) path.length
  have hmatches : Traced.Matches Eq (Obstacle.Related Eq path.length)
      (g.lowerBelow p room path n) (g.lowerBelow p room [] n) :=
    hstep.matches room
      ⟨rfl, (Nat.zero_add _).symm, ⟨hacyclic, hfree⟩, hacyclic, fun _ _ => List.not_mem_nil⟩
  exact hmatches.eq_mapFailure

/-! ### Lowering by the rule of a node -/

/-- Lowers a node by its rule, from what its children are lowered to. -/
def lowerByRule (g : Graph) (p : Profile) (f : Node → Traced Failure Lowered) (n : Node) :
    Traced Failure Lowered :=
  match g.form p.noneClassName n with
  | .leaf l => return .leaf p l
  | .bareCall => return .bareCall p
  | .outside => .fail (.unsupported n 0)
  | .branch s children => do
    Traced.noteAll (g.overloadEvents n)
    let arguments ← (Traced.each f children).mapFailure Failure.outward
    return .branch p s arguments

theorem lowerByRule_branch (f : Node → Traced Failure Lowered) {s : Slot} {cs : List Node}
    (hf : g.form p.noneClassName n = .branch s cs) :
    g.lowerByRule p f n =
      ⟨g.overloadEvents n ++ (Traced.each f cs).events,
        ((Traced.each f cs).outcome.mapError Failure.outward).map (.branch p s)⟩ := by
  unfold lowerByRule
  rw [hf]
  show Traced.bind (Traced.noteAll _) (fun _ => Traced.bind (Traced.mapFailure _ _) _) = _
  unfold Traced.bind Traced.mapFailure
  cases (Traced.each f cs).outcome <;>
    simp [Traced.noteAll, pure, Traced.pure, Except.map, Except.mapError]

theorem lowerByRule_congr {f f' : Node → Traced Failure Lowered}
    (h : ∀ m ∈ g.children p.noneClassName n, f m = f' m) :
    g.lowerByRule p f n = g.lowerByRule p f' n := by
  cases hf : g.form p.noneClassName n with
  | branch s cs =>
    have hcs : Traced.each f cs = Traced.each f' cs :=
      Traced.each_congr fun m hm => h m (children_of_form hf ▸ hm)
    rw [lowerByRule_branch f hf, lowerByRule_branch f' hf, hcs]
  | _ =>
    unfold lowerByRule
    rw [hf]

theorem mapFailure_lowerBelow_child (hacyclic : g.Acyclic p.noneClassName n)
    (hnest : g.NestsWithin p.noneClassName (k + 1) n) (hm : m ∈ g.children p.noneClassName n) :
    (g.lowerBelow p k [n] m).mapFailure (Obstacle.toFailure n) =
      (g.lowerWithin p (k + 1) m).mapFailure Failure.outward := by
  have hdeep : (g.lowerBelow p k [] m).outcome ≠ .error .tooDeep :=
    (hnest.child hacyclic hm).ne_tooDeep
  have hfree : ∀ e, g.Reaches p.noneClassName m e → e ∉ [n] :=
    hacyclic.free_child (fun _ _ => List.not_mem_nil) hm
  rw [lowerBelow_eq_raise (hacyclic.of_reaches (.single hm)) hfree]
  unfold lowerWithin
  rw [lowerBelow_succ hdeep]
  unfold Traced.mapFailure
  cases ho : (g.lowerBelow p k [] m).outcome with
  | ok l => rfl
  | error o =>
    cases o with
    | unsupported e depth => rfl
    | tooDeep => exact absurd ho hdeep

/-- **Without cycles, lowering follows the rules of the nodes**, as if nothing guarded it. -/
theorem lowerWithin_eq_byRule (hacyclic : g.Acyclic p.noneClassName n)
    (hnest : g.NestsWithin p.noneClassName limit n) :
    g.lowerWithin p limit n = g.lowerByRule p (g.lowerWithin p limit) n := by
  cases hf : g.form p.noneClassName n with
  | leaf label =>
    unfold lowerWithin lowerByRule
    rw [lowerBelow_leaf List.not_mem_nil hf, hf]
    rfl
  | bareCall =>
    unfold lowerWithin lowerByRule
    rw [lowerBelow_bareCall List.not_mem_nil hf, hf]
    rfl
  | outside =>
    unfold lowerWithin lowerByRule
    rw [lowerBelow_outside List.not_mem_nil hf, hf]
    rfl
  | branch s cs =>
    obtain ⟨hcont, hcs, -⟩ := Fits.of_form hf
    obtain ⟨k, rfl⟩ := hnest.exists_succ hcont
    have heach : (Traced.each (g.lowerBelow p k [n]) cs).mapFailure (Obstacle.toFailure n) =
        (Traced.each (g.lowerWithin p (k + 1)) cs).mapFailure Failure.outward := by
      rw [Traced.mapFailure_each, Traced.mapFailure_each]
      exact Traced.each_congr fun m hm =>
        mapFailure_lowerBelow_child hacyclic hnest (hcs ▸ hm)
    have hevents : (Traced.each (g.lowerBelow p k [n]) cs).events =
        (Traced.each (g.lowerWithin p (k + 1)) cs).events := congrArg Traced.events heach
    have houtcome : (Traced.each (g.lowerBelow p k [n]) cs).outcome.mapError
          (Obstacle.toFailure n) =
        (Traced.each (g.lowerWithin p (k + 1)) cs).outcome.mapError Failure.outward :=
      congrArg Traced.outcome heach
    rw [lowerByRule_branch _ hf, ← hevents, ← houtcome]
    unfold lowerWithin
    rw [lowerBelow_branch List.not_mem_nil hf]
    unfold Traced.mapFailure
    cases (Traced.each (g.lowerBelow p k [n]) cs).outcome <;> rfl

/-- Whatever follows the rules of the nodes is lowering. -/
theorem Acyclic.eq_lowerWithin (hacyclic : g.Acyclic p.noneClassName root)
    (hnest : g.NestsWithin p.noneClassName limit root) {f : Node → Traced Failure Lowered}
    (hf : ∀ n, g.Reaches p.noneClassName root n → f n = g.lowerByRule p f n)
    (hn : g.Reaches p.noneClassName root n) : f n = g.lowerWithin p limit n := by
  refine hacyclic.induction (motive := fun n => f n = g.lowerWithin p limit n) ?_ hn
  intro n hn ih
  rw [hf n hn, lowerByRule_congr ih]
  exact (lowerWithin_eq_byRule (hacyclic.of_reaches hn) (hnest.of_reaches hacyclic hn)).symm

end Graph

end TypeLowering
