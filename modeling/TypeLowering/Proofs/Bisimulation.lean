import TypeLowering.Proofs.Lockstep
import TypeLowering.Proofs.Walk

/-!
# Graphs that look alike

A bisimulation relates the nodes of two graphs that look alike to lowering: they are of the same
variant with the same names, and their children stand opposite each other in order. What is not
walked does not count: the alternatives of unions, the classes of instances, all call signatures but
the first.

* `match_form`: nodes that look alike and have as many children have forms that match.
* `Bisimulation.reaches`: what can be reached on one side has an opposite on the other.
* `Bisimulation.lockstep_of_unique`: where the relation is one to one, related nodes are lowered in
  step, cycles included.
-/

namespace TypeLowering

/-- Related entries of two lists stand in the same places. -/
theorem exists_opposite_of_forall {α β : Type} {R : α → β → Prop} {l : List α} {l' : List β}
    (h : List.Forall₂ R l l') {i : Nat} {a : α} (hi : l[i]? = some a) :
    ∃ b, l'[i]? = some b ∧ R a b := by
  induction h generalizing i with
  | nil => cases hi
  | @cons a' b l l' hab _ ih =>
    cases i with
    | zero =>
      cases hi
      exact ⟨b, rfl, hab⟩
    | succ i => exact ih hi

theorem forall_mem_of_forall {α β : Type} {R : α → β → Prop} {l : List α} {l' : List β}
    (h : List.Forall₂ R l l') : List.Forall₂ (fun a b => R a b ∧ a ∈ l ∧ b ∈ l') l l' := by
  obtain ⟨hlen, hzip⟩ := List.forall₂_iff_zip.mp h
  exact List.forall₂_iff_zip.mpr ⟨hlen, fun hab => ⟨hzip hab, List.of_mem_zip hab⟩⟩

namespace Shape

variable {ρ σ : Type}

/-- Two values are of the same variant, and have the same name if they are classes or modules. Of
values that no rule covers only the type names are compared. -/
inductive Alike : Shape ρ → Shape σ → Prop
  | unknown : Alike .unknown .unknown
  | string : Alike .string .string
  | integer : Alike .integer .integer
  | float : Alike .float .float
  | boolean : Alike .boolean .boolean
  | namedClass (name : String) : Alike (.namedClass name) (.namedClass name)
  | namedModule (name : String) : Alike (.namedModule name) (.namedModule name)
  | instanceOf (cls : ρ) (cls' : σ) : Alike (.instanceOf cls) (.instanceOf cls')
  | list (e : ρ) (e' : σ) : Alike (.list e) (.list e')
  | set (e : ρ) (e' : σ) : Alike (.set e) (.set e')
  | dict (k v : ρ) (k' v' : σ) : Alike (.dict k v) (.dict k' v')
  | tuple (es : List ρ) (es' : List σ) : Alike (.tuple es) (.tuple es')
  | union (as : List ρ) (as' : List σ) : Alike (.union as) (.union as')
  | function (arrows : List (ρ × ρ)) (arrows' : List (σ × σ)) :
      Alike (.function arrows) (.function arrows')
  | outside {s : Shape ρ} {s' : Shape σ} :
      s.isClosed = false → s'.isClosed = false → s.typeName = s'.typeName → Alike s s'

theorem Alike.refl (s : Shape ρ) : s.Alike s := by
  cases s with
  | custom name => exact .outside rfl rfl rfl
  | foreign value => exact .outside rfl rfl rfl
  | _ => constructor

theorem Alike.symm {s : Shape ρ} {s' : Shape σ} (h : s.Alike s') : s'.Alike s := by
  cases h with
  | outside hs hs' hname => exact .outside hs' hs hname.symm
  | _ => constructor

theorem Alike.typeName_eq {s : Shape ρ} {s' : Shape σ} (h : s.Alike s') :
    s.typeName = s'.typeName := by
  cases h with
  | outside _ _ hname => exact hname
  | _ => rfl

theorem Alike.isClosed_eq {s : Shape ρ} {s' : Shape σ} (h : s.Alike s') :
    s.isClosed = s'.isClosed := by
  cases h with
  | outside hs hs' _ => rw [hs, hs']
  | _ => rfl

theorem eq_of_not_closed {s : Shape ρ} (h : s.isClosed = false) :
    (∃ name, s = .custom name) ∨ ∃ value, s = .foreign value := by
  cases s with
  | custom name => exact .inl ⟨name, rfl⟩
  | foreign value => exact .inr ⟨value, rfl⟩
  | _ => cases h

theorem import?_of_not_closed {s : Shape ρ} (h : s.isClosed = false) : s.import? = none := by
  rcases eq_of_not_closed h with ⟨name, rfl⟩ | ⟨value, rfl⟩ <;> rfl

theorem Alike.import?_eq {s : Shape ρ} {s' : Shape σ} (h : s.Alike s') :
    s.import? = s'.import? := by
  cases h with
  | outside hs hs' _ => rw [import?_of_not_closed hs, import?_of_not_closed hs']
  | _ => rfl

end Shape

namespace Graph

/-- Nodes that stand opposite each other look alike, and so do their children, one by one. -/
structure Bisimulation (g g' : Graph) (c : String) (R : Node → Node → Prop) : Prop where
  alike : ∀ {n n'}, R n n' → (g.shape n).Alike (g'.shape n')
  children : ∀ {n n'}, R n n' → List.Forall₂ R (g.children c n) (g'.children c n')

/-- Two nodes stand opposite each other and can be reached from two roots. -/
def Opposite (g g' : Graph) (c : String) (R : Node → Node → Prop) (root root' n n' : Node) : Prop :=
  R n n' ∧ g.Reaches c root n ∧ g'.Reaches c root' n'

variable {g g' : Graph} {c : String} {R : Node → Node → Prop} {n n' : Node}

/-- Nodes that look alike and have as many children have forms that match. -/
theorem match_form {T : Node → Node → Prop} (halike : (g.shape n).Alike (g'.shape n'))
    (hchildren : List.Forall₂ T (g.children c n) (g'.children c n')) :
    Form.Match T (g.form c n) (g'.form c n') := by
  unfold form
  unfold children at hchildren
  generalize g.shape n = s, g'.shape n' = s' at *
  cases halike with
  | unknown => exact .leaf _
  | string => exact .leaf _
  | integer => exact .leaf _
  | float => exact .leaf _
  | boolean => exact .leaf _
  | namedClass name => exact .leaf _
  | namedModule name => exact .leaf _
  | instanceOf cls cls' => exact .leaf _
  | union as as' => exact .leaf _
  | list e e' => exact .branch _ hchildren
  | set e e' => exact .branch _ hchildren
  | dict k v k' v' => exact .branch _ hchildren
  | tuple es es' => exact .branch _ hchildren
  | function arrows arrows' =>
    -- the number of children tells the callables with a result from those without
    cases arrows with
    | nil =>
      cases arrows' with
      | nil => exact .bareCall
      | cons arrow' rest' =>
        simp only at hchildren
        split at hchildren <;> cases hchildren
    | cons arrow rest =>
      cases arrows' with
      | nil =>
        simp only at hchildren
        split at hchildren <;> cases hchildren
      | cons arrow' rest' =>
        cases hr : g.isInstanceOf c arrow.2 <;> cases hr' : g'.isInstanceOf c arrow'.2 <;>
          simp only [hr, hr', if_true, Bool.false_eq_true, if_false] at hchildren ⊢
        · exact .branch _ hchildren
        · cases hchildren with
          | cons _ hrest => cases hrest
        · cases hchildren with
          | cons _ hrest => cases hrest
        · exact .branch _ hchildren
  | outside hs hs' _ =>
    rcases Shape.eq_of_not_closed hs with ⟨name, rfl⟩ | ⟨value, rfl⟩ <;>
      rcases Shape.eq_of_not_closed hs' with ⟨name', rfl⟩ | ⟨value', rfl⟩ <;> exact .outside

namespace Bisimulation

theorem refl (g : Graph) (c : String) : Bisimulation g g c Eq where
  alike := by
    rintro n _ rfl
    exact .refl _
  children := by
    rintro n _ rfl
    exact List.forall₂_same.mpr fun _ _ => rfl

theorem symm (h : Bisimulation g g' c R) : Bisimulation g' g c (flip R) where
  alike := fun hR => (h.alike hR).symm
  children := fun hR => (h.children hR).flip

theorem child (h : Bisimulation g g' c R) (hR : R n n') {m : Node} (hm : m ∈ g.children c n) :
    ∃ m' ∈ g'.children c n', R m m' := by
  obtain ⟨i, hi⟩ := List.mem_iff_getElem?.mp hm
  obtain ⟨m', hi', hR'⟩ := exists_opposite_of_forall (h.children hR) hi
  exact ⟨m', List.mem_of_getElem? hi', hR'⟩

/-- What can be reached from a node has an opposite among what can be reached from its opposite. -/
theorem reaches (h : Bisimulation g g' c R) (hR : R n n') {e : Node} (he : g.Reaches c n e) :
    ∃ e', g'.Reaches c n' e' ∧ R e e' := by
  induction he with
  | refl => exact ⟨n', .refl, hR⟩
  | tail _ hstep ih =>
    obtain ⟨e', he', hRe⟩ := ih
    obtain ⟨m', hm', hRm⟩ := h.child hRe hstep
    exact ⟨m', he'.tail hm', hRm⟩

/-- **Where the relation is one to one, related nodes are lowered in step**, below open containers
that are related as well. -/
theorem lockstep_of_unique (h : Bisimulation g g' c R) (hunique : Relator.BiUnique R) :
    Lockstep g g' c (fun _ _ => True) R 0 fun path n path' n' =>
      R n n' ∧ List.Forall₂ R path path' where
  additive := Traced.additive_true
  related := And.left
  length_eq := fun hS => hS.2.length_eq
  mem_iff := fun hS => List.rel_mem hunique hS.1 hS.2
  cut := fun _ _ => trivial
  overloads := fun _ _ => trivial
  form := by
    rintro path n path' n' ⟨hR, hpath⟩ _
    refine match_form (h.alike hR) ((h.children hR).imp fun m m' hm => ⟨hm, .cons hR hpath⟩)

theorem restrict (h : Bisimulation g g' c R) (root root' : Node) :
    Bisimulation g g' c (Opposite g g' c R root root') where
  alike := fun hR => h.alike hR.1
  children := by
    rintro n n' ⟨hR, hn, hn'⟩
    refine (forall_mem_of_forall (h.children hR)).imp fun m m' hm => ?_
    obtain ⟨hRm, hm, hm'⟩ := hm
    exact ⟨hRm, hn.tail hm, hn'.tail hm'⟩

end Bisimulation

end Graph

end TypeLowering
