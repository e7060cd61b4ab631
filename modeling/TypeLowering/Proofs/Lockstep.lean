import Mathlib.Data.List.Forall2
import TypeLowering.Proofs.Outcome

/-!
# Two runs in step

Two graphs are lowered in step when nodes that stand opposite each other have forms that match and
are cut at the same places, and when the same holds of their children. `Lockstep` collects what this
takes for one relation between nodes below their open containers, and `Lockstep.matches` is the
conclusion: both runs give the same reference with the same imports, or both fail for nodes that stand
opposite each other. How their events are related is left open (`noted`).
-/

namespace TypeLowering

/-! ### Runs that match -/

namespace Traced

variable {ε ε' α β γ : Type}

/-- Two outcomes agree: they have the same value, or failures that are related. -/
inductive Agree (failed : ε → ε' → Prop) : Except ε α → Except ε' α → Prop
  | ok (a : α) : Agree failed (.ok a) (.ok a)
  | error {e : ε} {e' : ε'} : failed e e' → Agree failed (.error e) (.error e')

/-- Two computations match: their events are related, and their outcomes agree. -/
structure Matches (noted : List Event → List Event → Prop) (failed : ε → ε' → Prop)
    (t : Traced ε α) (t' : Traced ε' α) : Prop where
  events : noted t.events t'.events
  outcome : Agree failed t.outcome t'.outcome

/-- A relation between lists of events that respects putting lists together. -/
structure Additive (noted : List Event → List Event → Prop) : Prop where
  nil : noted [] []
  append : ∀ {a a' b b'}, noted a a' → noted b b' → noted (a ++ b) (a' ++ b')

theorem additive_eq : Additive Eq where
  nil := rfl
  append := by
    rintro a _ b _ rfl rfl
    rfl

/-- The relation that looks at no event. -/
theorem additive_true : Additive fun _ _ => True where
  nil := trivial
  append := fun _ _ => trivial

variable {noted : List Event → List Event → Prop} {failed : ε → ε' → Prop}

theorem Agree.map {o : Except ε α} {o' : Except ε' α} (h : Agree failed o o') (f : α → β) :
    Agree failed (o.map f) (o'.map f) := by
  cases h with
  | ok a => exact .ok (f a)
  | error he => exact .error he

/-- Computations on lists match if their parts do. -/
theorem Matches.each {f : α → Traced ε γ} {f' : β → Traced ε' γ} {l : List α} {l' : List β}
    (hadd : Additive noted)
    (h : List.Forall₂ (fun a b => Matches noted failed (f a) (f' b)) l l') :
    Matches noted failed (each f l) (each f' l') := by
  induction h with
  | nil => exact ⟨hadd.nil, .ok []⟩
  | @cons a b l l' hab _ ih =>
    obtain ⟨hevents, houtcome⟩ := hab
    generalize ha : (f a).outcome = o, hb : (f' b).outcome = o' at houtcome
    cases houtcome with
    | ok r =>
      rw [each_cons_of_ok ha, each_cons_of_ok hb]
      exact ⟨hadd.append hevents ih.events, ih.outcome.map (r :: ·)⟩
    | error he =>
      rw [each_cons_of_error ha, each_cons_of_error hb]
      exact ⟨hevents, .error he⟩

end Traced

/-! ### Forms that match -/

/-- Two forms match: they name their heads alike and have their children in related pairs. -/
inductive Form.Match (R : Node → Node → Prop) : Form → Form → Prop
  | leaf (l : Label) : Match R (.leaf l) (.leaf l)
  | branch (s : Slot) {cs cs' : List Node} :
      List.Forall₂ R cs cs' → Match R (.branch s cs) (.branch s cs')
  | bareCall : Match R .bareCall .bareCall
  | outside : Match R .outside .outside

/-- Obstacles of one kind: values that are related and not covered by any rule, of which the first
is below `k` more containers, or nesting that is too deep for both. -/
inductive Obstacle.Related (R : Node → Node → Prop) (k : Nat) : Obstacle → Obstacle → Prop
  | unsupported {n n' : Node} (depth : Nat) :
      R n n' → Related R k (.unsupported n (depth + k)) (.unsupported n' depth)
  | tooDeep : Related R k .tooDeep .tooDeep

namespace Graph

/-- Nodes below their open containers, related by `S`, are lowered in step. The first of two nodes is
below `k` containers more than the second, and `R` holds between them. -/
structure Lockstep (g g' : Graph) (c : String) (noted : List Event → List Event → Prop)
    (R : Node → Node → Prop) (k : Nat) (S : List Node → Node → List Node → Node → Prop) :
    Prop where
  additive : Traced.Additive noted
  related : ∀ {path n path' n'}, S path n path' n' → R n n'
  length_eq : ∀ {path n path' n'}, S path n path' n' → path.length = path'.length + k
  mem_iff : ∀ {path n path' n'}, S path n path' n' → (n ∈ path ↔ n' ∈ path')
  cut : ∀ {path n path' n'}, S path n path' n' → n ∈ path →
    noted [.cycleCut (g.shape n).kind? path.length] [.cycleCut (g'.shape n').kind? path'.length]
  overloads : ∀ {path n path' n'}, S path n path' n' → n ∉ path →
    noted (g.overloadEvents n) (g'.overloadEvents n')
  /-- Both have the same head, and their children are related below them. -/
  form : ∀ {path n path' n'}, S path n path' n' → n ∉ path →
    Form.Match (fun m m' => S (n :: path) m (n' :: path') m') (g.form c n) (g'.form c n')

/-- **What is lowered in step comes to the same.** -/
theorem Lockstep.matches {g g' : Graph} {p : Profile} {noted : List Event → List Event → Prop}
    {R : Node → Node → Prop} {k : Nat} {S : List Node → Node → List Node → Node → Prop}
    (h : Lockstep g g' p.noneClassName noted R k S) (room : Nat) {path path' : List Node}
    {n n' : Node} (hS : S path n path' n') :
    Traced.Matches noted (Obstacle.Related R k) (g.lowerBelow p room path n)
      (g'.lowerBelow p room path' n') := by
  by_cases hn : n ∈ path
  · rw [lowerBelow_of_mem hn, lowerBelow_of_mem ((h.mem_iff hS).mp hn)]
    exact ⟨h.cut hS hn, .ok _⟩
  have hn' : n' ∉ path' := fun hmem => hn ((h.mem_iff hS).mpr hmem)
  have hform := h.form hS hn
  generalize hf : g.form p.noneClassName n = f, hf' : g'.form p.noneClassName n' = f' at hform
  cases hform with
  | leaf label =>
    rw [lowerBelow_leaf hn hf, lowerBelow_leaf hn' hf']
    exact ⟨h.additive.nil, .ok _⟩
  | bareCall =>
    rw [lowerBelow_bareCall hn hf, lowerBelow_bareCall hn' hf']
    exact ⟨h.additive.nil, .ok _⟩
  | outside =>
    rw [lowerBelow_outside hn hf, lowerBelow_outside hn' hf']
    rw [h.length_eq hS]
    exact ⟨h.additive.nil, .error (.unsupported _ (h.related hS))⟩
  | branch s hcs =>
    cases room with
    | zero =>
      rw [lowerBelow_full hn hf, lowerBelow_full hn' hf']
      exact ⟨h.overloads hS hn, .error .tooDeep⟩
    | succ room =>
      have heach := Traced.Matches.each h.additive
        (hcs.imp fun m m' hm => h.matches room hm)
      rw [lowerBelow_branch hn hf, lowerBelow_branch hn' hf']
      exact ⟨h.additive.append (h.overloads hS hn) heach.events, heach.outcome.map _⟩

/-! ### From the outside -/

variable {g g' : Graph} {p : Profile} {noted : List Event → List Event → Prop}
  {R : Node → Node → Prop} {limit : Nat} {root root' : Node}

theorem lowerWithin_ok_of_matches
    (h : Traced.Matches noted (Obstacle.Related R 0) (g.lowerBelow p limit [] root)
      (g'.lowerBelow p limit [] root')) {l : Lowered}
    (hl : (g.lowerWithin p limit root).outcome = .ok l) :
    (g'.lowerWithin p limit root').outcome = .ok l := by
  have houtcome := h.outcome
  rw [lowerWithin_outcome] at hl ⊢
  generalize (g.lowerBelow p limit [] root).outcome = o,
    (g'.lowerBelow p limit [] root').outcome = o' at houtcome hl ⊢
  cases houtcome with
  | ok l' => exact hl
  | error _ => cases hl

theorem lowerWithin_unsupported_of_matches
    (h : Traced.Matches noted (Obstacle.Related R 0) (g.lowerBelow p limit [] root)
      (g'.lowerBelow p limit [] root')) {n : Node} {depth : Nat}
    (hn : (g.lowerWithin p limit root).outcome = .error (.unsupported n depth)) :
    ∃ n', R n n' ∧ (g'.lowerWithin p limit root').outcome = .error (.unsupported n' depth) := by
  have houtcome := h.outcome
  rw [lowerWithin_outcome] at hn ⊢
  generalize (g.lowerBelow p limit [] root).outcome = o,
    (g'.lowerBelow p limit [] root').outcome = o' at houtcome hn ⊢
  cases houtcome with
  | ok l => cases hn
  | error ho =>
    cases ho with
    | tooDeep => cases hn
    | @unsupported m m' depth' hR =>
      cases hn
      exact ⟨m', hR, rfl⟩

end Graph

end TypeLowering
