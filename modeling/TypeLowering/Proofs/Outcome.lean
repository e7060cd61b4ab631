import TypeLowering.Lowering
import TypeLowering.Proofs.Walk

/-!
# How the lowering of a node ends

`Graph.lowerBelow` is opened here and nowhere else. The lemmas `lowerBelow_of_mem` to
`lowerBelow_branch` give its trace in each case. `Lowers` and `Blocked` are rules for the two ways
in which it can end, and `ends_lowerBelow` says that there are no others.

`fits_form`: the form of a node, by which it is lowered, has the children, the namespace and the
name that its shape calls for.
-/

namespace TypeLowering

/-- In lists of one length, each entry of one stands opposite an entry of the other. -/
theorem exists_opposite {α β : Type} {l : List α} {l' : List β} (hlen : l.length = l'.length)
    {i : Nat} {a : α} (hi : l[i]? = some a) : ∃ b, l'[i]? = some b := by
  obtain ⟨hlt, -⟩ := List.getElem?_eq_some_iff.mp hi
  exact ⟨_, List.getElem?_eq_getElem (hlen ▸ hlt)⟩

namespace Traced

variable {ε α β : Type} {f : α → Traced ε β}

theorem outcome_each_cons (f : α → Traced ε β) (a : α) (l : List α) :
    (each f (a :: l)).outcome =
      (f a).outcome.bind fun b => (each f l).outcome.map fun bs => b :: bs := by
  rw [each]
  unfold Traced.bind
  cases (f a).outcome with
  | error e => rfl
  | ok b => cases (each f l).outcome <;> simp [Traced.pure, Except.bind, Except.map]

theorem events_each_cons (f : α → Traced ε β) (a : α) (l : List α) :
    (each f (a :: l)).events =
      (f a).events ++ if (f a).outcome.isOk then (each f l).events else [] := by
  rw [each]
  unfold Traced.bind
  cases (f a).outcome with
  | error e => simp [Except.isOk, Except.toBool]
  | ok b => cases (each f l).outcome <;> simp [Traced.pure, Except.isOk, Except.toBool]

theorem each_cons_of_error {a : α} {e : ε} (h : (f a).outcome = .error e) (l : List α) :
    each f (a :: l) = ⟨(f a).events, .error e⟩ := by
  show Traced.bind (f a) _ = _
  rw [Traced.bind, h]

theorem each_cons_of_ok {a : α} {b : β} (h : (f a).outcome = .ok b) (l : List α) :
    each f (a :: l) =
      ⟨(f a).events ++ (each f l).events, (each f l).outcome.map (b :: ·)⟩ := by
  have hevents := events_each_cons f a l
  have houtcome := outcome_each_cons f a l
  rw [h] at hevents houtcome
  show Traced.mk (each f (a :: l)).events (each f (a :: l)).outcome = _
  rw [hevents, houtcome]
  rfl

theorem each_congr {f f' : α → Traced ε β} {l : List α} (h : ∀ a ∈ l, f a = f' a) :
    each f l = each f' l := by
  induction l with
  | nil => rfl
  | cons a l ih =>
    rw [each, each, h a (List.mem_cons_self ..), ih fun a' ha' => h a' (List.mem_cons_of_mem _ ha')]

/-- A computation on a list has a value when each one has, and the values are theirs in order. -/
theorem each_ok {l : List α} {bs : List β} (h : (each f l).outcome = .ok bs) :
    l.length = bs.length ∧
      ∀ (i : Nat) (a : α) (b : β), l[i]? = some a → bs[i]? = some b → (f a).outcome = .ok b := by
  induction l generalizing bs with
  | nil =>
    cases h
    exact ⟨rfl, fun i a b hi => by cases hi⟩
  | cons a l ih =>
    rw [outcome_each_cons] at h
    cases ha : (f a).outcome with
    | error e => rw [ha] at h; cases h
    | ok b =>
      cases hl : (each f l).outcome with
      | error e => rw [ha, hl] at h; cases h
      | ok bs' =>
        rw [ha, hl] at h
        cases h
        obtain ⟨hlen, hall⟩ := ih hl
        refine ⟨congrArg (· + 1) hlen, fun i a' b' hi hi' => ?_⟩
        cases i with
        | zero => cases hi; cases hi'; exact ha
        | succ i => exact hall i a' b' hi hi'

/-- A computation on a list fails with the first one that fails, when all before it have values. -/
theorem each_error {l : List α} {e : ε} (h : (each f l).outcome = .error e) :
    ∃ (i : Nat) (a : α), l[i]? = some a ∧ (f a).outcome = .error e ∧
      ∀ j < i, ∀ b, l[j]? = some b → ∃ r, (f b).outcome = .ok r := by
  induction l with
  | nil => cases h
  | cons a l ih =>
    rw [outcome_each_cons] at h
    cases ha : (f a).outcome with
    | error e' =>
      rw [ha] at h
      cases h
      exact ⟨0, a, rfl, ha, fun j hj => absurd hj (Nat.not_lt_zero j)⟩
    | ok r =>
      cases hl : (each f l).outcome with
      | ok bs => rw [ha, hl] at h; cases h
      | error e' =>
        rw [ha, hl] at h
        cases h
        obtain ⟨i, a', hi, hfail, hbefore⟩ := ih hl
        refine ⟨i + 1, a', hi, hfail, fun j hj b hb => ?_⟩
        cases j with
        | zero => cases hb; exact ⟨r, ha⟩
        | succ j => exact hbefore j (Nat.lt_of_succ_lt_succ hj) b hb

end Traced

namespace Graph

/-- The name that a profile, or a class or module itself, has for the variant of a node. -/
def headName (g : Graph) (p : Profile) (n : Node) : String :=
  match g.shape n with
  | .string => p.stringName
  | .integer => p.integerName
  | .float => p.floatName
  | .boolean => p.booleanName
  | .namedClass name => name
  | .namedModule name => name
  | .list _ => p.listName
  | .set _ => p.setName
  | .dict _ _ => p.dictName
  | .tuple _ => p.tupleName
  | .function ((_, result) :: _) =>
    if g.isInstanceOf p.noneClassName result then p.procedureName else p.functionName
  | .function [] => p.functionName
  | _ => p.objectName

/-- What the form of a node says about its shape. -/
def Fits (g : Graph) (p : Profile) (n : Node) : Form → Prop
  | .leaf l =>
    (g.shape n).isClosed = true ∧ g.isContainer n = false ∧ (g.shape n).import? = none ∧
      g.children p.noneClassName n = [] ∧ l.name p = g.headName p n
  | .branch s cs =>
    g.isContainer n = true ∧ cs = g.children p.noneClassName n ∧
      s.import? = (g.shape n).import? ∧ p.name s = g.headName p n
  | .bareCall => g.shape n = .function []
  | .outside => (g.shape n).isClosed = false

variable {g : Graph} {p : Profile} {n : Node}

/-! ### Forms and shapes -/

/-- **The form of a node fits its shape.** -/
theorem fits_form (g : Graph) (p : Profile) (n : Node) :
    g.Fits p n (g.form p.noneClassName n) := by
  unfold form
  cases hs : g.shape n with
  | function arrows =>
    cases arrows with
    | nil => exact hs
    | cons arrow rest =>
      cases hr : g.isInstanceOf p.noneClassName arrow.2 with
      | true =>
        simp only [hr, if_true]
        simp [Fits, isContainer, children, headName, hs, hr, Shape.isContainer, Shape.import?,
          Slot.import?, Profile.name]
      | false =>
        simp only [hr]
        simp [Fits, isContainer, children, headName, hs, hr, Shape.isContainer, Shape.import?,
          Slot.import?, Profile.name]
  | _ =>
    simp [Fits, isContainer, children, headName, hs, Shape.isContainer, Shape.isClosed,
      Shape.import?, Slot.import?, Profile.name, Label.name]

theorem Fits.of_form {f : Form} (h : g.form p.noneClassName n = f) : g.Fits p n f :=
  h ▸ fits_form g p n

/-- The arguments of a generic reference come from the children. -/
theorem children_of_form {c : String} {s : Slot} {cs : List Node}
    (h : g.form c n = .branch s cs) : cs = g.children c n := by
  obtain ⟨-, hcs, -⟩ := Fits.of_form (p := { noneClassName := c }) h
  exact hcs

/-! ### The trace in each case -/

variable {room : Nat} {path : List Node}

theorem lowerBelow_of_mem (h : n ∈ path) :
    g.lowerBelow p room path n =
      ⟨[.cycleCut (g.shape n).kind? path.length], .ok (.opaqueType p)⟩ := by
  unfold lowerBelow
  rw [if_pos h]
  rfl

theorem lowerBelow_leaf {l : Label} (h : n ∉ path) (hf : g.form p.noneClassName n = .leaf l) :
    g.lowerBelow p room path n = ⟨[], .ok (.leaf p l)⟩ := by
  unfold lowerBelow
  rw [if_neg h, hf]
  rfl

theorem lowerBelow_bareCall (h : n ∉ path) (hf : g.form p.noneClassName n = .bareCall) :
    g.lowerBelow p room path n = ⟨[], .ok (.bareCall p)⟩ := by
  unfold lowerBelow
  rw [if_neg h, hf]
  rfl

theorem lowerBelow_outside (h : n ∉ path) (hf : g.form p.noneClassName n = .outside) :
    g.lowerBelow p room path n = ⟨[], .error (.unsupported n path.length)⟩ := by
  unfold lowerBelow
  rw [if_neg h, hf]
  rfl

theorem lowerBelow_full {s : Slot} {cs : List Node} (h : n ∉ path)
    (hf : g.form p.noneClassName n = .branch s cs) :
    g.lowerBelow p 0 path n = ⟨g.overloadEvents n, .error .tooDeep⟩ := by
  unfold lowerBelow
  rw [if_neg h, hf]
  show Traced.mk (g.overloadEvents n ++ []) _ = _
  rw [List.append_nil]
  rfl

theorem lowerBelow_branch {s : Slot} {cs : List Node} (h : n ∉ path)
    (hf : g.form p.noneClassName n = .branch s cs) :
    g.lowerBelow p (room + 1) path n =
      ⟨g.overloadEvents n ++ (Traced.each (g.lowerBelow p room (n :: path)) cs).events,
        (Traced.each (g.lowerBelow p room (n :: path)) cs).outcome.map (.branch p s)⟩ := by
  conv => lhs; unfold lowerBelow
  rw [if_neg h, hf]
  show Traced.bind (Traced.noteAll _) (fun _ => Traced.bind _ _) = _
  unfold Traced.bind
  cases (Traced.each (g.lowerBelow p room (n :: path)) cs).outcome <;>
    simp [Traced.noteAll, pure, Traced.pure, Except.map]

/-! ### The ways to end -/

/-- What a node is lowered to below the open containers `path`, where there is room enough. -/
inductive Lowers (g : Graph) (p : Profile) : List Node → Node → Lowered → Prop
  | cut {path : List Node} {n : Node} : n ∈ path → Lowers g p path n (.opaqueType p)
  | leaf {path : List Node} {n : Node} {label : Label} :
      n ∉ path → g.Fits p n (.leaf label) → Lowers g p path n (.leaf p label)
  | bareCall {path : List Node} {n : Node} :
      n ∉ path → g.Fits p n .bareCall → Lowers g p path n (.bareCall p)
  | branch {path : List Node} {n : Node} {s : Slot} {cs : List Node} {ls : List Lowered} :
      n ∉ path → g.Fits p n (.branch s cs) → cs.length = ls.length →
      (∀ (i : Nat) (m : Node) (l : Lowered), cs[i]? = some m → ls[i]? = some l →
        Lowers g p (n :: path) m l) →
      Lowers g p path n (.branch p s ls)

/-- What a node is not lowered for below the open containers `path`, with room for so many more. -/
inductive Blocked (g : Graph) (p : Profile) : Nat → List Node → Node → Obstacle → Prop
  | outside {room : Nat} {path : List Node} {n : Node} :
      n ∉ path → g.Fits p n .outside → Blocked g p room path n (.unsupported n path.length)
  | full {path : List Node} {n : Node} {s : Slot} {cs : List Node} :
      n ∉ path → g.Fits p n (.branch s cs) → Blocked g p 0 path n .tooDeep
  | child {room : Nat} {path : List Node} {n m : Node} {s : Slot} {cs : List Node} {i : Nat}
      {o : Obstacle} :
      n ∉ path → g.Fits p n (.branch s cs) → cs[i]? = some m → Blocked g p room (n :: path) m o →
      (∀ j < i, ∀ k, cs[j]? = some k → ∃ l, Lowers g p (n :: path) k l) →
      Blocked g p (room + 1) path n o

/-- What the outcome of lowering a node says. -/
def Ends (g : Graph) (p : Profile) (room : Nat) (path : List Node) (n : Node) :
    Except Obstacle Lowered → Prop
  | .ok l => g.Lowers p path n l
  | .error o => g.Blocked p room path n o

/-- **Lowering ends by the rules.** -/
theorem ends_lowerBelow (g : Graph) (p : Profile) (room : Nat) (path : List Node) (n : Node) :
    g.Ends p room path n (g.lowerBelow p room path n).outcome := by
  by_cases hn : n ∈ path
  · rw [lowerBelow_of_mem hn]
    exact Lowers.cut hn
  cases hf : g.form p.noneClassName n with
  | leaf label =>
    rw [lowerBelow_leaf hn hf]
    exact Lowers.leaf hn (.of_form hf)
  | bareCall =>
    rw [lowerBelow_bareCall hn hf]
    exact Lowers.bareCall hn (.of_form hf)
  | outside =>
    rw [lowerBelow_outside hn hf]
    exact Blocked.outside hn (.of_form hf)
  | branch s cs =>
    cases room with
    | zero =>
      rw [lowerBelow_full hn hf]
      exact Blocked.full hn (.of_form hf)
    | succ room =>
      rw [lowerBelow_branch hn hf]
      -- the children are lowered with less room: this is an induction on `room`
      have ih : ∀ m, g.Ends p room (n :: path) m (g.lowerBelow p room (n :: path) m).outcome :=
        fun m => ends_lowerBelow g p room (n :: path) m
      cases ho : (Traced.each (g.lowerBelow p room (n :: path)) cs).outcome with
      | ok ls =>
        obtain ⟨hlen, hall⟩ := Traced.each_ok ho
        refine Lowers.branch hn (.of_form hf) hlen fun i m l hm hl => ?_
        have hm' := ih m
        rwa [hall i m l hm hl] at hm'
      | error o =>
        obtain ⟨i, m, hi, hm, hbefore⟩ := Traced.each_error ho
        have hm' := ih m
        rw [hm] at hm'
        refine Blocked.child hn (.of_form hf) hi hm' fun j hj k hk => ?_
        obtain ⟨l, hl⟩ := hbefore j hj k hk
        have hk' := ih k
        rw [hl] at hk'
        exact ⟨l, hk'⟩

/-- A node that is left for a child has been lowered as a container, and so has the child. -/
theorem Lowers.of_child {l : Lowered} (h : g.Lowers p path n l) (hn : n ∉ path) {i : Nat} {m : Node}
    (hi : (g.children p.noneClassName n)[i]? = some m) :
    ∃ s ls, l = .branch p s ls ∧ ∃ a, ls[i]? = some a ∧ g.Lowers p (n :: path) m a := by
  cases h with
  | cut hn' => exact absurd hn' hn
  | leaf _ hf =>
    obtain ⟨-, -, -, hnil, -⟩ := hf
    rw [hnil] at hi
    cases hi
  | bareCall _ hf =>
    have hs : g.shape n = .function [] := hf
    rw [children, hs] at hi
    cases hi
  | @branch _ _ s cs ls _ hf hlen hall =>
    obtain ⟨-, rfl, -⟩ := hf
    obtain ⟨a, ha⟩ := exists_opposite hlen hi
    exact ⟨s, ls, rfl, a, ha, hall i m a hi ha⟩

/-! ### From the outside -/

theorem lowerWithin_outcome (g : Graph) (p : Profile) (limit : Nat) (n : Node) :
    (g.lowerWithin p limit n).outcome =
      (g.lowerBelow p limit [] n).outcome.mapError (Obstacle.toFailure n) := rfl

theorem lowers_of_lowerWithin {limit : Nat} {l : Lowered}
    (h : (g.lowerWithin p limit n).outcome = .ok l) : g.Lowers p [] n l := by
  have hends := ends_lowerBelow g p limit [] n
  rw [lowerWithin_outcome] at h
  cases ho : (g.lowerBelow p limit [] n).outcome with
  | ok l' =>
    rw [ho] at h hends
    cases h
    exact hends
  | error o =>
    rw [ho] at h
    cases h

theorem blocked_of_lowerWithin {limit : Nat} {f : Failure}
    (h : (g.lowerWithin p limit n).outcome = .error f) :
    ∃ o, o.toFailure n = f ∧ g.Blocked p limit [] n o := by
  have hends := ends_lowerBelow g p limit [] n
  rw [lowerWithin_outcome] at h
  cases ho : (g.lowerBelow p limit [] n).outcome with
  | ok l =>
    rw [ho] at h
    cases h
  | error o =>
    rw [ho] at h hends
    cases h
    exact ⟨o, rfl, hends⟩

end Graph

end TypeLowering
