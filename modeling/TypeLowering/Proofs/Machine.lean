import TypeLowering.Guard
import TypeLowering.Proofs.Outcome

/-!
# Lowering as a machine

`Graph.lowerBelow` hands the open containers down as a list and knows how many more may be opened.
The machine here works with one guard instead, which it enters when it opens a container and leaves
when it is done with it, whether or not a value below it was refused; and nothing limits it.

* `Machine.runs_call`: where lowering does not run out of room, the machine comes to the same events
  and the same outcome, and leaves the stack of its guard as it was.
* `Machine.Inv`: what holds at every moment of a run. When a node is called, the guard holds the
  nodes of a walk from the root to it, all of them containers and none of them twice.
-/

namespace TypeLowering

namespace Guard

/-- The stack is as before, and so are the entries that were there before. -/
def Keeps (guard guard' : Guard) : Prop :=
  guard'.stack = guard.stack ∧ guard.isOpen <+: guard'.isOpen

theorem Keeps.refl (guard : Guard) : guard.Keeps guard :=
  ⟨rfl, List.prefix_refl _⟩

theorem Keeps.trans {guard guard' guard'' : Guard} (h : guard.Keeps guard')
    (h' : guard'.Keeps guard'') : guard.Keeps guard'' :=
  ⟨h'.1.trans h.1, h.2.trans h'.2⟩

/-- To leave the entry that was made last, after others came and went, undoes it. -/
theorem Keeps.leave {guard guard' : Guard} {n : Node} (h : (guard.enter n).Keeps guard') :
    guard.Keeps (guard'.leave guard.isOpen.length) := by
  obtain ⟨hstack, later, hlater⟩ := h
  have hopen : guard'.isOpen[guard.isOpen.length]? = some true := by
    rw [← hlater]
    simp [enter]
  rw [Guard.leave, if_pos hopen]
  refine ⟨?_, false :: later, ?_⟩
  · show guard'.stack.tail = guard.stack
    rw [hstack]
    rfl
  · show guard.isOpen ++ false :: later = guard'.isOpen.set guard.isOpen.length false
    rw [← hlater]
    simp [enter]

end Guard

/-- A container whose children are being lowered. -/
structure Frame where
  node : Node
  slot : Slot
  /-- The number of its entry in the guard. -/
  entry : Nat
  /-- What its first children were lowered to. -/
  done : List Lowered
  /-- The children that are left. -/
  left : List Node

/-- What a machine does next. -/
inductive Control where
  /-- Looks at a node. -/
  | call (n : Node)
  /-- Goes on with the innermost container. -/
  | resume
  /-- Goes back with what a node was lowered to, or with what it was refused for. -/
  | back (outcome : Except Obstacle Lowered)

/-- A machine that lowers a node. -/
structure Machine where
  guard : Guard
  /-- The open containers, innermost first. -/
  frames : List Frame
  control : Control
  events : List Event

namespace Machine

/-- The machine that is about to look at the root. -/
def start (root : Node) : Machine :=
  ⟨{}, [], .call root, []⟩

/-- Looks at a node. -/
def call (s : Machine) (g : Graph) (p : Profile) (n : Node) : Machine :=
  if s.guard.contains n then
    { s with
      control := .back (.ok (.opaqueType p))
      events := s.events ++ [.cycleCut (g.shape n).kind? s.guard.depth] }
  else
    match g.form p.noneClassName n with
    | .leaf l => { s with control := .back (.ok (.leaf p l)) }
    | .bareCall => { s with control := .back (.ok (.bareCall p)) }
    | .outside => { s with control := .back (.error (.unsupported n s.guard.depth)) }
    | .branch slot children =>
      { guard := s.guard.enter n
        frames := ⟨n, slot, s.guard.isOpen.length, [], children⟩ :: s.frames
        control := .resume
        events := s.events ++ g.overloadEvents n }

/-- One step. A machine that goes back with no container open has ended. -/
def step (g : Graph) (p : Profile) (s : Machine) : Option Machine :=
  match s.control, s.frames with
  | .call n, _ => some (s.call g p n)
  | .resume, f :: rest =>
    match f.left with
    | m :: left => some { s with frames := { f with left } :: rest, control := .call m }
    | [] =>
      some { s with
        guard := s.guard.leave f.entry
        frames := rest
        control := .back (.ok (.branch p f.slot f.done)) }
  | .back (.ok l), f :: rest =>
    some { s with frames := { f with done := f.done ++ [l] } :: rest, control := .resume }
  | .back (.error o), f :: rest =>
    some { s with guard := s.guard.leave f.entry, frames := rest, control := .back (.error o) }
  | .resume, [] => none
  | .back _, [] => none

/-- A machine comes to another in any number of steps. -/
abbrev Runs (g : Graph) (p : Profile) : Machine → Machine → Prop :=
  Relation.ReflTransGen fun s s' => s.step g p = some s'

variable {g : Graph} {p : Profile}

theorem step_ended (guard : Guard) (o : Except Obstacle Lowered) (events : List Event) :
    (⟨guard, [], .back o, events⟩ : Machine).step g p = none := by
  cases o <;> rfl

theorem Runs.of_step {s s' : Machine} (h : s.step g p = some s') : Runs g p s s' :=
  .single h

/-- Of two runs from one machine, one goes on where the other stops; where none can, they agree. -/
theorem Runs.eq_of_ended {s t t' : Machine} (h : Runs g p s t) (h' : Runs g p s t')
    (ht : t.step g p = none) (ht' : t'.step g p = none) : t = t' := by
  have hunique : Relator.RightUnique fun s s' : Machine => s.step g p = some s' := by
    intro a b c hb hc
    exact Option.some.inj (hb.symm.trans hc)
  rcases Relation.ReflTransGen.total_of_right_unique hunique h h' with hr | hr
  · rcases Relation.ReflTransGen.cases_head hr with heq | ⟨u, hu, -⟩
    · exact heq
    · rw [ht] at hu
      cases hu
  · rcases Relation.ReflTransGen.cases_head hr with heq | ⟨u, hu, -⟩
    · exact heq.symm
    · rw [ht'] at hu
      cases hu

/-! ### The machine and the recursion -/

/-- What the machine does with a node has been done. -/
def Answers (g : Graph) (p : Profile) (guard : Guard) (n : Node) (t : Traced Obstacle Lowered) :
    Prop :=
  ∀ frames events, ∃ guard', guard.Keeps guard' ∧
    Runs g p ⟨guard, frames, .call n, events⟩
      ⟨guard', frames, .back t.outcome, events ++ t.events⟩

/-- A container is left with the outcome of its children, whether or not one was refused. -/
theorem runs_children {f : Node → Traced Obstacle Lowered} {stack : List Node}
    (hf : ∀ m guard, guard.stack = stack → (f m).outcome ≠ .error .tooDeep →
      Answers g p guard m (f m))
    {left : List Node} {guard : Guard} (hguard : guard.stack = stack)
    (hleft : (Traced.each f left).outcome ≠ .error .tooDeep) (n : Node) (slot : Slot) (entry : Nat)
    (done : List Lowered) (frames : List Frame) (events : List Event) :
    ∃ guard', guard.Keeps guard' ∧
      Runs g p ⟨guard, ⟨n, slot, entry, done, left⟩ :: frames, .resume, events⟩
        ⟨guard'.leave entry, frames,
          .back ((Traced.each f left).outcome.map fun ls => .branch p slot (done ++ ls)),
          events ++ (Traced.each f left).events⟩ := by
  induction left generalizing done guard events with
  | nil =>
    refine ⟨guard, .refl guard, .of_step ?_⟩
    simp [step, Traced.each, Traced.pure, Except.map]
  | cons m left ih =>
    rw [Traced.outcome_each_cons] at hleft
    have hm : (f m).outcome ≠ .error .tooDeep := fun h => hleft (by rw [h]; rfl)
    obtain ⟨guard', hkeeps, hrun⟩ :=
      hf m guard hguard hm (⟨n, slot, entry, done, left⟩ :: frames) events
    have hstart : Runs g p ⟨guard, ⟨n, slot, entry, done, m :: left⟩ :: frames, .resume, events⟩
        ⟨guard', ⟨n, slot, entry, done, left⟩ :: frames, .back (f m).outcome,
          events ++ (f m).events⟩ := .head rfl hrun
    rw [Traced.outcome_each_cons, Traced.events_each_cons]
    cases ho : (f m).outcome with
    | error o =>
      rw [ho] at hstart
      refine ⟨guard', hkeeps, hstart.tail ?_⟩
      simp [step, Except.bind, Except.map, Except.isOk, Except.toBool]
    | ok l =>
      rw [ho] at hstart hleft
      have hrest : (Traced.each f left).outcome ≠ .error .tooDeep :=
        fun h => hleft (by rw [h]; rfl)
      obtain ⟨guard'', hkeeps', hrun'⟩ :=
        ih (hkeeps.1.trans hguard) hrest (done ++ [l]) (events ++ (f m).events)
      refine ⟨guard'', hkeeps.trans hkeeps', ?_⟩
      have hback : Runs g p ⟨guard, ⟨n, slot, entry, done, m :: left⟩ :: frames, .resume, events⟩
          ⟨guard', ⟨n, slot, entry, done ++ [l], left⟩ :: frames, .resume,
            events ++ (f m).events⟩ := hstart.tail rfl
      refine (hback.trans hrun').trans ?_
      have hsame : (Except.ok l).bind (fun b =>
            (Traced.each f left).outcome.map fun bs => b :: bs) =
          (Traced.each f left).outcome.map fun bs => l :: bs := rfl
      rw [hsame]
      cases (Traced.each f left).outcome <;>
        simp [Except.map, Except.isOk, Except.toBool] <;> exact .refl

/-- **The machine does what the recursion does** where that does not run out of room. -/
theorem runs_call {room : Nat} {n : Node} {guard : Guard}
    (h : (g.lowerBelow p room guard.stack n).outcome ≠ .error .tooDeep) :
    Answers g p guard n (g.lowerBelow p room guard.stack n) := by
  intro frames events
  have hcontains : guard.contains n = decide (n ∈ guard.stack) := rfl
  by_cases hn : n ∈ guard.stack
  · rw [Graph.lowerBelow_of_mem hn]
    refine ⟨guard, .refl guard, .of_step ?_⟩
    simp [step, call, hcontains, hn, Guard.depth]
  cases hform : g.form p.noneClassName n with
  | leaf label =>
    rw [Graph.lowerBelow_leaf hn hform]
    refine ⟨guard, .refl guard, .of_step ?_⟩
    simp [step, call, hcontains, hn, hform]
  | bareCall =>
    rw [Graph.lowerBelow_bareCall hn hform]
    refine ⟨guard, .refl guard, .of_step ?_⟩
    simp [step, call, hcontains, hn, hform]
  | outside =>
    rw [Graph.lowerBelow_outside hn hform]
    refine ⟨guard, .refl guard, .of_step ?_⟩
    simp [step, call, hcontains, hn, hform, Guard.depth]
  | branch slot children =>
    cases room with
    | zero =>
      rw [Graph.lowerBelow_full hn hform] at h
      exact absurd rfl h
    | succ room =>
      rw [Graph.lowerBelow_branch hn hform] at h ⊢
      have hchildren : (Traced.each (g.lowerBelow p room (n :: guard.stack)) children).outcome ≠
          .error .tooDeep := fun ho => h (by rw [ho]; rfl)
      have henter : (guard.enter n).stack = n :: guard.stack := rfl
      -- whatever guard the children are called with, its stack is the one of the recursion
      obtain ⟨guard', hkeeps, hrun⟩ := runs_children
        (fun m guard' hstack hm => hstack ▸ runs_call (hstack ▸ hm)) henter hchildren n slot
        guard.isOpen.length [] frames (events ++ g.overloadEvents n)
      refine ⟨_, hkeeps.leave, .head ?_ (hrun.trans ?_)⟩
      · simp [step, call, hcontains, hn, hform]
      · rw [List.append_assoc]
        exact .refl

/-! ### What holds in every run -/

/-- What holds at every moment of a run from `root`. -/
structure Inv (g : Graph) (c : String) (root : Node) (s : Machine) : Prop where
  /-- The guard holds the open containers. -/
  stack_eq : s.guard.stack = s.frames.map Frame.node
  isOpen : ∀ f ∈ s.frames, s.guard.isOpen[f.entry]? = some true
  entries : (s.frames.map Frame.entry).Nodup
  nodup : s.guard.stack.Nodup
  isContainer : ∀ m ∈ s.guard.stack, g.isContainer m = true
  /-- What is left of a container are children of it. -/
  left : ∀ f ∈ s.frames, ∀ m ∈ f.left, m ∈ g.children c f.node
  /-- Below the containers that were opened before it, a walk from the root leads to a container. -/
  walk : ∀ m below, m :: below <:+ s.guard.stack → ∃ pos, g.Walk c root pos below.reverse m
  /-- Below all open containers, one leads to the node that is called. -/
  called : ∀ n, s.control = .call n → ∃ pos, g.Walk c root pos s.guard.stack.reverse n

namespace Inv

variable {c : String} {root : Node} {guard : Guard} {f f' : Frame} {rest frames : List Frame}
  {control control' : Control} {events events' : List Event}

theorem start (g : Graph) (c : String) (root : Node) : Inv g c root (start root) where
  stack_eq := rfl
  isOpen := fun f hf => absurd hf List.not_mem_nil
  entries := List.nodup_nil
  nodup := List.nodup_nil
  isContainer := fun m hm => absurd hm List.not_mem_nil
  left := fun f hf => absurd hf List.not_mem_nil
  walk := fun m below h => by cases List.eq_nil_of_suffix_nil h
  called := fun n hn => by cases hn; exact ⟨[], .refl root⟩

/-- To go back from a node without having opened it changes nothing. -/
theorem back (h : Inv g c root ⟨guard, frames, control, events⟩) (o : Except Obstacle Lowered)
    (events' : List Event) : Inv g c root ⟨guard, frames, .back o, events'⟩ :=
  { h with called := fun n hn => by cases hn }

/-- The innermost container may come closer to its end. -/
theorem advance (h : Inv g c root ⟨guard, f :: rest, control, events⟩) (hnode : f'.node = f.node)
    (hentry : f'.entry = f.entry) (hleft : ∀ m ∈ f'.left, m ∈ f.left)
    (hcalled : ∀ n, control' = .call n → n ∈ f.left) :
    Inv g c root ⟨guard, f' :: rest, control', events'⟩ where
  stack_eq := by
    rw [List.map_cons, hnode]
    exact h.stack_eq
  isOpen := by
    intro k hk
    rcases List.mem_cons.mp hk with rfl | hk
    · rw [hentry]
      exact h.isOpen f (List.mem_cons_self ..)
    · exact h.isOpen k (List.mem_cons_of_mem _ hk)
  entries := by
    rw [List.map_cons, hentry]
    exact h.entries
  nodup := h.nodup
  isContainer := h.isContainer
  left := by
    intro k hk m hm
    rcases List.mem_cons.mp hk with rfl | hk
    · rw [hnode]
      exact h.left f (List.mem_cons_self ..) m (hleft m hm)
    · exact h.left k (List.mem_cons_of_mem _ hk) m hm
  walk := h.walk
  called := by
    intro n hn
    have hstack : guard.stack = f.node :: rest.map Frame.node := h.stack_eq
    obtain ⟨pos, hw⟩ := h.walk f.node (rest.map Frame.node) (hstack ▸ List.suffix_refl _)
    obtain ⟨i, hi⟩ :=
      List.mem_iff_getElem?.mp (h.left f (List.mem_cons_self ..) n (hcalled n hn))
    show ∃ pos, g.Walk c root pos guard.stack.reverse n
    rw [hstack, List.reverse_cons]
    exact ⟨_, hw.snoc hi⟩

/-- A container is opened. -/
theorem enter {n : Node} {slot : Slot} (h : Inv g c root ⟨guard, frames, .call n, events⟩)
    (hn : n ∉ guard.stack) (hcont : g.isContainer n = true) :
    Inv g c root ⟨guard.enter n, ⟨n, slot, guard.isOpen.length, [], g.children c n⟩ :: frames,
      .resume, events'⟩ where
  stack_eq := congrArg (n :: ·) h.stack_eq
  isOpen := by
    intro k hk
    show (guard.isOpen ++ [true])[k.entry]? = some true
    rcases List.mem_cons.mp hk with rfl | hk
    · simp
    · have hold : guard.isOpen[k.entry]? = some true := h.isOpen k hk
      obtain ⟨hlt, -⟩ := List.getElem?_eq_some_iff.mp hold
      rw [List.getElem?_append_left hlt]
      exact hold
  entries := by
    refine List.nodup_cons.mpr ⟨fun hmem => ?_, h.entries⟩
    obtain ⟨k, hk, hentry⟩ := List.mem_map.mp hmem
    have hold : guard.isOpen[k.entry]? = some true := h.isOpen k hk
    obtain ⟨hlt, -⟩ := List.getElem?_eq_some_iff.mp hold
    exact absurd hentry (Nat.ne_of_lt hlt)
  nodup := List.nodup_cons.mpr ⟨hn, h.nodup⟩
  isContainer := by
    intro m hm
    rcases List.mem_cons.mp hm with rfl | hm
    · exact hcont
    · exact h.isContainer m hm
  left := by
    intro k hk m hm
    rcases List.mem_cons.mp hk with rfl | hk
    · exact hm
    · exact h.left k hk m hm
  walk := by
    intro m below hsuffix
    rcases List.suffix_cons_iff.mp hsuffix with heq | hsuffix
    · cases heq
      exact h.called n rfl
    · exact h.walk m below hsuffix
  called := fun m hm => by cases hm

/-- A container is left, and the entry that ends is its own. -/
theorem leave (h : Inv g c root ⟨guard, f :: rest, control, events⟩)
    (o : Except Obstacle Lowered) (events' : List Event) :
    Inv g c root ⟨guard.leave f.entry, rest, .back o, events'⟩ := by
  have hopen : guard.isOpen[f.entry]? = some true := h.isOpen f (List.mem_cons_self ..)
  have hstack : guard.stack = f.node :: rest.map Frame.node := h.stack_eq
  have hleave : guard.leave f.entry = ⟨rest.map Frame.node, guard.isOpen.set f.entry false⟩ := by
    rw [Guard.leave, if_pos hopen, hstack]
    rfl
  obtain ⟨hentry, hentries⟩ := List.nodup_cons.mp h.entries
  rw [hleave]
  refine ⟨rfl, ?_, hentries, ?_, ?_, ?_, ?_, fun n hn => by cases hn⟩
  · intro k hk
    have hne : f.entry ≠ k.entry := fun heq => hentry (List.mem_map.mpr ⟨k, hk, heq.symm⟩)
    show (guard.isOpen.set f.entry false)[k.entry]? = some true
    rw [List.getElem?_set_ne hne]
    exact h.isOpen k (List.mem_cons_of_mem _ hk)
  · have hall : (f.node :: rest.map Frame.node).Nodup := hstack ▸ h.nodup
    exact (List.nodup_cons.mp hall).2
  · intro m hm
    have hmem : m ∈ guard.stack := hstack ▸ List.mem_cons_of_mem _ hm
    exact h.isContainer m hmem
  · exact fun k hk => h.left k (List.mem_cons_of_mem _ hk)
  · intro m below hsuffix
    have hstart : m :: below <:+ guard.stack := hstack ▸ hsuffix.trans (List.suffix_cons ..)
    exact h.walk m below hstart

end Inv

/-- **Every step keeps what holds in a run.** -/
theorem inv_step {root : Node} {s s' : Machine} (h : Inv g p.noneClassName root s)
    (hstep : s.step g p = some s') : Inv g p.noneClassName root s' := by
  obtain ⟨guard, frames, control, events⟩ := s
  cases control with
  | call n =>
    cases hstep
    show Inv g p.noneClassName root (call _ g p n)
    unfold call
    by_cases hn : n ∈ guard.stack
    · have hcontains : guard.contains n = true := decide_eq_true hn
      rw [if_pos hcontains]
      exact h.back _ _
    · have hcontains : ¬ guard.contains n = true := fun hc => hn (of_decide_eq_true hc)
      rw [if_neg hcontains]
      cases hform : g.form p.noneClassName n with
      | leaf label => exact h.back _ _
      | bareCall => exact h.back _ _
      | outside => exact h.back _ _
      | branch slot children =>
        obtain ⟨hcont, rfl, -⟩ := Graph.Fits.of_form hform
        exact h.enter hn hcont
  | resume =>
    cases frames with
    | nil => cases hstep
    | cons f rest =>
      obtain ⟨node, slot, entry, done, left⟩ := f
      cases left with
      | nil =>
        cases hstep
        exact h.leave _ _
      | cons m left =>
        cases hstep
        refine h.advance rfl rfl (fun k hk => List.mem_cons_of_mem _ hk) fun k hk => ?_
        cases hk
        exact List.mem_cons_self ..
  | back o =>
    cases frames with
    | nil => cases o <;> cases hstep
    | cons f rest =>
      cases o with
      | error o =>
        cases hstep
        exact h.leave _ _
      | ok l =>
        cases hstep
        exact h.advance rfl rfl (fun _ hm => hm) fun k hk => by cases hk

/-- What holds in a run holds in all of it. -/
theorem inv_of_runs {root : Node} {s : Machine} (h : Runs g p (start root) s) :
    Inv g p.noneClassName root s := by
  induction h with
  | refl => exact .start g p.noneClassName root
  | tail _ hstep ih => exact inv_step ih hstep

end Machine

end TypeLowering
