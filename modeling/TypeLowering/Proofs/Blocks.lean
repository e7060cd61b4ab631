import TypeLowering.Proofs.Machine
import TypeLowering.Proofs.OpenEntries

/-!
# Work in blocks

Code that uses a guard enters a node, works, and leaves the entry it made, whether its work ended or threw.
`Works` is all that such code can do: which nodes it enters, what it asks, where it throws and where it
catches what was thrown is left open.

`Works.isNested` says that the entries are left in nested order, `Works.keeps` that the stack is left as
it was found, and `Works.exit_snd` that a block throws what was thrown inside it.
-/

namespace TypeLowering.Guard

variable {ε : Type}

/-- Work in blocks comes from a guard, by operations, to a guard, with an exception in flight or none. -/
inductive Works : Guard → List (Operation ε) → Guard → Option (Thrown ε) → Prop where
  /-- There is nothing to do. -/
  | idle (g : Guard) : Works g [] g none
  /-- Asks whether a node is contained. -/
  | ask (g : Guard) (n : Node) : Works g [.contains n] g none
  /-- Throws an exception. -/
  | throw (g : Guard) (e : ε) : Works g [] g (some (.own e))
  /-- Works inside a block. The entry of the block is left with what is in flight then. -/
  | within {g g' : Guard} {ops : List (Operation ε)} {thrown? : Option (Thrown ε)} (n : Node) :
    Works (g.enter n) ops g' thrown? →
    Works g (.enter n :: ops ++ [.leave g.isOpen.length thrown?])
      (g'.exit g.isOpen.length thrown?).1 (g'.exit g.isOpen.length thrown?).2
  /-- Goes on after other work has ended, or after what it threw has been caught. -/
  | andThen {g g' g'' : Guard} {ops ops' : List (Operation ε)} {thrown? thrown?' : Option (Thrown ε)} :
    Works g ops g' thrown? → Works g' ops' g'' thrown?' → Works g (ops ++ ops') g'' thrown?'

namespace Works

variable {g g' : Guard} {n : Node} {ops : List (Operation ε)} {thrown? : Option (Thrown ε)}

theorem run_eq (h : Works g ops g' thrown?) : g.run ops = g' := by
  induction h with
  | idle g => rfl
  | ask g n => rfl
  | throw g e => rfl
  | within n _ ih =>
    rw [← ih, run_concat]
    rfl
  | andThen _ _ ih ih' => rw [run_append, ih, ih']

/-- **Work in blocks leaves the stack as it found it**, whatever is in flight. -/
theorem keeps (h : Works g ops g' thrown?) : g.Keeps g' := by
  induction h with
  | idle g => exact .refl g
  | ask g n => exact .refl g
  | throw g e => exact .refl g
  | within n _ ih => exact ih.leave
  | andThen _ _ ih ih' => exact ih.trans ih'

/-- What was thrown inside a block goes on. -/
theorem exit_snd (h : Works (g.enter n) ops g' thrown?) :
    (g'.exit g.isOpen.length thrown?).2 = thrown? := by
  refine if_neg fun hboth => ?_
  have hstack : g'.stack = n :: g.stack := h.keeps.1
  rw [hstack] at hboth
  cases hboth.2

/-- Nothing is taken off an empty stack. -/
theorem thrown_ne_emptyStack (h : Works g ops g' thrown?) : thrown? ≠ some .emptyStack := by
  induction h with
  | idle g => exact nofun
  | ask g n => exact nofun
  | throw g e => exact nofun
  | within n h ih =>
    rw [h.exit_snd]
    exact ih
  | andThen _ _ _ ih' => exact ih'

/-- **Work in blocks leaves entries in nested order**, after whatever came before it, and leaves all that
it made. -/
theorem isNested (h : Works g ops g' thrown?) {before : List (Operation ε)} (hbefore : IsNested before)
    (hg : run {} before = g) :
    IsNested (before ++ ops) ∧ openEntries (before ++ ops) = openEntries before := by
  induction h generalizing before with
  | idle g => exact ⟨by rwa [List.append_nil], by rw [List.append_nil]⟩
  | ask g n =>
    exact ⟨hbefore.contains n, openEntries_concat_contains before n⟩
  | throw g e => exact ⟨by rwa [List.append_nil], by rw [List.append_nil]⟩
  | @within g g' ops thrown? n _ ih =>
    have hentry : g.isOpen.length = (entered before).length := by
      rw [← hg, (follows_run before).made, made_ledger]
    have hentered : run {} (before ++ [.enter n]) = g.enter n := by
      rw [run_concat, hg]
      rfl
    obtain ⟨hnested, hsame⟩ := ih (hbefore.enter n) hentered
    rw [openEntries_concat_enter] at hsame
    have hsplit : before ++ (.enter n :: ops ++ [.leave g.isOpen.length thrown?]) =
        before ++ [.enter n] ++ ops ++ [.leave (entered before).length thrown?] := by
      simp [hentry]
    rw [hsplit]
    constructor
    · refine isNested_concat.mpr ⟨hnested, fun _ e he => ?_⟩
      rw [← openEntries, hsame] at he
      rcases List.mem_append.mp he with he | he
      · exact Nat.le_of_lt (lt_of_mem_openEntries (List.mem_map_of_mem he))
      · exact Nat.le_of_eq (congrArg Prod.fst (List.mem_singleton.mp he))
    · rw [openEntries_concat_leave, hsame, filter_openEntries_concat]
  | @andThen g g' g'' ops ops' thrown? thrown?' h _ ih ih' =>
    obtain ⟨hnested, hsame⟩ := ih hbefore hg
    have hran : run {} (before ++ ops) = g' := by rw [run_append, hg, h.run_eq]
    obtain ⟨hnested', hsame'⟩ := ih' hnested hran
    rw [← List.append_assoc]
    exact ⟨hnested', hsame'.trans hsame⟩

end Works

/-- **The stack lists the open entries.** In any order there are as many nodes on the stack as entries
that were made and not left, to leave one finds a node to take off, and what is in flight goes on. In
nested order the stack lists the nodes of the open entries as they were made, and a complete block leaves
it as it found it. Work in blocks leaves its entries in nested order. -/
theorem stack_lists_open_entries :
    (∀ ops : List (Operation ε),
      (∀ entry n, (entry, n) ∈ openEntries ops ↔ IsOpen ops entry n) ∧
      ((openEntries ops).map Prod.fst).Pairwise (· < ·) ∧
      (run {} ops).depth = (openEntries ops).length ∧
      ∀ entry,
        ((∃ n, IsOpen ops entry n) →
          ∃ top rest, (run {} ops).stack = top :: rest ∧ ((run {} ops).leave entry).stack = rest) ∧
        ((¬ ∃ n, IsOpen ops entry n) → (run {} ops).leave entry = run {} ops) ∧
        ∀ thrown? : Option (Thrown ε), ((run {} ops).exit entry thrown?).2 = thrown?) ∧
    (∀ ops done : List (Operation ε), IsNested ops → done <+: ops →
      (run {} done).stack.reverse = (openEntries done).map Prod.snd ∧
      ∀ n, (run {} done).contains n = true ↔ ∃ entry, IsOpen done entry n) ∧
    (∀ (before inner : List (Operation ε)) (n : Node) (thrown? : Option (Thrown ε)),
      IsNested (before ++ .enter n :: inner ++ [.leave (entered before).length thrown?]) →
      (∀ thrown?, .leave (entered before).length thrown? ∉ inner) →
      (run {} (before ++ .enter n :: inner ++ [.leave (entered before).length thrown?])).stack =
        (run {} before).stack) ∧
    ∀ (g g' : Guard) (ops : List (Operation ε)) (thrown? : Option (Thrown ε)), Works g ops g' thrown? →
      g.run ops = g' ∧ g'.stack = g.stack ∧ thrown? ≠ some .emptyStack ∧
      (∀ before, IsNested before → run {} before = g → IsNested (before ++ ops)) ∧
      ∀ (outer : Guard) (n : Node), g = outer.enter n →
        (g'.exit outer.isOpen.length thrown?).2 = thrown? := by
  refine ⟨fun ops => ?_, ?_, fun before inner n thrown? => stack_block, ?_⟩
  · have hfollows := follows_run ops
    refine ⟨fun entry n => mem_openEntries_iff, hfollows.increasing, hfollows.depth_eq,
      fun entry => ⟨fun hopen => ?_, fun hclosed => ?_, hfollows.exit_snd entry⟩⟩
    · exact hfollows.exists_stack_eq (mem_fst_openEntries_iff.mpr hopen)
    · exact hfollows.leave_eq_self (mt mem_fst_openEntries_iff.mp hclosed)
  · intro ops done hnested hdone
    have hnested' := hnested.of_isPrefix hdone
    exact ⟨stack_run hnested', fun n => contains_run_iff hnested'⟩
  · intro g g' ops thrown? h
    refine ⟨h.run_eq, h.keeps.1, h.thrown_ne_emptyStack, fun before hbefore hg => ?_, ?_⟩
    · exact (h.isNested hbefore hg).1
    · rintro outer n rfl
      exact h.exit_snd

/-- A node is entered again inside its own block; an exception leaves the inner one, which is then left
once more. -/
def reentered : List (Operation String) :=
  [.enter ⟨7⟩, .enter ⟨8⟩, .enter ⟨7⟩, .contains ⟨7⟩, .leave 2 (some (.own "boom")), .leave 2 none]

/-- An exception goes through two blocks and is caught outside of them. -/
def caughtOutside : List (Operation String) :=
  [.enter ⟨7⟩, .enter ⟨8⟩, .leave 1 (some (.own "boom")), .leave 0 (some (.own "boom")), .contains ⟨7⟩]

theorem works_caughtOutside : Works {} caughtOutside ⟨[], [false, false]⟩ none :=
  .andThen (.within ⟨7⟩ (.within ⟨8⟩ (.throw _ "boom"))) (.ask _ ⟨7⟩)

/-- After the inner block the node is still contained, for its outer entry is open. -/
theorem stack_lists_open_entries_reentered :
    (run {} reentered).stack.reverse = [⟨7⟩, ⟨8⟩] ∧ (run {} reentered).contains ⟨7⟩ = true ∧
    (∃ top rest, (run {} reentered).stack = top :: rest ∧ ((run {} reentered).leave 1).stack = rest) ∧
    (run {} reentered).leave 2 = run {} reentered ∧
    (run {} (reentered.take 5)).stack = (run {} (reentered.take 2)).stack ∧
    run {} caughtOutside = ⟨[], [false, false]⟩ ∧ IsNested caughtOutside := by
  obtain ⟨hany, hnested, hblock, hworks⟩ := @stack_lists_open_entries String
  obtain ⟨hlists, hcontains⟩ := hnested reentered reentered (by decide) (List.prefix_refl _)
  obtain ⟨hopen, -, -, hleave⟩ := hany reentered
  refine ⟨hlists, (hcontains ⟨7⟩).mpr ⟨0, (hopen 0 ⟨7⟩).mp (by decide)⟩,
    (hleave 1).1 ⟨⟨8⟩, (hopen 1 ⟨8⟩).mp (by decide)⟩, (hleave 2).2.1 ?_, ?_, ?_⟩
  · rintro ⟨n, hn⟩
    exact absurd (mem_fst_openEntries_iff.mpr ⟨n, hn⟩) (by decide)
  · exact hblock [.enter ⟨7⟩, .enter ⟨8⟩] [.contains ⟨7⟩] ⟨7⟩ (some (.own "boom")) (by decide)
      (by simp)
  · obtain ⟨hrun, -, -, hnests, -⟩ := hworks _ _ _ _ works_caughtOutside
    exact ⟨hrun, hnests [] (by decide) rfl⟩

/-- An outer entry that is left first takes the node of the inner one off. -/
example : ¬ IsNested ([.enter ⟨7⟩, .enter ⟨8⟩, .leave 0 none] : List (Operation String)) ∧
    (run {} ([.enter ⟨7⟩, .enter ⟨8⟩, .leave 0 none] : List (Operation String))).stack = [⟨7⟩] ∧
    openEntries ([.enter ⟨7⟩, .enter ⟨8⟩, .leave 0 none] : List (Operation String)) = [(1, ⟨8⟩)] := by
  decide

end TypeLowering.Guard
