import Mathlib.Data.List.Induction
import TypeLowering.Guard

/-!
# Open entries of a guard

A guard takes the top off its stack whichever entry is left, so what is on the stack depends on the order
in which entries are left. How high it is does not.

* `Ledger`: the entries that operations leave open, in the order in which they were made.
  `mem_openEntries_iff` says which these are without it.
* `follows_run`: whatever the order, the stack is as high as there are open entries. So nothing is ever
  taken off an empty stack, and an exception in flight goes on (`Follows.exit_snd`).
* `stack_run`: where every entry is left before those that were made earlier (`IsNested`), the stack
  lists the nodes of the open entries.
* `stack_block`: a complete block in nested order leaves the stack as it found it.
-/

namespace TypeLowering.Guard

variable {ε : Type}

/-- Does what it is asked for, one after another. -/
def run (g : Guard) (ops : List (Operation ε)) : Guard :=
  ops.foldl (fun g op => (g.perform op).1) g

/-- The node that an operation makes an entry for. -/
def Operation.entered? : Operation ε → Option Node
  | .enter n => some n
  | _ => none

/-- The nodes that entries are made for, in their order. -/
def entered (ops : List (Operation ε)) : List Node :=
  ops.filterMap Operation.entered?

/-- An entry, given by its number, is made for a node and not left after that. -/
def IsOpen (ops : List (Operation ε)) (entry : Nat) (n : Node) : Prop :=
  ∃ before after, ops = before ++ .enter n :: after ∧ (entered before).length = entry ∧
    ∀ thrown?, .leave entry thrown? ∉ after

/-- How many entries were made, and those that are open, with their numbers. -/
structure Ledger where
  made : Nat := 0
  opened : List (Nat × Node) := []

/-- Notes an operation. -/
def Ledger.note (l : Ledger) : Operation ε → Ledger
  | .enter n => ⟨l.made + 1, l.opened ++ [(l.made, n)]⟩
  | .leave entry _ => ⟨l.made, l.opened.filter fun e => e.1 ≠ entry⟩
  | .contains _ => l

/-- An entry is not left while one is open that was made later. -/
def Ledger.Allows (l : Ledger) : Operation ε → Prop
  | .leave entry _ => entry ∈ l.opened.map Prod.fst → ∀ e ∈ l.opened, e.1 ≤ entry
  | _ => True

instance (l : Ledger) (op : Operation ε) : Decidable (l.Allows op) :=
  match op with
  | .leave entry _ =>
    inferInstanceAs (Decidable (entry ∈ l.opened.map Prod.fst → ∀ e ∈ l.opened, e.1 ≤ entry))
  | .enter _ => .isTrue trivial
  | .contains _ => .isTrue trivial

/-- The ledger of operations. -/
def ledger (ops : List (Operation ε)) : Ledger :=
  ops.foldl Ledger.note {}

/-- The entries that operations leave open, in the order in which they were made. -/
def openEntries (ops : List (Operation ε)) : List (Nat × Node) :=
  (ledger ops).opened

/-- Whenever an open entry is left, it is the last of those that are open. -/
def IsNested (ops : List (Operation ε)) : Prop :=
  ∀ before entry thrown? after, ops = before ++ .leave entry thrown? :: after →
    ∀ n, IsOpen before entry n → ∀ later m, IsOpen before later m → later ≤ entry

variable {ops ops' before inner : List (Operation ε)} {op : Operation ε} {g : Guard} {l : Ledger}
  {entry : Nat} {n : Node}

theorem run_concat (g : Guard) (ops : List (Operation ε)) (op : Operation ε) :
    g.run (ops ++ [op]) = ((g.run ops).perform op).1 := by
  rw [run, List.foldl_append]
  rfl

theorem run_append (g : Guard) (ops ops' : List (Operation ε)) :
    g.run (ops ++ ops') = (g.run ops).run ops' :=
  List.foldl_append

theorem ledger_concat (ops : List (Operation ε)) (op : Operation ε) :
    ledger (ops ++ [op]) = (ledger ops).note op := by
  rw [ledger, List.foldl_append]
  rfl

theorem entered_concat (ops : List (Operation ε)) (op : Operation ε) :
    entered (ops ++ [op]) = entered ops ++ op.entered?.toList := by
  rw [entered, List.filterMap_append]
  cases op <;> rfl

theorem made_ledger (ops : List (Operation ε)) : (ledger ops).made = (entered ops).length := by
  induction ops using List.reverseRecOn with
  | nil => rfl
  | append_singleton ops op ih =>
    rw [ledger_concat, entered_concat, List.length_append, ← ih]
    cases op <;> rfl

@[simp]
theorem openEntries_concat_enter (ops : List (Operation ε)) (n : Node) :
    openEntries (ops ++ [.enter n]) = openEntries ops ++ [((entered ops).length, n)] := by
  rw [openEntries, ledger_concat, ← made_ledger]
  rfl

@[simp]
theorem openEntries_concat_leave (ops : List (Operation ε)) (entry : Nat)
    (thrown? : Option (Thrown ε)) :
    openEntries (ops ++ [.leave entry thrown?]) =
      (openEntries ops).filter fun e => e.1 ≠ entry := by
  rw [openEntries, ledger_concat]
  rfl

@[simp]
theorem openEntries_concat_contains (ops : List (Operation ε)) (n : Node) :
    openEntries (ops ++ [.contains n]) = openEntries ops := by
  rw [openEntries, ledger_concat]
  rfl

/-- A list with one more member at its end, taken apart at a member: either it is that last one, or the
list without it is taken apart. -/
theorem concat_eq_iff {α : Type} {l before after : List α} {a b : α} :
    l ++ [a] = before ++ b :: after ↔
      (after = [] ∧ l = before ∧ a = b) ∨ ∃ rest, after = rest ++ [a] ∧ l = before ++ b :: rest := by
  constructor
  · intro h
    rcases List.eq_nil_or_concat after with rfl | ⟨rest, c, rfl⟩
    · obtain ⟨hl, ha⟩ := List.append_inj' h rfl
      exact .inl ⟨rfl, hl, List.head_eq_of_cons_eq ha⟩
    · rw [List.concat_eq_append, ← List.cons_append, ← List.append_assoc] at h
      obtain ⟨hl, ha⟩ := List.append_inj' h rfl
      cases List.head_eq_of_cons_eq ha
      exact .inr ⟨rest, List.concat_eq_append, hl⟩
  · rintro (⟨rfl, rfl, rfl⟩ | ⟨rest, rfl, rfl⟩)
    · rfl
    · simp

/-! ### Which entries are open -/

theorem isOpen_concat_enter {m : Node} :
    IsOpen (ops ++ [.enter m]) entry n ↔
      IsOpen ops entry n ∨ (entry = (entered ops).length ∧ n = m) := by
  constructor
  · rintro ⟨before, after, hops, hentry, hleft⟩
    rcases concat_eq_iff.mp hops with ⟨rfl, rfl, hm⟩ | ⟨rest, rfl, rfl⟩
    · cases hm
      exact .inr ⟨hentry.symm, rfl⟩
    · exact .inl ⟨before, rest, rfl, hentry,
        fun thrown? hmem => hleft thrown? (List.mem_append_left _ hmem)⟩
  · rintro (⟨before, after, rfl, hentry, hleft⟩ | ⟨rfl, rfl⟩)
    · refine ⟨before, after ++ [.enter m], by simp, hentry, fun thrown? hmem => ?_⟩
      rcases List.mem_append.mp hmem with hmem | hmem
      · exact hleft thrown? hmem
      · cases List.mem_singleton.mp hmem
    · exact ⟨ops, [], rfl, rfl, fun thrown? => List.not_mem_nil⟩

theorem isOpen_concat_leave {left : Nat} {thrown? : Option (Thrown ε)} :
    IsOpen (ops ++ [.leave left thrown?]) entry n ↔ IsOpen ops entry n ∧ entry ≠ left := by
  constructor
  · rintro ⟨before, after, hops, hentry, hleft⟩
    rcases concat_eq_iff.mp hops with ⟨rfl, rfl, hm⟩ | ⟨rest, rfl, rfl⟩
    · cases hm
    · refine ⟨⟨before, rest, rfl, hentry,
        fun thrown? hmem => hleft thrown? (List.mem_append_left _ hmem)⟩, ?_⟩
      rintro rfl
      exact hleft thrown? (List.mem_append_right _ (List.mem_singleton_self _))
  · rintro ⟨⟨before, after, rfl, hentry, hleft⟩, hne⟩
    refine ⟨before, after ++ [.leave left thrown?], by simp, hentry, fun thrown' hmem => ?_⟩
    rcases List.mem_append.mp hmem with hmem | hmem
    · exact hleft thrown' hmem
    · cases List.mem_singleton.mp hmem
      exact hne rfl

theorem isOpen_concat_contains {m : Node} :
    IsOpen (ops ++ [.contains m]) entry n ↔ IsOpen ops entry n := by
  constructor
  · rintro ⟨before, after, hops, hentry, hleft⟩
    rcases concat_eq_iff.mp hops with ⟨rfl, rfl, hm⟩ | ⟨rest, rfl, rfl⟩
    · cases hm
    · exact ⟨before, rest, rfl, hentry,
        fun thrown? hmem => hleft thrown? (List.mem_append_left _ hmem)⟩
  · rintro ⟨before, after, rfl, hentry, hleft⟩
    refine ⟨before, after ++ [.contains m], by simp, hentry, fun thrown? hmem => ?_⟩
    rcases List.mem_append.mp hmem with hmem | hmem
    · exact hleft thrown? hmem
    · cases List.mem_singleton.mp hmem

/-- **The ledger is right**: an entry is in it if it was made and has not been left since. -/
theorem mem_openEntries_iff : (entry, n) ∈ openEntries ops ↔ IsOpen ops entry n := by
  induction ops using List.reverseRecOn generalizing entry n with
  | nil =>
    refine ⟨fun h => absurd h List.not_mem_nil, ?_⟩
    rintro ⟨before, after, hops, -⟩
    cases before <;> cases hops
  | append_singleton ops op ih =>
    cases op with
    | enter m =>
      rw [isOpen_concat_enter, ← ih]
      simp
    | leave left thrown? =>
      rw [isOpen_concat_leave, ← ih]
      simp
    | contains m => rw [isOpen_concat_contains, ← ih, openEntries_concat_contains]

theorem mem_fst_openEntries_iff :
    entry ∈ (openEntries ops).map Prod.fst ↔ ∃ n, IsOpen ops entry n := by
  simp only [List.mem_map, Prod.exists, exists_and_right, exists_eq_right, mem_openEntries_iff]

/-! ### Any order -/

theorem filter_of_not_mem {opened : List (Nat × Node)} (hmem : entry ∉ opened.map Prod.fst) :
    (opened.filter fun e => e.1 ≠ entry) = opened := by
  refine List.filter_eq_self.mpr fun e he => decide_eq_true fun heq => ?_
  exact hmem (heq ▸ List.mem_map_of_mem he)

/-- Where the numbers of entries increase, to leave one takes one entry out. -/
theorem filter_of_mem {opened : List (Nat × Node)} (h : (opened.map Prod.fst).Pairwise (· < ·))
    (hmem : entry ∈ opened.map Prod.fst) :
    ∃ before n after, opened = before ++ (entry, n) :: after ∧
      (opened.filter fun e => e.1 ≠ entry) = before ++ after := by
  obtain ⟨⟨i, n⟩, hin, rfl⟩ := List.mem_map.mp hmem
  obtain ⟨before, after, rfl⟩ := List.append_of_mem hin
  rw [List.map_append, List.map_cons] at h
  obtain ⟨-, hrest, hacross⟩ := List.pairwise_append.mp h
  have hbefore : i ∉ before.map Prod.fst := fun hi =>
    Nat.lt_irrefl i (hacross i hi i List.mem_cons_self)
  have hafter : i ∉ after.map Prod.fst := fun hi =>
    Nat.lt_irrefl i ((List.pairwise_cons.mp hrest).1 i hi)
  refine ⟨before, n, after, rfl, ?_⟩
  rw [List.filter_append, filter_of_not_mem hbefore, List.filter_cons_of_neg (by simp),
    filter_of_not_mem hafter]

/-- Where the numbers of entries increase, none comes after the greatest. -/
theorem eq_nil_of_forall_le {before after : List (Nat × Node)}
    (h : ((before ++ (entry, n) :: after).map Prod.fst).Pairwise (· < ·))
    (hle : ∀ e ∈ before ++ (entry, n) :: after, e.1 ≤ entry) : after = [] := by
  rw [List.map_append, List.map_cons] at h
  have hafter := (List.pairwise_cons.mp (List.pairwise_append.mp h).2.1).1
  refine List.eq_nil_iff_forall_not_mem.mpr fun e he => ?_
  have hmem : e ∈ before ++ (entry, n) :: after :=
    List.mem_append_right _ (List.mem_cons_of_mem _ he)
  exact Nat.not_lt.mpr (hle e hmem) (hafter e.1 (List.mem_map_of_mem he))

theorem map_fst_filter (opened : List (Nat × Node)) (entry : Nat) :
    (opened.filter fun e => e.1 ≠ entry).map Prod.fst =
      (opened.map Prod.fst).filter fun i => i ≠ entry := by
  rw [List.filter_map]
  rfl

/-- A guard is what a ledger says, but for what is on the stack. -/
structure Follows (g : Guard) (l : Ledger) : Prop where
  made : g.isOpen.length = l.made
  isOpen_iff : ∀ entry, g.isOpen[entry]? = some true ↔ entry ∈ l.opened.map Prod.fst
  increasing : (l.opened.map Prod.fst).Pairwise (· < ·)
  depth_eq : g.depth = l.opened.length

namespace Follows

theorem lt_made (h : Follows g l) (hentry : entry ∈ l.opened.map Prod.fst) : entry < l.made := by
  obtain ⟨hlt, -⟩ := List.getElem?_eq_some_iff.mp ((h.isOpen_iff entry).mpr hentry)
  exact h.made ▸ hlt

theorem enter (h : Follows g l) (n : Node) : Follows (g.enter n) (l.note (.enter n : Operation ε)) where
  made := by
    show (g.isOpen ++ [true]).length = l.made + 1
    rw [List.length_append, h.made]
    rfl
  isOpen_iff := by
    intro entry
    show (g.isOpen ++ [true])[entry]? = some true ↔ entry ∈ (l.opened ++ [(l.made, n)]).map Prod.fst
    rw [List.map_append, List.mem_append, ← h.isOpen_iff, ← h.made]
    rcases Nat.lt_trichotomy entry g.isOpen.length with hlt | heq | hgt
    · rw [List.getElem?_append_left hlt]
      simp [Nat.ne_of_lt hlt]
    · simp [heq]
    · have hnone : (g.isOpen ++ [true])[entry]? = none :=
        List.getElem?_eq_none (by rw [List.length_append]; exact hgt)
      rw [hnone, List.getElem?_eq_none (Nat.le_of_lt hgt)]
      simp [Nat.ne_of_gt hgt]
  increasing := by
    show ((l.opened ++ [(l.made, n)]).map Prod.fst).Pairwise (· < ·)
    rw [List.map_append]
    refine List.pairwise_append.mpr ⟨h.increasing, List.pairwise_singleton _ _, ?_⟩
    intro entry hentry made hmade
    rw [List.mem_singleton.mp hmade]
    exact h.lt_made hentry
  depth_eq := by
    show (g.enter n).depth = (l.opened ++ [(l.made, n)]).length
    rw [depth_enter, h.depth_eq, List.length_append]
    rfl

theorem leave (h : Follows g l) (entry : Nat) (thrown? : Option (Thrown ε)) :
    Follows (g.leave entry) (l.note (.leave entry thrown?)) := by
  unfold Guard.leave
  split
  · next hopen =>
    have hmem := (h.isOpen_iff entry).mp hopen
    obtain ⟨hlt, -⟩ := List.getElem?_eq_some_iff.mp hopen
    obtain ⟨before, n, after, hopened, hfilter⟩ := filter_of_mem h.increasing hmem
    refine ⟨(List.length_set ..).trans h.made, fun other => ?_, ?_, ?_⟩
    · show (g.isOpen.set entry false)[other]? = some true ↔ other ∈ List.map _ (List.filter _ _)
      rw [map_fst_filter, List.mem_filter, ← h.isOpen_iff, List.getElem?_set]
      by_cases heq : entry = other
      · subst heq
        simp [hlt]
      · simp [heq, Ne.symm heq]
    · show (List.map _ (List.filter _ _)).Pairwise _
      rw [map_fst_filter]
      exact h.increasing.filter _
    · show g.stack.tail.length = (l.opened.filter _).length
      rw [hfilter, List.length_tail, ← Guard.depth, h.depth_eq, hopened]
      simp
  · next hclosed =>
    have hsame : l.note (.leave entry thrown?) = l := by
      rw [Ledger.note, filter_of_not_mem fun hmem => hclosed ((h.isOpen_iff entry).mpr hmem)]
    rw [hsame]
    exact h

/-- **What one operation keeps.** -/
theorem perform (h : Follows g l) (op : Operation ε) : Follows (g.perform op).1 (l.note op) := by
  cases op with
  | enter n => exact h.enter n
  | leave entry thrown? => exact h.leave entry thrown?
  | contains n => exact h

theorem stack_ne_nil (h : Follows g l) (hentry : entry ∈ l.opened.map Prod.fst) :
    g.stack ≠ [] := by
  intro hnil
  have hdepth := h.depth_eq
  rw [depth, hnil] at hdepth
  rw [List.length_eq_zero_iff.mp hdepth.symm] at hentry
  exact List.not_mem_nil hentry

/-- To leave an open entry takes the top off a stack that has one. -/
theorem exists_stack_eq (h : Follows g l) (hentry : entry ∈ l.opened.map Prod.fst) :
    ∃ top rest, g.stack = top :: rest ∧ (g.leave entry).stack = rest := by
  obtain ⟨top, rest, hstack⟩ := List.exists_cons_of_ne_nil (h.stack_ne_nil hentry)
  refine ⟨top, rest, hstack, ?_⟩
  rw [Guard.leave, if_pos ((h.isOpen_iff entry).mpr hentry)]
  exact congrArg List.tail hstack

theorem leave_eq_self (h : Follows g l) (hentry : entry ∉ l.opened.map Prod.fst) :
    g.leave entry = g :=
  if_neg fun hopen => hentry ((h.isOpen_iff entry).mp hopen)

/-- What is in flight when an entry is left goes on, for nothing is taken off an empty stack. -/
theorem exit_snd (h : Follows g l) (entry : Nat) (thrown? : Option (Thrown ε)) :
    (g.exit entry thrown?).2 = thrown? := by
  refine if_neg fun hboth => ?_
  obtain ⟨hopen, hempty⟩ := hboth
  exact h.stack_ne_nil ((h.isOpen_iff entry).mp hopen) (List.isEmpty_iff.mp hempty)

/-! ### Nested order -/

/-- What one operation keeps in nested order. -/
theorem stack_perform (h : Follows g l) (hstack : g.stack.reverse = l.opened.map Prod.snd)
    (hop : l.Allows op) : (g.perform op).1.stack.reverse = (l.note op).opened.map Prod.snd := by
  cases op with
  | enter n =>
    show (n :: g.stack).reverse = (l.opened ++ [(l.made, n)]).map Prod.snd
    rw [List.reverse_cons, hstack, List.map_append]
    rfl
  | leave entry thrown? =>
    show (g.leave entry).stack.reverse = (l.opened.filter fun e => e.1 ≠ entry).map Prod.snd
    unfold Guard.leave
    split
    · next hopen =>
      have hmem := (h.isOpen_iff entry).mp hopen
      obtain ⟨before, n, after, hopened, hfilter⟩ := filter_of_mem h.increasing hmem
      have hincreasing := h.increasing
      have hle := hop hmem
      rw [hopened] at hincreasing hle
      have hlast : after = [] := eq_nil_of_forall_le hincreasing hle
      rw [hfilter, hlast, List.append_nil]
      rw [hopened, hlast, List.map_append] at hstack
      have hreverse : g.stack = n :: (before.map Prod.snd).reverse := by
        rw [← List.reverse_reverse g.stack, hstack]
        simp
      rw [hreverse]
      exact List.reverse_reverse _
    · next hclosed =>
      rw [filter_of_not_mem fun hmem => hclosed ((h.isOpen_iff entry).mpr hmem)]
      exact hstack
  | contains n => exact hstack

end Follows

theorem follows_start : Follows {} {} where
  made := rfl
  isOpen_iff := fun entry => by simp
  increasing := .nil
  depth_eq := rfl

/-- **The stack is as high as there are open entries**, in whatever order they are left. -/
theorem follows_run (ops : List (Operation ε)) : Follows (run {} ops) (ledger ops) := by
  induction ops using List.reverseRecOn with
  | nil => exact follows_start
  | append_singleton ops op ih =>
    rw [run_concat, ledger_concat]
    exact ih.perform op

theorem allows_leave_iff {thrown? : Option (Thrown ε)} :
    (ledger ops).Allows (.leave entry thrown?) ↔
      ∀ n, IsOpen ops entry n → ∀ later m, IsOpen ops later m → later ≤ entry := by
  constructor
  · intro h n hn later m hlater
    exact h (mem_fst_openEntries_iff.mpr ⟨n, hn⟩) (later, m) (mem_openEntries_iff.mpr hlater)
  · intro h hentry e he
    obtain ⟨n, hn⟩ := mem_fst_openEntries_iff.mp hentry
    exact h n hn e.1 e.2 (mem_openEntries_iff.mp he)

theorem isNested_concat : IsNested (ops ++ [op]) ↔ IsNested ops ∧ (ledger ops).Allows op := by
  constructor
  · refine fun h => ⟨fun before entry thrown? after hops => ?_, ?_⟩
    · refine h before entry thrown? (after ++ [op]) ?_
      rw [hops, List.append_assoc, List.cons_append]
    · cases op with
      | leave entry thrown? => exact allows_leave_iff.mpr (h ops entry thrown? [] rfl)
      | enter n => trivial
      | contains n => trivial
  · rintro ⟨h, hop⟩ before entry thrown? after hops
    rcases concat_eq_iff.mp hops with ⟨rfl, rfl, rfl⟩ | ⟨rest, rfl, hrest⟩
    · exact allows_leave_iff.mp hop
    · exact h before entry thrown? rest hrest

theorem IsNested.enter (h : IsNested ops) (n : Node) : IsNested (ops ++ [.enter n]) :=
  isNested_concat.mpr ⟨h, trivial⟩

theorem IsNested.contains (h : IsNested ops) (n : Node) : IsNested (ops ++ [.contains n]) :=
  isNested_concat.mpr ⟨h, trivial⟩

theorem IsNested.of_isPrefix (h : IsNested ops) (hinit : ops' <+: ops) : IsNested ops' := by
  obtain ⟨rest, rfl⟩ := hinit
  intro before entry thrown? after hops
  refine h before entry thrown? (after ++ rest) ?_
  rw [hops, List.append_assoc, List.cons_append]

theorem isNested_iff :
    IsNested ops ↔ ∀ i (h : i < ops.length), (ledger (ops.take i)).Allows ops[i] := by
  constructor
  · intro h i hi
    have hinit : ops.take i ++ [ops[i]] <+: ops := by
      rw [List.take_append_getElem]
      exact List.take_prefix _ _
    exact (isNested_concat.mp (h.of_isPrefix hinit)).2
  · rintro h before entry thrown? after rfl
    have hop := h before.length (by simp)
    rw [List.take_left, List.getElem_append_right (Nat.le_refl _)] at hop
    exact allows_leave_iff.mp (by simpa using hop)

instance : Decidable (IsNested ops) :=
  decidable_of_iff _ isNested_iff.symm

/-- **In nested order the stack lists the nodes of the open entries.** -/
theorem stack_run (h : IsNested ops) :
    (run {} ops).stack.reverse = (openEntries ops).map Prod.snd := by
  induction ops using List.reverseRecOn with
  | nil => rfl
  | append_singleton ops op ih =>
    obtain ⟨hops, hop⟩ := isNested_concat.mp h
    rw [run_concat, openEntries, ledger_concat]
    exact (follows_run ops).stack_perform (ih hops) hop

/-- In nested order a node is contained as long as one of its entries is open. -/
theorem contains_run_iff (h : IsNested ops) :
    (run {} ops).contains n = true ↔ ∃ entry, IsOpen ops entry n := by
  rw [contains, decide_eq_true_eq, ← List.mem_reverse, stack_run h]
  simp only [List.mem_map, Prod.exists, exists_eq_right, mem_openEntries_iff]

/-! ### Blocks -/

theorem lt_of_mem_openEntries (h : entry ∈ (openEntries ops).map Prod.fst) :
    entry < (entered ops).length :=
  made_ledger ops ▸ (follows_run ops).lt_made h

/-- To leave the entry that was made last undoes it. -/
theorem filter_openEntries_concat (ops : List (Operation ε)) (n : Node) :
    ((openEntries ops ++ [((entered ops).length, n)]).filter fun e => e.1 ≠ (entered ops).length) =
      openEntries ops := by
  have hnew : (entered ops).length ∉ (openEntries ops).map Prod.fst := fun hmem =>
    Nat.lt_irrefl _ (lt_of_mem_openEntries hmem)
  rw [List.filter_append, filter_of_not_mem hnew, List.filter_cons_of_neg (by simp), List.filter_nil,
    List.append_nil]

/-- Inside a block there are open what was open before it, its own entry, and what was made later. -/
theorem exists_openEntries_eq (h : IsNested (before ++ .enter n :: inner))
    (hinner : ∀ thrown?, .leave (entered before).length thrown? ∉ inner) :
    ∃ later, openEntries (before ++ .enter n :: inner) =
      openEntries before ++ ((entered before).length, n) :: later := by
  induction inner using List.reverseRecOn with
  | nil => exact ⟨[], openEntries_concat_enter before n⟩
  | append_singleton inner op ih =>
    rw [← List.cons_append, ← List.append_assoc] at h ⊢
    obtain ⟨hnested, hop⟩ := isNested_concat.mp h
    obtain ⟨later, hlater⟩ := ih hnested fun thrown? hmem =>
      hinner thrown? (List.mem_append_left _ hmem)
    cases op with
    | enter m =>
      refine ⟨later ++ [((entered (before ++ .enter n :: inner)).length, m)], ?_⟩
      rw [openEntries_concat_enter, hlater, List.append_assoc, List.cons_append]
    | contains m => exact ⟨later, (openEntries_concat_contains _ m).trans hlater⟩
    | leave entry thrown? =>
      -- what was open before the block cannot be left, for the entry of the block is open
      have hkept : entry ∉ (openEntries before ++ [((entered before).length, n)]).map Prod.fst := by
        intro hmem
        rw [List.map_append, List.mem_append] at hmem
        rcases hmem with hmem | hmem
        · have hopen : entry ∈ (openEntries (before ++ .enter n :: inner)).map Prod.fst := by
            rw [hlater, List.map_append]
            exact List.mem_append_left _ hmem
          have hle := hop hopen ((entered before).length, n) (by
            rw [← openEntries, hlater]
            exact List.mem_append_right _ List.mem_cons_self)
          exact Nat.not_lt.mpr hle (lt_of_mem_openEntries hmem)
        · cases List.mem_singleton.mp hmem
          exact hinner thrown? (List.mem_append_right _ (List.mem_singleton_self _))
      refine ⟨later.filter fun e => e.1 ≠ entry, ?_⟩
      rw [openEntries_concat_leave, hlater, List.append_cons, List.filter_append,
        filter_of_not_mem hkept, ← List.append_cons]

/-- **A complete block leaves open what was open before it.** -/
theorem openEntries_block {thrown? : Option (Thrown ε)}
    (h : IsNested (before ++ .enter n :: inner ++ [.leave (entered before).length thrown?]))
    (hinner : ∀ thrown?, .leave (entered before).length thrown? ∉ inner) :
    openEntries (before ++ .enter n :: inner ++ [.leave (entered before).length thrown?]) =
      openEntries before := by
  obtain ⟨hnested, hop⟩ := isNested_concat.mp h
  obtain ⟨later, hlater⟩ := exists_openEntries_eq hnested hinner
  have hself : ((entered before).length, n) ∈ openEntries (before ++ .enter n :: inner) := by
    rw [hlater]
    exact List.mem_append_right _ List.mem_cons_self
  have hincreasing := (follows_run (before ++ .enter n :: inner)).increasing
  have hle := hop (List.mem_map_of_mem hself)
  rw [← openEntries, hlater] at hincreasing hle
  have hlast : later = [] := eq_nil_of_forall_le hincreasing hle
  rw [openEntries_concat_leave, hlater, hlast, filter_openEntries_concat]

/-- A complete block leaves the stack as it found it. -/
theorem stack_block {thrown? : Option (Thrown ε)}
    (h : IsNested (before ++ .enter n :: inner ++ [.leave (entered before).length thrown?]))
    (hinner : ∀ thrown?, .leave (entered before).length thrown? ∉ inner) :
    (run {} (before ++ .enter n :: inner ++ [.leave (entered before).length thrown?])).stack =
      (run {} before).stack := by
  have hbefore : IsNested before := h.of_isPrefix (by
    rw [List.append_assoc]
    exact List.prefix_append _ _)
  rw [← List.reverse_inj, stack_run h, stack_run hbefore, openEntries_block h hinner]

end TypeLowering.Guard
