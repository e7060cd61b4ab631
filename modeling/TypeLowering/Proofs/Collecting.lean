import Mathlib.Data.Bool.Basic
import Mathlib.Data.List.Basic
import TypeLowering.Session

/-!
# What a collector gathers

The order of the directives is a strict total order on namespaces: those rooted at `System` come
first, and otherwise the names are compared. So a collector has only one list to write
(`Collector.eq_sorted`). What it has gathered is the union of what the operations on it bring, whatever
their order (`Collector.mem_collected_run`, `Collector.run_eq_of_names_iff`). In a session, the operations are
those of the steps that succeed (`Session.collector_run`).
-/

namespace TypeLowering

/-! ### Requirements together -/

namespace Requirement

theorem foldl_join_eq_none_iff {rs : List Requirement} {a : Requirement} :
    rs.foldl join a = none ↔ a = none ∧ ∀ r ∈ rs, r = none := by
  induction rs generalizing a with
  | nil => simp
  | cons r rest ih => rw [List.foldl_cons, ih, join_eq_none_iff]; simp [and_assoc]

theorem joinAll_eq_none_iff {rs : List Requirement} : joinAll rs = none ↔ ∀ r ∈ rs, r = none := by
  rw [joinAll, foldl_join_eq_none_iff]
  simp

theorem foldl_join (rs : List Requirement) (a : Requirement) :
    rs.foldl join a = a.join (joinAll rs) := by
  refine ext_names ?_ fun x => ?_
  · rw [foldl_join_eq_none_iff, join_eq_none_iff, joinAll_eq_none_iff]
  · rw [mem_names_foldl_join, mem_names_join, mem_names_joinAll]

end Requirement

/-! ### The order of the directives -/

/-- What namespaces are listed by: whether they are rooted elsewhere than at `System`, and their
names. -/
def listingKey (name : String) : Bool × String :=
  (decide (firstSegment name ≠ "System"), name)

/-- Whether one namespace is listed before another. -/
def Precedes (a b : String) : Prop :=
  Prod.Lex (· < ·) (· < ·) (listingKey a) (listingKey b)

instance (a b : String) : Decidable (Precedes a b) :=
  inferInstanceAs (Decidable (Prod.Lex _ _ _ _))

theorem precedes_iff {a b : String} :
    Precedes a b ↔ (firstSegment a = "System" ∧ firstSegment b ≠ "System") ∨
      ((firstSegment a = "System" ↔ firstSegment b = "System") ∧ a < b) := by
  unfold Precedes listingKey
  rw [Prod.lex_def]
  by_cases ha : firstSegment a = "System" <;> by_cases hb : firstSegment b = "System" <;>
    simp [ha, hb]

theorem not_precedes_self (a : String) : ¬ Precedes a a := by
  rw [precedes_iff]
  rintro (⟨h, h'⟩ | ⟨-, h⟩)
  · exact h' h
  · exact String.lt_irrefl a h

theorem Precedes.ne {a b : String} (h : Precedes a b) : a ≠ b := by
  rintro rfl
  exact not_precedes_self a h

theorem Precedes.trans {a b c : String} (h : Precedes a b) (h' : Precedes b c) : Precedes a c := by
  rw [precedes_iff] at h h' ⊢
  rcases h with ⟨ha, hb⟩ | ⟨hab, hlt⟩
  · rcases h' with ⟨hb', -⟩ | ⟨hbc, -⟩
    · exact absurd hb' hb
    · exact .inl ⟨ha, fun hc => hb (hbc.mpr hc)⟩
  · rcases h' with ⟨hb, hc⟩ | ⟨hbc, hlt'⟩
    · exact .inl ⟨hab.mpr hb, hc⟩
    · exact .inr ⟨hab.trans hbc, String.lt_trans hlt hlt'⟩

theorem Precedes.asymm {a b : String} (h : Precedes a b) : ¬ Precedes b a :=
  fun h' => not_precedes_self a (h.trans h')

/-- Of two different namespaces one is listed before the other. -/
theorem eq_of_not_precedes {a b : String} (h : ¬ Precedes a b) (h' : ¬ Precedes b a) : a = b := by
  rw [precedes_iff] at h h'
  have hroot : firstSegment a = "System" ↔ firstSegment b = "System" :=
    ⟨fun ha => by_contra fun hb => h (.inl ⟨ha, hb⟩),
      fun hb => by_contra fun ha => h' (.inl ⟨hb, ha⟩)⟩
  have hle : a ≤ b := String.not_lt.mp fun hlt => h' (.inr ⟨hroot.symm, hlt⟩)
  have hge : b ≤ a := String.not_lt.mp fun hlt => h (.inr ⟨hroot, hlt⟩)
  exact String.le_antisymm hle hge

theorem isListedBefore_iff {a b : String} : isListedBefore a b = true ↔ ¬ Precedes b a := by
  have hle : a ≤ b ↔ ¬ b < a := String.not_lt.symm
  rw [precedes_iff, isListedBefore]
  -- how names are compared does not matter here
  generalize (b < a) = later at hle ⊢
  by_cases ha : firstSegment a = "System" <;> by_cases hb : firstSegment b = "System" <;>
    simp [ha, hb, hle]

theorem isListedBefore_trans (a b c : String) (h : isListedBefore a b = true)
    (h' : isListedBefore b c = true) : isListedBefore a c = true := by
  rw [isListedBefore_iff] at h h' ⊢
  intro hca
  by_cases hab : Precedes a b
  · exact h' (hca.trans hab)
  · exact h' (eq_of_not_precedes hab h ▸ hca)

theorem isListedBefore_total (a b : String) : (isListedBefore a b || isListedBefore b a) = true := by
  rw [Bool.or_eq_true, isListedBefore_iff, isListedBefore_iff]
  by_cases hba : Precedes b a
  · exact .inr hba.asymm
  · exact .inl hba

namespace Collector

variable {c : Collector} {x y : String}

theorem mem_sorted : x ∈ c.sorted ↔ x ∈ c.collected.names :=
  List.mem_mergeSort

theorem nodup_sorted (c : Collector) : c.sorted.Nodup := by
  refine (List.mergeSort_perm ..).nodup_iff.mpr ?_
  cases hc : c.collected with
  | none => exact List.nodup_nil
  | some s => exact s.increasing.imp String.ne_of_lt

theorem pairwise_sorted (c : Collector) : c.sorted.Pairwise Precedes := by
  have hle : c.sorted.Pairwise fun a b => isListedBefore a b = true :=
    List.pairwise_mergeSort isListedBefore_trans isListedBefore_total _
  refine (hle.and c.nodup_sorted).imp fun {a b} hab => ?_
  by_contra hnot
  exact hab.2 (eq_of_not_precedes hnot (isListedBefore_iff.mp hab.1))

/-- **There is only one list to write.** -/
theorem eq_sorted {l : List String} (hl : l.Pairwise Precedes)
    (hmem : ∀ x, x ∈ l ↔ x ∈ c.collected.names) : l = c.sorted := by
  have hnodup : l.Nodup := hl.imp Precedes.ne
  have hperm : l.Perm c.sorted := (List.perm_ext_iff_of_nodup hnodup c.nodup_sorted).mpr
    fun x => (hmem x).trans mem_sorted.symm
  exact hperm.eq_of_pairwise (fun a b _ _ hab hba => absurd hba hab.asymm) hl c.pairwise_sorted

/-- What is rooted at `System` comes before everything else. -/
theorem index_lt_of_system {i j : Nat} (hi : c.sorted[i]? = some x) (hj : c.sorted[j]? = some y)
    (hx : firstSegment x = "System") (hy : firstSegment y ≠ "System") : i < j := by
  refine Nat.lt_of_not_le fun hle => ?_
  rcases Nat.lt_or_eq_of_le hle with hlt | rfl
  · obtain ⟨hi', rfl⟩ := List.getElem?_eq_some_iff.mp hi
    obtain ⟨hj', rfl⟩ := List.getElem?_eq_some_iff.mp hj
    have hyx := List.pairwise_iff_getElem.mp c.pairwise_sorted j i hj' hi' hlt
    rcases precedes_iff.mp hyx with ⟨hy', -⟩ | ⟨hroot, -⟩
    · exact hy hy'
    · exact hy (hroot.mpr hx)
  · cases hi.symm.trans hj
    exact hy hx

/-! ### Runs of a collector -/

/-- What a collector can be asked to do. -/
inductive Operation where
  | add (l : Lowered)
  | addNamespaces (names : List String)

namespace Operation

/-- What an operation joins to what has been collected. -/
def brings : Operation → Requirement
  | .add l => l.imports
  | .addNamespaces names => some (.ofList names)

/-- The reference that an operation hands back. -/
def reference? : Operation → Option Reference
  | .add l => some l.reference
  | .addNamespaces _ => none

/-- The namespaces of an operation. -/
def names : Operation → List String
  | .add l => l.imports.names
  | .addNamespaces names => names

theorem mem_names_brings {op : Operation} {x : String} : x ∈ op.brings.names ↔ x ∈ op.names := by
  cases op with
  | add l => exact Iff.rfl
  | addNamespaces names => exact NamespaceSet.mem_ofList

theorem brings_eq_none_iff {op : Operation} :
    op.brings = none ↔ ∃ l, op = .add l ∧ l.imports = none := by
  cases op <;> simp [brings]

end Operation

/-- Does what it is asked to do, and gives what it hands back. -/
def perform (c : Collector) : Operation → Collector × Option Reference
  | .add l => ((c.add l).1, some (c.add l).2)
  | .addNamespaces names => (c.addNamespaces names, none)

/-- Performs operations one after another, and gives all that is handed back. -/
def run (c : Collector) : List Operation → Collector × List (Option Reference)
  | [] => (c, [])
  | op :: rest =>
    let first := c.perform op
    let others := first.1.run rest
    (others.1, first.2 :: others.2)

theorem collected_perform (c : Collector) (op : Operation) :
    (c.perform op).1.collected = c.collected.join op.brings := by
  cases op <;> rfl

theorem collected_run (c : Collector) (ops : List Operation) :
    (c.run ops).1.collected = (ops.map Operation.brings).foldl Requirement.join c.collected := by
  induction ops generalizing c with
  | nil => rfl
  | cons op rest ih =>
    rw [run, ih, collected_perform, List.map_cons, List.foldl_cons]

theorem references_run (c : Collector) (ops : List Operation) :
    (c.run ops).2 = ops.map Operation.reference? := by
  induction ops generalizing c with
  | nil => rfl
  | cons op rest ih =>
    rw [run, ih, List.map_cons]
    cases op <;> rfl

theorem run_append (c : Collector) (ops ops' : List Operation) :
    (c.run (ops ++ ops')).1 = ((c.run ops).1.run ops').1 := by
  induction ops generalizing c with
  | nil => rfl
  | cons op rest ih => rw [List.cons_append, run, ih, run]

theorem mem_collected_run {ops : List Operation} :
    x ∈ (run {} ops).1.collected.names ↔ ∃ op ∈ ops, x ∈ op.names := by
  rw [collected_run, ← Requirement.joinAll, Requirement.mem_names_joinAll]
  simp only [List.mem_map, exists_exists_and_eq_and, Operation.mem_names_brings]

theorem collected_run_eq_none_iff {ops : List Operation} :
    (run {} ops).1.collected = none ↔ ∀ op ∈ ops, op.brings = none := by
  rw [collected_run, Requirement.foldl_join_eq_none_iff]
  simp

theorem collected_run_eq_empty_iff {ops : List Operation} :
    (run {} ops).1.collected = some .empty ↔
      (∃ op ∈ ops, op.brings ≠ none) ∧ ∀ op ∈ ops, op.names = [] := by
  constructor
  · intro hempty
    refine ⟨by_contra fun hnone => ?_, fun op hop => ?_⟩
    · have hall : ∀ op ∈ ops, op.brings = none := fun op hop =>
        by_contra fun hsome => hnone ⟨op, hop, hsome⟩
      rw [collected_run_eq_none_iff.mpr hall] at hempty
      cases hempty
    · refine List.eq_nil_iff_forall_not_mem.mpr fun x hx => ?_
      have hmem := mem_collected_run.mpr ⟨op, hop, hx⟩
      rw [hempty] at hmem
      exact List.not_mem_nil hmem
  · rintro ⟨⟨op, hop, hsome⟩, hnames⟩
    refine Requirement.ext_names ⟨fun hnone => ?_, fun hnone => by cases hnone⟩ fun x => ?_
    · exact absurd (collected_run_eq_none_iff.mp hnone op hop) hsome
    · rw [mem_collected_run]
      refine ⟨fun ⟨op', hop', hx⟩ => ?_, fun hx => absurd hx List.not_mem_nil⟩
      rw [hnames op' hop'] at hx
      exact absurd hx List.not_mem_nil

/-- Only what the operations bring counts, taken together. -/
theorem run_eq_of_names_iff {ops ops' : List Operation}
    (hbrings : (∃ op ∈ ops, op.brings ≠ none) ↔ ∃ op ∈ ops', op.brings ≠ none)
    (hnames : ∀ x, (∃ op ∈ ops, x ∈ op.names) ↔ ∃ op ∈ ops', x ∈ op.names) :
    (run {} ops).1 = (run {} ops').1 := by
  refine congrArg Collector.mk (Requirement.ext_names ?_ fun x => ?_)
  · rw [collected_run_eq_none_iff, collected_run_eq_none_iff]
    simpa only [not_exists, not_and, not_not] using not_congr hbrings
  · rw [mem_collected_run, mem_collected_run]
    exact hnames x

/-- What groups of operations bring can be gathered for each of them and put together. -/
theorem collected_run_flatten (groups : List (List Operation)) :
    (run {} groups.flatten).1.collected =
      Requirement.joinAll (groups.map fun ops => (run {} ops).1.collected) := by
  refine Requirement.ext_names ?_ fun x => ?_
  · rw [collected_run_eq_none_iff, Requirement.joinAll_eq_none_iff]
    simp only [List.mem_flatten, List.mem_map, forall_exists_index, and_imp,
      forall_apply_eq_imp_iff₂, collected_run_eq_none_iff]
    exact ⟨fun h ops hops op hop => h op ops hops hop, fun h op ops hops hop => h ops hops op hop⟩
  · rw [mem_collected_run, Requirement.mem_names_joinAll]
    simp only [List.mem_flatten, List.mem_map, exists_exists_and_eq_and, mem_collected_run]
    exact ⟨fun ⟨op, ⟨ops, hops, hop⟩, hx⟩ => ⟨ops, hops, op, hop, hx⟩,
      fun ⟨ops, hops, op, hop, hx⟩ => ⟨op, ⟨ops, hops, hop⟩, hx⟩⟩

end Collector

/-! ### Sessions -/

/-- Whether a step is one of those that collect. -/
def Step.collects : Step → Bool
  | .collect _ => true
  | .collectTypeOf _ => true
  | .addNamespaces _ => true
  | _ => false

namespace Session

/-- What a step asks of the collector. A step that fails asks for nothing. -/
def operation? (s : Session) : Step → Option Collector.Operation
  | .collect b => (s.lowerBlueprint b).outcome.toOption.map .add
  | .collectTypeOf key => (s.lowerTypeOf key).outcome.toOption.map .add
  | .addNamespaces names => some (.addNamespaces names)
  | _ => none

/-- What steps ask of the collector, one after another. -/
def operations (s : Session) : List Step → List Collector.Operation
  | [] => []
  | st :: rest => (s.operation? st).toList ++ (s.step st).1.operations rest

variable {s : Session} {st : Step}

theorem collector_readSettings (s : Session) : s.readSettings.1.collector = s.collector := by
  unfold readSettings
  split
  · rfl
  · split <;> rfl

theorem collector_configureLogging (s : Session) (level : Json) (json? : Option Bool) :
    (s.configureLogging level json?).1.collector = s.collector := by
  have hread := collector_readSettings s
  unfold configureLogging
  split
  · rfl
  · generalize s.readSettings = r at hread ⊢
    obtain ⟨s', outcome⟩ := r
    cases outcome <;> exact hread

theorem collector_useSettings (s : Session) : s.useSettings.1.collector = s.collector := by
  have hread := collector_readSettings s
  unfold useSettings
  generalize s.readSettings = r at hread ⊢
  obtain ⟨s', outcome⟩ := r
  cases outcome with
  | error f => exact hread
  | ok settings =>
    show (if _ then s' else _ : Session).collector = _
    split <;> exact hread

theorem collector_collect (s : Session) (t : Traced Fault Lowered) :
    (s.collect t).1.collector =
      (s.collector.run (t.outcome.toOption.map .add).toList).1 := by
  unfold collect
  cases t.outcome <;> rfl

/-- A step does to the collector what it asks for, and nothing else. -/
theorem collector_perform (s : Session) (st : Step) :
    (s.perform st).1.collector = (s.collector.run (s.operation? st).toList).1 := by
  cases st with
  | collect b => exact collector_collect s _
  | collectTypeOf key => exact collector_collect s _
  | useSettings => exact collector_useSettings s
  | configureLogging level json? => exact collector_configureLogging s level json?
  | settings => exact collector_readSettings s
  | settingsAreKept => exact collector_readSettings s
  | useProfile members =>
    simp only [perform]
    split <;> rfl
  | redefine name shape =>
    show (s.redefine name shape).collector = _
    unfold redefine
    split <;> rfl
  | setVariable name value =>
    simp only [perform]
    split <;> rfl
  | makeSettings fields =>
    simp only [perform]
    split <;> rfl
  | _ => rfl

theorem collector_step (s : Session) (st : Step) :
    (s.step st).1.collector = (s.collector.run (s.operation? st).toList).1 := by
  rw [← collector_perform]
  unfold step
  split
  · dsimp only
    split <;> rfl
  · rfl

theorem collector_run (s : Session) (steps : List Step) :
    (s.run steps).1.collector = (s.collector.run (s.operations steps)).1 := by
  induction steps generalizing s with
  | nil => rfl
  | cons st rest ih => rw [run, ih, collector_step, operations, Collector.run_append]

/-- The operations are those of the collecting steps that succeed. -/
theorem operation?_isSome_iff (s : Session) (st : Step) :
    (s.operation? st).isSome = true ↔ st.collects = true ∧ ∃ a, (s.step st).2.outcome = .ok a := by
  have hcollect : ∀ t : Traced Fault Lowered,
      (t.outcome.toOption.map Collector.Operation.add).isSome = true ↔
        ∃ a, (s.collect t).2.outcome = .ok a := by
    intro t
    unfold collect
    cases t.outcome <;> simp [Except.toOption]
  cases st with
  | collect b => exact ⟨fun h => ⟨rfl, (hcollect _).mp h⟩, fun h => (hcollect _).mpr h.2⟩
  | collectTypeOf key => exact ⟨fun h => ⟨rfl, (hcollect _).mp h⟩, fun h => (hcollect _).mpr h.2⟩
  | addNamespaces names => exact ⟨fun _ => ⟨rfl, _, rfl⟩, fun _ => rfl⟩
  | _ => exact ⟨fun h => (Bool.false_ne_true h).elim, fun h => (Bool.false_ne_true h.1).elim⟩

/-- A step that fails leaves the collector as it is. -/
theorem collector_step_of_error {f : Fault} (h : (s.step st).2.outcome = .error f) :
    (s.step st).1.collector = s.collector := by
  have hnone : s.operation? st = none := by
    rw [← Option.not_isSome_iff_eq_none, operation?_isSome_iff, h]
    rintro ⟨-, a, ha⟩
    cases ha
  rw [collector_step, hnone]
  rfl

theorem collected_run (s : Session) (steps : List Step) :
    (s.run steps).1.collector.collected =
      s.collector.collected.join
        (Requirement.joinAll ((s.operations steps).map Collector.Operation.brings)) := by
  rw [collector_run, Collector.collected_run, Requirement.foldl_join]

end Session

/-! ### All of it -/

namespace Collector

/-- **Collecting is joining.** A run of a collector hands every reference back as it is. What has been
collected is absent if and only if every operation added a reference without imports, it is empty if
and only if something was brought but no namespace, and its members are the namespaces of the
operations. There is only one list to write: it has each of them once, in the order of the directives,
and so what is rooted at `System` first. Operations that bring the same, taken together, give the same
set, list and text. So do the same operations in another order or number, and groups of them can be
collected on their own and put together. In a session, the operations are those of the steps that
collect and succeed, and steps that fail leave the collector as it is. -/
theorem collecting_joins :
    (∀ ops : List Operation,
      (run {} ops).2 = ops.map Operation.reference? ∧
      ((run {} ops).1.collected = none ↔ ∀ op ∈ ops, ∃ l, op = .add l ∧ l.imports = none) ∧
      ((run {} ops).1.collected = some .empty ↔
        (∃ op ∈ ops, op.brings ≠ none) ∧ ∀ op ∈ ops, op.names = []) ∧
      (∀ x, x ∈ (run {} ops).1.collected.names ↔ ∃ op ∈ ops, x ∈ op.names) ∧
      (∀ l : List String, l = (run {} ops).1.sorted ↔
        l.Pairwise Precedes ∧ ∀ x, x ∈ l ↔ ∃ op ∈ ops, x ∈ op.names) ∧
      (run {} ops).1.sorted.Nodup ∧
      (∀ (i j : Nat) (x y : String), (run {} ops).1.sorted[i]? = some x →
        (run {} ops).1.sorted[j]? = some y → firstSegment x = "System" → firstSegment y ≠ "System" →
        i < j)) ∧
    (∀ ops ops' : List Operation,
      ((∃ op ∈ ops, op.brings ≠ none) ↔ ∃ op ∈ ops', op.brings ≠ none) →
      (∀ x, (∃ op ∈ ops, x ∈ op.names) ↔ ∃ op ∈ ops', x ∈ op.names) →
      (run {} ops).1.collected = (run {} ops').1.collected ∧
        (run {} ops).1.sorted = (run {} ops').1.sorted ∧
        (run {} ops).1.usings = (run {} ops').1.usings) ∧
    (∀ ops ops' : List Operation, (∀ op, op ∈ ops ↔ op ∈ ops') → (run {} ops).1 = (run {} ops').1) ∧
    (∀ groups : List (List Operation), (run {} groups.flatten).1.collected =
      Requirement.joinAll (groups.map fun ops => (run {} ops).1.collected)) ∧
    (∀ (s : Session) (steps : List Step),
      (s.run steps).1.collector.collected =
        s.collector.collected.join
          (Requirement.joinAll ((s.operations steps).map Operation.brings))) ∧
    (∀ (s : Session) (st : Step),
      ((s.operation? st).isSome = true ↔
        st.collects = true ∧ ∃ a, (s.step st).2.outcome = .ok a) ∧
      ∀ f, (s.step st).2.outcome = .error f → (s.step st).1.collector = s.collector) := by
  refine ⟨fun ops => ?_, fun ops ops' hbrings hnames => ?_, fun ops ops' h => ?_,
    collected_run_flatten, Session.collected_run,
    fun s st => ⟨s.operation?_isSome_iff st, fun f => Session.collector_step_of_error⟩⟩
  · refine ⟨references_run {} ops, ?_, collected_run_eq_empty_iff, fun x => mem_collected_run,
      fun l => ⟨?_, fun ⟨hl, hmem⟩ => ?_⟩, nodup_sorted _, fun i j x y => index_lt_of_system⟩
    · rw [collected_run_eq_none_iff]
      simp only [Operation.brings_eq_none_iff]
    · rintro rfl
      exact ⟨pairwise_sorted _, fun x => mem_sorted.trans mem_collected_run⟩
    · exact eq_sorted hl fun x => (hmem x).trans mem_collected_run.symm
  · rw [run_eq_of_names_iff hbrings hnames]
    exact ⟨rfl, rfl, rfl⟩
  · exact run_eq_of_names_iff (by simp only [h]) (by simp only [h, implies_true])

/-- Namespaces that are collected in parts, one of them twice, are listed with `System` first, and
also in reverse. -/
theorem collecting_joins_system :
    let ops : List Operation := [.addNamespaces ["Acme.Models", "System.Text"],
      .add ⟨.named "int", none⟩, .addNamespaces ["System", "System.Text"]]
    (run {} ops).1.sorted = ["System", "System.Text", "Acme.Models"] ∧
    (run {} ops.reverse).1 = (run {} ops).1 := by
  intro ops
  obtain ⟨hrun, -, hsame, -⟩ := collecting_joins
  obtain ⟨-, -, -, -, hsorted, -⟩ := hrun ops
  refine ⟨((hsorted _).mpr ⟨by decide, fun x => ?_⟩).symm, hsame _ _ fun op => List.mem_reverse⟩
  simp [ops, Operation.names, Requirement.names]
  tauto

end Collector

end TypeLowering
