import Mathlib.Data.Finset.Lattice.Fold
import Mathlib.Order.WithBot
import TypeLowering.Proofs.Collecting

/-!
# The semilattice of requirements

What a requirement means is a plain finite set of names, with one more value below all sets for a
requirement that is absent. Joining is the supremum of meanings, whichever of its branches is taken
(`meaning_join`), and requirements with one meaning are equal, so the laws of a semilattice hold for
joining. Adding a namespace is joining with that namespace alone (`add_eq_join`), and joining a list is
the supremum over its members (`meaning_joinAll`).
-/

namespace TypeLowering

namespace NamespaceSet

/-- The members of a set. -/
def members (s : NamespaceSet) : Finset String :=
  s.names.toFinset

variable {s t : NamespaceSet} {x : String}

@[simp]
theorem mem_members : x ∈ s.members ↔ x ∈ s :=
  List.mem_toFinset

theorem members_injective : Function.Injective members := by
  intro s t h
  refine ext_mem fun x => ?_
  rw [← mem_members, h, mem_members]

theorem members_union (s t : NamespaceSet) : (s.union t).members = s.members ∪ t.members := by
  ext x
  simp

theorem isSubset_iff_members : s.isSubset t = true ↔ s.members ⊆ t.members := by
  rw [isSubset_iff, Finset.subset_iff]
  simp

end NamespaceSet

namespace Requirement

/-- What a requirement means: its set of names, or less than any set if it is absent. -/
def meaning : Requirement → WithBot (Finset String)
  | none => ⊥
  | some s => s.members

theorem meaning_injective : Function.Injective meaning := by
  intro a b h
  cases a with
  | none =>
    cases b with
    | none => rfl
    | some t => exact absurd h WithBot.bot_ne_coe
  | some s =>
    cases b with
    | none => exact absurd h WithBot.coe_ne_bot
    | some t =>
      have hmembers : s.members = t.members := WithBot.coe_injective h
      rw [NamespaceSet.members_injective hmembers]

/-- **Joining is the supremum.** That one side holds the other is only a case in which the supremum is
there already. -/
theorem meaning_join (a b : Requirement) : (a.join b).meaning = a.meaning ⊔ b.meaning := by
  cases a with
  | none => exact (bot_sup_eq _).symm
  | some s =>
    cases b with
    | none => exact (sup_bot_eq _).symm
    | some t =>
      simp only [join]
      split
      · next hts =>
        have hle : t.members ≤ s.members := NamespaceSet.isSubset_iff_members.mp hts
        exact (sup_eq_left.mpr (WithBot.coe_le_coe.mpr hle)).symm
      · split
        · next hst =>
          have hle : s.members ≤ t.members := NamespaceSet.isSubset_iff_members.mp hst
          exact (sup_eq_right.mpr (WithBot.coe_le_coe.mpr hle)).symm
        · show ((s.union t).members : WithBot (Finset String)) = _
          rw [NamespaceSet.members_union]
          exact WithBot.coe_sup _ _

/-! ### Laws of joining -/

theorem join_assoc (a b c : Requirement) : (a.join b).join c = a.join (b.join c) := by
  apply meaning_injective
  rw [meaning_join, meaning_join, meaning_join, meaning_join, sup_assoc]

theorem join_comm (a b : Requirement) : a.join b = b.join a := by
  apply meaning_injective
  rw [meaning_join, meaning_join, sup_comm]

theorem join_self (a : Requirement) : a.join a = a := by
  apply meaning_injective
  rw [meaning_join, sup_idem]

theorem none_join (a : Requirement) : join none a = a := rfl

theorem join_none (a : Requirement) : a.join none = a := by
  rw [join_comm, none_join]

theorem join_right_comm (a b c : Requirement) : (a.join b).join c = (a.join c).join b := by
  rw [join_assoc, join_comm b c, join_assoc]

/-- To add a namespace is to join with that namespace alone. -/
theorem add_eq_join (r : Requirement) (given : Option String) :
    r.add given = r.join (add none given) := by
  cases given with
  | none => exact (join_none r).symm
  | some name =>
    have hadd : r.add (some name) ≠ none := by
      cases r with
      | none => exact Option.some_ne_none _
      | some s =>
        simp only [add]
        split <;> exact Option.some_ne_none _
    refine ext_names ⟨fun h => absurd h hadd, fun h => ?_⟩ fun x => ?_
    · exact absurd (join_eq_none_iff.mp h).2 (Option.some_ne_none _)
    · rw [mem_names_add, mem_names_join, mem_names_add]
      simp [names]

theorem join_add_left (a b : Requirement) (given : Option String) :
    (a.join b).add given = (a.add given).join b := by
  rw [add_eq_join, add_eq_join a, join_right_comm]

theorem join_add_right (a b : Requirement) (given : Option String) :
    (a.join b).add given = a.join (b.add given) := by
  rw [add_eq_join, add_eq_join b, join_assoc]

/-! ### Joining lists -/

theorem joinAll_cons (r : Requirement) (rs : List Requirement) :
    joinAll (r :: rs) = r.join (joinAll rs) := by
  rw [← foldl_join]
  rfl

theorem joinAll_append (rs rs' : List Requirement) :
    joinAll (rs ++ rs') = (joinAll rs).join (joinAll rs') := by
  rw [← foldl_join, joinAll, joinAll, List.foldl_append]

/-- **Joining a list is the supremum over its members**, in whatever order and number. -/
theorem meaning_joinAll (rs : List Requirement) :
    (joinAll rs).meaning = rs.toFinset.sup meaning := by
  induction rs with
  | nil => rfl
  | cons r rs ih => rw [joinAll_cons, meaning_join, ih, List.toFinset_cons, Finset.sup_insert]

theorem joinAll_congr {rs rs' : List Requirement} (h : ∀ r, r ∈ rs ↔ r ∈ rs') :
    joinAll rs = joinAll rs' := by
  have hset : rs.toFinset = rs'.toFinset := by
    ext r
    rw [List.mem_toFinset, List.mem_toFinset, h]
  apply meaning_injective
  rw [meaning_joinAll, meaning_joinAll, hset]

theorem exists_mem_joinAll_iff {rs : List Requirement} {x : String} :
    (∃ r ∈ rs, x ∈ r.names) ↔ ∃ t, some t ∈ rs ∧ x ∈ t := by
  constructor
  · rintro ⟨r, hr, hx⟩
    cases r with
    | none => exact absurd hx List.not_mem_nil
    | some t => exact ⟨t, hr, hx⟩
  · rintro ⟨t, ht, hx⟩
    exact ⟨some t, ht, hx⟩

/-- What is joined is present if one of the members is, and then it is their union. -/
theorem joinAll_eq_some_iff {rs : List Requirement} {s : NamespaceSet} :
    joinAll rs = some s ↔
      (∃ t, some t ∈ rs) ∧ ∀ x, x ∈ s ↔ ∃ t, some t ∈ rs ∧ x ∈ t := by
  have hpresent : joinAll rs ≠ none ↔ ∃ t, some t ∈ rs := by
    rw [ne_eq, joinAll_eq_none_iff]
    constructor
    · intro h
      obtain ⟨r, hr, hne⟩ : ∃ r ∈ rs, r ≠ none := by
        by_contra hno
        exact h fun r hr => by_contra fun hne => hno ⟨r, hr, hne⟩
      obtain ⟨t, rfl⟩ := Option.ne_none_iff_exists'.mp hne
      exact ⟨t, hr⟩
    · rintro ⟨t, ht⟩ h
      exact absurd (h _ ht) (Option.some_ne_none t)
  constructor
  · intro h
    refine ⟨hpresent.mp (by rw [h]; exact Option.some_ne_none s), fun x => ?_⟩
    rw [← exists_mem_joinAll_iff, ← mem_names_joinAll, h]
    exact Iff.rfl
  · rintro ⟨hrs, hs⟩
    obtain ⟨u, hu⟩ := Option.ne_none_iff_exists'.mp (hpresent.mpr hrs)
    rw [hu]
    refine congrArg some (NamespaceSet.ext_mem fun x => ?_)
    rw [hs, ← exists_mem_joinAll_iff, ← mem_names_joinAll, hu]
    exact Iff.rfl

theorem joinAll_eq_empty_iff {rs : List Requirement} :
    joinAll rs = some .empty ↔ (∃ t, some t ∈ rs) ∧ ∀ t, some t ∈ rs → t = .empty := by
  have hempty : ∀ x, x ∉ NamespaceSet.empty := fun x => List.not_mem_nil
  rw [joinAll_eq_some_iff]
  refine and_congr_right fun _ => ⟨fun h t ht => ?_, fun h x => ?_⟩
  · refine NamespaceSet.ext_mem fun x => ⟨fun hx => (h x).mpr ⟨t, ht, hx⟩, fun hx => ?_⟩
    exact absurd hx (hempty x)
  · refine ⟨fun hx => absurd hx (hempty x), ?_⟩
    rintro ⟨t, ht, hx⟩
    rwa [h t ht] at hx

/-! ### All of it -/

/-- **Requirements form a semilattice.** A list is joined to nothing if and only if all its members are
absent, and otherwise to the union of those that are present, which is empty if they all are. Only its
members count, not their order or number, and lists can be joined in parts. A namespace can be added
before or after joining, on either side. Joining is associative, commutative and idempotent, absence is
its identity, and whichever of its branches is taken, it has the names of both sides and means the
supremum of what they mean. -/
theorem joining_is_supremum :
    (∀ rs : List Requirement,
      (joinAll rs = none ↔ ∀ r ∈ rs, r = none) ∧
      (∀ s, joinAll rs = some s ↔
        (∃ t, some t ∈ rs) ∧ ∀ x, x ∈ s ↔ ∃ t, some t ∈ rs ∧ x ∈ t) ∧
      (joinAll rs = some .empty ↔ (∃ t, some t ∈ rs) ∧ ∀ t, some t ∈ rs → t = .empty) ∧
      (joinAll rs).meaning = rs.toFinset.sup meaning) ∧
    (∀ rs rs' : List Requirement, (∀ r, r ∈ rs ↔ r ∈ rs') → joinAll rs = joinAll rs') ∧
    (∀ rs rs' : List Requirement, joinAll (rs ++ rs') = (joinAll rs).join (joinAll rs')) ∧
    (∀ (a b : Requirement) (given : Option String),
      (a.join b).add given = (a.add given).join b ∧
      (a.join b).add given = a.join (b.add given)) ∧
    (∀ a b c : Requirement, (a.join b).join c = a.join (b.join c)) ∧
    (∀ a b : Requirement, a.join b = b.join a) ∧
    (∀ a : Requirement, a.join a = a ∧ join none a = a ∧ a.join none = a) ∧
    (∀ a b : Requirement, (a.join b).meaning = a.meaning ⊔ b.meaning ∧
      ∀ x, x ∈ (a.join b).names ↔ x ∈ a.names ∨ x ∈ b.names) ∧
    Function.Injective meaning :=
  ⟨fun rs => ⟨joinAll_eq_none_iff, fun _ => joinAll_eq_some_iff, joinAll_eq_empty_iff,
      meaning_joinAll rs⟩,
    fun _ _ => joinAll_congr, joinAll_append,
    fun a b given => ⟨join_add_left a b given, join_add_right a b given⟩, join_assoc, join_comm,
    fun a => ⟨join_self a, none_join a, join_none a⟩,
    fun a b => ⟨meaning_join a b, fun _ => mem_names_join⟩, meaning_injective⟩

/-- A list with an absent member and one that comes twice is joined to the same as its reverse without
the repetition. -/
theorem joining_is_supremum_repeated :
    let a : Requirement := some (.ofList ["System", "Acme"])
    let b : Requirement := some (.ofList ["System.Text"])
    joinAll [a, none, b, a] = joinAll [b, none, a] ∧
      joinAll [a, none, b, a] ≠ none := by
  intro a b
  obtain ⟨hlist, hsame, -⟩ := joining_is_supremum
  refine ⟨hsame _ _ fun r => ?_, fun h => ?_⟩
  · simp only [List.mem_cons, List.not_mem_nil, or_false]
    tauto
  · exact absurd ((hlist _).1.mp h a (by simp)) (Option.some_ne_none _)

end Requirement

end TypeLowering
