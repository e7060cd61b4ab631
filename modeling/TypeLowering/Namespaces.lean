/-!
# Sets of namespaces and import requirements

A `NamespaceSet` lists its members in increasing order without repetition, so two sets with the same
members are equal (`NamespaceSet.ext_mem`). A `Requirement` is what a reference needs imported. It
has three states: absent, when nothing is needed; present but empty; and present with members.
`Requirement.join` builds no new set when one side holds the other; `mem_names_join` says that
this loses nothing.
-/

namespace TypeLowering

/-- A finite set of namespaces, listed in increasing order. -/
structure NamespaceSet where
  names : List String
  increasing : names.Pairwise (· < ·)
  deriving DecidableEq

/-- Puts a name in its place in an increasing list, unless it is there. -/
def insertName (name : String) : List String → List String
  | [] => [name]
  | first :: rest =>
    if name < first then name :: first :: rest
    else if name = first then first :: rest
    else first :: insertName name rest

theorem mem_insertName {name x : String} {names : List String} :
    x ∈ insertName name names ↔ x = name ∨ x ∈ names := by
  induction names with
  | nil => simp [insertName]
  | cons first rest ih => grind [insertName]

theorem pairwise_insertName {name : String} {names : List String}
    (h : names.Pairwise (· < ·)) : (insertName name names).Pairwise (· < ·) := by
  induction names with
  | nil => simp [insertName]
  | cons first rest ih =>
    obtain ⟨hfirst, hrest⟩ := List.pairwise_cons.1 h
    simp only [insertName]
    split
    · next hlt =>
      refine List.pairwise_cons.2 ⟨fun x hx => ?_, h⟩
      rcases List.mem_cons.1 hx with rfl | hx
      · exact hlt
      · exact String.lt_trans hlt (hfirst x hx)
    · split
      · exact h
      · next hnlt hne =>
        refine List.pairwise_cons.2 ⟨fun x hx => ?_, ih hrest⟩
        rcases mem_insertName.1 hx with rfl | hx
        · rcases String.le_total x first with hle | hle
          · exact absurd (String.le_antisymm hle (String.not_lt.1 hnlt)) hne
          · exact String.not_le.1 fun hle' => hne (String.le_antisymm hle' hle)
        · exact hfirst x hx

theorem eq_of_increasing {l m : List String} (hl : l.Pairwise (· < ·))
    (hm : m.Pairwise (· < ·)) (h : ∀ x, x ∈ l ↔ x ∈ m) : l = m := by
  induction l generalizing m with
  | nil =>
    cases m with
    | nil => rfl
    | cons y m => exact absurd ((h y).2 (List.mem_cons_self ..)) (List.not_mem_nil)
  | cons x l ih =>
    cases m with
    | nil => exact absurd ((h x).1 (List.mem_cons_self ..)) (List.not_mem_nil)
    | cons y m =>
      obtain ⟨hx, hl⟩ := List.pairwise_cons.1 hl
      obtain ⟨hy, hrest⟩ := List.pairwise_cons.1 hm
      have hxy : x = y := by
        rcases List.mem_cons.1 ((h x).1 (List.mem_cons_self ..)) with rfl | hxm
        · rfl
        · rcases List.mem_cons.1 ((h y).2 (List.mem_cons_self ..)) with rfl | hyl
          · rfl
          · exact absurd (String.lt_trans (hx y hyl) (hy x hxm)) (String.lt_irrefl _)
      subst hxy
      refine congrArg _ (ih hl hrest fun z => ⟨fun hz => ?_, fun hz => ?_⟩)
      · rcases List.mem_cons.1 ((h z).1 (List.mem_cons_of_mem _ hz)) with rfl | hz'
        · exact absurd (hx z hz) (String.lt_irrefl _)
        · exact hz'
      · rcases List.mem_cons.1 ((h z).2 (List.mem_cons_of_mem _ hz)) with rfl | hz'
        · exact absurd (hy z hz) (String.lt_irrefl _)
        · exact hz'

namespace NamespaceSet

instance : Membership String NamespaceSet where
  mem s x := x ∈ s.names

instance (x : String) (s : NamespaceSet) : Decidable (x ∈ s) :=
  inferInstanceAs (Decidable (x ∈ s.names))

/-- The set without members. -/
def empty : NamespaceSet := ⟨[], .nil⟩

/-- The set with one more member. -/
def insert (s : NamespaceSet) (name : String) : NamespaceSet :=
  ⟨insertName name s.names, pairwise_insertName s.increasing⟩

/-- The set of the names of a list. -/
def ofList (names : List String) : NamespaceSet :=
  names.foldl insert empty

/-- The members of either set. -/
def union (a b : NamespaceSet) : NamespaceSet :=
  b.names.foldl insert a

/-- Whether every member of the first set is one of the second. -/
def isSubset (a b : NamespaceSet) : Bool :=
  a.names.all fun x => decide (x ∈ b)

@[simp]
theorem mem_insert {s : NamespaceSet} {name x : String} : x ∈ s.insert name ↔ x = name ∨ x ∈ s :=
  mem_insertName

theorem mem_foldl_insert {names : List String} {s : NamespaceSet} {x : String} :
    x ∈ names.foldl insert s ↔ x ∈ s ∨ x ∈ names := by
  induction names generalizing s with
  | nil => simp
  | cons name rest ih => rw [List.foldl_cons, ih]; simp [or_assoc, or_left_comm]

@[simp]
theorem mem_union {a b : NamespaceSet} {x : String} : x ∈ a.union b ↔ x ∈ a ∨ x ∈ b :=
  mem_foldl_insert

@[simp]
theorem mem_ofList {names : List String} {x : String} : x ∈ ofList names ↔ x ∈ names :=
  mem_foldl_insert.trans ⟨fun h => h.resolve_left (List.not_mem_nil), .inr⟩

theorem isSubset_iff {a b : NamespaceSet} : a.isSubset b ↔ ∀ x ∈ a, x ∈ b := by
  simp only [isSubset, List.all_eq_true, decide_eq_true_eq]
  exact Iff.rfl

theorem ext_mem {a b : NamespaceSet} (h : ∀ x, x ∈ a ↔ x ∈ b) : a = b := by
  obtain ⟨l, hl⟩ := a
  obtain ⟨m, hm⟩ := b
  have hlm : l = m := eq_of_increasing hl hm h
  subst hlm
  rfl

end NamespaceSet

/-- The namespaces that a reference needs imported; absent when it needs none. -/
abbrev Requirement : Type := Option NamespaceSet

namespace Requirement

/-- The namespaces that either side needs. -/
def join : Requirement → Requirement → Requirement
  | none, b => b
  | a, none => a
  | some a, some b =>
    if b.isSubset a then some a
    else if a.isSubset b then some b
    else some (a.union b)

/-- One namespace more, if one is given. -/
def add : Requirement → Option String → Requirement
  | r, none => r
  | none, some name => some (NamespaceSet.empty.insert name)
  | some s, some name => if name ∈ s then some s else some (s.insert name)

/-- The namespaces that any of the requirements needs. -/
def joinAll (rs : List Requirement) : Requirement :=
  rs.foldl join none

/-- The names that a requirement needs, in increasing order. -/
def names : Requirement → List String
  | none => []
  | some s => s.names

theorem mem_names_join {a b : Requirement} {x : String} :
    x ∈ (a.join b).names ↔ x ∈ a.names ∨ x ∈ b.names := by
  cases a with
  | none => simp [join, names]
  | some a =>
    cases b with
    | none => simp [join, names]
    | some b =>
      simp only [join]
      split
      · next h => exact ⟨.inl, fun hx => hx.elim id (NamespaceSet.isSubset_iff.1 h x)⟩
      · split
        · next h => exact ⟨.inr, fun hx => hx.elim (NamespaceSet.isSubset_iff.1 h x) id⟩
        · exact NamespaceSet.mem_union

theorem join_eq_none_iff {a b : Requirement} : a.join b = none ↔ a = none ∧ b = none := by
  cases a with
  | none => simp [join]
  | some a =>
    cases b with
    | none => simp [join]
    | some b => simp only [join]; split <;> (try split) <;> simp

/-- Requirements with the same names are equal, if one is absent only with the other. -/
theorem ext_names {a b : Requirement} (hnone : a = none ↔ b = none)
    (h : ∀ x, x ∈ a.names ↔ x ∈ b.names) : a = b := by
  cases a with
  | none => exact (hnone.mp rfl).symm
  | some a =>
    cases b with
    | none => exact hnone.mpr rfl
    | some b => exact congrArg some (NamespaceSet.ext_mem h)

theorem mem_names_add {r : Requirement} {given : Option String} {x : String} :
    x ∈ (r.add given).names ↔ x ∈ r.names ∨ given = some x := by
  cases given with
  | none => simp [add]
  | some name =>
    cases r with
    | none =>
      show x ∈ NamespaceSet.empty.insert name ↔ x ∈ [] ∨ some name = some x
      have hEmpty : x ∉ NamespaceSet.empty := List.not_mem_nil
      simp [hEmpty, eq_comm]
    | some s =>
      simp only [add]
      split
      · next hMem =>
        refine ⟨.inl, fun h => h.elim id ?_⟩
        rintro ⟨⟩
        exact hMem
      · have h : x ∈ s.insert name ↔ x = name ∨ x ∈ s := NamespaceSet.mem_insert
        rw [or_comm, Option.some_inj, eq_comm]
        exact h

theorem mem_names_foldl_join {rs : List Requirement} {a : Requirement} {x : String} :
    x ∈ (rs.foldl join a).names ↔ x ∈ a.names ∨ ∃ r ∈ rs, x ∈ r.names := by
  induction rs generalizing a with
  | nil => simp
  | cons r rest ih => rw [List.foldl_cons, ih, mem_names_join]; simp [or_assoc]

theorem mem_names_joinAll {rs : List Requirement} {x : String} :
    x ∈ (joinAll rs).names ↔ ∃ r ∈ rs, x ∈ r.names := by
  rw [joinAll, mem_names_foldl_join]
  simp [names]

end Requirement

end TypeLowering
