import Mathlib.Data.List.TakeWhile
import TypeLowering.Problem
import TypeLowering.Proofs.Validation

/-!
# What makes a profile

Members make a profile exactly if each of them gives a field what it takes, and if not, one row is reported
for each that does not. A profile that was made is in normal form: its texts are not empty and have no
blanks at their ends. Its dump makes the same profile again.

* `Text.IsTrimmed`: a text without blanks at its ends. `isTrimmed_trim` and `trim_of_isTrimmed` say that
  trimming leads to these and changes nothing about them.
* `Field.Takes`: what a field takes. Names and namespaces differ in blank texts and in null.
* `mem_rows_iff_not_fits`: the rows are those of the members that do not fit, each with its cause.
* `isNormal_of_ofMembers`, `ofMembers_members`: normal form, and its validation.
-/

namespace TypeLowering

/-! ### Trimmed texts -/

namespace Text

/-- A text has no blanks at its ends. -/
structure IsTrimmed (s : String) : Prop where
  first : ∀ c, s.toList.head? = some c → isBlank c = false
  last : ∀ c, s.toList.getLast? = some c → isBlank c = false

theorem dropWhile_isBlank_eq_self {cs : List Char}
    (h : ∀ c, cs.head? = some c → isBlank c = false) : cs.dropWhile isBlank = cs := by
  cases cs with
  | nil => rfl
  | cons c rest => rw [List.dropWhile_cons, h c rfl, if_neg Bool.false_ne_true]

theorem isBlank_head_dropWhile {cs : List Char} {c : Char}
    (h : (cs.dropWhile isBlank).head? = some c) : isBlank c = false := by
  have hnot := List.head?_dropWhile_not isBlank cs
  rw [h] at hnot
  exact hnot

theorem getLast?_trimEnd (cs : List Char) :
    (trimEnd cs).getLast? = (cs.reverse.dropWhile isBlank).head? := by
  rw [trimEnd, List.getLast?_reverse]

theorem toList_trim (s : String) : (trim s).toList = trimEnd (s.toList.dropWhile isBlank) := by
  rw [trim, String.toList_ofList]

theorem isTrimmed_trim (s : String) : IsTrimmed (trim s) where
  first := by
    intro c hc
    rw [toList_trim, ← dropWhile_trimEnd] at hc
    exact isBlank_head_dropWhile hc
  last := by
    intro c hc
    rw [toList_trim, getLast?_trimEnd] at hc
    exact isBlank_head_dropWhile hc

theorem trim_of_isTrimmed {s : String} (h : IsTrimmed s) : trim s = s := by
  have hend : trimEnd s.toList = s.toList := by
    rw [trimEnd, dropWhile_isBlank_eq_self, List.reverse_reverse]
    intro c hc
    rw [List.head?_reverse] at hc
    exact h.last c hc
  rw [trim, dropWhile_isBlank_eq_self h.first, hend, String.ofList_toList]

theorem isTrimmed_of_trim_eq {s : String} (h : trim s = s) : IsTrimmed s :=
  h ▸ isTrimmed_trim s

theorem trimEnd_eq_nil_iff {cs : List Char} : trimEnd cs = [] ↔ ∀ c ∈ cs, isBlank c = true := by
  rw [trimEnd, List.reverse_eq_nil_iff, List.dropWhile_eq_nil_iff]
  simp only [List.mem_reverse]

/-- Nothing is left of a text exactly if all of it is blank. -/
theorem trim_eq_empty_iff {s : String} : trim s = "" ↔ ∀ c ∈ s.toList, isBlank c = true := by
  rw [← String.toList_inj, toList_trim]
  show trimEnd (s.toList.dropWhile isBlank) = [] ↔ _
  rw [trimEnd_eq_nil_iff, ← List.dropWhile_eq_nil_iff, dropWhile_dropWhile,
    List.dropWhile_eq_nil_iff]

theorem trim_ne_empty_iff {s : String} : trim s ≠ "" ↔ ∃ c ∈ s.toList, isBlank c = false := by
  rw [ne_eq, trim_eq_empty_iff]
  simp only [not_forall, Bool.not_eq_true, exists_prop]

end Text

/-! ### What fields take -/

/-- What a field takes: for a name a text that is not blank throughout, and for a namespace any text or
null. -/
inductive Field.Takes : Field → Json → Prop
  | name {f : Field} {t : String} (hf : ∀ i, f ≠ .namespaceOf i)
      (ht : ∃ c ∈ t.toList, Text.isBlank c = false) : Takes f (.text t)
  | noNamespace (i : Import) : Takes (.namespaceOf i) .null
  | anyNamespace (i : Import) (t : String) : Takes (.namespaceOf i) (.text t)

namespace Profile

variable {members : Entries String Json} {p : Profile} {f : Field} {key : String} {v : Json}

/-- A member fits: it gives a field what the field takes. -/
def Fits (key : String) (v : Json) : Prop :=
  ∃ f : Field, f.key = key ∧ f.Takes v

/-- The cause for which a member is refused that does not fit. -/
def cause (key : String) (v : Json) : Cause :=
  match Field.ofKey? key, v with
  | none, _ => .unknownField
  | some _, .text _ => .blankName
  | some _, _ => .notText

theorem cause_key (f : Field) (v : Json) :
    cause f.key v = match v with
      | .text _ => .blankName
      | _ => .notText := by
  unfold cause
  rw [Field.ofKey?_key]
  cases v <;> rfl

theorem cause_of_unknown (h : Field.ofKey? key = none) (v : Json) : cause key v = .unknownField := by
  unfold cause
  rw [h]

theorem takes_name_iff {t : String} (hf : ∀ i, f ≠ .namespaceOf i) :
    f.Takes (.text t) ↔ Text.trim t ≠ "" := by
  rw [Text.trim_ne_empty_iff]
  constructor
  · intro h
    cases h with
    | name _ ht => exact ht
    | anyNamespace i => exact absurd rfl (hf i)
  · exact .name hf

theorem refusal?_text_of_name (hf : ∀ i, f ≠ .namespaceOf i) (t : String) :
    refusal? f (.text t) = if Text.trim t = "" then some .blankName else none := by
  cases f with
  | namespaceOf i => exact absurd rfl (hf i)
  | _ =>
    by_cases ht : Text.trim t = "" <;> simp only [refusal?, readName, ht, if_true, if_false]

theorem refusal?_of_name (hf : ∀ i, f ≠ .namespaceOf i) (hv : ∀ t, v ≠ .text t) :
    refusal? f v = some .notText := by
  cases f with
  | namespaceOf i => exact absurd rfl (hf i)
  | _ =>
    cases v with
    | text t => exact absurd rfl (hv t)
    | _ => rfl

theorem refusal?_of_namespace (i : Import) (v : Json) :
    refusal? (.namespaceOf i) v = match v with
      | .null => none
      | .text _ => none
      | _ => some .notText := by
  cases v <;> rfl

/-- **A value is refused as that of a field exactly if the field does not take it.** -/
theorem refusal?_eq_some_iff {c : Cause} :
    refusal? f v = some c ↔ ¬ f.Takes v ∧ c = cause f.key v := by
  rw [cause_key]
  by_cases hf : ∃ i, f = .namespaceOf i
  · obtain ⟨i, rfl⟩ := hf
    rw [refusal?_of_namespace]
    cases v with
    | null => exact ⟨fun h => (by cases h), fun h => absurd (.noNamespace i) h.1⟩
    | text t => exact ⟨fun h => (by cases h), fun h => absurd (.anyNamespace i t) h.1⟩
    | _ => exact ⟨fun h => ⟨fun ht => (by cases ht), (Option.some.inj h).symm⟩, fun h => by rw [h.2]⟩
  · have hf : ∀ i, f ≠ .namespaceOf i := fun i h => hf ⟨i, h⟩
    cases v with
    | text t =>
      rw [refusal?_text_of_name hf, takes_name_iff hf, ne_eq, not_not]
      by_cases ht : Text.trim t = ""
      · rw [if_pos ht]
        exact ⟨fun h => ⟨ht, (Option.some.inj h).symm⟩, fun h => by rw [h.2]⟩
      · rw [if_neg ht]
        exact ⟨fun h => (by cases h), fun h => absurd h.1 ht⟩
    | _ =>
      rw [refusal?_of_name hf fun t h => by cases h]
      refine ⟨fun h => ⟨fun ht => ?_, (Option.some.inj h).symm⟩, fun h => by rw [h.2]⟩
      cases ht <;> exact hf _ rfl

theorem fits_key_iff : Fits f.key v ↔ f.Takes v := by
  constructor
  · rintro ⟨f', hkey, htakes⟩
    have heq := Field.ofKey?_key f'
    rw [hkey, Field.ofKey?_key] at heq
    cases heq
    exact htakes
  · exact fun h => ⟨f, rfl, h⟩

/-- **A member that does not fit has a row with its cause**, and no other member has one. -/
theorem row?_eq_some_iff {r : Row} :
    row? (key, v) = some r ↔ ¬ Fits key v ∧ r = ⟨[key], cause key v⟩ := by
  cases hkey : Field.ofKey? key with
  | none =>
    rw [row?_unknown hkey, cause_of_unknown hkey]
    refine ⟨fun h => ⟨?_, (Option.some.inj h).symm⟩, fun h => by rw [h.2]⟩
    rintro ⟨f, rfl, -⟩
    rw [Field.ofKey?_key] at hkey
    cases hkey
  | some f =>
    obtain rfl := Field.key_of_ofKey? hkey
    rw [row?_key, fits_key_iff, Option.map_eq_some_iff]
    constructor
    · rintro ⟨c, hc, rfl⟩
      obtain ⟨hnot, rfl⟩ := refusal?_eq_some_iff.mp hc
      exact ⟨hnot, rfl⟩
    · rintro ⟨hnot, rfl⟩
      exact ⟨_, refusal?_eq_some_iff.mpr ⟨hnot, rfl⟩, rfl⟩

/-! ### Rows -/

theorem row?_eq_none_iff : row? (key, v) = none ↔ Fits key v := by
  cases hrow : row? (key, v) with
  | none =>
    refine ⟨fun _ => not_not.mp fun hnot => ?_, fun _ => rfl⟩
    rw [row?_eq_some_iff.mpr ⟨hnot, rfl⟩] at hrow
    cases hrow
  | some r => exact ⟨fun h => (by cases h), fun h => absurd h (row?_eq_some_iff.mp hrow).1⟩

/-- The rows are those of the members that do not fit. -/
theorem mem_rows_iff_not_fits (h : Entries.Distinct members) {r : Row} :
    r ∈ members.filterMap row? ↔
      ∃ key v, members.find? key = some v ∧ ¬ Fits key v ∧ r = ⟨[key], cause key v⟩ := by
  rw [List.mem_filterMap]
  constructor
  · rintro ⟨⟨key, v⟩, hmem, hrow⟩
    exact ⟨key, v, h.mem_iff.mp hmem, row?_eq_some_iff.mp hrow⟩
  · rintro ⟨key, v, hfind, hnot⟩
    exact ⟨(key, v), h.mem_iff.mpr hfind, row?_eq_some_iff.mpr hnot⟩

theorem rows_eq_nil_iff (h : Entries.Distinct members) :
    members.filterMap row? = [] ↔ ∀ key v, members.find? key = some v → Fits key v := by
  rw [List.filterMap_eq_nil_iff]
  constructor
  · exact fun hnone key v hfind => row?_eq_none_iff.mp (hnone (key, v) (h.mem_iff.mpr hfind))
  · exact fun hfits m hm => row?_eq_none_iff.mpr (hfits m.1 m.2 (h.mem_iff.mp hm))

theorem ofMembers_ok_iff : (∃ p, ofMembers members = .ok p) ↔ members.filterMap row? = [] := by
  constructor
  · rintro ⟨p, hp⟩
    refine not_not.mp fun hne => ?_
    rw [ofMembers_of_rows_ne_nil hne] at hp
    cases hp
  · exact fun hnil => ⟨_, ofMembers_of_rows_eq_nil hnil⟩

theorem eq_rows_of_error {rows : List Row} (h : ofMembers members = .error rows) :
    rows = members.filterMap row? := by
  by_cases hnil : members.filterMap row? = []
  · rw [ofMembers_of_rows_eq_nil hnil] at h
    cases h
  · rw [ofMembers_of_rows_ne_nil hnil] at h
    exact (Except.error.inj h).symm

/-- Rows are reported in their order, none of them lost. -/
theorem perm_reported (rows : List Row) : (Fault.invalid .profile rows).rows.Perm rows :=
  List.mergeSort_perm rows Row.isBefore

/-! ### Normal form -/

/-- The names of a profile are not empty and have no blanks at their ends, and neither have its
namespaces, where it has them. -/
structure IsNormal (p : Profile) : Prop where
  name : ∀ s, p.name s ≠ "" ∧ Text.IsTrimmed (p.name s)
  noneClass : p.noneClassName ≠ "" ∧ Text.IsTrimmed p.noneClassName
  namespaceOf : ∀ {i name}, p.namespaceOf i = some name → name ≠ "" ∧ Text.IsTrimmed name

theorem isNormal_of_value
    (h : ∀ f t, p.value f = .text t → t ≠ "" ∧ Text.IsTrimmed t) : p.IsNormal where
  name := fun s => h (.name s) _ rfl
  noneClass := h .noneClass _ rfl
  namespaceOf := fun {i name} hi => h (.namespaceOf i) name (by rw [value, hi])

theorem kept_name (hf : ∀ i, f ≠ .namespaceOf i) (t : String) :
    kept f (.text t) = .text (Text.trim t) := by
  cases f with
  | namespaceOf i => exact absurd rfl (hf i)
  | _ => rfl

/-- What a field keeps of a value that it takes is in normal form. -/
theorem kept_isNormal {t : String} (h : f.Takes v) (ht : kept f v = .text t) :
    t ≠ "" ∧ Text.IsTrimmed t := by
  cases h with
  | name hf hvisible =>
    rw [kept_name hf] at ht
    cases ht
    exact ⟨Text.trim_ne_empty_iff.mpr hvisible, Text.isTrimmed_trim _⟩
  | noNamespace i => cases ht
  | anyNamespace i t' =>
    rw [kept] at ht
    split at ht
    · cases ht
    · next hne =>
      cases ht
      exact ⟨hne, Text.isTrimmed_trim _⟩

theorem default_isNormal {t : String} (h : ({} : Profile).value f = .text t) :
    t ≠ "" ∧ Text.IsTrimmed t := by
  have hchecked : t ≠ "" ∧ Text.trim t = t := by
    cases f with
    | name s => cases s <;> cases h <;> decide
    | noneClass => cases h; decide
    | namespaceOf i => cases i <;> cases h <;> decide
  exact ⟨hchecked.1, Text.isTrimmed_of_trim_eq hchecked.2⟩

/-- **A profile that is made is in normal form.** -/
theorem isNormal_of_ofMembers (h : ofMembers members = .ok p) : p.IsNormal := by
  refine isNormal_of_value fun f t ht => ?_
  rw [value_of_ofMembers h] at ht
  cases hv : members.find? f.key with
  | none =>
    rw [hv] at ht
    exact default_isNormal ht
  | some v =>
    rw [hv] at ht
    have hrow := List.filterMap_eq_nil_iff.mp (ofMembers_ok_iff.mp ⟨p, h⟩) _
      (Entries.mem_of_find? hv)
    exact kept_isNormal (fits_key_iff.mp (row?_eq_none_iff.mp hrow)) ht

/-! ### Validating again -/

/-- A field takes the value of a profile in normal form, and keeps all of it. -/
theorem IsNormal.takes_value (h : p.IsNormal) (f : Field) :
    f.Takes (p.value f) ∧ kept f (p.value f) = p.value f := by
  have hname : ∀ {f : Field} {t : String}, (∀ i, f ≠ .namespaceOf i) → t ≠ "" ∧ Text.IsTrimmed t →
      f.Takes (.text t) ∧ kept f (.text t) = .text t := by
    rintro f t hf ⟨hne, htrimmed⟩
    have htrim := Text.trim_of_isTrimmed htrimmed
    exact ⟨(takes_name_iff hf).mpr (by rwa [htrim]), by rw [kept_name hf, htrim]⟩
  cases f with
  | name s => exact hname (by simp) (h.name s)
  | noneClass => exact hname (by simp) h.noneClass
  | namespaceOf i =>
    rw [value]
    cases hi : p.namespaceOf i with
    | none => exact ⟨.noNamespace i, rfl⟩
    | some name =>
      obtain ⟨hne, htrimmed⟩ := h.namespaceOf hi
      refine ⟨.anyNamespace i name, ?_⟩
      show kept (.namespaceOf i) (.text name) = .text name
      rw [kept, Text.trim_of_isTrimmed htrimmed, if_neg hne]

theorem distinct_members (p : Profile) : Entries.Distinct p.members := by
  have hkeys : p.members.map Prod.fst = Field.all.map Field.key := by
    rw [Profile.members, List.map_map]
    rfl
  rw [Entries.Distinct, hkeys]
  decide

theorem find?_members_eq_some_iff :
    p.members.find? key = some v ↔ ∃ f : Field, f.key = key ∧ p.value f = v := by
  rw [← (distinct_members p).mem_iff, Profile.members, List.mem_map]
  constructor
  · rintro ⟨f, -, hf⟩
    cases hf
    exact ⟨f, rfl, rfl⟩
  · rintro ⟨f, rfl, rfl⟩
    exact ⟨f, Field.mem_all f, rfl⟩

/-- **The fields of a profile in normal form make the same profile.** -/
theorem ofMembers_members (h : p.IsNormal) : ofMembers p.members = .ok p := by
  have hnil : p.members.filterMap row? = [] := by
    refine (rows_eq_nil_iff (distinct_members p)).mpr fun key v hfind => ?_
    obtain ⟨f, rfl, rfl⟩ := find?_members_eq_some_iff.mp hfind
    exact fits_key_iff.mpr (h.takes_value f).1
  obtain ⟨q, hq⟩ := ofMembers_ok_iff.mpr hnil
  have heq : q = p := by
    refine ext_value fun f => ?_
    rw [value_of_ofMembers hq, find?_members_eq_some_iff.mpr ⟨f, rfl, rfl⟩]
    exact (h.takes_value f).2
  rw [hq, heq]

/-- A profile that nothing else was set of dumps its fields. -/
theorem dump_ofProfile (p : Profile) : (Attributes.ofProfile p).dump = .ok p.members := by
  have hnone : p.members.find? "__pydantic_serializer__" = none := by
    refine Option.eq_none_iff_forall_ne_some.mpr fun v hv => ?_
    obtain ⟨f, hf, -⟩ := find?_members_eq_some_iff.mp hv
    have hkeys : ∀ f ∈ Field.all, f.key ≠ "__pydantic_serializer__" := by decide
    exact hkeys f (Field.mem_all f) hf
  have hfields : p.members.filter (fun m : String × Json => (Field.ofKey? m.1).isSome) =
      p.members := by
    refine List.filter_eq_self.mpr fun m hm => ?_
    obtain ⟨f, -, rfl⟩ := List.mem_map.mp hm
    rw [Field.ofKey?_key]
    rfl
  have htable : (Attributes.ofProfile p).table = p.members := rfl
  rw [Attributes.dump, htable, hnone]
  exact congrArg Except.ok hfields

/-! ### All of it -/

/-- **Validation of profiles.** Members of which no key stands twice make a profile exactly if all of
them fit. Otherwise one row is reported for each that does not, with its cause, and no row for any
other. A profile that they make is in normal form; its fields hold what the members give, without the
blanks around it, or their defaults; and what it dumps makes the same profile again. -/
theorem validation_of_profiles (h : Entries.Distinct members) :
    ((∃ p, ofMembers members = .ok p) ↔
      ∀ key v, members.find? key = some v → Fits key v) ∧
    (∀ rows, ofMembers members = .error rows →
      ((Fault.invalid .profile rows).rows.map Row.location).Nodup ∧
      ∀ r, r ∈ (Fault.invalid .profile rows).rows ↔
        ∃ key v, members.find? key = some v ∧ ¬ Fits key v ∧ r = ⟨[key], cause key v⟩) ∧
    (∀ p, ofMembers members = .ok p →
      p.IsNormal ∧
      (∀ f, p.value f = (members.find? f.key).elim (({} : Profile).value f) (kept f)) ∧
      ∃ dumped, (Attributes.ofProfile p).dump = .ok dumped ∧ ofMembers dumped = .ok p) := by
  refine ⟨ofMembers_ok_iff.trans (rows_eq_nil_iff h), fun rows hrows => ⟨?_, fun r => ?_⟩,
    fun p hp => ⟨isNormal_of_ofMembers hp, value_of_ofMembers hp, p.members, dump_ofProfile p,
      ofMembers_members (isNormal_of_ofMembers hp)⟩⟩
  · rw [((perm_reported rows).map Row.location).nodup_iff, eq_rows_of_error hrows]
    exact nodup_locations h
  · rw [(perm_reported rows).mem_iff, eq_rows_of_error hrows]
    exact mem_rows_iff_not_fits h

/-- A blank name is refused and a blank namespace is not. Where nothing is refused, the namespace is gone
and the name has lost its blanks, and that profile survives its dump. -/
theorem validation_of_profiles_blank :
    (∃ rows, ofMembers [("set_namespace", .text " "), ("set_name", .text "\t ")] = .error rows ∧
      ⟨["set_name"], .blankName⟩ ∈ (Fault.invalid .profile rows).rows ∧
      ∀ c, ⟨["set_namespace"], c⟩ ∉ (Fault.invalid .profile rows).rows) ∧
    ∃ p, ofMembers [("set_namespace", .text " "), ("set_name", .text " Bag")] = .ok p ∧
      p.setName = "Bag" ∧ p.setNamespace = none ∧
      ∃ dumped, (Attributes.ofProfile p).dump = .ok dumped ∧ ofMembers dumped = .ok p := by
  have hblank : Entries.Distinct [("set_namespace", Json.text " "), ("set_name", .text "\t ")] := by
    show ["set_namespace", "set_name"].Nodup
    decide
  have hbag : Entries.Distinct [("set_namespace", Json.text " "), ("set_name", .text " Bag")] := by
    show ["set_namespace", "set_name"].Nodup
    decide
  obtain ⟨-, hrefused, -⟩ := validation_of_profiles hblank
  obtain ⟨-, -, hmade⟩ := validation_of_profiles hbag
  refine ⟨⟨_, rfl, ?_, fun c hc => ?_⟩, _, rfl, rfl, rfl, (hmade _ rfl).2.2⟩
  · have hrow : row? ("set_name", .text "\t ") = some ⟨["set_name"], .blankName⟩ := rfl
    exact ((hrefused _ rfl).2 _).mpr ⟨_, _, rfl, row?_eq_some_iff.mp hrow⟩
  · obtain ⟨key, v, hfind, hnot, heq⟩ := ((hrefused _ rfl).2 _).mp hc
    cases heq
    cases hfind
    exact hnot ⟨.namespaceOf .set, rfl, .anyNamespace .set " "⟩

end Profile

end TypeLowering
