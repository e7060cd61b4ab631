import TypeLowering.Proofs.Keys
import TypeLowering.Settings

/-!
# Validation of profiles

A profile is made of members if no member is refused (`Profile.ofMembers_of_rows_eq_nil`). Then each
field holds what its member gives, or its default (`Profile.value_of_ofMembers`). Otherwise there is one
row for each value that is refused and for each key that is unknown (`Profile.mem_rows_iff`). An object
joined with another one is refused as it would be alone, so joining does not matter here
(`Profile.refusal?_overlayValue`).
-/

namespace TypeLowering

theorem Field.key_of_ofKey? {key : String} {f : Field} (h : ofKey? key = some f) : f.key = key := by
  simpa using List.find?_some h

/-! ### Joining -/

theorem overlayValue_none (v : Json) : overlayValue none v = v := by
  cases v <;> simp only [overlayValue]

theorem overlay_of_distinct {under pairs : Entries String Json}
    (h : Entries.Distinct (under ++ pairs)) : overlay under pairs = under ++ pairs := by
  induction pairs generalizing under with
  | nil => rw [overlay, List.append_nil]
  | cons p rest ih =>
    obtain ⟨key, v⟩ := p
    have hkey : key ∉ under.map Prod.fst := h.not_mem_of_append
    rw [overlay, Entries.find?_eq_none_iff.mpr hkey, overlayValue_none, Entries.put_of_not_mem hkey,
      ih (by rwa [List.append_assoc]), List.append_assoc]
    rfl

/-- Over nothing, members stay what they are. -/
theorem overlay_nil {pairs : Entries String Json} (h : Entries.Distinct pairs) :
    overlay [] pairs = pairs :=
  overlay_of_distinct (by rwa [List.nil_append])

theorem distinct_overlay {under : Entries String Json} (h : Entries.Distinct under)
    (pairs : Entries String Json) : Entries.Distinct (overlay under pairs) := by
  induction pairs generalizing under with
  | nil =>
    rw [overlay]
    exact h
  | cons p rest ih =>
    obtain ⟨key, v⟩ := p
    rw [overlay]
    exact ih (h.put key _)

/-- **A key has the value that is put over**, joined with the one below it, or else the one below. -/
theorem find?_overlay (under : Entries String Json) {pairs : Entries String Json}
    (h : Entries.Distinct pairs) (key : String) :
    (overlay under pairs).find? key =
      ((pairs.find? key).map (overlayValue (under.find? key))).or (under.find? key) := by
  induction pairs generalizing under with
  | nil =>
    rw [overlay]
    rfl
  | cons p rest ih =>
    obtain ⟨k, v⟩ := p
    obtain ⟨hk, hrest⟩ := List.nodup_cons.mp h
    rw [overlay, ih _ hrest, Entries.find?_put, Entries.find?]
    by_cases hkey : k = key
    · subst hkey
      have hnone : Entries.find? rest k = none := Entries.find?_eq_none_iff.mpr hk
      rw [hnone, if_pos rfl, if_pos rfl]
      rfl
    · rw [if_neg hkey, if_neg hkey]

namespace Profile

variable {members : Entries String Json} {p : Profile} {f : Field} {v : Json}

/-! ### Values of fields -/

/-- What a field holds of a value: blanks around it do not count, and a blank namespace is none. -/
def kept : Field → Json → Json
  | .namespaceOf _, .text s => if Text.trim s = "" then .null else .text (Text.trim s)
  | _, .text s => .text (Text.trim s)
  | _, v => v

theorem namespaceOf_eq_of_value {q : Profile} {i : Import}
    (h : p.value (.namespaceOf i) = q.value (.namespaceOf i)) : p.namespaceOf i = q.namespaceOf i := by
  rw [value, value] at h
  cases hp : p.namespaceOf i with
  | none =>
    cases hq : q.namespaceOf i with
    | none => rfl
    | some name =>
      rw [hp, hq] at h
      cases h
  | some name =>
    cases hq : q.namespaceOf i with
    | none =>
      rw [hp, hq] at h
      cases h
    | some name' =>
      rw [hp, hq] at h
      rw [Json.text.inj h]

/-- A profile is told by the values of its fields. -/
theorem ext_value {q : Profile} (h : ∀ f, p.value f = q.value f) : p = q := by
  have hname : p.name = q.name := funext fun s => Json.text.inj (h (.name s))
  have hclass : p.noneClassName = q.noneClassName := Json.text.inj (h .noneClass)
  have hnamespace : p.namespaceOf = q.namespaceOf :=
    funext fun i => namespaceOf_eq_of_value (h (.namespaceOf i))
  rw [← ofChoices_self p, hname, hclass, hnamespace, ofChoices_self]

theorem readName_of_refusal? (hf : ∀ i, f ≠ .namespaceOf i) (h : refusal? f v = none) :
    ∃ s, readName v = .ok s ∧ kept f v = .text s := by
  have hread : ∃ s, readName v = .ok s := by
    cases hv : readName v with
    | ok s => exact ⟨s, rfl⟩
    | error c =>
      cases f with
      | namespaceOf i => exact absurd rfl (hf i)
      | _ =>
        simp only [refusal?, hv] at h
        cases h
  obtain ⟨s, hs⟩ := hread
  refine ⟨s, hs, ?_⟩
  cases v with
  | text t =>
    have ht : Text.trim t = s := by
      rw [readName] at hs
      split at hs
      · cases hs
      · exact Except.ok.inj hs
    rw [← ht]
    cases f with
    | namespaceOf i => exact absurd rfl (hf i)
    | _ => rfl
  | _ => cases hs

theorem readNamespace_of_refusal? {i : Import} (h : refusal? (.namespaceOf i) v = none) :
    ∃ name?, readNamespace v = .ok name? ∧
      kept (.namespaceOf i) v = name?.elim .null .text := by
  cases v with
  | null => exact ⟨none, rfl, rfl⟩
  | text s =>
    refine ⟨_, rfl, ?_⟩
    rw [kept]
    split <;> rfl
  | _ => cases h

/-- A value that is taken is a text or null, and no other value is joined with it. -/
theorem overlayValue_of_refusal? (h : refusal? f v = none) (under : Option Json) :
    overlayValue under v = v := by
  cases v with
  | object m => cases f <;> cases h
  | _ => simp only [overlayValue]

/-- **Joining does not change what is refused.** -/
theorem refusal?_overlayValue (f : Field) (under : Option Json) (v : Json) :
    refusal? f (overlayValue under v) = refusal? f v := by
  cases v with
  | object m =>
    obtain ⟨m', hm'⟩ : ∃ m', overlayValue under (.object m) = .object m' := by
      unfold overlayValue
      split <;> exact ⟨_, rfl⟩
    rw [hm']
    cases f <;> rfl
  | _ => simp only [overlayValue]

/-! ### Profiles of members -/

theorem ofMembers_of_rows_eq_nil (h : members.filterMap row? = []) :
    ofMembers members =
      .ok (ofChoices (fun s => chooseName members (.name s) (({} : Profile).name s))
        (chooseName members .noneClass ({} : Profile).noneClassName)
        (fun i => chooseNamespace members (.namespaceOf i) (({} : Profile).namespaceOf i))) := by
  unfold ofMembers
  simp only [h, List.isEmpty_nil, if_true]

theorem ofMembers_of_rows_ne_nil (h : members.filterMap row? ≠ []) :
    ofMembers members = .error (members.filterMap row?) := by
  unfold ofMembers
  simp only [List.isEmpty_iff, h, if_false]

theorem row?_key (f : Field) (v : Json) :
    row? (f.key, v) = (refusal? f v).map fun c => ⟨[f.key], c⟩ := by
  rw [row?, Field.ofKey?_key]

theorem row?_unknown {key : String} (h : Field.ofKey? key = none) (v : Json) :
    row? (key, v) = some ⟨[key], .unknownField⟩ := by
  rw [row?, h]

theorem location_row? {m : String × Json} {r : Row} (h : row? m = some r) : r.location = [m.1] := by
  unfold row? at h
  split at h
  · cases h
    rfl
  · obtain ⟨c, -, rfl⟩ := Option.map_eq_some_iff.mp h
    rfl

theorem refusal?_of_rows_eq_nil (h : members.filterMap row? = [])
    (hv : members.find? f.key = some v) : refusal? f v = none := by
  have hrow := List.filterMap_eq_nil_iff.mp h _ (Entries.mem_of_find? hv)
  rw [row?_key] at hrow
  exact Option.map_eq_none_iff.mp hrow

/-- **A field holds what its member gives**, or else its default. -/
theorem value_of_ofMembers (h : ofMembers members = .ok p) (f : Field) :
    p.value f = (members.find? f.key).elim (({} : Profile).value f) (kept f) := by
  have hrows : members.filterMap row? = [] := by
    refine Classical.byContradiction fun hne => ?_
    rw [ofMembers_of_rows_ne_nil hne] at h
    cases h
  rw [ofMembers_of_rows_eq_nil hrows] at h
  cases h
  have hchosen : ∀ f : Field, (∀ i, f ≠ .namespaceOf i) → ∀ default,
      Json.text (chooseName members f default) =
        (members.find? f.key).elim (.text default) (kept f) := by
    intro f hf default
    unfold chooseName
    cases hv : members.find? f.key with
    | none => rfl
    | some v =>
      obtain ⟨s, hs, hkept⟩ := readName_of_refusal? hf (refusal?_of_rows_eq_nil hrows hv)
      simp only [hs, Option.elim_some, hkept]
      rfl
  cases f with
  | name s =>
    rw [value, name_ofChoices, hchosen (.name s) (by simp)]
    rfl
  | noneClass => exact hchosen .noneClass (by simp) _
  | namespaceOf i =>
    rw [value, namespaceOf_ofChoices]
    unfold chooseNamespace
    cases hv : members.find? (Field.namespaceOf i).key with
    | none => rfl
    | some v =>
      obtain ⟨name?, hname, hkept⟩ :=
        readNamespace_of_refusal? (refusal?_of_rows_eq_nil hrows hv)
      simp only [hname, Option.elim_some, hkept]
      cases name? <;> rfl

/-- **There is a row for each value that is refused and for each key that is unknown**, and no other. -/
theorem mem_rows_iff (h : Entries.Distinct members) {r : Row} :
    r ∈ members.filterMap row? ↔
      (∃ f cause, (members.find? f.key).bind (refusal? f) = some cause ∧ r = ⟨[f.key], cause⟩) ∨
      ∃ key, Field.ofKey? key = none ∧ (members.find? key).isSome = true ∧
        r = ⟨[key], .unknownField⟩ := by
  rw [List.mem_filterMap]
  constructor
  · rintro ⟨⟨key, v⟩, hmem, hrow⟩
    have hv := h.mem_iff.mp hmem
    cases hf : Field.ofKey? key with
    | none =>
      rw [row?_unknown hf] at hrow
      cases hrow
      exact .inr ⟨key, hf, by rw [hv]; rfl, rfl⟩
    | some f =>
      obtain rfl := Field.key_of_ofKey? hf
      rw [row?_key] at hrow
      obtain ⟨cause, hcause, rfl⟩ := Option.map_eq_some_iff.mp hrow
      exact .inl ⟨f, cause, by rw [hv]; exact hcause, rfl⟩
  · rintro (⟨f, cause, hf, rfl⟩ | ⟨key, hkey, hsome, rfl⟩)
    · obtain ⟨v, hv, hcause⟩ := Option.bind_eq_some_iff.mp hf
      exact ⟨(f.key, v), Entries.mem_of_find? hv, by rw [row?_key, hcause]; rfl⟩
    · obtain ⟨v, hv⟩ := Option.isSome_iff_exists.mp hsome
      exact ⟨(key, v), Entries.mem_of_find? hv, row?_unknown hkey v⟩

/-- No place is told twice. -/
theorem nodup_locations (h : Entries.Distinct members) :
    ((members.filterMap row?).map Row.location).Nodup := by
  have hsublist : ((members.filterMap row?).map Row.location).Sublist
      ((members.map Prod.fst).map fun key => [key]) := by
    clear h
    induction members with
    | nil => exact List.Sublist.slnil
    | cons m rest ih =>
      rw [List.map_cons, List.map_cons]
      cases hrow : row? m with
      | none =>
        rw [List.filterMap_cons_none hrow]
        exact ih.cons _
      | some r =>
        rw [List.filterMap_cons_some hrow, List.map_cons, location_row? hrow]
        exact ih.cons_cons _
  refine hsublist.nodup (List.Pairwise.map _ (fun key key' hne heq => hne ?_) h)
  exact List.singleton_inj.mp heq

end Profile

end TypeLowering
