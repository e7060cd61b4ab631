import TypeLowering.Proofs.Outcome

/-!
# The imports of a reference

`imports_lowerWithin`: what a lowered node needs imported are the namespaces that the profile gives
for the variants of all nodes that can be reached from it, and nothing else. Lowering sees each node
only below walks that are cut at repetitions, so one half needs the walks without repetitions of
`Reaches.exists_walk_nodup`.

`Requirement.IsProper`: a requirement that is present has members. Lowering builds no other.
-/

namespace TypeLowering

/-! ### Requirements -/

namespace Requirement

/-- A requirement is absent when it has no members. -/
def IsProper (r : Requirement) : Prop :=
  r.names = [] → r = none

theorem isProper_none : IsProper none := fun _ => rfl

theorem IsProper.join {a b : Requirement} (ha : a.IsProper) (hb : b.IsProper) :
    (a.join b).IsProper := by
  intro h
  rw [join_eq_none_iff]
  refine ⟨ha (List.eq_nil_iff_forall_not_mem.mpr ?_), hb (List.eq_nil_iff_forall_not_mem.mpr ?_)⟩
  · intro x hx
    have hmem : x ∈ (a.join b).names := mem_names_join.mpr (.inl hx)
    exact List.not_mem_nil (h ▸ hmem)
  · intro x hx
    have hmem : x ∈ (a.join b).names := mem_names_join.mpr (.inr hx)
    exact List.not_mem_nil (h ▸ hmem)

theorem IsProper.foldl_join {rs : List Requirement} {a : Requirement} (ha : a.IsProper)
    (hrs : ∀ r ∈ rs, IsProper r) : (rs.foldl Requirement.join a).IsProper := by
  induction rs generalizing a with
  | nil => exact ha
  | cons r rest ih =>
    rw [List.foldl_cons]
    exact ih (ha.join (hrs r (List.mem_cons_self ..)))
      (fun r' hr' => hrs r' (List.mem_cons_of_mem _ hr'))

theorem isProper_joinAll {rs : List Requirement} (hrs : ∀ r ∈ rs, IsProper r) :
    (joinAll rs).IsProper :=
  isProper_none.foldl_join hrs

theorem IsProper.add {r : Requirement} (hr : r.IsProper) (given : Option String) :
    (r.add given).IsProper := by
  cases given with
  | none => exact hr
  | some name =>
    intro h
    have hmem : name ∈ (r.add (some name)).names := mem_names_add.mpr (.inr rfl)
    exact absurd (h ▸ hmem) List.not_mem_nil

theorem IsProper.eq_none_iff {r : Requirement} (hr : r.IsProper) :
    r = none ↔ ∀ x, x ∉ r.names := by
  constructor
  · rintro rfl x
    exact List.not_mem_nil
  · exact fun h => hr (List.eq_nil_iff_forall_not_mem.mpr h)

theorem IsProper.eq_of_names {a b : Requirement} (ha : a.IsProper) (hb : b.IsProper)
    (h : ∀ x, x ∈ a.names ↔ x ∈ b.names) : a = b := by
  refine ext_names ?_ h
  rw [ha.eq_none_iff, hb.eq_none_iff]
  simp only [h]

end Requirement

/-! ### What lowering collects -/

namespace Graph

/-- The namespace that a profile gives for the variant of a node. -/
def namespace? (g : Graph) (p : Profile) (n : Node) : Option String :=
  (g.shape n).import?.bind p.namespaceOf

variable {g : Graph} {p : Profile}

theorem Fits.required_branch {n : Node} {s : Slot} {cs : List Node}
    (hf : g.Fits p n (.branch s cs)) : p.required s = g.namespace? p n := by
  obtain ⟨-, -, himport, -⟩ := hf
  rw [Profile.required, namespace?, himport]

theorem Fits.required_bareCall {n : Node} (hf : g.Fits p n .bareCall) :
    p.required .function = g.namespace? p n := by
  have hs : g.shape n = .function [] := hf
  rw [Profile.required, namespace?, hs]
  rfl

/-- Nothing outside the walked part is imported. -/
theorem Lowers.reaches_of_mem_imports {path : List Node} {n : Node} {l : Lowered}
    (h : g.Lowers p path n l) {x : String} (hx : x ∈ l.imports.names) :
    ∃ e, g.Reaches p.noneClassName n e ∧ g.namespace? p e = some x := by
  induction h with
  | cut _ => exact absurd hx List.not_mem_nil
  | leaf _ _ => exact absurd hx List.not_mem_nil
  | @bareCall path n _ hf =>
    rcases Requirement.mem_names_add.mp hx with hx | hx
    · exact absurd hx List.not_mem_nil
    · exact ⟨n, .refl, hf.required_bareCall ▸ hx⟩
  | @branch path n s cs ls _ hf hlen _ ih =>
    rcases Requirement.mem_names_add.mp hx with hx | hx
    · obtain ⟨r, hr, hxr⟩ := Requirement.mem_names_joinAll.mp hx
      obtain ⟨a, ha, rfl⟩ := List.mem_map.mp hr
      obtain ⟨i, hi⟩ := List.mem_iff_getElem?.mp ha
      obtain ⟨m, hm⟩ := exists_opposite hlen.symm hi
      obtain ⟨e, he, hxe⟩ := ih i m a hm hi hxr
      obtain ⟨-, rfl, -⟩ := hf
      exact ⟨e, .head (List.mem_of_getElem? hm) he, hxe⟩
    · exact ⟨n, .refl, hf.required_branch ▸ hx⟩

/-- No namespace is lost on a walk that is not cut. -/
theorem Lowers.mem_imports_of_visit {path : List Node} {n e : Node} {pos : List Nat}
    {above : List Node} (hv : g.Visit p.noneClassName path n pos above e) (hpath : e ∉ path)
    (habove : e ∉ above) {l : Lowered} (h : g.Lowers p path n l) {x : String}
    (hx : g.namespace? p e = some x) : x ∈ l.imports.names := by
  induction hv generalizing l with
  | here path n =>
    cases h with
    | cut hn => exact absurd hn hpath
    | leaf _ hf =>
      obtain ⟨-, -, himport, -⟩ := hf
      rw [namespace?, himport] at hx
      cases hx
    | bareCall _ hf => exact Requirement.mem_names_add.mpr (.inr (hf.required_bareCall.trans hx))
    | branch _ hf _ _ => exact Requirement.mem_names_add.mpr (.inr (hf.required_branch.trans hx))
  | @step path n m e i pos above hn hi _ ih =>
    rw [List.mem_cons, not_or] at habove
    obtain ⟨hne, habove⟩ := habove
    obtain ⟨s, ls, rfl, a, ha, hl⟩ := h.of_child hn hi
    have hmem : x ∈ a.imports.names :=
      ih (fun he => (List.mem_cons.mp he).elim hne hpath) habove hl hx
    exact Requirement.mem_names_add.mpr (.inl (Requirement.mem_names_joinAll.mpr
      ⟨a.imports, List.mem_map_of_mem (List.mem_of_getElem? ha), hmem⟩))

theorem Lowers.isProper_imports {path : List Node} {n : Node} {l : Lowered}
    (h : g.Lowers p path n l) : l.imports.IsProper := by
  induction h with
  | cut _ => exact Requirement.isProper_none
  | leaf _ _ => exact Requirement.isProper_none
  | bareCall _ _ => exact Requirement.isProper_none.add _
  | @branch path n s cs ls _ _ hlen _ ih =>
    refine (Requirement.isProper_joinAll fun r hr => ?_).add _
    obtain ⟨a, ha, rfl⟩ := List.mem_map.mp hr
    obtain ⟨i, hi⟩ := List.mem_iff_getElem?.mp ha
    obtain ⟨m, hm⟩ := exists_opposite hlen.symm hi
    exact ih i m a hm hi

/-- **Imports are what can be reached.** A lowered node needs the namespaces of all nodes that can
be reached from it, however its cycles are cut, and no others. The requirement is absent when there
are none, and it is never present without members. -/
theorem imports_lowerWithin {limit : Nat} {root : Node} {l : Lowered}
    (h : (g.lowerWithin p limit root).outcome = .ok l) :
    (∀ x, x ∈ l.imports.names ↔
      ∃ n, g.Reaches p.noneClassName root n ∧ g.namespace? p n = some x) ∧
    (l.imports = none ↔
      ∀ n, g.Reaches p.noneClassName root n → g.namespace? p n = none) ∧
    l.imports ≠ some .empty := by
  have hl := lowers_of_lowerWithin h
  have hmem : ∀ x, x ∈ l.imports.names ↔
      ∃ n, g.Reaches p.noneClassName root n ∧ g.namespace? p n = some x := by
    intro x
    constructor
    · exact hl.reaches_of_mem_imports
    · rintro ⟨n, hn, hx⟩
      obtain ⟨pos, above, hw, hnd⟩ := Reaches.exists_walk_nodup hn
      obtain ⟨habove, -, hdisj⟩ := List.nodup_append.mp hnd
      have hfresh : n ∉ above := fun he => hdisj n he n (List.mem_singleton_self n) rfl
      exact hl.mem_imports_of_visit (visit_nil_iff.mpr ⟨hw, habove⟩) List.not_mem_nil hfresh hx
  have hproper := hl.isProper_imports
  refine ⟨hmem, ⟨fun hnone n hn => ?_, fun hnone => hproper ?_⟩, fun hempty => ?_⟩
  · rw [Option.eq_none_iff_forall_ne_some]
    intro x hx
    have hx' := (hmem x).mpr ⟨n, hn, hx⟩
    rw [hnone] at hx'
    exact List.not_mem_nil hx'
  · refine List.eq_nil_iff_forall_not_mem.mpr fun x hx => ?_
    obtain ⟨n, hn, hx⟩ := (hmem x).mp hx
    rw [hnone n hn] at hx
    cases hx
  · rw [hempty] at hproper
    exact absurd (hproper rfl) (by simp)

/-- The namespaces of `knot` are those of all its containers, and none is lost where it is cut. -/
theorem imports_knot : ∃ l, (knot.lowerWithin {} 150 ⟨7⟩).outcome = .ok l ∧
    ∀ x, x ∈ ["System", "System.Collections.Generic"] ↔
      ∃ n, knot.Reaches "None" ⟨7⟩ n ∧ knot.namespace? {} n = some x := by
  have hl : (knot.lowerWithin {} 150 ⟨7⟩).outcome = .ok _ := rfl
  exact ⟨_, hl, (imports_lowerWithin hl).1⟩

end Graph

end TypeLowering
