import Mathlib.Data.List.Infix
import TypeLowering.Proofs.Overlays

/-!
# Layers of the environment

An environment gives its profile in layers: one variable holds an object or null, and variables for
single fields are put over that (`Environment.Layered`). What it gives for a field is
`Environment.fieldValue?`, and which keys that no profile knows stand in it is `Environment.Mentions`.
Null hides the variables for single fields. Only variables with certain names are read
(`Environment.onlyRead`).
-/

namespace TypeLowering

namespace Json

/-- The members of an object; nothing else has any. -/
def membersOf : Option Json → Entries String Json
  | some (.object members) => members
  | _ => []

/-- Whether a reader stands inside an array or object, or behind one. -/
def Reading.isInside : Reading → Bool
  | .value frames => !frames.isEmpty
  | .after v [] => !v.isNull
  | _ => true

theorem Reading.isInside_step {r r' : Reading} {t : Token} (hr : r.isInside = true)
    (h : r.step t = some r') : r'.isInside = true := by
  cases r with
  | value frames =>
    cases frames with
    | nil => cases hr
    | cons frame frames => cases t <;> cases h <;> rfl
  | firstItem frames => cases frames <;> cases t <;> cases h <;> rfl
  | firstKey frames => cases frames <;> cases t <;> cases h <;> rfl
  | key members frames =>
    cases t <;> cases h
    rfl
  | colon members key frames =>
    cases t <;> cases h
    rfl
  | after v frames =>
    rcases frames with _ | ⟨frame, frames⟩
    · cases h
    · cases frame <;> cases frames <;> cases t <;> cases h <;> rfl

theorem Reading.isInside_foldlM {ts : List Token} {r r' : Reading} (hr : r.isInside = true)
    (h : ts.foldlM Reading.step r = some r') : r'.isInside = true := by
  induction ts generalizing r with
  | nil =>
    cases h
    exact hr
  | cons t rest ih =>
    rw [List.foldlM_cons] at h
    obtain ⟨next, hnext, h⟩ := Option.bind_eq_some_iff.mp h
    exact ih (isInside_step hr hnext) h

/-- Null is a word of its own, so it has no keys. -/
theorem hasUnpairedKey_of_null {s : String} (h : read? s = some .null) : hasUnpairedKey s = false := by
  obtain ⟨r, hr, hnull⟩ := Option.bind_eq_some_iff.mp h
  obtain ⟨ts, hts, hfold⟩ := Option.bind_eq_some_iff.mp hr
  have hend : r.isInside = false := by
    split at hnull
    · cases hnull
      rfl
    · cases hnull
  have hone : ∃ v, ts = [.word v] := by
    cases ts with
    | nil =>
      cases hfold
      cases hnull
    | cons t rest =>
      rw [List.foldlM_cons] at hfold
      obtain ⟨next, hnext, hrest⟩ := Option.bind_eq_some_iff.mp hfold
      have hout : next.isInside = false := by
        refine Bool.eq_false_iff.mpr fun hinside => ?_
        rw [Reading.isInside_foldlM hinside hrest] at hend
        cases hend
      cases t with
      | word v =>
        cases hnext
        cases rest with
        | nil => exact ⟨v, rfl⟩
        | cons t' rest => cases hrest
      | text cs =>
        cases hnext
        cases hout
      | _ =>
        cases hnext
        try cases hout
  obtain ⟨v, rfl⟩ := hone
  rw [hasUnpairedKey, hts]
  rfl

end Json

namespace Environment

variable {env : Environment}

/-! ### What the environment gives -/

/-- What the text of the variable with the profile writes. -/
def written? (env : Environment) : Option Json :=
  (env.lookup? "typeref_profile").bind Json.read?

/-- The members of the object that the variable with the profile writes. -/
def written (env : Environment) : Entries String Json :=
  Json.membersOf env.written?

/-- The value of the variable for a single field. Null as the profile hides these variables. -/
def fieldVariable? (env : Environment) (key : String) : Option Json :=
  if env.written?.any Json.isNull then none
  else (env.lookup? (fieldStart ++ key)).map .text

/-- The value that the environment gives for a field: that of its variable, or else that of the object's
last key that is spelled like it in some letter case. The latter comes first if the object has the key
itself and another spelling after it. -/
def fieldValue? (env : Environment) (key : String) : Option Json :=
  if respells env.written key then spelled? env.written key
  else (env.fieldVariable? key).or (spelled? env.written key)

/-- The environment has a variable for a single field with a key, or the key stands in the object and is
that of no field in any letter case. -/
def Mentions (env : Environment) (key : String) : Prop :=
  (env.fieldVariable? key).isSome = true ∨
    key ∈ env.written.map Prod.fst ∧ Field.ofKey? (Text.lower key) = none

/-- The profile is given in layers: an object or null, over which variables for single fields are put. -/
structure Layered (env : Environment) : Prop where
  namesDiffer : env.NamesDiffer
  leadsToFields : env.LeadsToFields
  profile : ∀ text, env.lookup? "typeref_profile" = some text →
    Json.read? text = some .null ∨ ∃ members, Json.read? text = some (.object members)

/-- Layers can be told from the names of the variables and the type of the profile. -/
theorem Layered.of_typeName (hnames : env.NamesDiffer)
    (hfields : ∀ e ∈ env, (fieldOf? (Text.lower e.1)).all
      (fun key => decide (¬ "__".toList <:+: key.toList)) = true)
    (hprofile : env.written?.map Json.typeName ∈ [some "NoneType", some "dict"]) :
    env.Layered where
  namesDiffer := hnames
  leadsToFields e he key hkey := by
    have hkeys := hfields e he
    rw [hkey] at hkeys
    exact of_decide_eq_true hkeys
  profile text htext := by
    rw [written?, htext, Option.bind_some] at hprofile
    cases hread : Json.read? text with
    | none => simp [hread] at hprofile
    | some v =>
      rw [hread] at hprofile
      cases v with
      | null => exact .inl rfl
      | object members => exact .inr ⟨members, rfl⟩
      | _ => simp [Json.typeName] at hprofile

/-- The members of the profile that the environment gives. -/
def provided (env : Environment) : Entries String Json :=
  if env.written?.any Json.isNull then [] else env.profileMembers env.written

theorem distinct_provided (env : Environment) : Entries.Distinct env.provided := by
  unfold provided
  split
  · exact Entries.distinct_nil
  · exact env.distinct_profileMembers _

theorem membersOf_of_any_isNull {v? : Option Json} (h : v?.any Json.isNull = true) :
    Json.membersOf v? = [] := by
  rcases v? with _ | v
  · rfl
  · cases v with
    | null => rfl
    | _ => cases h

theorem find?_provided (env : Environment) (f : Field) :
    env.provided.find? f.key = env.fieldValue? f.key := by
  unfold provided fieldValue? fieldVariable?
  by_cases hnull : env.written?.any Json.isNull = true
  · rw [if_pos hnull, if_pos hnull, written, membersOf_of_any_isNull hnull]
    rfl
  · rw [if_neg hnull, if_neg hnull, find?_profileMembers_key]

theorem isSome_find?_provided (env : Environment) {key : String} (hkey : Field.ofKey? key = none) :
    (env.provided.find? key).isSome = true ↔ env.Mentions key := by
  unfold provided Mentions fieldVariable?
  by_cases hnull : env.written?.any Json.isNull = true
  · rw [if_pos hnull, if_pos hnull, written, membersOf_of_any_isNull hnull]
    simp [Entries.find?]
  · rw [if_neg hnull, if_neg hnull, isSome_find?_profileMembers _ _ hkey, Option.isSome_map]

/-- The profile of the environment is there as an object, or it is not there at all. -/
theorem profile?_of_layered (h : env.Layered) :
    env.profile? {} = .ok (some (.object env.provided)) ∨
      env.profile? {} = .ok none ∧ env.provided = [] ∧ env.hasUnpairedKey {} = false := by
  have hfields := profileFields_default h.namesDiffer h.leadsToFields
  unfold profile? provided written written?
  rw [value?_profile, hasUnpairedKey_default, hfields]
  cases hprofile : env.lookup? "typeref_profile" with
  | none =>
    have hprovided : env.profileMembers [] = withFieldKeys {} (Entries.ofPairs env.fieldPairs) := by
      rw [profileMembers, overlay_nil (Entries.distinct_ofPairs _)]
    cases hpairs : Entries.ofPairs env.fieldPairs with
    | nil =>
      rw [hpairs] at hprovided
      exact .inr ⟨rfl, hprovided, rfl⟩
    | cons p rest =>
      rw [hpairs] at hprovided
      refine .inl ?_
      show Except.ok (some (Json.object (withFieldKeys {} (p :: rest)))) = _
      rw [← hprovided]
      rfl
  | some text =>
    rcases h.profile text hprofile with hread | ⟨members, hread⟩
    · refine .inr ⟨?_, ?_, Json.hasUnpairedKey_of_null hread⟩
      · simp only [Option.map_some, hread]
      · simp only [Option.bind_some, hread]
        rfl
    · refine .inl ?_
      simp only [Option.map_some, Option.bind_some, hread]
      rfl

/-! ### Variables that are read -/

/-- Whether settings are read from the variable with a name. -/
def isRead (name : String) : Bool :=
  Text.lower name ∈ ["typeref_log_level", "typeref_json_logs", "typeref_profile"] ||
    (fieldOf? (Text.lower name)).isSome

/-- The variables that settings are read from. -/
def onlyRead (env : Environment) : Environment :=
  env.filter fun e => isRead e.1

theorem lookup?_onlyRead (env : Environment) {name : String}
    (hname : name ∈ ["typeref_log_level", "typeref_json_logs", "typeref_profile"]) :
    env.onlyRead.lookup? name = env.lookup? name := by
  refine Entries.last?_filter (fun n hn => ?_) env
  rw [isRead, of_decide_eq_true hn, decide_eq_true hname, Bool.true_or]

theorem lookup?_onlyRead_field (env : Environment) (key : String) :
    env.onlyRead.lookup? (fieldStart ++ key) = env.lookup? (fieldStart ++ key) := by
  refine Entries.last?_filter (fun n hn => ?_) env
  rw [isRead, fieldOf?_eq_some_iff.mpr (of_decide_eq_true hn), Option.isSome_some, Bool.or_true]

theorem fieldPairs_onlyRead (env : Environment) : env.onlyRead.fieldPairs = env.fieldPairs := by
  rw [fieldPairs, onlyRead, List.filterMap_filter, fieldPairs]
  refine List.filterMap_congr fun e _ => ?_
  split
  · rfl
  · next hread =>
    cases hf : fieldOf? (Text.lower e.1) with
    | none => rfl
    | some key =>
      rw [isRead, hf, Option.isSome_some, Bool.or_true] at hread
      exact absurd rfl hread

theorem written?_onlyRead (env : Environment) : env.onlyRead.written? = env.written? := by
  rw [written?, lookup?_onlyRead env (by simp), written?]

theorem Layered.onlyRead (h : env.Layered) : env.onlyRead.Layered where
  namesDiffer := (List.filter_sublist.map _).nodup h.namesDiffer
  leadsToFields e he := h.leadsToFields e (List.mem_filter.mp he).1
  profile text htext := h.profile text (by rwa [lookup?_onlyRead env (by simp)] at htext)

end Environment

end TypeLowering
