import Mathlib.Data.List.Nodup
import Mathlib.Data.List.Perm.Subperm
import TypeLowering.Proofs.Layers

/-!
# Settings by layers

Settings are made of the values that are chosen from explicit fields, the environment and the defaults
(`Settings.choice`). What a choice comes to does not depend on where its values are from:
`Choice.Decides` says that there are settings which hold it, or one row for each thing in it that is
refused, and `decides_make` that making settings does just this. The members that count are the explicit
ones put over those of the environment (`joined`); they stand for the choice up to values that are refused
anyway (`standsIn_joined`).
-/

namespace TypeLowering

namespace Settings

variable {explicit : Entries String Json} {env : Environment}

/-! ### Choices -/

/-- Explicit fields that leave the reading of the environment as it is, and whose profile, if there is
one, is an object with no key twice. -/
structure OfFields (explicit : Entries String Json) : Prop where
  plain : ∀ e ∈ explicit, e.1.toList.head? ≠ some '_'
  profile : ∀ v, given? explicit "profile" = some v →
    ∃ members, v = .object members ∧ Entries.Distinct members

/-- The values that count, the keys that no profile knows, and whether a key is no Unicode text. -/
structure Choice where
  level? : Option Json
  flag? : Option Json
  value? : Field → Option Json
  /-- A key that no profile knows is given. -/
  IsUnknown : String → Prop
  /-- A key of the environment's profile is no Unicode text. -/
  isUnpaired : Bool

/-- The values that count of explicit fields and an environment: each is that of the first layer that
gives one, and a key that no profile knows counts in any layer. -/
def choice (explicit : Entries String Json) (env : Environment) : Choice where
  level? := (given? explicit "log_level").or ((env.lookup? "typeref_log_level").map .text)
  flag? := (given? explicit "json_logs").or ((env.lookup? "typeref_json_logs").map .text)
  value? f :=
    ((Json.membersOf (given? explicit "profile")).find? f.key).or (env.fieldValue? f.key)
  IsUnknown key :=
    Field.ofKey? key = none ∧
      (((Json.membersOf (given? explicit "profile")).find? key).isSome = true ∨ env.Mentions key)
  isUnpaired := (env.lookup? "typeref_profile").any Json.hasUnpairedKey

namespace Choice

/-- What is refused of a choice: values that are not valid for their field, and keys that no profile
knows. A key that is no Unicode text is reported in place of everything else in the profile. -/
inductive Refuses (c : Choice) : Row → Prop
  | level {v : Json} {cause : Cause} (hv : c.level? = some v) (h : readLevel v = .error cause) :
    Refuses c ⟨["log_level"], cause⟩
  | flag {v : Json} {cause : Cause} (hv : c.flag? = some v) (h : readFlag v = .error cause) :
    Refuses c ⟨["json_logs"], cause⟩
  | value {f : Field} {v : Json} {cause : Cause} (hpaired : c.isUnpaired = false)
    (hv : c.value? f = some v) (h : Profile.refusal? f v = some cause) :
    Refuses c ⟨["profile", f.key], cause⟩
  | unknown {key : String} (hpaired : c.isUnpaired = false) (hkey : c.IsUnknown key) :
    Refuses c ⟨["profile", key], .unknownField⟩
  | unpaired (h : c.isUnpaired = true) : Refuses c ⟨["profile"], .notUnicode⟩

/-- Settings that hold what is chosen, and defaults elsewhere. -/
structure Makes (c : Choice) (settings : Settings) : Prop where
  level : c.level?.elim (settings.logLevel = .info) fun v => readLevel v = .ok settings.logLevel
  flag : c.flag?.elim (settings.jsonLogs = false) fun v => readFlag v = .ok settings.jsonLogs
  value : ∀ f, settings.profile.value f =
    (c.value? f).elim (({} : Profile).value f) (Profile.kept f)

end Choice

/-! ### Making settings -/

theorem OfFields.reading (h : OfFields explicit) : Reading.ofFields explicit = {} := by
  have hnone : ∀ key : String, key.toList.head? = some '_' → explicit.find? key = none := by
    intro key hkey
    refine Entries.find?_eq_none_iff.mpr fun hmem => ?_
    obtain ⟨e, he, heq⟩ := List.mem_map.mp hmem
    exact h.plain e he (heq ▸ hkey)
  simp only [Reading.ofFields, Reading.isChosen, Reading.option?, Reading.startsFields,
    Reading.misfitOf?, hnone "_case_sensitive" rfl, hnone "_env_prefix_target" rfl,
    hnone "_env_prefix" rfl, hnone "_env_nested_delimiter" rfl, hnone "_env_nested_max_split" rfl,
    hnone "_env_ignore_empty" rfl, hnone "_env_parse_none_str" rfl]
  rfl

/-- The members of the profile that counts. -/
def joined (explicit : Entries String Json) (env : Environment) : Entries String Json :=
  overlay env.provided (Json.membersOf (given? explicit "profile"))

theorem OfFields.distinct (h : OfFields explicit) :
    Entries.Distinct (Json.membersOf (given? explicit "profile")) := by
  cases hgiven : given? explicit "profile" with
  | none => exact Entries.distinct_nil
  | some v =>
    obtain ⟨members, rfl, hmembers⟩ := h.profile v hgiven
    exact hmembers

theorem join_eq_ofValues (under : Option Json) :
    join explicit env {} under =
      ofValues (choice explicit env).level? (choice explicit env).flag?
        ((given? explicit "profile").elim under fun v => some (overlayValue under v))
        (choice explicit env).isUnpaired := by
  unfold join choice
  simp only [Environment.value?_logLevel, Environment.value?_jsonLogs,
    Environment.hasUnpairedKey_default]
  cases given? explicit "profile" <;> rfl

theorem joined_of_none (h : given? explicit "profile" = none) :
    joined explicit env = env.provided := by
  rw [joined, h]
  show overlay env.provided [] = env.provided
  rw [overlay]

theorem joined_of_object {members : Entries String Json}
    (h : given? explicit "profile" = some (.object members)) :
    joined explicit env = overlay env.provided members := by
  rw [joined, h]
  rfl

/-- **Settings are made of the values that count.** -/
theorem make_of_layered (h : OfFields explicit) (henv : env.Layered) :
    make explicit env =
      (ofValues (choice explicit env).level? (choice explicit env).flag?
        (some (.object (joined explicit env))) (choice explicit env).isUnpaired).mapError
        .refused := by
  have hmake : ∀ under, env.profile? {} = .ok under →
      make explicit env = (join explicit env {} under).mapError .refused := by
    intro under hunder
    simp only [make, h.reading, hunder]
    rfl
  rcases Environment.profile?_of_layered henv with hunder | ⟨hunder, hprovided, hpaired⟩
  · rw [hmake _ hunder, join_eq_ofValues]
    cases hgiven : given? explicit "profile" with
    | none => rw [joined_of_none hgiven, Option.elim_none]
    | some v =>
      obtain ⟨members, rfl, -⟩ := h.profile v hgiven
      rw [joined_of_object hgiven, Option.elim_some, overlayValue]
  · -- what the environment does not give counts as an object without members
    have hpaired : (choice explicit env).isUnpaired = false := by
      rw [← hpaired, Environment.hasUnpairedKey_default]
      rfl
    rw [hmake _ hunder, join_eq_ofValues, hpaired]
    cases hgiven : given? explicit "profile" with
    | none =>
      rw [joined_of_none hgiven, hprovided]
      rfl
    | some v =>
      obtain ⟨members, rfl, hmembers⟩ := h.profile v hgiven
      rw [joined_of_object hgiven, hprovided, overlay_nil hmembers, Option.elim_some,
        overlayValue_none]

/-! ### Rows -/

/-- What a value that may be missing gives. -/
theorem getD_map_eq_ok_iff {α : Type} {v? : Option Json} {read : Json → Except Cause α} {a d : α} :
    (v?.map read).getD (.ok d) = .ok a ↔ v?.elim (a = d) fun v => read v = .ok a := by
  cases v? with
  | none => simp [eq_comm]
  | some v => rfl

theorem eq_of_elim {α : Type} {v? : Option Json} {read : Json → Except Cause α} {a a' d : α}
    (h : v?.elim (a = d) fun v => read v = .ok a) (h' : v?.elim (a' = d) fun v => read v = .ok a') :
    a = a' :=
  Except.ok.inj ((getD_map_eq_ok_iff.mpr h).symm.trans (getD_map_eq_ok_iff.mpr h'))

theorem getD_map_eq_error_iff {α : Type} {v? : Option Json} {read : Json → Except Cause α} {d : α}
    {cause : Cause} :
    (v?.map read).getD (.ok d) = .error cause ↔ ∃ v, v? = some v ∧ read v = .error cause := by
  cases v? with
  | none => simp
  | some v => simp

theorem mem_rowsAt {α : Type} {field : String} {e : Except Cause α} {r : Row} :
    r ∈ rowsAt field e ↔ ∃ cause, e = .error cause ∧ r = ⟨[field], cause⟩ := by
  cases e <;> simp [rowsAt]

theorem rowsAt_eq_nil_iff {α : Type} {field : String} {e : Except Cause α} :
    rowsAt field e = [] ↔ ∃ a, e = .ok a := by
  cases e <;> simp [rowsAt]

/-- The rows of a profile with the given members. -/
def profileRows (isUnpaired : Bool) (members : Entries String Json) : List Row :=
  if isUnpaired then [⟨["profile"], .notUnicode⟩]
  else (members.filterMap Profile.row?).map (Row.within "profile")

/-- The rows of a choice whose profile has the given members. -/
def Choice.rows (c : Choice) (members : Entries String Json) : List Row :=
  rowsAt "log_level" ((c.level?.map readLevel).getD (.ok .info)) ++
    rowsAt "json_logs" ((c.flag?.map readFlag).getD (.ok false)) ++
    profileRows c.isUnpaired members

theorem readProfile_of_rows_eq_nil {isUnpaired : Bool} {members : Entries String Json}
    (h : profileRows isUnpaired members = []) :
    ∃ p, readProfile isUnpaired (.object members) = .ok p ∧ Profile.ofMembers members = .ok p := by
  cases isUnpaired with
  | true => cases h
  | false =>
    have hok := Profile.ofMembers_of_rows_eq_nil (List.map_eq_nil_iff.mp h)
    refine ⟨_, ?_, hok⟩
    simp only [readProfile, hok]
    rfl

theorem readProfile_of_rows_ne_nil {isUnpaired : Bool} {members : Entries String Json}
    (h : profileRows isUnpaired members ≠ []) :
    readProfile isUnpaired (.object members) = .error (profileRows isUnpaired members) := by
  cases isUnpaired with
  | true => rfl
  | false =>
    have hrows : members.filterMap Profile.row? ≠ [] := fun hnil => h (by
      rw [profileRows, hnil]
      rfl)
    simp only [readProfile, Profile.ofMembers_of_rows_ne_nil hrows]
    rfl

variable {c : Choice} {members : Entries String Json}

theorem ofValues_of_rows_eq_nil (h : c.rows members = []) :
    ∃ settings, ofValues c.level? c.flag? (some (.object members)) c.isUnpaired = .ok settings ∧
      (c.level?.elim (settings.logLevel = .info) fun v => readLevel v = .ok settings.logLevel) ∧
      (c.flag?.elim (settings.jsonLogs = false) fun v => readFlag v = .ok settings.jsonLogs) ∧
      Profile.ofMembers members = .ok settings.profile := by
  rw [Choice.rows, List.append_eq_nil_iff, List.append_eq_nil_iff, rowsAt_eq_nil_iff,
    rowsAt_eq_nil_iff] at h
  obtain ⟨⟨⟨level, hlevel⟩, ⟨flag, hflag⟩⟩, hprofile⟩ := h
  obtain ⟨p, hp, hmembers⟩ := readProfile_of_rows_eq_nil hprofile
  refine ⟨⟨level, flag, p⟩, ?_, getD_map_eq_ok_iff.mp hlevel, getD_map_eq_ok_iff.mp hflag, hmembers⟩
  simp only [ofValues, hlevel, hflag, Option.map_some, Option.getD_some, hp]

theorem ofValues_of_rows_ne_nil (h : c.rows members ≠ []) :
    ofValues c.level? c.flag? (some (.object members)) c.isUnpaired = .error (c.rows members) := by
  unfold ofValues Choice.rows at *
  simp only [Option.map_some, Option.getD_some]
  generalize (c.level?.map readLevel).getD _ = level at *
  generalize (c.flag?.map readFlag).getD _ = flag at *
  by_cases hprofile : profileRows c.isUnpaired members = []
  · obtain ⟨p, hp, -⟩ := readProfile_of_rows_eq_nil hprofile
    rw [hprofile] at h ⊢
    rw [hp]
    cases level with
    | error cause => rfl
    | ok level =>
      cases flag with
      | error cause => rfl
      | ok flag => exact absurd rfl h
  · rw [readProfile_of_rows_ne_nil hprofile]
    cases level <;> cases flag <;> rfl

theorem mem_profileRows {isUnpaired : Bool} (h : Entries.Distinct members) {r : Row} :
    r ∈ profileRows isUnpaired members ↔
      isUnpaired = true ∧ r = ⟨["profile"], .notUnicode⟩ ∨
      isUnpaired = false ∧
        ((∃ f cause, (members.find? f.key).bind (Profile.refusal? f) = some cause ∧
          r = ⟨["profile", f.key], cause⟩) ∨
        ∃ key, Field.ofKey? key = none ∧ (members.find? key).isSome = true ∧
          r = ⟨["profile", key], .unknownField⟩) := by
  cases isUnpaired with
  | true => simp [profileRows]
  | false =>
    have hwithin : r ∈ profileRows false members ↔
        ∃ r' ∈ members.filterMap Profile.row?, r'.within "profile" = r := List.mem_map
    rw [hwithin]
    constructor
    · rintro ⟨r', hr', rfl⟩
      rcases (Profile.mem_rows_iff h).mp hr' with ⟨f, cause, hf, rfl⟩ | ⟨key, hkey, hsome, rfl⟩
      · exact .inr ⟨rfl, .inl ⟨f, cause, hf, rfl⟩⟩
      · exact .inr ⟨rfl, .inr ⟨key, hkey, hsome, rfl⟩⟩
    · rintro (⟨hfalse, -⟩ | ⟨-, ⟨f, cause, hf, rfl⟩ | ⟨key, hkey, hsome, rfl⟩⟩)
      · cases hfalse
      · exact ⟨_, (Profile.mem_rows_iff h).mpr (.inl ⟨f, cause, hf, rfl⟩), rfl⟩
      · exact ⟨_, (Profile.mem_rows_iff h).mpr (.inr ⟨key, hkey, hsome, rfl⟩), rfl⟩

/-- Members that stand for the values of a choice. A value that is refused may differ if its cause does
not. -/
structure Choice.StandsIn (c : Choice) (members : Entries String Json) : Prop where
  distinct : Entries.Distinct members
  refusal : ∀ f,
    (members.find? f.key).bind (Profile.refusal? f) = (c.value? f).bind (Profile.refusal? f)
  taken : ∀ f, (c.value? f).bind (Profile.refusal? f) = none → members.find? f.key = c.value? f
  unknown : ∀ key, Field.ofKey? key = none ∧ (members.find? key).isSome = true ↔ c.IsUnknown key

theorem value?_choice (explicit : Entries String Json) (env : Environment) (f : Field) :
    (choice explicit env).value? f =
      ((Json.membersOf (given? explicit "profile")).find? f.key).or (env.fieldValue? f.key) := rfl

/-- The joined members stand for what is chosen. -/
theorem standsIn_joined (h : OfFields explicit) (env : Environment) :
    (choice explicit env).StandsIn (joined explicit env) where
  distinct := distinct_overlay env.distinct_provided _
  refusal f := by
    rw [joined, find?_overlay _ h.distinct, env.find?_provided, value?_choice]
    cases Entries.find? (Json.membersOf (given? explicit "profile")) f.key with
    | none => rfl
    | some v => exact Profile.refusal?_overlayValue f _ v
  taken f hf := by
    rw [value?_choice] at hf ⊢
    rw [joined, find?_overlay _ h.distinct, env.find?_provided]
    cases hv : Entries.find? (Json.membersOf (given? explicit "profile")) f.key with
    | none => rfl
    | some v =>
      rw [hv] at hf
      exact congrArg some (Profile.overlayValue_of_refusal? hf _)
  unknown key := by
    refine and_congr_right fun hkey => ?_
    rw [joined, find?_overlay _ h.distinct, Option.isSome_or, Option.isSome_map, Bool.or_eq_true,
      env.isSome_find?_provided hkey]

/-- **The rows are what is refused.** -/
theorem Choice.StandsIn.mem_rows_iff (h : c.StandsIn members) {r : Row} :
    r ∈ c.rows members ↔ c.Refuses r := by
  rw [Choice.rows, List.mem_append, List.mem_append, mem_rowsAt, mem_rowsAt,
    mem_profileRows h.distinct]
  constructor
  · rintro ((⟨cause, hcause, rfl⟩ | ⟨cause, hcause, rfl⟩) | hprofile)
    · obtain ⟨v, hv, hcause⟩ := getD_map_eq_error_iff.mp hcause
      exact .level hv hcause
    · obtain ⟨v, hv, hcause⟩ := getD_map_eq_error_iff.mp hcause
      exact .flag hv hcause
    · rcases hprofile with ⟨hunpaired, rfl⟩ | ⟨hpaired, ⟨f, cause, hf, rfl⟩ | ⟨key, hkey, hsome, rfl⟩⟩
      · exact .unpaired hunpaired
      · rw [h.refusal] at hf
        obtain ⟨v, hv, hcause⟩ := Option.bind_eq_some_iff.mp hf
        exact .value hpaired hv hcause
      · exact .unknown hpaired ((h.unknown key).mp ⟨hkey, hsome⟩)
  · intro hr
    cases hr with
    | level hv hcause =>
      exact .inl (.inl ⟨_, getD_map_eq_error_iff.mpr ⟨_, hv, hcause⟩, rfl⟩)
    | flag hv hcause =>
      exact .inl (.inr ⟨_, getD_map_eq_error_iff.mpr ⟨_, hv, hcause⟩, rfl⟩)
    | value hpaired hv hcause =>
      refine .inr (.inr ⟨hpaired, .inl ⟨_, _, ?_, rfl⟩⟩)
      rw [h.refusal, hv]
      exact hcause
    | unknown hpaired hkey =>
      obtain ⟨hkey, hsome⟩ := (h.unknown _).mpr hkey
      exact .inr (.inr ⟨hpaired, .inr ⟨_, hkey, hsome, rfl⟩⟩)
    | unpaired hunpaired => exact .inr (.inl ⟨hunpaired, rfl⟩)

theorem nodup_profileRows {isUnpaired : Bool} (h : Entries.Distinct members) :
    ((profileRows isUnpaired members).map Row.location).Nodup := by
  cases isUnpaired with
  | true => exact List.nodup_cons.mpr ⟨List.not_mem_nil, List.nodup_nil⟩
  | false =>
    rw [profileRows, if_neg Bool.false_ne_true, List.map_map]
    have hlocations := Profile.nodup_locations h
    have hcomp : Row.location ∘ Row.within "profile" = List.cons "profile" ∘ Row.location := rfl
    rw [hcomp, ← List.map_map]
    exact List.Pairwise.map _ (fun _ _ hne heq => hne (List.cons_inj_right _ |>.mp heq)) hlocations

theorem head?_location_profileRows {isUnpaired : Bool} {l : List String}
    (h : l ∈ (profileRows isUnpaired members).map Row.location) : l.head? = some "profile" := by
  obtain ⟨r, hr, rfl⟩ := List.mem_map.mp h
  unfold profileRows at hr
  split at hr
  · rw [List.mem_singleton.mp hr]
    rfl
  · obtain ⟨r', -, rfl⟩ := List.mem_map.mp hr
    rfl

theorem location_rowsAt {α : Type} (field : String) (e : Except Cause α) :
    (rowsAt field e).map Row.location = [] ∨ (rowsAt field e).map Row.location = [[field]] := by
  cases e with
  | ok a => exact .inl rfl
  | error c => exact .inr rfl

/-- No place is told twice. -/
theorem nodup_location_rows (c : Choice) (h : Entries.Distinct members) :
    ((c.rows members).map Row.location).Nodup := by
  have hprofile : ((profileRows c.isUnpaired members).map Row.location).Nodup := nodup_profileRows h
  have hlevel : ["log_level"] ∉ (profileRows c.isUnpaired members).map Row.location :=
    fun hmem => absurd (head?_location_profileRows hmem) (by decide)
  have hflag : ["json_logs"] ∉ (profileRows c.isUnpaired members).map Row.location :=
    fun hmem => absurd (head?_location_profileRows hmem) (by decide)
  rw [Choice.rows, List.map_append, List.map_append]
  rcases location_rowsAt "log_level" ((c.level?.map readLevel).getD (.ok .info)) with h₁ | h₁ <;>
    rcases location_rowsAt "json_logs" ((c.flag?.map readFlag).getD (.ok false)) with h₂ | h₂ <;>
    rw [h₁, h₂]
  · exact hprofile
  · exact List.nodup_cons.mpr ⟨hflag, hprofile⟩
  · exact List.nodup_cons.mpr ⟨hlevel, hprofile⟩
  · refine List.nodup_cons.mpr ⟨?_, List.nodup_cons.mpr ⟨hflag, hprofile⟩⟩
    exact fun hmem => (List.mem_cons.mp hmem).elim (by decide) hlevel

/-! ### Outcomes -/

theorem Choice.Makes.eq {settings settings' : Settings} (h : c.Makes settings)
    (h' : c.Makes settings') : settings = settings' := by
  obtain ⟨level, flag, profile⟩ := settings
  obtain ⟨level', flag', profile'⟩ := settings'
  have hlevel : level = level' := eq_of_elim h.level h'.level
  have hflag : flag = flag' := eq_of_elim h.flag h'.flag
  have hprofile : profile = profile' :=
    Profile.ext_value fun f => (h.value f).trans (h'.value f).symm
  rw [hlevel, hflag, hprofile]

/-- Where nothing is refused, the members have the values that are chosen. -/
theorem Choice.StandsIn.value_of_not_refuses (h : c.StandsIn members) (hnone : ∀ r, ¬ c.Refuses r)
    (f : Field) : members.find? f.key = c.value? f := by
  have hpaired : c.isUnpaired = false := Bool.eq_false_iff.mpr fun hp => hnone _ (.unpaired hp)
  refine h.taken f (Option.eq_none_iff_forall_not_mem.mpr fun cause hcause => ?_)
  obtain ⟨v, hv, hcause⟩ := Option.bind_eq_some_iff.mp hcause
  exact hnone _ (.value hpaired hv hcause)

/-- What comes of a choice: settings that hold it if nothing is refused, and otherwise a row for each
thing that is refused. -/
inductive Choice.Decides (c : Choice) : Except SettingsFault Settings → Prop
  | made {settings : Settings} (hnone : ∀ r, ¬ c.Refuses r) (hmakes : c.Makes settings) :
    Decides c (.ok settings)
  | refused {rows : List Row} (hsome : ∃ r, c.Refuses r) (hrows : ∀ r, r ∈ rows ↔ c.Refuses r)
    (hnodup : (rows.map Row.location).Nodup) : Decides c (.error (.refused rows))

/-- **What comes of explicit fields and an environment is decided by the values that are chosen.** -/
theorem decides_make (h : OfFields explicit) (henv : env.Layered) :
    (choice explicit env).Decides (make explicit env) := by
  have hmake := make_of_layered h henv
  have hstands := standsIn_joined h env
  have hmem : ∀ r, r ∈ (choice explicit env).rows (joined explicit env) ↔
      (choice explicit env).Refuses r := fun r => hstands.mem_rows_iff
  by_cases hrows : (choice explicit env).rows (joined explicit env) = []
  · have hnone : ∀ r, ¬ (choice explicit env).Refuses r := by
      intro r hr
      rw [← hmem, hrows] at hr
      cases hr
    obtain ⟨settings, hok, hlevel, hflag, hprofile⟩ := ofValues_of_rows_eq_nil hrows
    rw [hmake, hok]
    refine .made hnone ⟨hlevel, hflag, fun f => ?_⟩
    rw [Profile.value_of_ofMembers hprofile, hstands.value_of_not_refuses hnone]
  · rw [hmake, ofValues_of_rows_ne_nil hrows]
    obtain ⟨r, hr⟩ := List.exists_mem_of_ne_nil _ hrows
    exact .refused ⟨r, (hmem r).mp hr⟩ hmem (nodup_location_rows _ hstands.distinct)

/-- One choice does not come to different things. -/
theorem Choice.Decides.agree {outcome outcome' : Except SettingsFault Settings}
    (h : c.Decides outcome) (h' : c.Decides outcome') :
    (∀ settings, outcome = .ok settings ↔ outcome' = .ok settings) ∧
    ∀ rows rows', outcome = .error (.refused rows) → outcome' = .error (.refused rows') →
      rows.Perm rows' := by
  cases h with
  | made hnone hmakes =>
    cases h' with
    | made _ hmakes' =>
      rw [hmakes.eq hmakes']
      exact ⟨fun _ => Iff.rfl, fun _ _ h _ => by cases h⟩
    | refused hsome _ _ =>
      obtain ⟨r, hr⟩ := hsome
      exact absurd hr (hnone r)
  | refused hsome hrows hnodup =>
    cases h' with
    | made hnone _ =>
      obtain ⟨r, hr⟩ := hsome
      exact absurd hr (hnone r)
    | refused _ hrows' hnodup' =>
      refine ⟨fun settings => ⟨fun h => ?_, fun h => ?_⟩, ?_⟩
      · cases h
      · cases h
      rintro _ _ ⟨⟩ ⟨⟩
      refine (List.perm_ext_iff_of_nodup (.of_map _ hnodup) (.of_map _ hnodup')).mpr fun r => ?_
      rw [hrows, hrows']

theorem choice_onlyRead (explicit : Entries String Json) (env : Environment) :
    choice explicit env.onlyRead = choice explicit env := by
  unfold choice Environment.fieldValue? Environment.Mentions Environment.fieldVariable?
    Environment.written
  simp only [env.lookup?_onlyRead_field, env.written?_onlyRead]
  rw [env.lookup?_onlyRead (by simp), env.lookup?_onlyRead (by simp),
    env.lookup?_onlyRead (by simp)]

/-- Other variables are not read. -/
theorem make_onlyRead (h : OfFields explicit) (henv : env.Layered) :
    make explicit env.onlyRead = make explicit env := by
  have hjoined : joined explicit env.onlyRead = joined explicit env := by
    unfold joined Environment.provided Environment.written Environment.profileMembers
    rw [env.written?_onlyRead, env.fieldPairs_onlyRead]
  rw [make_of_layered h henv, make_of_layered h henv.onlyRead, choice_onlyRead, hjoined]

/-- **Settings by layers.** Each value is chosen from the first layer that gives one: explicit fields,
variables for single fields, the object that one variable holds, defaults. Settings are made if nothing
is refused, and they hold what is chosen. Otherwise the rows are for the chosen values that are not valid
and for the keys that no profile knows, in whatever layer, and each place has one row. So values that
are not chosen do not matter, and neither do other variables.

There are three exceptions. Null in place of the object hides the variables for single fields. Keys of the
object count in any letter case, and another spelling after a field's own key comes before the variable.
A key that is no Unicode text has its row in place of all others of the profile. -/
theorem make_by_layers (h : OfFields explicit) (henv : env.Layered) :
    let c := choice explicit env
    ((∃ settings, make explicit env = .ok settings) ↔ ∀ r, ¬ c.Refuses r) ∧
    (∀ settings, make explicit env = .ok settings → c.Makes settings) ∧
    (∀ fault, make explicit env = .error fault →
      ∃ rows, fault = .refused rows ∧ (∀ r, r ∈ rows ↔ c.Refuses r) ∧
        (rows.map Row.location).Nodup) ∧
    (∀ explicit' env', OfFields explicit' → env'.Layered → choice explicit' env' = c →
      (∀ settings, make explicit' env' = .ok settings ↔ make explicit env = .ok settings) ∧
      ∀ rows rows', make explicit' env' = .error (.refused rows) →
        make explicit env = .error (.refused rows') → rows.Perm rows') ∧
    make explicit env.onlyRead = make explicit env := by
  intro c
  have hdecides : c.Decides (make explicit env) := decides_make h henv
  refine ⟨⟨?_, ?_⟩, ?_, ?_, ?_, make_onlyRead h henv⟩
  · rintro ⟨settings, hmake⟩
    rw [hmake] at hdecides
    cases hdecides with
    | made hnone _ => exact hnone
  · intro hnone
    generalize make explicit env = outcome at hdecides ⊢
    cases hdecides with
    | made _ _ => exact ⟨_, rfl⟩
    | refused hsome _ _ =>
      obtain ⟨r, hr⟩ := hsome
      exact absurd hr (hnone r)
  · intro settings hmake
    rw [hmake] at hdecides
    cases hdecides with
    | made _ hmakes => exact hmakes
  · intro fault hmake
    rw [hmake] at hdecides
    cases hdecides with
    | refused _ hrows hnodup => exact ⟨_, rfl, hrows, hnodup⟩
  · intro explicit' env' h' henv' hc
    have hdecides' := decides_make h' henv'
    rw [hc] at hdecides'
    exact hdecides'.agree hdecides

/-- An object with a value that is refused, and variables. -/
def mixedVariables : Environment :=
  [("TYPEREF_PROFILE", "\x7b\"set_name\": 1, \"list_name\": \"Vector\"\x7d"),
    ("typeref_profile__List_Name", " Sequence "), ("TYPEREF_PROFILE__SET_NAMESPACE", ""),
    ("TYPEREF_LOG_LEVEL", "debug"), ("TYPEREF_OTHER", "1")]

theorem layered_mixedVariables : mixedVariables.Layered :=
  .of_typeName (by decide +kernel) (by decide +kernel) (by decide +kernel)

/-- A profile that gives the name of sets outright. -/
def explicitSet : Entries String Json :=
  [("profile", .object [("set_name", .text "Bag")])]

theorem ofFields_explicitSet : OfFields explicitSet where
  plain := by decide +kernel
  profile v hv := by
    have hlower : Text.lower "profile" = "profile" := by decide +kernel
    have hgiven : given? explicitSet "profile" = some (.object [("set_name", .text "Bag")]) := by
      simp [given?, explicitSet, hlower]
    rw [hgiven] at hv
    cases hv
    exact ⟨_, rfl, List.nodup_cons.mpr ⟨List.not_mem_nil, List.nodup_nil⟩⟩

/-- The explicit name comes before the refused one, and variables come before the object. -/
def mixedSettings : Settings where
  logLevel := .debug
  profile := { setName := "Bag", setNamespace := none, listName := "Sequence" }

theorem make_by_layers_mixed :
    OfFields explicitSet ∧ mixedVariables.Layered ∧
    make explicitSet mixedVariables = .ok mixedSettings ∧
    (choice explicitSet mixedVariables).Makes mixedSettings ∧
    make explicitSet mixedVariables.onlyRead = .ok mixedSettings := by
  obtain ⟨-, hmakes, -, -, hread⟩ := make_by_layers ofFields_explicitSet layered_mixedVariables
  have hmake : make explicitSet mixedVariables = .ok mixedSettings := by decide +kernel
  exact ⟨ofFields_explicitSet, layered_mixedVariables, hmake, hmakes _ hmake, hread.trans hmake⟩

/-- A variable for a name, with null as the profile. -/
def hiddenVariable : Environment :=
  [("TYPEREF_PROFILE", "null"), ("TYPEREF_PROFILE__SET_NAME", "HashSet")]

/-- A variable for a name, and an object that has the name's key and another spelling of it. -/
def respelledVariable : Environment :=
  [("TYPEREF_PROFILE", "\x7b\"set_name\": \"Bag\", \"SET_NAME\": \"Heap\"\x7d"),
    ("TYPEREF_PROFILE__SET_NAME", "HashSet")]

/-- A name that is refused, beside a key that is no Unicode text. -/
def unpairedVariable : Environment :=
  [("TYPEREF_PROFILE", "\x7b\"\\ud800\": 1, \"set_name\": 2\x7d")]

/-- A variable for a single field does not come before null, nor before a second spelling, and not every
refused value is told where a key is no Unicode text. -/
theorem variable_overturned :
    (hiddenVariable.Layered ∧
      (make [] hiddenVariable).toOption.map (fun s => s.profile.setName) = some "Set") ∧
    (respelledVariable.Layered ∧
      (make [] respelledVariable).toOption.map (fun s => s.profile.setName) = some "Heap") ∧
    unpairedVariable.Layered ∧
      ((choice [] unpairedVariable).value? (.name .set)).bind (Profile.refusal? (.name .set)) =
        some .notText ∧
      make [] unpairedVariable = .error (.refused [⟨["profile"], .notUnicode⟩]) := by
  refine ⟨⟨?_, by decide +kernel⟩, ⟨?_, by decide +kernel⟩, ?_, by decide +kernel,
    by decide +kernel⟩
  all_goals
    exact .of_typeName (by decide +kernel) (by decide +kernel) (by decide +kernel)

end Settings

end TypeLowering
