import TypeLowering.Proofs.Keys
import TypeLowering.Settings

/-!
# Variables of settings

The environment as settings read it where nothing else is asked for: names begin with `TYPEREF_` and
count in any letter case, and of several variables with one name the last counts
(`Environment.lookup?`). Where no two names differ in letter case only and none leads deeper than one
field, the profile that the variables for single fields give has one text for each of them
(`profileFields_default`).
-/

namespace TypeLowering

namespace Environment

/-- The value of a variable, whose name is given in lower case. -/
def lookup? (env : Environment) (name : String) : Option String :=
  Entries.last? (fun n => Text.lower n = name) env

/-- What the names of the variables for single fields of the profile begin with. -/
def fieldStart : String := "typeref_profile__"

/-- The key of the field that a variable's name in lower case leads to. -/
def fieldOf? (name : String) : Option String :=
  if fieldStart.toList.isPrefixOf name.toList then
    some (String.ofList (name.toList.drop fieldStart.length))
  else none

/-- The variables for single fields of the profile, by the keys of the fields. -/
def fieldPairs (env : Environment) : List (String × Json) :=
  env.filterMap fun e => (fieldOf? (Text.lower e.1)).map fun key => (key, .text e.2)

/-- No two variables have names that differ in letter case only. -/
def NamesDiffer (env : Environment) : Prop :=
  (env.map fun e => Text.lower e.1).Nodup

instance (env : Environment) : Decidable env.NamesDiffer :=
  inferInstanceAs (Decidable (List.Nodup _))

/-- No variable's name leads into a field of the profile. -/
def LeadsToFields (env : Environment) : Prop :=
  ∀ e ∈ env, ∀ key, fieldOf? (Text.lower e.1) = some key → ¬ "__".toList <:+: key.toList

variable {env : Environment}

/-! ### Names -/

theorem fieldOf?_eq_some_iff {name key : String} :
    fieldOf? name = some key ↔ name = fieldStart ++ key := by
  unfold fieldOf?
  constructor
  · intro h
    split at h
    · next hstart =>
      obtain ⟨rest, hrest⟩ := List.isPrefixOf_iff_prefix.mp hstart
      cases h
      rw [← String.toList_inj, String.toList_append, String.toList_ofList, ← hrest,
        ← String.length_toList, List.drop_left]
    · cases h
  · rintro rfl
    rw [String.toList_append, if_pos (List.isPrefixOf_iff_prefix.mpr (List.prefix_append ..)),
      ← String.length_toList, List.drop_left, String.ofList_toList]

theorem counted_default (env : Environment) :
    env.counted {} = Entries.ofPairs (env.map fun e => (Text.lower e.1, Json.text e.2)) := by
  have hall : env.filter (fun e => !(false && e.2 = "")) = env :=
    List.filter_eq_self.mpr fun _ _ => rfl
  show Entries.ofPairs ((env.filter fun e => !(false && e.2 = "")).map _) = _
  rw [hall]
  rfl

theorem find?_counted (env : Environment) (name : String) :
    (env.counted {}).find? name = (env.lookup? name).map .text := by
  rw [counted_default, Entries.find?_ofPairs, Entries.last?_map (· = name) Text.lower Json.text]
  rfl

/-- The variable of a field of the settings. -/
theorem value?_default (env : Environment) (field : String) :
    env.value? {} field = (env.lookup? (Text.lower ("TYPEREF_" ++ field))).map .text :=
  find?_counted env _

theorem lower_profile : Text.lower ("TYPEREF_" ++ "profile") = "typeref_profile" := by
  decide +kernel

theorem value?_profile (env : Environment) :
    env.value? {} "profile" = (env.lookup? "typeref_profile").map .text := by
  rw [value?_default, lower_profile]

theorem value?_logLevel (env : Environment) :
    env.value? {} "log_level" = (env.lookup? "typeref_log_level").map .text := by
  have hlower : Text.lower ("TYPEREF_" ++ "log_level") = "typeref_log_level" := by decide +kernel
  rw [value?_default, hlower]

theorem value?_jsonLogs (env : Environment) :
    env.value? {} "json_logs" = (env.lookup? "typeref_json_logs").map .text := by
  have hlower : Text.lower ("TYPEREF_" ++ "json_logs") = "typeref_json_logs" := by decide +kernel
  rw [value?_default, hlower]

theorem hasUnpairedKey_default (env : Environment) :
    env.hasUnpairedKey {} = (env.lookup? "typeref_profile").any Json.hasUnpairedKey := by
  rw [hasUnpairedKey, value?_profile]
  cases env.lookup? "typeref_profile" <;> rfl

/-! ### Variables for single fields -/

theorem cutPath_of_uncut {delimiter : List Char} (cuts? : Option Nat) (seen : List Char)
    {cs : List Char} (h : ¬ delimiter <:+: cs) :
    cutPath delimiter cuts? seen 0 cs = [String.ofList (seen.reverse ++ cs)] := by
  induction cs generalizing seen with
  | nil => rw [cutPath, List.append_nil]
  | cons c rest ih =>
    have hprefix : delimiter.isPrefixOf (c :: rest) = false := by
      cases hp : delimiter.isPrefixOf (c :: rest) with
      | false => rfl
      | true => exact absurd (List.isPrefixOf_iff_prefix.mp hp).isInfix h
    rw [cutPath, hprefix, Bool.and_false, if_neg Bool.false_ne_true,
      ih (c :: seen) fun hcut => h (hcut.trans (List.suffix_cons ..).isInfix),
      List.reverse_cons, List.append_assoc]
    rfl

theorem profilePath?_default {name : String}
    (h : ∀ key, fieldOf? name = some key → ¬ "__".toList <:+: key.toList) :
    profilePath? {} name = (fieldOf? name).map fun key => [key] := by
  have hname : Reading.variableName? {} "profile" = some "typeref_profile" :=
    congrArg some lower_profile
  have hstart : ("typeref_profile" ++ "__").toList = fieldStart.toList := by decide
  unfold profilePath?
  rw [hname]
  simp only [hstart]
  unfold fieldOf? at h ⊢
  split
  · next hp =>
    rw [if_pos hp] at h
    have hcut := h _ rfl
    have hlist := @String.toList_ofList (name.toList.drop fieldStart.length)
    rw [hlist] at hcut
    rw [String.length_toList]
    show some (cutPath "__".toList none [] 0 (name.toList.drop fieldStart.length)) = _
    rw [cutPath_of_uncut none [] hcut]
    rfl
  · rfl

/-- The profile that the variables for single fields give, one text for each of them. -/
theorem profileFields_default (hnames : env.NamesDiffer) (hfields : env.LeadsToFields) :
    env.profileFields {} = Entries.ofPairs env.fieldPairs := by
  have hdistinct : Entries.Distinct (env.map fun e => (Text.lower e.1, Json.text e.2)) := by
    rw [Entries.Distinct, List.map_map]
    exact hnames
  unfold profileFields
  rw [counted_default, Entries.ofPairs_of_distinct hdistinct, Entries.ofPairs, fieldPairs]
  clear hnames hdistinct
  generalize ([] : Entries String Json) = members
  induction env generalizing members with
  | nil => rfl
  | cons e rest ih =>
    have hpath := profilePath?_default (hfields e List.mem_cons_self)
    have hrest : LeadsToFields rest := fun e' he' => hfields e' (List.mem_cons_of_mem _ he')
    rw [List.map_cons, List.foldl_cons, ih hrest]
    simp only [hpath]
    cases hkey : fieldOf? (Text.lower e.1) with
    | none =>
      rw [List.filterMap_cons_none (by rw [hkey]; rfl)]
      rfl
    | some key =>
      rw [List.filterMap_cons_some (b := (key, .text e.2)) (by rw [hkey]; rfl)]
      rfl

theorem last?_fieldPairs (env : Environment) (key : String) :
    Entries.last? (· = key) env.fieldPairs = (env.lookup? (fieldStart ++ key)).map .text := by
  induction env with
  | nil => rfl
  | cons e rest ih =>
    unfold lookup? at ih ⊢
    rw [Entries.last?]
    cases hkey : fieldOf? (Text.lower e.1) with
    | none =>
      have hne : ¬ Text.lower e.1 = fieldStart ++ key := by
        intro heq
        rw [fieldOf?_eq_some_iff.mpr heq] at hkey
        cases hkey
      rw [fieldPairs, List.filterMap_cons_none (by rw [hkey]; rfl), ← fieldPairs, ih]
      simp [hne]
    | some key' =>
      have hname := fieldOf?_eq_some_iff.mp hkey
      rw [fieldPairs, List.filterMap_cons_some (b := (key', .text e.2)) (by rw [hkey]; rfl),
        ← fieldPairs, Entries.last?, ih, hname]
      by_cases heq : key' = key
      · subst heq
        cases Entries.last? (fun n => Text.lower n = fieldStart ++ key') rest <;> simp
      · have hne : ¬ fieldStart ++ key' = fieldStart ++ key := by
          intro h
          rw [← hname, ← fieldOf?_eq_some_iff, hkey] at h
          exact heq (Option.some.inj h)
        simp [heq, hne]

theorem mem_fieldPairs {pair : String × Json} (h : pair ∈ env.fieldPairs) :
    ∃ name value, Text.lower name = fieldStart ++ pair.1 ∧ pair.2 = .text value := by
  obtain ⟨e, -, hpair⟩ := List.mem_filterMap.mp h
  obtain ⟨key, hkey, rfl⟩ := Option.map_eq_some_iff.mp hpair
  exact ⟨e.1, e.2, fieldOf?_eq_some_iff.mp hkey, rfl⟩

end Environment

end TypeLowering
