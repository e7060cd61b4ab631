import TypeLowering.Proofs.History
import TypeLowering.Proofs.Remembering
import TypeLowering.Proofs.Variables

/-!
# Settings that cannot be read

Refused values of the environment are reported as one problem of configuration. There is one more way
to fail, which is reported as what it is and not as such a problem: the variable with the profile may
hold a text that is no JSON (`reading_by_profileText`). Nothing else goes wrong, also where the settings
are taken into use, since the level that they name configures logging.
-/

namespace TypeLowering

namespace Environment

/-- The variable with the profile holds a text that is no JSON. -/
def HoldsNoJson (env : Environment) : Prop :=
  ∃ text, env.lookup? "typeref_profile" = some text ∧ Json.read? text = none

variable {env : Environment}

theorem profile?_of_holdsNoJson (h : env.HoldsNoJson) : env.profile? {} = .error .profile := by
  obtain ⟨text, htext, hread⟩ := h
  simp only [profile?, value?_profile, htext, Option.map_some, hread]

theorem exists_profile?_eq_ok (h : ¬ env.HoldsNoJson) : ∃ under, env.profile? {} = .ok under := by
  simp only [profile?, value?_profile]
  cases htext : env.lookup? "typeref_profile" with
  | none => exact ⟨_, rfl⟩
  | some text =>
    simp only [Option.map_some]
    cases hread : Json.read? text with
    | none => exact absurd ⟨text, htext, hread⟩ h
    | some v => cases v <;> exact ⟨_, rfl⟩

theorem make_of_holdsNoJson (h : env.HoldsNoJson) :
    Settings.make [] env = .error (.unreadable .profile) := by
  simp only [Settings.make, Reading.ofFields_nil, profile?_of_holdsNoJson h]
  rfl

theorem make_of_not_holdsNoJson (h : ¬ env.HoldsNoJson) :
    (∃ settings, Settings.make [] env = .ok settings) ∨
      ∃ rows, Settings.make [] env = .error (.refused rows) := by
  obtain ⟨under, hunder⟩ := exists_profile?_eq_ok h
  have hmake : Settings.make [] env = (Settings.join [] env {} under).mapError .refused := by
    simp only [Settings.make, Reading.ofFields_nil, hunder]
    rfl
  rw [hmake]
  cases Settings.join [] env {} under with
  | ok settings => exact .inl ⟨settings, rfl⟩
  | error rows => exact .inr ⟨rows, rfl⟩

end Environment

namespace Session

theorem outcome_useSettings (s : Session) :
    (s.step .useSettings).2.outcome =
      s.reading.map fun settings => .profile settings.profile := by
  show s.useSettings.2 = _
  rcases s.useSettings_cases with ⟨settings, hr, huse⟩ | ⟨f, hf, -, -, -, huse⟩
  · rw [huse]
    rw [remembered?] at hr
    cases hread : s.reading with
    | ok settings' =>
      rw [hread] at hr
      cases hr
      rfl
    | error f =>
      rw [hread] at hr
      cases hr
  · rw [huse, hf]
    rfl

/-- **How reading the settings can fail.** Where settings are not known yet and the variable with the
profile holds a text that is no JSON, reading them fails for that, and neither this nor taking them into
use reports a problem of configuration. Otherwise there are settings, or the values that are refused are
reported as one problem of configuration. -/
theorem reading_by_profileText (s : Session) :
    let misread := s.settings? = none ∧ s.environment.HoldsNoJson
    (misread → s.reading = .error (.unreadable .profile)) ∧
    (¬ misread → (∃ settings, s.reading = .ok settings) ∨
      ∃ rows, s.reading = .error (.environment rows)) ∧
    (∀ f, s.reading = .error f →
      (f.problem?.map Problem.cls = some .configuration ↔ ¬ misread)) ∧
    (s.step .settings).2.outcome = s.reading.map .settings ∧
    (s.step .useSettings).2.outcome =
      s.reading.map (fun settings => .profile settings.profile) ∧
    (∀ settings, s.reading = .ok settings →
      (s.configureWith (.text settings.logLevel.name) settings.jsonLogs).2.isOk = true) := by
  intro misread
  have hmisread : misread → s.reading = .error (.unreadable .profile) := by
    rintro ⟨hs, henv⟩
    simp only [reading, hs, Environment.make_of_holdsNoJson henv]
    rfl
  have hread : ¬ misread → (∃ settings, s.reading = .ok settings) ∨
      ∃ rows, s.reading = .error (.environment rows) := by
    intro h
    cases hs : s.settings? with
    | some settings => exact .inl ⟨settings, by simp only [reading, hs]⟩
    | none =>
      have henv : ¬ s.environment.HoldsNoJson := fun henv => h ⟨hs, henv⟩
      simp only [reading, hs]
      rcases Environment.make_of_not_holdsNoJson henv with ⟨settings, hmake⟩ | ⟨rows, hmake⟩
      · exact .inl ⟨settings, by rw [hmake]; rfl⟩
      · exact .inr ⟨rows, by rw [hmake]; rfl⟩
  refine ⟨hmisread, hread, ?_, outcome_settings s, outcome_useSettings s, ?_⟩
  · intro f hf
    constructor
    · intro hcls h
      rw [hmisread h] at hf
      cases hf
      cases hcls
    · intro h
      rcases hread h with ⟨settings, hok⟩ | ⟨rows, herror⟩
      · rw [hok] at hf
        cases hf
      · rw [herror] at hf
        cases hf
        rfl
  · intro settings _
    rw [isOk_configureWith, isOk_answer_name]

/-- An object that is not closed is no JSON: the fault is none of configuration, and neither is that of
taking the settings into use. -/
theorem unclosed_profile_escapes :
    let s := ((start [] [] none false).run [.setVariable "TYPEREF_PROFILE" "\x7b"]).1
    (∃ f, (s.step .settings).2.outcome = .error f ∧
      f.className ≠ ProblemClass.configuration.name) ∧
    ∃ f, (s.step .useSettings).2.outcome = .error f ∧
      f.className ≠ ProblemClass.configuration.name := by
  intro s
  have hmisread : s.settings? = none ∧ s.environment.HoldsNoJson :=
    ⟨rfl, "\x7b", rfl, rfl⟩
  obtain ⟨hread, -, -, hsettings, huse, -⟩ := reading_by_profileText s
  rw [hread hmisread] at hsettings huse
  exact ⟨⟨_, hsettings, by decide⟩, ⟨_, huse, by decide⟩⟩

end Session

end TypeLowering
