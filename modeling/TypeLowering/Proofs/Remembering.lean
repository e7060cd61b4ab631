import TypeLowering.Proofs.Effects

/-!
# Settings that are read once

Settings are made from the environment when they are first needed and are known from then on, until
they are cleared. `Session.readings` lists the environments that stood when settings were read since
the last clearing, and `Session.settings?_run` says that what is known are the settings of the first of
them from which settings could be made. A profile that was taken into use stays in use until another
one is (`Session.profile?_run`).
-/

namespace TypeLowering

/-- The settings of the first environment from which some can be made. -/
def Settings.first? (envs : List Environment) : Option Settings :=
  envs.findSome? fun env => (Settings.make [] env).toOption

theorem Settings.first?_concat (envs : List Environment) (env : Environment) :
    first? (envs ++ [env]) = (first? envs).or (Settings.make [] env).toOption := by
  rw [first?, List.findSome?_append]
  cases h : (Settings.make [] env).toOption <;> simp [first?, h]

/-- The fault that is reported where settings with explicit fields cannot be made. -/
def SettingsFault.toExplicitFault : SettingsFault → Fault
  | .unreadable u => .unreadable u
  | .refused rows => .invalid .settings rows

namespace Session

/-- The environment after steps. -/
def environmentAfter (env : Environment) (steps : List Step) : Environment :=
  steps.foldl (fun env st => st.environmentAfter env) env

/-- The environments that stood when settings were read, from the last clearing on; those in `since`
stood before the steps. -/
def readings (env : Environment) (since : List Environment) : List Step → List Environment
  | [] => since
  | st :: rest =>
    readings (st.environmentAfter env)
      (if st.clearsSettings then [] else if st.readsSettings then since ++ [env] else since) rest

/-- The profiles that steps take into use, one after another. -/
def takings (s : Session) : List Step → List Profile
  | [] => []
  | st :: rest => (s.taken? st).toList ++ (s.step st).1.takings rest

variable {s : Session} {st : Step}

/-! ### Runs -/

theorem run_cons (s : Session) (st : Step) (rest : List Step) :
    (s.run (st :: rest)).1 = ((s.step st).1.run rest).1 := rfl

theorem reports_cons (s : Session) (st : Step) (rest : List Step) :
    (s.run (st :: rest)).2 = (s.step st).2 :: ((s.step st).1.run rest).2 := rfl

theorem run_append (s : Session) (steps later : List Step) :
    (s.run (steps ++ later)).1 = ((s.run steps).1.run later).1 := by
  induction steps generalizing s with
  | nil => rfl
  | cons st rest ih => exact ih (s.step st).1

theorem environment_run (s : Session) (steps : List Step) :
    (s.run steps).1.environment = environmentAfter s.environment steps := by
  induction steps generalizing s with
  | nil => rfl
  | cons st rest ih =>
    rw [run_cons, ih, environment_step]
    rfl

/-- A step keeps what is known in line with the environments in which settings were read. -/
theorem settings?_step_of_first? {since : List Environment}
    (h : s.settings? = Settings.first? since) (st : Step) :
    (s.step st).1.settings? = Settings.first?
      (if st.clearsSettings then [] else if st.readsSettings then since ++ [s.environment]
        else since) := by
  rw [settings?_step, settingsAfter]
  cases hclear : st.clearsSettings with
  | true => rfl
  | false =>
    cases hread : st.readsSettings with
    | true =>
      show s.remembered? = Settings.first? (since ++ [s.environment])
      rw [Settings.first?_concat, remembered?_eq, h]
    | false => exact h

/-- **What is known was made from the first of the environments in which settings were read** since they
were last cleared, among those from which they could be made. -/
theorem settings?_run {since : List Environment} (h : s.settings? = Settings.first? since)
    (steps : List Step) :
    (s.run steps).1.settings? = Settings.first? (readings s.environment since steps) := by
  induction steps generalizing s since with
  | nil => exact h
  | cons st rest ih =>
    rw [run_cons, ih (settings?_step_of_first? h st), environment_step]
    rfl

/-- What is known stays known until it is cleared, whatever becomes of the environment. -/
theorem settings?_run_of_some {settings : Settings} (h : s.settings? = some settings)
    {steps : List Step} (hsteps : ∀ st ∈ steps, st.clearsSettings = false) :
    (s.run steps).1.settings? = some settings := by
  induction steps generalizing s with
  | nil => exact h
  | cons st rest ih =>
    rw [run_cons]
    refine ih ?_ fun st' hst' => hsteps st' (List.mem_cons_of_mem _ hst')
    rw [settings?_step, settingsAfter, hsteps st List.mem_cons_self, remembered?_eq, h]
    cases st.readsSettings <;> rfl

/-- The profile in use is the one that was last taken into use. -/
theorem profile?_run (s : Session) (steps : List Step) :
    (s.run steps).1.profile? = (s.takings steps).getLast?.or s.profile? := by
  induction steps generalizing s with
  | nil => rfl
  | cons st rest ih =>
    rw [run_cons, ih, profile?_step, takings, List.getLast?_append, ← Option.or_assoc]
    cases s.taken? st <;> rfl

/-! ### Answers -/

theorem outcome_settings (s : Session) :
    (s.step .settings).2.outcome = s.reading.map Answer.settings := by
  show s.readSettings.2.map Answer.settings = _
  rw [readSettings_snd]

/-- Where the settings cannot be read, a step that reads them fails and nothing is known after it. -/
theorem step_of_reading_error {f : Fault} (hf : s.reading = .error f)
    (hreads : st.readsSettings = true) :
    (s.step st).2.outcome = .error f ∧ (s.step st).1.settings? = none := by
  have hr : s.remembered? = none := by
    rw [remembered?, hf]
    rfl
  refine ⟨?_, by rw [settings?_step, settingsAfter_of_reads hreads, hr]⟩
  cases st with
  | settings => rw [outcome_settings, hf]; rfl
  | settingsAreKept =>
    show s.readSettings.2.map _ = _
    rw [readSettings_snd, hf]
    rfl
  | useSettings =>
    show s.useSettings.2 = _
    rcases s.useSettings_cases with ⟨settings, hr', -⟩ | ⟨f', hf', -, -, -, huse⟩
    · cases hr.symm.trans hr'
    · cases hf.symm.trans hf'
      rw [huse]
  | configureLogging level json? =>
    show (s.configureLogging level json?).2 = _
    rcases s.configureLogging_cases level json? with
      ⟨level', writesJson, hsome, -, -⟩ | ⟨f', hf', -, -, hconfigure⟩
    · have hknown := hsome hreads
      rw [hr] at hknown
      cases hknown
    · cases hf.symm.trans hf'
      rw [hconfigure]
  | _ => cases hreads

/-- A profile that is taken into use is answered, and where none is taken the step fails. -/
theorem outcome_of_taken (h : st = .useSettings ∨ ∃ members, st = .useProfile members) :
    (s.step st).2.outcome.toOption = (s.taken? st).map Answer.profile := by
  rcases h with rfl | ⟨members, rfl⟩
  · show s.useSettings.2.toOption = _
    rw [taken?]
    rcases s.useSettings_cases with ⟨settings, hr, huse⟩ | ⟨f, -, hr, -, -, huse⟩
    · rw [huse, hr]
      rfl
    · rw [huse, hr]
      rfl
  · show (s.perform (.useProfile members)).2.outcome.toOption = _
    simp only [perform, taken?]
    cases Profile.ofMembers members <;> rfl

/-- Settings with explicit fields are made from the environment as it is, and nothing is kept. -/
theorem step_makeSettings (s : Session) (fields : Entries String Json) :
    (s.step (.makeSettings fields)).1 = s ∧
      (s.step (.makeSettings fields)).2.outcome =
        ((Settings.make fields s.environment).mapError SettingsFault.toExplicitFault).map
          Answer.settings := by
  simp only [step, perform]
  cases Settings.make fields s.environment with
  | ok settings => exact ⟨rfl, rfl⟩
  | error f => cases f <;> exact ⟨rfl, rfl⟩

/-! ### From the start -/

theorem settings?_start_run (nodes : List (String × Shape Blueprint))
    (types : List (SyntaxKey × Blueprint)) (profile? : Option Profile) (captures : Bool)
    (steps : List Step) :
    ((start nodes types profile? captures).run steps).1.settings? =
      Settings.first? (readings [] [] steps) :=
  settings?_run rfl steps

/-- **Settings are read once.** After any steps the settings are those of the first environment since
the last clearing from which a step that reads them could make some, and if there is none they are
made from the environment as it is. Once made they stay until they are cleared, and where they cannot be
made nothing is kept. Settings with explicit fields have no part in this. The profile in use is the one
last taken into use. -/
theorem settings_read_once (nodes : List (String × Shape Blueprint))
    (types : List (SyntaxKey × Blueprint)) (profile? : Option Profile) (captures : Bool)
    (steps : List Step) :
    let s₀ := start nodes types profile? captures
    let s := (s₀.run steps).1
    let env := environmentAfter [] steps
    let first? := Settings.first? (readings [] [] steps)
    let current := (first?.map Except.ok).getD ((Settings.make [] env).mapError SettingsFault.toFault)
    (s.step .settings).2.outcome = current.map Answer.settings ∧
    (s.step .useSettings).2.outcome.toOption =
      current.toOption.map (fun settings => .profile settings.profile) ∧
    (∀ st, st.readsSettings = true → (s.step st).1.settings? = current.toOption) ∧
    (∀ st f, st.readsSettings = true → current = .error f →
      (s.step st).2.outcome = .error f ∧ (s.step st).1.settings? = none) ∧
    (∀ settings later, first? = some settings → (∀ st ∈ later, st.clearsSettings = false) →
      ((s.run later).1.step .settings).2.outcome = .ok (.settings settings)) ∧
    (∀ fields, (s.step (.makeSettings fields)).1 = s ∧
      (s.step (.makeSettings fields)).2.outcome =
        ((Settings.make fields env).mapError SettingsFault.toExplicitFault).map Answer.settings) ∧
    s.profile? = (s₀.takings steps).getLast?.or profile? := by
  intro s₀ s env first? current
  have henv : s.environment = env := environment_run s₀ steps
  have hknown : s.settings? = first? := settings?_start_run nodes types profile? captures steps
  have hcurrent : s.reading = current := by
    rw [reading, hknown, henv]
    cases hfirst : first? <;> simp only [current, hfirst] <;> rfl
  have hremembered : s.remembered? = current.toOption := by
    rw [remembered?, hcurrent]
  refine ⟨?_, ?_, ?_, ?_, ?_, ?_, ?_⟩
  · rw [outcome_settings, hcurrent]
  · rw [outcome_of_taken (.inl rfl), taken?, hremembered, Option.map_map]
    rfl
  · intro st hreads
    rw [settings?_step, settingsAfter_of_reads hreads, hremembered]
  · intro st f hreads hf
    exact step_of_reading_error (hcurrent.trans hf) hreads
  · intro settings later hfirst hlater
    have hstays := settings?_run_of_some (hknown.trans hfirst) hlater
    rw [outcome_settings, reading, hstays]
    rfl
  · intro fields
    rw [← henv]
    exact s.step_makeSettings fields
  · exact profile?_run s₀ steps

/-- A level that is refused, one that a configuration reads, and one that comes too late. -/
def rereading : List Step :=
  [.setVariable "TYPEREF_LOG_LEVEL" "LOUD", .settings,
    .setVariable "TYPEREF_LOG_LEVEL" "debug", .configureLogging .null (some false),
    .setVariable "TYPEREF_LOG_LEVEL" "error"]

theorem settings_read_once_rereading :
    let s₀ := start [] [] none false
    let s := (s₀.run rereading).1
    readings [] [] rereading =
      [[("TYPEREF_LOG_LEVEL", "LOUD")], [("TYPEREF_LOG_LEVEL", "debug")]] ∧
    (s.step .settings).2.outcome = .ok (.settings { logLevel := .debug }) ∧
    ((s.run [.useSettings]).1.step .settings).2.outcome = .ok (.settings { logLevel := .debug }) ∧
    (s.run [.useSettings]).1.profile? = some {} ∧
    ((s.run [.clearSettings]).1.step .settings).2.outcome =
      .ok (.settings { logLevel := .error }) ∧
    ∃ f, ((s₀.run (rereading.take 1)).1.step .settings).2.outcome = .error f ∧
      ((s₀.run (rereading.take 1)).1.step .settings).1.settings? = none := by
  intro s₀ s
  have hfirst : Settings.first? (readings [] [] rereading) = some { logLevel := .debug } := by
    decide +kernel
  have hcleared : Settings.first? (readings [] [] (rereading ++ [.clearSettings])) = none := rfl
  have hmake : (Settings.make [] (environmentAfter [] (rereading ++ [.clearSettings]))).toOption =
      some { logLevel := .error } := by
    decide +kernel
  have htaken : (s₀.takings (rereading ++ [.useSettings])).getLast? = some {} := by
    decide +kernel
  have hfailed : (Settings.make [] (environmentAfter [] (rereading.take 1))).toOption = none := by
    decide +kernel
  obtain ⟨hsettings, -, -, -, hstays, -, -⟩ :=
    settings_read_once [] [] none false rereading
  obtain ⟨-, -, -, -, -, -, hprofile⟩ :=
    settings_read_once [] [] none false (rereading ++ [.useSettings])
  obtain ⟨hagain, -⟩ := settings_read_once [] [] none false (rereading ++ [.clearSettings])
  obtain ⟨-, -, -, hnone, -⟩ := settings_read_once [] [] none false (rereading.take 1)
  refine ⟨rfl, ?_, ?_, ?_, ?_, ?_⟩
  · rw [hsettings, hfirst]
    rfl
  · exact hstays _ [.useSettings] hfirst (by decide)
  · rw [← run_append, hprofile, htaken]
    rfl
  · rw [← run_append, hagain, hcleared]
    cases hmade : Settings.make [] (environmentAfter [] (rereading ++ [.clearSettings])) with
    | ok settings =>
      rw [hmade] at hmake
      cases hmake
      rfl
    | error f =>
      rw [hmade] at hmake
      cases hmake
  · cases hmade : Settings.make [] (environmentAfter [] (rereading.take 1)) with
    | ok settings =>
      rw [hmade] at hfailed
      cases hfailed
    | error f => exact ⟨_, hnone .settings f.toFault rfl (by rw [hmade]; rfl)⟩

end Session

end TypeLowering
