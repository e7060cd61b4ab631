import TypeLowering.Session

/-!
# What a step can change

`Session.perform_effects` says once what a step does to the environment, to the settings that have been
read, to the profile in use and to logging; everything about runs is derived from it.

* `reading`, `remembered?`: what reading the settings gives, and what is known after it.
* `request?`: what a step asks of logging. A configuration is asked for only after the settings have
  been read, where they are needed.
* `step_fst`, `step_log`: beyond that a step only writes its events, and a record of a new logger leaves
  the session as it is.
-/

namespace TypeLowering

/-! ### Requests to logging -/

namespace Logging

/-- What logging can be asked for. -/
inductive Request where
  | configure (level : Json) (writesJson : Bool)
  | reset

/-- Logging after a request, and whether it succeeds. -/
def answer (l : Logging) : Request → Logging × Except LoggingFault Unit
  | .configure level writesJson => l.configure level writesJson
  | .reset => (l.reset, .ok ())

theorem exists_use_eq (l : Logging) (logger : String) : ∃ kept, l.use logger = { l with kept } := by
  unfold use
  split
  · exact ⟨l.kept, rfl⟩
  · exact ⟨_, rfl⟩
  · exact ⟨l.kept, rfl⟩

/-- Events only let loggers keep their layouts. -/
theorem exists_writeEvents_fst (l : Logging) (es : List Event) :
    ∃ kept, (l.writeEvents es).1 = { l with kept } := by
  induction es generalizing l with
  | nil => exact ⟨l.kept, rfl⟩
  | cons e rest ih =>
    obtain ⟨kept, huse⟩ := l.exists_use_eq e.logger
    obtain ⟨kept', hrest⟩ := ih (l.use e.logger)
    refine ⟨kept', ?_⟩
    show ((l.use e.logger).writeEvents rest).1 = _
    rw [hrest, huse]

end Logging

/-! ### What steps ask for -/

namespace Step

/-- The environment after a step. -/
def environmentAfter : Step → Environment → Environment
  | .setVariable name value, env => (env.set name value).toOption.getD env
  | .unsetVariable name, env => Entries.remove env name
  | _, env => env

/-- Whether a step reads the settings. A configuration does only where something is missing. -/
def readsSettings : Step → Bool
  | .settings => true
  | .settingsAreKept => true
  | .useSettings => true
  | .configureLogging level json? => level.isNull || json?.isNone
  | _ => false

/-- Whether a step clears the settings that have been read. -/
def clearsSettings : Step → Bool
  | .clearSettings => true
  | _ => false

theorem eq_log_or_ne (st : Step) : (∃ r, st = .log r) ∨ ∀ r, st ≠ .log r := by
  cases st with
  | log r => exact .inl ⟨r, rfl⟩
  | _ => exact .inr fun r h => by cases h

end Step

/-- The fault that is reported where settings cannot be made. -/
def SettingsFault.toFault : SettingsFault → Fault
  | .unreadable u => .unreadable u
  | .refused rows => .environment rows

namespace Session

/-- What reading the settings gives: those that are known, or else those of the environment. -/
def reading (s : Session) : Except Fault Settings :=
  match s.settings? with
  | some settings => .ok settings
  | none => (Settings.make [] s.environment).mapError SettingsFault.toFault

/-- The settings that are known once they have been read. -/
def remembered? (s : Session) : Option Settings :=
  s.reading.toOption

/-- The settings that are known after a step. -/
def settingsAfter (s : Session) (st : Step) : Option Settings :=
  if st.clearsSettings then none
  else if st.readsSettings then s.remembered?
  else s.settings?

/-- The profile that a step takes into use. -/
def taken? (s : Session) : Step → Option Profile
  | .useSettings => s.remembered?.map Settings.profile
  | .useProfile members => (Profile.ofMembers members).toOption
  | _ => none

/-- What a step asks of logging. -/
def request? (s : Session) : Step → Option Logging.Request
  | .configureLogging level json? =>
    match level.isNull, json? with
    | false, some writesJson => some (.configure level writesJson)
    | _, _ =>
      s.remembered?.map fun settings =>
        .configure (if level.isGiven then level else .text settings.logLevel.name)
          (json?.getD settings.jsonLogs)
  | .useSettings =>
    if s.logging.isConfigured then none
    else
      s.remembered?.map fun settings =>
        .configure (.text settings.logLevel.name) settings.jsonLogs
  | .resetLogging => some .reset
  | _ => none

variable {s : Session} {st : Step}

/-! ### Reading the settings -/

theorem remembered?_eq (s : Session) :
    s.remembered? = s.settings?.or (Settings.make [] s.environment).toOption := by
  unfold remembered? reading
  cases s.settings? with
  | some settings => rfl
  | none => cases Settings.make [] s.environment <;> rfl

/-- The settings are read, and known from then on, or they cannot be made and all is as before. -/
theorem readSettings_cases (s : Session) :
    (∃ settings, s.reading = .ok settings ∧ s.remembered? = some settings ∧
      s.readSettings = ({ s with settings? := some settings }, .ok settings)) ∨
    (∃ f, s.reading = .error f ∧ s.remembered? = none ∧ s.settings? = none ∧
      s.readSettings = (s, .error f)) := by
  obtain ⟨graph, names, bindings, profile?, collector, environment, settings?, logging⟩ := s
  cases settings? with
  | some settings => exact .inl ⟨settings, rfl, rfl, rfl⟩
  | none =>
    simp only [readSettings, remembered?, reading]
    cases hmake : Settings.make [] environment with
    | ok settings => exact .inl ⟨settings, rfl, rfl, rfl⟩
    | error f => cases f <;> exact .inr ⟨_, rfl, rfl, trivial, rfl⟩

theorem readSettings_fst (s : Session) :
    s.readSettings.1 = { s with settings? := s.remembered? } := by
  rcases s.readSettings_cases with ⟨settings, -, hr, hread⟩ | ⟨f, -, hr, hs, hread⟩
  · rw [hread, hr]
  · rw [hread, hr, ← hs]

theorem readSettings_snd (s : Session) : s.readSettings.2 = s.reading := by
  rcases s.readSettings_cases with ⟨settings, h, -, hread⟩ | ⟨f, h, -, -, hread⟩
  · rw [hread, h]
  · rw [hread, h]

theorem settingsAfter_of_reads (h : st.readsSettings = true) :
    s.settingsAfter st = s.remembered? := by
  cases st <;> simp_all [settingsAfter, Step.readsSettings, Step.clearsSettings]

theorem settingsAfter_of_not_reads (h : st.readsSettings = false)
    (hclear : st.clearsSettings = false) : s.settingsAfter st = s.settings? := by
  rw [settingsAfter, hclear, h]
  rfl

/-! ### The steps that need the settings -/

/-- A configuration that is given all it needs asks for that. -/
theorem configureLogging_of_not_reads {level : Json} {json? : Option Bool}
    (h : Step.readsSettings (.configureLogging level json?) = false) :
    ∃ writesJson, s.request? (.configureLogging level json?) = some (.configure level writesJson) ∧
      s.configureLogging level json? = s.configureWith level writesJson := by
  obtain ⟨hnull, hjson⟩ := Bool.or_eq_false_iff.mp h
  cases json? with
  | none => cases hjson
  | some writesJson =>
    exact ⟨writesJson, by simp only [request?, hnull], by simp only [configureLogging, hnull]⟩

/-- A configuration where something is missing reads the settings before it asks. -/
theorem configureLogging_of_reads {level : Json} {json? : Option Bool}
    (h : Step.readsSettings (.configureLogging level json?) = true) :
    (s.request? (.configureLogging level json?) =
      s.remembered?.map fun settings =>
        .configure (if level.isGiven then level else .text settings.logLevel.name)
          (json?.getD settings.jsonLogs)) ∧
    s.configureLogging level json? =
      match s.readSettings with
      | (s, .error f) => (s, .error f)
      | (s, .ok settings) =>
        s.configureWith (if level.isGiven then level else .text settings.logLevel.name)
          (json?.getD settings.jsonLogs) := by
  rcases Bool.or_eq_true_iff.mp h with hnull | hnone
  · refine ⟨by simp only [request?, hnull], ?_⟩
    unfold configureLogging
    generalize level.isNull = b at hnull ⊢
    subst hnull
    rfl
  · obtain rfl := Option.isNone_iff_eq_none.mp hnone
    refine ⟨by cases hnull : level.isNull <;> simp only [request?, hnull], ?_⟩
    unfold configureLogging
    cases level.isNull <;> rfl

/-- A configuration either gets past the reading of the settings, and then asks for what it was given or
else for what the settings say, or it ends there. -/
theorem configureLogging_cases (s : Session) (level : Json) (json? : Option Bool) :
    (∃ level' writesJson,
      (Step.readsSettings (.configureLogging level json?) = true → s.remembered?.isSome = true) ∧
      s.request? (.configureLogging level json?) = some (.configure level' writesJson) ∧
      s.configureLogging level json? =
        { s with settings? := s.settingsAfter (.configureLogging level json?) }.configureWith
          level' writesJson) ∨
    (∃ f, s.reading = .error f ∧ s.request? (.configureLogging level json?) = none ∧
      s.settingsAfter (.configureLogging level json?) = s.settings? ∧
      s.configureLogging level json? = (s, .error f)) := by
  cases hreads : Step.readsSettings (.configureLogging level json?) with
  | false =>
    obtain ⟨writesJson, hrequest, hconfigure⟩ := configureLogging_of_not_reads (s := s) hreads
    refine .inl ⟨level, writesJson, fun h => absurd h (by decide), hrequest, ?_⟩
    rw [hconfigure, settingsAfter_of_not_reads hreads rfl]
  | true =>
    obtain ⟨hrequest, hconfigure⟩ := configureLogging_of_reads (s := s) hreads
    rw [hrequest, hconfigure, settingsAfter_of_reads hreads]
    rcases s.readSettings_cases with ⟨settings, -, hr, hread⟩ | ⟨f, hf, hr, hs, hread⟩
    · rw [hread, hr]
      exact .inl ⟨_, _, fun _ => rfl, rfl, rfl⟩
    · rw [hread, hr, hs]
      exact .inr ⟨f, hf, rfl, rfl, rfl⟩

/-- The settings are taken into use, which asks logging for what they say unless it is configured, or
they cannot be made. -/
theorem useSettings_cases (s : Session) :
    (∃ settings, s.remembered? = some settings ∧
      s.useSettings = ({ s with
        settings? := some settings
        profile? := some settings.profile
        logging := (s.request? .useSettings).elim s.logging fun r => (s.logging.answer r).1 },
        .ok (.profile settings.profile))) ∨
    (∃ f, s.reading = .error f ∧ s.remembered? = none ∧ s.settings? = none ∧
      s.request? .useSettings = none ∧ s.useSettings = (s, .error f)) := by
  rcases s.readSettings_cases with ⟨settings, -, hr, hread⟩ | ⟨f, hf, hr, hs, hread⟩
  · refine .inl ⟨settings, hr, ?_⟩
    simp only [useSettings, request?, hread, hr]
    cases s.logging.isConfigured <;> rfl
  · refine .inr ⟨f, hf, hr, hs, ?_, by simp only [useSettings, hread]⟩
    simp only [request?, hr, Option.map_none, ite_self]

/-! ### All steps -/

/-- **What a step changes** of the environment, of the settings that are known, of the profile in use
and of logging. -/
theorem perform_effects (s : Session) (st : Step) :
    (s.perform st).1.environment = st.environmentAfter s.environment ∧
    (s.perform st).1.settings? = s.settingsAfter st ∧
    (s.perform st).1.profile? = (s.taken? st).or s.profile? ∧
    (s.perform st).1.logging =
      (s.request? st).elim s.logging fun r => (s.logging.answer r).1 := by
  cases st with
  | useSettings =>
    have hafter : s.settingsAfter .useSettings = s.remembered? := settingsAfter_of_reads rfl
    show s.useSettings.1.environment = _ ∧ s.useSettings.1.settings? = _ ∧
      s.useSettings.1.profile? = _ ∧ s.useSettings.1.logging = _
    rw [hafter, taken?]
    rcases s.useSettings_cases with ⟨settings, hr, huse⟩ | ⟨f, -, hr, hs, hrequest, huse⟩
    · rw [huse, hr]
      exact ⟨rfl, rfl, rfl, rfl⟩
    · rw [huse, hr, hrequest]
      exact ⟨rfl, hs, rfl, rfl⟩
  | configureLogging level json? =>
    show (s.configureLogging level json?).1.environment = _ ∧
      (s.configureLogging level json?).1.settings? = _ ∧
      (s.configureLogging level json?).1.profile? = _ ∧
      (s.configureLogging level json?).1.logging = _
    rcases s.configureLogging_cases level json? with
      ⟨level', writesJson, -, hrequest, hconfigure⟩ | ⟨f, -, hrequest, hafter, hconfigure⟩
    · rw [hconfigure, hrequest]
      exact ⟨rfl, rfl, rfl, rfl⟩
    · rw [hconfigure, hrequest]
      exact ⟨rfl, hafter.symm, rfl, rfl⟩
  | settings =>
    show s.readSettings.1.environment = _ ∧ s.readSettings.1.settings? = _ ∧
      s.readSettings.1.profile? = _ ∧ s.readSettings.1.logging = _
    rw [readSettings_fst]
    exact ⟨rfl, rfl, rfl, rfl⟩
  | settingsAreKept =>
    show s.readSettings.1.environment = _ ∧ s.readSettings.1.settings? = _ ∧
      s.readSettings.1.profile? = _ ∧ s.readSettings.1.logging = _
    rw [readSettings_fst]
    exact ⟨rfl, rfl, rfl, rfl⟩
  | useProfile members =>
    simp only [perform, taken?]
    cases Profile.ofMembers members <;> exact ⟨rfl, rfl, rfl, rfl⟩
  | redefine name shape =>
    show (s.redefine name shape).environment = _ ∧ (s.redefine name shape).settings? = _ ∧
      (s.redefine name shape).profile? = _ ∧ (s.redefine name shape).logging = _
    unfold redefine
    split <;> exact ⟨rfl, rfl, rfl, rfl⟩
  | setVariable name value =>
    simp only [perform, Step.environmentAfter]
    cases s.environment.set name value <;> exact ⟨rfl, rfl, rfl, rfl⟩
  | makeSettings fields =>
    simp only [perform]
    split <;> exact ⟨rfl, rfl, rfl, rfl⟩
  | collect b =>
    simp only [perform, collect]
    split <;> exact ⟨rfl, rfl, rfl, rfl⟩
  | collectTypeOf key =>
    simp only [perform, collect]
    split <;> exact ⟨rfl, rfl, rfl, rfl⟩
  | _ => exact ⟨rfl, rfl, rfl, rfl⟩

theorem step_fst (s : Session) (st : Step) :
    (s.step st).1 = { (s.perform st).1 with
      logging := ((s.perform st).1.logging.writeEvents (s.perform st).2.events).1 } := by
  cases st with
  | log r =>
    simp only [step]
    split <;> rfl
  | _ => rfl

/-- A record of a new logger leaves the session as it is, also where it cannot be written. -/
theorem step_log (s : Session) (r : Record) :
    s.step (.log r) = (s,
      match s.logging.write r with
      | .ok written => ⟨.ok .nothing, [r], written⟩
      | .error f => ⟨.error (.record f), [r], []⟩) := by
  show (match s.logging.write r with
    | .ok written => (s, (⟨.ok .nothing, [r], written⟩ : Report))
    | .error f => (s, ⟨.error (.record f), [r], []⟩)) = _
  cases s.logging.write r <;> rfl

theorem environment_step (s : Session) (st : Step) :
    (s.step st).1.environment = st.environmentAfter s.environment := by
  rw [step_fst]
  exact (s.perform_effects st).1

theorem settings?_step (s : Session) (st : Step) :
    (s.step st).1.settings? = s.settingsAfter st := by
  rw [step_fst]
  exact (s.perform_effects st).2.1

theorem profile?_step (s : Session) (st : Step) :
    (s.step st).1.profile? = (s.taken? st).or s.profile? := by
  rw [step_fst]
  exact (s.perform_effects st).2.2.1

/-- A step that asks logging for something has no events. -/
theorem events_of_request {r : Logging.Request} (hr : s.request? st = some r) :
    (s.perform st).2.events = [] := by
  cases st with
  | useSettings => rfl
  | configureLogging level json? => rfl
  | resetLogging => rfl
  | _ => cases hr

theorem outcome_step (hst : ∀ r, st ≠ .log r) :
    (s.step st).2.outcome = (s.perform st).2.outcome := by
  cases st with
  | log r => exact absurd rfl (hst r)
  | _ => rfl

theorem records_step (hst : ∀ r, st ≠ .log r) :
    (s.step st).2.records = (s.perform st).2.events.map Event.record := by
  cases st with
  | log r => exact absurd rfl (hst r)
  | _ => rfl

/-- A step that asks logging for something does no more to it. -/
theorem logging_step_of_request {r : Logging.Request} (hr : s.request? st = some r) :
    (s.step st).1.logging = (s.logging.answer r).1 := by
  rw [step_fst, (s.perform_effects st).2.2.2, events_of_request hr, hr]
  rfl

end Session

end TypeLowering
