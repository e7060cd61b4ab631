import TypeLowering.Proofs.Configuring
import TypeLowering.Proofs.Remembering

/-!
# Steps that fail

A step that fails leaves a session as it is, apart from a configuration that is rejected for its level,
which may have read the settings and chosen the layout, and apart from layouts that the loggers of its
events keep (`Session.step_of_error`).

Sessions that differ in kept layouts alone answer alike (`Session.step_withKept`). So the steps that
fail, rejected configurations apart, can be left out of a run, and the other steps answer the same with
the same records on as many lines (`Session.run_withoutIdle`). Those lines may be written in other
layouts, unless the steps that are left out kept none.
-/

namespace TypeLowering

namespace Logging

variable {l : Logging}

/-- Logging where loggers have kept other layouts. -/
def withKept (l : Logging) (kept : Entries String Layout) : Logging :=
  { l with kept }

theorem answer_withKept (l : Logging) (kept : Entries String Layout) (r : Request) :
    (l.withKept kept).answer r = ((l.answer r).1.withKept kept, (l.answer r).2) := by
  obtain ⟨threshold?, layout, isConfigured, kept', captures⟩ := l
  cases r with
  | reset => rfl
  | configure level writesJson =>
    cases level with
    | text s =>
      simp only [answer, configure, withKept]
      cases LoggingName.ofText? (Text.upper s) with
      | none => rfl
      | some name => cases threshold? <;> cases name <;> rfl
    | _ => rfl

/-- A request that is rejected still chooses the layout, and may fix the threshold at what it is. -/
theorem answer_of_error {r : Request} {f : LoggingFault} (h : (l.answer r).2 = .error f) :
    (l.answer r).1 = { l with layout := r.layout, threshold? := l.threshold?.or r.fixed? } ∧
      (l.answer r).1.threshold = l.threshold := by
  cases r with
  | reset => cases h
  | configure level writesJson =>
    have hok : (l.answer (.configure level writesJson)).2.isOk = false := by
      rw [h]
      rfl
    rw [answer_fst, hok]
    refine ⟨rfl, ?_⟩
    simp only [threshold]
    cases l.threshold? with
    | some t => rfl
    | none =>
      rcases fixed?_of_not_isOk hok with hnamed | ⟨-, hfixed⟩
      · rw [Request.fixed?, hnamed]
        rfl
      · rw [hfixed]
        rfl

/-- As many lines are written for events as events are admitted, whatever layouts are kept. -/
theorem length_writeEvents (l : Logging) (es : List Event) :
    (l.writeEvents es).2.length =
      if !l.captures && l.threshold.admits .debug then es.length else 0 := by
  rw [writeEvents_snd]
  induction es with
  | nil => simp
  | cons e rest ih =>
    have hfirst : ((l.written (l.layoutOf e.logger) e.record).toOption.getD []).length =
        if !l.captures && l.threshold.admits .debug then 1 else 0 := by
      have hlevel : e.record.level = .debug := rfl
      rw [written, hlevel, Record.written_of_isPlain e.isPlain_record]
      split <;> rfl
    rw [List.flatMap_cons, List.length_append, ih, hfirst]
    split
    · rw [List.length_cons, Nat.add_comm]
    · rfl

/-- Events let nothing be kept while nothing is configured, or by loggers that have kept a layout. -/
theorem writeEvents_of_quiet {es : List Event}
    (h : ∀ e ∈ es, l.layout = .bare ∨ (l.kept.find? e.logger).isSome = true) :
    (l.writeEvents es).1 = l := by
  induction es with
  | nil => rfl
  | cons e rest ih =>
    have huse : l.use e.logger = l := by
      unfold use
      rcases h e List.mem_cons_self with hbare | hkept
      · rw [hbare]
        cases l.kept.find? e.logger <;> rfl
      · obtain ⟨layout, hlayout⟩ := Option.isSome_iff_exists.mp hkept
        rw [hlayout]
    show ((l.use e.logger).writeEvents rest).1 = l
    rw [huse]
    exact ih fun e' he' => h e' (List.mem_cons_of_mem _ he')

end Logging

/-- Two reports of a step agree but for the layouts of lines. -/
structure Report.Matches (r r' : Report) : Prop where
  outcome : r.outcome = r'.outcome
  records : r.records = r'.records
  length : r.written.length = r'.written.length

theorem Report.Matches.refl (r : Report) : r.Matches r := ⟨rfl, rfl, rfl⟩

/-- Whether a step failed, other than by a configuration that is rejected. -/
def Report.isIdle (r : Report) : Bool :=
  match r.outcome with
  | .ok _ => false
  | .error (.logging _) => false
  | .error _ => true

namespace Session

open Logging

variable {s : Session} {st : Step}

/-- A session whose loggers have kept other layouts. -/
def withKept (s : Session) (kept : Entries String Layout) : Session :=
  { s with logging := s.logging.withKept kept }

theorem readSettings_withKept (s : Session) (kept : Entries String Layout) :
    (s.withKept kept).readSettings = (s.readSettings.1.withKept kept, s.readSettings.2) := by
  obtain ⟨graph, names, bindings, profile?, collector, environment, settings?, logging⟩ := s
  cases settings? with
  | some settings => rfl
  | none =>
    simp only [withKept, readSettings]
    split <;> rfl

theorem configureWith_withKept (s : Session) (kept : Entries String Layout) (level : Json)
    (writesJson : Bool) :
    (s.withKept kept).configureWith level writesJson =
      ((s.configureWith level writesJson).1.withKept kept,
        (s.configureWith level writesJson).2) := by
  have hanswer := s.logging.answer_withKept kept (.configure level writesJson)
  simp only [answer] at hanswer
  simp only [configureWith, withKept, hanswer]

theorem configureLogging_withKept (s : Session) (kept : Entries String Layout) (level : Json)
    (json? : Option Bool) :
    (s.withKept kept).configureLogging level json? =
      ((s.configureLogging level json?).1.withKept kept, (s.configureLogging level json?).2) := by
  unfold configureLogging
  split
  · exact configureWith_withKept s kept _ _
  · rw [readSettings_withKept]
    obtain ⟨s', outcome⟩ := s.readSettings
    cases outcome with
    | error f => rfl
    | ok settings => exact configureWith_withKept s' kept _ _

theorem useSettings_withKept (s : Session) (kept : Entries String Layout) :
    (s.withKept kept).useSettings = (s.useSettings.1.withKept kept, s.useSettings.2) := by
  unfold useSettings
  rw [readSettings_withKept]
  obtain ⟨s', outcome⟩ := s.readSettings
  cases outcome with
  | error f => rfl
  | ok settings =>
    have hconfigured : (s'.withKept kept).logging.isConfigured = s'.logging.isConfigured := rfl
    dsimp only
    rw [configureWith_withKept, hconfigured]
    cases s'.logging.isConfigured <;> rfl

theorem collect_withKept (s : Session) (kept : Entries String Layout) (t : Traced Fault Lowered) :
    (s.withKept kept).collect t = ((s.collect t).1.withKept kept, (s.collect t).2) := by
  unfold collect
  split <;> rfl

/-- Kept layouts have no part in what a step does and answers. -/
theorem perform_withKept (s : Session) (kept : Entries String Layout) (st : Step) :
    (s.withKept kept).perform st = ((s.perform st).1.withKept kept, (s.perform st).2) := by
  cases st with
  | useSettings =>
    simp only [perform, useSettings_withKept]
    rfl
  | configureLogging level json? =>
    simp only [perform, configureLogging_withKept]
    rfl
  | settings =>
    simp only [perform, readSettings_withKept]
    rfl
  | settingsAreKept =>
    simp only [perform, readSettings_withKept]
    rfl
  | collect b => exact collect_withKept s kept _
  | collectTypeOf key => exact collect_withKept s kept _
  | useProfile members =>
    simp only [perform]
    split <;> rfl
  | redefine name shape =>
    simp only [perform, redefine]
    split <;> rfl
  | setVariable name value =>
    have henvironment : (s.withKept kept).environment = s.environment := rfl
    simp only [perform, henvironment]
    cases s.environment.set name value <;> rfl
  | makeSettings fields =>
    have henvironment : (s.withKept kept).environment = s.environment := rfl
    simp only [perform, henvironment]
    cases Settings.make fields s.environment with
    | ok settings => rfl
    | error f => cases f <;> rfl
  | _ => rfl

/-- A step answers the same whatever layouts are kept, with the same records on as many lines. -/
theorem step_withKept (s : Session) (kept : Entries String Layout) (st : Step) :
    (∃ kept', ((s.withKept kept).step st).1 = (s.step st).1.withKept kept') ∧
      (s.step st).2.Matches ((s.withKept kept).step st).2 := by
  have hperform := s.perform_withKept kept st
  rcases st.eq_log_or_ne with ⟨r, rfl⟩ | hst
  · have hwrite : (s.withKept kept).logging.write r = s.logging.write r := rfl
    rw [step_log, step_log, hwrite]
    exact ⟨⟨kept, rfl⟩, .refl _⟩
  · constructor
    · obtain ⟨kept', hkept'⟩ := ((s.perform st).1.logging.withKept kept).exists_writeEvents_fst
        (s.perform st).2.events
      obtain ⟨kept'', hkept''⟩ :=
        (s.perform st).1.logging.exists_writeEvents_fst (s.perform st).2.events
      refine ⟨kept', ?_⟩
      rw [step_fst, step_fst, hperform, hkept'']
      show ({ (s.perform st).1 with
        logging := (((s.perform st).1.logging.withKept kept).writeEvents
          (s.perform st).2.events).1 } : Session) = _
      rw [hkept']
      rfl
    · refine ⟨?_, ?_, ?_⟩
      · rw [outcome_step hst, outcome_step hst, hperform]
      · rw [records_step hst, records_step hst, hperform]
      · rw [written_step hst, written_step hst, hperform, length_writeEvents, length_writeEvents]
        rfl

/-! ### Steps that fail -/

theorem of_map_eq_error {ε α β : Type} {o : Except ε α} {g : α → β} {e : ε}
    (h : o.map g = .error e) : o = .error e := by
  cases o with
  | ok a => cases h
  | error e' =>
    cases h
    rfl

theorem collect_of_error {t : Traced Fault Lowered} {f : Fault}
    (h : (s.collect t).2.outcome = .error f) : (s.collect t).1 = s := by
  unfold collect at h ⊢
  split at h
  · rfl
  · cases h

theorem readSettings_of_error {f : Fault} (h : s.readSettings.2 = .error f) :
    s.readSettings.1 = s := by
  rcases s.readSettings_cases with ⟨settings, -, -, hread⟩ | ⟨f', -, -, -, hread⟩
  · rw [hread] at h
    cases h
  · rw [hread]

theorem useSettings_of_error {f : Fault} (h : s.useSettings.2 = .error f) :
    s.useSettings.1 = s := by
  rcases s.useSettings_cases with ⟨settings, -, huse⟩ | ⟨f', -, -, -, -, huse⟩
  · rw [huse] at h
    cases h
  · rw [huse]

theorem answer_of_configureWith {level : Json} {writesJson : Bool} {f : Fault}
    (h : (s.configureWith level writesJson).2 = .error f) :
    ∃ fault, (s.logging.answer (.configure level writesJson)).2 = .error fault ∧
      f = .logging fault := by
  simp only [configureWith] at h
  simp only [answer]
  cases hanswer : (s.logging.configure level writesJson).2 with
  | ok _ =>
    rw [hanswer] at h
    cases h
  | error fault =>
    rw [hanswer] at h
    cases h
    exact ⟨fault, rfl, rfl⟩

/-- A configuration is rejected after it has read what it needs. -/
structure Rejected (s : Session) (st : Step) (r : Request) (f : LoggingFault) : Prop where
  configures : ∃ level json?, st = .configureLogging level json?
  request : s.request? st = some r
  answer : (s.logging.answer r).2 = .error f

/-- A step that fails leaves the session as it is, but for a configuration that is rejected. -/
theorem perform_of_error {f : Fault} (h : (s.perform st).2.outcome = .error f) :
    (s.perform st).1 = s ∨
      ∃ r fault, s.Rejected st r fault ∧ f = .logging fault ∧
        (s.perform st).1 = { s with
          settings? := s.settingsAfter st
          logging := (s.logging.answer r).1 } := by
  cases st with
  | useSettings => exact .inl (useSettings_of_error h)
  | configureLogging level json? =>
    have herror : (s.configureLogging level json?).2 = .error f := h
    show (s.configureLogging level json?).1 = s ∨ _
    rcases s.configureLogging_cases level json? with
      ⟨level', writesJson, -, hrequest, hconfigure⟩ | ⟨f', -, -, -, hconfigure⟩
    · rw [hconfigure] at herror
      obtain ⟨fault, hanswer, hf⟩ := answer_of_configureWith herror
      refine .inr ⟨_, fault, ⟨⟨level, json?, rfl⟩, hrequest, hanswer⟩, hf, ?_⟩
      show (s.configureLogging level json?).1 = _
      rw [hconfigure]
      rfl
    · rw [hconfigure]
      exact .inl rfl
  | settings => exact .inl (readSettings_of_error (of_map_eq_error h))
  | settingsAreKept => exact .inl (readSettings_of_error (of_map_eq_error h))
  | collect b => exact .inl (collect_of_error h)
  | collectTypeOf key => exact .inl (collect_of_error h)
  | useProfile members =>
    simp only [perform] at h ⊢
    split at h
    · cases h
    · exact .inl rfl
  | setVariable name value =>
    simp only [perform] at h ⊢
    split at h
    · cases h
    · exact .inl rfl
  | makeSettings fields =>
    simp only [perform] at h ⊢
    split <;> exact .inl rfl
  | redefine name shape => cases h
  | bind key b => cases h
  | unbind key => cases h
  | addNamespaces names => cases h
  | unsetVariable name => cases h
  | clearSettings => cases h
  | resetLogging => cases h
  | _ => exact .inl rfl

/-- **A step that fails leaves a session as it is**, apart from layouts that loggers keep, or it is a
configuration that is rejected. -/
theorem step_of_error {f : Fault} (h : (s.step st).2.outcome = .error f) :
    (∃ kept, (s.step st).1 = s.withKept kept) ∨
      ∃ r fault, s.Rejected st r fault ∧ f = .logging fault ∧
        (s.step st).1 = { s with
          settings? := s.settingsAfter st
          logging := (s.logging.answer r).1 } := by
  rcases st.eq_log_or_ne with ⟨r, rfl⟩ | hst
  · rw [step_log]
    exact .inl ⟨s.logging.kept, rfl⟩
  · rw [outcome_step hst] at h
    rw [step_fst]
    rcases perform_of_error h with hs | ⟨r, fault, hrejected, hf, hs⟩
    · obtain ⟨kept, hkept⟩ := s.logging.exists_writeEvents_fst (s.perform st).2.events
      rw [hs, hkept]
      exact .inl ⟨kept, rfl⟩
    · rw [hs, events_of_request hrejected.request]
      exact .inr ⟨r, fault, hrejected, hf, rfl⟩

/-! ### Runs without the steps that fail -/

theorem perform_of_isIdle (h : (s.step st).2.isIdle = true) : (s.perform st).1 = s := by
  rcases st.eq_log_or_ne with ⟨r, rfl⟩ | hst
  · rfl
  · rw [Report.isIdle, outcome_step hst] at h
    cases houtcome : (s.perform st).2.outcome with
    | ok a =>
      rw [houtcome] at h
      cases h
    | error f =>
      rcases perform_of_error houtcome with hs | ⟨r, fault, -, rfl, -⟩
      · exact hs
      · rw [houtcome] at h
        cases h

/-- An idle step does no more than to write its events. -/
theorem step_of_isIdle (h : (s.step st).2.isIdle = true) :
    (s.step st).1 = { s with logging := (s.logging.writeEvents (s.perform st).2.events).1 } := by
  rw [step_fst, perform_of_isIdle h]

/-- The steps of a run without those that are idle in it. -/
def withoutIdle (s : Session) : List Step → List Step
  | [] => []
  | st :: rest =>
    if (s.step st).2.isIdle then (s.step st).1.withoutIdle rest
    else st :: (s.step st).1.withoutIdle rest

/-- **Steps that fail can be left out**: the others answer the same, and the session that is left differs
in kept layouts alone. -/
theorem run_withoutIdle (s : Session) (kept : Entries String Layout) (steps : List Step) :
    (∃ kept', ((s.withKept kept).run (s.withoutIdle steps)).1 = (s.run steps).1.withKept kept') ∧
      List.Forall₂ Report.Matches ((s.run steps).2.filter fun r => !r.isIdle)
        ((s.withKept kept).run (s.withoutIdle steps)).2 := by
  induction steps generalizing s kept with
  | nil => exact ⟨⟨kept, rfl⟩, .nil⟩
  | cons st rest ih =>
    rw [withoutIdle, run_cons, reports_cons]
    cases hidle : (s.step st).2.isIdle with
    | true =>
      -- The step is left out, and what loggers have kept on its way is forgotten again.
      have hstep := step_of_isIdle hidle
      obtain ⟨kept', hkept'⟩ := s.logging.exists_writeEvents_fst (s.perform st).2.events
      have hrest := ih (s.step st).1 kept
      rw [if_pos rfl, List.filter_cons_of_neg (by rw [hidle]; decide)]
      rw [hstep, hkept'] at hrest ⊢
      exact hrest
    | false =>
      obtain ⟨⟨kept', hkept'⟩, hmatches⟩ := s.step_withKept kept st
      obtain ⟨hsession, hrest⟩ := ih (s.step st).1 kept'
      rw [if_neg (by decide), List.filter_cons_of_pos (by rw [hidle]; decide), run_cons, hkept']
      refine ⟨hsession, .cons hmatches ?_⟩
      show List.Forall₂ _ _ (((s.withKept kept).step st).1.run _).2
      rw [hkept']
      exact hrest

/-- Whether the idle steps of a run let no logger keep a layout: their events come while nothing is
configured, or from loggers that have kept one. -/
def IdlesQuietly (s : Session) : List Step → Prop
  | [] => True
  | st :: rest =>
    ((s.step st).2.isIdle = true → ∀ e ∈ (s.perform st).2.events,
      s.logging.layout = .bare ∨ (s.logging.kept.find? e.logger).isSome = true) ∧
      (s.step st).1.IdlesQuietly rest

/-- Where the idle steps keep no layouts, leaving them out changes nothing else. -/
theorem run_withoutIdle_of_quiet {steps : List Step} (h : s.IdlesQuietly steps) :
    s.run (s.withoutIdle steps) =
      ((s.run steps).1, (s.run steps).2.filter fun r => !r.isIdle) := by
  induction steps generalizing s with
  | nil => rfl
  | cons st rest ih =>
    obtain ⟨hquiet, hrest⟩ := h
    rw [withoutIdle, run_cons, reports_cons]
    cases hidle : (s.step st).2.isIdle with
    | true =>
      have hstep : (s.step st).1 = s := by
        rw [step_of_isIdle hidle, writeEvents_of_quiet (hquiet hidle)]
      rw [if_pos rfl, List.filter_cons_of_neg (by rw [hidle]; decide)]
      rw [hstep] at hrest ⊢
      exact ih hrest
    | false =>
      rw [if_neg (by decide), List.filter_cons_of_pos (by rw [hidle]; decide), run, ih hrest]

/-! ### All of it -/

/-- **A step that fails changes nothing**, but for layouts that loggers keep and for a configuration that
is rejected: that one may have read the settings and has chosen the layout, and what it names instead of
a level fixes the threshold at what it is. Such steps apart, those that fail can be left out of a run. The
others answer the same, with the same records on as many lines, and the session that is left differs in
kept layouts alone. Nothing differs if the steps that are left out let no logger keep a layout. -/
theorem failing_changes_nothing (s : Session) :
    (∀ st f, (s.step st).2.outcome = .error f →
      let s' := (s.step st).1
      (s'.logging.isConfigured = s.logging.isConfigured ∧
        s'.logging.threshold = s.logging.threshold) ∧
      ((∃ kept, s' = s.withKept kept) ∨
        ∃ r fault, s.Rejected st r fault ∧ f = .logging fault ∧
          s' = { s with
            settings? := s.settingsAfter st
            logging := { s.logging with
              layout := r.layout
              threshold? := s.logging.threshold?.or r.fixed? } })) ∧
    (∀ steps,
      (∃ kept, (s.run (s.withoutIdle steps)).1 = (s.run steps).1.withKept kept) ∧
        List.Forall₂ Report.Matches ((s.run steps).2.filter fun r => !r.isIdle)
          (s.run (s.withoutIdle steps)).2) ∧
    ∀ steps, s.IdlesQuietly steps →
      s.run (s.withoutIdle steps) =
        ((s.run steps).1, (s.run steps).2.filter fun r => !r.isIdle) := by
  refine ⟨fun st f hf => ?_, s.run_withoutIdle s.logging.kept, fun steps => run_withoutIdle_of_quiet⟩
  rcases step_of_error hf with ⟨kept, hkept⟩ | ⟨r, fault, hrejected, hfault, hstep⟩
  · rw [hkept]
    exact ⟨⟨rfl, rfl⟩, .inl ⟨kept, rfl⟩⟩
  · obtain ⟨hanswer, hthreshold⟩ := answer_of_error hrejected.answer
    rw [hstep]
    refine ⟨⟨?_, hthreshold⟩, .inr ⟨r, fault, hrejected, hfault, ?_⟩⟩
    · rw [hanswer]
    · rw [hanswer]

/-- A list of itself, and a tuple of it and of a value outside the closed set. -/
def oddTuple : List (String × Shape Blueprint) :=
  [("a", .list (.declared "a")), ("bad", .tuple [.declared "a", .fresh (.custom "Odd")])]

theorem failing_changes_nothing_oddTuple :
    let s := start oddTuple [] (some {}) false
    let bad : Step := .lower (.declared "bad")
    let rejected : Step := .configureLogging (.integer 3) (some true)
    let rest : List Step := [rejected, .lower (.declared "a")]
    s.run rest = ((s.run (bad :: rest)).1, (s.run (bad :: rest)).2.tail) ∧
    (s.step rejected).1.logging.isConfigured = false ∧
    (s.step rejected).1.logging.threshold = .atLeast .warning := by
  intro s bad rejected rest
  obtain ⟨hfailing, -, hquietly⟩ := failing_changes_nothing s
  have hbad : (s.step bad).2.isIdle = true := by decide +kernel
  have hrejected : ((s.step bad).1.step rejected).2.isIdle = false := by decide +kernel
  have hgood : (((s.step bad).1.step rejected).1.step (.lower (.declared "a"))).2.isIdle = false := by
    decide +kernel
  have hquiet : s.IdlesQuietly (bad :: rest) :=
    ⟨fun _ e he => .inl rfl, fun h => absurd h (by rw [hrejected]; decide),
      fun h => absurd h (by rw [hgood]; decide), trivial⟩
  have hwithout : s.withoutIdle (bad :: rest) = rest := by
    rw [withoutIdle, if_pos hbad, withoutIdle, hrejected, withoutIdle, hgood]
    rfl
  have hrun := hquietly (bad :: rest) hquiet
  have hreports : ((s.run (bad :: rest)).2.filter fun r => !r.isIdle) =
      (s.run (bad :: rest)).2.tail := by
    show List.filter _ [_, _, _] = [_, _]
    rw [List.filter_cons_of_neg (by rw [hbad]; decide),
      List.filter_cons_of_pos (by rw [hrejected]; decide),
      List.filter_cons_of_pos (by rw [hgood]; decide), List.filter_nil]
  rw [hwithout, hreports] at hrun
  exact ⟨hrun, (hfailing rejected _ rfl).1⟩

/-- A logger goes on to write objects after a configuration for text because of a step that failed
before it. -/
theorem layout_outlives_failure :
    let s := start oddTuple [] (some {}) false
    let json : Step := .configureLogging (.text "debug") (some true)
    let text : Step := .configureLogging (.text "debug") (some false)
    let bad : Step := .lower (.declared "bad")
    let good : Step := .lower (.declared "a")
    ((s.run [json]).1.step bad).2.isIdle = true ∧
    (((s.run [json, bad, text]).1.step good).2.written.map Written.isJson = [true]) ∧
    (((s.run [json, text]).1.step good).2.written.map Written.isJson = [false]) := by
  intro s json text bad good
  refine ⟨?_, ?_, ?_⟩
  · decide +kernel
  · decide +kernel
  · decide +kernel

end Session

end TypeLowering
