import TypeLowering.Proofs.History
import TypeLowering.Proofs.Lines

/-!
# How records are written

Which records of a session are written, and how, told by its history. A record of a new logger is
written in the layout of the last request. The loggers of events keep theirs, so what they write may
be in another layout (`Follows.forall₂_writeEvents`).
-/

namespace TypeLowering

namespace Logging

variable {l : Logging} {h : History}

/-- The layout in which a logger of events writes. -/
def layoutOf (l : Logging) (logger : String) : Layout :=
  (l.kept.find? logger).getD l.layout

theorem layoutOf_use (l : Logging) (name logger : String) :
    (l.use name).layoutOf logger = l.layoutOf logger := by
  obtain ⟨kept, huse⟩ := l.exists_use_eq name
  have hlayout : (l.use name).layout = l.layout := by rw [huse]
  rw [layoutOf, layoutOf, find?_kept_use, hlayout]
  cases l.kept.find? logger with
  | some layout => rfl
  | none =>
    rw [Option.none_or]
    split <;> rfl

theorem written_use (l : Logging) (name : String) : (l.use name).written = l.written := by
  obtain ⟨kept, huse⟩ := l.exists_use_eq name
  rw [huse]
  rfl

/-- What is written for events: each is written in the layout of its logger. -/
theorem writeEvents_snd (l : Logging) (es : List Event) :
    (l.writeEvents es).2 =
      es.flatMap fun e => (l.written (l.layoutOf e.logger) e.record).toOption.getD [] := by
  induction es generalizing l with
  | nil => rfl
  | cons e rest ih =>
    have hfirst : (l.writeEvent e).2 =
        (l.written (l.layoutOf e.logger) e.record).toOption.getD [] := by
      show ((l.use e.logger).written ((l.use e.logger).layoutOf e.logger) e.record).toOption.getD [] =
        _
      rw [layoutOf_use, written_use]
    show (l.writeEvent e).2 ++ ((l.use e.logger).writeEvents rest).2 = _
    rw [hfirst, ih, List.flatMap_cons]
    simp only [layoutOf_use, written_use]

/-- Logging that follows a history writes by it. -/
theorem Follows.layoutOf (hl : l.Follows h) (logger : String) :
    l.layoutOf logger = (h.kept? logger).getD h.layout := by
  rw [Logging.layoutOf, hl.kept, hl.layout]

theorem Follows.threshold (hl : l.Follows h) :
    l.threshold = h.threshold?.getD (.atLeast .warning) := by
  rw [Logging.threshold, hl.threshold?]

theorem Follows.written (hl : l.Follows h) (layout : Layout) (r : Record) :
    l.written layout r =
      if l.threshold.admits r.level then (r.written layout).map ([·]) else .ok [] := by
  rw [Logging.written, hl.captures]
  rfl

/-- An event is written as one line, in the layout that its logger has kept or else in that of the last
request, or not at all. -/
theorem Follows.forall₂_writeEvents (hl : l.Follows h) {es : List Event} (hes : ∀ e ∈ es, e.HasKey) :
    List.Forall₂ (fun r w => w.IsLineOf r ((h.kept? r.logger).getD h.layout))
      (if l.threshold.admits .debug then es.map Event.record else []) (l.writeEvents es).2 := by
  rw [writeEvents_snd]
  simp only [hl.written, hl.layoutOf]
  induction es with
  | nil =>
    rw [List.map_nil, ite_self]
    exact .nil
  | cons e rest ih =>
    have hrest := ih fun e' he' => hes e' (List.mem_cons_of_mem _ he')
    have hw :=
      Event.isLineOf_record (hes e List.mem_cons_self) ((h.kept? e.logger).getD h.layout)
    have hlevel : e.record.level = .debug := rfl
    rw [List.flatMap_cons, hlevel, hw.written]
    cases hadmits : l.threshold.admits .debug with
    | true =>
      rw [hadmits] at hrest
      exact .cons hw hrest
    | false =>
      rw [hadmits] at hrest
      exact hrest

end Logging

namespace Session

open Logging

variable {s : Session} {st : Step} {h : History}

/-- The events of a step are written with the loggers as they were before it. -/
theorem written_step (hst : ∀ r, st ≠ .log r) :
    (s.step st).2.written = (s.logging.writeEvents (s.perform st).2.events).2 := by
  have hwritten : (s.step st).2.written =
      ((s.perform st).1.logging.writeEvents (s.perform st).2.events).2 := by
    cases st with
    | log r => exact absurd rfl (hst r)
    | _ => rfl
  rw [hwritten, (s.perform_effects st).2.2.2]
  cases hr : s.request? st with
  | none => rfl
  | some r =>
    rw [events_of_request hr]
    rfl

theorem written_of_follows (hs : s.logging.Follows h) (hst : ∀ r, st ≠ .log r) :
    List.Forall₂ (fun r w => w.IsLineOf r ((h.kept? r.logger).getD h.layout))
      (if s.logging.threshold.admits .debug then (s.step st).2.records else [])
      (s.step st).2.written := by
  rw [written_step hst, records_step hst]
  exact hs.forall₂_writeEvents (s.hasKeys_perform st)

/-- A record of a new logger is written in the layout of the last request. -/
theorem written_log_of_follows (hs : s.logging.Follows h) (r : Record) :
    (s.step (.log r)).2.written =
      if s.logging.threshold.admits r.level then (r.written h.layout).toOption.toList else [] := by
  have hwrite : s.logging.write r =
      if s.logging.threshold.admits r.level then (r.written h.layout).map ([·]) else .ok [] := by
    rw [write, hs.written, hs.layout]
  have hstep : (s.step (.log r)).2.written = (s.logging.write r).toOption.getD [] := by
    rw [step_log]
    cases s.logging.write r <;> rfl
  rw [hstep, hwrite]
  cases s.logging.threshold.admits r.level with
  | false => rfl
  | true => cases r.written h.layout <;> rfl

theorem isJson_of_log (hs : s.logging.Follows h) {r : Record} {w : Written}
    (hw : w ∈ (s.step (.log r)).2.written) : w.isJson = true ↔ h.layout = .json := by
  rw [written_log_of_follows hs] at hw
  split at hw
  · cases hwritten : r.written h.layout with
    | ok w' =>
      rw [hwritten] at hw
      rw [List.mem_singleton.mp hw]
      exact Record.isJson_of_written hwritten
    | error f =>
      rw [hwritten] at hw
      cases hw
  · cases hw

theorem forall₂_log_of_follows (hs : s.logging.Follows h) {r : Record} (hplain : r.IsPlain)
    (hline : h.layout = .json ∨ r.FitsLine) :
    List.Forall₂ (fun r w => w.IsLineOf r h.layout)
      (if s.logging.threshold.admits r.level then [r] else []) (s.step (.log r)).2.written := by
  have hw := hplain.isLineOf hline
  rw [written_log_of_follows hs, hw.written]
  cases s.logging.threshold.admits r.level with
  | false => exact .nil
  | true => exact .cons hw .nil

theorem request?_configureLogging (s : Session) (level : String) (writesJson : Bool) :
    s.request? (.configureLogging (.text level) (some writesJson)) =
      some (.configure (.text level) writesJson) := rfl

/-- Taking the settings into use configures logging by them, unless it is configured. -/
theorem logging_useSettings {settings : Settings} (hr : s.remembered? = some settings) :
    (s.step .useSettings).1.logging =
      if s.logging.isConfigured then s.logging
      else
        (s.step (.configureLogging (.text settings.logLevel.name)
          (some settings.jsonLogs))).1.logging := by
  have hrequest := request?_useSettings hr
  split
  · next hconfigured =>
    rw [if_pos hconfigured] at hrequest
    rw [step_fst, (s.perform_effects .useSettings).2.2.2, hrequest]
    rfl
  · next hconfigured =>
    rw [if_neg hconfigured] at hrequest
    rw [logging_step_of_request hrequest,
      logging_step_of_request (s.request?_configureLogging _ _)]

/-! ### From the start -/

/-- **Logging goes by its history.** After any steps, the threshold is that of the first request whose
level stands for anything. So it is at warnings until a configuration succeeds, and then it is the level
of that configuration, unless what is no level was named before; it never changes again. What is admitted
is written as one line, but for texts that hold line breaks themselves: in the layout of the last request
for a new logger, and for the logger of an event in the one that it has kept, if any. That a layout is of
JSON objects means that the last request was a configuration with them. Logging is configured if a
configuration has succeeded since the last reset, and taking the settings into use without that is a
configuration by them. -/
theorem logging_goes_by_history (nodes : List (String × Shape Blueprint))
    (types : List (SyntaxKey × Blueprint)) (profile? : Option Profile) (steps : List Step) :
    let s₀ := start nodes types profile? false
    let s := (s₀.run steps).1
    let h := s₀.history steps
    let t := s.logging.threshold
    (t = h.threshold?.getD (.atLeast .warning) ∧
      (h.completed = [] → t = .atLeast .warning) ∧
      (∀ first, h.completed.head? = some first → (∀ r ∈ h.requests, r.NamesLevel) →
        first.named? = some (.threshold t)) ∧
      (h.completed ≠ [] → ∀ later, (s.run later).1.logging.threshold = t)) ∧
    (∀ r : Record,
      (s.step (.log r)).2.written =
        (if t.admits r.level then (r.written h.layout).toOption.toList else []) ∧
      (∀ w ∈ (s.step (.log r)).2.written, w.isJson = true ↔ h.layout = .json) ∧
      (r.IsPlain → h.layout = .json ∨ r.FitsLine →
        List.Forall₂ (fun r w => w.IsLineOf r h.layout) (if t.admits r.level then [r] else [])
          (s.step (.log r)).2.written)) ∧
    (∀ st, (∀ r, st ≠ .log r) →
      List.Forall₂ (fun r w => w.IsLineOf r ((h.kept? r.logger).getD h.layout))
        (if t.admits .debug then (s.step st).2.records else []) (s.step st).2.written) ∧
    (h.layout = .json ↔ ∃ level, h.requests.getLast? = some (.configure level true)) ∧
    (s.step .isLoggingConfigured).2.outcome = .ok (.flag h.isConfigured) ∧
    ∀ settings, s.remembered? = some settings →
      (s.step .useSettings).1.logging =
        if h.isConfigured then s.logging
        else
          (s.step (.configureLogging (.text settings.logLevel.name)
            (some settings.jsonLogs))).1.logging := by
  intro s₀ s h t
  have hs : s.logging.Follows h := follows_run (s := s₀) follows_nil steps
  refine ⟨⟨hs.threshold, ?_, ?_, ?_⟩,
    fun r =>
      ⟨written_log_of_follows hs r, fun w => isJson_of_log hs, forall₂_log_of_follows hs⟩,
    fun st => written_of_follows hs, h.layout_eq_json_iff, ?_, ?_⟩
  · intro hnil
    exact hs.threshold.trans (hs.agrees.threshold?_getD hnil)
  · intro first hfirst hlevels
    rw [hs.agrees.named?_eq hfirst hlevels, ← hs.threshold]
  · intro hne later
    obtain ⟨fixed, hfixed⟩ := Option.isSome_iff_exists.mp (hs.agrees.isSome_threshold? hne)
    refine Eq.trans ?_ hs.threshold.symm
    rw [(follows_run hs later).threshold, History.threshold?_append, hfixed]
    rfl
  · rw [← hs.isConfigured]
    rfl
  · intro settings hr
    rw [← hs.isConfigured]
    exact logging_useSettings hr

/-- A list of itself. -/
def selfList : List (String × Shape Blueprint) :=
  [("a", .list (.declared "a"))]

/-- A configuration for objects, an event, and a configuration for text. -/
def reconfiguring : List Step :=
  [.configureLogging (.text "debug") (some true), .lower (.declared "a"),
    .configureLogging (.text "error") (some false)]

/-- A record of a new logger. -/
def plainRecord : Record :=
  ⟨"app", .info, "started", [("port", .integer 80)]⟩

theorem fitsLine_plainRecord : plainRecord.FitsLine where
  event := by decide
  logger := by decide
  keys := by decide
  values := by decide +kernel
  stack := rfl
  exception := rfl

theorem logging_goes_by_history_reconfiguring :
    let s := ((start selfList [] (some {}) false).run reconfiguring).1
    s.logging.threshold = .atLeast .debug ∧
    (∀ later, (s.run later).1.logging.threshold = .atLeast .debug) ∧
    (∃ w, (s.step (.log plainRecord)).2.written = [w] ∧ w.IsLineOf plainRecord .text) ∧
    (∃ w, (s.step (.lower (.declared "a"))).2.written = [w] ∧
      w.IsLineOf (Event.cycleCut (some .list) 1).record .json) ∧
    (s.step .isLoggingConfigured).2.outcome = .ok (.flag true) := by
  intro s
  obtain ⟨⟨-, -, hfirst, hstays⟩, hlog, hevents, -, hconfigured, -⟩ :=
    logging_goes_by_history selfList [] (some {}) reconfiguring
  have hdebug : (Request.configure (.text "debug") true).named? =
      some (.threshold (.atLeast .debug)) := by
    decide +kernel
  have herror : (Request.configure (.text "error") false).named? =
      some (.threshold (.atLeast .error)) := by
    decide +kernel
  have hlevels : ∀ r ∈ [Request.configure (.text "debug") true, .configure (.text "error") false],
      r.NamesLevel := by
    intro r hr name hname
    rcases List.mem_cons.mp hr with rfl | hr
    · exact ⟨_, Option.some.inj (hname.symm.trans hdebug)⟩
    · rw [List.mem_singleton.mp hr] at hname
      exact ⟨_, Option.some.inj (hname.symm.trans herror)⟩
  have hthreshold : s.logging.threshold = .atLeast .debug := by
    have hnamed := hfirst (.configure (.text "debug") true) rfl hlevels
    rw [hdebug] at hnamed
    exact (LoggingName.threshold.inj (Option.some.inj hnamed)).symm
  refine ⟨hthreshold, fun later => (hstays (by decide +kernel) later).trans hthreshold, ?_, ?_,
    hconfigured⟩
  · have hwritten := (hlog plainRecord).2.2 ⟨rfl, rfl⟩ (.inr fitsLine_plainRecord)
    rw [hthreshold, if_pos (by decide)] at hwritten
    obtain ⟨w, rest, hw, hrest, hcons⟩ := List.forall₂_cons_left_iff.mp hwritten
    rw [List.forall₂_nil_left_iff.mp hrest] at hcons
    exact ⟨w, hcons, hw⟩
  · have hwritten := hevents (.lower (.declared "a")) (by intro r hr; cases hr)
    have hcut : (s.perform (.lower (.declared "a"))).2.events = [.cycleCut (some .list) 1] := by
      decide +kernel
    have hrecords : (s.step (.lower (.declared "a"))).2.records =
        [(Event.cycleCut (some .list) 1).record] := by
      rw [records_step (by intro r hr; cases hr), hcut]
      rfl
    have hkept : ((start selfList [] (some {}) false).history reconfiguring).kept?
        (Event.cycleCut (some .list) 1).record.logger = some .json := by
      decide +kernel
    rw [hthreshold, if_pos (by decide), hrecords] at hwritten
    obtain ⟨w, rest, hw, hrest, hcons⟩ := List.forall₂_cons_left_iff.mp hwritten
    rw [List.forall₂_nil_left_iff.mp hrest] at hcons
    rw [hkept] at hw
    exact ⟨w, hcons, hw⟩

/-- The logger of an event goes on to write objects after a configuration for text, unlike a new
logger. -/
theorem layout_outlives_configuration :
    let s₀ := start selfList [] (some {}) false
    let s := (s₀.run reconfiguring).1
    (s₀.history reconfiguring).requests.getLast? = some (.configure (.text "error") false) ∧
    (s.step (.lower (.declared "a"))).2.written.map Written.isJson = [true] :=
  ⟨rfl, by decide +kernel⟩

/-- What is named instead of a level fixes the threshold for good. -/
example :
    ((start [] [] none false).run
      [.configureLogging (.text "basic_format") (some false),
        .configureLogging (.text "debug") (some false)]).1.logging.threshold = .atLeast .warning := by
  decide +kernel

end Session

end TypeLowering
