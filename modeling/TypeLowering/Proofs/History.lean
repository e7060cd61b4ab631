import TypeLowering.Proofs.Effects

/-!
# What logging remembers

Logging sees requests, each of which succeeds or fails, and events. Its `History` is the list of them,
and `Logging.Follows` says what its state tells about the history: the layout is that of the last
request, the threshold that of the first request whose level stands for anything, logging is
configured if the last of the resets and the successful configurations is a configuration, and a logger
keeps the layout in which it was first used after a configuration.

* `Follows.answer`, `Follows.use`: one request or event.
* `Session.follows_run`: the history of a session, which records how its steps ended.
-/

namespace TypeLowering

namespace Logging

/-! ### Requests -/

namespace Request

/-- The layout that a request chooses. -/
def layout : Request → Layout
  | .configure _ true => .json
  | .configure _ false => .text
  | .reset => .bare

/-- What the name of the level stands for. -/
def named? : Request → Option LoggingName
  | .configure (.text s) _ => LoggingName.ofText? (Text.upper s)
  | _ => none

/-- The threshold that a request fixes if none is: the one that is named, or warnings if something else
is. -/
def fixed? (r : Request) : Option Threshold :=
  r.named?.map fun
    | .threshold t => t
    | _ => .atLeast .warning

/-- Whether the name of the level stands for a threshold, if it stands for anything. -/
def NamesLevel (r : Request) : Prop :=
  ∀ name, r.named? = some name → ∃ t, name = .threshold t

end Request

variable {l : Logging} {r : Request}

/-- A request succeeds or not, and what it leaves: the layout is chosen in any case, and so is the
threshold if the level stands for anything. -/
theorem answer_fst (l : Logging) (r : Request) :
    (l.answer r).1 = { l with
      layout := r.layout
      threshold? := l.threshold?.or r.fixed?
      isConfigured :=
        match r with
        | .configure _ _ => (l.answer r).2.isOk || l.isConfigured
        | .reset => false } := by
  obtain ⟨threshold?, layout, isConfigured, kept, captures⟩ := l
  cases r with
  | reset => simp [answer, reset, Request.layout, Request.fixed?, Request.named?]
  | configure level writesJson =>
    have hlayout : (if writesJson then Layout.json else .text) =
        (Request.configure level writesJson).layout := by
      cases writesJson <;> rfl
    simp only [answer, configure, hlayout]
    cases level with
    | text s =>
      simp only [Request.fixed?, Request.named?]
      cases LoggingName.ofText? (Text.upper s) with
      | none => simp [Except.isOk, Except.toBool]
      | some name =>
        cases threshold? <;> cases name <;>
          simp [fixThreshold, threshold, Except.isOk, Except.toBool]
    | _ => simp [Request.fixed?, Request.named?, Except.isOk, Except.toBool]

/-- A configuration succeeds if the level stands for a threshold, or for anything once a threshold is
fixed. -/
theorem isOk_answer_configure (l : Logging) (level : Json) (writesJson : Bool) :
    (l.answer (.configure level writesJson)).2.isOk = true ↔
      ∃ name, (Request.configure level writesJson).named? = some name ∧
        (l.threshold?.isSome = true ∨ ∃ t, name = .threshold t) := by
  cases level with
  | text s =>
    simp only [answer, configure, Request.named?]
    cases LoggingName.ofText? (Text.upper s) with
    | none => simp [Except.isOk, Except.toBool]
    | some name =>
      cases l.threshold? <;> cases name <;>
        simp [fixThreshold, Except.isOk, Except.toBool]
  | _ => simp [answer, configure, Request.named?, Except.isOk, Except.toBool]

/-- A configuration that fails fixes no threshold but that of warnings. -/
theorem fixed?_of_not_isOk {level : Json} {writesJson : Bool}
    (h : (l.answer (.configure level writesJson)).2.isOk = false) :
    (Request.configure level writesJson).named? = none ∨
      ¬ (Request.configure level writesJson).NamesLevel ∧
        (Request.configure level writesJson).fixed? = some (.atLeast .warning) := by
  cases hnamed : (Request.configure level writesJson).named? with
  | none => exact .inl rfl
  | some name =>
    have hother : ¬ ∃ t, name = .threshold t := by
      intro ht
      cases h.symm.trans ((l.isOk_answer_configure _ _).mpr ⟨name, hnamed, .inr ht⟩)
    refine .inr ⟨fun hlevel => hother (hlevel name hnamed), ?_⟩
    rw [Request.fixed?, hnamed]
    cases name with
    | threshold t => exact absurd ⟨t, rfl⟩ hother
    | _ => rfl

/-- The first use of a logger after a configuration is the one that counts. -/
theorem find?_kept_use (l : Logging) (name logger : String) :
    (l.use name).kept.find? logger =
      (l.kept.find? logger).or
        (if name = logger ∧ l.layout ≠ .bare then some l.layout else none) := by
  unfold use
  cases hkept : l.kept.find? name with
  | some layout =>
    by_cases hname : name = logger
    · subst hname
      rw [hkept, Option.some_or]
    · rw [if_neg fun h => hname h.1, Option.or_none]
  | none =>
    cases hlayout : l.layout with
    | bare => rw [if_neg fun h => h.2 rfl, Option.or_none]
    | _ =>
      simp only [Entries.find?_put]
      by_cases hname : name = logger
      · subst hname
        simp [hkept]
      · simp [hname]

/-! ### Histories -/

/-- What logging sees. -/
inductive Happening where
  | request (r : Request) (succeeds : Bool)
  | event (logger : String)

namespace Happening

/-- The request that is made, whether or not it succeeds. -/
def request? : Happening → Option Request
  | .request r _ => some r
  | .event _ => none

/-- The configuration that succeeds. -/
def completed? : Happening → Option Request
  | .request (.configure level writesJson) true => some (.configure level writesJson)
  | _ => none

/-- Whether logging is configured after what decides that: a reset or a configuration that succeeds. -/
def decides? : Happening → Option Bool
  | .request .reset _ => some false
  | .request (.configure _ _) true => some true
  | _ => none

end Happening

/-- What logging has seen, in order. -/
abbrev History : Type := List Happening

namespace History

/-- The requests that were made, whether or not they succeeded. -/
def requests (h : History) : List Request :=
  h.filterMap Happening.request?

/-- The configurations that succeeded. -/
def completed (h : History) : List Request :=
  h.filterMap Happening.completed?

/-- The layout of the last request, or the given one before there is any. -/
def layoutFrom (layout : Layout) (h : History) : Layout :=
  (h.requests.getLast?.map Request.layout).getD layout

/-- The layout of the last request. Before there is any, lines are bare. -/
def layout (h : History) : Layout :=
  h.layoutFrom .bare

/-- The threshold of the first request that fixes one. -/
def threshold? (h : History) : Option Threshold :=
  h.requests.findSome? Request.fixed?

/-- Whether the last of the resets and the successful configurations is a configuration. -/
def isConfigured (h : History) : Bool :=
  (h.filterMap Happening.decides?).getLast?.getD false

/-- The layout in which a logger was first used while there was one, starting from the given one. -/
def keptFrom? (logger : String) : Layout → History → Option Layout
  | _, [] => none
  | _, .request r _ :: rest => keptFrom? logger r.layout rest
  | layout, .event name :: rest =>
    if name = logger ∧ layout ≠ .bare then some layout else keptFrom? logger layout rest

/-- The layout in which a logger was first used after a configuration. -/
def kept? (h : History) (logger : String) : Option Layout :=
  keptFrom? logger .bare h

variable {h : History} {r : Request} {succeeds : Bool} {name logger : String}

/-- What the configurations that succeeded tell about the threshold: before the first of them it is
not fixed, or fixed at warnings by what is no level, and from then on it is fixed. -/
def Agrees (h : History) : Prop :=
  match h.completed.head? with
  | none =>
    h.threshold? = none ∨
      h.threshold? = some (.atLeast .warning) ∧ ∃ r ∈ h.requests, ¬ r.NamesLevel
  | some first =>
    h.threshold?.isSome = true ∧
      ((∀ r ∈ h.requests, r.NamesLevel) → first.fixed? = h.threshold?)

theorem requests_append (h h' : History) : requests (h ++ h') = h.requests ++ requests h' :=
  List.filterMap_append

theorem layout_concat_request : layout (h ++ [.request r succeeds]) = r.layout := by
  rw [layout, layoutFrom, requests_append, List.getLast?_append]
  rfl

theorem layout_concat_event : layout (h ++ [.event name]) = h.layout := by
  rw [layout, layoutFrom, requests_append, List.getLast?_append]
  rfl

theorem layout_eq_json_iff (h : History) :
    h.layout = .json ↔ ∃ level, h.requests.getLast? = some (.configure level true) := by
  rw [layout, layoutFrom]
  cases h.requests.getLast? with
  | none => simp
  | some r =>
    cases r with
    | reset => simp [Request.layout]
    | configure level writesJson => cases writesJson <;> simp [Request.layout]

theorem threshold?_append (h h' : History) :
    threshold? (h ++ h') = h.threshold?.or (threshold? h') := by
  rw [threshold?, requests_append, List.findSome?_append]
  rfl

theorem threshold?_concat_request :
    threshold? (h ++ [.request r succeeds]) = h.threshold?.or r.fixed? := by
  rw [threshold?_append]
  cases hr : r.fixed? <;> simp [requests, Happening.request?, threshold?, hr]

theorem threshold?_concat_event : threshold? (h ++ [.event name]) = h.threshold? := by
  rw [threshold?_append]
  exact Option.or_none

theorem isConfigured_concat (h : History) (a : Happening) :
    isConfigured (h ++ [a]) = a.decides?.getD h.isConfigured := by
  rw [isConfigured, List.filterMap_append, List.getLast?_append]
  cases ha : a.decides? <;> simp [isConfigured, ha]

theorem layoutFrom_cons_request (layout : Layout) :
    layoutFrom layout (.request r succeeds :: h) = layoutFrom r.layout h := by
  have hcons : requests (.request r succeeds :: h) = r :: h.requests := rfl
  rw [layoutFrom, hcons, List.getLast?_cons, layoutFrom]
  cases h.requests.getLast? <;> rfl

theorem keptFrom?_concat_request (layout : Layout) :
    keptFrom? logger layout (h ++ [.request r succeeds]) = keptFrom? logger layout h := by
  induction h generalizing layout with
  | nil => rfl
  | cons a rest ih =>
    cases a with
    | request r' succeeds' => exact ih r'.layout
    | event name' =>
      rw [List.cons_append, keptFrom?, keptFrom?, ih]

theorem keptFrom?_concat_event (layout : Layout) :
    keptFrom? logger layout (h ++ [.event name]) =
      (keptFrom? logger layout h).or
        (if name = logger ∧ h.layoutFrom layout ≠ .bare then some (h.layoutFrom layout)
          else none) := by
  induction h generalizing layout with
  | nil => rfl
  | cons a rest ih =>
    cases a with
    | request r' succeeds' =>
      rw [List.cons_append, keptFrom?, keptFrom?, ih, layoutFrom_cons_request]
    | event name' =>
      rw [List.cons_append, keptFrom?, keptFrom?, ih]
      split
      · rfl
      · rfl

theorem completed_concat (h : History) (a : Happening) :
    completed (h ++ [a]) = h.completed ++ a.completed?.toList := by
  rw [completed, List.filterMap_append]
  cases ha : a.completed? <;> simp [completed, ha]

theorem mem_requests_of_mem_completed (hr : r ∈ h.completed) : r ∈ h.requests := by
  obtain ⟨a, ha, hcompleted⟩ := List.mem_filterMap.mp hr
  refine List.mem_filterMap.mpr ⟨a, ha, ?_⟩
  cases a with
  | event name => cases hcompleted
  | request r' succeeds =>
    cases r' <;> cases succeeds <;> cases hcompleted
    rfl

theorem Agrees.isSome_threshold? (hh : h.Agrees) (hne : h.completed ≠ []) :
    h.threshold?.isSome = true := by
  obtain ⟨first, rest, hcompleted⟩ := List.exists_cons_of_ne_nil hne
  rw [Agrees, hcompleted] at hh
  exact hh.1

theorem Agrees.threshold?_getD (hh : h.Agrees) (hnil : h.completed = []) :
    h.threshold?.getD (.atLeast .warning) = .atLeast .warning := by
  rw [Agrees, hnil] at hh
  rcases hh with hh | ⟨hh, -⟩
  · rw [hh]
    rfl
  · rw [hh]
    rfl

/-- Where levels are named and nothing else, the first configuration that succeeds tells the
threshold. -/
theorem Agrees.named?_eq (hh : h.Agrees) (hfirst : h.completed.head? = some r)
    (hlevels : ∀ r' ∈ h.requests, r'.NamesLevel) :
    r.named? = some (.threshold (h.threshold?.getD (.atLeast .warning))) := by
  have hmem : r ∈ h.requests := mem_requests_of_mem_completed (List.mem_of_head? hfirst)
  rw [Agrees, hfirst] at hh
  obtain ⟨hsome, hsame⟩ := hh
  rw [← hsame hlevels] at hsome ⊢
  rw [Request.fixed?, Option.isSome_map] at hsome
  obtain ⟨name, hnamed⟩ := Option.isSome_iff_exists.mp hsome
  obtain ⟨t, rfl⟩ := hlevels r hmem name hnamed
  rw [Request.fixed?, hnamed]
  rfl

theorem agrees_concat_event (hh : h.Agrees) : Agrees (h ++ [.event name]) := by
  have hrequests : requests (h ++ [.event name]) = h.requests := by
    rw [requests_append]
    exact List.append_nil _
  rw [Agrees, completed_concat, threshold?_concat_event, hrequests]
  simp only [Happening.completed?, Option.toList_none, List.append_nil]
  exact hh

theorem requests_concat_request : requests (h ++ [.request r succeeds]) = h.requests ++ [r] := by
  rw [requests_append]
  rfl

/-- Once a configuration has succeeded, requests change nothing about the threshold. -/
theorem agrees_concat_of_head? {first : Request} (hfirst : h.completed.head? = some first)
    (hh : h.Agrees) : Agrees (h ++ [.request r succeeds]) := by
  rw [Agrees, hfirst] at hh
  obtain ⟨hsome, hsame⟩ := hh
  obtain ⟨t, ht⟩ := Option.isSome_iff_exists.mp hsome
  rw [Agrees, completed_concat, List.head?_append, hfirst, threshold?_concat_request, ht]
  refine ⟨rfl, fun hlevels => ?_⟩
  rw [hsame fun r' hr' => hlevels r' ?_, ht]
  · rfl
  · rw [requests_concat_request]
    exact List.mem_append_left _ hr'

/-- A request that does not count as a configuration fixes no threshold but that of warnings. -/
theorem agrees_concat_of_completed?_eq_none (hnone : h.completed.head? = none)
    (hr : (Happening.request r succeeds).completed? = none)
    (hfixed : r.named? = none ∨ ¬ r.NamesLevel ∧ r.fixed? = some (.atLeast .warning))
    (hh : h.Agrees) : Agrees (h ++ [.request r succeeds]) := by
  rw [Agrees, hnone] at hh
  rw [Agrees, completed_concat, hr, Option.toList_none, List.append_nil, hnone,
    threshold?_concat_request, requests_concat_request]
  rcases hh with hh | ⟨hh, r', hr', hlevel⟩
  · rcases hfixed with hnamed | ⟨hlevel, hfixed⟩
    · refine .inl ?_
      rw [hh, Request.fixed?, hnamed]
      rfl
    · refine .inr ⟨?_, r, List.mem_append_right _ (List.mem_singleton_self r), hlevel⟩
      rw [hh, hfixed]
      rfl
  · refine .inr ⟨?_, r', List.mem_append_left _ hr', hlevel⟩
    rw [hh]
    rfl

/-- The first configuration that succeeds fixes the threshold, unless it is fixed already. -/
theorem agrees_concat_of_completed? (hnone : h.completed.head? = none)
    (hr : (Happening.request r succeeds).completed? = some r)
    (hfixed : r.fixed?.isSome = true) (hh : h.Agrees) :
    Agrees (h ++ [.request r succeeds]) := by
  rw [Agrees, hnone] at hh
  rw [Agrees, completed_concat, hr, List.head?_append, hnone, threshold?_concat_request,
    requests_concat_request]
  rcases hh with hh | ⟨hh, r', hr', hlevel⟩
  · rw [hh]
    exact ⟨hfixed, fun _ => rfl⟩
  · rw [hh]
    exact ⟨rfl, fun hlevels => absurd (hlevels r' (List.mem_append_left _ hr')) hlevel⟩

end History

/-! ### States that follow a history -/

/-- The state of logging after a history, if what is logged is not captured. -/
structure Follows (l : Logging) (h : History) : Prop where
  layout : l.layout = h.layout
  threshold? : l.threshold? = h.threshold?
  isConfigured : l.isConfigured = h.isConfigured
  kept : ∀ logger, l.kept.find? logger = h.kept? logger
  captures : l.captures = false
  agrees : h.Agrees

variable {h : History}

theorem follows_nil : ({} : Logging).Follows [] where
  layout := rfl
  threshold? := rfl
  isConfigured := rfl
  kept _ := rfl
  captures := rfl
  agrees := .inl rfl

theorem Follows.agrees_answer (hl : l.Follows h) (r : Request) :
    History.Agrees (h ++ [.request r (l.answer r).2.isOk]) := by
  cases hhead : h.completed.head? with
  | some first => exact History.agrees_concat_of_head? hhead hl.agrees
  | none =>
    cases r with
    | reset => exact History.agrees_concat_of_completed?_eq_none hhead rfl (.inl rfl) hl.agrees
    | configure level writesJson =>
      cases hok : (l.answer (.configure level writesJson)).2.isOk with
      | true =>
        obtain ⟨name, hnamed, -⟩ := (l.isOk_answer_configure level writesJson).mp hok
        refine History.agrees_concat_of_completed? hhead rfl ?_ hl.agrees
        rw [Request.fixed?, hnamed]
        rfl
      | false =>
        exact History.agrees_concat_of_completed?_eq_none hhead rfl (fixed?_of_not_isOk hok)
          hl.agrees

theorem Follows.answer (hl : l.Follows h) (r : Request) :
    (l.answer r).1.Follows (h ++ [.request r (l.answer r).2.isOk]) where
  layout := by rw [answer_fst, History.layout_concat_request]
  threshold? := by rw [answer_fst, History.threshold?_concat_request, hl.threshold?]
  isConfigured := by
    rw [answer_fst, History.isConfigured_concat, ← hl.isConfigured]
    cases r with
    | reset => rfl
    | configure level writesJson =>
      cases (l.answer (.configure level writesJson)).2.isOk <;> rfl
  kept logger := by
    rw [answer_fst, History.kept?, History.keptFrom?_concat_request]
    exact hl.kept logger
  captures := by
    rw [answer_fst]
    exact hl.captures
  agrees := hl.agrees_answer r

theorem Follows.use (hl : l.Follows h) (name : String) :
    (l.use name).Follows (h ++ [.event name]) := by
  obtain ⟨kept, huse⟩ := l.exists_use_eq name
  have hkept := l.find?_kept_use name
  rw [huse] at hkept ⊢
  exact {
    layout := hl.layout.trans History.layout_concat_event.symm
    threshold? := hl.threshold?.trans History.threshold?_concat_event.symm
    isConfigured := by
      rw [History.isConfigured_concat]
      exact hl.isConfigured
    kept := fun logger => by
      rw [hkept, hl.kept, hl.layout, History.kept?, History.kept?, History.keptFrom?_concat_event]
      rfl
    captures := hl.captures
    agrees := History.agrees_concat_event hl.agrees }

/-- The loggers of events are used one after another. -/
theorem Follows.writeEvents (hl : l.Follows h) (es : List Event) :
    (l.writeEvents es).1.Follows (h ++ es.map fun e => .event e.logger) := by
  induction es generalizing l h with
  | nil =>
    rw [List.map_nil, List.append_nil]
    exact hl
  | cons e rest ih =>
    have hrest := ih (hl.use e.logger)
    rw [List.append_assoc] at hrest
    exact hrest

end Logging

/-! ### The history of a session -/

namespace Session

open Logging

variable {s : Session} {st : Step} {h : History}

/-- What logging sees of a step. A request succeeds if its step does. -/
def happenings (s : Session) (st : Step) : History :=
  ((s.request? st).map fun r => .request r (s.step st).2.outcome.isOk).toList ++
    (s.perform st).2.events.map fun e => .event e.logger

/-- What logging sees of steps. -/
def history (s : Session) : List Step → History
  | [] => []
  | st :: rest => s.happenings st ++ (s.step st).1.history rest

/-- The name of a level stands for it. -/
theorem ofText?_upper_name (level : Level) :
    LoggingName.ofText? (Text.upper level.name) = some (.threshold (.atLeast level)) := by
  cases level <;> decide +kernel

theorem isOk_answer_name (l : Logging) (level : Level) (writesJson : Bool) :
    (l.answer (.configure (.text level.name) writesJson)).2.isOk = true :=
  (l.isOk_answer_configure _ _).mpr ⟨_, ofText?_upper_name level, .inr ⟨_, rfl⟩⟩

theorem isOk_configureWith (s : Session) (level : Json) (writesJson : Bool) :
    (s.configureWith level writesJson).2.isOk =
      (s.logging.answer (.configure level writesJson)).2.isOk := by
  simp only [configureWith, answer]
  cases (s.logging.configure level writesJson).2 <;> rfl

/-- Where the settings that are taken into use ask for a configuration, it is theirs. -/
theorem request?_useSettings {settings : Settings} (hr : s.remembered? = some settings) :
    s.request? .useSettings =
      if s.logging.isConfigured then none
      else some (.configure (.text settings.logLevel.name) settings.jsonLogs) := by
  rw [request?, hr]
  rfl

/-- A step that asks logging for something ends as the request does. -/
theorem isOk_outcome_of_request {r : Request} (h : s.request? st = some r) :
    (s.step st).2.outcome.isOk = (s.logging.answer r).2.isOk := by
  cases st with
  | useSettings =>
    show s.useSettings.2.isOk = _
    rcases s.useSettings_cases with ⟨settings, hr, huse⟩ | ⟨f, -, -, -, hnone, -⟩
    · rw [request?_useSettings hr] at h
      split at h
      · cases h
      · cases h
        rw [huse, isOk_answer_name]
        rfl
    · cases hnone.symm.trans h
  | configureLogging level json? =>
    show (s.configureLogging level json?).2.isOk = _
    rcases s.configureLogging_cases level json? with
      ⟨level', writesJson, -, hrequest, hconfigure⟩ | ⟨f, -, hnone, -, -⟩
    · cases hrequest.symm.trans h
      rw [hconfigure, isOk_configureWith]
    · cases hnone.symm.trans h
  | resetLogging =>
    cases h
    rfl
  | _ => cases h

/-- Logging goes on to follow the history over a step. -/
theorem follows_step (hs : s.logging.Follows h) (st : Step) :
    (s.step st).1.logging.Follows (h ++ s.happenings st) := by
  have hperform : (s.perform st).1.logging.Follows
      (h ++ ((s.request? st).map fun r => .request r (s.step st).2.outcome.isOk).toList) := by
    rw [(s.perform_effects st).2.2.2]
    cases hr : s.request? st with
    | none =>
      rw [Option.map_none, Option.toList_none, List.append_nil]
      exact hs
    | some r =>
      rw [isOk_outcome_of_request hr]
      exact hs.answer r
  rw [step_fst, happenings, ← List.append_assoc]
  exact hperform.writeEvents _

/-- **Logging follows the history of a session.** -/
theorem follows_run (hs : s.logging.Follows h) (steps : List Step) :
    (s.run steps).1.logging.Follows (h ++ s.history steps) := by
  induction steps generalizing s h with
  | nil =>
    rw [history, List.append_nil]
    exact hs
  | cons st rest ih =>
    have hrest := ih (follows_step hs st)
    rw [List.append_assoc] at hrest
    exact hrest

end Session

end TypeLowering
