import TypeLowering.Logging.Record
import TypeLowering.Text.Case

/-!
# Logging

A threshold decides which records are written. Until logging is configured for the first time it
admits warnings; the first configuration sets it for good, even one that fails because what its name
stands for is no threshold. Whether records are written as JSON objects or as text follows the
latest configuration, and plain text is restored by a reset. The loggers of the events of lowering
are made once: each keeps for good the layout that it finds when it is first used after a
configuration. While records are captured none is written.
-/

namespace TypeLowering

/-- Which records are written. -/
inductive Threshold where
  | everything
  | atLeast (l : Level)
  deriving DecidableEq, Repr

namespace Threshold

/-- Whether records of a level are written. -/
def admits : Threshold → Level → Bool
  | .everything, _ => true
  | .atLeast least, l => least.rank ≤ l.rank

end Threshold

/-- What a name in capitals stands for: a threshold, the usual wording of a record, or the table of
the styles in which wordings are written. -/
inductive LoggingName where
  | threshold (t : Threshold)
  | wording
  | styles
  deriving DecidableEq, Repr

namespace LoggingName

/-- The meaning of a name: a level's, one of two other names for a level, that of no threshold, or
one of two that stand for something else. -/
def ofText? (name : String) : Option LoggingName :=
  if name = "NOTSET" then some (.threshold .everything)
  else if name = "WARN" then some (.threshold (.atLeast .warning))
  else if name = "FATAL" then some (.threshold (.atLeast .critical))
  else if name = "BASIC_FORMAT" then some .wording
  else if name = "_STYLES" then some .styles
  else (Level.ofName? name).map fun l => .threshold (.atLeast l)

end LoggingName

/-- Why logging cannot be configured. -/
inductive LoggingFault where
  /-- The level is given by a value that is no text. -/
  | unnamedLevel (level : Json)
  /-- The name stands for nothing. -/
  | unknownName (name : String)
  /-- The name stands for the usual wording of a record. -/
  | wordingAsLevel
  /-- The name stands for the table of styles. -/
  | stylesAsLevel

/-- The state of logging. -/
structure Logging where
  /-- Set by the first configuration. -/
  threshold? : Option Threshold := none
  /-- How a new logger writes, by the latest configuration since the last reset. -/
  layout : Layout := .bare
  isConfigured : Bool := false
  /-- The layouts that loggers of events have kept. -/
  kept : Entries String Layout := []
  /-- Whether records are captured instead of written. -/
  captures : Bool := false
  deriving DecidableEq, Repr

namespace Logging

/-- Which records are written now. -/
def threshold (l : Logging) : Threshold :=
  l.threshold?.getD (.atLeast .warning)

/-- Sets the threshold, unless one has been set. What is none fails, and then warnings stay
admitted for good. -/
def fixThreshold (l : Logging) (name : LoggingName) : Logging × Except LoggingFault Unit :=
  match l.threshold?, name with
  | some _, _ => (l, .ok ())
  | none, .threshold t => ({ l with threshold? := some t }, .ok ())
  | none, .wording => ({ l with threshold? := some l.threshold }, .error .wordingAsLevel)
  | none, .styles => ({ l with threshold? := some l.threshold }, .error .stylesAsLevel)

/-- Configures logging by the name of a level, in any letter case. The layout is chosen even if the
rest fails. -/
def configure (l : Logging) (level : Json) (writesJson : Bool) :
    Logging × Except LoggingFault Unit :=
  let l := { l with layout := if writesJson then .json else .text }
  match level with
  | .text s =>
    match LoggingName.ofText? (Text.upper s) with
    | none => (l, .error (.unknownName (Text.upper s)))
    | some name =>
      let fixed := l.fixThreshold name
      match fixed.2 with
      | .error f => (fixed.1, .error f)
      | .ok _ => ({ fixed.1 with isConfigured := true }, .ok ())
  | v => (l, .error (.unnamedLevel v))

/-- Forgets the configuration, except for the threshold and for what loggers have kept. -/
def reset (l : Logging) : Logging :=
  { l with layout := .bare, isConfigured := false }

/-- What is written for a record in a layout, if it is written. -/
def written (l : Logging) (layout : Layout) (r : Record) : Except RecordFault (List Written) :=
  if !l.captures && l.threshold.admits r.level then (r.written layout).map ([·]) else .ok []

/-- Writes a record of a new logger. -/
def write (l : Logging) (r : Record) : Except RecordFault (List Written) :=
  l.written l.layout r

/-- Uses the logger of an event: it keeps the layout of a configuration, if it has not kept one. -/
def use (l : Logging) (logger : String) : Logging :=
  match l.kept.find? logger, l.layout with
  | none, .bare => l
  | none, layout => { l with kept := l.kept.put logger layout }
  | some _, _ => l

/-- Writes an event. Its record asks for nothing that could fail. -/
def writeEvent (l : Logging) (e : Event) : Logging × List Written :=
  let used := l.use e.logger
  let written := used.written ((used.kept.find? e.logger).getD used.layout) e.record
  (used, written.toOption.getD [])

/-- Writes events one after another. -/
def writeEvents (l : Logging) : List Event → Logging × List Written
  | [] => (l, [])
  | e :: rest =>
    let first := l.writeEvent e
    let others := first.1.writeEvents rest
    (others.1, first.2 ++ others.2)

end Logging

end TypeLowering
