import TypeLowering.Json
import TypeLowering.Template.Filling
import TypeLowering.Text.Line
import TypeLowering.Trace

/-!
# Log records

A record says what happened, who logs it and how heavy it is, with further fields. It is written as
a JSON object, as lines of text, or not at all: a record that is captured is handed over with all
its fields. Some fields only direct how a record is written and are not written themselves; the
arguments among them are put into the event, and a record whose event has no place for them is not
written.
-/

namespace TypeLowering

/-- The weight of a record. -/
inductive Level where
  | debug
  | info
  | warning
  | error
  | critical
  deriving DecidableEq, Repr

namespace Level

/-- All levels, lightest first. -/
def all : List Level :=
  [.debug, .info, .warning, .error, .critical]

/-- The place of a level in the order of weight. -/
def rank : Level → Nat
  | .debug => 1
  | .info => 2
  | .warning => 3
  | .error => 4
  | .critical => 5

/-- The word for a level in a record. -/
def word : Level → String
  | .debug => "debug"
  | .info => "info"
  | .warning => "warning"
  | .error => "error"
  | .critical => "critical"

/-- The name of a level in settings. -/
def name : Level → String
  | .debug => "DEBUG"
  | .info => "INFO"
  | .warning => "WARNING"
  | .error => "ERROR"
  | .critical => "CRITICAL"

/-- The level with a name. -/
def ofName? (name : String) : Option Level :=
  all.find? fun l => l.name = name

/-- The level with a word. -/
def ofWord? (word : String) : Option Level :=
  all.find? fun l => l.word = word

end Level

/-- How records are written. -/
inductive Layout where
  /-- Text without the logger's name, as long as nothing is configured. -/
  | bare
  /-- Text with the logger's name. -/
  | text
  /-- One JSON object. -/
  | json
  deriving DecidableEq, Repr

/-- What is logged: by whom, how heavy, what happened, and further fields. -/
structure Record where
  logger : String
  level : Level
  event : String
  fields : Entries String Json

/-- Why a record cannot be written. -/
inductive RecordFault where
  /-- The source of a record is a value that has no name. -/
  | namelessSource (source : Json)
  /-- The arguments cannot be put into the event. -/
  | template (fault : TemplateFault)

/-- What is written for a record. -/
inductive Written where
  /-- Lines of text, of which the time stamp is left out. -/
  | text (lines : List String)
  /-- A JSON object on one line. -/
  | json (members : Entries String Json)

namespace Record

/-- The name of the logger as it is written. The logger without a name is the root of all others. -/
def loggerName (r : Record) : String :=
  if r.logger = "" then "root" else r.logger

/-- The members of a record that is captured. The level wins over a field of its name. -/
def captured (r : Record) : Entries String Json :=
  let given : Entries String Json := ("event", .text r.event) :: r.fields
  given.put "log_level" (.text r.level.word)

/-- Whether a field is not written: the time stamp, which is not shown, and what asks for a stack or
for the exception in flight. -/
def isDirective (key : String) : Bool :=
  key ∈ ["timestamp", "stack_info", "exc_info"]

/-- The values that are asked to be put into the event. -/
def arguments? (r : Record) : Option Json :=
  (r.fields.find? "positional_args").filter Json.isGiven

/-- The event with the arguments put into it. -/
def filledEvent (r : Record) : Except TemplateFault String :=
  match r.arguments? with
  | none => .ok r.event
  | some values => Template.fill r.event values

/-- Whether a field is left of the arguments, which are not written themselves. -/
def outlastsArguments (key : String) (v : Json) : Bool :=
  key ≠ "positional_args" || v.isNull

/-- The record as a configured logger writes it, with the arguments put into the event. A field that
stands for the source of the record has no name to log under, unless it is null. -/
def prepared (r : Record) : Except RecordFault Record :=
  let source := (r.fields.find? "_record").getD .null
  if source.isNull then
    match r.filledEvent with
    | .error f => .error (.template f)
    | .ok event =>
      .ok { r with event, fields := r.fields.filter fun f => outlastsArguments f.1 f.2 }
  else .error (.namelessSource source)

/-- The members of a record's JSON object. The level and the logger win over fields of those
names. -/
def members (r : Record) : Entries String Json :=
  let given : Entries String Json :=
    ("event", .text r.event) :: r.fields.filter fun f => !isDirective f.1
  (given.put "level" (.text r.level.word)).put "logger" (.text r.loggerName)

/-- How a value is shown after its key: a text with blanks, quotes or equality signs is quoted. -/
def shown : Json → String
  | .text s =>
    if s.toList.any (· ∈ [' ', '\t', '\r', '\n', '=', '"', '\'']) then Text.quoted s else s
  | v => v.literal

/-- The pieces of text that a field is shown as, if its value has the given form. -/
def piecesOf (r : Record) (key : String) (form : Json → String) : List String :=
  ((r.fields.find? key).map form).toList

/-- The name of a logger as it is shown. -/
def bracketed (v : Json) : String :=
  "[" ++ v.plain ++ "]"

/-- Whether a field has no place of its own among the pieces. -/
def isOrdinary (key : String) : Bool :=
  !isDirective key &&
    key ∉ ["", "level", "logger", "logger_name", "stack", "exception"]

/-- The pieces of a record's text, of which those after the event are named by their keys, in order.
The time stamp is left out. -/
def pieces (r : Record) (isNamed : Bool) : List String :=
  r.piecesOf "" (fun v => "=" ++ shown v) ++ ["[" ++ r.level.word ++ "]", r.event] ++
    (if isNamed then [bracketed (.text r.loggerName)] else r.piecesOf "logger" bracketed) ++
    r.piecesOf "logger_name" bracketed ++
    ((r.fields.filter fun f => isOrdinary f.1).mergeSort fun f g => f.1 ≤ g.1).map
      fun f => f.1 ++ "=" ++ shown f.2

/-- The text without the blanks at its end. -/
def withoutBlanks (cs : List Char) : List Char :=
  (cs.reverse.dropWhile (· = ' ')).reverse

/-- The value of a field that is not null. -/
def value? (r : Record) (key : String) : Option Json :=
  match r.fields.find? key with
  | some .null => none
  | found => found

/-- The text below the pieces: a stack, the text of an exception, and a ruled line that parts them. -/
def below (r : Record) (isNamed : Bool) : String :=
  let error? := r.value? "exception"
  let asksForError := !isNamed && (r.fields.find? "exc_info").any Json.isGiven
  let stack :=
    match r.value? "stack" with
    | some v => "\n" ++ v.plain ++ if asksForError || error?.isSome then "\n\n===\n" else ""
    | none => ""
  let error :=
    match error? with
    | some v => "\n" ++ v.plain
    | none => ""
  stack ++ error

/-- The text of a record, which a line feed closes. -/
def text (r : Record) (isNamed : Bool) : List Char :=
  withoutBlanks (" ".intercalate (r.pieces isNamed)).toList ++ (r.below isNamed ++ "\n").toList

/-- The lines of a record's text. -/
def lines (r : Record) (isNamed : Bool) : List String :=
  Text.linesFrom [] (r.text isNamed)

/-- What is written for a record. As long as nothing is configured it is written as it is. -/
def written (r : Record) : Layout → Except RecordFault Written
  | .bare => .ok (.text (r.lines false))
  | .text => r.prepared.map fun p => .text (p.lines true)
  | .json => r.prepared.map fun p => .json p.members

end Record

/-- The name of an event in its record. -/
def Event.name : Event → String
  | .cycleCut _ _ => "cycle_short_circuit"
  | .overloadsCollapsed _ => "overloads_collapsed"
  | .typeNotFound _ => "type_not_found"

/-- The fields of an event in its record. -/
def Event.fields : Event → Entries String Json
  | .cycleCut kind depth =>
    [("kind", (kind.map fun k => Json.text k.text).getD .null), ("depth", .integer depth)]
  | .overloadsCollapsed signatures => [("signatures", .integer signatures)]
  | .typeNotFound key => [("node", .text key)]

/-- The logger that an event is logged through. -/
def Event.logger : Event → String
  | .overloadsCollapsed _ => "codegraph_typeref.translate.callables"
  | _ => "codegraph_typeref.translate.translator"

/-- The record of an event. Events of lowering are of the lightest level. -/
def Event.record (e : Event) : Record where
  logger := e.logger
  level := .debug
  event := e.name
  fields := e.fields

end TypeLowering
