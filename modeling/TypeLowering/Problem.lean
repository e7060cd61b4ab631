import TypeLowering.Graph
import TypeLowering.Invalid
import TypeLowering.Logging
import TypeLowering.Profile.Attributes
import TypeLowering.Settings.Environment

/-!
# Problems and faults

A problem is an error of the library: a stable code for programs, a message for people, and context
that helps to find the offending value. `Fault` is every cause for which a request can fail, those
without a code included.
-/

namespace TypeLowering

/-- The class of a problem. -/
inductive ProblemClass where
  | general
  | unsupported
  | tooDeep
  | configuration
  deriving DecidableEq, Repr

/-- The name of a problem's class. -/
def ProblemClass.name : ProblemClass → String
  | .general => "TypeRefError"
  | .unsupported => "UnsupportedTypeKindError"
  | .tooDeep => "TranslationDepthError"
  | .configuration => "ConfigurationError"

/-- An error of the library. -/
structure Problem where
  cls : ProblemClass
  code : String
  detail : String
  context : Entries String Json

namespace Problem

variable {ρ : Type}

/-- The context that begins with the type of a value. -/
def about (s : Shape ρ) (context : Entries String Json) : Entries String Json :=
  Entries.ofPairs (("type_name", .text s.typeName) :: context)

/-- A problem of no particular class. -/
def general (code detail : String) (context : Entries String Json) : Problem where
  cls := .general
  code := code
  detail := detail
  context := Entries.ofPairs context

/-- A value that no rule covers. -/
def unsupported (s : Shape ρ) (context : Entries String Json) : Problem where
  cls := .unsupported
  code := "UNSUPPORTED_TYPE_KIND"
  detail := "Data type " ++ s.literal ++ " (" ++ s.typeName ++ ") has no translation rule"
  context := about s context

/-- A value whose containers nest too deeply. -/
def tooDeep (s : Shape ρ) (context : Entries String Json) : Problem where
  cls := .tooDeep
  code := "TRANSLATION_TOO_DEEP"
  detail := "Type graph rooted at " ++ s.literal ++ " nests too deeply to translate"
  context := about s context

/-- Settings that cannot be used. -/
def configuration (detail : String) (context : Entries String Json) : Problem where
  cls := .configuration
  code := "CONFIGURATION_ERROR"
  detail := detail
  context := Entries.ofPairs context

/-- The message of a problem. -/
def message (p : Problem) : String :=
  "[" ++ p.code ++ "] " ++ p.detail

/-- The type of the value that the problem is about, where the context tells it. -/
def typeName? (p : Problem) : Option Json :=
  p.context.find? "type_name"

/-- The form of a problem inside a message. -/
def literal (p : Problem) : String :=
  let fields : Entries String Json :=
    ("code", .text p.code) :: ("message", .text p.detail) :: p.context
  p.cls.name ++ "(" ++ ", ".intercalate (fields.map fun f => f.1 ++ "=" ++ f.2.literal) ++ ")"

end Problem

/-- The records that are made from fields. -/
inductive Model where
  | profile
  | settings
  deriving DecidableEq, Repr

/-- The name of a record type. -/
def Model.name : Model → String
  | .profile => "TargetProfile"
  | .settings => "TypeRefSettings"

/-- The message about an attribute that no value of a type has. -/
def missingAttribute (typeName name : String) : String :=
  "'" ++ typeName ++ "' object has no attribute '" ++ name ++ "'"

/-- The name of the class of a fault with an attribute. -/
def AttributeFault.className : AttributeFault → String
  | .frozen _ => "ValidationError"
  | .notWritable _ | .withoutSetter _ | .noDump _ => "AttributeError"
  | .noTable _ | .noClass _ => "TypeError"

/-- The message of a fault with an attribute. -/
def AttributeFault.message : AttributeFault → String
  | .frozen _ => "1 errors for " ++ Model.profile.name
  | .notWritable name =>
    "attribute '" ++ name ++ "' of '" ++ Model.profile.name ++ "' objects is not writable"
  | .withoutSetter name =>
    "property '" ++ name ++ "' of '" ++ Model.profile.name ++ "' object has no setter"
  | .noTable typeName => "__dict__ must be set to a dictionary, not a '" ++ typeName ++ "'"
  | .noClass typeName => "__class__ must be set to a class, not '" ++ typeName ++ "' object"
  | .noDump typeName => missingAttribute typeName "to_python"

/-- The name of the class of a fault in configuring logging. -/
def LoggingFault.className : LoggingFault → String
  | .unnamedLevel _ | .unknownName _ => "AttributeError"
  | .wordingAsLevel => "ValueError"
  | .stylesAsLevel => "TypeError"

/-- The message of a fault in configuring logging. -/
def LoggingFault.message : LoggingFault → String
  | .unnamedLevel v => missingAttribute v.typeName "upper"
  | .unknownName name => "module 'logging' has no attribute '" ++ name ++ "'"
  | .wordingAsLevel => "Unknown level: '%(levelname)s:%(name)s:%(message)s'"
  | .stylesAsLevel => "Level not an integer or a valid string"

/-- The name of the class of a fault in writing a record. -/
def RecordFault.className : RecordFault → String
  | .namelessSource _ => "AttributeError"
  | .template f => f.className

/-- The message of a fault in writing a record. -/
def RecordFault.message : RecordFault → String
  | .namelessSource v => missingAttribute v.typeName "name"
  | .template f => f.message

/-- Why a request fails. -/
inductive Fault where
  /-- A value that no rule covers, below the given number of containers. -/
  | unsupported (shape : Shape Node) (depth : Nat)
  /-- A value whose containers nest too deeply. -/
  | tooDeep (shape : Shape Node)
  /-- The environment holds refused values. -/
  | environment (rows : List Row)
  /-- A record cannot be made from the given fields. -/
  | invalid (model : Model) (rows : List Row)
  /-- The environment cannot be read. -/
  | unreadable (cause : Unreadable)
  /-- The environment cannot hold a variable. -/
  | variable (fault : VariableFault)
  /-- An attribute of a finished profile is refused. -/
  | attribute (fault : AttributeFault)
  /-- Logging cannot be configured. -/
  | logging (fault : LoggingFault)
  /-- A record cannot be written. -/
  | record (fault : RecordFault)
  /-- No kind of type has the value. -/
  | unknownKind (value : Json)
  /-- There is no profile to lower with yet. -/
  | noProfile

namespace Fault

/-- Depth problems always tell this limit. -/
def reportedLimit : Nat := 1000

/-- The problem that a fault is reported as, if it has a code. -/
def problem? : Fault → Option Problem
  | .unsupported s depth => some (.unsupported s [("depth", .integer depth)])
  | .tooDeep s => some (.tooDeep s [("recursion_limit", .integer reportedLimit)])
  | .environment _ => some (.configuration "Invalid translator settings" [])
  | _ => none

/-- The refused values that a fault reports, in their order. -/
def rows : Fault → List Row
  | .environment rows => Row.sort rows
  | .invalid _ rows => Row.sort rows
  | .attribute (.frozen name) => [⟨[name], .frozen⟩]
  | _ => []

/-- The name of a fault's class. -/
def className : Fault → String
  | .unsupported _ _ => ProblemClass.unsupported.name
  | .tooDeep _ => ProblemClass.tooDeep.name
  | .environment _ => ProblemClass.configuration.name
  | .invalid _ _ => "ValidationError"
  | .unreadable (.start _) => "AttributeError"
  | .unreadable _ => "SettingsError"
  | .variable f => f.className
  | .attribute f => f.className
  | .logging f => f.className
  | .record f => f.className
  | .unknownKind _ => "ValueError"
  | .noProfile => "NoTranslator"

/-- The message of a fault. -/
def message (f : Fault) : String :=
  match f with
  | .invalid model rows => toString rows.length ++ " errors for " ++ model.name
  | .unreadable .name =>
    "error getting value for field \"log_level\" from source \"EnvSettingsSource\""
  | .unreadable .profile =>
    "error parsing value for field \"profile\" from source \"EnvSettingsSource\""
  | .unreadable (.start typeName) => missingAttribute typeName "lower"
  | .variable f => f.message
  | .attribute f => f.message
  | .logging f => f.message
  | .record f => f.message
  | .unknownKind value => value.literal ++ " is not a valid DataTypeKind"
  | .noProfile => "no translator"
  | .unsupported _ _ | .tooDeep _ | .environment _ => (f.problem?.map Problem.message).getD ""

end Fault

/-- The kind that a value names. -/
def Kind.ofValue? : Json → Except Fault Kind
  | .text s =>
    match Kind.ofText? s with
    | some k => .ok k
    | none => .error (.unknownKind (.text s))
  | v => .error (.unknownKind v)

end TypeLowering
