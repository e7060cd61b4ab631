import TypeLowering.Bindings
import TypeLowering.Collector
import TypeLowering.Graph.Blueprint
import TypeLowering.Problem
import TypeLowering.Settings

/-!
# Steps of a session

A `Step` is a request to a session, an `Answer` is what it gives if it succeeds, and a `Report` also
holds what was logged on the way.
-/

namespace TypeLowering

/-- A request to a session. -/
inductive Step where
  /-- Uses the profile of the settings, which also configure logging if nothing has. -/
  | useSettings
  | useProfile (members : Entries String Json)
  | lower (b : Blueprint)
  | lowerTypeOf (key : SyntaxKey)
  | lowerListElementOf (key : SyntaxKey)
  | typeOf (key : SyntaxKey)
  | describe (b : Blueprint)
  /-- Lowers both and compares them. -/
  | compare (a b : Blueprint)
  /-- Asks whether a value marks a missing result under the profile in use. -/
  | isMissingResult (b : Blueprint)
  | selectArrow (b : Blueprint)
  | redefine (name : String) (shape : Shape Blueprint)
  | bind (key : SyntaxKey) (b : Blueprint)
  | unbind (key : SyntaxKey)
  | collect (b : Blueprint)
  | collectTypeOf (key : SyntaxKey)
  | addNamespaces (names : List String)
  | collected
  | setVariable (name value : String)
  | unsetVariable (name : String)
  | settings
  /-- Asks whether settings that have been read are read only once. -/
  | settingsAreKept
  | clearSettings
  | makeSettings (fields : Entries String Json)
  | configureLogging (level : Json) (json? : Option Bool)
  | isLoggingConfigured
  | resetLogging
  | log (r : Record)

/-- How a value is described: its form inside a message, its kind, and every name of it. -/
structure Description where
  literal : String
  kind? : Option Kind
  builtins : List Builtin
  names : List String

/-- What a step answers. -/
inductive Answer where
  | nothing
  | flag (b : Bool)
  | count (n : Nat)
  | text (s : String)
  | profile (p : Profile)
  | settings (s : Settings)
  | lowered (l : Lowered)
  | description (d : Description)
  /-- Whether two values are identical, and whether their references and their imports are equal. -/
  | comparison (values references imports : Bool)
  /-- The number of call signatures, and the one that is kept. -/
  | arrow (count : Nat) (parameter result : Description)
  | imports (r : Requirement)
  | collected (c : Collector)

/-- The answer to a step with all that was logged and what was written for it. -/
structure Report where
  outcome : Except Fault Answer
  records : List Record
  written : List Written

end TypeLowering
