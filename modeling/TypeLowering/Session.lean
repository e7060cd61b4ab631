import TypeLowering.Session.Step

/-!
# Sessions

A session holds a type graph, the recorded types of syntax nodes, the profile in use, the imports
collected so far, the environment with the settings read from it, and the state of logging.
`Session.perform` answers a step and gives the session after it, and `Session.step` also writes what
was logged. A step that fails leaves the graph, the bindings, the profile, the collector and the
environment as they were.
-/

namespace TypeLowering

/-- What a session holds. -/
structure Session where
  graph : Graph := .base
  names : NodeNames := []
  bindings : Bindings := []
  profile? : Option Profile := some {}
  collector : Collector := {}
  environment : Environment := []
  /-- The settings that were read, until they are cleared. -/
  settings? : Option Settings := none
  logging : Logging := {}

/-- The fault that a failure in a graph is reported as. -/
def Failure.toFault (g : Graph) : Failure → Fault
  | .unsupported n depth => .unsupported (g.shape n) depth
  | .tooDeep root => .tooDeep (g.shape root)

namespace Session

/-- The session with the given nodes, recorded types and profile, which may capture its records. -/
def start (nodes : List (String × Shape Blueprint)) (types : List (SyntaxKey × Blueprint))
    (profile? : Option Profile) (captures : Bool) : Session :=
  let declared := Graph.declare nodes
  let built := types.foldl (fun (acc : Graph × Bindings) t =>
    let n := acc.1.build declared.2 t.2
    (n.1, Entries.put acc.2 t.1 (n.1.type? n.2))) (declared.1, [])
  { graph := built.1, names := declared.2, bindings := built.2, profile?, logging := { captures } }

/-- Describes a node of a graph. -/
def describe (s : Session) (g : Graph) (n : Node) : Description where
  literal := (g.shape n).literal
  kind? := (g.shape n).kind?
  builtins := Builtin.all.filter fun b => b.node = n
  names := ((s.names.filter fun e => e.2 = n).map Prod.fst).mergeSort fun a b => a ≤ b

/-- Describes what is recorded for a syntax node; where no type is recorded that is null. -/
def describeType (s : Session) : Option Node → Description
  | some n => s.describe s.graph n
  | none =>
    let built := s.graph.place (.foreign .null)
    s.describe built.1 built.2

/-- Lowers in a graph with the profile in use. -/
def lowerIn (s : Session) {α : Type} (g : Graph) (f : Profile → Traced Failure α) :
    Traced Fault α :=
  match s.profile? with
  | none => .fail .noProfile
  | some p => (f p).mapFailure (Failure.toFault g)

/-- Builds a blueprint and lowers its node with the profile in use. -/
def lowerBlueprint (s : Session) (b : Blueprint) : Traced Fault Lowered :=
  let built := s.graph.build s.names b
  s.lowerIn built.1 fun p => built.1.lower p built.2

/-- Lowers what is recorded for a syntax node. -/
def lowerTypeOf (s : Session) (key : SyntaxKey) : Traced Fault Lowered :=
  s.lowerIn s.graph fun p => s.bindings.lowerTypeOf s.graph p key

/-- Lowers two values and compares them. -/
def compare (s : Session) (a b : Blueprint) : Traced Fault Answer :=
  let m := s.graph.build s.names a
  let n := m.1.build s.names b
  s.lowerIn n.1 fun p => do
    let l ← n.1.lower p m.2
    let l' ← n.1.lower p n.2
    return .comparison (m.2 = n.2) (l.reference = l'.reference) (l.imports = l'.imports)

/-- The call signature that is kept of a value, if it has any. -/
def selectArrow (s : Session) (b : Blueprint) : Traced Fault Answer :=
  let built := s.graph.build s.names b
  match built.1.selectArrow? built.2 with
  | none => return .nothing
  | some t => do
    let arrow ← t.mapFailure (Failure.toFault built.1)
    return .arrow (built.1.arrowCount built.2) (s.describe built.1 arrow.1)
      (s.describe built.1 arrow.2)

/-- The settings, read from the environment unless they have been read before. -/
def readSettings (s : Session) : Session × Except Fault Settings :=
  match s.settings? with
  | some settings => (s, .ok settings)
  | none =>
    match Settings.make [] s.environment with
    | .ok settings => ({ s with settings? := some settings }, .ok settings)
    | .error (.unreadable u) => (s, .error (.unreadable u))
    | .error (.refused rows) => (s, .error (.environment rows))

/-- Configures logging by a level and the choice of lines. -/
def configureWith (s : Session) (level : Json) (writesJson : Bool) :
    Session × Except Fault Answer :=
  let configured := s.logging.configure level writesJson
  ({ s with logging := configured.1 },
    match configured.2 with
    | .ok _ => .ok (.flag true)
    | .error f => .error (.logging f))

/-- Configures logging. The settings are read only for what is missing, and then they also stand in
for an empty level. -/
def configureLogging (s : Session) (level : Json) (json? : Option Bool) :
    Session × Except Fault Answer :=
  match level.isNull, json? with
  | false, some writesJson => s.configureWith level writesJson
  | _, _ =>
    match s.readSettings with
    | (s, .error f) => (s, .error f)
    | (s, .ok settings) =>
      let level := if level.isGiven then level else .text settings.logLevel.name
      s.configureWith level (json?.getD settings.jsonLogs)

/-- Takes the profile of the settings into use and configures logging if nothing has. -/
def useSettings (s : Session) : Session × Except Fault Answer :=
  match s.readSettings with
  | (s, .error f) => (s, .error f)
  | (s, .ok settings) =>
    let s := if s.logging.isConfigured then s
      else (s.configureWith (.text settings.logLevel.name) settings.jsonLogs).1
    ({ s with profile? := some settings.profile }, .ok (.profile settings.profile))

/-- Collects the imports of a reference, if there is one. -/
def collect (s : Session) (t : Traced Fault Lowered) : Session × Traced Fault Answer :=
  match t.outcome with
  | .error f => (s, ⟨t.events, .error f⟩)
  | .ok l =>
    let added := s.collector.add l
    ({ s with collector := added.1 }, ⟨t.events, .ok (.text added.2.text)⟩)

/-- Gives a declared node another content. A value outside the closed set of variants has none. -/
def redefine (s : Session) (name : String) (shape : Shape Blueprint) : Session :=
  if shape.isClosed then { s with graph := Graph.define s.names s.graph name shape } else s

/-- Answers a step, with the events of lowering on the way. -/
def perform (s : Session) : Step → Session × Traced Fault Answer
  | .useSettings => untraced s.useSettings
  | .useProfile members =>
    match Profile.ofMembers members with
    | .ok p => answer { s with profile? := some p } (.profile p)
    | .error rows => (s, .fail (.invalid .profile rows))
  | .lower b => (s, return .lowered (← s.lowerBlueprint b))
  | .lowerTypeOf key => (s, return .lowered (← s.lowerTypeOf key))
  | .lowerListElementOf key =>
    (s, return .lowered (← s.lowerIn s.graph fun p => s.bindings.lowerListElementOf s.graph p key))
  | .typeOf key =>
    (s, s.lowerIn s.graph fun _ =>
      return .description (s.describeType (s.bindings.typeOf key)))
  | .describe b =>
    let built := s.graph.build s.names b
    answer s (.description (s.describe built.1 built.2))
  | .compare a b => (s, s.compare a b)
  | .isMissingResult b =>
    let built := s.graph.build s.names b
    (s, s.lowerIn built.1 fun p => return .flag (built.1.isInstanceOf p.noneClassName built.2))
  | .selectArrow b => (s, s.selectArrow b)
  | .redefine name shape => answer (s.redefine name shape) .nothing
  | .bind key b =>
    let built := s.graph.build s.names b
    let bindings := Entries.put s.bindings key (built.1.type? built.2)
    answer { s with graph := built.1, bindings } (.count bindings.length)
  | .unbind key =>
    let bindings := Entries.remove s.bindings key
    answer { s with bindings } (.count bindings.length)
  | .collect b => s.collect (s.lowerBlueprint b)
  | .collectTypeOf key => s.collect (s.lowerTypeOf key)
  | .addNamespaces names =>
    let collector := s.collector.addNamespaces names
    answer { s with collector } (.imports collector.collected)
  | .collected => answer s (.collected s.collector)
  | .setVariable name value =>
    match s.environment.set name value with
    | .ok environment => answer { s with environment } .nothing
    | .error f => (s, .fail (.variable f))
  | .unsetVariable name =>
    answer { s with environment := Entries.remove s.environment name } .nothing
  | .settings =>
    let read := s.readSettings
    untraced (read.1, read.2.map .settings)
  | .settingsAreKept =>
    let read := s.readSettings
    untraced (read.1, read.2.map fun settings => .flag (read.1.settings? = some settings))
  | .clearSettings => answer { s with settings? := none } .nothing
  | .makeSettings fields =>
    match Settings.make fields s.environment with
    | .ok settings => answer s (.settings settings)
    | .error (.unreadable u) => (s, .fail (.unreadable u))
    | .error (.refused rows) => (s, .fail (.invalid .settings rows))
  | .configureLogging level json? => untraced (s.configureLogging level json?)
  | .isLoggingConfigured => answer s (.flag s.logging.isConfigured)
  | .resetLogging => answer { s with logging := s.logging.reset } (.flag false)
  | .log _ => answer s .nothing
where
  /-- A step that only answers. -/
  answer (s : Session) (a : Answer) : Session × Traced Fault Answer := (s, .pure a)
  /-- A step on the way of which nothing is noted. -/
  untraced (r : Session × Except Fault Answer) : Session × Traced Fault Answer := (r.1, ⟨[], r.2⟩)

/-- Takes a step and writes what is logged for it, unless it is captured. A record that cannot be
written fails the step. -/
def step (s : Session) (st : Step) : Session × Report :=
  let done := s.perform st
  match st with
  | .log r =>
    match done.1.logging.write r with
    | .ok written => (done.1, ⟨done.2.outcome, [r], written⟩)
    | .error f => (done.1, ⟨.error (.record f), [r], []⟩)
  | _ =>
    let written := done.1.logging.writeEvents done.2.events
    ({ done.1 with logging := written.1 },
      ⟨done.2.outcome, done.2.events.map Event.record, written.2⟩)

/-- Takes steps one after another. -/
def run (s : Session) : List Step → Session × List Report
  | [] => (s, [])
  | st :: rest =>
    let first := s.step st
    let others := first.1.run rest
    (others.1, first.2 :: others.2)

end Session

end TypeLowering
