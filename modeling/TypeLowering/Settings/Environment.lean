import TypeLowering.Json
import TypeLowering.Json.Reader
import TypeLowering.Profile.Fields
import TypeLowering.Settings.Reading

/-!
# Environment variables

Where settings come from when they are not given outright. The profile is given by one variable that
holds a JSON object, and by variables for single fields, whose names lead on from that of the
profile, also into nested objects.
-/

namespace TypeLowering

/-- The values of the environment variables by their names, in the order of setting. -/
abbrev Environment : Type := Entries String String

/-- Why the environment cannot be read. -/
inductive Unreadable where
  /-- The variable for the first field has no name. -/
  | name
  /-- The variable with the profile is no JSON text. -/
  | profile
  /-- What the names of variables are to begin with is no text, and has no lower case. -/
  | start (typeName : String)
  deriving DecidableEq, Repr

/-- Why a variable cannot be set. -/
inductive VariableFault where
  /-- The name or the value holds the character with the code zero. -/
  | zeroCharacter
  /-- The name holds an equality sign. -/
  | illegalName
  | emptyName
  deriving DecidableEq, Repr

namespace VariableFault

/-- The name of a fault's class. -/
def className : VariableFault → String
  | .zeroCharacter | .illegalName => "ValueError"
  | .emptyName => "OSError"

/-- The message of a fault. -/
def message : VariableFault → String
  | .zeroCharacter => "embedded null byte"
  | .illegalName => "illegal environment variable name"
  | .emptyName => "[Errno 22] Invalid argument"

end VariableFault

/-- Cuts characters at a delimiter, from the left and at most as often as `cuts?` says; `seen` holds
the characters since the last cut, last first, and `skipped` characters of a delimiter follow. -/
def cutPath (delimiter : List Char) (cuts? : Option Nat) (seen : List Char) :
    Nat → List Char → List String
  | _, [] => [String.ofList seen.reverse]
  | skipped + 1, _ :: rest => cutPath delimiter cuts? seen skipped rest
  | 0, c :: rest =>
    if cuts? ≠ some 0 && delimiter.isPrefixOf (c :: rest) then
      String.ofList seen.reverse ::
        cutPath delimiter (cuts?.map Nat.pred) [] (delimiter.length - 1) rest
    else cutPath delimiter cuts? (c :: seen) 0 rest

/-- Gives the value at the end of a path, making objects on the way. A path that runs into a value
that is no object gives nothing, and null replaces nothing. -/
def putPath : List String → Json → Entries String Json → Entries String Json
  | [], _, members => members
  | [key], v, members =>
    if v.isNull && (members.find? key).isSome then members else members.put key v
  | key :: rest, v, members =>
    match members.find? key with
    | none => members.put key (.object (putPath rest v []))
    | some (.object inner) => members.put key (.object (putPath rest v inner))
    | some _ => members

mutual

/-- The members of the first object with those of the second put over them; two objects in one
place are joined in the same way. -/
def overlay (under : Entries String Json) : List (String × Json) → Entries String Json
  | [] => under
  | (key, v) :: rest => overlay (under.put key (overlayValue (under.find? key) v)) rest

/-- A value put over what is in its place. -/
def overlayValue (under : Option Json) : Json → Json
  | .object members =>
    match under with
    | some (.object inner) => .object (overlay inner members)
    | _ => .object members
  | v => v

end

namespace Environment

/-- Gives a variable a value. -/
def set (env : Environment) (name value : String) : Except VariableFault Environment :=
  if (name ++ value).toList.contains '\x00' then .error .zeroCharacter
  else if name.toList.contains '=' then .error .illegalName
  else if name = "" then .error .emptyName
  else .ok (Entries.put env name value)

/-- The variables that count, by their names as they are compared; of several with one name the last
counts. -/
def counted (env : Environment) (r : Reading) : Entries String Json :=
  let counting := env.filter fun e => !(r.ignoresEmpty && e.2 = "")
  Entries.ofPairs (counting.map fun e => (r.name e.1, r.value e.2))

/-- The value of the variable for a field of the settings. -/
def value? (env : Environment) (r : Reading) (field : String) : Option Json :=
  (r.variableName? field).bind fun name => (env.counted r).find? name

/-- The path into the profile that a variable's name gives. -/
def profilePath? (r : Reading) (name : String) : Option (List String) :=
  match r.variableName? "profile", r.delimiter? with
  | some profile, some delimiter =>
    let start := (profile ++ delimiter).toList
    if start.isPrefixOf name.toList then
      some (cutPath delimiter.toList r.cuts? [] 0 (name.toList.drop start.length))
    else none
  | _, _ => none

/-- The profile that the variables for single fields give. -/
def profileFields (env : Environment) (r : Reading) : Entries String Json :=
  (env.counted r).foldl (fun members e =>
    match profilePath? r e.1 with
    | some path => putPath path e.2 members
    | none => members) []

/-- The key of a field, for a key that differs from it in letter case only. -/
def fieldKey (key : String) : String :=
  match Field.all.find? fun f => f.key = Text.lower key with
  | some f => f.key
  | none => key

/-- The members with the keys of fields in their own letter case, unless the case counts. -/
def withFieldKeys (r : Reading) (members : Entries String Json) : Entries String Json :=
  if r.keepsCase then members else Entries.ofPairs (members.map fun m => (fieldKey m.1, m.2))

/-- What the environment gives for the profile, if anything. -/
def profile? (env : Environment) (r : Reading) : Except Unreadable (Option Json) :=
  match env.value? r "profile" with
  | none =>
    let fields := env.profileFields r
    .ok (if fields.isEmpty then none else some (.object (withFieldKeys r fields)))
  | some (.text s) =>
    match Json.read? s with
    | none => .error .profile
    | some .null => .ok none
    | some (.object members) =>
      .ok (some (.object (withFieldKeys r (overlay members (env.profileFields r)))))
    | some v => .ok (some v)
  | some v => .ok (some v)

/-- Whether the variable with the profile has a key that is no Unicode text. -/
def hasUnpairedKey (env : Environment) (r : Reading) : Bool :=
  match env.value? r "profile" with
  | some (.text s) => Json.hasUnpairedKey s
  | _ => false

end Environment

end TypeLowering
