import TypeLowering.Settings.Environment
import TypeLowering.Logging

/-!
# Settings

Settings are read from explicit fields, the environment and defaults, in this order of precedence.
Explicit and environmental profiles are joined field by field. Settings are made only if no value
that counts is refused; every refused value gives one row.
-/

namespace TypeLowering

/-- What can be configured. -/
structure Settings where
  logLevel : Level := .info
  jsonLogs : Bool := false
  profile : Profile := {}
  deriving DecidableEq, Repr

/-- Why settings cannot be made. -/
inductive SettingsFault where
  | unreadable (cause : Unreadable)
  | refused (rows : List Row)
  deriving DecidableEq, Repr

namespace Settings

/-- The level that a value gives, in any letter case and between blanks. -/
def readLevel : Json → Except Cause Level
  | .text s =>
    match Level.ofName? (Text.upper (Text.trim s)) with
    | some l => .ok l
    | none => .error (.unknownLevel s)
  | _ => .error .notText

/-- The words for yes and no. -/
def flagOfWord? (word : String) : Option Bool :=
  if word ∈ ["1", "t", "true", "y", "yes", "on"] then some true
  else if word ∈ ["0", "f", "false", "n", "no", "off"] then some false
  else none

/-- The least whole number beyond a signed word of 64 bits. Its negative is the least of the word. -/
def wordBound : Int := Nat.pow 2 63

/-- The flag that a whole number gives. Only one and zero give one; of the others, those that a
signed word of 64 bits holds are meant as a flag. -/
def flagOfWhole (n : Int) : Except Cause Bool :=
  if n = 1 then .ok true
  else if n = 0 then .ok false
  else if -wordBound ≤ n ∧ n < wordBound then .error .unreadableFlag
  else .error .notFlag

/-- The flag that a value gives. Words count in any letter case, but only without blanks. A fraction
counts as the whole number that it equals, except for the least of a word. -/
def readFlag : Json → Except Cause Bool
  | .bool b => .ok b
  | .integer n => flagOfWhole n
  | .fraction d =>
    match d.whole? with
    | some n => if n = -wordBound then .error .notFlag else flagOfWhole n
    | none => .error .notFlag
  | .text s =>
    match flagOfWord? (String.ofList (s.toList.map Char.toLower)) with
    | some b => .ok b
    | none => .error .unreadableFlag
  | _ => .error .notFlag

/-- The rows of a result. -/
def rowsAt {α : Type} (field : String) : Except Cause α → List Row
  | .ok _ => []
  | .error c => [⟨[field], c⟩]

/-- The profile that a value gives. Where a key is no Unicode text, nothing else is reported. -/
def readProfile (hasUnpairedKey : Bool) : Json → Except (List Row) Profile
  | .object members =>
    if hasUnpairedKey then .error [⟨["profile"], .notUnicode⟩]
    else
      match Profile.ofMembers members with
      | .ok p => .ok p
      | .error rows => .error (rows.map (Row.within "profile"))
  | _ => .error [⟨["profile"], .notProfile⟩]

/-- The settings with the given values; values that are not given have their defaults. A key of the
profile may be no Unicode text. -/
def ofValues (logLevel? jsonLogs? profile? : Option Json) (hasUnpairedKey : Bool) :
    Except (List Row) Settings :=
  let base : Settings := {}
  let level := (logLevel?.map readLevel).getD (.ok base.logLevel)
  let flag := (jsonLogs?.map readFlag).getD (.ok base.jsonLogs)
  let profile := (profile?.map (readProfile hasUnpairedKey)).getD (.ok base.profile)
  match level, flag, profile with
  | .ok l, .ok f, .ok p => .ok ⟨l, f, p⟩
  | _, _, _ =>
    .error (rowsAt "log_level" level ++ rowsAt "json_logs" flag ++
      match profile with
      | .ok _ => []
      | .error rows => rows)

/-- The value given outright for a field. The field's name may be in any letter case, and the first
of several values counts. -/
def given? (explicit : Entries String Json) (field : String) : Option Json :=
  (List.find? (fun e => Text.lower e.1 = field) explicit).map Prod.snd

/-- The settings that explicit fields and the environment give together, where `under` is the
environment's profile. A field is taken from the first that has it, and the profiles are joined. -/
def join (explicit : Entries String Json) (env : Environment) (reading : Reading)
    (under : Option Json) : Except (List Row) Settings :=
  let value? (field : String) : Option Json :=
    (given? explicit field).or (env.value? reading field)
  let profile? :=
    match given? explicit "profile" with
    | some v => some (overlayValue under v)
    | none => under
  ofValues (value? "log_level") (value? "json_logs") profile? (env.hasUnpairedKey reading)

/-- The settings that explicit fields and the environment give. Other explicit fields do not count,
apart from those that say how the environment is read. -/
def make (explicit : Entries String Json) (env : Environment) : Except SettingsFault Settings :=
  let reading := Reading.ofFields explicit
  if reading.start?.isNone then .error (.unreadable .name)
  else
    match env.profile? reading, reading.misfit? with
    | .error u, _ => .error (.unreadable u)
    | .ok _, some typeName => .error (.unreadable (.start typeName))
    | .ok under, none => (join explicit env reading under).mapError SettingsFault.refused

end Settings

end TypeLowering
