import TypeLowering.Entries
import TypeLowering.Invalid
import TypeLowering.Json
import TypeLowering.Profile
import TypeLowering.Text.Blank

/-!
# Profiles from named fields

The fields by which a profile is given from outside, and their validation. Blanks around a value do
not count. A name must not be blank; a blank namespace means that nothing needs to be imported.
Every refused field gives one row, and a profile is made only if no field is refused.
-/

namespace TypeLowering

/-- A field of a profile. -/
inductive Field where
  | name (s : Slot)
  | noneClass
  | namespaceOf (i : Import)
  deriving DecidableEq, Repr

namespace Field

/-- The key of a field. -/
def key : Field → String
  | .name .object => "object_name"
  | .name .string => "string_name"
  | .name .integer => "int_name"
  | .name .float => "float_name"
  | .name .boolean => "bool_name"
  | .name .dict => "dict_name"
  | .name .list => "list_name"
  | .name .set => "set_name"
  | .name .tuple => "tuple_name"
  | .name .function => "function_name"
  | .name .procedure => "procedure_name"
  | .noneClass => "none_class_name"
  | .namespaceOf .dict => "dict_namespace"
  | .namespaceOf .list => "list_namespace"
  | .namespaceOf .set => "set_namespace"
  | .namespaceOf .tuple => "tuple_namespace"
  | .namespaceOf .callable => "callable_namespace"

/-- All fields. -/
def all : List Field :=
  [.name .object, .name .string, .name .integer, .name .float, .name .boolean,
    .name .dict, .namespaceOf .dict, .name .list, .namespaceOf .list,
    .name .set, .namespaceOf .set, .name .tuple, .namespaceOf .tuple,
    .name .function, .name .procedure, .namespaceOf .callable, .noneClass]

/-- The field with a key. -/
def ofKey? (key : String) : Option Field :=
  all.find? fun f => f.key = key

theorem mem_all (f : Field) : f ∈ all := by
  rcases f with s | _ | i
  · cases s <;> decide
  · decide
  · cases i <;> decide

theorem ofKey?_key (f : Field) : ofKey? f.key = some f := by
  rcases f with s | _ | i
  · cases s <;> decide
  · decide
  · cases i <;> decide

end Field

namespace Profile

/-- The name that a value gives. -/
def readName : Json → Except Cause String
  | .text s => if Text.trim s = "" then .error .blankName else .ok (Text.trim s)
  | _ => .error .notText

/-- The namespace that a value gives; null and blank texts give none. -/
def readNamespace : Json → Except Cause (Option String)
  | .null => .ok none
  | .text s => .ok (if Text.trim s = "" then none else some (Text.trim s))
  | _ => .error .notText

/-- The cause for which a value is refused as that of a field. -/
def refusal? : Field → Json → Option Cause
  | .namespaceOf _, v =>
    match readNamespace v with
    | .error c => some c
    | .ok _ => none
  | _, v =>
    match readName v with
    | .error c => some c
    | .ok _ => none

/-- The row of a member, if it is refused. -/
def row? (member : String × Json) : Option Row :=
  match Field.ofKey? member.1 with
  | none => some ⟨[member.1], .unknownField⟩
  | some f => (refusal? f member.2).map fun c => ⟨[member.1], c⟩

/-- The name that a member gives, or the default. -/
def chooseName (members : Entries String Json) (f : Field) (default : String) : String :=
  match members.find? f.key with
  | none => default
  | some v => (readName v).toOption.getD default

/-- The namespace that a member gives, or the default. -/
def chooseNamespace (members : Entries String Json) (f : Field) (default : Option String) :
    Option String :=
  match members.find? f.key with
  | none => default
  | some v => (readNamespace v).toOption.getD default

/-- The profile with the given fields; fields that are not given have their defaults. -/
def ofMembers (members : Entries String Json) : Except (List Row) Profile :=
  let rows := members.filterMap row?
  if rows.isEmpty then
    let base : Profile := {}
    .ok (ofChoices (fun s => chooseName members (.name s) (base.name s))
      (chooseName members .noneClass base.noneClassName)
      (fun i => chooseNamespace members (.namespaceOf i) (base.namespaceOf i)))
  else .error rows

/-- The value of a field. -/
def value (p : Profile) : Field → Json
  | .name s => .text (p.name s)
  | .noneClass => .text p.noneClassName
  | .namespaceOf i =>
    match p.namespaceOf i with
    | none => .null
    | some name => .text name

/-- The fields with their values. -/
def members (p : Profile) : Entries String Json :=
  Field.all.map fun f => (f.key, p.value f)

end Profile

end TypeLowering
