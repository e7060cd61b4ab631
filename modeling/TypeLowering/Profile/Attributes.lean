import TypeLowering.Profile.Fields

/-!
# Attributes of a finished profile

The fields of a finished profile cannot be set, and neither can anything else by a name without a
leading underscore. Names with one are free: their values join those of the fields in the profile's
table. A few of them stand for what holds the profile together: the table itself, what is kept
besides it, what the profile's type is made from, and what dumps the profile. Setting those shows in
a dump or in a comparison, or is refused.
-/

namespace TypeLowering

/-- Why an attribute of a profile is refused. -/
inductive AttributeFault where
  /-- The profile cannot be changed. -/
  | frozen (name : String)
  | notWritable (name : String)
  | withoutSetter (name : String)
  /-- The table of fields is no object. -/
  | noTable (typeName : String)
  /-- The class is no class. -/
  | noClass (typeName : String)
  /-- The value that is to dump the profile cannot do so. -/
  | noDump (typeName : String)
  deriving DecidableEq, Repr

/-- A profile with its attributes. -/
structure Attributes where
  /-- The values that are held by name, those of the fields among them. -/
  table : Entries String Json
  /-- What was given beyond the fields. -/
  extra : Json := .null
  /-- What is kept out of sight. -/
  hidden : Json := .null

namespace Attributes

/-- A profile with the attributes of a new one. -/
def ofProfile (p : Profile) : Attributes where
  table := p.members

/-- Sets an attribute. -/
def set (a : Attributes) (name : String) (v : Json) : Except AttributeFault Attributes :=
  if name.toList.head? ≠ some '_' then .error (.frozen name)
  else if name = "__weakref__" then .error (.notWritable name)
  else if name = "__fields__" ∨ name = "__fields_set__" then .error (.withoutSetter name)
  else if name = "__class__" then .error (.noClass v.typeName)
  else if name = "__dict__" then
    match v with
    | .object members => .ok { a with table := members }
    | v => .error (.noTable v.typeName)
  else if name = "__pydantic_extra__" then .ok { a with extra := v }
  else if name = "__pydantic_private__" then .ok { a with hidden := v }
  else .ok { a with table := a.table.put name v }

/-- The fields with their values, in the order of the table. -/
def dump (a : Attributes) : Except AttributeFault (Entries String Json) :=
  match a.table.find? "__pydantic_serializer__" with
  | none => .ok (a.table.filter fun m => (Field.ofKey? m.1).isSome)
  | some v => .error (.noDump v.typeName)

/-- What the type of the profile is made from, where that has been set. -/
def origin (a : Attributes) : Json :=
  match a.table.find? "__pydantic_generic_metadata__" with
  | some (.object members) => (Entries.find? members "origin").getD .null
  | _ => .null

/-- Whether a profile with attributes equals another without. It has the same fields, nothing beyond
them that says something, and nothing at all out of sight. -/
def equals (a : Attributes) (p : Profile) : Bool :=
  !a.origin.isGiven && !a.extra.isGiven && a.hidden.isNull &&
    Field.all.all fun f => (a.table.find? f.key).any fun v => v.sameKey (p.value f)

end Attributes

end TypeLowering
