/-!
# Profiles of the target language

A profile gives the names under which the target language has its types, and the namespaces that
have to be imported for its generic types. The names are addressed by `Slot` and the namespaces by
`Import`; `Slot.import?` says which slots need one.
-/

namespace TypeLowering

/-- The places of a reference that a profile fills with a name. -/
inductive Slot where
  /-- The opaque type that stands for whatever has no better reference. -/
  | object
  | string
  | integer
  | float
  | boolean
  | dict
  | list
  | set
  | tuple
  /-- A callable with a result. -/
  | function
  /-- A callable without a result. -/
  | procedure
  deriving DecidableEq, Repr

/-- The namespaces that a profile gives. -/
inductive Import where
  | dict
  | list
  | set
  | tuple
  | callable
  deriving DecidableEq, Repr

/-- The namespace that a slot needs imported. -/
def Slot.import? : Slot → Option Import
  | .dict => some .dict
  | .list => some .list
  | .set => some .set
  | .tuple => some .tuple
  | .function => some .callable
  | .procedure => some .callable
  | _ => none

/-- Names and namespaces of the target language's types. -/
structure Profile where
  objectName : String := "object"
  stringName : String := "string"
  integerName : String := "int"
  floatName : String := "float"
  booleanName : String := "bool"
  dictName : String := "Dictionary"
  dictNamespace : Option String := some "System.Collections.Generic"
  listName : String := "List"
  listNamespace : Option String := some "System.Collections.Generic"
  setName : String := "Set"
  setNamespace : Option String := some "System.Collections.Generic"
  tupleName : String := "Tuple"
  tupleNamespace : Option String := some "System"
  functionName : String := "Func"
  procedureName : String := "Action"
  callableNamespace : Option String := some "System"
  /-- The class whose instance marks that a callable has no result. -/
  noneClassName : String := "None"
  deriving DecidableEq, Repr

namespace Profile

/-- The name that fills a slot. -/
def name (p : Profile) : Slot → String
  | .object => p.objectName
  | .string => p.stringName
  | .integer => p.integerName
  | .float => p.floatName
  | .boolean => p.booleanName
  | .dict => p.dictName
  | .list => p.listName
  | .set => p.setName
  | .tuple => p.tupleName
  | .function => p.functionName
  | .procedure => p.procedureName

/-- The namespace of an import; absent when the types are in scope anyway. -/
def namespaceOf (p : Profile) : Import → Option String
  | .dict => p.dictNamespace
  | .list => p.listNamespace
  | .set => p.setNamespace
  | .tuple => p.tupleNamespace
  | .callable => p.callableNamespace

/-- The namespace that has to be imported for the type of a slot. -/
def required (p : Profile) (s : Slot) : Option String :=
  s.import?.bind p.namespaceOf

/-- The profile with the given names and namespaces. -/
def ofChoices (name : Slot → String) (noneClassName : String)
    (namespaceOf : Import → Option String) : Profile where
  objectName := name .object
  stringName := name .string
  integerName := name .integer
  floatName := name .float
  booleanName := name .boolean
  dictName := name .dict
  dictNamespace := namespaceOf .dict
  listName := name .list
  listNamespace := namespaceOf .list
  setName := name .set
  setNamespace := namespaceOf .set
  tupleName := name .tuple
  tupleNamespace := namespaceOf .tuple
  functionName := name .function
  procedureName := name .procedure
  callableNamespace := namespaceOf .callable
  noneClassName := noneClassName

@[simp]
theorem name_ofChoices (name : Slot → String) (noneClassName : String)
    (namespaceOf : Import → Option String) (s : Slot) :
    (ofChoices name noneClassName namespaceOf).name s = name s := by
  cases s <;> rfl

@[simp]
theorem namespaceOf_ofChoices (name : Slot → String) (noneClassName : String)
    (namespaceOf : Import → Option String) (i : Import) :
    (ofChoices name noneClassName namespaceOf).namespaceOf i = namespaceOf i := by
  cases i <;> rfl

theorem ofChoices_self (p : Profile) : ofChoices p.name p.noneClassName p.namespaceOf = p := rfl

end Profile

end TypeLowering
