import TypeLowering.Binary64.Shortest
import TypeLowering.Entries
import TypeLowering.Text.Quoted

/-!
# JSON values

A JSON value keeps the order of an object's members and tells whole numbers from fractions.
`Json.literal` is the form in which a value appears inside a message: `None`, `True`, `[1, 'a']`.
-/

namespace TypeLowering

/-- A JSON value. The members of an object stand in the order in which their keys first came. -/
inductive Json where
  | null
  | bool (value : Bool)
  | integer (value : Int)
  | fraction (value : Binary64)
  | text (value : String)
  | array (items : List Json)
  | object (members : List (String × Json))

namespace Json

/-- The name of a value's type, as messages give it. -/
def typeName : Json → String
  | .null => "NoneType"
  | .bool _ => "bool"
  | .integer _ => "int"
  | .fraction _ => "float"
  | .text _ => "str"
  | .array _ => "list"
  | .object _ => "dict"

mutual

/-- The form of a value inside a message. -/
def literal : Json → String
  | .null => "None"
  | .bool true => "True"
  | .bool false => "False"
  | .integer n => toString n
  | .fraction d => d.text
  | .text s => Text.quoted s
  | .array items => "[" ++ ", ".intercalate (literals items) ++ "]"
  | .object members => "\x7b" ++ ", ".intercalate (memberLiterals members) ++ "\x7d"

/-- The forms of the values of a list. -/
def literals : List Json → List String
  | [] => []
  | v :: rest => v.literal :: literals rest

/-- The forms of the members of an object. -/
def memberLiterals : List (String × Json) → List String
  | [] => []
  | (k, v) :: rest => (Text.quoted k ++ ": " ++ v.literal) :: memberLiterals rest

end

/-- The form of a value outside of other values: a text stands as it is. -/
def plain : Json → String
  | .text s => s
  | v => v.literal

/-- The whole number that a value equals in comparisons, if any: truth values equal one and zero. -/
def whole? : Json → Option Int
  | .bool b => some (if b then 1 else 0)
  | .integer n => some n
  | .fraction d => d.whole?
  | _ => none

/-- Whether two values without parts are equal as keys of a map. Numbers are compared by value, and
what is no number equals nothing. -/
def sameKey (a b : Json) : Bool :=
  match a, b with
  | .null, .null => true
  | .text s, .text t => s == t
  | a, b =>
    match a.whole?, b.whole?, a, b with
    | some m, some n, _, _ => m == n
    | none, none, .fraction d, .fraction d' => d == d' && d != .undefined
    | _, _, _, _ => false

/-- Whether two values are one and the same wherever they are met. Null, the truth values, the whole
numbers from -5 to 256 and the texts of at most one character below U+0100 exist only once. -/
def identical : Json → Json → Bool
  | .null, .null => true
  | .bool a, .bool b => a == b
  | .integer m, .integer n => m == n && -5 ≤ m && m ≤ 256
  | .text s, .text t => s == t && s.length ≤ 1 && s.toList.all fun c => c.toNat < 0x100
  | _, _ => false

theorem eq_of_identical {v w : Json} (h : v.identical w) : v = w := by
  cases v <;> cases w <;> simp_all [identical]

/-- Whether a value is null. -/
def isNull : Json → Bool
  | .null => true
  | _ => false

/-- Whether a value says something: it is neither null, false or zero nor an empty text, array or
object. -/
def isGiven : Json → Bool
  | .null => false
  | .bool b => b
  | .integer n => n ≠ 0
  | .fraction d => d.whole? ≠ some 0
  | .text s => s ≠ ""
  | .array items => !items.isEmpty
  | .object members => !members.isEmpty

end Json

end TypeLowering
