import TypeLowering.Json.Token

/-!
# Reading JSON text

The reader takes one token at a time. Its state says what may come next, and holds the arrays and
objects that are open around it, innermost first. Of two members with one key the later value
counts, in the place of the earlier one.

A text may hold 16-bit units that are no half of a character. The value has the replacement
character in their places, and `Json.hasUnpairedKey` says whether a key of the outermost object held
such a unit.
-/

namespace TypeLowering

namespace Json

/-- An array or object that is not closed yet; the items of an array stand last first. -/
inductive Frame where
  | array (items : List Json)
  | member (members : Entries String Json) (key : String)

/-- What the reader expects, inside the open frames. -/
inductive Reading where
  /-- A value. -/
  | value (frames : List Frame)
  /-- The first item of an array, or its end. -/
  | firstItem (frames : List Frame)
  /-- The first key of an object, or its end. -/
  | firstKey (frames : List Frame)
  /-- The next key of an object. -/
  | key (members : Entries String Json) (frames : List Frame)
  /-- The colon after a key. -/
  | colon (members : Entries String Json) (key : String) (frames : List Frame)
  /-- What follows a complete value. -/
  | after (value : Json) (frames : List Frame)

/-- The text of characters, with the replacement character for units that stand alone. -/
def textOf (cs : List (Option Char)) : String :=
  String.ofList (cs.map fun c => c.getD '\ufffd')

/-- Takes a token where a value may begin. -/
def Reading.begin (frames : List Frame) : Token → Option Reading
  | .word v => some (.after v frames)
  | .text cs => some (.after (.text (textOf cs)) frames)
  | .openArray => some (.firstItem frames)
  | .openObject => some (.firstKey frames)
  | _ => none

/-- Takes a token where a key may stand. -/
def Reading.beginKey (members : Entries String Json) (frames : List Frame) :
    Token → Option Reading
  | .text cs => some (.colon members (textOf cs) frames)
  | _ => none

/-- Takes a token after a complete value. -/
def Reading.next (value : Json) : List Frame → Token → Option Reading
  | .array items :: frames, .comma => some (.value (.array (value :: items) :: frames))
  | .array items :: frames, .closeArray => some (.after (.array (value :: items).reverse) frames)
  | .member members k :: frames, .comma => some (.key (members.put k value) frames)
  | .member members k :: frames, .closeObject =>
    some (.after (.object (members.put k value)) frames)
  | _, _ => none

/-- Takes one token. -/
def Reading.step : Reading → Token → Option Reading
  | .value frames, t => begin frames t
  | .firstItem frames, .closeArray => some (.after (.array []) frames)
  | .firstItem frames, t => begin (.array [] :: frames) t
  | .firstKey frames, .closeObject => some (.after (.object []) frames)
  | .firstKey frames, t => beginKey [] frames t
  | .key members frames, t => beginKey members frames t
  | .colon members k frames, .colon => some (.value (.member members k :: frames))
  | .colon _ _ _, _ => none
  | .after v frames, t => next v frames t

/-- The value that a text writes. -/
def read? (s : String) : Option Json :=
  ((tokens? s.toList).bind fun ts => ts.foldlM Reading.step (.value [])).bind fun
    | .after v [] => some v
    | _ => none

/-- Whether tokens inside the given number of arrays and objects hold a key of the outermost object
with a unit that stands alone. -/
def holdUnpairedKey : Nat → List Token → Bool
  | _, [] => false
  | depth, .openObject :: rest | depth, .openArray :: rest => holdUnpairedKey (depth + 1) rest
  | depth, .closeObject :: rest | depth, .closeArray :: rest => holdUnpairedKey (depth - 1) rest
  | depth, .text cs :: .colon :: rest =>
    depth == 1 && cs.contains none || holdUnpairedKey depth rest
  | depth, _ :: rest => holdUnpairedKey depth rest

/-- Whether a text writes an object with a key that holds a unit that stands alone. -/
def hasUnpairedKey (s : String) : Bool :=
  (tokens? s.toList).any (holdUnpairedKey 0)

end Json

end TypeLowering
