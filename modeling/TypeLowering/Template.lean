import TypeLowering.Binary64.Places

/-!
# Templates

A template is a text with places for values. A place begins with a percent sign and ends with the
letter that says how the value is written. Between them may stand, in this order, a key in brackets,
flags, a width, a precision behind a point, and a letter for the size of the value, which says
nothing. Two percent signs in a row are one that is meant as such. `Template.pieces` reads a
template up to the first place that cannot be read.
-/

namespace TypeLowering

/-- Why a template cannot be filled in. -/
inductive TemplateFault where
  /-- The bracket around a key is not closed. -/
  | openKey
  /-- The text ends inside a place. -/
  | incomplete
  | hugeWidth
  | hugePrecision
  /-- No value is written by the letter, which stands at the given index. -/
  | unknownLetter (letter : Char) (index : Nat)
  /-- What is no number has no whole part. -/
  | undefinedWhole
  | infiniteWhole
  /-- A whole number is beyond all fractions. -/
  | hugeWhole
  /-- No character has the code. -/
  | noCharacter
  /-- A value of the named type cannot be written by the letter. -/
  | unfit (letter : Char) (typeName : String)
  /-- A width or precision is to be taken from a value that is no whole number. -/
  | unfitMeasure
  | tooFewValues
  | tooManyValues
  /-- Keys are looked up in a text. -/
  | keyOfText
  /-- Keys are looked up in a list. -/
  | keyOfList
  | missingKey (key : String)
  /-- The values are neither a text nor a list nor an object. -/
  | noValues (typeName : String)
  deriving DecidableEq, Repr

namespace TemplateFault

/-- The name of a fault's class. -/
def className : TemplateFault → String
  | .openKey | .incomplete | .hugeWidth | .hugePrecision | .unknownLetter _ _
  | .undefinedWhole => "ValueError"
  | .infiniteWhole | .hugeWhole | .noCharacter => "OverflowError"
  | .missingKey _ => "KeyError"
  | _ => "TypeError"

/-- A character as a message shows it. -/
def shownLetter (c : Char) : Char :=
  if 31 ≤ c.toNat ∧ c.toNat ≤ 126 then c else '?'

/-- The message of a fault. -/
def message : TemplateFault → String
  | .openKey => "incomplete format key"
  | .incomplete => "incomplete format"
  | .hugeWidth => "width too big"
  | .hugePrecision => "precision too big"
  | .unknownLetter c index =>
    "unsupported format character '" ++ String.ofList [shownLetter c] ++ "' (0x" ++
      String.ofList (Nat.toDigits 16 c.toNat) ++ ") at index " ++ toString index
  | .undefinedWhole => "cannot convert float NaN to integer"
  | .infiniteWhole => "cannot convert float infinity to integer"
  | .hugeWhole => "int too large to convert to float"
  | .noCharacter => "%c arg not in range(0x110000)"
  | .unfit c typeName =>
    if c = 'c' then "%c requires int or char"
    else if c ∈ ['o', 'x', 'X'] then
      "%" ++ String.ofList [c] ++ " format: an integer is required, not " ++ typeName
    else if c ∈ ['d', 'i', 'u'] then
      "%" ++ String.ofList [c] ++ " format: a real number is required, not " ++ typeName
    else "must be real number, not " ++ typeName
  | .unfitMeasure => "* wants int"
  | .tooFewValues => "not enough arguments for format string"
  | .tooManyValues => "not all arguments converted during string formatting"
  | .keyOfText => "format requires a mapping"
  | .keyOfList => "list indices must be integers or slices, not str"
  | .missingKey key => key
  | .noValues typeName => "object of type '" ++ typeName ++ "' has no len()"

end TemplateFault

/-- How a value is written. -/
inductive Conversion where
  /-- A text as it is, another value in its form inside messages. -/
  | plain
  /-- The form inside messages. -/
  | quoted
  /-- The form inside messages, with escapes for all characters beyond the first 128. -/
  | escaped
  | character
  | decimal
  | octal
  | hexadecimal (isUpper : Bool)
  | fraction (digits : Digits) (isUpper : Bool)
  deriving DecidableEq, Repr

/-- The conversion with a letter. -/
def Conversion.ofLetter? (letter : Char) : Option Conversion :=
  match letter with
  | 's' => some .plain
  | 'r' => some .quoted
  | 'a' => some .escaped
  | 'c' => some .character
  | 'd' | 'i' | 'u' => some .decimal
  | 'o' => some .octal
  | 'x' => some (.hexadecimal false)
  | 'X' => some (.hexadecimal true)
  | 'f' => some (.fraction .fixed false)
  | 'F' => some (.fraction .fixed true)
  | 'e' => some (.fraction .scientific false)
  | 'E' => some (.fraction .scientific true)
  | 'g' => some (.fraction .general false)
  | 'G' => some (.fraction .general true)
  | _ => none

/-- What is asked for besides the conversion. -/
structure Flags where
  /-- The value stands at the left end of its width. -/
  leftmost : Bool
  /-- Numbers that are not negative have a plus sign. -/
  plus : Bool
  /-- Numbers that are not negative have a blank where others have their sign. -/
  blank : Bool
  /-- The base is marked, and the point of a fraction is kept. -/
  marked : Bool
  /-- Numbers are filled up with zeros. -/
  zeros : Bool
  deriving DecidableEq, Repr

/-- A width or a precision. -/
inductive Measure where
  | absent
  | given (n : Nat)
  /-- To be taken from the values. -/
  | taken
  deriving DecidableEq, Repr

/-- A place for a value. -/
structure Place where
  key? : Option String
  flags : Flags
  width : Measure
  precision : Measure
  letter : Char
  conversion : Conversion
  deriving DecidableEq, Repr

/-- A piece of a template. -/
inductive Piece where
  | char (c : Char)
  | place (p : Place)
  /-- A place that cannot be read ends the template. -/
  | broken (fault : TemplateFault)
  deriving DecidableEq, Repr

namespace Template

/-- Cuts a key off behind its opening bracket, while `inner` brackets are open inside it. -/
def cutKey? (inner : Nat) : List Char → Option (List Char × List Char)
  | [] => none
  | c :: rest =>
    if c = ')' ∧ inner = 0 then some ([], rest)
    else
      let inner := if c = '(' then inner + 1 else if c = ')' then inner - 1 else inner
      (cutKey? inner rest).map fun cut => (c :: cut.1, cut.2)

/-- The flags that stand in a text. -/
def flagsOf (cs : List Char) : Flags :=
  ⟨cs.contains '-', cs.contains '+', cs.contains ' ', cs.contains '#', cs.contains '0'⟩

/-- Whether a character is a flag. -/
def isFlag (c : Char) : Bool :=
  c ∈ ['-', '+', ' ', '#', '0']

/-- The number that decimal digits write. -/
def numberOf (ds : List Char) : Nat :=
  ds.foldl (fun n d => 10 * n + (d.toNat - '0'.toNat)) 0

/-- The greatest width. -/
def maxWidth : Nat := Nat.pow 2 63 - 1

/-- The greatest precision. -/
def maxPrecision : Nat := Nat.pow 2 31 - 1

/-- Cuts a measure off. -/
def cutMeasure (greatest : Nat) (huge : TemplateFault) (cs : List Char) :
    Except TemplateFault (Measure × List Char) :=
  match cs with
  | '*' :: rest => .ok (.taken, rest)
  | _ =>
    let ds := cs.takeWhile Char.isDigit
    if ds.isEmpty then .ok (.absent, cs)
    else if greatest < numberOf ds then .error huge
    else .ok (.given (numberOf ds), cs.dropWhile Char.isDigit)

/-- Cuts a precision off. The point alone says that it is zero. -/
def cutPrecision : List Char → Except TemplateFault (Measure × List Char)
  | '.' :: rest => do
    let cut ← cutMeasure maxPrecision .hugePrecision rest
    return (if cut.1 = .absent then .given 0 else cut.1, cut.2)
  | cs => .ok (.absent, cs)

/-- Leaves out a letter for the size of a value. -/
def dropSize : List Char → List Char
  | c :: rest => if c ∈ ['h', 'l', 'L'] then rest else c :: rest
  | [] => []

/-- Reads a place behind its percent sign in a template of the given size, and what follows it. -/
def readPlace (size : Nat) (cs : List Char) : Except TemplateFault (Place × List Char) := do
  let keyed ←
    match cs with
    | '(' :: rest =>
      match cutKey? 0 rest with
      | none => .error .openKey
      | some cut => .ok (some (String.ofList cut.1), cut.2)
    | _ => .ok (none, cs)
  let flags := flagsOf (keyed.2.takeWhile isFlag)
  let width ← cutMeasure maxWidth .hugeWidth (keyed.2.dropWhile isFlag)
  let precision ← cutPrecision width.2
  match dropSize precision.2 with
  | [] => .error .incomplete
  | letter :: rest =>
    match Conversion.ofLetter? letter with
    | none => .error (.unknownLetter letter (size - rest.length - 1))
    | some conversion =>
      return (⟨keyed.1, flags, width.1, precision.1, letter, conversion⟩, rest)

/-- The pieces of a template of the given size, after the first `skipped` characters. -/
def piecesFrom (size : Nat) : Nat → List Char → List Piece
  | _, [] => []
  | skipped + 1, _ :: rest => piecesFrom size skipped rest
  | 0, '%' :: '%' :: rest => .char '%' :: piecesFrom size 0 rest
  | 0, '%' :: rest =>
    match readPlace size rest with
    | .error f => [.broken f]
    | .ok (p, behind) => .place p :: piecesFrom size (rest.length - behind.length) rest
  | 0, c :: rest => .char c :: piecesFrom size 0 rest

/-- The pieces of a template. -/
def pieces (s : String) : List Piece :=
  piecesFrom s.length 0 s.toList

end Template

end TypeLowering
