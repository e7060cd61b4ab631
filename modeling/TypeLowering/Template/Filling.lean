import TypeLowering.Json
import TypeLowering.Template

/-!
# Filling in templates

`Template.fill` puts values into the places of a template. A place with a key takes the member of an
object; the first place without a key takes all the values as one, and there is none left for a
second. A text that is given has to be used.
-/

namespace TypeLowering

/-- What stands in a place before it is brought to its width. -/
structure Filling where
  sign : List Char := []
  /-- The mark of a base. -/
  mark : List Char := []
  body : List Char
  isNumber : Bool := false
  deriving DecidableEq, Repr

namespace Filling

/-- The text of a filling that is brought to a width. Zeros stand behind the sign and the mark, and
only in front of numbers. -/
def padded (f : Filling) (flags : Flags) (width : Nat) : List Char :=
  let front := f.sign ++ f.mark
  let missing := width - (front.length + f.body.length)
  if flags.leftmost then front ++ f.body ++ List.replicate missing ' '
  else if flags.zeros && f.isNumber then front ++ List.replicate missing '0' ++ f.body
  else List.replicate missing ' ' ++ front ++ f.body

/-- The sign of a number. -/
def signOf (flags : Flags) (isNegative : Bool) : List Char :=
  if isNegative then ['-'] else if flags.plus then ['+'] else if flags.blank then [' '] else []

/-- A text, of which no more characters than the precision are kept. -/
def ofText (precision? : Option Nat) (s : String) : Filling where
  body :=
    match precision? with
    | none => s.toList
    | some n => s.toList.take n

/-- A whole number in a base; the precision is the least number of digits. -/
def ofWhole (flags : Flags) (precision? : Option Nat) (base : Nat) (mark : List Char) (n : Int) :
    Filling where
  sign := signOf flags (n < 0)
  mark := if flags.marked then mark else []
  body :=
    let ds := Nat.toDigits base n.natAbs
    List.replicate (precision?.getD 0 - ds.length) '0' ++ ds
  isNumber := true

/-- A fraction, with six places unless others are asked for. -/
def ofFraction (flags : Flags) (precision? : Option Nat) (digits : Digits) (d : Binary64) :
    Filling where
  sign := signOf flags d.isNegative
  body := d.laidOut digits (precision?.getD 6) flags.marked
  isNumber := true

/-- The filling in capital letters. -/
def inCapitals (isUpper : Bool) (f : Filling) : Filling :=
  if isUpper then { f with mark := f.mark.map Char.toUpper, body := f.body.map Char.toUpper } else f

end Filling

namespace Template

/-- A text with escapes for all characters beyond the first 128. -/
def escaped (s : String) : String :=
  String.ofList (s.toList.flatMap fun c => if c.toNat < 0x80 then [c] else Text.escapeCode c)

/-- A value as a whole number, if it is one by its kind. -/
def integer? : Json → Option Int
  | .bool b => some (if b then 1 else 0)
  | .integer n => some n
  | _ => none

/-- The whole number that a value is written as; the part of a fraction behind the point is left
out. -/
def whole (letter : Char) (v : Json) : Except TemplateFault Int :=
  match integer? v, v with
  | some n, _ => .ok n
  | none, .fraction .undefined => .error .undefinedWhole
  | none, .fraction d =>
    match d.truncated? with
    | some n => .ok n
    | none => .error .infiniteWhole
  | none, v => .error (.unfit letter v.typeName)

/-- The fraction that a value is written as. -/
def fraction (letter : Char) (v : Json) : Except TemplateFault Binary64 :=
  match integer? v, v with
  | some n, _ =>
    match Binary64.ofWhole n with
    | .infinite _ => .error .hugeWhole
    | d => .ok d
  | none, .fraction d => .ok d
  | none, v => .error (.unfit letter v.typeName)

/-- The character that a value is written as. -/
def character (letter : Char) (v : Json) : Except TemplateFault Char :=
  match integer? v, v with
  | some n, _ =>
    if n < 0 ∨ 0x110000 ≤ n then .error .noCharacter
    else if Nat.isValidChar n.toNat then .ok (Char.ofNat n.toNat)
    else .ok '\ufffd'
  | none, .text s =>
    match s.toList with
    | [c] => .ok c
    | _ => .error (.unfit letter v.typeName)
  | none, v => .error (.unfit letter v.typeName)

/-- What a value fills a place with. -/
def filling (p : Place) (precision? : Option Nat) (v : Json) : Except TemplateFault Filling :=
  match p.conversion with
  | .plain => .ok (.ofText precision? v.plain)
  | .quoted => .ok (.ofText precision? v.literal)
  | .escaped => .ok (.ofText precision? (escaped v.literal))
  | .character => return { body := [← character p.letter v] }
  | .decimal => return .ofWhole p.flags precision? 10 [] (← whole p.letter v)
  | .octal => based 8 ['0', 'o']
  | .hexadecimal isUpper => return (← based 16 ['0', 'x']).inCapitals isUpper
  | .fraction digits isUpper =>
    return (Filling.ofFraction p.flags precision? digits (← fraction p.letter v)).inCapitals isUpper
where
  /-- A whole number in another base than ten. -/
  based (base : Nat) (mark : List Char) : Except TemplateFault Filling :=
    match integer? v with
    | some n => .ok (.ofWhole p.flags precision? base mark n)
    | none => .error (.unfit p.letter v.typeName)

/-- The value with a key. -/
def lookUp (values : Json) (key : String) : Except TemplateFault Json :=
  match values with
  | .object members =>
    match Entries.find? members key with
    | some v => .ok v
    | none => .error (.missingKey (Text.quoted key))
  | .array _ => .error .keyOfList
  | _ => .error .keyOfText

/-- The number that a measure says, if there is one, with the value at hand. A measure that is to be
taken from the values leaves none to write. -/
def number? (value? : Option Json) : Measure → Except TemplateFault (Option Nat)
  | .absent => .ok none
  | .given n => .ok (some n)
  | .taken =>
    match value? with
    | some v => .error (if (integer? v).isSome then .tooFewValues else .unfitMeasure)
    | none => .error .tooFewValues

/-- The text that a place is filled with; `next?` is the value for a place without a key. -/
def fillPlace (values : Json) (next? : Option Json) (p : Place) :
    Except TemplateFault (List Char) := do
  let value? ←
    match p.key? with
    | some key => (lookUp values key).map some
    | none => .ok next?
  let width? ← number? value? p.width
  let precision? ← number? value? p.precision
  match value? with
  | none => .error .tooFewValues
  | some v => return (← filling p precision? v).padded p.flags (width?.getD 0)

/-- The text of pieces that are filled in; `next?` is the value for the next place without a key. -/
def fillPieces (values : Json) (next? : Option Json) :
    List Piece → Except TemplateFault (List Char)
  | [] =>
    match values, next? with
    | .text _, some _ => .error .tooManyValues
    | _, _ => .ok []
  | .char c :: rest => (fillPieces values next? rest).map (c :: ·)
  | .broken f :: _ => .error f
  | .place p :: rest => do
    let filled ← fillPlace values next? p
    return filled ++ (← fillPieces values none rest)

/-- The text of a template that is filled in with a text, a list or an object. A list of nothing but
an object that is not empty stands for the object. -/
def fill (s : String) (values : Json) : Except TemplateFault String :=
  match values with
  | .array [.object (m :: rest)] => text (.object (m :: rest))
  | .object [_] => .error (.missingKey "0")
  | .text _ | .array _ | .object _ => text values
  | v => .error (.noValues v.typeName)
where
  /-- The text with the values in their final form. -/
  text (values : Json) : Except TemplateFault String :=
    (fillPieces values (some values) (pieces s)).map String.ofList

end Template

end TypeLowering
