import TypeLowering.Json

/-!
# Tokens of JSON text

A text is cut into marks, texts and words. A word is a longest run of characters that neither are
blank nor begin another token; `Json.ofWord?` says which words are numbers and constants. The
scanner takes one character at a time, and its state is what it has seen of the open token.
-/

namespace TypeLowering

namespace Json

/-- A piece of JSON text. -/
inductive Token where
  | openObject
  | closeObject
  | openArray
  | closeArray
  | comma
  | colon
  /-- A text; `none` stands for a 16-bit unit that is no half of a character. -/
  | text (cs : List (Option Char))
  | word (value : Json)

/-- A character of a text, or a 16-bit unit that was given by its code. -/
inductive Piece where
  | char (c : Char)
  | unit (n : Nat)

/-- The characters of a text. A high unit and the low unit after it are one character, and a unit
that stands alone is none. -/
def joinPieces : List Piece → List (Option Char)
  | [] => []
  | .char c :: rest => some c :: joinPieces rest
  | .unit n :: rest =>
    if 0xd800 ≤ n ∧ n < 0xdc00 then
      match rest with
      | .unit m :: rest' =>
        if 0xdc00 ≤ m ∧ m < 0xe000 then
          some (Char.ofNat (0x10000 + (n - 0xd800) * 0x400 + (m - 0xdc00))) :: joinPieces rest'
        else none :: joinPieces (.unit m :: rest')
      | rest' => none :: joinPieces rest'
    else if 0xdc00 ≤ n ∧ n < 0xe000 then none :: joinPieces rest
    else some (Char.ofNat n) :: joinPieces rest

/-- The number that a run of decimal digits writes. -/
def digitsValue (ds : List Char) : Nat :=
  ds.foldl (fun n d => 10 * n + (d.toNat - '0'.toNat)) 0

/-- Whole numbers have at most this many digits. -/
def maxIntegerDigits : Nat := 4300

/-- The exponent part of a number: nothing, or a mark, an optional sign and digits. -/
def exponentOf? : List Char → Option (Option Int)
  | [] => some none
  | mark :: rest =>
    if mark = 'e' ∨ mark = 'E' then
      let signed : Bool × List Char :=
        match rest with
        | '-' :: ds => (true, ds)
        | '+' :: ds => (false, ds)
        | ds => (false, ds)
      let n : Int := digitsValue signed.2
      if signed.2.isEmpty || !signed.2.all Char.isDigit then none
      else some (some (if signed.1 then -n else n))
    else none

/-- The number that a word writes. Digits before the point are needed, and so are digits after it
if there is a point; a zero is not followed by another digit before the point. -/
def numberOfWord? (word : List Char) : Option Json :=
  let isNegative := word.head? = some '-'
  let body := if isNegative then word.tail else word
  let whole := body.takeWhile Char.isDigit
  let rest := body.dropWhile Char.isDigit
  if whole.isEmpty || (whole.head? = some '0' && 1 < whole.length) then none
  else
    let fraction : Option (List Char) × List Char :=
      match rest with
      | '.' :: cs => (some (cs.takeWhile Char.isDigit), cs.dropWhile Char.isDigit)
      | cs => (none, cs)
    match fraction.1, exponentOf? fraction.2 with
    | _, none => none
    | none, some none =>
      if maxIntegerDigits < whole.length then none
      else
        let n : Int := digitsValue whole
        some (.integer (if isNegative then -n else n))
    | none, some (some e) => some (.fraction (.ofDigits isNegative (digitsValue whole) e))
    | some ds, some e =>
      if ds.isEmpty then none
      else
        some (.fraction (.ofDigits isNegative (digitsValue (whole ++ ds))
          (e.getD 0 - ds.length)))

/-- The value of a word. -/
def ofWord? (word : List Char) : Option Json :=
  if word = "null".toList then some .null
  else if word = "true".toList then some (.bool true)
  else if word = "false".toList then some (.bool false)
  else if word = "NaN".toList then some (.fraction .undefined)
  else if word = "Infinity".toList then some (.fraction (.infinite false))
  else if word = "-Infinity".toList then some (.fraction (.infinite true))
  else numberOfWord? word

/-- What the scanner has seen of the token that is open; characters and pieces stand last first. -/
inductive Open where
  | nothing
  | word (seen : List Char)
  | text (seen : List Piece)
  | escape (seen : List Piece)
  | code (seen : List Piece) (digits value : Nat)

/-- The scanner's state: the open token, and the finished tokens last first. -/
structure Scan where
  current : Open := .nothing
  done : List Token := []

/-- The token that a mark is. -/
def mark? (c : Char) : Option Token :=
  if c = '\x7b' then some .openObject
  else if c = '\x7d' then some .closeObject
  else if c = '[' then some .openArray
  else if c = ']' then some .closeArray
  else if c = ',' then some .comma
  else if c = ':' then some .colon
  else none

/-- Whether a character may stand between tokens. -/
def isGap (c : Char) : Bool :=
  c = ' ' || c = '\t' || c = '\n' || c = '\r'

/-- Takes a character while no token is open. -/
def Scan.start (done : List Token) (c : Char) : Scan :=
  if isGap c then ⟨.nothing, done⟩
  else if c = '"' then ⟨.text [], done⟩
  else
    match mark? c with
    | some t => ⟨.nothing, t :: done⟩
    | none => ⟨.word [c], done⟩

/-- The character that a short escape stands for. -/
def shortEscape? (c : Char) : Option Char :=
  if c = '"' ∨ c = '\\' ∨ c = '/' then some c
  else if c = 'b' then some '\x08'
  else if c = 'f' then some '\x0c'
  else if c = 'n' then some '\n'
  else if c = 'r' then some '\r'
  else if c = 't' then some '\t'
  else none

/-- The value of a hexadecimal digit. -/
def hexValue? (c : Char) : Option Nat :=
  if c.isDigit then some (c.toNat - '0'.toNat)
  else if 'a' ≤ c ∧ c ≤ 'f' then some (c.toNat - 'a'.toNat + 10)
  else if 'A' ≤ c ∧ c ≤ 'F' then some (c.toNat - 'A'.toNat + 10)
  else none

/-- Takes one character. -/
def Scan.step (s : Scan) (c : Char) : Option Scan :=
  match s.current with
  | .nothing => some (.start s.done c)
  | .word seen =>
    if isGap c || c = '"' || (mark? c).isSome then
      (ofWord? seen.reverse).map fun v => .start (.word v :: s.done) c
    else some ⟨.word (c :: seen), s.done⟩
  | .text seen =>
    if c = '"' then some ⟨.nothing, .text (joinPieces seen.reverse) :: s.done⟩
    else if c = '\\' then some ⟨.escape seen, s.done⟩
    else if c < ' ' then none
    else some ⟨.text (.char c :: seen), s.done⟩
  | .escape seen =>
    if c = 'u' then some ⟨.code seen 0 0, s.done⟩
    else (shortEscape? c).map fun c' => ⟨.text (.char c' :: seen), s.done⟩
  | .code seen digits value =>
    (hexValue? c).map fun h =>
      let value' := 16 * value + h
      if digits = 3 then ⟨.text (.unit value' :: seen), s.done⟩
      else ⟨.code seen (digits + 1) value', s.done⟩

/-- The tokens when the text has ended. -/
def Scan.finish (s : Scan) : Option (List Token) :=
  match s.current with
  | .nothing => some s.done.reverse
  | .word seen => (ofWord? seen.reverse).map fun v => (.word v :: s.done).reverse
  | _ => none

/-- The tokens of a text. -/
def tokens? (cs : List Char) : Option (List Token) :=
  (cs.foldlM Scan.step {}).bind Scan.finish

end Json

end TypeLowering
