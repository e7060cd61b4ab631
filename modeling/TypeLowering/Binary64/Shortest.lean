import TypeLowering.Binary64

/-!
# Shortest texts of binary fractions

A binary fraction is written with the fewest decimal digits that read back as the same fraction, and
with the nearest of those. The text is positional while the leading digit stands for at least
`10⁻⁴` and less than `10¹⁶`, and has an exponent elsewhere.
-/

namespace TypeLowering

namespace Binary64

/-- The multiple of a power of ten next to a ratio that reads back as the given fraction, if one
does. Of both neighbours the nearer counts. -/
def readsBack? (target : Binary64) (r : Ratio) (exponent : Int) : Option Nat :=
  let scaled := r.scale 10 (-exponent)
  let reads (n : Nat) : Bool := ofDigits false n exponent = target
  match reads scaled.floor, reads (scaled.floor + 1) with
  | true, true => some scaled.round
  | true, false => some scaled.floor
  | false, true => some (scaled.floor + 1)
  | false, false => none

/-- The fewest digits, with the exponent of the last of them, that read back as a finite magnitude.
Seventeen digits always do. -/
def shortest (significand : Nat) (exponent : Int) : Nat × Int :=
  if significand = 0 then (0, 0)
  else
    let target : Binary64 := .finite false significand exponent
    let r := ratio significand exponent
    let leading := r.log 10
    let found := (List.range 17).findSome? fun behind : Nat =>
      (readsBack? target r (leading - behind)).map fun n => (n, leading - behind)
    match found with
    | some (n, e) => lowestTerms 10 n e
    | none => (0, 0)

/-- The sign in front of a negative number. -/
def sign (negative : Bool) : String :=
  if negative then "-" else ""

/-- An exponent with its sign and at least two digits. -/
def exponentText (e : Int) : String :=
  let digits := toString e.natAbs
  "e" ++ (if e < 0 then "-" else "+") ++ (if digits.length < 2 then "0" else "") ++ digits

/-- The digits with the point after the first `point` of them, filled up with zeros. -/
def positional (digits : List Char) (point : Int) : String :=
  if point ≤ 0 then
    String.ofList ('0' :: '.' :: List.replicate point.natAbs '0' ++ digits)
  else
    let whole := digits.take point.toNat
    let rest := digits.drop point.toNat
    String.ofList (whole ++ List.replicate (point.toNat - digits.length) '0' ++
      '.' :: (if rest.isEmpty then ['0'] else rest))

/-- One digit before the point and the rest behind it, if there is any. -/
def scientific (digits : List Char) (exponent : Int) : String :=
  match digits with
  | d :: rest@(_ :: _) => String.ofList (d :: '.' :: rest) ++ exponentText exponent
  | _ => String.ofList digits ++ exponentText exponent

/-- The text of `digits · 10 ^ exponent`. -/
def magnitude (digits : Nat) (exponent : Int) : String :=
  let ds := Nat.toDigits 10 digits
  let point := exponent + ds.length
  if -4 < point ∧ point ≤ 16 then positional ds point else scientific ds (point - 1)

/-- The text of a number, with the given words for infinity and for what is no number. -/
def textWith (infinity undefined : String) : Binary64 → String
  | .finite negative significand exponent =>
    let d := shortest significand exponent
    sign negative ++ magnitude d.1 d.2
  | .infinite negative => sign negative ++ infinity
  | .undefined => undefined

/-- The text of a number inside a message. -/
def text : Binary64 → String :=
  textWith "inf" "nan"

end Binary64

end TypeLowering
