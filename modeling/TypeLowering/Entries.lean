/-!
# Entries in order of first insertion

A finite map kept as the list of its pairs, in the order in which the keys were first put. Putting
a key again changes its value and keeps its place; a key that was removed comes last when it is put
again. `find?_put` and `find?_remove` give the view through `find?`.
-/

namespace TypeLowering

/-- Pairs of keys and values in the order in which the keys were first put. -/
abbrev Entries (κ α : Type) : Type := List (κ × α)

namespace Entries

variable {κ α : Type} [DecidableEq κ]

/-- The value of a key. -/
def find? : Entries κ α → κ → Option α
  | [], _ => none
  | (k, a) :: rest, key => if k = key then some a else find? rest key

/-- Gives a key a value: in its place if it is present, at the end otherwise. -/
def put : Entries κ α → κ → α → Entries κ α
  | [], key, value => [(key, value)]
  | (k, a) :: rest, key, value =>
    if k = key then (k, value) :: rest else (k, a) :: put rest key value

/-- Takes a key and its value away. -/
def remove (es : Entries κ α) (key : κ) : Entries κ α :=
  es.filter fun e => e.1 ≠ key

/-- Puts the pairs one after another. -/
def ofPairs (pairs : List (κ × α)) : Entries κ α :=
  pairs.foldl (fun es p => es.put p.1 p.2) []

theorem find?_put (es : Entries κ α) (key key' : κ) (value : α) :
    (es.put key value).find? key' = if key = key' then some value else es.find? key' := by
  induction es with
  | nil => rfl
  | cons e rest ih => grind [find?, put]

theorem find?_remove (es : Entries κ α) (key key' : κ) :
    (es.remove key).find? key' = if key = key' then none else es.find? key' := by
  induction es with
  | nil => simp [remove, find?]
  | cons e rest ih => grind [find?, remove]

end Entries

end TypeLowering
