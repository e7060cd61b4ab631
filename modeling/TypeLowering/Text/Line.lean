/-!
# Lines

The characters that end a line, and the lines of a text. A carriage return and the line feed after
it end one line together, and what follows the last end is a line only if it is not empty.
-/

namespace TypeLowering.Text

/-- Whether a character ends a line. -/
def isLineEnd (c : Char) : Bool :=
  let n := c.toNat
  (0xa ≤ n && n ≤ 0xd) || (0x1c ≤ n && n ≤ 0x1e) || n == 0x85 || n == 0x2028 || n == 0x2029

/-- The lines of a sequence of characters; `seen` holds those of the first line that have been met,
last first. -/
def linesFrom (seen : List Char) : List Char → List String
  | [] => if seen.isEmpty then [] else [String.ofList seen.reverse]
  | '\r' :: '\n' :: rest => String.ofList seen.reverse :: linesFrom [] rest
  | c :: rest =>
    if isLineEnd c then String.ofList seen.reverse :: linesFrom [] rest
    else linesFrom (c :: seen) rest

theorem linesFrom_append_lineFeed (seen : List Char) {cs : List Char}
    (h : ∀ c ∈ cs, isLineEnd c = false) :
    linesFrom seen (cs ++ ['\n']) = [String.ofList (seen.reverse ++ cs)] := by
  induction cs generalizing seen with
  | nil => simp [linesFrom, isLineEnd]
  | cons c rest ih =>
    have hc : isLineEnd c = false := h c List.mem_cons_self
    have hCr : c ≠ '\r' := by
      rintro rfl
      exact absurd hc (by decide)
    rw [List.cons_append, linesFrom]
    · rw [if_neg (by simp [hc]), ih _ fun c' hc' => h c' (List.mem_cons_of_mem _ hc')]
      simp
    · exact fun _ hEq _ => hCr hEq

end TypeLowering.Text
