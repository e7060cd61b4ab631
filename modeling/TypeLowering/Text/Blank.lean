/-!
# Blank characters

The characters that count as blank at the ends of a name: the ASCII controls and separators that
leave no ink, and the spaces and line ends of Unicode. `trim` cuts them off both ends of a text;
`trim_trim` says that nothing is left to cut afterwards.
-/

namespace TypeLowering.Text

/-- Whether a character leaves no ink at the end of a name. -/
def isBlank (c : Char) : Bool :=
  let n := c.toNat
  (0x9 ≤ n && n ≤ 0xd) || (0x1c ≤ n && n ≤ 0x20) || n == 0x85 || n == 0xa0 || n == 0x1680 ||
    (0x2000 ≤ n && n ≤ 0x200a) || n == 0x2028 || n == 0x2029 || n == 0x202f || n == 0x205f ||
    n == 0x3000

/-- The characters without the blanks at their end. -/
def trimEnd (cs : List Char) : List Char :=
  (cs.reverse.dropWhile isBlank).reverse

/-- The text without the blanks at both ends. -/
def trim (s : String) : String :=
  String.ofList (trimEnd (s.toList.dropWhile isBlank))

theorem trimEnd_cons {c : Char} (cs : List Char) (hc : isBlank c = false) :
    trimEnd (c :: cs) = c :: trimEnd cs := by
  have h : ∀ l : List Char, (l ++ [c]).dropWhile isBlank = l.dropWhile isBlank ++ [c] := by
    intro l
    induction l with
    | nil => simp [hc]
    | cons a l ih => by_cases ha : isBlank a <;> simp [ha, ih]
  simp [trimEnd, h]

theorem dropWhile_dropWhile (cs : List Char) :
    (cs.dropWhile isBlank).dropWhile isBlank = cs.dropWhile isBlank := by
  induction cs with
  | nil => rfl
  | cons c cs ih => by_cases hc : isBlank c <;> simp [hc, ih]

theorem trimEnd_trimEnd (cs : List Char) : trimEnd (trimEnd cs) = trimEnd cs := by
  simp [trimEnd, dropWhile_dropWhile]

theorem dropWhile_trimEnd (cs : List Char) :
    (trimEnd (cs.dropWhile isBlank)).dropWhile isBlank = trimEnd (cs.dropWhile isBlank) := by
  induction cs with
  | nil => rfl
  | cons c cs ih =>
    by_cases hc : isBlank c
    · simpa [hc] using ih
    · have hc : isBlank c = false := by simpa using hc
      simp [hc, trimEnd_cons]

theorem trim_trim (s : String) : trim (trim s) = trim s := by
  simp [trim, dropWhile_trimEnd, trimEnd_trimEnd]

theorem isBlank_of_isWhitespace {c : Char} (hc : c.isWhitespace) : isBlank c := by
  simp only [Char.isWhitespace, Bool.or_eq_true, decide_eq_true_eq] at hc
  rcases hc with ((rfl | rfl) | rfl) | rfl <;> rfl

end TypeLowering.Text
