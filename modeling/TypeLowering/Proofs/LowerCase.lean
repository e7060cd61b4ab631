import TypeLowering.Text.Case

/-!
# Texts in lower case

No character of a text in lower case is a capital of ASCII or the sign for Kelvin, which are the only
characters with an image in ASCII other than themselves. So a part of such a text that is spelled like a
text of ASCII in some letter case is that text (`eq_of_lower_eq`).
-/

namespace TypeLowering.Text

/-- The sign for Kelvin, whose lower case is `k`. -/
def kelvin : Nat := 0x212a

/-- Whether a character can stand in a text in lower case: it is no capital of ASCII and not the sign
for Kelvin. -/
def isFolded (c : Char) : Bool :=
  (c.toNat < 0x41 || 0x5a < c.toNat) && c.toNat ≠ kelvin

/-- The images of a character in a place: a capital sigma has two of them. -/
def lowerAt (before : List Char) (c : Char) (rest : List Char) : List Char :=
  if c = 'Σ' then if meetsCased before && !meetsCased rest then ['ς'] else ['σ']
  else lowerChar c

theorem lowerAfter_cons (before : List Char) (c : Char) (rest : List Char) :
    lowerAfter before (c :: rest) = lowerAt before c rest ++ lowerAfter (c :: before) rest := rfl

/-! ### The tables -/

/-- Whether the images of a run are characters beyond ASCII and not the sign for Kelvin, unless the run
maps ASCII itself or is the run of that sign. -/
def CaseRun.isSound (r : CaseRun) : Bool :=
  let first := r.first + r.shift
  let last := r.last + r.shift
  r.last < 0x80 || r.first = kelvin && r.last = kelvin && first = 0x6b ||
    0x80 ≤ first && (last < kelvin || kelvin < first) &&
      (last < 0xd800 || 0xdfff < first && last < 0x110000)

theorem isSound_of_mem_lowerRuns : ∀ r ∈ lowerRuns, r.isSound = true := by
  decide +kernel

theorem findSome?_kelvin : lowerRuns.findSome? (·.image? kelvin) = some 0x6b := by
  decide +kernel

theorem toNat_ofNat {n : Nat} (h : n < 0xd800 ∨ 0xdfff < n ∧ n < 0x110000) :
    (Char.ofNat n).toNat = n := by
  rw [Char.ofNat, dif_pos h]
  rfl

/-- The image of a character beyond ASCII under a run. -/
theorem toNat_image {r : CaseRun} (hr : r ∈ lowerRuns) {c : Char} {n : Nat} (hc : 0x80 ≤ c.toNat)
    (hn : r.image? c.toNat = some n) :
    c.toNat = kelvin ∧ n = 0x6b ∨
      0x80 ≤ (Char.ofNat n).toNat ∧ (Char.ofNat n).toNat ≠ kelvin := by
  have hsound := isSound_of_mem_lowerRuns r hr
  unfold CaseRun.image? at hn
  split at hn
  · next hrange =>
    obtain ⟨hfirst, hlast, -⟩ := hrange
    cases hn
    simp only [CaseRun.isSound, Bool.or_eq_true, Bool.and_eq_true, decide_eq_true_eq] at hsound
    rcases hsound with (hascii | ⟨⟨hk, hk'⟩, himage⟩) | ⟨⟨hlow, hne⟩, hvalid⟩
    · omega
    · left
      omega
    · right
      have hnat : (Char.ofNat (c.toNat + r.shift).toNat).toNat = (c.toNat + r.shift).toNat :=
        toNat_ofNat (by omega)
      rw [hnat]
      omega
  · cases hn

/-! ### Characters -/

/-- The lower case of a character beyond ASCII is beyond ASCII, but for the dotted capital I and the
sign for Kelvin. -/
theorem lowerChar_cases {c : Char} (hc : 0x80 ≤ c.toNat) :
    lowerChar c = ['i', '\u0307'] ∨ c.toNat = kelvin ∧ lowerChar c = ['k'] ∨
      ∃ d, lowerChar c = [d] ∧ 0x80 ≤ d.toNat ∧ d.toNat ≠ kelvin := by
  rw [lowerChar, if_neg (Nat.not_lt.mpr hc), mapCase]
  split
  · next ns hns =>
    simp only [lowerExpansions, List.lookup_cons, List.lookup_nil] at hns
    split at hns
    · cases hns
      exact .inl rfl
    · cases hns
  · split
    · next n hn =>
      obtain ⟨r, hr, hn⟩ := Array.exists_of_findSome?_eq_some hn
      rcases toNat_image hr hc hn with ⟨hk, rfl⟩ | ⟨himage, hne⟩
      · exact .inr (.inl ⟨hk, rfl⟩)
      · exact .inr (.inr ⟨_, rfl, himage, hne⟩)
    · next hnone =>
      refine .inr (.inr ⟨c, rfl, hc, fun hk => ?_⟩)
      rw [hk, findSome?_kelvin] at hnone
      cases hnone

theorem lowerChar_of_ascii {c : Char} (hc : c.toNat < 0x80) : lowerChar c = [c.toLower] := by
  rw [lowerChar, if_pos hc]

theorem toLower_cases (c : Char) :
    0x41 ≤ c.toNat ∧ c.toNat ≤ 0x5a ∧ c.toLower.toNat = c.toNat + 0x20 ∨
      (c.toNat < 0x41 ∨ 0x5a < c.toNat) ∧ c.toLower = c := by
  unfold Char.toLower
  split
  · next h =>
    left
    have hlow : 0x41 ≤ c.toNat := h.1
    have hhigh : c.toNat ≤ 0x5a := h.2
    refine ⟨hlow, hhigh, ?_⟩
    have hval : c.val.toNat ≤ 0x5a := hhigh
    have hshift : (32 : UInt32).toNat = 0x20 := rfl
    show (c.val + 32).toNat = c.val.toNat + 0x20
    rw [UInt32.toNat_add, hshift]
    exact Nat.mod_eq_of_lt (by omega)
  · next h =>
    have hcap : ¬ (0x41 ≤ c.toNat ∧ c.toNat ≤ 0x5a) := h
    exact .inr ⟨by omega, rfl⟩

/-- What stands in a text in lower case is folded. -/
theorem isFolded_of_mem_lowerAt {before rest : List Char} {c d : Char}
    (h : d ∈ lowerAt before c rest) : isFolded d = true := by
  unfold lowerAt at h
  split at h
  · split at h <;> (rw [List.mem_singleton.mp h]; decide)
  · by_cases hc : c.toNat < 0x80
    · rw [lowerChar_of_ascii hc, List.mem_singleton] at h
      subst h
      have hkelvin : kelvin = 0x212a := rfl
      simp only [isFolded, Bool.and_eq_true, Bool.or_eq_true, decide_eq_true_eq]
      rcases toLower_cases c with ⟨hlow, hhigh, hlower⟩ | ⟨hcap, hlower⟩ <;> rw [hlower] <;> omega
    · rcases lowerChar_cases (Nat.not_lt.mp hc) with hi | ⟨-, hk⟩ | ⟨e, he, hbeyond, hne⟩
      · rw [hi] at h
        rcases List.mem_cons.mp h with rfl | h
        · decide
        · rw [List.mem_singleton.mp h]
          decide
      · rw [hk] at h
        rw [List.mem_singleton.mp h]
        decide
      · rw [he] at h
        rw [List.mem_singleton.mp h]
        simp only [isFolded, Bool.and_eq_true, Bool.or_eq_true, decide_eq_true_eq]
        omega

/-- A folded character whose images are all of ASCII is its own image. -/
theorem lowerAt_eq_of_isFolded {before rest : List Char} {c : Char} (hc : isFolded c = true)
    (h : ∀ d ∈ lowerAt before c rest, d.toNat < 0x80) : lowerAt before c rest = [c] := by
  simp only [isFolded, Bool.and_eq_true, Bool.or_eq_true, decide_eq_true_eq] at hc
  unfold lowerAt at h ⊢
  split at h
  · -- the images of a capital sigma are not of ASCII
    split at h <;> exact absurd (h _ List.mem_cons_self) (by decide)
  · next hsigma =>
    rw [if_neg hsigma]
    by_cases hascii : c.toNat < 0x80
    · rw [lowerChar_of_ascii hascii]
      rcases toLower_cases c with ⟨hlow, hhigh, -⟩ | ⟨-, hlower⟩
      · omega
      · rw [hlower]
    · rcases lowerChar_cases (Nat.not_lt.mp hascii) with hi | ⟨hk, -⟩ | ⟨e, he, hbeyond, -⟩
      · rw [hi] at h
        exact absurd (h '\u0307' (by decide)) (by decide)
      · exact absurd hk hc.2
      · rw [he] at h
        exact absurd (h e (List.mem_singleton_self e)) (Nat.not_lt.mpr hbeyond)

/-! ### Texts -/

theorem isFolded_of_mem_lower {s : String} {d : Char} (h : d ∈ (lower s).toList) :
    isFolded d = true := by
  rw [lower, String.toList_ofList] at h
  generalize ([] : List Char) = before at h
  generalize s.toList = cs at h
  induction cs generalizing before with
  | nil => cases h
  | cons c rest ih =>
    rw [lowerAfter_cons] at h
    rcases List.mem_append.mp h with h | h
    · exact isFolded_of_mem_lowerAt h
    · exact ih _ h

theorem lowerAfter_eq_of_isFolded {before cs : List Char} (hfolded : ∀ c ∈ cs, isFolded c = true)
    (hascii : ∀ d ∈ lowerAfter before cs, d.toNat < 0x80) : lowerAfter before cs = cs := by
  induction cs generalizing before with
  | nil => rfl
  | cons c rest ih =>
    rw [lowerAfter_cons] at hascii ⊢
    rw [lowerAt_eq_of_isFolded (hfolded c List.mem_cons_self)
        fun d hd => hascii d (List.mem_append_left _ hd),
      ih (fun c' hc' => hfolded c' (List.mem_cons_of_mem _ hc'))
        fun d hd => hascii d (List.mem_append_right _ hd)]
    rfl

/-- **A part of a text in lower case is spelled in lower case.** If it is a text of ASCII in some letter
case, it is that text. -/
theorem eq_of_lower_eq {s : String} {before : List Char} {t key : String}
    (hs : (lower s).toList = before ++ t.toList) (hkey : lower t = key)
    (hascii : ∀ d ∈ key.toList, d.toNat < 0x80) : t = key := by
  have hfolded : ∀ c ∈ t.toList, isFolded c = true :=
    fun c hc => isFolded_of_mem_lower (hs ▸ List.mem_append_right _ hc)
  rw [← hkey, lower, String.toList_ofList] at hascii
  rw [← hkey, lower, lowerAfter_eq_of_isFolded hfolded hascii, String.ofList_toList]

end TypeLowering.Text
