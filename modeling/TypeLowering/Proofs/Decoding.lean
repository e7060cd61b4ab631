import TypeLowering.Proofs.Outcome

/-!
# Reading references back

The text of a reference can be read from left to right. A `<` ends a name and begins its arguments, a
comma and a blank part two arguments, and a `>` closes the reference that was begun last. A `Reader`
is what is known in the midst of a text, and `Reader.step` reads one more character.

* `Reader.Sound.step`: the characters that were read are those that what is known would be written
  with, and the names are met in the order of `Reference.walk`.
* `Reader.foldlM_text`: a reference is read from its text, whatever is open around it.
* `Reference.parse?_eq_some_iff`: so the texts that can be read are those of the references in whose
  names none of the signs stands, each of exactly one reference.
-/

namespace TypeLowering

/-- The characters by which a reference is parted. -/
def isSign (c : Char) : Bool :=
  c = '<' || c = '>' || c = ','

/-- A name without signs. -/
def IsPlainName (name : String) : Prop :=
  ∀ c ∈ name.toList, isSign c = false

instance : DecidablePred IsPlainName := fun name =>
  List.decidableBAll (fun c => isSign c = false) name.toList

namespace Reference

/-- A reference in whose names, however deep, no sign stands. -/
def HasPlainNames (r : Reference) : Prop :=
  ∀ name ∈ r.walk, IsPlainName name

instance : DecidablePred HasPlainNames := fun r =>
  List.decidableBAll IsPlainName r.walk

/-- A reference with some of its arguments, which are being read. -/
structure Opening where
  name : String
  arguments : List Reference

/-- What stands last in a text so far. -/
inductive Ending where
  | name (seen : List Char)
  | closed (r : Reference)
  /-- A comma after an argument, which the blank that has to follow puts to the others. -/
  | comma (argument : Reference)

/-- What is known of a text so far. -/
structure Reader where
  /-- What is open, innermost first. -/
  openings : List Opening := []
  ending : Ending := .name []
  /-- The names that have ended, in the order of the text. -/
  names : List String := []

namespace Ending

/-- The reference that is complete if it ends here. -/
def reference? : Ending → Option Reference
  | .name seen => some (.named (String.ofList seen))
  | .closed r => some r
  | .comma _ => none

/-- The name that ends if it does so here. -/
def names : Ending → List String
  | .name seen => [String.ofList seen]
  | _ => []

end Ending

namespace Reader

/-- Begins the arguments of the name that stands last. -/
def descend (s : Reader) : Option Reader :=
  match s.ending with
  | .name seen =>
    some ⟨⟨String.ofList seen, []⟩ :: s.openings, .name [], s.names ++ [String.ofList seen]⟩
  | _ => none

/-- Closes the innermost of what is open, with its last argument. -/
def ascend (s : Reader) : Option Reader :=
  match s.ending.reference?, s.openings with
  | some r, o :: outer =>
    some ⟨outer, .closed (.mk o.name (o.arguments ++ [r])), s.names ++ s.ending.names⟩
  | _, _ => none

/-- Ends an argument that is not the last. -/
def divide (s : Reader) : Option Reader :=
  s.ending.reference?.map fun r => ⟨s.openings, .comma r, s.names ++ s.ending.names⟩

/-- Reads a character that is no sign: one of a name, or the blank after a comma. -/
def extend (s : Reader) (c : Char) : Option Reader :=
  match s.ending, s.openings with
  | .name seen, openings => some ⟨openings, .name (seen ++ [c]), s.names⟩
  | .comma r, o :: outer =>
    if c = ' ' then some ⟨⟨o.name, o.arguments ++ [r]⟩ :: outer, .name [], s.names⟩ else none
  | _, _ => none

/-- Reads a character. -/
def step (s : Reader) (c : Char) : Option Reader :=
  if c = '<' then s.descend
  else if c = '>' then s.ascend
  else if c = ',' then s.divide
  else s.extend c

/-- What has been read at the end of a text: a reference, if nothing is open, and its names. -/
def finish (s : Reader) : Option (Reference × List String) :=
  match s.openings with
  | [] => s.ending.reference?.map fun r => (r, s.names ++ s.ending.names)
  | _ :: _ => none

end Reader

/-- The reference that a text is of, with the names in the order in which they are read. -/
def parse? (text : String) : Option (Reference × List String) :=
  (text.toList.foldlM Reader.step {}).bind Reader.finish

/-! ### How references are written -/

@[simp]
theorem text_named (name : String) : (named name).text = name := by
  rw [named, text]

@[simp]
theorem walk_mk (name : String) (arguments : List Reference) :
    (mk name arguments).walk = name :: walkAll arguments := by
  rw [walk]

@[simp]
theorem walkAll_nil : walkAll [] = [] := by
  rw [walkAll]

@[simp]
theorem walkAll_cons (r : Reference) (rest : List Reference) :
    walkAll (r :: rest) = r.walk ++ walkAll rest := by
  rw [walkAll]

@[simp]
theorem walk_named (name : String) : (named name).walk = [name] := by
  rw [named, walk_mk, walkAll_nil]

theorem walkAll_append (rs rs' : List Reference) :
    walkAll (rs ++ rs') = walkAll rs ++ walkAll rs' := by
  induction rs with
  | nil => rw [List.nil_append, walkAll, List.nil_append]
  | cons r rest ih => rw [List.cons_append, walkAll_cons, walkAll_cons, ih, List.append_assoc]

theorem mem_walkAll {rs : List Reference} {name : String} :
    name ∈ walkAll rs ↔ ∃ r ∈ rs, name ∈ r.walk := by
  induction rs with
  | nil => simp
  | cons r rest ih => simp [ih]

@[simp]
theorem walkAll_singleton (r : Reference) : walkAll [r] = r.walk := by
  rw [walkAll_cons, walkAll, List.append_nil]

/-- The characters of arguments, each followed by a comma and a blank. -/
def leading (arguments : List Reference) : List Char :=
  arguments.flatMap fun r => r.text.toList ++ [',', ' ']

theorem toList_intercalate_texts (arguments : List Reference) (r : Reference) :
    (", ".intercalate (texts (arguments ++ [r]))).toList = leading arguments ++ r.text.toList := by
  induction arguments with
  | nil => simp [texts, leading]
  | cons first rest ih =>
    obtain ⟨second, others, hrest⟩ := List.exists_cons_of_ne_nil
      (List.append_ne_nil_of_right_ne_nil rest (List.cons_ne_nil r []))
    rw [hrest, texts] at ih
    rw [List.cons_append, hrest, texts, texts, String.intercalate_cons_cons, String.toList_append,
      ih]
    simp [leading]

/-- The text of a generic reference, of which the last argument is set apart. -/
theorem toList_text_mk (name : String) (arguments : List Reference) (r : Reference) :
    (mk name (arguments ++ [r])).text.toList =
      name.toList ++ '<' :: leading arguments ++ r.text.toList ++ ['>'] := by
  have htext := toList_intercalate_texts arguments r
  obtain ⟨first, rest, hne⟩ := List.exists_cons_of_ne_nil
    (List.append_ne_nil_of_right_ne_nil arguments (List.cons_ne_nil r []))
  rw [hne] at htext ⊢
  rw [text, String.toList_append, String.toList_append, String.toList_append, htext]
  simp

/-! ### What is read is what was written -/

namespace Opening

/-- The characters that an open reference begins with. -/
def text (o : Opening) : List Char :=
  o.name.toList ++ '<' :: leading o.arguments

/-- The names of an open reference so far. -/
def walk (o : Opening) : List String :=
  o.name :: walkAll o.arguments

end Opening

namespace Ending

/-- The characters that stand last. -/
def text : Ending → List Char
  | .name seen => seen
  | .closed r => r.text.toList
  | .comma r => r.text.toList ++ [',']

/-- The names of the reference that stands last, if they have ended. -/
def walk : Ending → List String
  | .name _ => []
  | .closed r => r.walk
  | .comma r => r.walk

@[simp]
theorem text_closed (r : Reference) : (closed r).text = r.text.toList := rfl

@[simp]
theorem text_comma (r : Reference) : (comma r).text = r.text.toList ++ [','] := rfl

theorem text_eq_of_reference? {e : Ending} {r : Reference} (h : e.reference? = some r) :
    e.text = r.text.toList := by
  cases e with
  | name seen => cases h; simp [text]
  | closed r' => cases h; rfl
  | comma r' => cases h

theorem walk_eq_of_reference? {e : Ending} {r : Reference} (h : e.reference? = some r) :
    e.walk ++ e.names = r.walk := by
  cases e with
  | name seen => cases h; simp [walk, names, named, walkAll]
  | closed r' => cases h; simp [walk, names]
  | comma r' => cases h

end Ending

namespace Reader

/-- The characters that what is known is written with. -/
def text (s : Reader) : List Char :=
  s.openings.reverse.flatMap Opening.text ++ s.ending.text

/-- The names are those of what is known, and no sign stands in them. -/
structure Sound (s : Reader) : Prop where
  names_eq : s.names = s.openings.reverse.flatMap Opening.walk ++ s.ending.walk
  plain : ∀ name ∈ s.names ++ s.ending.names, IsPlainName name

variable {s s' : Reader} {c : Char}

theorem Sound.start : Sound {} where
  names_eq := rfl
  plain := by
    intro name hname
    obtain rfl : name = "" := List.mem_singleton.mp hname
    exact fun c hc => absurd hc List.not_mem_nil

theorem Sound.descend (hs : s.Sound) (h : s.descend = some s') :
    s'.Sound ∧ s'.text = s.text ++ ['<'] := by
  obtain ⟨openings, ending, names⟩ := s
  cases ending with
  | name seen =>
    cases h
    refine ⟨⟨?_, ?_⟩, ?_⟩
    · simpa [Opening.walk, Ending.walk, walkAll] using hs.names_eq
    · have hplain := hs.plain
      simp only [Ending.names] at hplain
      simpa [Ending.names, IsPlainName, or_imp, forall_and] using hplain
    · simp [text, Opening.text, Ending.text, leading]
  | closed r => cases h
  | comma r => cases h

theorem Sound.ascend (hs : s.Sound) (h : s.ascend = some s') :
    s'.Sound ∧ s'.text = s.text ++ ['>'] := by
  unfold Reader.ascend at h
  split at h
  · next r o outer hr ho =>
    cases h
    have htext := Ending.text_eq_of_reference? hr
    have hwalk := Ending.walk_eq_of_reference? hr
    refine ⟨⟨?_, by simpa [Ending.names] using hs.plain⟩, ?_⟩
    · rw [hs.names_eq, ho]
      simp [Opening.walk, Ending.walk, walkAll_append, ← hwalk]
    · rw [text, text, ho]
      simp [Opening.text, toList_text_mk, htext]
  · cases h

theorem Sound.divide (hs : s.Sound) (h : s.divide = some s') :
    s'.Sound ∧ s'.text = s.text ++ [','] := by
  obtain ⟨r, hr, rfl⟩ := Option.map_eq_some_iff.mp h
  have htext := Ending.text_eq_of_reference? hr
  have hwalk := Ending.walk_eq_of_reference? hr
  refine ⟨⟨?_, by simpa [Ending.names] using hs.plain⟩, ?_⟩
  · rw [hs.names_eq, List.append_assoc, hwalk]
    rfl
  · simp [text, htext]

theorem Sound.extend (hs : s.Sound) (hc : isSign c = false) (h : s.extend c = some s') :
    s'.Sound ∧ s'.text = s.text ++ [c] := by
  obtain ⟨openings, ending, names⟩ := s
  cases ending with
  | name seen =>
    cases h
    refine ⟨⟨hs.names_eq, ?_⟩, by simp [text, Ending.text]⟩
    have hplain := hs.plain
    simp only [Ending.names] at hplain
    simp only [Ending.names, List.mem_append, or_imp, forall_and, List.mem_singleton,
      forall_eq] at hplain ⊢
    refine ⟨hplain.1, ?_⟩
    simpa [IsPlainName, or_imp, forall_and, hc] using hplain.2
  | closed r => cases h
  | comma r =>
    cases openings with
    | nil => cases h
    | cons o outer =>
      simp only [Reader.extend] at h
      split at h
      · next hblank =>
        cases h
        refine ⟨⟨?_, ?_⟩, ?_⟩
        · rw [hs.names_eq]
          simp [Opening.walk, Ending.walk, walkAll_append]
        · have hplain := hs.plain
          simp only [Ending.names, List.append_nil] at hplain
          simpa [Ending.names, IsPlainName, or_imp, forall_and] using hplain
        · simp [text, Opening.text, Ending.text, leading, hblank]
      · cases h

/-- **One character more** is one character more of what is known. -/
theorem Sound.step (hs : s.Sound) (h : s.step c = some s') : s'.Sound ∧ s'.text = s.text ++ [c] := by
  unfold Reader.step at h
  split at h
  · next hc => exact hc ▸ hs.descend h
  split at h
  · next hc => exact hc ▸ hs.ascend h
  split at h
  · next hc => exact hc ▸ hs.divide h
  next hlt hgt hcomma => exact hs.extend (by simp [isSign, hlt, hgt, hcomma]) h

theorem Sound.foldlM {cs : List Char} (hs : s.Sound) (h : cs.foldlM Reader.step s = some s') :
    s'.Sound ∧ s'.text = s.text ++ cs := by
  induction cs generalizing s with
  | nil =>
    cases h
    exact ⟨hs, (List.append_nil _).symm⟩
  | cons c rest ih =>
    rw [List.foldlM_cons] at h
    obtain ⟨m, hm, hrest⟩ := Option.bind_eq_some_iff.mp h
    obtain ⟨hsm, htext⟩ := hs.step hm
    obtain ⟨hs', htext'⟩ := ih hsm hrest
    exact ⟨hs', by rw [htext', htext, List.append_assoc, List.singleton_append]⟩

theorem Sound.finish {r : Reference} {names : List String} (hs : s.Sound)
    (h : s.finish = some (r, names)) :
    s.text = r.text.toList ∧ names = r.walk ∧ r.HasPlainNames := by
  obtain ⟨openings, ending, read⟩ := s
  cases openings with
  | cons o outer => cases h
  | nil =>
    obtain ⟨r', hr, heq⟩ := Option.map_eq_some_iff.mp h
    cases heq
    have hread : read = ending.walk := hs.names_eq
    have hnames : read ++ ending.names = r.walk := hread ▸ Ending.walk_eq_of_reference? hr
    have hplain : ∀ name ∈ read ++ ending.names, IsPlainName name := hs.plain
    rw [hnames] at hplain
    exact ⟨Ending.text_eq_of_reference? hr, hnames, hplain⟩

/-! ### What was written can be read -/

/-- The reader after the text of a reference. Where there are no arguments the name goes on. -/
def after (openings : List Opening) (names : List String) : Reference → Reader
  | .mk name [] => ⟨openings, .name name.toList, names⟩
  | .mk name (first :: rest) =>
    ⟨openings, .closed (.mk name (first :: rest)), names ++ (Reference.mk name (first :: rest)).walk⟩

variable {openings : List Opening} {names : List String} {r : Reference}

theorem openings_after : (after openings names r).openings = openings := by
  obtain ⟨name, _ | _⟩ := r <;> rfl

theorem reference?_after : (after openings names r).ending.reference? = some r := by
  obtain ⟨name, _ | _⟩ := r
  · simp [after, Ending.reference?, named]
  · rfl

theorem names_after :
    (after openings names r).names ++ (after openings names r).ending.names = names ++ r.walk := by
  obtain ⟨name, _ | _⟩ := r
  · simp [after, Ending.names, walkAll]
  · simp [after, Ending.names]

/-- A `>` after an argument closes what is open. -/
theorem step_after_close {o : Opening} :
    (after (o :: openings) names r).step '>' =
      some ⟨openings, .closed (.mk o.name (o.arguments ++ [r])), names ++ r.walk⟩ := by
  rw [step, if_neg (by decide), if_pos rfl, ascend]
  simp only [reference?_after, openings_after, names_after]

/-- After a comma and a blank the next argument is read. -/
theorem foldlM_after_comma {o : Opening} {cs : List Char} :
    (',' :: ' ' :: cs).foldlM step (after (o :: openings) names r) =
      cs.foldlM step ⟨⟨o.name, o.arguments ++ [r]⟩ :: openings, .name [], names ++ r.walk⟩ := by
  have hcomma : (after (o :: openings) names r).step ',' =
      some ⟨o :: openings, .comma r, names ++ r.walk⟩ := by
    rw [step, if_neg (by decide), if_neg (by decide), if_pos rfl, divide, reference?_after,
      Option.map_some, openings_after, names_after]
  rw [List.foldlM_cons, hcomma]
  rfl

theorem step_name {seen : List Char} (hc : isSign c = false) :
    (Reader.mk openings (.name seen) names).step c =
      some ⟨openings, .name (seen ++ [c]), names⟩ := by
  simp only [isSign, Bool.or_eq_false_iff, decide_eq_false_iff_not] at hc
  obtain ⟨⟨hlt, hgt⟩, hcomma⟩ := hc
  rw [step, if_neg hlt, if_neg hgt, if_neg hcomma]
  rfl

theorem step_open {seen : List Char} :
    (Reader.mk openings (.name seen) names).step '<' =
      some ⟨⟨String.ofList seen, []⟩ :: openings, .name [], names ++ [String.ofList seen]⟩ := rfl

theorem foldlM_name {cs seen : List Char} (h : ∀ c ∈ cs, isSign c = false) :
    cs.foldlM step ⟨openings, .name seen, names⟩ = some ⟨openings, .name (seen ++ cs), names⟩ := by
  induction cs generalizing seen with
  | nil => rw [List.append_nil]; rfl
  | cons c rest ih =>
    rw [List.foldlM_cons, step_name (h c List.mem_cons_self)]
    show rest.foldlM step _ = _
    rw [ih fun c' hc' => h c' (List.mem_cons_of_mem _ hc'), List.append_assoc,
      List.singleton_append]

mutual

/-- **A reference is read from its text**, whatever is open around it. -/
theorem foldlM_text : ∀ (r : Reference) (openings : List Opening) (names : List String),
    r.HasPlainNames →
    r.text.toList.foldlM step ⟨openings, .name [], names⟩ = some (after openings names r)
  | .mk name [], openings, names, h => by
    rw [Reference.text]
    exact foldlM_name (h name (by simp))
  | .mk name (first :: rest), openings, names, h => by
    have hname : IsPlainName name := h name (by simp)
    have hrest := foldlM_texts (first :: rest) ⟨name, []⟩ openings (names ++ [name])
      (List.cons_ne_nil first rest)
      fun n hn => h n (by rw [walk_mk]; exact List.mem_cons_of_mem _ hn)
    rw [Reference.text, String.toList_append, String.toList_append, String.toList_append,
      List.append_assoc, List.append_assoc, List.foldlM_append, foldlM_name hname,
      Option.bind_eq_bind, Option.bind_some]
    show List.foldlM step _ ('<' :: _) = _
    rw [List.foldlM_cons, step_open, Option.bind_eq_bind, Option.bind_some, List.nil_append,
      String.ofList_toList]
    refine hrest.trans ?_
    rw [after, walk_mk, List.append_assoc]
    rfl

/-- Arguments are read up to the `>` after them. -/
theorem foldlM_texts : ∀ (rs : List Reference) (o : Opening) (openings : List Opening)
    (names : List String), rs ≠ [] → (∀ name ∈ walkAll rs, IsPlainName name) →
    ((", ".intercalate (texts rs)).toList ++ ['>']).foldlM step ⟨o :: openings, .name [], names⟩ =
      some ⟨openings, .closed (.mk o.name (o.arguments ++ rs)), names ++ walkAll rs⟩
  | [], _, _, _, hne, _ => absurd rfl hne
  | [r], o, openings, names, _, h => by
    rw [walkAll_singleton] at h ⊢
    rw [texts, texts, String.intercalate_singleton, List.foldlM_append,
      foldlM_text r (o :: openings) names h, Option.bind_eq_bind, Option.bind_some,
      List.foldlM_cons, step_after_close]
    rfl
  | r :: r' :: rest, o, openings, names, _, h => by
    rw [walkAll_cons] at h
    have hr : r.HasPlainNames := fun name hname => h name (List.mem_append_left _ hname)
    have hrest := foldlM_texts (r' :: rest) ⟨o.name, o.arguments ++ [r]⟩ openings
      (names ++ r.walk) (List.cons_ne_nil r' rest)
      fun name hname => h name (List.mem_append_right _ hname)
    rw [texts, texts, String.intercalate_cons_cons, String.toList_append, String.toList_append,
      List.append_assoc, List.append_assoc, List.foldlM_append, foldlM_text r (o :: openings) names hr,
      Option.bind_eq_bind, Option.bind_some]
    show List.foldlM step _ (',' :: ' ' :: _) = _
    rw [foldlM_after_comma]
    refine hrest.trans ?_
    rw [walkAll_cons r, List.append_assoc, List.append_assoc, List.singleton_append]

end

end Reader

/-! ### All of it -/

variable {r r' : Reference}

theorem hasPlainNames_named {name : String} (h : IsPlainName name) :
    (named name).HasPlainNames := by
  simpa [HasPlainNames] using h

theorem parse?_text (h : r.HasPlainNames) : parse? r.text = some (r, r.walk) := by
  rw [parse?, Reader.foldlM_text r [] [] h, Option.bind_some, Reader.finish, Reader.openings_after]
  simp only [Reader.reference?_after, Reader.names_after, Option.map_some, List.nil_append]

/-- **Reading accepts exactly what is written**, and the names are those of the walk. -/
theorem parse?_eq_some_iff {text : String} {names : List String} :
    parse? text = some (r, names) ↔ r.HasPlainNames ∧ text = r.text ∧ names = r.walk := by
  constructor
  · intro h
    obtain ⟨s, hs, hfinish⟩ := Option.bind_eq_some_iff.mp h
    obtain ⟨hsound, htext⟩ := Reader.Sound.start.foldlM hs
    obtain ⟨hr, hnames, hplain⟩ := hsound.finish hfinish
    exact ⟨hplain, String.toList_inj.mp (htext.symm.trans hr), hnames⟩
  · rintro ⟨hplain, rfl, rfl⟩
    exact parse?_text hplain

theorem eq_of_text_eq (h : r.HasPlainNames) (h' : r'.HasPlainNames) (htext : r.text = r'.text) :
    r = r' := by
  have hparse := parse?_text h
  rw [htext, parse?_text h'] at hparse
  cases hparse
  rfl

end Reference

/-! ### References that nodes are lowered to -/

namespace Graph

/-- No sign stands in the names that a profile gives, nor in those of the classes and modules that
can be reached. -/
structure NamesPlainly (g : Graph) (p : Profile) (root : Node) : Prop where
  slots : ∀ s, IsPlainName (p.name s)
  own : ∀ n name, g.Reaches p.noneClassName root n →
    g.shape n = .namedClass name ∨ g.shape n = .namedModule name → IsPlainName name

variable {g : Graph} {p : Profile} {path : List Node} {n m : Node}

theorem NamesPlainly.child (h : g.NamesPlainly p n) (hm : m ∈ g.children p.noneClassName n) :
    g.NamesPlainly p m where
  slots := h.slots
  own e name he := h.own e name (.head hm he)

theorem NamesPlainly.headName (h : g.NamesPlainly p n) : IsPlainName (g.headName p n) := by
  have hown := fun name => h.own n name .refl
  unfold Graph.headName
  cases hs : g.shape n with
  | namedClass name => exact hown name (.inl hs)
  | namedModule name => exact hown name (.inr hs)
  | function arrows =>
    cases arrows with
    | nil => exact h.slots .function
    | cons arrow rest =>
      dsimp only
      split
      · exact h.slots .procedure
      · exact h.slots .function
  | string => exact h.slots .string
  | integer => exact h.slots .integer
  | float => exact h.slots .float
  | boolean => exact h.slots .boolean
  | list element => exact h.slots .list
  | set element => exact h.slots .set
  | dict key value => exact h.slots .dict
  | tuple elements => exact h.slots .tuple
  | _ => exact h.slots .object

/-- What is lowered to a reference has its names from the profile, or from classes and modules. -/
theorem Lowers.hasPlainNames {l : Lowered} (h : g.Lowers p path n l) (hn : g.NamesPlainly p n) :
    l.reference.HasPlainNames := by
  induction h with
  | cut _ => exact Reference.hasPlainNames_named (hn.slots .object)
  | leaf _ hf =>
    obtain ⟨-, -, -, -, hname⟩ := hf
    exact Reference.hasPlainNames_named (hname ▸ hn.headName)
  | bareCall _ _ =>
    intro name hname
    simp only [Lowered.bareCall, Reference.walk_mk, Reference.walkAll_cons, Reference.walk_named,
      Reference.walkAll_nil, List.append_nil, List.cons_append, List.nil_append, List.mem_cons,
      List.not_mem_nil, or_false] at hname
    rcases hname with rfl | rfl | rfl
    · exact hn.slots .function
    · exact hn.slots .object
    · exact hn.slots .object
  | @branch path n s cs ls _ hf hlen _ ih =>
    obtain ⟨-, rfl, -, -⟩ := hf
    intro name hname
    rw [Lowered.branch, Reference.walk_mk, List.mem_cons] at hname
    rcases hname with rfl | hname
    · exact hn.slots s
    · obtain ⟨r, hr, hname⟩ := Reference.mem_walkAll.mp hname
      obtain ⟨l, hl, rfl⟩ := List.mem_map.mp hr
      obtain ⟨i, hi⟩ := List.mem_iff_getElem?.mp hl
      obtain ⟨m, hm⟩ := exists_opposite hlen.symm hi
      exact ih i m l hm hi (hn.child (List.mem_of_getElem? hm)) name hname

/-- **The text of a reference can be decoded.** Reading accepts exactly the texts of the references in
whose names no sign stands, gives the reference back, and meets the names from left to right in the
order of the walk. So such references have the same text only if they are the same, and lowered nodes
of plain names are written alike exactly when their references are equal. -/
theorem text_decodable :
    (∀ (text : String) (r : Reference) (names : List String),
      Reference.parse? text = some (r, names) ↔
        r.HasPlainNames ∧ text = r.text ∧ names = r.walk) ∧
    (∀ r r' : Reference, r.HasPlainNames → r'.HasPlainNames → r.text = r'.text → r = r') ∧
    (∀ (g g' : Graph) (p p' : Profile) (root root' : Node) (limit limit' : Nat) (l l' : Lowered),
      g.NamesPlainly p root → g'.NamesPlainly p' root' →
      (g.lowerWithin p limit root).outcome = .ok l →
      (g'.lowerWithin p' limit' root').outcome = .ok l' →
      (l.reference.text = l'.reference.text ↔ l.reference = l'.reference)) := by
  refine ⟨fun text r names => Reference.parse?_eq_some_iff,
    fun r r' => Reference.eq_of_text_eq, ?_⟩
  intro g g' p p' root root' limit limit' l l' hn hn' h h'
  refine ⟨Reference.eq_of_text_eq ?_ ?_, congrArg Reference.text⟩
  · exact (lowers_of_lowerWithin h).hasPlainNames hn
  · exact (lowers_of_lowerWithin h').hasPlainNames hn'

theorem namesPlainly_knot {p : Profile} (hp : ∀ s, IsPlainName (p.name s))
    (hnone : p.noneClassName = "None") : knot.NamesPlainly p ⟨7⟩ where
  slots := hp
  own n name hn h := by
    rw [hnone] at hn
    have hmem : n ∈ [⟨7⟩, ⟨8⟩, ⟨1⟩, ⟨9⟩, ⟨10⟩, ⟨2⟩, ⟨11⟩] :=
      hn.mem_of_closed (by decide) (by decide)
    have hshape : ∀ m ∈ [⟨7⟩, ⟨8⟩, ⟨1⟩, ⟨9⟩, ⟨10⟩, ⟨2⟩, ⟨11⟩],
        (knot.shape m).kind? ≠ some .namedClass ∧ (knot.shape m).kind? ≠ some .namedModule := by
      decide
    obtain ⟨hcls, hmodule⟩ := hshape n hmem
    rcases h with h | h
    · exact absurd (congrArg Shape.kind? h) hcls
    · exact absurd (congrArg Shape.kind? h) hmodule

/-- Names may be empty and begin with blanks. The set in `knot` is written otherwise where lists have
another name. -/
theorem text_decodable_knot :
    Reference.parse? "< a, b<>>" =
      some (.mk "" [.named " a", .mk "b" [.named ""]], ["", " a", "b", ""]) ∧
    ∃ l l', (knot.lowerWithin {} 150 ⟨7⟩).outcome = .ok l ∧
      (knot.lowerWithin { listName := "IList" } 150 ⟨7⟩).outcome = .ok l' ∧
      l.reference.text ≠ l'.reference.text := by
  obtain ⟨hread, -, halike⟩ := text_decodable
  have hplain : ∀ s, IsPlainName (({} : Profile).name s) := by
    intro s
    cases s <;> decide
  have hplain' : ∀ s, IsPlainName (({ listName := "IList" } : Profile).name s) := by
    intro s
    cases s <;> decide
  have hl : (knot.lowerWithin {} 150 ⟨7⟩).outcome = .ok _ := rfl
  have hl' : (knot.lowerWithin { listName := "IList" } 150 ⟨7⟩).outcome = .ok _ := rfl
  have hiff := halike _ _ _ _ _ _ _ _ _ _ (namesPlainly_knot hplain rfl)
    (namesPlainly_knot hplain' rfl) hl hl'
  refine ⟨(hread _ _ _).mpr ⟨by decide, by rfl, by rfl⟩, _, _, hl, hl', ?_⟩
  intro htext
  exact absurd (hiff.mp htext) (by decide)

end Graph

end TypeLowering
