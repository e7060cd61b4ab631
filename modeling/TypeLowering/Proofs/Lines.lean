import Mathlib.Tactic.SplitIfs
import TypeLowering.Session
import TypeLowering.Proofs.Keys
import TypeLowering.Proofs.Lockstep

/-!
# Events on one line

An event of lowering is written as one line, in every layout (`Event.isLineOf_record`). Its texts hold
nothing that ends a line: a quoted text has escapes in their places (`Text.isOneLine_quoted`), and a key
that has no type is quoted in its record.
-/

namespace TypeLowering

/-! ### Texts on one line -/

namespace Text

/-- No character of the text ends a line. -/
def IsOneLine (s : String) : Prop :=
  ∀ c ∈ s.toList, isLineEnd c = false

instance : DecidablePred IsOneLine := fun s =>
  List.decidableBAll (fun c => isLineEnd c = false) s.toList

theorem IsOneLine.append {s t : String} (hs : IsOneLine s) (ht : IsOneLine t) :
    IsOneLine (s ++ t) := by
  intro c hc
  rw [String.toList_append, List.mem_append] at hc
  rcases hc with hc | hc
  · exact hs c hc
  · exact ht c hc

theorem IsOneLine.intercalate {sep : String} (hsep : IsOneLine sep) {pieces : List String}
    (h : ∀ s ∈ pieces, IsOneLine s) : IsOneLine (sep.intercalate pieces) := by
  induction pieces with
  | nil => exact fun c hc => by cases hc
  | cons s rest ih =>
    have hs : IsOneLine s := h s List.mem_cons_self
    cases rest with
    | nil =>
      rw [String.intercalate_singleton]
      exact hs
    | cons t rest =>
      rw [String.intercalate_cons_cons]
      exact (hs.append hsep).append (ih fun u hu => h u (List.mem_cons_of_mem _ hu))

/-- A code point within a row of the table is unprintable. -/
theorem any_unprintableRanges {n : Nat} (i : Nat) (r : Nat × Nat)
    (hr : unprintableRanges.toList[i]? = some r) (hn : r.1 ≤ n ∧ n ≤ r.2) :
    (unprintableRanges.any fun r => r.1 ≤ n && n ≤ r.2) = true := by
  rw [← Array.any_toList, List.any_eq_true]
  refine ⟨r, List.mem_of_getElem? hr, ?_⟩
  rw [Bool.and_eq_true, decide_eq_true_eq, decide_eq_true_eq]
  exact hn

/-- What ends a line is no printable character. -/
theorem isLineEnd_of_isPrintable {c : Char} (h : isPrintable c = true) : isLineEnd c = false := by
  rw [← Bool.not_eq_true]
  intro hend
  simp only [isLineEnd, Bool.or_eq_true, Bool.and_eq_true, decide_eq_true_eq, beq_iff_eq] at hend
  unfold isPrintable at h
  dsimp only at h
  generalize c.toNat = n at h hend
  by_cases hlow : n < 0x7f
  · rw [if_pos hlow, decide_eq_true_eq] at h
    omega
  · have hrow : (unprintableRanges.any fun r => r.1 ≤ n && n ≤ r.2) = true := by
      have hn : n = 0x85 ∨ n = 0x2028 ∨ n = 0x2029 := by omega
      rcases hn with rfl | rfl | rfl
      · exact any_unprintableRanges 1 (0x7f, 0xa0) rfl (by decide)
      · exact any_unprintableRanges 246 (0x2028, 0x202f) rfl (by decide)
      · exact any_unprintableRanges 246 (0x2028, 0x202f) rfl (by decide)
    rw [if_neg hlow, hrow] at h
    cases h

theorem isLineEnd_digitChar {n : Nat} (hn : n < 16) : isLineEnd n.digitChar = false :=
  (by decide : ∀ n : Fin 16, isLineEnd (Nat.digitChar n) = false) ⟨n, hn⟩

theorem isLineEnd_of_mem_toDigits {b n : Nat} (hb : 1 < b) (hb' : b ≤ 16) {c : Char}
    (hc : c ∈ Nat.toDigits b n) : isLineEnd c = false := by
  induction n using Nat.strongRecOn with
  | ind n ih =>
    rw [Nat.toDigits_eq_if hb] at hc
    split at hc
    · next hlt =>
      rw [List.mem_singleton] at hc
      rw [hc, isLineEnd_digitChar (by omega)]
    · next hle =>
      have hlt : n / b < n := Nat.div_lt_self (by omega) hb
      have hmod : n % b < b := Nat.mod_lt n (by omega)
      rcases List.mem_append.mp hc with hc | hc
      · exact ih _ hlt hc
      · rw [List.mem_singleton] at hc
        rw [hc, isLineEnd_digitChar (by omega)]

theorem isOneLine_natRepr (n : Nat) : IsOneLine n.repr := by
  intro c hc
  rw [Nat.repr_eq_ofList_toDigits, String.toList_ofList] at hc
  exact isLineEnd_of_mem_toDigits (by decide) (by decide) hc

theorem isOneLine_toString (n : Int) : IsOneLine (toString n) := by
  show IsOneLine n.repr
  rw [Int.repr_eq_if]
  split
  · exact isOneLine_natRepr _
  · exact IsOneLine.append (by decide) (isOneLine_natRepr _)

theorem exists_escapeCode_eq (c : Char) : ∃ letter width, isLineEnd letter = false ∧
    escapeCode c = '\\' :: letter :: hexDigits width c.toNat := by
  unfold escapeCode
  dsimp only
  split
  · exact ⟨'x', 2, by decide, rfl⟩
  · split
    · exact ⟨'u', 4, by decide, rfl⟩
    · exact ⟨'U', 8, by decide, rfl⟩

theorem isLineEnd_of_mem_escapeCode {c c' : Char} (h : c' ∈ escapeCode c) :
    isLineEnd c' = false := by
  obtain ⟨letter, width, hletter, heq⟩ := exists_escapeCode_eq c
  rw [heq, List.mem_cons, List.mem_cons] at h
  rcases h with rfl | rfl | h
  · rfl
  · exact hletter
  · rcases List.mem_append.mp h with h | h
    · rw [List.eq_of_mem_replicate h]
      rfl
    · exact isLineEnd_of_mem_toDigits (by decide) (by decide) h

theorem isLineEnd_of_mem_pair {a b c : Char} (ha : isLineEnd a = false) (hb : isLineEnd b = false)
    (hc : c ∈ [a, b]) : isLineEnd c = false := by
  rcases List.mem_cons.mp hc with rfl | hc
  · exact ha
  · rw [List.mem_singleton.mp hc]
    exact hb

/-- A character between quotes is written without ending the line. -/
theorem isLineEnd_of_mem_escapeChar {quote c c' : Char} (hquote : isLineEnd quote = false)
    (h : c' ∈ escapeChar quote c) : isLineEnd c' = false := by
  unfold escapeChar at h
  split_ifs at h with hc hn hr ht hp
  · refine isLineEnd_of_mem_pair rfl ?_ h
    rcases hc with rfl | rfl
    · exact hquote
    · rfl
  · exact isLineEnd_of_mem_pair rfl rfl h
  · exact isLineEnd_of_mem_pair rfl rfl h
  · exact isLineEnd_of_mem_pair rfl rfl h
  · rw [List.mem_singleton.mp h]
    exact isLineEnd_of_isPrintable hp
  · exact isLineEnd_of_mem_escapeCode h

theorem isOneLine_quoted (s : String) : IsOneLine (quoted s) := by
  have hquote : isLineEnd (quoteFor s.toList) = false := by
    unfold quoteFor
    split <;> rfl
  intro c hc
  rw [quoted, String.toList_ofList, List.cons_append, List.mem_cons, List.mem_append,
    List.mem_singleton, List.mem_flatMap] at hc
  rcases hc with rfl | ⟨c', -, hc⟩ | rfl
  · exact hquote
  · exact isLineEnd_of_mem_escapeChar hquote hc
  · exact hquote

end Text

/-! ### Records on one line -/

/-- The number of lines that are written. -/
def Written.lineCount : Written → Nat
  | .text lines => lines.length
  | .json _ => 1

/-- Whether a JSON object is written. -/
def Written.isJson : Written → Bool
  | .text _ => false
  | .json _ => true

/-- What is written for a record in a layout: one line, which is an object in the layout of objects. -/
structure Written.IsLineOf (w : Written) (r : Record) (layout : Layout) : Prop where
  written : r.written layout = .ok w
  lineCount : w.lineCount = 1
  isJson : w.isJson = true ↔ layout = .json

namespace Record

open Text

/-- A record without the fields that ask for something before it is written. -/
structure IsPlain (r : Record) : Prop where
  source : r.fields.find? "_record" = none
  arguments : r.fields.find? "positional_args" = none

/-- The texts of a record hold nothing that ends a line, and nothing stands below them. -/
structure FitsLine (r : Record) : Prop where
  event : IsOneLine r.event
  logger : IsOneLine r.logger
  keys : ∀ f ∈ r.fields, IsOneLine f.1
  values : ∀ f ∈ r.fields, IsOneLine f.2.plain
  stack : r.value? "stack" = none
  exception : r.value? "exception" = none

variable {r : Record}

theorem isOneLine_of_mem_piecesOf {key : String} {form : Json → String}
    {piece : String} (hp : piece ∈ r.piecesOf key form)
    (h : ∀ f ∈ r.fields, IsOneLine (form f.2)) : IsOneLine piece := by
  rw [piecesOf, Option.mem_toList, Option.map_eq_some_iff] at hp
  obtain ⟨v, hv, rfl⟩ := hp
  exact h _ (Entries.mem_of_find? hv)

theorem isOneLine_shown {v : Json} (h : IsOneLine v.plain) : IsOneLine (shown v) := by
  cases v with
  | text s =>
    rw [shown]
    split
    · exact isOneLine_quoted s
    · exact h
  | _ => exact h

theorem isOneLine_bracketed {v : Json} (h : IsOneLine v.plain) :
    IsOneLine (bracketed v) :=
  (IsOneLine.append (by decide) h).append (by decide)

theorem isOneLine_word (l : Level) : IsOneLine l.word := by
  cases l <;> simp only [Level.word] <;> decide

theorem FitsLine.loggerName (h : r.FitsLine) : IsOneLine r.loggerName := by
  unfold Record.loggerName
  split
  · decide
  · exact h.logger

theorem FitsLine.pieces (h : r.FitsLine) (isNamed : Bool) :
    ∀ piece ∈ r.pieces isNamed, IsOneLine piece := by
  intro piece hp
  have hbracketed : ∀ f ∈ r.fields, IsOneLine (bracketed f.2) :=
    fun f hf => isOneLine_bracketed (h.values f hf)
  simp only [Record.pieces, List.mem_append] at hp
  obtain ((((hp | hp) | hp) | hp) | hp) := hp
  · exact isOneLine_of_mem_piecesOf hp fun f hf =>
      IsOneLine.append (by decide) (isOneLine_shown (h.values f hf))
  · rw [List.mem_cons, List.mem_singleton] at hp
    rcases hp with rfl | rfl
    · exact (IsOneLine.append (by decide) (isOneLine_word r.level)).append (by decide)
    · exact h.event
  · split at hp
    · rw [List.mem_singleton.mp hp]
      exact isOneLine_bracketed h.loggerName
    · exact isOneLine_of_mem_piecesOf hp hbracketed
  · exact isOneLine_of_mem_piecesOf hp hbracketed
  · obtain ⟨f, hf, rfl⟩ := List.mem_map.mp hp
    rw [List.mem_mergeSort, List.mem_filter] at hf
    exact ((h.keys f hf.1).append (by decide)).append (isOneLine_shown (h.values f hf.1))

theorem mem_of_mem_withoutBlanks {cs : List Char} {c : Char} (h : c ∈ withoutBlanks cs) :
    c ∈ cs := by
  rw [withoutBlanks, List.mem_reverse] at h
  exact List.mem_reverse.mp ((List.dropWhile_sublist _).subset h)

/-- A record whose texts are on one line is written as one line. -/
theorem FitsLine.length_lines (h : r.FitsLine) (isNamed : Bool) :
    (r.lines isNamed).length = 1 := by
  have hbelow : r.below isNamed = "" := by
    simp only [below, h.stack, h.exception]
    rfl
  have hbody : IsOneLine (" ".intercalate (r.pieces isNamed)) :=
    IsOneLine.intercalate (by decide) (h.pieces isNamed)
  rw [lines, text, hbelow]
  show (linesFrom [] (_ ++ ['\n'])).length = 1
  rw [linesFrom_append_lineFeed [] fun c hc => hbody c (mem_of_mem_withoutBlanks hc)]
  rfl

/-- Where a record is written at all, it is an object in the layout of objects and else text. -/
theorem isJson_of_written {layout : Layout} {w : Written} (h : r.written layout = .ok w) :
    w.isJson = true ↔ layout = .json := by
  cases layout with
  | bare =>
    cases h
    simp [Written.isJson]
  | _ =>
    simp only [written] at h
    cases hprepared : r.prepared with
    | error f =>
      rw [hprepared] at h
      cases h
    | ok p =>
      rw [hprepared] at h
      cases h
      simp [Written.isJson]

theorem prepared_of_isPlain (h : r.IsPlain) : r.prepared = .ok r := by
  have hfields : (r.fields.filter fun f => outlastsArguments f.1 f.2) = r.fields := by
    refine List.filter_eq_self.mpr fun f hf => ?_
    have hkey : f.1 ≠ "positional_args" := Entries.ne_of_find?_eq_none h.arguments hf
    simp [outlastsArguments, hkey]
  have hfilled : r.filledEvent = .ok r.event := by
    simp only [filledEvent, arguments?, h.arguments, Option.filter_none]
  simp only [prepared, h.source, Option.getD_none, Json.isNull, hfilled, hfields, if_true]

/-- What is written for a record as it is. -/
def asWritten (r : Record) : Layout → Written
  | .bare => .text (r.lines false)
  | .text => .text (r.lines true)
  | .json => .json r.members

/-- A record that asks for nothing is written as it is. -/
theorem written_of_isPlain (h : r.IsPlain) (layout : Layout) :
    r.written layout = .ok (r.asWritten layout) := by
  cases layout with
  | bare => rfl
  | _ =>
    rw [written, prepared_of_isPlain h]
    rfl

/-- A record that asks for nothing is written as one line, at least where its texts are on one line or
an object is written. -/
theorem IsPlain.isLineOf (h : r.IsPlain) {layout : Layout} (hline : layout = .json ∨ r.FitsLine) :
    (r.asWritten layout).IsLineOf r layout where
  written := written_of_isPlain h layout
  lineCount := by
    rcases hline with rfl | hline
    · rfl
    · cases layout with
      | bare => exact hline.length_lines false
      | text => exact hline.length_lines true
      | json => rfl
  isJson := isJson_of_written (written_of_isPlain h layout)

end Record

/-! ### Events of lowering -/

theorem SyntaxKey.isOneLine_literal (key : SyntaxKey) :
    Text.IsOneLine key.literal := by
  cases key with
  | null => exact (by decide : Text.IsOneLine "None")
  | integer n => exact Text.isOneLine_toString n
  | text s => exact Text.isOneLine_quoted s

namespace Event

/-- The key that an event names is that of a syntax node. -/
def HasKey (e : Event) : Prop :=
  ∀ text, e = .typeNotFound text → ∃ key : SyntaxKey, text = key.literal

variable {e : Event}

theorem isPlain_record (e : Event) : e.record.IsPlain := by
  cases e <;> exact ⟨rfl, rfl⟩

theorem isOneLine_name (e : Event) : Text.IsOneLine e.name := by
  cases e <;> simp only [name] <;> decide

theorem isOneLine_logger (e : Event) : Text.IsOneLine e.logger := by
  cases e <;> simp only [logger] <;> decide

theorem isOneLine_kind (kind : Option Kind) :
    Text.IsOneLine ((kind.map fun k => Json.text k.text).getD .null).plain := by
  cases kind with
  | none => exact (by decide : Text.IsOneLine "None")
  | some k =>
    show Text.IsOneLine k.text
    cases k <;> decide

theorem isOneLine_field (h : e.HasKey) :
    ∀ f ∈ e.fields, Text.IsOneLine f.1 ∧ Text.IsOneLine f.2.plain := by
  cases e with
  | cycleCut kind depth =>
    simp only [fields, List.forall_mem_cons]
    exact ⟨⟨by decide, isOneLine_kind kind⟩, ⟨by decide, Text.isOneLine_toString depth⟩,
      List.forall_mem_nil _⟩
  | overloadsCollapsed signatures =>
    simp only [fields, List.forall_mem_cons]
    exact ⟨⟨by decide, Text.isOneLine_toString signatures⟩, List.forall_mem_nil _⟩
  | typeNotFound text =>
    obtain ⟨key, rfl⟩ := h text rfl
    simp only [fields, List.forall_mem_cons]
    exact ⟨⟨by decide, key.isOneLine_literal⟩, List.forall_mem_nil _⟩

theorem fitsLine_record (h : e.HasKey) : e.record.FitsLine where
  event := isOneLine_name e
  logger := isOneLine_logger e
  keys f hf := (isOneLine_field h f hf).1
  values f hf := (isOneLine_field h f hf).2
  stack := by cases e <;> rfl
  exception := by cases e <;> rfl

/-- An event is written as one line in every layout. -/
theorem isLineOf_record (h : e.HasKey) (layout : Layout) :
    (e.record.asWritten layout).IsLineOf e.record layout :=
  (isPlain_record e).isLineOf (.inr (fitsLine_record h))

end Event

/-! ### Where events come from -/

/-- All events of a computation that name a key name that of a syntax node. -/
def Traced.HasKeys {ε α : Type} (t : Traced ε α) : Prop :=
  ∀ e ∈ t.events, e.HasKey

namespace Traced

variable {ε ε' α β : Type} {t : Traced ε α}

theorem hasKeys_of_events_eq_nil (h : t.events = []) : t.HasKeys := by
  intro e he
  rw [h] at he
  cases he

theorem HasKeys.mapFailure (h : t.HasKeys) (f : ε → ε') : (t.mapFailure f).HasKeys := h

theorem HasKeys.bind (h : t.HasKeys) {f : α → Traced ε β} (hf : ∀ a, (f a).HasKeys) :
    (t.bind f).HasKeys := by
  intro e he
  unfold Traced.bind at he
  split at he
  · exact h e he
  · next a _ =>
    rcases List.mem_append.mp he with he | he
    · exact h e he
    · exact hf a e he

end Traced

namespace Graph

variable {g : Graph}

theorem hasKeys_overloadEvents (g : Graph) (n : Node) : ∀ e ∈ g.overloadEvents n, e.HasKey := by
  intro e he key hkey
  unfold overloadEvents at he
  split at he
  · rw [List.mem_singleton.mp he] at hkey
    cases hkey
  · cases he

/-- A run of lowering keeps step with itself, whatever is asked of its events. -/
theorem lockstep_self (g : Graph) (c : String) :
    Lockstep g g c (fun es _ => ∀ e ∈ es, e.HasKey) Eq 0
      (fun path n path' n' => path = path' ∧ n = n') where
  additive := {
    nil := fun e he => by cases he
    append := fun h h' e he => (List.mem_append.mp he).elim (h e) (h' e) }
  related h := h.2
  length_eq h := by rw [h.1]; rfl
  mem_iff h := by rw [h.1, h.2]
  cut := by
    intro path n path' n' h hmem e he key hkey
    rw [List.mem_singleton.mp he] at hkey
    cases hkey
  overloads {path n path' n'} h hmem := g.hasKeys_overloadEvents n
  form := by
    rintro path n _ _ ⟨rfl, rfl⟩ hmem
    cases g.form c n with
    | branch s children => exact .branch s (List.forall₂_same.mpr fun m _ => ⟨rfl, rfl⟩)
    | leaf l => exact .leaf l
    | bareCall => exact .bareCall
    | outside => exact .outside

theorem hasKeys_selectArrow? {n : Node} {t : Traced Failure (Node × Node)}
    (h : g.selectArrow? n = some t) : t.HasKeys := by
  unfold selectArrow? at h
  split at h
  · cases h
    exact g.hasKeys_overloadEvents n
  · cases h

theorem hasKeys_lower (g : Graph) (p : Profile) (root : Node) : (g.lower p root).HasKeys :=
  ((g.lockstep_self p.noneClassName).matches nestingLimit ⟨rfl, rfl⟩).events

end Graph

theorem Bindings.hasKeys_lowerTypeOf (b : Bindings) (g : Graph) (p : Profile) (key : SyntaxKey) :
    (b.lowerTypeOf g p key).HasKeys := by
  unfold lowerTypeOf
  split
  · exact g.hasKeys_lower p _
  · intro e he text htext
    rw [List.mem_singleton.mp he] at htext
    cases htext
    exact ⟨key, rfl⟩

theorem Bindings.hasKeys_lowerListElementOf (b : Bindings) (g : Graph) (p : Profile)
    (key : SyntaxKey) : (b.lowerListElementOf g p key).HasKeys := by
  unfold lowerListElementOf
  split
  · exact g.hasKeys_lower p _
  · exact Traced.hasKeys_of_events_eq_nil rfl

namespace Session

variable {s : Session}

theorem hasKeys_lowerIn {α : Type} (g : Graph) {f : Profile → Traced Failure α}
    (hf : ∀ p, (f p).HasKeys) : (s.lowerIn g f).HasKeys := by
  unfold lowerIn
  split
  · exact Traced.hasKeys_of_events_eq_nil rfl
  · exact hf _

theorem hasKeys_lowerBlueprint (s : Session) (b : Blueprint) : (s.lowerBlueprint b).HasKeys :=
  hasKeys_lowerIn _ fun p => Graph.hasKeys_lower _ p _

theorem hasKeys_lowerTypeOf (s : Session) (key : SyntaxKey) : (s.lowerTypeOf key).HasKeys :=
  hasKeys_lowerIn _ fun p => s.bindings.hasKeys_lowerTypeOf s.graph p key

theorem hasKeys_selectArrow (s : Session) (b : Blueprint) : (s.selectArrow b).HasKeys := by
  unfold selectArrow
  dsimp only
  split
  · exact Traced.hasKeys_of_events_eq_nil rfl
  · next t ht =>
    exact ((Graph.hasKeys_selectArrow? ht).mapFailure _).bind fun a =>
      Traced.hasKeys_of_events_eq_nil rfl

theorem hasKeys_collect {t : Traced Fault Lowered} (h : t.HasKeys) : (s.collect t).2.HasKeys := by
  unfold collect
  split <;> exact h

/-- Every event of a step that names a key names that of a syntax node. -/
theorem hasKeys_perform (s : Session) (st : Step) : (s.perform st).2.HasKeys := by
  have hpure : ∀ {α β : Type} (a : β), (Traced.pure a : Traced α β).HasKeys :=
    fun a => Traced.hasKeys_of_events_eq_nil rfl
  cases st with
  | lower b => exact (s.hasKeys_lowerBlueprint b).bind fun l => hpure _
  | lowerTypeOf key => exact (s.hasKeys_lowerTypeOf key).bind fun l => hpure _
  | lowerListElementOf key =>
    exact (hasKeys_lowerIn _ fun p => s.bindings.hasKeys_lowerListElementOf s.graph p key).bind
      fun l => hpure _
  | typeOf key => exact hasKeys_lowerIn _ fun p => hpure _
  | isMissingResult b => exact hasKeys_lowerIn _ fun p => hpure _
  | compare a b =>
    exact hasKeys_lowerIn _ fun p => (Graph.hasKeys_lower _ p _).bind fun l =>
      (Graph.hasKeys_lower _ p _).bind fun l' => hpure _
  | selectArrow b => exact s.hasKeys_selectArrow b
  | collect b => exact hasKeys_collect (s.hasKeys_lowerBlueprint b)
  | collectTypeOf key => exact hasKeys_collect (s.hasKeys_lowerTypeOf key)
  | useProfile members =>
    simp only [perform]
    split <;> exact Traced.hasKeys_of_events_eq_nil rfl
  | setVariable name value =>
    simp only [perform]
    split <;> exact Traced.hasKeys_of_events_eq_nil rfl
  | makeSettings fields =>
    simp only [perform]
    split <;> exact Traced.hasKeys_of_events_eq_nil rfl
  | _ => exact Traced.hasKeys_of_events_eq_nil rfl

end Session

end TypeLowering
