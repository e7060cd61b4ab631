import Mathlib.Data.Finset.Card
import TypeLowering.Proofs.Keys
import TypeLowering.Proofs.Likeness
import TypeLowering.Session

/-!
# Overloaded callables

The call signatures of a callable are declared by pairs of a parameter and a result. A parameter that is
declared again keeps its place and takes the new result, so the first call signature has the parameter
of the first pair and the result of the last pair with that parameter (`Counts`).

* `exists_ofPairs_eq_cons`, `length_ofPairs`: the first of the entries that pairs make up, and their
  number.
* `DeclaredBy.selectArrow?_eq`: which call signature is kept, and what is noted when there are several.
* `DeclaredBy.outcome_eq`: nothing else about the pairs can be seen in what any node is lowered to.
-/

namespace TypeLowering

namespace Entries

variable {κ α : Type} [DecidableEq κ]

/-- The first entry has the key of the first pair and the last of its values. -/
theorem exists_ofPairs_eq_cons {pairs : List (κ × α)} {key : κ} {a : α}
    (hfirst : pairs.head?.map Prod.fst = some key) (hlast : last? (· = key) pairs = some a) :
    ∃ rest, ofPairs pairs = (key, a) :: rest := by
  cases pairs with
  | nil => cases hfirst
  | cons p pairs =>
    cases hfirst
    have hkeys : [p.1] <+: (ofPairs (p :: pairs)).map Prod.fst := keys_prefix_foldl_put [p] pairs
    have hfind := find?_ofPairs (p :: pairs) p.1
    cases hof : ofPairs (p :: pairs) with
    | nil =>
      rw [hof] at hkeys
      cases List.eq_nil_of_prefix_nil hkeys
    | cons e rest =>
      rw [hof] at hkeys hfind
      obtain ⟨key', a'⟩ := e
      obtain ⟨rfl, -⟩ := List.cons_prefix_cons.mp hkeys
      rw [hlast, find?, if_pos rfl] at hfind
      cases hfind
      exact ⟨rest, rfl⟩

/-- There are as many entries as different keys. -/
theorem length_ofPairs (pairs : List (κ × α)) :
    (ofPairs pairs).length = (pairs.map Prod.fst).toFinset.card := by
  have hkeys : ((ofPairs pairs).map Prod.fst).toFinset = (pairs.map Prod.fst).toFinset := by
    ext key
    rw [List.mem_toFinset, List.mem_toFinset, ofPairs, mem_keys_foldl_put]
    simp
  rw [← hkeys, List.toFinset_card_of_nodup (distinct_ofPairs pairs), List.length_map]

end Entries

namespace Graph

/-- The call signature that counts among pairs: the parameter of the first pair with the result of the
last pair that has this parameter. -/
structure Counts (pairs : List (Node × Node)) (arrow : Node × Node) : Prop where
  first : pairs.head?.map Prod.fst = some arrow.1
  last : ∃ before after, pairs = before ++ arrow :: after ∧ ∀ q ∈ after, q.1 ≠ arrow.1

/-- A node is a callable that pairs declare. Their parameters were types, and not plain values, in the
graph in which it was made. -/
def DeclaredBy (g : Graph) (n : Node) (pairs : List (Node × Node)) : Prop :=
  ∃ made : Graph, (∀ q ∈ pairs, ∀ value, made.shape q.1 ≠ .foreign value) ∧
    g.shape n = .function (made.arrowsOf pairs)

/-- What is noted about pairs: how many different parameters they have, if there are several. -/
def collapsedBy (pairs : List (Node × Node)) : List Event :=
  let parameters := (pairs.map Prod.fst).toFinset
  if 2 ≤ parameters.card then [.overloadsCollapsed parameters.card] else []

variable {g g' : Graph} {p : Profile} {c : String} {n m : Node} {pairs pairs' : List (Node × Node)}
  {arrow arrow' : Node × Node}

/-! ### The call signature that counts -/

theorem Counts.last?_eq (h : Counts pairs arrow) :
    Entries.last? (· = arrow.1) pairs = some arrow.2 :=
  Entries.last?_eq_some_iff.mpr h.last

theorem Counts.unique (h : Counts pairs arrow) (h' : Counts pairs arrow') : arrow = arrow' := by
  have hfst : arrow.1 = arrow'.1 := Option.some.inj (h.first.symm.trans h'.first)
  have hsnd := h.last?_eq
  rw [hfst, h'.last?_eq] at hsnd
  exact Prod.ext hfst (Option.some.inj hsnd).symm

theorem exists_counts (h : pairs ≠ []) : ∃ arrow, Counts pairs arrow := by
  obtain ⟨first, rest, rfl⟩ := List.exists_cons_of_ne_nil h
  have hsome : (Entries.last? (· = first.1) (first :: rest)).isSome = true :=
    Entries.isSome_last?_iff.mpr ⟨first.1, List.mem_cons_self, decide_eq_true rfl⟩
  obtain ⟨result, hresult⟩ := Option.isSome_iff_exists.mp hsome
  exact ⟨(first.1, result), rfl, Entries.last?_eq_some_iff.mp hresult⟩

/-! ### Callables that pairs declare -/

theorem sameParameter_eq (hm : ∀ value, g.shape m ≠ .foreign value) :
    g.sameParameter n m = decide (n = m) := by
  unfold sameParameter
  split
  · next v w _ hw => exact absurd hw (hm w)
  · rw [Bool.or_false]

/-- Parameters that are types are told apart by identity. -/
theorem putArrow_eq (arrows : Entries Node Node) (harrow : ∀ value, g.shape arrow.1 ≠ .foreign value) :
    g.putArrow arrows arrow = arrows.put arrow.1 arrow.2 := by
  have hparameter :
      ((arrows.map Prod.fst).find? (g.sameParameter · arrow.1)).getD arrow.1 = arrow.1 := by
    cases hfind : (arrows.map Prod.fst).find? (g.sameParameter · arrow.1) with
    | none => rfl
    | some k =>
      have hsame := List.find?_some hfind
      rw [sameParameter_eq harrow] at hsame
      exact of_decide_eq_true hsame
  rw [putArrow, hparameter]

theorem arrowsOf_eq_ofPairs (h : ∀ q ∈ pairs, ∀ value, g.shape q.1 ≠ .foreign value) :
    g.arrowsOf pairs = Entries.ofPairs pairs := by
  have hfold : ∀ (pairs : List (Node × Node)) (arrows : Entries Node Node),
      (∀ q ∈ pairs, ∀ value, g.shape q.1 ≠ .foreign value) →
      pairs.foldl g.putArrow arrows =
        pairs.foldl (fun es q => Entries.put es q.1 q.2) arrows := by
    intro pairs
    induction pairs with
    | nil => exact fun _ _ => rfl
    | cons q pairs ih =>
      intro arrows hpairs
      rw [List.foldl_cons, List.foldl_cons, putArrow_eq arrows (hpairs q List.mem_cons_self)]
      exact ih _ fun q' hq' => hpairs q' (List.mem_cons_of_mem q hq')
  exact hfold pairs [] h

namespace DeclaredBy

theorem shape_eq (h : g.DeclaredBy n pairs) : g.shape n = .function (Entries.ofPairs pairs) := by
  obtain ⟨made, htypes, hshape⟩ := h
  rw [hshape, arrowsOf_eq_ofPairs htypes]

theorem exists_shape_eq (h : g.DeclaredBy n pairs) (hcounts : Counts pairs arrow) :
    ∃ rest, g.shape n = .function (arrow :: rest) := by
  obtain ⟨rest, hrest⟩ := Entries.exists_ofPairs_eq_cons hcounts.first hcounts.last?_eq
  exact ⟨rest, by rw [h.shape_eq, hrest]⟩

theorem overloadEvents_eq (h : g.DeclaredBy n pairs) : g.overloadEvents n = collapsedBy pairs := by
  have hcount : g.arrowCount n = (pairs.map Prod.fst).toFinset.card := by
    rw [arrowCount, h.shape_eq]
    exact Entries.length_ofPairs pairs
  rw [overloadEvents, hcount]
  rfl

/-- **The first parameter is kept with its last result.** -/
theorem selectArrow?_eq (h : g.DeclaredBy n pairs) (hcounts : Counts pairs arrow) :
    g.selectArrow? n = some ⟨collapsedBy pairs, .ok arrow⟩ := by
  obtain ⟨rest, hshape⟩ := h.exists_shape_eq hcounts
  rw [selectArrow?, hshape, h.overloadEvents_eq]

/-- What is noted about the call signatures comes first when the callable is opened. -/
theorem exists_events_eq (h : g.DeclaredBy n pairs) (hcounts : Counts pairs arrow) {room : Nat}
    {path : List Node} (hn : n ∉ path) :
    ∃ later, (g.lowerBelow p room path n).events = collapsedBy pairs ++ later := by
  obtain ⟨rest, hshape⟩ := h.exists_shape_eq hcounts
  have hcontainer : g.isContainer n = true := by
    rw [isContainer, hshape]
    rfl
  obtain ⟨slot, hform, -⟩ := exists_branch_of_isContainer (p := p) hcontainer
  rw [← h.overloadEvents_eq]
  cases room with
  | zero =>
    rw [lowerBelow_full hn hform]
    exact ⟨[], (List.append_nil _).symm⟩
  | succ room =>
    rw [lowerBelow_branch hn hform]
    exact ⟨_, rfl⟩

/-! ### Other call signatures -/

/-- A callable is no instance and no class, so what it declares does not bear on instances. -/
theorem isInstanceOf_eq (h : g.DeclaredBy n pairs) (h' : g'.DeclaredBy n pairs')
    (hrest : ∀ m, m ≠ n → g.shape m = g'.shape m) (c : String) (m : Node) :
    g.isInstanceOf c m = g'.isInstanceOf c m := by
  unfold isInstanceOf
  by_cases hm : m = n
  · rw [hm, h.shape_eq, h'.shape_eq]
  · rw [hrest m hm]
    cases g'.shape m with
    | instanceOf cls =>
      by_cases hcls : cls = n
      · simp only [hcls, h.shape_eq, h'.shape_eq]
      · simp only [hrest cls hcls]
    | _ => rfl

/-- Pairs of which the same call signature counts leave what can be reached as it is. -/
theorem keeps (h : g.DeclaredBy n pairs) (h' : g'.DeclaredBy n pairs') (hcounts : Counts pairs arrow)
    (hcounts' : Counts pairs' arrow) (hrest : ∀ m, m ≠ n → g.shape m = g'.shape m) (c : String)
    (root : Node) : g.Keeps g' c root := by
  obtain ⟨rest, hshape⟩ := h.exists_shape_eq hcounts
  obtain ⟨rest', hshape'⟩ := h'.exists_shape_eq hcounts'
  have hinstance := h.isInstanceOf_eq h' hrest c
  refine ⟨fun m _ => ?_, fun m _ => ?_⟩
  · by_cases hm : m = n
    · rw [hm, hshape, hshape']
      exact .function arrow rest rest'
    · rw [hrest m hm]
      exact .same _
  · unfold isProcedure
    by_cases hm : m = n
    · rw [hm, hshape, hshape']
      exact hinstance arrow.2
    · rw [hrest m hm]
      cases g'.shape m with
      | function arrows =>
        cases arrows with
        | nil => rfl
        | cons first _ => exact hinstance first.2
      | _ => rfl

/-- **Only the call signature that counts can be seen.** -/
theorem outcome_eq (h : g.DeclaredBy n pairs) (h' : g'.DeclaredBy n pairs')
    (hcounts : Counts pairs arrow) (hcounts' : Counts pairs' arrow)
    (hrest : ∀ m, m ≠ n → g.shape m = g'.shape m) (p : Profile) (limit : Nat) (root : Node) :
    (g.lowerWithin p limit root).outcome = (g'.lowerWithin p limit root).outcome :=
  (h.keeps h' hcounts hcounts' hrest p.noneClassName root).outcome_eq limit

/-- A failure is reported in the same words: those about a callable do not tell what it declares. -/
theorem problem?_eq (h : g.DeclaredBy n pairs) (h' : g'.DeclaredBy n pairs')
    (hrest : ∀ m, m ≠ n → g.shape m = g'.shape m) (f : Failure) :
    (f.toFault g).problem? = (f.toFault g').problem? := by
  have hwords : ∀ m, (g.shape m).literal = (g'.shape m).literal ∧
      (g.shape m).typeName = (g'.shape m).typeName := by
    intro m
    by_cases hm : m = n
    · rw [hm, h.shape_eq, h'.shape_eq]
      exact ⟨rfl, rfl⟩
    · rw [hrest m hm]
      exact ⟨rfl, rfl⟩
  cases f with
  | unsupported m depth =>
    obtain ⟨hliteral, hname⟩ := hwords m
    simp only [Failure.toFault, Fault.problem?, Problem.unsupported, Problem.about, hliteral, hname]
  | tooDeep root =>
    obtain ⟨hliteral, hname⟩ := hwords root
    simp only [Failure.toFault, Fault.problem?, Problem.tooDeep, Problem.about, hliteral, hname]

end DeclaredBy

/-! ### All of it -/

/-- **Only the first declared call signature counts.** Of a callable that pairs declare, the parameter of
the first pair is kept with the result of the last pair that has it; there is one such call signature if
there is a pair at all. If there are at least two different parameters, their number is noted, and
otherwise nothing is, both when the call signature is asked for and when the callable is opened. And let two
graphs differ in nothing but the pairs that declare a callable, and let the same call signature count
for both. Then every node has the same reference with the same imports in both, or fails with the same
problem. -/
theorem first_signature_counts :
    (∀ (g : Graph) (n : Node) (pairs : List (Node × Node)), g.DeclaredBy n pairs → pairs ≠ [] →
      ∃ arrow, Counts pairs arrow ∧ (∀ arrow', Counts pairs arrow' → arrow' = arrow) ∧
        g.selectArrow? n = some ⟨collapsedBy pairs, .ok arrow⟩ ∧
        ∀ p room path, n ∉ path →
          ∃ later, (g.lowerBelow p room path n).events = collapsedBy pairs ++ later) ∧
    (∀ (g g' : Graph) (n : Node) (pairs pairs' : List (Node × Node)) (arrow : Node × Node),
      g.DeclaredBy n pairs → g'.DeclaredBy n pairs' → Counts pairs arrow → Counts pairs' arrow →
      (∀ m, m ≠ n → g.shape m = g'.shape m) →
      ∀ (p : Profile) (limit : Nat) (root : Node),
        (g.lowerWithin p limit root).outcome = (g'.lowerWithin p limit root).outcome ∧
        ∀ f : Failure, (f.toFault g).problem? = (f.toFault g').problem?) := by
  refine ⟨fun g n pairs h hpairs => ?_,
    fun g g' n pairs pairs' arrow h h' hcounts hcounts' hrest p limit root => ?_⟩
  · obtain ⟨arrow, hcounts⟩ := exists_counts hpairs
    exact ⟨arrow, hcounts, fun arrow' hcounts' => hcounts'.unique hcounts, h.selectArrow?_eq hcounts,
      fun p room path hn => h.exists_events_eq hcounts hn⟩
  · exact ⟨h.outcome_eq h' hcounts hcounts' hrest p limit root, h.problem?_eq h' hrest⟩

/-- Two lists of integers (nodes 8 and 9) and a value that no rule covers (node 10), beside a callable
(node 7) that pairs declare. -/
def overloaded (pairs : List (Node × Node)) : Graph :=
  let made : Graph := ⟨base.shapes ++ #[.unknown, .list ⟨2⟩, .list ⟨2⟩, .custom "FrozenSetType"]⟩
  made.replace ⟨7⟩ (.function (made.arrowsOf pairs))

theorem declaredBy_overloaded {pairs : List (Node × Node)}
    (h : ∀ q ∈ pairs, q.1 ∈ [⟨7⟩, ⟨8⟩, ⟨9⟩, ⟨10⟩]) : (overloaded pairs).DeclaredBy ⟨7⟩ pairs := by
  refine ⟨_, fun q hq value hvalue => ?_, shape_replace _ (by decide)⟩
  have hparameter := h q hq
  simp only [List.mem_cons, List.not_mem_nil, or_false] at hparameter
  rcases hparameter with heq | heq | heq | heq <;> rw [heq] at hvalue <;> cases hvalue

/-- The callable in `overloaded` with four call signatures for three parameters, one of them its own and
one without a rule, is lowered as with one call signature. -/
theorem first_signature_counts_overloaded :
    let pairs : List (Node × Node) := [(⟨8⟩, ⟨2⟩), (⟨9⟩, ⟨10⟩), (⟨7⟩, ⟨7⟩), (⟨8⟩, ⟨1⟩)]
    (overloaded pairs).selectArrow? ⟨7⟩ = some ⟨[.overloadsCollapsed 3], .ok (⟨8⟩, ⟨1⟩)⟩ ∧
    ∀ root, ((overloaded pairs).lowerWithin {} 150 root).outcome =
      ((overloaded [(⟨8⟩, ⟨1⟩)]).lowerWithin {} 150 root).outcome := by
  intro pairs
  obtain ⟨hselect, hsame⟩ := first_signature_counts
  have hdeclared : (overloaded pairs).DeclaredBy ⟨7⟩ pairs := declaredBy_overloaded (by decide)
  have hcounts : Counts pairs (⟨8⟩, ⟨1⟩) := ⟨rfl, pairs.take 3, [], rfl, by decide⟩
  refine ⟨?_, fun root => ?_⟩
  · obtain ⟨arrow, -, hunique, harrow, -⟩ := hselect _ _ _ hdeclared (by decide)
    rw [harrow, ← hunique _ hcounts]
    rfl
  · refine (hsame _ _ ⟨7⟩ _ [(⟨8⟩, ⟨1⟩)] _ hdeclared (declaredBy_overloaded (by decide)) hcounts
      ⟨rfl, [], [], rfl, by decide⟩ (fun m hm => ?_) {} 150 root).1
    rw [overloaded, overloaded, shape_replace_of_ne _ hm, shape_replace_of_ne _ hm]

end Graph

end TypeLowering
