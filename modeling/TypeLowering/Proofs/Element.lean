import TypeLowering.Proofs.Cutting
import TypeLowering.Proofs.Reached

/-!
# The element of a list

The type of a syntax node that is a list can be lowered as a whole or at its element. The two runs begin
at different nodes of one graph, so they cut its cycles at different places. They still fit together: both
give a reference or both are refused for the same value, and the list is the element put in its place,
opaque where the element leads back to the list.

* `Walk.eq_of_mem`: a walk from the element that leaves the list behind ends at the element again, since
  that is all that the list leads to.
* `ok_list_of_ok`, `unsupported_list_of_unsupported`: what the outcome for the element says about the list.
* `lowering_list_element`: both at once for the recorded types of a session.
-/

namespace TypeLowering

namespace Graph

variable {g : Graph} {c : String} {p : Profile} {limit room : Nat} {path above : List Node}
  {L E n e : Node} {pos : List Nat} {l a : Lowered}

theorem children_list (hL : g.shape L = .list E) : g.children c L = [E] := by
  rw [children, hL]

theorem reaches_element (hL : g.shape L = .list E) : g.Reaches c L E :=
  .single (by rw [children_list hL]; exact List.mem_singleton_self E)

/-- What a list reaches is the list itself or is reached from its element. -/
theorem reaches_of_list (hL : g.shape L = .list E) (h : g.Reaches c L n) :
    n = L ∨ g.Reaches c E n := by
  rcases h.cases_head with heq | ⟨m, hm, hrest⟩
  · exact .inl heq.symm
  · rw [children_list hL, List.mem_singleton] at hm
    exact .inr (hm ▸ hrest)

/-! ### Walks from the element -/

/-- A walk from the element comes back to it where it leaves the list. -/
theorem Walk.eq_of_mem (hL : g.shape L = .list E) (hw : g.Walk c E pos above e)
    (hnd : above.Nodup) (hmem : L ∈ above) : e = E := by
  obtain ⟨before, after, rfl⟩ := List.append_of_mem hmem
  obtain ⟨pos', hrest⟩ := hw.drop
  cases hrest with
  | @step _ m _ i pos' _ hi hrest =>
    have hm : m = E := List.mem_singleton.mp (children_list (c := c) hL ▸ List.mem_of_getElem? hi)
    subst hm
    cases hrest with
    | refl => rfl
    | step _ _ =>
      -- the walk has left the element both at its start and after the list
      exfalso
      cases before with
      | nil =>
        cases hw with
        | step _ _ => exact absurd hnd (by simp)
      | cons k before =>
        cases hw with
        | step _ _ => exact absurd hnd (by simp)

theorem Walk.of_element (hL : g.shape L = .list E) (hw : g.Walk c E pos above e) :
    g.Walk c L (0 :: pos) (L :: above) e :=
  .step (by rw [children_list hL]; rfl) hw

/-- What is inside the element nests no deeper than what is inside the list. -/
theorem NestsWithin.of_list (hL : g.shape L = .list E) (h : g.NestsWithin c limit L) :
    g.NestsWithin c limit E := by
  intro pos above e hw hnd
  have hfresh : L ∉ above := by
    intro hmem
    have heq := hw.eq_of_mem hL (List.nodup_append.mp hnd).1 hmem
    subst heq
    cases hw with
    | refl => exact List.not_mem_nil hmem
    | step _ _ => exact absurd hnd (by simp)
  by_cases he : e = L
  · subst he
    rcases List.eq_nil_or_concat' above with rfl | ⟨above, m, rfl⟩
    · cases hw with
      | refl => exact h [] [] _ (.refl _) hnd
    · -- the walk that ends at the list begins there as well
      obtain ⟨pos', hw'⟩ := hw.take
      have hperm := List.perm_append_singleton e (above ++ [m])
      rw [hperm.countP_eq]
      exact h _ _ _ (hw'.of_element hL) (hperm.nodup_iff.mp hnd)
  · have hcount := h _ _ _ (hw.of_element hL) (List.nodup_cons.mpr ⟨fun hmem => ?_, hnd⟩)
    · exact Nat.le_trans (List.Sublist.countP_le (List.sublist_cons_self L _)) hcount
    · rcases List.mem_append.mp hmem with hmem | hmem
      · exact hfresh hmem
      · exact he (List.mem_singleton.mp hmem).symm

/-! ### The list and its element -/

theorem lowerBelow_list (hL : g.shape L = .list E) (hmem : L ∉ path) :
    (g.lowerBelow p (room + 1) path L).outcome =
      (g.lowerBelow p room (L :: path) E).outcome.map fun b => .branch p .list [b] := by
  have hf : g.form p.noneClassName L = .branch .list [E] := by
    rw [form, hL]
  rw [lowerBelow_branch hmem hf]
  show (Traced.each _ [E]).outcome.map _ = _
  rw [Traced.outcome_each_cons]
  cases (g.lowerBelow p room (L :: path) E).outcome <;> rfl

/-- The list is lowered to the element in its place, without what leads back to the list. -/
theorem ok_list_of_ok (hL : g.shape L = .list E) (hnest : g.NestsWithin p.noneClassName (room + 1) L)
    (ha : (g.lowerBelow p (room + 1) [] E).outcome = .ok a) :
    ∃ b, (g.lowerBelow p (room + 1) [] L).outcome = .ok (.branch p .list [b]) ∧
      g.IsCut p [L] E a b := by
  have hopen : ∀ e, e ∈ [L] ↔ e ∈ [L] ∨ e ∈ ([] : List Node) :=
    fun e => (or_iff_left List.not_mem_nil).symm
  obtain ⟨b, hb, hcut⟩ := lowerBelow_cut hopen ha
  have hlist : (g.lowerBelow p (room + 1) [] L).outcome =
      (g.lowerBelow p room [L] E).outcome.map fun b => .branch p .list [b] :=
    lowerBelow_list hL List.not_mem_nil
  have hdeep := hnest.ne_tooDeep
  rw [hlist] at hdeep
  -- there is room enough below the list, since lowering the list does not fail for depth
  have hroom : (g.lowerBelow p room [L] E).outcome ≠ .error .tooDeep :=
    fun he => hdeep (by rw [he]; rfl)
  have hroom' : (g.lowerBelow p (room + 1) [L] E).outcome ≠ .error .tooDeep := by
    rw [hb]
    exact fun he => by cases he
  rw [lowerBelow_eq_of_ne_tooDeep hroom hroom', hb] at hlist
  exact ⟨b, hlist, hcut⟩

theorem list_reference (hcut : g.IsCut p [L] E a l) :
    (Lowered.branch p .list [l]).reference = .mk p.listName
      [a.reference.prune p.objectName (g.leadsInto p.noneClassName [L] E)] := by
  rw [← hcut.reference]
  rfl

/-- A list and its element have the same namespaces, apart from that of lists. -/
theorem list_imports (hL : g.shape L = .list E) (hl : g.Lowers p [] L l) (ha : g.Lowers p [] E a) :
    l.imports = a.imports.add p.listNamespace := by
  have hnamespace : g.namespace? p L = p.listNamespace := by
    rw [namespace?, hL]
    rfl
  refine hl.isProper_imports.eq_of_names (ha.isProper_imports.add p.listNamespace) fun x => ?_
  rw [hl.mem_imports_iff, Requirement.mem_names_add, ha.mem_imports_iff]
  constructor
  · rintro ⟨e, he, hx⟩
    rcases reaches_of_list hL he with rfl | he
    · exact .inr (hnamespace ▸ hx)
    · exact .inl ⟨e, he, hx⟩
  · rintro (⟨e, he, hx⟩ | hx)
    · exact ⟨e, (reaches_element hL).trans he, hx⟩
    · exact ⟨L, .refl, hnamespace.trans hx⟩

/-! ### The refused value -/

/-- Walks to a value that no rule covers are the same from the list and from its element. -/
theorem visit_list_iff (hL : g.shape L = .list E) (hn : (g.shape n).isClosed = false) :
    g.Visit c [] L pos above n ↔
      ∃ pos' above', pos = 0 :: pos' ∧ above = L :: above' ∧ g.Visit c [] E pos' above' n := by
  constructor
  · intro hv
    obtain ⟨hw, hnd⟩ := visit_nil_iff.mp hv
    cases hw with
    | refl =>
      rw [hL] at hn
      cases hn
    | @step _ m _ i pos' above' hi hw =>
      rw [children_list hL] at hi
      cases i with
      | zero =>
        cases hi
        exact ⟨pos', above', rfl, rfl, visit_nil_iff.mpr ⟨hw, (List.nodup_cons.mp hnd).2⟩⟩
      | succ i => cases hi
  · rintro ⟨pos', above', rfl, rfl, hv⟩
    obtain ⟨hw, hnd⟩ := visit_nil_iff.mp hv
    refine visit_nil_iff.mpr ⟨hw.of_element hL, List.nodup_cons.mpr ⟨fun hmem => ?_, hnd⟩⟩
    -- past the list, the walk would end at the element, which is a container
    have heq := hw.eq_of_mem hL hnd hmem
    subst heq
    cases hw with
    | refl => exact List.not_mem_nil hmem
    | step hi _ =>
      have hcont := isContainer_of_mem_children (List.mem_of_getElem? hi)
      rw [Shape.isClosed_of_isContainer hcont] at hn
      cases hn

theorem exists_first_of_unsupported {depth : Nat}
    (h : (g.lowerWithin p limit e).outcome = .error (.unsupported n depth)) :
    ∃ pos above, g.Visit p.noneClassName [] e pos above n ∧ (g.shape n).isClosed = false ∧
      depth = above.length ∧
      ∀ pos' above' n', g.Visit p.noneClassName [] e pos' above' n' → (g.shape n').isClosed = false →
        ¬ pos' < pos := by
  obtain ⟨o, ho, hblocked⟩ := blocked_of_lowerWithin h
  cases o with
  | tooDeep => cases ho
  | unsupported m d =>
    cases ho
    obtain ⟨pos, above, hv, hclosed, hdepth, hfirst⟩ := hblocked.exists_first
    rw [List.length_nil, Nat.zero_add] at hdepth
    exact ⟨pos, above, hv, hclosed, hdepth, fun pos' above' n' hv' =>
      hfirst pos' above' n' hv' List.not_mem_nil⟩

/-- **Where the element is refused, so is the list**, for the same value below one container more. -/
theorem unsupported_list_of_unsupported {depth : Nat} (hL : g.shape L = .list E)
    (hnest : g.NestsWithin p.noneClassName limit L)
    (h : (g.lowerWithin p limit E).outcome = .error (.unsupported n depth)) :
    (g.lowerWithin p limit L).outcome = .error (.unsupported n (depth + 1)) := by
  obtain ⟨pos, above, hv, hclosed, rfl, hfirst⟩ := exists_first_of_unsupported h
  rcases hnest.ok_or_unsupported with ⟨l, hl⟩ | ⟨n', depth', h'⟩
  · have hreach := (reaches_element hL).trans (visit_nil_iff.mp hv).1.reaches
    rw [(lowers_of_lowerWithin hl).isClosed_of_reaches hreach] at hclosed
    cases hclosed
  · obtain ⟨_, _, hv', hclosed', rfl, hfirst'⟩ := exists_first_of_unsupported h'
    obtain ⟨pos', above', rfl, rfl, hvE⟩ := (visit_list_iff hL hclosed').mp hv'
    -- each run finds the value of the other one on its way, so neither comes first
    have hnot : ¬ pos < pos' := fun hlt =>
      hfirst' _ _ _ ((visit_list_iff hL hclosed).mpr ⟨pos, above, rfl, rfl, hv⟩) hclosed (.cons hlt)
    have hnot' : ¬ pos' < pos := hfirst _ _ _ hvE hclosed'
    obtain rfl : pos = pos' := List.le_antisymm (List.not_lt.mp hnot') (List.not_lt.mp hnot)
    have hw := (visit_nil_iff.mp hv).1
    have hw' := (visit_nil_iff.mp hvE).1
    obtain rfl : n = n' := Option.some.inj
      ((follow?_eq_some_iff.mpr ⟨_, hw⟩).symm.trans (follow?_eq_some_iff.mpr ⟨_, hw'⟩))
    rw [h', List.length_cons, ← hw'.length_eq, ← hw.length_eq]

/-- What lowering a list and lowering its element have in common. -/
theorem list_and_element (hL : g.shape L = .list E)
    (hnest : g.NestsWithin p.noneClassName (room + 1) L) :
    (∃ l a, (g.lowerWithin p (room + 1) L).outcome = .ok l ∧
      (g.lowerWithin p (room + 1) E).outcome = .ok a ∧
      l.reference = .mk p.listName
        [a.reference.prune p.objectName (g.leadsInto p.noneClassName [L] E)] ∧
      (¬ g.Reaches p.noneClassName E L → l.reference = .mk p.listName [a.reference]) ∧
      l.imports = a.imports.add p.listNamespace) ∨
    ∃ n depth, (g.lowerWithin p (room + 1) L).outcome = .error (.unsupported n (depth + 1)) ∧
      (g.lowerWithin p (room + 1) E).outcome = .error (.unsupported n depth) := by
  rcases (hnest.of_list hL).ok_or_unsupported with ⟨a, ha⟩ | ⟨n, depth, hn⟩
  · have ha' := ha
    rw [lowerWithin_outcome] at ha'
    obtain ⟨b, hb, hcut⟩ := ok_list_of_ok hL hnest (of_mapError_eq_ok ha')
    have hl : (g.lowerWithin p (room + 1) L).outcome = .ok (.branch p .list [b]) := by
      rw [lowerWithin_outcome, hb]
      rfl
    refine .inl ⟨_, a, hl, ha, list_reference hcut, fun hfree => ?_,
      list_imports hL (lowers_of_lowerWithin hl) (lowers_of_lowerWithin ha)⟩
    have hunmarked : ∀ pos, g.leadsInto p.noneClassName [L] E pos = false :=
      leadsInto_eq_false fun m hm => List.mem_singleton.mp hm ▸ hfree
    rw [list_reference hcut, Reference.prune_eq_self _ hunmarked]
  · exact .inr ⟨n, depth, unsupported_list_of_unsupported hL hnest hn, hn⟩

end Graph

/-! ### Recorded types -/

namespace Bindings

variable {b : Bindings} {g : Graph} {p : Profile} {key : SyntaxKey} {n L E : Node}

theorem lowerTypeOf_of_bound (h : Entries.find? b key = some (some n)) :
    b.lowerTypeOf g p key = g.lower p n := by
  rw [lowerTypeOf, h]

theorem lowerListElementOf_of_list (h : Entries.find? b key = some (some L))
    (hL : g.shape L = .list E) : b.lowerListElementOf g p key = g.lower p E := by
  rw [lowerListElementOf, typeOf, h, Option.getD_some, Option.map_some, hL]

/-- What is not a list has no element, and neither has what is not recorded. -/
theorem lowerListElementOf_of_ne_list (hunknown : g.shape Builtin.unknown.node = .unknown)
    (h : ∀ L E, Entries.find? b key = some (some L) → g.shape L ≠ .list E) :
    b.lowerListElementOf g p key = ⟨[], .ok (.opaqueType p)⟩ := by
  unfold lowerListElementOf typeOf
  split
  · next E hE =>
    exfalso
    obtain ⟨L, hL, hshape⟩ := Option.map_eq_some_iff.mp hE
    cases hfind : Entries.find? b key with
    | none =>
      rw [hfind] at hL
      cases hL
      rw [hunknown] at hshape
      cases hshape
    | some n? =>
      rw [hfind] at hL
      cases hL
      exact h L E hfind hshape
  · rfl

end Bindings

namespace Session

/-- **A list and its element.** Let a list be recorded for a syntax node of a session, in a graph that
nests within the limit below it. Then the list and its element are both lowered or both refused for the
same value, which is below one container more from the list. If they are lowered, the list is its
element in its place, opaque where the element leads back to the list, and needs what the element needs
together with the namespace of lists. The element of anything else, or of what is not recorded, is
opaque. -/
theorem lowering_list_element {s : Session} (hs : s.Reached) (p : Profile) (key : SyntaxKey) :
    (∀ L E, Entries.find? s.bindings key = some (some L) → s.graph.shape L = .list E →
      s.graph.NestsWithin p.noneClassName Graph.nestingLimit L →
      (∃ l a, (s.bindings.lowerTypeOf s.graph p key).outcome = .ok l ∧
        (s.bindings.lowerListElementOf s.graph p key).outcome = .ok a ∧
        l.reference = .mk p.listName
          [a.reference.prune p.objectName (s.graph.leadsInto p.noneClassName [L] E)] ∧
        (¬ s.graph.Reaches p.noneClassName E L → l.reference = .mk p.listName [a.reference]) ∧
        l.imports = a.imports.add p.listNamespace) ∨
      ∃ n depth, (s.bindings.lowerTypeOf s.graph p key).outcome =
          .error (.unsupported n (depth + 1)) ∧
        (s.bindings.lowerListElementOf s.graph p key).outcome = .error (.unsupported n depth)) ∧
    ((∀ L E, Entries.find? s.bindings key = some (some L) → s.graph.shape L ≠ .list E) →
      (s.bindings.lowerListElementOf s.graph p key).outcome = .ok ⟨.named p.objectName, none⟩) := by
  refine ⟨fun L E hfind hL hnest => ?_, fun hne => ?_⟩
  · rw [Bindings.lowerTypeOf_of_bound hfind, Bindings.lowerListElementOf_of_list hfind hL]
    exact Graph.list_and_element hL hnest
  · rw [Bindings.lowerListElementOf_of_ne_list (hs.shape_builtin .unknown) hne]
    rfl

/-- A session in which a list (node 7) of rows is recorded, each of which holds the list again. -/
def rows : Session :=
  start [("rows", .list (.declared "row")), ("row", .dict (.builtin .integer) (.declared "rows"))]
    [(.text "all", .declared "rows"), (.text "count", .builtin .integer)] (some {}) false

/-- The row alone holds the list of rows once, and in the list of rows the row holds nothing of it. -/
theorem lowering_list_element_rows :
    (∃ l a, (rows.bindings.lowerTypeOf rows.graph {} (.text "all")).outcome = .ok l ∧
      (rows.bindings.lowerListElementOf rows.graph {} (.text "all")).outcome = .ok a ∧
      l.reference = .mk "List" [.mk "Dictionary" [.named "int", .named "object"]] ∧
      a.reference = .mk "Dictionary" [.named "int", .mk "List" [.named "object"]] ∧
      l.imports = a.imports.add (some "System.Collections.Generic")) ∧
    (rows.bindings.lowerListElementOf rows.graph {} (.text "count")).outcome =
      .ok ⟨.named "object", none⟩ := by
  have hs : rows.Reached := .start _ _ _ _
  obtain ⟨hlist, -⟩ := lowering_list_element hs {} (.text "all")
  obtain ⟨-, hcount⟩ := lowering_list_element hs {} (.text "count")
  have hnest : rows.graph.NestsWithin "None" Graph.nestingLimit ⟨7⟩ :=
    (Graph.nestsWithin_size rows.graph "None" ⟨7⟩).mono (by decide)
  have ha : (rows.bindings.lowerListElementOf rows.graph {} (.text "all")).outcome = .ok _ := rfl
  refine ⟨?_, hcount fun L E hfind hL => ?_⟩
  · rcases hlist ⟨7⟩ ⟨8⟩ rfl rfl hnest with ⟨l, a, hl, ha', href, -, himports⟩ | ⟨n, depth, -, hn⟩
    · cases ha.symm.trans ha'
      exact ⟨l, _, hl, ha, href, rfl, himports⟩
    · cases ha.symm.trans hn
  · have hint : Entries.find? rows.bindings (.text "count") = some (some ⟨2⟩) := rfl
    cases hint.symm.trans hfind
    cases hL

end Session

end TypeLowering
