import TypeLowering.Proofs.Element

/-!
# What is found for a syntax node

The type of a syntax node can be looked up and then lowered, or lowered by the key of the syntax node.
A node that was never recorded is of unknown type either way. A node that is recorded with no type is
opaque by its key, while a lookup finds the null value, which no rule covers.

* `found`: what a lookup finds, as a node of a graph. `describeType_eq` says that this is what is
  described.
* `lookups_agree`: the two ways agree unless a syntax node is recorded with no type
  (`lookups_disagree_unrecorded`).
-/

namespace TypeLowering

namespace Bindings

variable {b : Bindings} {g : Graph} {p : Profile} {key : SyntaxKey}

theorem typeOf_of_unbound (h : Entries.find? b key = none) :
    b.typeOf key = some Builtin.unknown.node := by
  rw [typeOf, h, Option.getD_none]

theorem typeOf_of_bound {n? : Option Node} (h : Entries.find? b key = some n?) :
    b.typeOf key = n? := by
  rw [typeOf, h, Option.getD_some]

theorem lowerTypeOf_of_ne_bound (h : ∀ n, Entries.find? b key ≠ some (some n)) :
    b.lowerTypeOf g p key = ⟨[.typeNotFound key.literal], .ok (.opaqueType p)⟩ := by
  unfold lowerTypeOf
  split
  · next n hn => exact absurd hn (h n)
  · rfl

end Bindings

namespace Graph

variable {g : Graph} {p : Profile} {n : Node}

/-- A node of unknown type is opaque. -/
theorem lower_unknown (hn : g.shape n = .unknown) :
    (g.lower p n).outcome = .ok (.opaqueType p) := by
  have hf : g.form p.noneClassName n = .leaf (.slot .object) := by
    rw [form, hn]
  rw [lower, lowerWithin_outcome, lowerBelow_leaf List.not_mem_nil hf]
  rfl

theorem type?_of_null (hn : g.shape n = .foreign .null) : g.type? n = none := by
  rw [type?, hn]

/-- The null value is refused where it is met. -/
theorem lower_null (hn : g.shape n = .foreign .null) :
    (g.lower p n).outcome = .error (.unsupported n 0) := by
  have hf : g.form p.noneClassName n = .outside := by
    rw [form, hn]
  rw [lower, lowerWithin_outcome, lowerBelow_outside List.not_mem_nil hf]
  rfl

end Graph

namespace Session

variable {s : Session} {key : SyntaxKey} {n : Node}

/-- What a lookup finds for a syntax node; where no type is recorded that is the null value. -/
def found (s : Session) (key : SyntaxKey) : Graph × Node :=
  match s.bindings.typeOf key with
  | some n => (s.graph, n)
  | none => s.graph.place (.foreign .null)

theorem describeType_eq (s : Session) (key : SyntaxKey) :
    s.describeType (s.bindings.typeOf key) = s.describe (s.found key).1 (s.found key).2 := by
  unfold found
  cases s.bindings.typeOf key <;> rfl

theorem found_of_unbound (h : Entries.find? s.bindings key = none) :
    s.found key = (s.graph, Builtin.unknown.node) := by
  rw [found, Bindings.typeOf_of_unbound h]

theorem found_of_bound (h : Entries.find? s.bindings key = some (some n)) :
    s.found key = (s.graph, n) := by
  rw [found, Bindings.typeOf_of_bound h]

theorem shape_found_of_untyped (h : Entries.find? s.bindings key = some none) :
    (s.found key).1.shape (s.found key).2 = .foreign .null := by
  rw [found, Bindings.typeOf_of_bound h]
  exact Graph.shape_place s.graph (.foreign .null)

/-- **Two ways to the type of a syntax node.** In every session, a lookup, whose result is described, finds
the unknown type for a syntax node that is not recorded, and the recorded type, which is not the null
value, for one that is recorded with a type. Lowering what is found then comes to the same as lowering
by the key. For a syntax node that is recorded with no type a lookup finds the null value, which is
refused, while it is opaque by its key; so this is the one case in which the two differ. -/
theorem lookups_agree (hs : s.Reached) (p : Profile) (key : SyntaxKey) :
    s.describeType (s.bindings.typeOf key) = s.describe (s.found key).1 (s.found key).2 ∧
    (Entries.find? s.bindings key = none →
      s.found key = (s.graph, Builtin.unknown.node) ∧
        s.graph.shape Builtin.unknown.node = .unknown) ∧
    (∀ n, Entries.find? s.bindings key = some (some n) →
      s.found key = (s.graph, n) ∧ s.graph.shape n ≠ .foreign .null) ∧
    (Entries.find? s.bindings key = some none →
      (s.found key).1.shape (s.found key).2 = .foreign .null ∧
        ((s.found key).1.lower p (s.found key).2).outcome =
          .error (.unsupported (s.found key).2 0) ∧
        (s.bindings.lowerTypeOf s.graph p key).outcome = .ok (.opaqueType p)) ∧
    (Entries.find? s.bindings key ≠ some none ↔
      (s.bindings.lowerTypeOf s.graph p key).outcome =
        ((s.found key).1.lower p (s.found key).2).outcome) := by
  have hunknown := hs.shape_builtin .unknown
  have huntyped : Entries.find? s.bindings key = some none →
      (s.found key).1.shape (s.found key).2 = .foreign .null ∧
        ((s.found key).1.lower p (s.found key).2).outcome =
          .error (.unsupported (s.found key).2 0) ∧
        (s.bindings.lowerTypeOf s.graph p key).outcome = .ok (.opaqueType p) := by
    intro h
    have hshape := shape_found_of_untyped h
    refine ⟨hshape, Graph.lower_null hshape, ?_⟩
    rw [Bindings.lowerTypeOf_of_ne_bound fun n hn => by cases h.symm.trans hn]
  refine ⟨s.describeType_eq key, fun h => ⟨found_of_unbound h, hunknown⟩,
    fun n h => ⟨found_of_bound h, (hs.knows.types key n h).2⟩, huntyped, fun hne => ?_,
    fun heq h => ?_⟩
  · cases h : Entries.find? s.bindings key with
    | none =>
      rw [found_of_unbound h, Graph.lower_unknown hunknown,
        Bindings.lowerTypeOf_of_ne_bound fun n hn => by cases h.symm.trans hn]
    | some n? =>
      cases n? with
      | none => exact absurd h hne
      | some n => rw [found_of_bound h, Bindings.lowerTypeOf_of_bound h]
  · obtain ⟨-, hfound, hkey⟩ := huntyped h
    rw [hfound, hkey] at heq
    cases heq

/-- A session in which one syntax node is recorded as a string and another one with no type. -/
def partlyTyped : Session :=
  start [] [(.text "typed", .builtin .string), (.text "untyped", .fresh (.foreign .null))]
    (some {}) false

/-- A type that is recorded is found, the unknown type where nothing is recorded, and once the record
without type is taken away the two ways agree there as well. -/
theorem lookups_agree_partlyTyped :
    partlyTyped.found (.text "typed") = (partlyTyped.graph, Builtin.string.node) ∧
    partlyTyped.found (.text "other") = (partlyTyped.graph, Builtin.unknown.node) ∧
    ∃ s, s = (partlyTyped.step (.unbind (.text "untyped"))).1 ∧
      (s.bindings.lowerTypeOf s.graph {} (.text "untyped")).outcome =
        ((s.found (.text "untyped")).1.lower {} (s.found (.text "untyped")).2).outcome := by
  have hs : partlyTyped.Reached := .start _ _ _ _
  obtain ⟨-, -, htyped, -⟩ := lookups_agree hs {} (.text "typed")
  obtain ⟨-, hother, -⟩ := lookups_agree hs {} (.text "other")
  obtain ⟨-, -, -, -, hagree⟩ :=
    lookups_agree (hs.step (.unbind (.text "untyped"))) {} (.text "untyped")
  exact ⟨(htyped _ rfl).1, (hother rfl).1, _, rfl, hagree.mp fun h => by cases h⟩

/-- **A record without type is not found as the unknown type**, and lowering what is found fails where
lowering by the key does not. -/
theorem lookups_disagree_unrecorded :
    Entries.find? partlyTyped.bindings (.text "untyped") = some none ∧
    (partlyTyped.found (.text "untyped")).1.shape (partlyTyped.found (.text "untyped")).2 ≠
      .unknown ∧
    ((partlyTyped.found (.text "untyped")).1.lower {}
        (partlyTyped.found (.text "untyped")).2).outcome =
      .error (.unsupported (partlyTyped.found (.text "untyped")).2 0) ∧
    (partlyTyped.bindings.lowerTypeOf partlyTyped.graph {} (.text "untyped")).outcome =
      .ok ⟨.named "object", none⟩ := by
  have hfind : Entries.find? partlyTyped.bindings (.text "untyped") = some none := by
    show Entries.find? (Entries.put _ (SyntaxKey.text "untyped") (Graph.type? _ _)) _ = _
    rw [Entries.find?_put, if_pos rfl]
    exact congrArg some (Graph.type?_of_null (Graph.shape_place Graph.base (.foreign .null)))
  have hshape := shape_found_of_untyped hfind
  refine ⟨hfind, ?_, Graph.lower_null hshape, ?_⟩
  · rw [hshape]
    exact fun h => by cases h
  · rw [Bindings.lowerTypeOf_of_ne_bound fun n hn => by cases hfind.symm.trans hn]
    rfl

end Session

end TypeLowering
