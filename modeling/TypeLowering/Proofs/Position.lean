import TypeLowering.Proofs.Outcome

/-!
# What stands where in a reference

`Reference.at?` follows a list of indices into the arguments of a reference. `at?_lowerWithin` says
for every such position what a lowered node has there, in terms of the graph alone: the positions
are those of the walks that are cut where they meet a node again, and at each one stands the name of
the node that the walk ends at.

`Lowers.exists_at?` is the fact behind it: what stands at the end of a walk is what the node there
is lowered to below the nodes of the walk.
-/

namespace TypeLowering

namespace Reference

/-- The reference at a position, which leads from argument to argument. -/
def at? (r : Reference) : List Nat → Option Reference
  | [] => some r
  | i :: pos => r.arguments[i]?.bind fun a => a.at? pos

theorem at?_cons (r : Reference) (i : Nat) (pos : List Nat) :
    r.at? (i :: pos) = r.arguments[i]?.bind fun a => a.at? pos := rfl

theorem at?_append (r : Reference) (pos pos' : List Nat) :
    r.at? (pos ++ pos') = (r.at? pos).bind fun a => a.at? pos' := by
  induction pos generalizing r with
  | nil => rfl
  | cons i pos ih =>
    rw [List.cons_append, at?_cons, at?_cons]
    cases r.arguments[i]? with
    | none => rfl
    | some a => exact ih a

end Reference

/-- Below a callable of unknown signature are its two arguments, and nothing is inside them. -/
theorem Lowered.at?_bareCall_cons (p : Profile) (i : Nat) (pos : List Nat) :
    (Lowered.bareCall p).reference.at? (i :: pos) =
      if i < 2 ∧ pos = [] then some (.named p.objectName) else none := by
  match i with
  | 0 => cases pos <;> rfl
  | 1 => cases pos <;> rfl
  | i + 2 =>
    rw [if_neg (by omega)]
    rfl

namespace Graph

/-- The number of arguments of the reference of a node. A callable of unknown signature takes an
opaque parameter and an opaque result. -/
def argumentCount (g : Graph) (c : String) (n : Node) : Nat :=
  match g.shape n with
  | .function [] => 2
  | _ => (g.children c n).length

variable {g : Graph} {p : Profile}

namespace Lowers

variable {path : List Node} {n : Node} {l : Lowered}

theorem reference_of_mem (h : g.Lowers p path n l) (hn : n ∈ path) :
    l.reference = .named p.objectName := by
  cases h with
  | cut _ => rfl
  | leaf hn' _ => exact absurd hn hn'
  | bareCall hn' _ => exact absurd hn hn'
  | branch hn' _ _ _ => exact absurd hn hn'

theorem name_of_not_mem (h : g.Lowers p path n l) (hn : n ∉ path) :
    l.reference.name = g.headName p n := by
  cases h with
  | cut hn' => exact absurd hn' hn
  | leaf _ hf =>
    obtain ⟨-, -, -, -, hname⟩ := hf
    exact hname
  | bareCall _ hf =>
    have hs : g.shape n = .function [] := hf
    rw [headName, hs]
    rfl
  | branch _ hf _ _ =>
    obtain ⟨-, -, -, hname⟩ := hf
    exact hname

theorem arity_of_not_mem (h : g.Lowers p path n l) (hn : n ∉ path) :
    l.reference.arity = g.argumentCount p.noneClassName n := by
  cases h with
  | cut hn' => exact absurd hn' hn
  | @leaf _ _ label _ hf =>
    obtain ⟨-, -, himport, hnil, -⟩ := hf
    have hcount : g.argumentCount p.noneClassName n = 0 := by
      unfold argumentCount
      split
      · next hs => rw [hs] at himport; cases himport
      · rw [hnil, List.length_nil]
    rw [hcount]
    rfl
  | bareCall _ hf =>
    have hs : g.shape n = .function [] := hf
    rw [argumentCount, hs]
    rfl
  | @branch _ _ s cs ls _ hf hlen _ =>
    obtain ⟨hcont, rfl, -, -⟩ := hf
    have hcount : g.argumentCount p.noneClassName n = (g.children p.noneClassName n).length := by
      unfold argumentCount
      split
      · next hs => rw [isContainer, hs] at hcont; cases hcont
      · rfl
    rw [hcount, hlen]
    exact List.length_map _

theorem eq_bareCall (h : g.Lowers p path n l) (hn : n ∉ path) (hs : g.shape n = .function []) :
    l = .bareCall p := by
  cases h with
  | cut hn' => exact absurd hn' hn
  | leaf _ hf =>
    obtain ⟨-, -, himport, -⟩ := hf
    rw [hs] at himport
    cases himport
  | bareCall _ _ => rfl
  | branch _ hf _ _ =>
    obtain ⟨hcont, -⟩ := hf
    rw [isContainer, hs] at hcont
    cases hcont

/-- **At the end of a walk stands what its last node is lowered to** below the nodes of the walk. -/
theorem exists_at? {e : Node} {pos : List Nat} {above : List Node}
    (hv : g.Visit p.noneClassName path n pos above e) (h : g.Lowers p path n l) :
    ∃ a, l.reference.at? pos = some a.reference ∧ g.Lowers p (above.reverse ++ path) e a := by
  induction hv generalizing l with
  | here path n => exact ⟨l, rfl, h⟩
  | @step path n m e i pos above hn hi _ ih =>
    obtain ⟨s, ls, rfl, a, ha, hl⟩ := h.of_child hn hi
    obtain ⟨b, hb, hlb⟩ := ih hl
    refine ⟨b, ?_, ?_⟩
    · have harg : (Lowered.branch p s ls).reference.arguments[i]? = some a.reference := by
        show (ls.map Lowered.reference)[i]? = _
        rw [List.getElem?_map, ha, Option.map_some]
      rw [Reference.at?_cons, harg]
      exact hb
    · rw [List.reverse_cons, List.append_assoc]
      exact hlb

/-- Below nothing, this holds of every walk that leaves no node twice. -/
theorem exists_at?_of_walk (h : g.Lowers p [] n l) {e : Node} {pos : List Nat} {above : List Node}
    (hw : g.Walk p.noneClassName n pos above e) (hnd : above.Nodup) :
    ∃ path a, (∀ m, m ∈ path ↔ m ∈ above) ∧ l.reference.at? pos = some a.reference ∧
      g.Lowers p path e a := by
  obtain ⟨a, ha, hl⟩ := h.exists_at? (visit_nil_iff.mpr ⟨hw, hnd⟩)
  rw [List.append_nil] at hl
  exact ⟨above.reverse, a, fun _ => List.mem_reverse, ha, hl⟩

/-- A position of a reference belongs to a walk, or to one of the two opaque arguments below a
callable of unknown signature. -/
theorem visit_of_at? (h : g.Lowers p path n l) {pos : List Nat} {r : Reference}
    (hr : l.reference.at? pos = some r) :
    (∃ above e, g.Visit p.noneClassName path n pos above e) ∨
      ∃ pos' i above e, pos = pos' ++ [i] ∧ i < 2 ∧ g.Visit p.noneClassName path n pos' above e ∧
        e ∉ path ∧ e ∉ above ∧ g.shape e = .function [] := by
  induction h generalizing pos r with
  | @cut path n hn =>
    cases pos with
    | nil => exact .inl ⟨[], n, .here path n⟩
    | cons i pos => cases hr
  | @leaf path n label _ _ =>
    cases pos with
    | nil => exact .inl ⟨[], n, .here path n⟩
    | cons i pos => cases hr
  | @bareCall path n hn hf =>
    cases pos with
    | nil => exact .inl ⟨[], n, .here path n⟩
    | cons i pos =>
      rw [Lowered.at?_bareCall_cons] at hr
      split at hr
      · next h =>
        obtain ⟨hi, rfl⟩ := h
        exact .inr ⟨[], i, [], n, rfl, hi, .here path n, hn, List.not_mem_nil, hf⟩
      · cases hr
  | @branch path n s cs ls hn hf hlen _ ih =>
    cases pos with
    | nil => exact .inl ⟨[], n, .here path n⟩
    | cons i pos =>
      rw [Reference.at?_cons] at hr
      obtain ⟨a, ha, hr⟩ := Option.bind_eq_some_iff.mp hr
      have ha' : (ls.map Lowered.reference)[i]? = some a := ha
      rw [List.getElem?_map] at ha'
      obtain ⟨b, hb, rfl⟩ := Option.map_eq_some_iff.mp ha'
      obtain ⟨m, hm⟩ := exists_opposite hlen.symm hb
      obtain ⟨hcont, rfl, -⟩ := hf
      rcases ih i m b hm hb hr with ⟨above, e, hv⟩ | ⟨pos', j, above, e, rfl, hj, hv, he, hea, hs⟩
      · exact .inl ⟨n :: above, e, .step hn hm hv⟩
      · rw [List.mem_cons, not_or] at he
        refine .inr ⟨i :: pos', j, n :: above, e, rfl, hj, .step hn hm hv, he.2, ?_, hs⟩
        rw [List.mem_cons, not_or]
        exact ⟨he.1, hea⟩

end Lowers

/-- **What stands where.** A lowered node has a reference at a position exactly when a walk leads
there that leaves no node twice, or when the position is one of the two below a callable of unknown
signature, where the opaque reference stands. At the end of a walk stands the opaque reference if
the walk has met its last node before; otherwise the name is the one of that node, and the arguments
are as many as its children. -/
theorem at?_lowerWithin {limit : Nat} {root : Node} {l : Lowered}
    (h : (g.lowerWithin p limit root).outcome = .ok l) (pos : List Nat) :
    ((∃ r, l.reference.at? pos = some r) ↔
      (∃ above n, g.Walk p.noneClassName root pos above n ∧ above.Nodup) ∨
        ∃ pos' i above n, pos = pos' ++ [i] ∧ i < 2 ∧ g.Walk p.noneClassName root pos' above n ∧
          above.Nodup ∧ n ∉ above ∧ g.shape n = .function []) ∧
    (∀ above n, g.Walk p.noneClassName root pos above n → above.Nodup →
      ∃ r, l.reference.at? pos = some r ∧
        (n ∈ above → r = .named p.objectName) ∧
        (n ∉ above → r.name = g.headName p n ∧
          r.arity = g.argumentCount p.noneClassName n)) ∧
    (∀ pos' i above n, pos = pos' ++ [i] → i < 2 → g.Walk p.noneClassName root pos' above n →
      above.Nodup → n ∉ above → g.shape n = .function [] →
      l.reference.at? pos = some (.named p.objectName)) := by
  have hl := lowers_of_lowerWithin h
  have hwalk : ∀ above n, g.Walk p.noneClassName root pos above n → above.Nodup →
      ∃ r, l.reference.at? pos = some r ∧
        (n ∈ above → r = .named p.objectName) ∧
        (n ∉ above → r.name = g.headName p n ∧
          r.arity = g.argumentCount p.noneClassName n) := by
    intro above n hw hnd
    obtain ⟨path, a, hpath, ha, hla⟩ := hl.exists_at?_of_walk hw hnd
    refine ⟨a.reference, ha, fun hn => ?_, fun hn => ?_⟩
    · exact hla.reference_of_mem ((hpath n).mpr hn)
    · have hn' : n ∉ path := fun hm => hn ((hpath n).mp hm)
      exact ⟨hla.name_of_not_mem hn', hla.arity_of_not_mem hn'⟩
  have hopaque : ∀ pos' i above n, pos = pos' ++ [i] → i < 2 →
      g.Walk p.noneClassName root pos' above n → above.Nodup → n ∉ above →
      g.shape n = .function [] → l.reference.at? pos = some (.named p.objectName) := by
    rintro pos' i above n rfl hi hw hnd hn hs
    obtain ⟨path, a, hpath, ha, hla⟩ := hl.exists_at?_of_walk hw hnd
    have hn' : n ∉ path := fun hm => hn ((hpath n).mp hm)
    obtain rfl := hla.eq_bareCall hn' hs
    rw [Reference.at?_append, ha, Option.bind_some, Lowered.at?_bareCall_cons, if_pos ⟨hi, rfl⟩]
  refine ⟨⟨?_, ?_⟩, hwalk, hopaque⟩
  · rintro ⟨r, hr⟩
    rcases hl.visit_of_at? hr with ⟨above, n, hv⟩ | ⟨pos', i, above, n, hpos, hi, hv, -, hn, hs⟩
    · exact .inl ⟨above, n, visit_nil_iff.mp hv⟩
    · obtain ⟨hw, hnd⟩ := visit_nil_iff.mp hv
      exact .inr ⟨pos', i, above, n, hpos, hi, hw, hnd, hn, hs⟩
  · rintro (⟨above, n, hw, hnd⟩ | ⟨pos', i, above, n, hpos, hi, hw, hnd, hn, hs⟩)
    · obtain ⟨r, hr, -⟩ := hwalk above n hw hnd
      exact ⟨r, hr⟩
    · exact ⟨_, hopaque pos' i above n hpos hi hw hnd hn hs⟩

/-- The values of the dict in `knot` lead back to its root: the opaque reference stands there. -/
theorem at?_knot : ∃ l, (knot.lowerWithin {} 150 ⟨7⟩).outcome = .ok l ∧
    l.reference.at? [0, 1, 0, 1] = some (.named "object") := by
  have hl : (knot.lowerWithin {} 150 ⟨7⟩).outcome = .ok _ := rfl
  have hw : knot.Walk "None" ⟨7⟩ [0, 1, 0, 1] [⟨7⟩, ⟨8⟩, ⟨9⟩, ⟨10⟩] ⟨7⟩ :=
    .step rfl (.step rfl (.step rfl (.step rfl (.refl _))))
  obtain ⟨-, hwalk, -⟩ := at?_lowerWithin hl [0, 1, 0, 1]
  obtain ⟨r, hr, hopaque, -⟩ := hwalk _ _ hw (by decide)
  exact ⟨_, hl, hopaque (by decide) ▸ hr⟩

end Graph

end TypeLowering
