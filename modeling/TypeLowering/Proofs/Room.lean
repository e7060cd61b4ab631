import TypeLowering.Proofs.Unsupported

/-!
# Room for containers

How much room is left for containers inside each other only decides whether lowering fails for
depth. Where it does not, more room changes nothing (`lowerBelow_eq_of_ne_tooDeep`), and there is
room enough where no walk without repetitions goes through more containers than that (`NestsWithin`).
-/

namespace TypeLowering

namespace Traced

variable {ε α β : Type} {f f' : α → Traced ε β}

/-- A computation on a list does not change if its parts do not, up to the first one that fails. The
parts need only be unchanged as long as they do not fail in one particular way. -/
theorem each_eq_of_ne {l : List α} {e : ε} (hf : ∀ a ∈ l, (f a).outcome ≠ .error e → f' a = f a)
    (h : (each f l).outcome ≠ .error e) : each f' l = each f l := by
  induction l with
  | nil => rfl
  | cons a l ih =>
    cases ha : (f a).outcome with
    | error e' =>
      have hne : (f a).outcome ≠ .error e := by
        intro he
        rw [each_cons_of_error he] at h
        exact h rfl
      have heq : f' a = f a := hf a (List.mem_cons_self ..) hne
      rw [each_cons_of_error ha, each_cons_of_error (heq ▸ ha), heq]
    | ok b =>
      have heq : f' a = f a :=
        hf a (List.mem_cons_self ..) (by rw [ha]; exact fun he => by cases he)
      have hl : (each f l).outcome ≠ .error e := by
        intro he
        rw [each_cons_of_ok ha, he] at h
        exact h rfl
      rw [each_cons_of_ok ha, each_cons_of_ok (heq ▸ ha), heq,
        ih (fun a' ha' => hf a' (List.mem_cons_of_mem _ ha')) hl]

end Traced

namespace Graph

variable {g : Graph} {c : String} {p : Profile} {path : List Node} {n root : Node} {room room' : Nat}

theorem lowerBelow_succ {room : Nat} {path : List Node} {n : Node}
    (h : (g.lowerBelow p room path n).outcome ≠ .error .tooDeep) :
    g.lowerBelow p (room + 1) path n = g.lowerBelow p room path n := by
  by_cases hn : n ∈ path
  · rw [lowerBelow_of_mem hn, lowerBelow_of_mem hn]
  cases hf : g.form p.noneClassName n with
  | leaf label => rw [lowerBelow_leaf hn hf, lowerBelow_leaf hn hf]
  | bareCall => rw [lowerBelow_bareCall hn hf, lowerBelow_bareCall hn hf]
  | outside => rw [lowerBelow_outside hn hf, lowerBelow_outside hn hf]
  | branch s cs =>
    cases room with
    | zero =>
      rw [lowerBelow_full hn hf] at h
      exact absurd rfl h
    | succ room =>
      rw [lowerBelow_branch hn hf] at h
      have hcs : (Traced.each (g.lowerBelow p room (n :: path)) cs).outcome ≠ .error .tooDeep :=
        fun he => h (by rw [he]; rfl)
      -- children that are not come to may well need more room
      have hsame : Traced.each (g.lowerBelow p (room + 1) (n :: path)) cs =
          Traced.each (g.lowerBelow p room (n :: path)) cs :=
        Traced.each_eq_of_ne (fun m _ hm => lowerBelow_succ hm) hcs
      rw [lowerBelow_branch hn hf, lowerBelow_branch hn hf, hsame]

theorem lowerBelow_of_le (hle : room ≤ room')
    (h : (g.lowerBelow p room path n).outcome ≠ .error .tooDeep) :
    g.lowerBelow p room' path n = g.lowerBelow p room path n := by
  induction hle with
  | refl => rfl
  | step _ ih => rw [lowerBelow_succ (by rw [ih]; exact h), ih]

/-- **Room that is enough is as good as any other.** -/
theorem lowerBelow_eq_of_ne_tooDeep
    (h : (g.lowerBelow p room path n).outcome ≠ .error .tooDeep)
    (h' : (g.lowerBelow p room' path n).outcome ≠ .error .tooDeep) :
    g.lowerBelow p room path n = g.lowerBelow p room' path n := by
  rcases Nat.le_total room room' with hle | hle
  · exact (lowerBelow_of_le hle h).symm
  · exact lowerBelow_of_le hle h'

/-- No walk without repetitions goes through more containers than the limit allows. -/
def NestsWithin (g : Graph) (c : String) (limit : Nat) (root : Node) : Prop :=
  ∀ pos above e, g.Walk c root pos above e → (above ++ [e]).Nodup →
    (above ++ [e]).countP g.isContainer ≤ limit

theorem NestsWithin.mono {limit limit' : Nat} (h : g.NestsWithin c limit root)
    (hle : limit ≤ limit') : g.NestsWithin c limit' root :=
  fun pos above e hw hnd => Nat.le_trans (h pos above e hw hnd) hle

/-- A graph nests no deeper than it has shapes. -/
theorem nestsWithin_size (g : Graph) (c : String) (root : Node) :
    g.NestsWithin c g.shapes.size root :=
  fun _ _ _ _ hnd => countP_isContainer_le hnd

/-- Where a graph nests within the limit, lowering does not fail for depth. -/
theorem NestsWithin.lowerWithin_ne_tooDeep {limit : Nat}
    (h : g.NestsWithin p.noneClassName limit root) (r : Node) :
    (g.lowerWithin p limit root).outcome ≠ .error (.tooDeep r) := by
  intro hfail
  obtain ⟨pos, above, e, hw, hnd, hcont, hlen⟩ := exists_walk_of_tooDeep hfail
  have hcount := h pos above e hw hnd
  rw [List.countP_eq_length.mpr hcont, hlen] at hcount
  omega

theorem NestsWithin.ne_tooDeep {limit : Nat} (h : g.NestsWithin p.noneClassName limit root) :
    (g.lowerBelow p limit [] root).outcome ≠ .error .tooDeep := by
  intro hdeep
  have hfail : (g.lowerWithin p limit root).outcome = .error (.tooDeep root) := by
    rw [lowerWithin_outcome, hdeep]
    rfl
  exact h.lowerWithin_ne_tooDeep root hfail

end Graph

end TypeLowering
