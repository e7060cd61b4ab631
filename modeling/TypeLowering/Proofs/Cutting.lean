import TypeLowering.Proofs.Likeness

/-!
# What the guard cuts

A node is lowered below containers that are open already, and each of them is opaque wherever the walk
comes back to it. One more open node cuts out what stands for it and changes nothing else:

* `Reference.prune`: a reference with a leaf in all marked positions, of which the outermost count.
* `Graph.leadsInto`: the positions that lead from a node to one of several. `follow?_eq_some_iff` says
  that they are those of the walks.
* `lowerBelow_cut`: what is lowered stays lowered below more open nodes; its reference is pruned where it
  leads into them, and it needs no other imports.
* `lockstep_of_open`: only those of the open nodes count that can be reached.
* `at?_lowerBelow`: at the end of a walk stands what its last node is lowered to on its own, pruned where
  it leads back.
-/

namespace TypeLowering

/-! ### Pruning a reference -/

namespace Reference

mutual

/-- A reference with the type named `leaf` in all marked positions. Nothing is left inside a marked
position, so the outermost ones count. -/
def prune (leaf : String) (marked : List Nat → Bool) : Reference → Reference
  | mk name arguments =>
    if marked [] then named leaf else mk name (pruneFrom leaf marked 0 arguments)

/-- Several arguments with the type named `leaf` in all marked positions, where the first argument has
number `i`. -/
def pruneFrom (leaf : String) (marked : List Nat → Bool) (i : Nat) :
    List Reference → List Reference
  | [] => []
  | r :: rest =>
    r.prune leaf (fun pos => marked (i :: pos)) :: pruneFrom leaf marked (i + 1) rest

end

variable {leaf : String} {marked : List Nat → Bool}

theorem prune_of_marked (h : marked [] = true) (r : Reference) : r.prune leaf marked = named leaf := by
  cases r with
  | mk name arguments => rw [prune, if_pos h]

theorem prune_mk (h : marked [] = false) (name : String) (arguments : List Reference) :
    (mk name arguments).prune leaf marked = mk name (pruneFrom leaf marked 0 arguments) := by
  rw [prune, if_neg (by rw [h]; exact Bool.false_ne_true)]

theorem getElem?_pruneFrom (i : Nat) (rs : List Reference) (j : Nat) :
    (pruneFrom leaf marked i rs)[j]? =
      rs[j]?.map fun r => r.prune leaf fun pos => marked ((i + j) :: pos) := by
  induction rs generalizing i j with
  | nil => simp [pruneFrom]
  | cons r rest ih =>
    rw [pruneFrom]
    cases j with
    | zero => rfl
    | succ j =>
      rw [List.getElem?_cons_succ, List.getElem?_cons_succ, ih, Nat.succ_add_eq_add_succ]

/-- A leaf is what it is pruned to. -/
theorem prune_named (name : String) (marked : List Nat → Bool) :
    (named name).prune name marked = named name := by
  cases h : marked [] with
  | true => exact prune_of_marked h _
  | false => rw [named, prune_mk h, pruneFrom]

mutual

theorem prune_eq_self : ∀ (r : Reference) {marked : List Nat → Bool},
    (∀ pos, marked pos = false) → r.prune leaf marked = r
  | mk name arguments, marked, h => by rw [prune_mk (h []), pruneFrom_eq_self arguments 0 h]

theorem pruneFrom_eq_self : ∀ (rs : List Reference) {marked : List Nat → Bool} (i : Nat),
    (∀ pos, marked pos = false) → pruneFrom leaf marked i rs = rs
  | [], marked, i, _ => by rw [pruneFrom]
  | r :: rest, marked, i, h => by
    rw [pruneFrom, prune_eq_self r fun pos => h (i :: pos), pruneFrom_eq_self rest (i + 1) h]

end

end Reference

/-! ### Values one by one -/

/-- Telling of failures otherwise changes no value. -/
theorem of_mapError_eq_ok {ε ε' α : Type} {o : Except ε α} {f : ε → ε'} {a : α}
    (h : o.mapError f = .ok a) : o = .ok a := by
  cases o with
  | ok b =>
    cases h
    rfl
  | error e => cases h

namespace Traced

variable {ε α β : Type} {f f' : α → Traced ε β}

/-- Where each computation of one list has a value that is related to that of another list, so have
the lists. -/
theorem each_ok_of_forall {l : List α} {bs : List β} {R : α → β → β → Prop}
    (h : (each f l).outcome = .ok bs)
    (hf : ∀ a ∈ l, ∀ b, (f a).outcome = .ok b → ∃ b', (f' a).outcome = .ok b' ∧ R a b b') :
    ∃ bs', (each f' l).outcome = .ok bs' ∧ bs'.length = bs.length ∧
      ∀ (i : Nat) (a : α) (b b' : β), l[i]? = some a → bs[i]? = some b → bs'[i]? = some b' →
        R a b b' := by
  induction l generalizing bs with
  | nil =>
    cases h
    exact ⟨[], rfl, rfl, fun i a b b' ha => by cases ha⟩
  | cons a l ih =>
    rw [outcome_each_cons] at h
    cases ha : (f a).outcome with
    | error e => rw [ha] at h; cases h
    | ok b =>
      cases hl : (each f l).outcome with
      | error e => rw [ha, hl] at h; cases h
      | ok rest =>
        rw [ha, hl] at h
        cases h
        obtain ⟨b', hb', hR⟩ := hf a List.mem_cons_self b ha
        obtain ⟨rest', hrest', hlen, hall⟩ := ih hl fun a' ha' => hf a' (List.mem_cons_of_mem _ ha')
        refine ⟨b' :: rest', ?_, congrArg (· + 1) hlen, fun i a₁ b₁ b₁' h₁ h₂ h₃ => ?_⟩
        · rw [outcome_each_cons, hb', hrest']
          rfl
        · cases i with
          | zero => cases h₁; cases h₂; cases h₃; exact hR
          | succ i => exact hall i a₁ b₁ b₁' h₁ h₂ h₃

end Traced

namespace Graph

/-! ### Positions that lead to a node -/

/-- The node that a position leads to from another one, through children. -/
def follow? (g : Graph) (c : String) (n : Node) : List Nat → Option Node
  | [] => some n
  | i :: pos => (g.children c n)[i]?.bind fun m => g.follow? c m pos

/-- Whether a position leads from a node to one of several. -/
def leadsInto (g : Graph) (c : String) (ms : List Node) (n : Node) (pos : List Nat) : Bool :=
  (g.follow? c n pos).any fun m => decide (m ∈ ms)

variable {g : Graph} {c : String} {p : Profile} {room room' limit : Nat} {path path' ms above : List Node}
  {n m e : Node} {pos : List Nat} {k : Nat} {l a : Lowered}

theorem follow?_eq_some_iff :
    g.follow? c n pos = some e ↔ ∃ above, g.Walk c n pos above e := by
  constructor
  · intro h
    induction pos generalizing n with
    | nil =>
      cases h
      exact ⟨[], .refl _⟩
    | cons i pos ih =>
      obtain ⟨m, hm, hrest⟩ := Option.bind_eq_some_iff.mp h
      obtain ⟨above, hw⟩ := ih hrest
      exact ⟨n :: above, .step hm hw⟩
  · rintro ⟨above, hw⟩
    induction hw with
    | refl => rfl
    | step hi _ ih => rw [follow?, hi, Option.bind_some, ih]

theorem leadsInto_cons {i : Nat} (hi : (g.children c n)[i]? = some m) :
    (fun pos => g.leadsInto c ms n (i :: pos)) = g.leadsInto c ms m := by
  funext pos
  rw [leadsInto, follow?, hi, Option.bind_some, leadsInto]

theorem leadsInto_eq_false (h : ∀ m ∈ ms, ¬ g.Reaches c n m) (pos : List Nat) :
    g.leadsInto c ms n pos = false := by
  rw [leadsInto, Option.any_eq_false]
  intro m hm
  obtain ⟨above, hw⟩ := follow?_eq_some_iff.mp hm
  exact decide_eq_false fun hmem => h m hmem hw.reaches

/-! ### One more open node -/

/-- What a node is lowered to below more open nodes `ms`: its reference is opaque where it leads into
them, and nothing else is imported. -/
structure IsCut (g : Graph) (p : Profile) (ms : List Node) (n : Node) (l l' : Lowered) : Prop where
  reference : l'.reference = l.reference.prune p.objectName (g.leadsInto p.noneClassName ms n)
  imports : ∀ x ∈ l'.imports.names, x ∈ l.imports.names

namespace IsCut

theorem of_mem (hn : n ∈ ms) (l : Lowered) : g.IsCut p ms n l (.opaqueType p) where
  reference := (Reference.prune_of_marked (decide_eq_true hn) l.reference).symm
  imports := fun _ hx => absurd hx List.not_mem_nil

theorem opaqueType (g : Graph) (p : Profile) (ms : List Node) (n : Node) :
    g.IsCut p ms n (.opaqueType p) (.opaqueType p) where
  reference := (Reference.prune_named p.objectName _).symm
  imports := fun _ hx => hx

theorem leaf (hn : n ∉ ms) (label : Label) : g.IsCut p ms n (.leaf p label) (.leaf p label) where
  reference := by
    show _ = (Reference.mk (label.name p) []).prune p.objectName _
    rw [Reference.prune_mk (decide_eq_false hn), Reference.pruneFrom]
    rfl
  imports := fun _ hx => hx

/-- The two arguments of a callable of unknown signature stand for no node. -/
theorem bareCall (hn : n ∉ ms) : g.IsCut p ms n (.bareCall p) (.bareCall p) where
  reference := by
    show _ = (Reference.mk (p.name .function) [.named p.objectName, .named p.objectName]).prune
      p.objectName _
    rw [Reference.prune_mk (decide_eq_false hn), Reference.pruneFrom, Reference.pruneFrom,
      Reference.pruneFrom, Reference.prune_named, Reference.prune_named]
    rfl
  imports := fun _ hx => hx

theorem branch (hn : n ∉ ms) {s : Slot} {ls ls' : List Lowered}
    (hlen : (g.children p.noneClassName n).length = ls.length) (hlen' : ls'.length = ls.length)
    (h : ∀ (i : Nat) (m : Node) (l l' : Lowered), (g.children p.noneClassName n)[i]? = some m →
      ls[i]? = some l → ls'[i]? = some l' → g.IsCut p ms m l l') :
    g.IsCut p ms n (.branch p s ls) (.branch p s ls') where
  reference := by
    show Reference.mk _ (ls'.map Lowered.reference) =
      (Reference.mk _ (ls.map Lowered.reference)).prune p.objectName _
    rw [Reference.prune_mk (decide_eq_false hn)]
    congr 1
    refine List.ext_getElem? fun i => ?_
    rw [Reference.getElem?_pruneFrom, List.getElem?_map, List.getElem?_map, Nat.zero_add]
    cases hl : ls[i]? with
    | none =>
      have hl' : ls'[i]? = none :=
        List.getElem?_eq_none_iff.mpr (hlen' ▸ List.getElem?_eq_none_iff.mp hl)
      rw [hl', Option.map_none, Option.map_none]
    | some l =>
      obtain ⟨m, hm⟩ := exists_opposite hlen.symm hl
      obtain ⟨l', hl'⟩ := exists_opposite hlen'.symm hl
      rw [hl', Option.map_some, Option.map_some, Option.map_some, leadsInto_cons hm,
        (h i m l l' hm hl hl').reference]
  imports := by
    intro x hx
    rcases Requirement.mem_names_add.mp hx with hx | hx
    · obtain ⟨r, hr, hxr⟩ := Requirement.mem_names_joinAll.mp hx
      obtain ⟨l', hl', rfl⟩ := List.mem_map.mp hr
      obtain ⟨i, hi⟩ := List.mem_iff_getElem?.mp hl'
      obtain ⟨l, hl⟩ := exists_opposite hlen' hi
      obtain ⟨m, hm⟩ := exists_opposite hlen.symm hl
      have hmem : x ∈ l.imports.names := (h i m l l' hm hl hi).imports x hxr
      exact Requirement.mem_names_add.mpr (.inl (Requirement.mem_names_joinAll.mpr
        ⟨l.imports, List.mem_map_of_mem (List.mem_of_getElem? hl), hmem⟩))
    · exact Requirement.mem_names_add.mpr (.inr hx)

end IsCut

/-- **More open nodes cut out what leads into them** and change nothing else. -/
theorem lowerBelow_cut {room : Nat} {path path' : List Node} {n : Node} {l : Lowered}
    (hpath : ∀ e, e ∈ path' ↔ e ∈ ms ∨ e ∈ path)
    (h : (g.lowerBelow p room path n).outcome = .ok l) :
    ∃ l', (g.lowerBelow p room path' n).outcome = .ok l' ∧ g.IsCut p ms n l l' := by
  by_cases hms : n ∈ ms
  · rw [lowerBelow_of_mem ((hpath n).mpr (.inl hms))]
    exact ⟨_, rfl, .of_mem hms l⟩
  by_cases hn : n ∈ path
  · rw [lowerBelow_of_mem hn] at h
    rw [lowerBelow_of_mem ((hpath n).mpr (.inr hn))]
    cases h
    exact ⟨_, rfl, .opaqueType g p ms n⟩
  have hn' : n ∉ path' := fun hmem => ((hpath n).mp hmem).elim hms hn
  cases hf : g.form p.noneClassName n with
  | leaf label =>
    rw [lowerBelow_leaf hn hf] at h
    rw [lowerBelow_leaf hn' hf]
    cases h
    exact ⟨_, rfl, .leaf hms label⟩
  | bareCall =>
    rw [lowerBelow_bareCall hn hf] at h
    rw [lowerBelow_bareCall hn' hf]
    cases h
    exact ⟨_, rfl, .bareCall hms⟩
  | outside =>
    rw [lowerBelow_outside hn hf] at h
    cases h
  | branch s cs =>
    obtain rfl := children_of_form hf
    cases room with
    | zero =>
      rw [lowerBelow_full hn hf] at h
      cases h
    | succ room =>
      rw [lowerBelow_branch hn hf] at h
      -- below `n` the open nodes still differ by `ms`: this is an induction on `room`
      have hpath' : ∀ e, e ∈ n :: path' ↔ e ∈ ms ∨ e ∈ n :: path := by
        intro e
        rw [List.mem_cons, List.mem_cons, hpath e, or_left_comm]
      cases hls : (Traced.each (g.lowerBelow p room (n :: path))
          (g.children p.noneClassName n)).outcome with
      | error o =>
        rw [hls] at h
        cases h
      | ok ls =>
        rw [hls] at h
        cases h
        obtain ⟨ls', hls', hlen', hall⟩ :=
          Traced.each_ok_of_forall hls fun m _ a ha => lowerBelow_cut hpath' ha
        obtain ⟨hlen, -⟩ := Traced.each_ok hls
        rw [lowerBelow_branch hn' hf, hls']
        exact ⟨_, rfl, .branch hms hlen hlen' hall⟩

/-! ### Only what can be reached counts -/

/-- A node is lowered in step with itself below open nodes of which the same can be reached. -/
theorem lockstep_of_open (g : Graph) (c : String) (k : Nat) :
    Lockstep g g c (fun _ _ => True) Eq k fun path n path' n' =>
      n = n' ∧ path.length = path'.length + k ∧ ∀ e, g.Reaches c n e → (e ∈ path ↔ e ∈ path') where
  additive := Traced.additive_true
  related := And.left
  length_eq := fun hS => hS.2.1
  mem_iff := by
    rintro path n path' _ ⟨rfl, -, hopen⟩
    exact hopen n .refl
  cut := fun _ _ => trivial
  overloads := fun _ _ => trivial
  form := by
    rintro path n path' _ ⟨rfl, hlen, hopen⟩ _
    have hchildren : List.Forall₂ (fun m m' => m = m' ∧ m ∈ g.children c n ∧ m' ∈ g.children c n)
        (g.children c n) (g.children c n) :=
      forall_mem_of_forall (List.forall₂_same.mpr fun _ _ => rfl)
    refine match_form (.refl _) (hchildren.imp fun m m' hm => ?_)
    obtain ⟨rfl, hm, -⟩ := hm
    refine ⟨rfl, ?_, fun e he => ?_⟩
    · rw [List.length_cons, List.length_cons, hlen, Nat.add_right_comm]
    · rw [List.mem_cons, List.mem_cons, hopen e (he.head hm)]

/-- **Only those of the open nodes count that can be reached**, up to the depth of a failure, which
counts them all. -/
theorem outcome_of_open (hlen : path.length = path'.length + k)
    (hopen : ∀ e, g.Reaches p.noneClassName n e → (e ∈ path ↔ e ∈ path')) :
    (g.lowerBelow p room path n).outcome =
      (g.lowerBelow p room path' n).outcome.mapError (Obstacle.raise k) := by
  have hmatches := (lockstep_of_open g p.noneClassName k).matches room ⟨rfl, hlen, hopen⟩
  have houtcome := hmatches.outcome
  generalize (g.lowerBelow p room path n).outcome = o,
    (g.lowerBelow p room path' n).outcome = o' at houtcome ⊢
  cases houtcome with
  | ok a => rfl
  | error ho =>
    cases ho with
    | unsupported depth hn =>
      cases hn
      rfl
    | tooDeep => rfl

/-- The same where both depths are counted from the top. -/
theorem outcome_raise_of_open (hle : path'.length ≤ path.length)
    (hopen : ∀ e, g.Reaches p.noneClassName n e → (e ∈ path ↔ e ∈ path')) :
    (g.lowerBelow p room path n).outcome.mapError (Obstacle.raise path'.length) =
      (g.lowerBelow p room path' n).outcome.mapError (Obstacle.raise path.length) := by
  obtain ⟨k, hk⟩ := Nat.exists_eq_add_of_le hle
  rw [outcome_of_open hk hopen]
  cases (g.lowerBelow p room path' n).outcome with
  | ok l => rfl
  | error o =>
    cases o with
    | tooDeep => rfl
    | unsupported e depth =>
      have hdepth : depth + k + path'.length = depth + path.length := by
        rw [hk, Nat.add_assoc, Nat.add_comm k]
      exact congrArg (fun d => Except.error (Obstacle.unsupported e d)) hdepth

/-! ### At the end of a walk -/

theorem lowers_of_lowerBelow (h : (g.lowerBelow p room path n).outcome = .ok l) :
    g.Lowers p path n l := by
  have hends := ends_lowerBelow g p room path n
  rw [h] at hends
  exact hends

/-- **What a node is lowered to is determined** by the containers that are open. -/
theorem Lowers.unique (h : g.Lowers p path n l) {l' : Lowered} (h' : g.Lowers p path n l') :
    l = l' := by
  induction h generalizing l' with
  | @cut path n hn =>
    cases h' with
    | cut _ => rfl
    | leaf hn' _ => exact absurd hn hn'
    | bareCall hn' _ => exact absurd hn hn'
    | branch hn' _ _ _ => exact absurd hn hn'
  | @leaf path n label hn hf =>
    obtain ⟨-, hcont, himport, -, hname⟩ := hf
    cases h' with
    | cut hn' => exact absurd hn' hn
    | leaf _ hf' =>
      obtain ⟨-, -, -, -, hname'⟩ := hf'
      rw [Lowered.leaf, Lowered.leaf, hname, hname']
    | bareCall _ hf' =>
      have hs : g.shape n = .function [] := hf'
      rw [hs] at himport
      cases himport
    | branch _ hf' _ _ =>
      obtain ⟨hcont', -⟩ := hf'
      rw [hcont] at hcont'
      cases hcont'
  | @bareCall path n hn hf => exact (h'.eq_bareCall hn hf).symm
  | @branch path n s cs ls hn hf hlen hall ih =>
    have hrequired := hf.required_branch
    obtain ⟨hcont, rfl, -, hname⟩ := hf
    cases h' with
    | cut hn' => exact absurd hn' hn
    | leaf _ hf' =>
      obtain ⟨-, hcont', -⟩ := hf'
      rw [hcont] at hcont'
      cases hcont'
    | bareCall _ hf' =>
      have hs : g.shape n = .function [] := hf'
      rw [isContainer, hs] at hcont
      cases hcont
    | @branch _ _ s' cs' ls' _ hf' hlen' hall' =>
      have hrequired' := hf'.required_branch
      obtain ⟨-, rfl, -, hname'⟩ := hf'
      have hls : ls = ls' := by
        refine List.ext_getElem (hlen.symm.trans hlen') fun i hi hi' => ?_
        obtain ⟨m, hm⟩ := exists_opposite hlen.symm (List.getElem?_eq_getElem hi)
        exact ih i m _ hm (List.getElem?_eq_getElem hi)
          (hall' i m _ hm (List.getElem?_eq_getElem hi'))
      rw [Lowered.branch, Lowered.branch, hname, hname', hrequired, hrequired', hls]

/-- **At the end of a walk stands what its last node is lowered to on its own**, with what is open
there cut out. -/
theorem at?_lowerBelow (hv : g.Visit p.noneClassName path n pos above e)
    (h : (g.lowerBelow p room path n).outcome = .ok l)
    (ha : (g.lowerBelow p room' [] e).outcome = .ok a) :
    l.reference.at? pos =
      some (a.reference.prune p.objectName (g.leadsInto p.noneClassName (above ++ path) e)) := by
  obtain ⟨b, hb, hlb⟩ := (lowers_of_lowerBelow h).exists_at? hv
  have hopen : ∀ k, k ∈ above.reverse ++ path ↔ k ∈ above ++ path ∨ k ∈ ([] : List Node) := by
    intro k
    rw [List.mem_append, List.mem_append, List.mem_reverse, or_iff_left List.not_mem_nil]
  obtain ⟨b', hb', hcut⟩ := lowerBelow_cut hopen ha
  rw [hb, hlb.unique (lowers_of_lowerBelow hb'), hcut.reference]

/-- Where a node is lowered, so is on its own what it can reach. -/
theorem NestsWithin.ok_of_reaches (hnest : g.NestsWithin p.noneClassName limit e)
    (h : g.Lowers p [] n l) (he : g.Reaches p.noneClassName n e) :
    ∃ a, (g.lowerWithin p limit e).outcome = .ok a := by
  rcases hnest.ok_or_unsupported with hok | ⟨k, depth, hfail⟩
  · exact hok
  · obtain ⟨hk, hclosed⟩ := reaches_of_unsupported hfail
    rw [h.isClosed_of_reaches (he.trans hk)] at hclosed
    cases hclosed

/-! ### All of it -/

/-- **What the guard does.** Let a node be lowered below open nodes.

* Below one more open node it is lowered as well. Its reference is opaque where it leads into that node
  and otherwise as before, and it needs no imports that were not needed before.
* Below any open nodes of which the same can be reached, in any order and number, it comes to the same,
  up to the depth of a failure, which counts all that are open.
* At the end of every walk through its reference stands the reference of the last node on its own, opaque
  where it leads into what is open there. -/
theorem lowering_below_open (g : Graph) (p : Profile) (room : Nat) (path : List Node) (n : Node) :
    (∀ l m, (g.lowerBelow p room path n).outcome = .ok l →
      ∃ l', (g.lowerBelow p room (m :: path) n).outcome = .ok l' ∧
        l'.reference = l.reference.prune p.objectName (g.leadsInto p.noneClassName [m] n) ∧
        ∀ x ∈ l'.imports.names, x ∈ l.imports.names) ∧
    (∀ path', (∀ e, g.Reaches p.noneClassName n e → (e ∈ path ↔ e ∈ path')) →
      (g.lowerBelow p room path n).outcome.mapError (Obstacle.raise path'.length) =
        (g.lowerBelow p room path' n).outcome.mapError (Obstacle.raise path.length)) ∧
    (∀ l pos above e, (g.lowerBelow p room path n).outcome = .ok l →
      g.Visit p.noneClassName path n pos above e →
      (∀ room' a, (g.lowerBelow p room' [] e).outcome = .ok a →
        l.reference.at? pos = some
          (a.reference.prune p.objectName (g.leadsInto p.noneClassName (above ++ path) e))) ∧
      (path = [] → ∀ limit, g.NestsWithin p.noneClassName limit e →
        ∃ a, (g.lowerBelow p limit [] e).outcome = .ok a)) := by
  refine ⟨fun l m h => ?_, fun path' hopen => ?_, fun l pos above e h hv => ⟨?_, ?_⟩⟩
  · have hmem : ∀ e, e ∈ m :: path ↔ e ∈ [m] ∨ e ∈ path := by
      intro e
      rw [List.mem_cons, List.mem_singleton]
    obtain ⟨l', hl', hcut⟩ := lowerBelow_cut hmem h
    exact ⟨l', hl', hcut.reference, hcut.imports⟩
  · rcases Nat.le_total path'.length path.length with hle | hle
    · exact outcome_raise_of_open hle hopen
    · exact (outcome_raise_of_open hle fun e he => (hopen e he).symm).symm
  · exact fun room' a ha => at?_lowerBelow hv h ha
  · rintro rfl limit hnest
    have hl : (g.lowerWithin p room n).outcome = .ok l := by
      rw [lowerWithin_outcome, h]
      rfl
    have hreach := (visit_nil_iff.mp hv).1.reaches
    obtain ⟨a, ha⟩ := hnest.ok_of_reaches (lowers_of_lowerWithin hl) hreach
    rw [lowerWithin_outcome] at ha
    exact ⟨a, of_mapError_eq_ok ha⟩

/-- In `knot`, the list (node 9) holds the set (node 7), which holds the list. With the set open nothing
is left of either inside; the value that no rule covers (node 12) does not count, for the list does not
reach it; and where the set stands in the reference of the list, the list is cut out of it. -/
theorem lowering_below_open_knot :
    (∃ l, (knot.lowerBelow {} 150 [⟨7⟩] ⟨9⟩).outcome = .ok l ∧
      l.reference = .mk "List" [.mk "Dictionary" [.named "int", .named "object"]] ∧
      (knot.lowerBelow {} 150 [⟨12⟩, ⟨7⟩, ⟨7⟩] ⟨9⟩).outcome = .ok l) ∧
    ∃ l a, (knot.lowerBelow {} 150 [] ⟨9⟩).outcome = .ok l ∧
      (knot.lowerBelow {} 150 [] ⟨7⟩).outcome = .ok a ∧
      l.reference.at? [0, 1] =
        some (a.reference.prune "object" (knot.leadsInto "None" [⟨9⟩, ⟨10⟩] ⟨7⟩)) ∧
      l.reference.at? [0, 1] ≠ some a.reference := by
  obtain ⟨hcut, -, hwalk⟩ := lowering_below_open knot {} 150 [] ⟨9⟩
  obtain ⟨-, hopen, -⟩ := lowering_below_open knot {} 150 [⟨7⟩] ⟨9⟩
  have hl : (knot.lowerBelow {} 150 [] ⟨9⟩).outcome = .ok _ := rfl
  have ha : (knot.lowerBelow {} 150 [] ⟨7⟩).outcome = .ok _ := rfl
  have hv : knot.Visit "None" [] ⟨9⟩ [0, 1] [⟨9⟩, ⟨10⟩] ⟨7⟩ :=
    .step (by decide) rfl (.step (by decide) rfl (.here _ _))
  have hmem : ∀ e, knot.Reaches "None" ⟨9⟩ e →
      e ∈ ([⟨9⟩, ⟨10⟩, ⟨2⟩, ⟨7⟩, ⟨8⟩, ⟨1⟩, ⟨11⟩] : List Node) :=
    fun e he => he.mem_of_closed (by decide) (by decide)
  have hsame : ∀ e, knot.Reaches "None" ⟨9⟩ e → (e ∈ [(⟨7⟩ : Node)] ↔ e ∈ [⟨12⟩, ⟨7⟩, ⟨7⟩]) := by
    intro e he
    have hall : ∀ k ∈ ([⟨9⟩, ⟨10⟩, ⟨2⟩, ⟨7⟩, ⟨8⟩, ⟨1⟩, ⟨11⟩] : List Node),
        (k ∈ [(⟨7⟩ : Node)] ↔ k ∈ [⟨12⟩, ⟨7⟩, ⟨7⟩]) := by decide
    exact hall e (hmem e he)
  refine ⟨?_, _, _, hl, ha, (hwalk _ _ _ _ hl hv).1 150 _ ha, by decide⟩
  obtain ⟨l, hl', href, -⟩ := hcut _ ⟨7⟩ hl
  have heq := hopen _ hsame
  rw [hl'] at heq
  exact ⟨l, hl', href, of_mapError_eq_ok heq.symm⟩

end Graph

end TypeLowering
