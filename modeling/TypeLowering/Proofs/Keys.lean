import TypeLowering.Entries

/-!
# Keys of entries

What stands under a key after pairs have been put one after another: the value of the last pair with
that key (`find?_ofPairs`). Putting never makes a key stand twice, and where none does, a pair is there
exactly if its key is found with its value (`Distinct.mem_iff`).
-/

namespace TypeLowering.Entries

variable {κ κ' α β : Type}

/-- The value of the last pair whose key is of a kind. -/
def last? (q : κ → Bool) : List (κ × α) → Option α
  | [] => none
  | e :: rest => (last? q rest).or (if q e.1 then some e.2 else none)

/-- No key stands twice. -/
def Distinct (es : List (κ × α)) : Prop :=
  (es.map Prod.fst).Nodup

theorem distinct_nil : Distinct ([] : List (κ × α)) := by
  exact List.nodup_nil

theorem Distinct.not_mem_of_append {es rest : List (κ × α)} {p : κ × α}
    (h : Distinct (es ++ p :: rest)) : p.1 ∉ es.map Prod.fst := by
  rw [Distinct, List.map_append, List.map_cons] at h
  intro hmem
  exact (List.nodup_append.mp h).2.2 _ hmem _ List.mem_cons_self rfl

theorem last?_congr {q q' : κ → Bool} {es : List (κ × α)} (h : ∀ e ∈ es, q e.1 = q' e.1) :
    last? q es = last? q' es := by
  induction es with
  | nil => rfl
  | cons e rest ih =>
    rw [last?, last?, h e List.mem_cons_self, ih fun e' he' => h e' (List.mem_cons_of_mem _ he')]

theorem last?_map (q : κ' → Bool) (k : κ → κ') (f : α → β) (es : List (κ × α)) :
    last? q (es.map fun e => (k e.1, f e.2)) = (last? (fun key => q (k key)) es).map f := by
  induction es with
  | nil => rfl
  | cons e rest ih =>
    rw [List.map_cons, last?, last?, ih]
    cases last? (fun key => q (k key)) rest with
    | some a => rfl
    | none =>
      show (if q (k e.1) then some (f e.2) else none) =
        Option.map f (if q (k e.1) then some e.2 else none)
      cases q (k e.1) <;> rfl

theorem last?_filter {q p : κ → Bool} (h : ∀ key, q key = true → p key = true)
    (es : List (κ × α)) : last? q (es.filter fun e => p e.1) = last? q es := by
  induction es with
  | nil => rfl
  | cons e rest ih =>
    rw [List.filter_cons, last?]
    split
    · rw [last?, ih]
    · next hp =>
      have hq : ¬ q e.1 = true := fun hq => hp (h _ hq)
      rw [ih, if_neg hq, Option.or_none]

theorem isSome_last?_iff {q : κ → Bool} {es : List (κ × α)} :
    (last? q es).isSome = true ↔ ∃ key ∈ es.map Prod.fst, q key = true := by
  induction es with
  | nil => simp [last?]
  | cons e rest ih =>
    rw [last?, Option.isSome_or, Bool.or_eq_true, ih, List.map_cons]
    cases hq : q e.1 <;> simp [hq]

variable [DecidableEq κ]

theorem last?_eq_some_iff {es : List (κ × α)} {key : κ} {a : α} :
    last? (· = key) es = some a ↔
      ∃ before after, es = before ++ (key, a) :: after ∧ ∀ e ∈ after, e.1 ≠ key := by
  induction es with
  | nil => simp [last?]
  | cons e rest ih =>
    rw [last?, Option.or_eq_some_iff, ih]
    constructor
    · rintro (⟨before, after, rfl, hafter⟩ | ⟨hnone, he⟩)
      · exact ⟨e :: before, after, rfl, hafter⟩
      · obtain ⟨hkey, hvalue⟩ := Option.ite_none_right_eq_some.mp he
        cases hvalue
        refine ⟨[], rest, by rw [← of_decide_eq_true hkey]; rfl, fun e' he' hkey' => ?_⟩
        have hsome : (last? (· = key) rest).isSome = true :=
          isSome_last?_iff.mpr ⟨key, hkey' ▸ List.mem_map_of_mem he', decide_eq_true rfl⟩
        rw [hnone] at hsome
        cases hsome
    · rintro ⟨before, after, hes, hafter⟩
      cases before with
      | nil =>
        cases hes
        refine .inr ⟨?_, if_pos (decide_eq_true rfl)⟩
        rw [← Option.not_isSome_iff_eq_none, isSome_last?_iff]
        rintro ⟨k, hk, hkey⟩
        obtain ⟨e', he', rfl⟩ := List.mem_map.mp hk
        exact hafter e' he' (of_decide_eq_true hkey)
      | cons e' before =>
        cases hes
        exact .inl ⟨before, after, rfl, hafter⟩

theorem ne_of_find?_eq_none {es : Entries κ α} {key : κ} (h : es.find? key = none) {e : κ × α}
    (he : e ∈ es) : e.1 ≠ key := by
  induction es with
  | nil => cases he
  | cons e' rest ih =>
    rw [find?] at h
    split at h
    · cases h
    · next hkey =>
      rcases List.mem_cons.mp he with rfl | he
      · exact hkey
      · exact ih h he

theorem mem_of_find? {es : Entries κ α} {key : κ} {a : α} (h : es.find? key = some a) :
    (key, a) ∈ es := by
  induction es with
  | nil => cases h
  | cons e rest ih =>
    rw [find?] at h
    split at h
    · next hkey =>
      cases h
      rw [← hkey]
      exact List.mem_cons_self
    · exact List.mem_cons_of_mem _ (ih h)

theorem find?_eq_none_iff {es : Entries κ α} {key : κ} :
    es.find? key = none ↔ key ∉ es.map Prod.fst := by
  constructor
  · intro h hmem
    obtain ⟨e, he, hkey⟩ := List.mem_map.mp hmem
    exact ne_of_find?_eq_none h he hkey
  · intro h
    cases hfind : es.find? key with
    | none => rfl
    | some a => exact absurd (List.mem_map_of_mem (mem_of_find? hfind)) h

theorem isSome_find?_iff {es : Entries κ α} {key : κ} :
    (es.find? key).isSome = true ↔ key ∈ es.map Prod.fst := by
  rw [← Option.ne_none_iff_isSome, ne_eq, find?_eq_none_iff, Classical.not_not]

/-! ### Putting -/

theorem keys_put (es : Entries κ α) (key : κ) (a : α) :
    (es.put key a).map Prod.fst =
      if key ∈ es.map Prod.fst then es.map Prod.fst else es.map Prod.fst ++ [key] := by
  induction es with
  | nil => rfl
  | cons e rest ih =>
    rw [put]
    split
    · next hkey =>
      rw [if_pos (by rw [← hkey]; exact List.mem_cons_self), List.map_cons, List.map_cons, hkey]
    · next hkey =>
      rw [List.map_cons, List.map_cons, ih]
      by_cases hmem : key ∈ rest.map Prod.fst
      · rw [if_pos hmem, if_pos (List.mem_cons_of_mem _ hmem)]
      · rw [if_neg hmem, if_neg fun h => (List.mem_cons.mp h).elim (fun he => hkey he.symm) hmem]
        rfl

theorem Distinct.put {es : Entries κ α} (h : Distinct es) (key : κ) (a : α) :
    Distinct (es.put key a) := by
  rw [Distinct, keys_put]
  split
  · exact h
  · next hkey =>
    refine List.nodup_append.mpr ⟨h, by simp, fun k hk k' hk' heq => ?_⟩
    rw [List.mem_singleton.mp hk'] at heq
    exact hkey (heq ▸ hk)

theorem put_of_not_mem {es : Entries κ α} {key : κ} (h : key ∉ es.map Prod.fst) (a : α) :
    es.put key a = es ++ [(key, a)] := by
  induction es with
  | nil => rfl
  | cons e rest ih =>
    rw [List.map_cons, List.mem_cons, not_or] at h
    rw [put, if_neg fun heq => h.1 heq.symm, ih h.2]
    rfl

theorem distinct_foldl_put {es : Entries κ α} (h : Distinct es) (pairs : List (κ × α)) :
    Distinct (pairs.foldl (fun es p => Entries.put es p.1 p.2) es) := by
  induction pairs generalizing es with
  | nil => exact h
  | cons p rest ih => exact ih (h.put p.1 p.2)

theorem distinct_ofPairs (pairs : List (κ × α)) : Distinct (ofPairs pairs) :=
  distinct_foldl_put distinct_nil pairs

theorem mem_of_mem_put {es : Entries κ α} {key : κ} {a : α} {e : κ × α} (h : e ∈ es.put key a) :
    e ∈ es ∨ e = (key, a) := by
  induction es with
  | nil => exact .inr (List.mem_singleton.mp h)
  | cons e' rest ih =>
    rw [put] at h
    split at h
    · next hkey =>
      rcases List.mem_cons.mp h with rfl | h
      · exact .inr (by rw [hkey])
      · exact .inl (List.mem_cons_of_mem _ h)
    · rcases List.mem_cons.mp h with rfl | h
      · exact .inl List.mem_cons_self
      · exact (ih h).imp_left (List.mem_cons_of_mem _)

/-- Nothing is there that has not been put. -/
theorem mem_of_mem_ofPairs {pairs : List (κ × α)} {e : κ × α} (h : e ∈ ofPairs pairs) :
    e ∈ pairs := by
  have hfold : ∀ (pairs : List (κ × α)) (es : Entries κ α),
      e ∈ pairs.foldl (fun es p => Entries.put es p.1 p.2) es → e ∈ es ∨ e ∈ pairs := by
    intro pairs
    induction pairs with
    | nil => exact fun es h => .inl h
    | cons p rest ih =>
      intro es h
      rcases ih _ h with h | h
      · rcases mem_of_mem_put h with h | rfl
        · exact .inl h
        · exact .inr List.mem_cons_self
      · exact .inr (List.mem_cons_of_mem _ h)
  exact (hfold pairs [] h).resolve_left List.not_mem_nil

/-- Keys that are there keep their places. -/
theorem keys_prefix_foldl_put (es : Entries κ α) (pairs : List (κ × α)) :
    es.map Prod.fst <+: (pairs.foldl (fun es p => Entries.put es p.1 p.2) es).map Prod.fst := by
  induction pairs generalizing es with
  | nil => exact List.prefix_refl _
  | cons p rest ih =>
    have hput : es.map Prod.fst <+: (es.put p.1 p.2).map Prod.fst := by
      rw [keys_put]
      split
      · exact List.prefix_refl _
      · exact List.prefix_append _ _
    exact hput.trans (ih _)

theorem find?_foldl_put (es : Entries κ α) (pairs : List (κ × α)) (key : κ) :
    (pairs.foldl (fun es p => Entries.put es p.1 p.2) es).find? key =
      (last? (· = key) pairs).or (es.find? key) := by
  induction pairs generalizing es with
  | nil => rfl
  | cons p rest ih =>
    rw [List.foldl_cons, ih, find?_put, last?, Option.or_assoc]
    by_cases hkey : p.1 = key <;> simp [hkey]

theorem mem_keys_foldl_put {es : Entries κ α} {pairs : List (κ × α)} {key : κ} :
    key ∈ (pairs.foldl (fun es p => Entries.put es p.1 p.2) es).map Prod.fst ↔
      key ∈ es.map Prod.fst ∨ key ∈ pairs.map Prod.fst := by
  rw [← isSome_find?_iff, find?_foldl_put, Option.isSome_or, Bool.or_eq_true, isSome_last?_iff,
    isSome_find?_iff, or_comm]
  simp

/-- **After pairs are put, a key has the value of its last pair.** -/
theorem find?_ofPairs (pairs : List (κ × α)) (key : κ) :
    (ofPairs pairs).find? key = last? (· = key) pairs := by
  rw [ofPairs, find?_foldl_put, find?, Option.or_none]

/-- Pairs of which no two have one key are put as they are. -/
theorem foldl_put_of_distinct {es pairs : List (κ × α)} (h : Distinct (es ++ pairs)) :
    pairs.foldl (fun es p => Entries.put es p.1 p.2) es = es ++ pairs := by
  induction pairs generalizing es with
  | nil => rw [List.append_nil]; rfl
  | cons p rest ih =>
    rw [List.foldl_cons, put_of_not_mem h.not_mem_of_append, ih (by rwa [List.append_assoc]),
      List.append_assoc]
    rfl

theorem ofPairs_of_distinct {pairs : List (κ × α)} (h : Distinct pairs) : ofPairs pairs = pairs :=
  foldl_put_of_distinct (by rwa [List.nil_append] : Distinct ([] ++ pairs))

/-- Where no key stands twice, a pair is there if its key is found with its value. -/
theorem Distinct.mem_iff {es : Entries κ α} (h : Distinct es) {key : κ} {a : α} :
    (key, a) ∈ es ↔ es.find? key = some a := by
  refine ⟨fun hmem => ?_, mem_of_find?⟩
  induction es with
  | nil => cases hmem
  | cons e rest ih =>
    obtain ⟨hkey, hrest⟩ := List.nodup_cons.mp h
    rw [find?]
    rcases List.mem_cons.mp hmem with rfl | hmem
    · rw [if_pos rfl]
    · have hne : e.1 ≠ key := fun heq => hkey (heq ▸ List.mem_map_of_mem hmem)
      rw [if_neg hne]
      exact ih hrest hmem

end TypeLowering.Entries
