import TypeLowering.Proofs.LowerCase
import TypeLowering.Proofs.Validation
import TypeLowering.Proofs.Variables

/-!
# Profiles of the environment

The environment gives a profile by a JSON object, over which the variables for single fields are put,
and then the keys of fields are brought into their own letter case. So a field has the value of its
variable, or else that of the last key of the object that is spelled like its own in some letter case; but
if the object has the field's own key and another spelling of it after that, the variable stands in the
place of the former and the latter counts (`find?_profileMembers_key`). Other keys stay as they are and
are unknown to a profile (`isSome_find?_profileMembers`).
-/

namespace TypeLowering

/-! ### Fields and their keys -/

namespace Field

theorem lower_key (f : Field) : Text.lower f.key = f.key := by
  rcases f with s | _ | i
  · cases s <;> decide +kernel
  · decide +kernel
  · cases i <;> decide +kernel

theorem isAscii_key (f : Field) : ∀ d ∈ f.key.toList, d.toNat < 0x80 := by
  have hall : (f.key.toList.all fun d => decide (d.toNat < 0x80)) = true := by
    rcases f with s | _ | i
    · cases s <;> decide
    · decide
    · cases i <;> decide
  exact fun d hd => of_decide_eq_true (List.all_eq_true.mp hall d hd)

theorem fieldKey_eq (key : String) :
    Environment.fieldKey key = ((ofKey? (Text.lower key)).map Field.key).getD key := by
  unfold Environment.fieldKey ofKey?
  cases all.find? fun f => f.key = Text.lower key <;> rfl

/-- A key is brought to that of a field if it is spelled like it in some letter case. -/
theorem fieldKey_eq_key_iff {key : String} {f : Field} :
    Environment.fieldKey key = f.key ↔ Text.lower key = f.key := by
  rw [fieldKey_eq]
  cases hf : ofKey? (Text.lower key) with
  | some f' => rw [← key_of_ofKey? hf]; rfl
  | none =>
    constructor
    · intro h
      have h : key = f.key := h
      rw [h, lower_key, ofKey?_key] at hf
      cases hf
    · intro h
      rw [h, ofKey?_key] at hf
      cases hf

/-- Only a key that is no field's in any letter case stays what it is. -/
theorem fieldKey_eq_iff_of_unknown {key key' : String} (h : ofKey? key' = none) :
    Environment.fieldKey key = key' ↔ key = key' ∧ ofKey? (Text.lower key) = none := by
  rw [fieldKey_eq]
  cases hf : ofKey? (Text.lower key) with
  | none => simp
  | some f =>
    have hne : f.key ≠ key' := fun heq => by rw [← heq, ofKey?_key] at h; cases h
    simp [hne]

end Field

namespace Environment

/-! ### Spellings -/

/-- The value of the last key that is spelled like the given one in some letter case. -/
def spelled? (members : List (String × Json)) (key : String) : Option Json :=
  Entries.last? (fun k => Text.lower k = key) members

/-- Whether a key is there as it is, and after that again in some letter case. -/
def respells (members : List (String × Json)) (key : String) : Bool :=
  (members.dropWhile fun m => m.1 ≠ key).tail.any fun m => Text.lower m.1 = key

variable {members : Entries String Json} {key key' : String} {v : Json}

theorem spelled?_cons (m : String × Json) (members : List (String × Json)) (key : String) :
    spelled? (m :: members) key =
      (spelled? members key).or (if Text.lower m.1 = key then some m.2 else none) := by
  unfold spelled?
  rw [Entries.last?]
  simp only [decide_eq_true_eq]

theorem isSome_spelled?_iff :
    (spelled? members key).isSome = members.any fun m => Text.lower m.1 = key := by
  rw [Bool.eq_iff_iff, spelled?, Entries.isSome_last?_iff]
  simp

theorem respells_cons_self (v : Json) (members : List (String × Json)) (key : String) :
    respells ((key, v) :: members) key = members.any fun m => Text.lower m.1 = key := by
  simp [respells]

theorem respells_cons_of_ne (h : key' ≠ key) (v : Json) (members : List (String × Json)) :
    respells ((key', v) :: members) key = respells members key := by
  simp [respells, h]

/-- A value that is put for a key counts unless another spelling follows. -/
theorem spelled?_put_self (hkey : Text.lower key = key) (members : Entries String Json) (v : Json) :
    spelled? (members.put key v) key =
      if respells members key then spelled? members key else some v := by
  induction members with
  | nil => simp [Entries.put, hkey, spelled?, Entries.last?, respells]
  | cons m rest ih =>
    obtain ⟨k, w⟩ := m
    rw [Entries.put]
    by_cases hk : k = key
    · subst hk
      rw [if_pos rfl, respells_cons_self, ← isSome_spelled?_iff, spelled?_cons, spelled?_cons]
      cases spelled? rest k <;> simp [hkey]
    · rw [if_neg hk, respells_cons_of_ne hk, spelled?_cons, ih, spelled?_cons]
      split
      · rfl
      · rfl

/-- A key of another spelling does not matter. -/
theorem spelled?_put_of_ne (hkey : Text.lower key' ≠ key) (members : Entries String Json) (v : Json) :
    spelled? (members.put key' v) key = spelled? members key := by
  induction members with
  | nil => simp [Entries.put, hkey, spelled?, Entries.last?]
  | cons m rest ih =>
    obtain ⟨k, w⟩ := m
    rw [Entries.put]
    split
    · next hk => simp [spelled?_cons, hk, hkey]
    · rw [spelled?_cons, ih, spelled?_cons]

theorem any_put_of_ne (hkey : Text.lower key' ≠ key) (members : Entries String Json) (v : Json) :
    ((members.put key' v).any fun m => Text.lower m.1 = key) =
      members.any fun m => Text.lower m.1 = key := by
  rw [← isSome_spelled?_iff, ← isSome_spelled?_iff, spelled?_put_of_ne hkey]

theorem respells_put_of_ne (hkey : Text.lower key = key) (hkey' : Text.lower key' ≠ key)
    (members : Entries String Json) (v : Json) :
    respells (members.put key' v) key = respells members key := by
  have hne : key' ≠ key := fun heq => hkey' (heq ▸ hkey)
  induction members with
  | nil => rw [Entries.put, respells_cons_of_ne hne]
  | cons m rest ih =>
    obtain ⟨k, w⟩ := m
    rw [Entries.put]
    split
    · next hk => rw [hk, respells_cons_of_ne hne, respells_cons_of_ne hne]
    · by_cases hk : k = key
      · rw [hk, respells_cons_self, respells_cons_self, any_put_of_ne hkey']
      · rw [respells_cons_of_ne hk, respells_cons_of_ne hk, ih]

/-- Of pairs that are put, only the one with the key itself matters to its spellings. -/
theorem spelled?_foldl_put (hkey : Text.lower key = key) {pairs : Entries String Json}
    (hdistinct : Entries.Distinct pairs) (hpairs : ∀ p ∈ pairs, Text.lower p.1 = key → p.1 = key)
    (members : Entries String Json) :
    spelled? (pairs.foldl (fun es p => Entries.put es p.1 p.2) members) key =
      if respells members key then spelled? members key
      else (pairs.find? key).or (spelled? members key) := by
  induction pairs generalizing members with
  | nil => simp [Entries.find?]
  | cons p rest ih =>
    obtain ⟨hp, hrest⟩ := List.nodup_cons.mp hdistinct
    rw [List.foldl_cons, ih hrest fun q hq => hpairs q (List.mem_cons_of_mem _ hq), Entries.find?]
    by_cases hpkey : p.1 = key
    · have hnone : Entries.find? rest key = none :=
        Entries.find?_eq_none_iff.mpr (hpkey ▸ hp)
      rw [hpkey, spelled?_put_self hkey, hnone, if_pos rfl]
      simp
    · have hlower : Text.lower p.1 ≠ key := fun h => hpkey (hpairs p List.mem_cons_self h)
      rw [respells_put_of_ne hkey hlower, spelled?_put_of_ne hlower, if_neg hpkey]

/-! ### The profile of the environment -/

theorem overlayValue_text (under : Option Json) (s : String) :
    overlayValue under (.text s) = .text s := by
  rw [overlayValue]
  exact fun _ h => by cases h

theorem overlay_of_texts {pairs : List (String × Json)} (h : ∀ p ∈ pairs, ∃ s, p.2 = .text s)
    (members : Entries String Json) :
    overlay members pairs = pairs.foldl (fun es p => Entries.put es p.1 p.2) members := by
  induction pairs generalizing members with
  | nil => rw [overlay, List.foldl_nil]
  | cons p rest ih =>
    obtain ⟨key, v⟩ := p
    obtain ⟨s, rfl⟩ := h _ List.mem_cons_self
    rw [overlay, overlayValue_text, ih fun q hq => h q (List.mem_cons_of_mem _ hq), List.foldl_cons]

/-- The members of a JSON object with the variables for single fields put over them. -/
def profileMembers (env : Environment) (members : Entries String Json) : Entries String Json :=
  withFieldKeys {} (overlay members (Entries.ofPairs env.fieldPairs))

variable {env : Environment}

theorem find?_fieldPairs (env : Environment) (key : String) :
    (Entries.ofPairs env.fieldPairs).find? key = (env.lookup? (fieldStart ++ key)).map .text := by
  rw [Entries.find?_ofPairs, last?_fieldPairs]

theorem overlay_fieldPairs (env : Environment) (members : Entries String Json) :
    overlay members (Entries.ofPairs env.fieldPairs) =
      (Entries.ofPairs env.fieldPairs).foldl (fun es p => Entries.put es p.1 p.2) members := by
  refine overlay_of_texts (fun p hp => ?_) members
  obtain ⟨-, value, -, hvalue⟩ := mem_fieldPairs (Entries.mem_of_mem_ofPairs hp)
  exact ⟨value, hvalue⟩

/-- A variable that leads to a key in the letter case of a field leads to that field. -/
theorem eq_of_lower_fieldPairs {p : String × Json} (hp : p ∈ Entries.ofPairs env.fieldPairs)
    {f : Field} (h : Text.lower p.1 = f.key) : p.1 = f.key := by
  obtain ⟨name, -, hname, -⟩ := mem_fieldPairs (Entries.mem_of_mem_ofPairs hp)
  exact Text.eq_of_lower_eq (by rw [hname, String.toList_append]) h f.isAscii_key

theorem distinct_profileMembers (env : Environment) (members : Entries String Json) :
    Entries.Distinct (env.profileMembers members) :=
  Entries.distinct_ofPairs _

theorem find?_profileMembers (env : Environment) (members : Entries String Json) (key : String) :
    (env.profileMembers members).find? key =
      Entries.last? (fun k => fieldKey k = key)
        (overlay members (Entries.ofPairs env.fieldPairs)) := by
  have hmap := Entries.last?_map (· = key) fieldKey (id : Json → Json)
    (overlay members (Entries.ofPairs env.fieldPairs))
  rw [Option.map_id] at hmap
  show (Entries.ofPairs _).find? key = _
  rw [Entries.find?_ofPairs]
  exact hmap

/-- **The value that the environment gives for a field.** -/
theorem find?_profileMembers_key (env : Environment) (members : Entries String Json) (f : Field) :
    (env.profileMembers members).find? f.key =
      if respells members f.key then spelled? members f.key
      else ((env.lookup? (fieldStart ++ f.key)).map .text).or (spelled? members f.key) := by
  have hspelled : (env.profileMembers members).find? f.key =
      spelled? (overlay members (Entries.ofPairs env.fieldPairs)) f.key := by
    rw [find?_profileMembers]
    exact Entries.last?_congr fun e _ => by simp only [Field.fieldKey_eq_key_iff]
  rw [hspelled, overlay_fieldPairs, spelled?_foldl_put f.lower_key (Entries.distinct_ofPairs _)
    fun p hp => eq_of_lower_fieldPairs hp, find?_fieldPairs]

/-- **The keys that the environment gives and no profile knows.** -/
theorem isSome_find?_profileMembers (env : Environment) (members : Entries String Json) {key : String}
    (hkey : Field.ofKey? key = none) :
    ((env.profileMembers members).find? key).isSome = true ↔
      (env.lookup? (fieldStart ++ key)).isSome = true ∨
        key ∈ members.map Prod.fst ∧ Field.ofKey? (Text.lower key) = none := by
  rw [find?_profileMembers, Entries.isSome_last?_iff, overlay_fieldPairs]
  simp only [decide_eq_true_eq, Field.fieldKey_eq_iff_of_unknown hkey]
  have hvariable : (env.lookup? (fieldStart ++ key)).isSome = true ↔
      key ∈ (Entries.ofPairs env.fieldPairs).map Prod.fst := by
    rw [← Entries.isSome_find?_iff, find?_fieldPairs, Option.isSome_map]
  rw [hvariable]
  constructor
  · rintro ⟨k, hk, rfl, hlower⟩
    exact (Entries.mem_keys_foldl_put.mp hk).elim (fun h => .inr ⟨h, hlower⟩) .inl
  · rintro (hk | ⟨hk, hlower⟩)
    · refine ⟨key, Entries.mem_keys_foldl_put.mpr (.inr hk), rfl, ?_⟩
      cases hf : Field.ofKey? (Text.lower key) with
      | none => rfl
      | some f =>
        -- a variable's key is in lower case: it would be the field's own
        obtain ⟨p, hp, rfl⟩ := List.mem_map.mp hk
        rw [eq_of_lower_fieldPairs hp (Field.key_of_ofKey? hf).symm, Field.ofKey?_key] at hkey
        cases hkey
    · exact ⟨key, Entries.mem_keys_foldl_put.mpr (.inl hk), rfl, hlower⟩

end Environment

end TypeLowering
