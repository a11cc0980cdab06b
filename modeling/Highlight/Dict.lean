/-
  Small dictionaries: lists of keys with values, in the order in which the keys were first set.

  Looking a key up finds its first entry; `set` changes that entry in place or adds one at the end,
  and `erase` removes every entry of a key.  The lemmas say what each operation does to look-ups.
-/

namespace Highlight

/-- A list of keys with their values. -/
abbrev Dict (κ α : Type) := List (κ × α)

namespace Dict

variable {κ α : Type} [DecidableEq κ]

/-- The value of a key. -/
def find? (k : κ) : Dict κ α → Option α
  | [] => none
  | (k', v) :: rest => if k' = k then some v else find? k rest

/-- Whether a key has a value. -/
def has (k : κ) (d : Dict κ α) : Bool := (find? k d).isSome

/-- Replace the value of a key, or add it at the end. -/
def set (k : κ) (v : α) : Dict κ α → Dict κ α
  | [] => [(k, v)]
  | (k', v') :: rest => if k' = k then (k, v) :: rest else (k', v') :: set k v rest

/-- Remove a key. -/
def erase (k : κ) (d : Dict κ α) : Dict κ α := d.filter fun e => e.1 ≠ k

/-- The keys, in order. -/
def keys (d : Dict κ α) : List κ := d.map (·.1)

@[simp] theorem find?_nil (k : κ) : find? k ([] : Dict κ α) = none := rfl

@[simp] theorem find?_set_self (k : κ) (v : α) (d : Dict κ α) : find? k (set k v d) = some v := by
  induction d with
  | nil => simp [set, find?]
  | cons e rest ih =>
    obtain ⟨k', v'⟩ := e
    by_cases h : k' = k <;> simp [set, find?, h, ih]

/-- Setting a key leaves the others alone. -/
theorem find?_set_of_ne {k k' : κ} (h : k' ≠ k) (v : α) (d : Dict κ α) :
    find? k (set k' v d) = find? k d := by
  induction d with
  | nil => simp [set, find?, h]
  | cons e rest ih =>
    obtain ⟨k'', v'⟩ := e
    by_cases h' : k'' = k'
    · subst h'; simp [set, find?, h]
    · by_cases h'' : k'' = k <;> simp [set, find?, h', h'', ih, Ne.symm h]

@[simp] theorem find?_erase_self (k : κ) (d : Dict κ α) : find? k (erase k d) = none := by
  induction d with
  | nil => rfl
  | cons e rest ih =>
    obtain ⟨k', v'⟩ := e
    by_cases h : k' = k
    · simpa [erase, h] using ih
    · simpa [erase, find?, h] using ih

/-- Removing a key leaves the others alone. -/
theorem find?_erase_of_ne {k k' : κ} (h : k' ≠ k) (d : Dict κ α) :
    find? k (erase k' d) = find? k d := by
  induction d with
  | nil => rfl
  | cons e rest ih =>
    obtain ⟨k'', v'⟩ := e
    by_cases h' : k'' = k'
    · subst h'; simpa [erase, find?, h] using ih
    · by_cases h'' : k'' = k
      · simp [erase, find?, h'', Ne.symm h]
      · simpa [erase, find?, h', h''] using ih

/-- A key has a value exactly if it is one of the keys. -/
theorem find?_isSome_iff (k : κ) (d : Dict κ α) : (find? k d).isSome ↔ k ∈ keys d := by
  induction d with
  | nil => simp [keys]
  | cons e rest ih =>
    obtain ⟨k', v'⟩ := e
    by_cases h : k' = k
    · simp [find?, keys, h]
    · simp only [find?, h, if_false, ih]
      simp [keys, Ne.symm h]

/-- There are not more keys with a value than entries. -/
theorem length_le_of_find? {ks : List κ} {d : Dict κ α} (hnodup : ks.Nodup)
    (hfound : ∀ k ∈ ks, (find? k d).isSome) : ks.length ≤ d.length := by
  have hsubset : ks ⊆ keys d := fun k hmem => (find?_isSome_iff k d).mp (hfound k hmem)
  have hlen := hnodup.length_le_of_subset hsubset
  rwa [keys, List.length_map] at hlen

/-- A value that is found is one of the entries. -/
theorem mem_of_find? {k : κ} {v : α} {d : Dict κ α} (h : find? k d = some v) : (k, v) ∈ d := by
  induction d with
  | nil => exact absurd h (by simp)
  | cons e rest ih =>
    obtain ⟨k', v'⟩ := e
    by_cases hk : k' = k
    · subst hk
      rw [find?, if_pos rfl] at h
      rw [Option.some.inj h]
      exact List.mem_cons_self ..
    · rw [find?, if_neg hk] at h
      exact List.mem_cons_of_mem _ (ih h)

/-- Keeping some of the keys leaves these alone and removes the others. -/
theorem find?_filter (p : κ → Bool) (k : κ) (d : Dict κ α) :
    find? k (d.filter fun e => p e.1) = if p k then find? k d else none := by
  induction d with
  | nil => simp
  | cons e rest ih =>
    obtain ⟨k', v'⟩ := e
    by_cases hk : k' = k
    · subst hk
      by_cases hp : p k' <;> simp [find?, hp, ih]
    · by_cases hp : p k' <;> simp [find?, hp, hk, ih]

/-- Setting a key takes no value away. -/
theorem isSome_find?_set {k k' : κ} {v : α} {d : Dict κ α} (h : (find? k d).isSome) :
    (find? k (set k' v d)).isSome := by
  by_cases hk : k' = k
  · subst hk
    rw [find?_set_self]
    rfl
  · rw [find?_set_of_ne hk]
    exact h

/-- A key that is set for the first time comes last. -/
theorem set_of_none {k : κ} {d : Dict κ α} (h : find? k d = none) (v : α) :
    set k v d = d ++ [(k, v)] := by
  induction d with
  | nil => rfl
  | cons e rest ih =>
    obtain ⟨k', v'⟩ := e
    by_cases hk : k' = k
    · rw [find?, if_pos hk] at h
      exact absurd h (by simp)
    · rw [find?, if_neg hk] at h
      rw [set, if_neg hk, ih h, List.cons_append]

/-- A key that is set again is set in place. -/
theorem length_set_of_isSome {k : κ} {d : Dict κ α} (h : (find? k d).isSome) (v : α) :
    (set k v d).length = d.length := by
  induction d with
  | nil => exact absurd h (by simp)
  | cons e rest ih =>
    obtain ⟨k', v'⟩ := e
    by_cases hk : k' = k
    · rw [set, if_pos hk, List.length_cons, List.length_cons]
    · rw [find?, if_neg hk] at h
      rw [set, if_neg hk, List.length_cons, List.length_cons, ih h]

/-- A key that is set for the first time can be removed again. -/
theorem erase_set_of_none {k : κ} {d : Dict κ α} (h : find? k d = none) (v : α) :
    erase k (set k v d) = d := by
  induction d with
  | nil => simp [set, erase]
  | cons e rest ih =>
    obtain ⟨k', v'⟩ := e
    by_cases hk : k' = k
    · rw [find?, if_pos hk] at h
      exact absurd h (by simp)
    · rw [find?, if_neg hk] at h
      have hrest : erase k (set k v rest) = rest := ih h
      have hkeep : erase k ((k', v') :: set k v rest) = (k', v') :: erase k (set k v rest) :=
        List.filter_cons_of_pos (by simpa using hk)
      rw [set, if_neg hk, hkeep, hrest]

/-- Where no key has two entries, every entry is found. -/
theorem find?_of_mem {k : κ} {v : α} {d : Dict κ α} (hnodup : (keys d).Nodup) (h : (k, v) ∈ d) :
    find? k d = some v := by
  induction d with
  | nil => exact absurd h List.not_mem_nil
  | cons e rest ih =>
    obtain ⟨k', v'⟩ := e
    rw [keys, List.map_cons, List.nodup_cons] at hnodup
    rcases List.mem_cons.mp h with heq | hrest
    · obtain ⟨rfl, rfl⟩ := Prod.mk.inj heq
      rw [find?, if_pos rfl]
    · have hne : k' ≠ k := by
        rintro rfl
        exact hnodup.1 (List.mem_map.mpr ⟨(k', v), hrest, rfl⟩)
      rw [find?, if_neg hne]
      exact ih hnodup.2 hrest

/-- Setting a key gives no key a second entry. -/
theorem nodup_keys_set {k : κ} {v : α} {d : Dict κ α} (h : (keys d).Nodup) :
    (keys (set k v d)).Nodup := by
  induction d with
  | nil => simp [set, keys]
  | cons e rest ih =>
    obtain ⟨k', v'⟩ := e
    rw [keys, List.map_cons, List.nodup_cons] at h
    by_cases hk : k' = k
    · subst hk
      rw [set, if_pos rfl, keys, List.map_cons, List.nodup_cons]
      exact h
    · rw [set, if_neg hk, keys, List.map_cons, List.nodup_cons]
      refine ⟨fun hmem => h.1 ?_, ih h.2⟩
      -- a key other than the one that is set was there before
      have hsome := (find?_isSome_iff k' (set k v rest)).mpr hmem
      rw [find?_set_of_ne (Ne.symm hk)] at hsome
      exact (find?_isSome_iff k' rest).mp hsome

end Dict

end Highlight
