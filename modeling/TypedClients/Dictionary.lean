/-!
# Dictionaries in insertion order

A dictionary is a list of pairs with distinct keys. Storing under a key it has changes the value in
place; a new key comes last.
-/
namespace TypedClients

abbrev Dictionary (κ α : Type) := List (κ × α)

namespace Dictionary

variable {κ α : Type} [DecidableEq κ]

/-- The value stored under a key. -/
def get? (d : Dictionary κ α) (key : κ) : Option α := d.lookup key

/-- Stores a value under a key. -/
def insert (key : κ) (value : α) : Dictionary κ α → Dictionary κ α
  | [] => [(key, value)]
  | (k, v) :: rest => if k = key then (k, value) :: rest else (k, v) :: insert key value rest

def keys {κ α : Type} (d : Dictionary κ α) : List κ := d.map Prod.fst

@[simp] theorem get?_nil (key : κ) : get? ([] : Dictionary κ α) key = none := rfl

theorem get?_cons (k key : κ) (v : α) (d : Dictionary κ α) :
    get? ((k, v) :: d) key = if key = k then some v else d.get? key := by
  by_cases h : key = k
  · simp [get?, h]
  · have h' : (key == k) = false := by simpa using h
    simp [get?, List.lookup_cons, h, h']

@[simp] theorem get?_insert_self (d : Dictionary κ α) (key : κ) (value : α) :
    (d.insert key value).get? key = some value := by
  induction d with
  | nil => simp [insert, get?_cons]
  | cons p d ih =>
      obtain ⟨k, v⟩ := p
      by_cases h : k = key
      · simp [insert, get?_cons, h]
      · have h' : key ≠ k := fun e => h e.symm
        simp [insert, get?_cons, h, h', ih]

theorem get?_insert_of_ne (d : Dictionary κ α) {key other : κ} (value : α)
    (h : other ≠ key) : (d.insert key value).get? other = d.get? other := by
  induction d with
  | nil => simp [insert, get?_cons, h]
  | cons p d ih =>
      obtain ⟨k, v⟩ := p
      by_cases hk : k = key
      · subst hk; simp [insert, get?_cons, h]
      · by_cases ho : other = k <;> simp [insert, hk, get?_cons, ho, ih]

theorem get?_insert (d : Dictionary κ α) (key other : κ) (value : α) :
    (d.insert key value).get? other = if other = key then some value else d.get? other := by
  by_cases h : other = key
  · rw [if_pos h, h, get?_insert_self]
  · rw [if_neg h, get?_insert_of_ne d value h]

theorem keys_insert (d : Dictionary κ α) (key : κ) (value : α) :
    (d.insert key value).keys = if key ∈ d.keys then d.keys else d.keys ++ [key] := by
  induction d with
  | nil => simp [keys, insert]
  | cons p d ih =>
      obtain ⟨k, v⟩ := p
      by_cases h : k = key
      · simp [keys, insert, h]
      · have h' : key ≠ k := fun e => h e.symm
        simp only [keys] at ih
        by_cases hmem : key ∈ d.map Prod.fst <;> simp [keys, insert, h, h', ih, hmem]

theorem mem_keys_iff (d : Dictionary κ α) (key : κ) :
    key ∈ d.keys ↔ (d.get? key).isSome := by
  induction d with
  | nil => simp [keys]
  | cons p d ih =>
      obtain ⟨k, v⟩ := p
      rw [get?_cons]
      by_cases h : key = k
      · simp [keys, h]
      · simpa [keys, h] using ih

theorem mem_of_get? {d : Dictionary κ α} {key : κ} {value : α} (h : d.get? key = some value) :
    (key, value) ∈ d := by
  induction d with
  | nil => cases h
  | cons p d ih =>
      obtain ⟨k, v⟩ := p
      rw [get?_cons] at h
      split at h
      · rename_i hk
        cases h
        rw [hk]
        exact List.mem_cons_self
      · exact List.mem_cons_of_mem _ (ih h)

/-! ### Pairs stored one after the other -/

/-- What is found after storing some pairs is one of them, or was there before. -/
theorem get?_foldl_insert {pairs : List (κ × α)} {d : Dictionary κ α} {key : κ} {value : α}
    (h : get? (pairs.foldl (fun d p => d.insert p.1 p.2) d) key = some value) :
    (key, value) ∈ pairs ∨ d.get? key = some value := by
  induction pairs generalizing d with
  | nil => exact .inr h
  | cons p pairs ih =>
      obtain ⟨k, v⟩ := p
      rcases ih h with h | h
      · exact .inl (List.mem_cons_of_mem _ h)
      · rw [get?_insert] at h
        split at h
        · rename_i hk
          cases h
          rw [hk]
          exact .inl List.mem_cons_self
        · exact .inr h

theorem exists_last {κ α : Type} {pairs : List (κ × α)} {key : κ} (h : key ∈ pairs.map (·.1)) :
    ∃ before value after, pairs = before ++ (key, value) :: after ∧ key ∉ after.map (·.1) := by
  induction pairs with
  | nil => cases h
  | cons p pairs ih =>
      by_cases hlater : key ∈ pairs.map (·.1)
      · obtain ⟨before, value, after, rfl, hafter⟩ := ih hlater
        exact ⟨p :: before, value, after, rfl, hafter⟩
      · obtain rfl : key = p.1 := by simpa [hlater] using h
        exact ⟨[], p.2, pairs, rfl, hlater⟩

theorem get?_foldl_insert_of_notMem {pairs : List (κ × α)} {key : κ} (h : key ∉ pairs.map (·.1))
    (d : Dictionary κ α) :
    get? (pairs.foldl (fun d p => d.insert p.1 p.2) d) key = d.get? key := by
  induction pairs generalizing d with
  | nil => rfl
  | cons p pairs ih =>
      rw [List.map_cons, List.mem_cons, not_or] at h
      rw [List.foldl_cons, ih h.2, get?_insert_of_ne d p.2 h.1]

/-- What is stored last under a key is found there. -/
theorem get?_foldl_insert_of_last {before after : List (κ × α)} {key : κ} (value : α)
    (h : key ∉ after.map (·.1)) (d : Dictionary κ α) :
    get? ((before ++ (key, value) :: after).foldl (fun d p => d.insert p.1 p.2) d) key =
      some value := by
  rw [List.foldl_append, List.foldl_cons, get?_foldl_insert_of_notMem h, get?_insert_self]

theorem isSome_get?_foldl_insert (pairs : List (κ × α)) (d : Dictionary κ α) (key : κ) :
    (get? (pairs.foldl (fun d p => d.insert p.1 p.2) d) key).isSome ↔
      key ∈ pairs.map (·.1) ∨ (d.get? key).isSome := by
  by_cases h : key ∈ pairs.map (·.1)
  · obtain ⟨before, value, after, rfl, hafter⟩ := exists_last h
    rw [get?_foldl_insert_of_last value hafter]
    exact iff_of_true rfl (.inl h)
  · rw [get?_foldl_insert_of_notMem h, or_iff_right h]

/-! ### Other values under the same keys -/

section

variable {β : Type} (f : α → β)

theorem get?_map (d : Dictionary κ α) (key : κ) :
    get? (d.map fun p => (p.1, f p.2)) key = (d.get? key).map f := by
  induction d with
  | nil => rfl
  | cons p d ih =>
      rw [List.map_cons, get?_cons, get?_cons]
      split
      · rfl
      · exact ih

theorem map_insert (d : Dictionary κ α) (key : κ) (value : α) :
    (d.insert key value).map (fun p => (p.1, f p.2)) =
      insert key (f value) (d.map fun p => (p.1, f p.2)) := by
  induction d with
  | nil => rfl
  | cons p d ih =>
      rw [insert, List.map_cons, insert]
      split
      · rfl
      · rw [List.map_cons, ih]

theorem map_foldl_insert (pairs : List (κ × α)) (d : Dictionary κ α) :
    (pairs.foldl (fun d p => d.insert p.1 p.2) d).map (fun p => (p.1, f p.2)) =
      (pairs.map fun p => (p.1, f p.2)).foldl (fun d p => insert p.1 p.2 d)
        (d.map fun p => (p.1, f p.2)) := by
  induction pairs generalizing d with
  | nil => rfl
  | cons p pairs ih =>
      rw [List.foldl_cons, ih, map_insert]
      rfl

end

/-- With distinct keys every pair is found. -/
theorem get?_of_mem {d : Dictionary κ α} (hkeys : d.keys.Nodup) {key : κ} {value : α}
    (hmem : (key, value) ∈ d) : d.get? key = some value := by
  induction d with
  | nil => cases hmem
  | cons p d ih =>
      obtain ⟨k, v⟩ := p
      obtain ⟨hk, hd⟩ := List.nodup_cons.mp hkeys
      rw [get?_cons]
      rcases List.mem_cons.mp hmem with h | h
      · cases h; rw [if_pos rfl]
      · have hne : key ≠ k := by
          rintro rfl
          exact hk (List.mem_map.mpr ⟨_, h, rfl⟩)
        rw [if_neg hne, ih hd h]

end Dictionary

end TypedClients
