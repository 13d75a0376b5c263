/-!
# Tables in order of arrival

A table maps keys to values and remembers the order in which its keys came in.  A key stands at
most once; giving it a new value leaves its place unchanged, and a new key goes to the end.

Files, error counts, settings and the entries of a file tree are all tables: what a run prints or
writes follows the order in which things were supplied.
-/

namespace Amend

/-- A finite map whose keys are in order of arrival. -/
structure Table (κ α : Type) where
  entries : List (κ × α)
  nodup : (entries.map Prod.fst).Nodup

namespace Table

variable {κ α : Type}

/-- The table without entries. -/
def empty : Table κ α := ⟨[], List.nodup_nil⟩

instance : Inhabited (Table κ α) := ⟨empty⟩

/-- The keys, in order of arrival. -/
def keys (t : Table κ α) : List κ := t.entries.map Prod.fst

/-- The values, in the order of their keys. -/
def values (t : Table κ α) : List α := t.entries.map Prod.snd

/-- The number of entries. -/
def size (t : Table κ α) : Nat := t.entries.length

/-- Is there no entry? -/
def isEmpty (t : Table κ α) : Bool := t.entries.isEmpty

variable [DecidableEq κ]

instance [DecidableEq α] : DecidableEq (Table κ α) := fun s t =>
  decidable_of_iff (s.entries = t.entries) (by cases s; cases t; simp)

/-- The value of a key. -/
def get? (t : Table κ α) (k : κ) : Option α :=
  (t.entries.find? fun e => e.1 = k).map Prod.snd

/-- Does the key occur? -/
def contains (t : Table κ α) (k : κ) : Bool := t.keys.contains k

/-- Gives the value `v` to every entry with key `k`, in place. -/
def overwrite (entries : List (κ × α)) (k : κ) (v : α) : List (κ × α) :=
  entries.map fun e => (e.1, if e.1 = k then v else e.2)

omit [DecidableEq κ] in
/-- The keys of a list of entries. -/
theorem map_fst_map (entries : List (κ × α)) (f : κ × α → α) :
    (entries.map fun e => (e.1, f e)).map Prod.fst = entries.map Prod.fst := by
  simp [Function.comp_def]

/-- Gives a key a value: in place if the key occurs, otherwise at the end. -/
def insert (t : Table κ α) (k : κ) (v : α) : Table κ α :=
  if h : k ∈ t.entries.map Prod.fst then
    ⟨overwrite t.entries k v, by rw [overwrite, map_fst_map]; exact t.nodup⟩
  else
    ⟨t.entries ++ [(k, v)], by
      rw [List.map_append, List.nodup_append]
      refine ⟨t.nodup, by simp, fun a ha b hb hab => ?_⟩
      simp only [List.map_cons, List.map_nil, List.mem_singleton] at hb
      exact h (hb ▸ hab ▸ ha)⟩

/-- Removes a key. -/
def erase (t : Table κ α) (k : κ) : Table κ α :=
  ⟨t.entries.filter fun e => e.1 ≠ k, t.nodup.sublist (List.filter_sublist.map _)⟩

/-- Keeps the entries that satisfy a test. -/
def filter (t : Table κ α) (p : κ × α → Bool) : Table κ α :=
  ⟨t.entries.filter p, t.nodup.sublist (List.filter_sublist.map _)⟩

/-- Enters all entries of a list, first to last. -/
def insertAll (t : Table κ α) (entries : List (κ × α)) : Table κ α :=
  entries.foldl (fun t e => t.insert e.1 e.2) t

/-- The table of a list of entries; of two entries with one key the later value counts. -/
def ofList (entries : List (κ × α)) : Table κ α := empty.insertAll entries

/-! ## What the operations do to the keys and the values -/

@[simp]
theorem get?_empty (k : κ) : (empty : Table κ α).get? k = none := rfl

omit [DecidableEq κ] in
@[simp]
theorem keys_empty : (empty : Table κ α).keys = [] := rfl

omit [DecidableEq κ] in
/-- A table is the list of its entries. -/
theorem eq_of_entries {s t : Table κ α} (h : s.entries = t.entries) : s = t := by
  cases s
  cases t
  simp_all

/-- A key has a value exactly if it occurs. -/
theorem isSome_get?_iff (t : Table κ α) (k : κ) : (t.get? k).isSome ↔ k ∈ t.keys := by
  simp [get?, keys]

/-- A key that does not occur has no value. -/
theorem get?_eq_none_iff (t : Table κ α) (k : κ) : t.get? k = none ↔ k ∉ t.keys := by
  rw [← isSome_get?_iff]
  simp

theorem overwrite_cons (e : κ × α) (es : List (κ × α)) (k : κ) (v : α) :
    overwrite (e :: es) k v = (e.1, if e.1 = k then v else e.2) :: overwrite es k v := rfl

/-- The keys of a table stay when a value is overwritten. -/
theorem map_fst_overwrite (entries : List (κ × α)) (k : κ) (v : α) :
    (overwrite entries k v).map Prod.fst = entries.map Prod.fst := map_fst_map entries _

/-- A new value goes to the first entry of its key, and no other value changes. -/
theorem find?_overwrite (entries : List (κ × α)) (k k' : κ) (v : α) :
    ((overwrite entries k v).find? fun e => e.1 = k').map Prod.snd =
      if k' = k then ((entries.find? fun e => e.1 = k').map fun _ => v)
      else (entries.find? fun e => e.1 = k').map Prod.snd := by
  induction entries with
  | nil => simp [overwrite]
  | cons e es ih =>
    rw [overwrite_cons, List.find?_cons, List.find?_cons]
    by_cases he : e.1 = k'
    · by_cases hk : k' = k <;> simp [he, hk]
    · simpa [he] using ih

/-- After an insertion the key has the new value, and every other key the value that it had. -/
theorem get?_insert (t : Table κ α) (k k' : κ) (v : α) :
    (t.insert k v).get? k' = if k' = k then some v else t.get? k' := by
  by_cases h : k ∈ t.entries.map Prod.fst
  · rw [insert, dif_pos h, get?, find?_overwrite]
    split
    · next hk =>
      subst hk
      -- The key occurs, so there is an entry that takes the value.
      have : (t.get? k').isSome := (isSome_get?_iff t k').mpr h
      obtain ⟨e, he⟩ := Option.isSome_iff_exists.mp (Option.isSome_map ▸ this)
      simp [he]
    · rfl
  · rw [insert, dif_neg h, get?, get?, List.find?_append]
    by_cases hk : k' = k
    · subst hk
      have : t.entries.find? (fun e => e.1 = k') = none := by
        simpa [get?, keys] using (get?_eq_none_iff t k').mpr h
      simp [this]
    · simp [hk, Ne.symm hk]

/-- An insertion changes the keys only if the key is new. -/
theorem keys_insert (t : Table κ α) (k : κ) (v : α) :
    (t.insert k v).keys = if k ∈ t.keys then t.keys else t.keys ++ [k] := by
  by_cases h : k ∈ t.entries.map Prod.fst
  · rw [insert, dif_pos h, if_pos (show k ∈ t.keys from h)]
    exact map_fst_overwrite t.entries k v
  · rw [insert, dif_neg h, if_neg (show ¬ k ∈ t.keys from h)]
    exact List.map_append

/-- A removed key is gone, and every other key keeps its place. -/
theorem keys_erase (t : Table κ α) (k : κ) : (t.erase k).keys = t.keys.filter (· ≠ k) := by
  simp [erase, keys, List.filter_map, Function.comp_def]

/-- A removed key has no value, and every other key the value that it had. -/
theorem get?_erase (t : Table κ α) (k k' : κ) :
    (t.erase k).get? k' = if k' = k then none else t.get? k' := by
  split
  · next h =>
    rw [get?_eq_none_iff, keys_erase]
    simp [h]
  · next h =>
    rw [get?, get?, erase, List.find?_filter]
    congr 2
    funext e
    by_cases he : e.1 = k' <;> simp_all

end Table

end Amend
