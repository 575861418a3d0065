/-!
# Dictionaries

Headers, query parameters, form parameters and log fields are dictionaries: each key stands
once, in the place of its first entry, with the value of its last. Main statements: writing a key
makes it read back, leaves every other key alone, and adds a key only when it is new.
-/

namespace CloudClient

universe u

/-- Entries in insertion order with pairwise distinct keys. -/
structure Dict (α : Type u) where
  /-- The entries in insertion order. -/
  entries : List (String × α)
  /-- No key stands twice. -/
  nodup : (entries.map (·.1)).Nodup

namespace Dict

variable {α : Type u} {β : Type u}

/-- Writes an entry into a list: in place of the entry of the same key, else at the end. -/
def putEntry (k : String) (v : α) : List (String × α) → List (String × α)
  | [] => [(k, v)]
  | e :: r => if e.1 = k then (k, v) :: r else e :: putEntry k v r

/-- Writing an entry keeps the keys, and adds the key at the end when it is new. -/
theorem map_fst_putEntry (k : String) (v : α) (l : List (String × α)) :
    (putEntry k v l).map (·.1) =
      if k ∈ l.map (·.1) then l.map (·.1) else l.map (·.1) ++ [k] := by
  induction l with
  | nil => simp [putEntry]
  | cons e r ih =>
    by_cases h : e.1 = k
    · simp [putEntry, h]
    · by_cases hm : k ∈ r.map (·.1)
      · rw [if_pos hm] at ih
        have hm' : k ∈ (e :: r).map (·.1) := by
          simp only [List.map_cons, List.mem_cons]
          exact .inr hm
        rw [if_pos hm']
        simp [putEntry, h, ih]
      · rw [if_neg hm] at ih
        have hm' : k ∉ (e :: r).map (·.1) := by
          simp only [List.map_cons, List.mem_cons, not_or]
          exact ⟨fun hk => h hk.symm, hm⟩
        rw [if_neg hm']
        simp [putEntry, h, ih]

/-- Writing an entry keeps the keys distinct. -/
theorem nodup_putEntry (k : String) (v : α) {l : List (String × α)}
    (h : (l.map (·.1)).Nodup) : ((putEntry k v l).map (·.1)).Nodup := by
  rw [map_fst_putEntry]
  split
  · exact h
  · rename_i hk
    rw [List.nodup_append]
    refine ⟨h, by simp, ?_⟩
    intro a ha b hb hab
    simp only [List.mem_singleton] at hb
    exact hk (hb ▸ hab ▸ ha)

/-- A written key reads back. -/
theorem lookup_putEntry_self (k : String) (v : α) (l : List (String × α)) :
    (putEntry k v l).lookup k = some v := by
  induction l with
  | nil => simp [putEntry]
  | cons e r ih =>
    by_cases h : e.1 = k
    · simp [putEntry, h]
    · have h' : (k == e.1) = false := by simp; exact fun hk => h hk.symm
      obtain ⟨a, b⟩ := e
      simp only [putEntry, h, if_false, List.lookup_cons]
      simp only at h'
      rw [h']
      exact ih

/-- Writing one key leaves every other key alone. -/
theorem lookup_putEntry_of_ne {k k' : String} (hne : k' ≠ k) (v : α) (l : List (String × α)) :
    (putEntry k v l).lookup k' = l.lookup k' := by
  have hk : (k' == k) = false := by simp [hne]
  induction l with
  | nil => simp only [putEntry, List.lookup_cons, hk, List.lookup_nil]
  | cons e r ih =>
    obtain ⟨a, b⟩ := e
    by_cases h : a = k
    · subst h
      simp [putEntry, List.lookup_cons, hk]
    · simp only [putEntry, h, if_false, List.lookup_cons, ih]

/-- The dictionary without entries. -/
def empty : Dict α := ⟨[], List.nodup_nil⟩

instance : Inhabited (Dict α) := ⟨empty⟩

instance : EmptyCollection (Dict α) := ⟨empty⟩

/-- Writes a value under a key. -/
def put (d : Dict α) (k : String) (v : α) : Dict α :=
  ⟨putEntry k v d.entries, nodup_putEntry k v d.nodup⟩

/-- The value under a key. -/
def get? (d : Dict α) (k : String) : Option α :=
  d.entries.lookup k

/-- The key stands in the dictionary. -/
def contains (d : Dict α) (k : String) : Bool :=
  (d.get? k).isSome

/-- The keys in insertion order. -/
def keys (d : Dict α) : List String :=
  d.entries.map (·.1)

/-- The dictionary without a key. -/
def erase (d : Dict α) (k : String) : Dict α :=
  ⟨d.entries.filter (·.1 != k), (d.nodup.sublist (List.filter_sublist.map _))⟩

/-- Writes every entry of a list, in order. -/
def putAll (d : Dict α) (l : List (String × α)) : Dict α :=
  l.foldl (fun d e => d.put e.1 e.2) d

/-- The dictionary of a list of entries, a later value of a key replacing an earlier one. -/
def ofList (l : List (String × α)) : Dict α :=
  empty.putAll l

/-- Writes every entry of the second dictionary into the first. -/
def merge (d e : Dict α) : Dict α :=
  d.putAll e.entries

/-- Applies a function to every value. -/
def mapValues (f : α → β) (d : Dict α) : Dict β :=
  ⟨d.entries.map fun e => (e.1, f e.2), by
    rw [List.map_map]
    exact d.nodup⟩

/-- The empty dictionary has no key. -/
@[simp] theorem get?_empty (k : String) : (empty : Dict α).get? k = none := rfl

/-- A written key reads back. -/
@[simp] theorem get?_put_self (d : Dict α) (k : String) (v : α) : (d.put k v).get? k = some v :=
  lookup_putEntry_self k v d.entries

/-- Writing one key leaves every other key alone. -/
theorem get?_put_of_ne (d : Dict α) {k k' : String} (h : k' ≠ k) (v : α) :
    (d.put k v).get? k' = d.get? k' :=
  lookup_putEntry_of_ne h v d.entries

/-- Reading after writing asks first whether the key was the written one. -/
theorem get?_put (d : Dict α) (k k' : String) (v : α) :
    (d.put k v).get? k' = if k' = k then some v else d.get? k' := by
  split
  · rename_i h; subst h; exact get?_put_self d k' v
  · rename_i h; exact get?_put_of_ne d h v

/-- Writing adds a key only when it is new, and then at the end. -/
theorem keys_put (d : Dict α) (k : String) (v : α) :
    (d.put k v).keys = if k ∈ d.keys then d.keys else d.keys ++ [k] :=
  map_fst_putEntry k v d.entries

/-- No key stands twice. -/
theorem keys_nodup (d : Dict α) : d.keys.Nodup := d.nodup

instance [DecidableEq α] : DecidableEq (Dict α) := fun a b =>
  decidable_of_iff (a.entries = b.entries) <| by
    constructor
    · intro h
      cases a
      cases b
      simp only at h
      subst h
      rfl
    · intro h
      rw [h]

end Dict

end CloudClient
