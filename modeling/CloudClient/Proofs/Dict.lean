import CloudClient.Dict

/-!
# Dictionaries as sets of entries

Main statements: a list with distinct keys is the list of entries of its dictionary, what is read
under a key depends on the entries alone, not on their order, and two dictionaries that are merged
are read one after the other.
-/

namespace CloudClient.Dict

universe u

variable {α : Type u} {d e : Dict α} {k : String} {v : α}

/-! ## Writing -/

/-- A new key is written at the end. -/
theorem putEntry_of_not_mem {l : List (String × α)} (h : k ∉ l.map (·.1)) :
    putEntry k v l = l ++ [(k, v)] := by
  induction l with
  | nil => rfl
  | cons p l ih =>
    rw [List.map_cons, List.mem_cons, not_or] at h
    rw [putEntry, if_neg (Ne.symm h.1), ih h.2, List.cons_append]

/-- A new key adds its entry at the end. -/
theorem entries_put_of_not_mem (h : k ∉ d.keys) : (d.put k v).entries = d.entries ++ [(k, v)] :=
  putEntry_of_not_mem h

/-- New keys that are distinct add their entries at the end. -/
theorem entries_putAll {l : List (String × α)} (h : ((d.entries ++ l).map (·.1)).Nodup) :
    (d.putAll l).entries = d.entries ++ l := by
  induction l generalizing d with
  | nil => rw [List.append_nil]; rfl
  | cons p l ih =>
    have hnew : p.1 ∉ d.keys := by
      rw [List.map_append, List.map_cons, List.nodup_append] at h
      intro hmem
      exact h.2.2 p.1 hmem p.1 List.mem_cons_self rfl
    have hput : (d.put p.1 p.2).entries = d.entries ++ [p] := entries_put_of_not_mem hnew
    have hrest : (((d.put p.1 p.2).entries ++ l).map (·.1)).Nodup := by
      rw [hput, List.append_assoc]
      exact h
    show ((d.put p.1 p.2).putAll l).entries = d.entries ++ p :: l
    rw [ih hrest, hput, List.append_assoc, List.singleton_append]

/-- **A list with distinct keys is the list of entries of its dictionary.** -/
theorem entries_ofList {l : List (String × α)} (h : (l.map (·.1)).Nodup) :
    (ofList l).entries = l := by
  have hl : (((empty : Dict α).entries ++ l).map (·.1)).Nodup := h
  rw [ofList, entries_putAll hl]
  rfl

/-- **A dictionary is that of its entries.** -/
theorem ofList_entries (d : Dict α) : ofList d.entries = d := by
  have hentries := entries_ofList d.nodup
  cases hd : ofList d.entries
  cases d
  rw [hd] at hentries
  simp only at hentries
  subst hentries
  rfl

/-- Writing under changed keys is writing, with the keys changed afterwards. -/
theorem putEntry_map {f : String → String} (hf : ∀ a b, f a = f b → a = b) (k : String) (v : α)
    (l : List (String × α)) :
    putEntry (f k) v (l.map fun p => (f p.1, p.2)) =
      (putEntry k v l).map fun p => (f p.1, p.2) := by
  induction l with
  | nil => rfl
  | cons p l ih =>
    rw [List.map_cons, putEntry, putEntry]
    by_cases hk : p.1 = k
    · rw [if_pos (congrArg f hk), if_pos hk, List.map_cons]
    · rw [if_neg fun heq => hk (hf _ _ heq), if_neg hk, List.map_cons, ih]

/-- A list that is written under changed keys stands behind an entry of another key as it would
stand alone. -/
theorem entries_putAll_map {f : String → String} (hf : ∀ a b, f a = f b → a = b)
    {first : String × α} (hfirst : ∀ k, first.1 ≠ f k)
    (hd : d.entries = first :: e.entries.map fun p => (f p.1, p.2)) (l : List (String × α)) :
    (d.putAll (l.map fun p => (f p.1, p.2))).entries =
      first :: (e.putAll l).entries.map fun p => (f p.1, p.2) := by
  induction l generalizing d e with
  | nil => exact hd
  | cons p l ih =>
    apply ih (d := d.put (f p.1) p.2) (e := e.put p.1 p.2)
    show putEntry (f p.1) p.2 d.entries = _
    rw [hd, putEntry, if_neg (hfirst p.1), putEntry_map hf]
    rfl

/-- Written keys are old ones or those of the list. -/
theorem mem_keys_putAll {l : List (String × α)} (h : k ∈ (d.putAll l).keys) :
    k ∈ d.keys ∨ k ∈ l.map (·.1) := by
  induction l generalizing d with
  | nil => exact .inl h
  | cons p l ih =>
    rcases ih h with h | h
    · rw [keys_put] at h
      split at h
      · exact .inl h
      · rcases List.mem_append.1 h with h | h
        · exact .inl h
        · obtain rfl := List.mem_singleton.1 h
          exact .inr List.mem_cons_self
    · exact .inr (List.mem_cons_of_mem _ h)

/-- The keys of a list's dictionary are those of the list. -/
theorem mem_keys_ofList {l : List (String × α)} (h : k ∈ (ofList l).keys) : k ∈ l.map (·.1) := by
  rcases mem_keys_putAll h with h | h
  · cases h
  · exact h

/-- Taking out a key leaves the entries before it and after it. -/
theorem entries_erase {l m : List (String × α)} (h : d.entries = l ++ (k, v) :: m) :
    (d.erase k).entries = l ++ m := by
  have hnodup := d.nodup
  rw [h, List.map_append, List.map_cons, List.nodup_append, List.nodup_cons] at hnodup
  obtain ⟨-, ⟨hm, -⟩, hl⟩ := hnodup
  have hfront : l.filter (fun p => p.1 != k) = l := by
    apply List.filter_eq_self.2
    intro p hp
    exact bne_iff_ne.2 (hl p.1 (List.mem_map_of_mem hp) k List.mem_cons_self)
  have hrest : m.filter (fun p => p.1 != k) = m := by
    apply List.filter_eq_self.2
    intro p hp
    apply bne_iff_ne.2
    intro heq
    exact hm (List.mem_map.2 ⟨p, hp, heq⟩)
  show d.entries.filter (fun p => p.1 != k) = l ++ m
  rw [h, List.filter_append, hfront, List.filter_cons_of_neg (by simp), hrest]

/-! ## Reading -/

/-- The first entry of a key is the one that is found. -/
theorem mem_of_lookup {l : List (String × α)} (h : l.lookup k = some v) : (k, v) ∈ l := by
  induction l with
  | nil => cases h
  | cons p l ih =>
    obtain ⟨a, b⟩ := p
    rw [List.lookup_cons] at h
    split at h
    · rename_i hk
      obtain rfl := eq_of_beq hk
      cases h
      exact List.mem_cons_self
    · exact List.mem_cons_of_mem _ (ih h)

/-- In a list with distinct keys, every entry is the one that is found. -/
theorem lookup_of_mem {l : List (String × α)} (hl : (l.map (·.1)).Nodup) (h : (k, v) ∈ l) :
    l.lookup k = some v := by
  induction l with
  | nil => cases h
  | cons p l ih =>
    obtain ⟨a, b⟩ := p
    rw [List.map_cons, List.nodup_cons] at hl
    rw [List.lookup_cons]
    rcases List.mem_cons.1 h with heq | hmem
    · cases heq
      simp only [beq_self_eq_true]
    · have hne : k ≠ a := by
        rintro rfl
        exact hl.1 (List.mem_map.2 ⟨(k, v), hmem, rfl⟩)
      have hbeq : (k == a) = false := beq_eq_false_iff_ne.2 hne
      simp only [hbeq]
      exact ih hl.2 hmem

/-- **The values that are read are those of the entries.** -/
theorem get?_eq_some_iff : d.get? k = some v ↔ (k, v) ∈ d.entries :=
  ⟨mem_of_lookup, lookup_of_mem d.nodup⟩

/-- **What is read does not depend on the order of the entries.** -/
theorem get?_of_perm (h : d.entries.Perm e.entries) (k : String) : d.get? k = e.get? k := by
  rw [Option.ext_iff]
  intro v
  rw [get?_eq_some_iff, get?_eq_some_iff, h.mem_iff]

/-- Taking out a key leaves what is read under the others. -/
theorem get?_erase_of_ne {k' : String} (h : k' ≠ k) : (d.erase k).get? k' = d.get? k' := by
  have hmem : ∀ v, (k', v) ∈ (d.erase k).entries ↔ (k', v) ∈ d.entries := by
    intro v
    rw [show (d.erase k).entries = d.entries.filter fun p => p.1 != k from rfl, List.mem_filter]
    exact and_iff_left (bne_iff_ne.2 h)
  rw [Option.ext_iff]
  intro v
  rw [get?_eq_some_iff, get?_eq_some_iff, hmem]

/-- A key that was taken out is not read. -/
theorem get?_erase_self (d : Dict α) (k : String) : (d.erase k).get? k = none := by
  rw [Option.eq_none_iff_forall_ne_some]
  intro v hv
  have hkept := (List.mem_filter.1 (get?_eq_some_iff.1 hv)).2
  exact bne_iff_ne.1 hkept rfl

/-- A key that is read stands among the keys. -/
theorem contains_eq_true_iff : d.contains k = true ↔ k ∈ d.keys := by
  rw [contains, Option.isSome_iff_exists, keys, List.mem_map]
  constructor
  · rintro ⟨v, hv⟩
    exact ⟨(k, v), get?_eq_some_iff.1 hv, rfl⟩
  · rintro ⟨⟨_, v⟩, hmem, rfl⟩
    exact ⟨v, get?_eq_some_iff.2 hmem⟩

/-- Reading every key gives the entries. -/
theorem map_keys_get? (d : Dict α) (v : α) :
    d.keys.map (fun k => (k, (d.get? k).getD v)) = d.entries := by
  have hread : ∀ p ∈ d.entries, (p.1, (d.get? p.1).getD v) = p := by
    intro p hp
    rw [get?_eq_some_iff.2 hp, Option.getD_some]
  rw [keys, List.map_map]
  exact (List.map_congr_left hread).trans (List.map_id' d.entries)

/-- What is read after writing distinct keys is what was written last. -/
theorem get?_putAll {l : List (String × α)} (hl : (l.map (·.1)).Nodup) (k : String) :
    (d.putAll l).get? k = (l.lookup k).or (d.get? k) := by
  induction l generalizing d with
  | nil => rfl
  | cons p l ih =>
    obtain ⟨a, b⟩ := p
    rw [List.map_cons, List.nodup_cons] at hl
    show ((d.put a b).putAll l).get? k = _
    rw [ih hl.2, List.lookup_cons, get?_put]
    by_cases hk : k = a
    · -- the key is written once, so nothing after it is found
      have hnone : l.lookup k = none := by
        rw [Option.eq_none_iff_forall_ne_some]
        intro v hv
        rw [hk] at hv
        exact hl.1 (List.mem_map.2 ⟨(a, v), mem_of_lookup hv, rfl⟩)
      rw [if_pos hk, hnone, hk, beq_self_eq_true]
      rfl
    · rw [if_neg hk, beq_eq_false_iff_ne.2 hk]

/-- What is read after writing a list is the last value of the key in it. -/
theorem get?_putAll_of_getLast? (d : Dict α) (l : List (String × α)) (k : String) :
    (d.putAll l).get? k = ((l.filter (·.1 = k)).map (·.2)).getLast?.or (d.get? k) := by
  induction l generalizing d with
  | nil => rfl
  | cons p l ih =>
    show ((d.put p.1 p.2).putAll l).get? k = _
    rw [ih, get?_put]
    by_cases hk : p.1 = k
    · rw [if_pos hk.symm, List.filter_cons_of_pos (by simp [hk]), List.map_cons, List.getLast?_cons]
      cases ((l.filter (·.1 = k)).map (·.2)).getLast? with
      | none => rfl
      | some v => rfl
    · rw [if_neg (Ne.symm hk), List.filter_cons_of_neg (by simp [hk])]

/-- What is read of a list's dictionary is the last value of the key in it. -/
theorem get?_ofList (l : List (String × α)) (k : String) :
    (ofList l).get? k = ((l.filter (·.1 = k)).map (·.2)).getLast? := by
  rw [ofList, get?_putAll_of_getLast?, get?_empty, Option.or_none]

/-- Every key of a list is one of its dictionary. -/
theorem mem_keys_ofList_iff {l : List (String × α)} : k ∈ (ofList l).keys ↔ k ∈ l.map (·.1) := by
  refine ⟨mem_keys_ofList, ?_⟩
  intro h
  obtain ⟨p, hp, rfl⟩ := List.mem_map.1 h
  have hvalue : p.2 ∈ (l.filter (·.1 = p.1)).map (·.2) :=
    List.mem_map_of_mem (List.mem_filter.2 ⟨hp, by simp⟩)
  have hread := get?_ofList l p.1
  rw [List.getLast?_eq_some_getLast (List.ne_nil_of_mem hvalue)] at hread
  exact List.mem_map.2 ⟨_, get?_eq_some_iff.1 hread, rfl⟩

/-- **In two dictionaries that are merged the second one is read first.** -/
theorem get?_merge (d e : Dict α) (k : String) : (d.merge e).get? k = (e.get? k).or (d.get? k) :=
  get?_putAll e.nodup k

/-! ## Changed values -/

/-- Applies to every value a function of its key. -/
def mapWithKey {β : Type u} (f : String → α → β) (d : Dict α) : Dict β :=
  ⟨d.entries.map fun p => (p.1, f p.1 p.2), by
    rw [List.map_map]
    exact d.nodup⟩

/-- The keys stay. -/
theorem keys_mapWithKey {β : Type u} (f : String → α → β) (d : Dict α) :
    (d.mapWithKey f).keys = d.keys :=
  List.map_map

/-- A value that is read after functions of the keys were applied to all is its image. -/
theorem get?_mapWithKey {β : Type u} (f : String → α → β) (d : Dict α) (k : String) :
    (d.mapWithKey f).get? k = (d.get? k).map (f k) := by
  show (d.entries.map fun p => (p.1, f p.1 p.2)).lookup k = (d.entries.lookup k).map (f k)
  induction d.entries with
  | nil => rfl
  | cons p l ih =>
    rw [List.map_cons, List.lookup_cons, List.lookup_cons, ih]
    by_cases hk : k = p.1
    · rw [hk, beq_self_eq_true]
      rfl
    · rw [beq_eq_false_iff_ne.2 hk]

/-- A value that is read after a function was applied to all is its image. -/
theorem get?_mapValues {β : Type u} (f : α → β) (d : Dict α) (k : String) :
    (d.mapValues f).get? k = (d.get? k).map f :=
  get?_mapWithKey (fun _ => f) d k

end CloudClient.Dict
