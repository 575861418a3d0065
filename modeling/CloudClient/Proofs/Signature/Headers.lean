import CloudClient.Proofs.Dict
import CloudClient.Signature.Canonical

/-!
# Headers whose names differ in more than case

Names of headers are compared in lower case. Main statement: when no two names of headers differ in
case alone, lowering the names keeps every header; and a header of a new name is added to the
others.
-/

namespace CloudClient

namespace Signature

/-- No two names differ in case alone. -/
def Distinct (l : List (String × String)) : Prop := (l.map fun p => Text.lowered p.1).Nodup

/-- Headers under their lowered names. -/
def loweredEntries (l : List (String × String)) : List (String × String) :=
  l.map fun p => (Text.lowered p.1, p.2)

/-- The value of a header of a name in lower case. -/
def header? (name : String) (h : Headers) : Option String := (lowered h).get? name

variable {l m : List (String × String)} {h : Headers}

/-- Names that differ in more than case differ. -/
theorem Distinct.nodup (hl : Distinct l) : (l.map (·.1)).Nodup := by
  rw [Distinct, List.nodup_iff_pairwise_ne, List.pairwise_map] at hl
  rw [List.nodup_iff_pairwise_ne, List.pairwise_map]
  apply hl.imp
  intro p q hne heq
  exact hne (congrArg Text.lowered heq)

/-- Distinct names stay so in another order. -/
theorem Distinct.perm (hl : Distinct l) (hperm : l.Perm m) : Distinct m :=
  ((hperm.map _).nodup_iff).1 hl

/-- Distinct names stay so when some are left out. -/
theorem Distinct.sublist (hl : Distinct l) (hsub : m.Sublist l) : Distinct m :=
  List.Nodup.sublist (hsub.map _) hl

/-- Names that are distinct among themselves and from others are distinct together. -/
theorem Distinct.append (hl : Distinct l) (hm : Distinct m)
    (hne : ∀ p ∈ l, Text.lowered p.1 ∉ m.map fun q => Text.lowered q.1) : Distinct (l ++ m) := by
  rw [Distinct, List.map_append, List.nodup_append]
  refine ⟨hl, hm, ?_⟩
  intro a ha b hb heq
  obtain ⟨p, hp, rfl⟩ := List.mem_map.1 ha
  exact hne p hp (heq ▸ hb)

/-- Writing a header of another name adds it at the end. -/
theorem entries_put {k v : String} (hd : Distinct (h.entries ++ [(k, v)])) :
    (h.put k v).entries = h.entries ++ [(k, v)] := by
  apply Dict.entries_put_of_not_mem
  have hnodup := hd.nodup
  rw [List.map_append, List.nodup_append] at hnodup
  intro hk
  exact hnodup.2.2 k hk k List.mem_cons_self rfl

/-- **Lowering distinct names keeps every header.** -/
theorem entries_lowered (hd : Distinct h.entries) :
    (lowered h).entries = loweredEntries h.entries := by
  apply Dict.entries_ofList
  rw [List.map_map]
  exact hd

/-- The headers that are found are those of the name, in whatever case it is written. -/
theorem header?_eq_some_iff (hd : Distinct h.entries) {name value : String} :
    header? name h = some value ↔ ∃ k, (k, value) ∈ h.entries ∧ Text.lowered k = name := by
  rw [header?, Dict.get?_eq_some_iff, entries_lowered hd, loweredEntries, List.mem_map]
  constructor
  · rintro ⟨p, hp, heq⟩
    cases heq
    exact ⟨p.1, hp, rfl⟩
  · rintro ⟨k, hk, rfl⟩
    exact ⟨(k, value), hk, rfl⟩

/-! ## New headers -/

/-- No header has this name, in whatever case. -/
def IsNew (h : Headers) (k : String) : Prop := Text.lowered k ∉ h.keys.map Text.lowered

/-- A new name stays new when a header of another name is written. -/
theorem IsNew.put {k : String} (hk : IsNew h k) (k' v : String)
    (hne : Text.lowered k ≠ Text.lowered k') : IsNew (h.put k' v) k := by
  intro hmem
  rw [Dict.keys_put] at hmem
  split at hmem
  · exact hk hmem
  · rw [List.map_append, List.mem_append, List.map_singleton, List.mem_singleton] at hmem
    exact hmem.elim hk hne

/-- **A header of a new name is written at the end**, also under its lowered name. -/
theorem lowered_put {k : String} (hk : IsNew h k) (v : String) :
    lowered (h.put k v) = (lowered h).put (Text.lowered k) v := by
  have hnew : k ∉ h.keys := fun hmem => hk (List.mem_map_of_mem hmem)
  rw [lowered, Dict.entries_put_of_not_mem hnew, List.map_append, Dict.ofList, Dict.putAll,
    List.foldl_append]
  rfl

end Signature

end CloudClient
