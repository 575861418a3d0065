import CloudClient.Proofs.Dict
import CloudClient.Signature.Canonical

/-!
# Canonical forms do not depend on the order of what is signed

Main statements: sorting forgets the order of a list, and the canonical form of a query forgets the
order of its entries.
-/

namespace CloudClient

/-! ## Orders -/

/-- Texts are sorted by their order. -/
theorem textLE_iff {a b : String} : textLE a b = true ↔ a ≤ b := decide_eq_true_iff

/-- Pairs are sorted by their first parts, and then by their second ones. -/
theorem pairLE_iff {a b : String × String} :
    pairLE a b = true ↔ a.1 < b.1 ∨ (a.1 = b.1 ∧ a.2 ≤ b.2) := by
  rw [pairLE, Bool.or_eq_true, Bool.and_eq_true, decide_eq_true_iff, beq_iff_eq, textLE_iff]

/-- The order of texts is transitive. -/
theorem textLE_trans (a b c : String) (hab : textLE a b = true) (hbc : textLE b c = true) :
    textLE a c = true :=
  textLE_iff.2 (String.le_trans (textLE_iff.1 hab) (textLE_iff.1 hbc))

/-- Any two texts are in order. -/
theorem textLE_total (a b : String) : (textLE a b || textLE b a) = true := by
  rw [Bool.or_eq_true, textLE_iff, textLE_iff]
  exact String.le_total a b

/-- The order of pairs is transitive. -/
theorem pairLE_trans (a b c : String × String) (hab : pairLE a b = true)
    (hbc : pairLE b c = true) : pairLE a c = true := by
  rw [pairLE_iff] at *
  rcases hab with hab | ⟨hab, hab2⟩
  · rcases hbc with hbc | ⟨hbc, -⟩
    · exact .inl (String.lt_trans hab hbc)
    · exact .inl (hbc ▸ hab)
  · rcases hbc with hbc | ⟨hbc, hbc2⟩
    · exact .inl (hab ▸ hbc)
    · exact .inr ⟨hab.trans hbc, String.le_trans hab2 hbc2⟩

/-- Any two pairs are in order. -/
theorem pairLE_total (a b : String × String) : (pairLE a b || pairLE b a) = true := by
  rw [Bool.or_eq_true, pairLE_iff, pairLE_iff]
  by_cases hab : a.1 < b.1
  · exact .inl (.inl hab)
  · by_cases hba : b.1 < a.1
    · exact .inr (.inl hba)
    · -- equal first parts leave the order to the second ones
      have heq : a.1 = b.1 := String.le_antisymm (String.not_lt.1 hba) (String.not_lt.1 hab)
      rcases String.le_total a.2 b.2 with h | h
      · exact .inl (.inr ⟨heq, h⟩)
      · exact .inr (.inr ⟨heq.symm, h⟩)

/-- Pairs that are in order both ways are the same. -/
theorem pairLE_antisymm {a b : String × String} (hab : pairLE a b = true)
    (hba : pairLE b a = true) : a = b := by
  rw [pairLE_iff] at hab hba
  rcases hab with hab | ⟨hab, hab2⟩
  · rcases hba with hba | ⟨hba, -⟩
    · exact absurd (String.lt_trans hab hba) (String.lt_irrefl _)
    · exact absurd (hba ▸ hab) (String.lt_irrefl _)
  · rcases hba with hba | ⟨-, hba2⟩
    · exact absurd (hab ▸ hba) (String.lt_irrefl _)
    · exact Prod.ext hab (String.le_antisymm hab2 hba2)

/-! ## Sorting -/

/-- Sorting keeps the texts. -/
theorem sortedTexts_perm (l : List String) : (sortedTexts l).Perm l := List.mergeSort_perm l _

/-- **Sorting texts forgets their order.** -/
theorem sortedTexts_congr {l m : List String} (h : l.Perm m) : sortedTexts l = sortedTexts m := by
  refine List.Perm.eq_of_pairwise ?_ (List.pairwise_mergeSort textLE_trans textLE_total l)
    (List.pairwise_mergeSort textLE_trans textLE_total m)
    ((sortedTexts_perm l).trans (h.trans (sortedTexts_perm m).symm))
  intro a b _ _ hab hba
  exact String.le_antisymm (textLE_iff.1 hab) (textLE_iff.1 hba)

/-- **Sorting pairs forgets their order.** -/
theorem sortedPairs_congr {l m : List (String × String)} (h : l.Perm m) :
    sortedPairs l = sortedPairs m := by
  refine List.Perm.eq_of_pairwise ?_ (List.pairwise_mergeSort pairLE_trans pairLE_total l)
    (List.pairwise_mergeSort pairLE_trans pairLE_total m)
    ((List.mergeSort_perm l _).trans (h.trans (List.mergeSort_perm m _).symm))
  intro a b _ _ hab hba
  exact pairLE_antisymm hab hba

/-- **The canonical form of a query forgets the order of its entries.** -/
theorem Query.canonical_congr {q r : Query} (h : q.entries.Perm r.entries) :
    q.canonical = r.canonical := by
  rw [Query.canonical, Query.canonical, sortedPairs_congr (h.map _)]

/-! ## Paths -/

/-- A path that can be signed begins with a slash. -/
theorem Signature.exists_of_checkPath {path : String} (h : checkPath path = .ok ()) :
    ∃ rest, path.toList = '/' :: rest := by
  unfold checkPath at h
  dsimp only at h
  split at h
  · rename_i rest hpath
    exact ⟨rest, hpath⟩
  · cases h

end CloudClient
