import CloudClient.Text.Split

/-!
# Taking joined text apart

Main statements: a text that was cut is made of its two parts and the separator, pieces without a
separator in them that are joined with it are found again, and no piece is empty exactly when the
separators of a text stand apart, inside it.
-/

namespace CloudClient.Text

variable {α : Type} [DecidableEq α] {sep : α}

/-! ## Cutting -/

/-- The first part and what the second one adds make the text. -/
theorem cut_spec (sep : α) (s : List α) :
    s = (cut sep s).1 ++ (cut sep s).2.elim [] (List.cons sep) := by
  induction s with
  | nil => rfl
  | cons c r ih =>
    unfold cut
    split
    · rename_i h
      rw [h]
      rfl
    · rw [List.cons_append, ← ih]

/-- The first part ends before the separator. -/
theorem sep_not_mem_cut (sep : α) (s : List α) : sep ∉ (cut sep s).1 := by
  induction s with
  | nil => exact List.not_mem_nil
  | cons c r ih =>
    rw [cut]
    split
    · exact List.not_mem_nil
    · rename_i hc
      rw [List.mem_cons, not_or]
      exact ⟨Ne.symm hc, ih⟩

/-- The first part is of the text. -/
theorem mem_of_mem_cut {s : List α} {c : α} (h : c ∈ (cut sep s).1) : c ∈ s := by
  rw [cut_spec sep s]
  exact List.mem_append_left _ h

/-- The second part is of the text. -/
theorem mem_of_cut_eq_some {s b : List α} {c : α} (hb : (cut sep s).2 = some b) (h : c ∈ b) :
    c ∈ s := by
  rw [cut_spec sep s, hb]
  exact List.mem_append_right _ (List.mem_cons_of_mem _ h)

/-- A text that is cut holds the separator. -/
theorem sep_mem_of_cut_eq_some {s b : List α} (hb : (cut sep s).2 = some b) : sep ∈ s := by
  rw [cut_spec sep s, hb]
  exact List.mem_append_right _ List.mem_cons_self

/-- What stands from the first separator on, with the separator. -/
def fromSep (sep : α) (s : List α) : List α := (cut sep s).2.elim [] (List.cons sep)

/-- A text is its part up to the first separator and what stands from there on. -/
theorem cut_append_fromSep (sep : α) (s : List α) : (cut sep s).1 ++ fromSep sep s = s :=
  (cut_spec sep s).symm

/-- What stands from the first separator on is no longer than the text. -/
theorem length_fromSep_le (sep : α) (s : List α) : (fromSep sep s).length ≤ s.length := by
  have h := congrArg List.length (cut_append_fromSep sep s)
  rw [List.length_append] at h
  omega

/-- What stands after the first separator is no longer than the text without what stands in front of
it. -/
theorem length_after_le (sep : α) (s : List α) :
    (cut sep s).1.length + ((cut sep s).2.getD []).length ≤ s.length := by
  have h := congrArg List.length (cut_append_fromSep sep s)
  rw [List.length_append, fromSep] at h
  cases hrest : (cut sep s).2 with
  | none =>
    rw [hrest] at h
    exact Nat.le_of_eq h
  | some rest =>
    rw [hrest, Option.elim_some, List.length_cons] at h
    rw [Option.getD_some]
    omega

/-- What stands after the first separator is shorter than the text when something stands in front of
it. -/
theorem length_after_lt {s p : List α} {c : α} (h : (cut sep s).1 = c :: p) :
    ((cut sep s).2.getD []).length < s.length := by
  have hle := length_after_le sep s
  rw [h, List.length_cons] at hle
  omega

/-- A text is cut behind a front without the separator. -/
theorem cut_append_of_not_mem {a : List α} (h : sep ∉ a) (b : List α) :
    cut sep (a ++ b) = (a ++ (cut sep b).1, (cut sep b).2) := by
  induction a with
  | nil => rfl
  | cons c r ih =>
    rw [List.mem_cons, not_or] at h
    rw [List.cons_append, cut, if_neg (Ne.symm h.1), ih h.2]
    rfl

/-- A text without the separator stands after the last one as a whole. -/
theorem cutLast_of_not_mem {s : List α} (h : sep ∉ s) : cutLast sep s = (none, s) := by
  induction s with
  | nil => rfl
  | cons c r ih =>
    rw [List.mem_cons, not_or] at h
    rw [cutLast, ih h.2]
    exact if_neg (Ne.symm h.1)

/-- What stands after the last separator begins behind it. -/
theorem sep_not_mem_cutLast (sep : α) (s : List α) : sep ∉ (cutLast sep s).2 := by
  induction s with
  | nil => exact List.not_mem_nil
  | cons c r ih =>
    unfold cutLast
    split
    · rename_i hr
      rwa [hr] at ih
    · rename_i hr
      rw [hr] at ih
      split
      · exact ih
      · rename_i hc
        rw [List.mem_cons, not_or]
        exact ⟨Ne.symm hc, ih⟩

/-- What stands after the last separator is of the text. -/
theorem mem_of_mem_cutLast {s : List α} {c : α} (h : c ∈ (cutLast sep s).2) : c ∈ s := by
  induction s with
  | nil => cases h
  | cons d r ih =>
    unfold cutLast at h
    split at h
    · rename_i hr
      rw [hr] at ih
      exact List.mem_cons_of_mem _ (ih h)
    · rename_i hr
      rw [hr] at ih
      split at h
      · exact List.mem_cons_of_mem _ (ih h)
      · rcases List.mem_cons.1 h with rfl | h
        · exact List.mem_cons_self
        · exact List.mem_cons_of_mem _ (ih h)

/-! ## Taking off the front -/

/-- What is left behind a front stood behind it. -/
theorem dropFront?_eq_some_iff {front s rest : List α} :
    dropFront? front s = some rest ↔ s = front ++ rest := by
  constructor
  · intro h
    induction front generalizing s with
    | nil => exact Option.some.inj h
    | cons a front ih =>
      cases s with
      | nil => cases h
      | cons c s =>
        rw [dropFront?] at h
        split at h
        · rename_i hac
          rw [hac, ih h, List.cons_append]
        · cases h
  · rintro rfl
    exact dropFront?_append front rest

/-! ## Pieces -/

/-- A text without the separator is a single piece. -/
theorem pieces_of_not_mem {a : List α} (h : sep ∉ a) : pieces sep a = [a] := by
  induction a with
  | nil => rfl
  | cons c r ih =>
    rw [List.mem_cons, not_or] at h
    rw [pieces, if_neg (Ne.symm h.1), ih h.2]

/-- A piece ends at the first separator. -/
theorem pieces_append_sep {a : List α} (h : sep ∉ a) (b : List α) :
    pieces sep (a ++ sep :: b) = a :: pieces sep b := by
  induction a with
  | nil => rw [List.nil_append, pieces, if_pos rfl]
  | cons c r ih =>
    rw [List.mem_cons, not_or] at h
    rw [List.cons_append, pieces, if_neg (Ne.symm h.1), ih h.2]

/-- A text with a separator in front is its pieces, each with one in front of it. -/
theorem cons_eq_flatMap_pieces (sep : α) (s : List α) :
    sep :: s = (pieces sep s).flatMap (List.cons sep) := by
  induction s with
  | nil => rfl
  | cons c r ih =>
    rw [pieces]
    split
    · rename_i hc
      rw [hc, List.flatMap_cons, ← ih]
      rfl
    · cases hr : pieces sep r with
      | nil => exact absurd hr (pieces_ne_nil sep r)
      | cons p ps =>
        rw [hr, List.flatMap_cons, List.cons_append] at ih
        rw [List.flatMap_cons, List.cons_append, List.cons_append, ← (List.cons.inj ih).2]

/-- No piece holds the separator. -/
theorem sep_not_mem_of_mem_pieces {s p : List α} (h : p ∈ pieces sep s) : sep ∉ p := by
  induction s generalizing p with
  | nil =>
    obtain rfl := List.mem_singleton.1 h
    exact List.not_mem_nil
  | cons c r ih =>
    rw [pieces] at h
    split at h
    · rcases List.mem_cons.1 h with rfl | h
      · exact List.not_mem_nil
      · exact ih h
    · rename_i hc
      cases hr : pieces sep r with
      | nil => exact absurd hr (pieces_ne_nil sep r)
      | cons q qs =>
        rw [hr] at h ih
        rcases List.mem_cons.1 h with rfl | h
        · rw [List.mem_cons, not_or]
          exact ⟨Ne.symm hc, ih List.mem_cons_self⟩
        · exact ih (List.mem_cons_of_mem _ h)

/-- What is done to every character but the separator, and makes no separator, is done in every
piece. -/
theorem pieces_map {f : α → α} (hf : ∀ c, f c = sep ↔ c = sep) (s : List α) :
    pieces sep (s.map f) = (pieces sep s).map (List.map f) := by
  induction s with
  | nil => rfl
  | cons c r ih =>
    rw [List.map_cons, pieces, pieces, ih]
    by_cases hc : c = sep
    · rw [if_pos hc, if_pos ((hf c).2 hc), List.map_cons, List.map_nil]
    · rw [if_neg hc, if_neg fun hfc => hc ((hf c).1 hfc)]
      cases pieces sep r with
      | nil => rfl
      | cons p ps => rfl

/-- **Joined pieces are found again.** -/
theorem pieces_intercalate {ps : List (List α)} (hne : ps ≠ []) (h : ∀ p ∈ ps, sep ∉ p) :
    pieces sep ([sep].intercalate ps) = ps := by
  induction ps with
  | nil => exact absurd rfl hne
  | cons p ps ih =>
    have hp : sep ∉ p := h p List.mem_cons_self
    cases ps with
    | nil => rw [List.intercalate_singleton, pieces_of_not_mem hp]
    | cons q ps =>
      rw [List.intercalate_cons_cons, List.append_assoc, List.singleton_append,
        pieces_append_sep hp, ih (by simp) fun p hp => h p (List.mem_cons_of_mem _ hp)]

omit [DecidableEq α] in
/-- A joined text holds nothing but separators and what its pieces hold. -/
theorem eq_sep_or_exists_of_mem_intercalate {ps : List (List α)} {c : α}
    (h : c ∈ [sep].intercalate ps) : c = sep ∨ ∃ p ∈ ps, c ∈ p := by
  induction ps with
  | nil => cases h
  | cons p ps ih =>
    cases ps with
    | nil =>
      rw [List.intercalate_singleton] at h
      exact .inr ⟨p, List.mem_cons_self, h⟩
    | cons q ps =>
      rw [List.intercalate_cons_cons, List.append_assoc, List.mem_append] at h
      rcases h with h | h
      · exact .inr ⟨p, List.mem_cons_self, h⟩
      · rcases List.mem_cons.1 h with rfl | h
        · exact .inl rfl
        · apply (ih h).imp_right
          rintro ⟨r, hr, hc⟩
          exact ⟨r, List.mem_cons_of_mem _ hr, hc⟩

/-- Joining the pieces of a text gives the text. -/
theorem intercalate_pieces (sep : α) (s : List α) : [sep].intercalate (pieces sep s) = s := by
  have h := cons_eq_flatMap_pieces sep s
  cases hs : pieces sep s with
  | nil => exact absurd hs (pieces_ne_nil sep s)
  | cons p ps =>
    rw [hs] at h
    have hjoin : ∀ (p : List α) (ps : List (List α)),
        sep :: [sep].intercalate (p :: ps) = (p :: ps).flatMap (List.cons sep) := by
      intro p ps
      induction ps generalizing p with
      | nil => simp
      | cons q ps ih => rw [List.flatMap_cons, ← ih]; simp
    rw [← hjoin] at h
    exact (List.cons.inj h).2.symm

/-- The first piece is empty when the text is, or begins with a separator. -/
theorem head?_pieces_eq_nil_iff (sep : α) (s : List α) :
    (pieces sep s).head? = some [] ↔ s = [] ∨ s.head? = some sep := by
  cases s with
  | nil => simp [pieces]
  | cons c r =>
    rw [pieces]
    split
    · rename_i hc
      simp [hc]
    · rename_i hc
      split
      · simp [hc]
      · simp [hc]

/-- A piece is empty when the first one is, or one behind it. -/
theorem nil_mem_pieces_iff (sep : α) (s : List α) :
    [] ∈ pieces sep s ↔ (pieces sep s).head? = some [] ∨ [] ∈ (pieces sep s).tail := by
  cases hs : pieces sep s with
  | nil => exact absurd hs (pieces_ne_nil sep s)
  | cons p ps => simp [eq_comm]

/-- A piece behind the first one is empty when the text ends with a separator, or two of them stand
side by side. -/
theorem nil_mem_tail_pieces_iff (sep : α) (s : List α) :
    [] ∈ (pieces sep s).tail ↔ s.getLast? = some sep ∨ [sep, sep] <:+: s := by
  induction s with
  | nil => simp [pieces]
  | cons c r ih =>
    rw [List.infix_cons_iff, List.cons_prefix_cons]
    by_cases hc : c = sep
    · have htail : (pieces sep (c :: r)).tail = pieces sep r := by
        rw [pieces, if_pos hc, List.tail_cons]
      rw [htail, nil_mem_pieces_iff, head?_pieces_eq_nil_iff, ih]
      cases r with
      | nil => simp [hc]
      | cons d r =>
        have hnext : [sep] <+: d :: r ↔ d = sep := by simp [eq_comm]
        rw [hnext, List.getLast?_cons_cons, List.head?_cons, Option.some.injEq, or_left_comm]
        simp [hc]
    · have htail : (pieces sep (c :: r)).tail = (pieces sep r).tail := by
        rw [pieces, if_neg hc]
        cases pieces sep r <;> rfl
      rw [htail, ih]
      cases r with
      | nil => simp [hc]
      | cons d r => simp [List.getLast?_cons_cons, Ne.symm hc]

/-- **No piece of a text is empty** exactly when the text is not, a separator neither begins nor
ends it, and no two of them stand side by side. -/
theorem nil_not_mem_pieces_iff (sep : α) (s : List α) :
    [] ∉ pieces sep s ↔
      s ≠ [] ∧ s.head? ≠ some sep ∧ s.getLast? ≠ some sep ∧ ¬[sep, sep] <:+: s := by
  rw [nil_mem_pieces_iff, head?_pieces_eq_nil_iff, nil_mem_tail_pieces_iff, not_or, not_or, not_or,
    and_assoc]

/-- What holds of all characters in pieces holds of all characters of the text but the separators.
-/
theorem forall_mem_pieces_iff {P : α → Prop} {s : List α} :
    (∀ p ∈ pieces sep s, ∀ c ∈ p, P c) ↔ ∀ c ∈ s, c = sep ∨ P c := by
  constructor
  · intro h c hc
    rw [← intercalate_pieces sep s] at hc
    exact (eq_sep_or_exists_of_mem_intercalate hc).imp_right fun ⟨p, hp, hcp⟩ => h p hp c hcp
  · intro h p hp c hc
    have hne : c ≠ sep := fun heq => sep_not_mem_of_mem_pieces hp (heq ▸ hc)
    have hmem : c ∈ sep :: s := by
      rw [cons_eq_flatMap_pieces sep s, List.mem_flatMap]
      exact ⟨p, hp, List.mem_cons_of_mem sep hc⟩
    exact (h c ((List.mem_cons.1 hmem).resolve_left hne)).resolve_left hne

end CloudClient.Text
