import CloudClient.Text.Blank

/-!
# Words and folded texts

Folding drops the blanks at both ends of a text and writes one space for each run of blanks that is
left. Main statements: a folded text is its words with single spaces between them, and words with
single spaces between them are read as those words.
-/

namespace CloudClient.Text

/-- The words of a text with single spaces between them. -/
def spaced (s : String) : String := " ".intercalate ((words s.toList).map String.ofList)

/-- The last character of a text, if there is one, is no blank. -/
def EndsInWord (s : List Char) : Prop := ∀ c, s.getLast? = some c → isBlank c = false

/-! ## Blanks at the ends -/

/-- What is dropped from the end of a text stands behind what is left. -/
theorem dropEndWhile_append (p : Char → Bool) (s : List Char) :
    dropEndWhile p s ++ (s.reverse.takeWhile p).reverse = s := by
  rw [dropEndWhile, ← List.reverse_append, List.takeWhile_append_dropWhile, List.reverse_reverse]

/-- A trimmed text does not end in a blank. -/
theorem endsInWord_trim (s : List Char) : EndsInWord (trim s) := by
  intro c hc
  rw [trim, dropEndWhile, List.getLast?_reverse] at hc
  have hhead := List.head?_dropWhile_not isBlank (s.dropWhile isBlank).reverse
  rw [hc] at hhead
  exact hhead

/-- A trimmed text does not begin with a blank. -/
theorem isBlank_of_trim_eq_cons {s r : List Char} {c : Char} (h : trim s = c :: r) :
    isBlank c = false := by
  have hfront := dropEndWhile_append isBlank (s.dropWhile isBlank)
  have hhead := List.head?_dropWhile_not isBlank s
  rw [trim] at h
  rw [← hfront, h, List.cons_append, List.head?_cons] at hhead
  exact hhead

/-! ## Words -/

/-- Blanks alone end the word in front of them. -/
theorem wordsFrom_blanks {b : List Char} (hb : ∀ c ∈ b, isBlank c = true) (word : List Char) :
    wordsFrom word b = wordsFrom word [] := by
  induction b generalizing word with
  | nil => rfl
  | cons c b ih =>
    obtain ⟨hc, hb⟩ := List.forall_mem_cons.1 hb
    have hstep : wordsFrom word (c :: b) =
        if word.isEmpty then wordsFrom [] b else word.reverse :: wordsFrom [] b := by
      rw [wordsFrom, if_pos hc]
    rw [hstep, ih hb]
    rfl

/-- Blanks at the end of a text belong to no word. -/
theorem wordsFrom_append_blanks {b : List Char} (hb : ∀ c ∈ b, isBlank c = true)
    (word s : List Char) : wordsFrom word (s ++ b) = wordsFrom word s := by
  induction s generalizing word with
  | nil => exact wordsFrom_blanks hb word
  | cons c s ih => rw [List.cons_append, wordsFrom, wordsFrom, ih, ih]

/-- Blanks at the front of a text belong to no word. -/
theorem words_dropWhile (s : List Char) : words (s.dropWhile isBlank) = words s := by
  induction s with
  | nil => rfl
  | cons c s ih =>
    by_cases hc : isBlank c = true
    · rw [List.dropWhile_cons_of_pos hc, ih, words, words, wordsFrom, if_pos hc]
      rfl
    · rw [List.dropWhile_cons_of_neg hc]

/-- Trimming keeps the words. -/
theorem words_trim (s : List Char) : words (trim s) = words s := by
  have hblank : ∀ c ∈ ((s.dropWhile isBlank).reverse.takeWhile isBlank).reverse,
      isBlank c = true := by
    intro c hc
    exact List.all_eq_true.1 List.all_takeWhile c (List.mem_reverse.1 hc)
  have hends := wordsFrom_append_blanks hblank [] (trim s)
  rw [trim, dropEndWhile_append] at hends
  rw [trim, words, ← hends]
  exact words_dropWhile s

/-! ## Folding -/

/-- Folding a text that does not end in a blank writes its words: behind a word that is begun, and
behind a space that is written already. -/
theorem foldFrom_eq_words {s : List Char} (h : EndsInWord s) :
    (∀ word, word ≠ [] → word.reverse ++ foldFrom false s = [' '].intercalate (wordsFrom word s)) ∧
    foldFrom true s = [' '].intercalate (wordsFrom [] s) ∧ (s ≠ [] → wordsFrom [] s ≠ []) := by
  induction s with
  | nil =>
    refine ⟨?_, rfl, fun hne => absurd rfl hne⟩
    intro word hword
    rw [wordsFrom, if_neg (by rwa [List.isEmpty_iff]), List.intercalate_singleton]
    exact List.append_nil _
  | cons c r ih =>
    have hr : EndsInWord r := by
      intro d hd
      apply h
      rw [List.getLast?_cons, hd]
      rfl
    obtain ⟨hword, hrun, hne⟩ := ih hr
    by_cases hc : isBlank c = true
    · -- A blank is not the last character, so a word follows its run.
      have hrest : r ≠ [] := by
        rintro rfl
        rw [h c rfl] at hc
        cases hc
      have hwords : wordsFrom [] (c :: r) = wordsFrom [] r := by
        rw [wordsFrom, if_pos hc]
        rfl
      refine ⟨?_, ?_, ?_⟩
      · intro word hbegun
        rw [foldFrom, if_pos hc, if_neg (by decide), wordsFrom, if_pos hc,
          if_neg (by rwa [List.isEmpty_iff]), hrun]
        cases hnext : wordsFrom [] r with
        | nil => exact absurd hnext (hne hrest)
        | cons p ps =>
          rw [List.intercalate_cons_cons, List.append_assoc]
          rfl
      · rw [foldFrom, if_pos hc, if_pos rfl, hrun, hwords]
      · intro _
        rw [hwords]
        exact hne hrest
    · have hwords : ∀ word, wordsFrom word (c :: r) = wordsFrom (c :: word) r := by
        intro word
        rw [wordsFrom, if_neg hc]
      have hfold : ∀ inRun, foldFrom inRun (c :: r) = c :: foldFrom false r := by
        intro inRun
        rw [foldFrom, if_neg hc]
      refine ⟨?_, ?_, ?_⟩
      · intro word _
        rw [hwords, hfold, ← hword (c :: word) (List.cons_ne_nil _ _), List.reverse_cons,
          List.append_assoc]
        rfl
      · rw [hwords, hfold, ← hword [c] (List.cons_ne_nil _ _)]
        rfl
      · intro _ hnone
        have hbegun := hword [c] (List.cons_ne_nil _ _)
        rw [← hwords, hnone] at hbegun
        cases hbegun

/-- The characters of words with single spaces between them. -/
theorem toList_spaced (s : String) : (spaced s).toList = [' '].intercalate (words s.toList) := by
  rw [spaced, String.toList_intercalate, List.map_map]
  simp [Function.comp_def]

/-- **A folded text is its words with single spaces between them.** -/
theorem folded_eq_spaced (s : String) : folded s = spaced s := by
  have hfold : fold (trim s.toList) = [' '].intercalate (words s.toList) := by
    rw [← words_trim]
    have hends := endsInWord_trim s.toList
    cases htrim : trim s.toList with
    | nil => rfl
    | cons c r =>
      have hc : ¬isBlank c = true := by
        rw [isBlank_of_trim_eq_cons htrim]
        decide
      rw [htrim] at hends
      -- The first character begins a word, so folding goes on as it does behind a space.
      have hrun := (foldFrom_eq_words hends).2.1
      rw [foldFrom, if_neg hc] at hrun
      rw [fold, foldFrom, if_neg hc]
      exact hrun
  rw [folded, hfold, ← toList_spaced, String.ofList_toList]

/-! ## Words between spaces -/

/-- A word has characters, and none of them is blank. -/
structure IsSolid (w : List Char) : Prop where
  ne_nil : w ≠ []
  dark : ∀ c ∈ w, isBlank c = false

instance : DecidablePred IsSolid := fun w =>
  decidable_of_iff (w ≠ [] ∧ (w.all fun c => isBlank c == false) = true) <| by
    simp only [List.all_eq_true, beq_iff_eq]
    exact ⟨fun h => ⟨h.1, h.2⟩, fun h => ⟨h.ne_nil, h.dark⟩⟩

/-- What is not blank goes on with the word in front of it. -/
theorem wordsFrom_append {w : List Char} (hw : ∀ c ∈ w, isBlank c = false) (word s : List Char) :
    wordsFrom word (w ++ s) = wordsFrom (w.reverse ++ word) s := by
  induction w generalizing word with
  | nil => rfl
  | cons c w ih =>
    obtain ⟨hc, hw⟩ := List.forall_mem_cons.1 hw
    rw [List.cons_append, wordsFrom, hc, if_neg Bool.false_ne_true, ih hw, List.reverse_cons,
      List.append_assoc, List.singleton_append]

/-- What is begun is a word when it ends. -/
theorem isSolid_reverse {word : List Char} (hne : ¬word.isEmpty = true)
    (h : ∀ c ∈ word, isBlank c = false) : IsSolid word.reverse where
  ne_nil := by rwa [ne_eq, List.reverse_eq_nil_iff, ← List.isEmpty_iff]
  dark := fun c hc => h c (List.mem_reverse.1 hc)

/-- The words of a text are words. -/
theorem isSolid_of_mem_words {s w : List Char} (h : w ∈ words s) : IsSolid w := by
  -- The word that is begun has no blank in it either.
  have hfrom : ∀ word, (∀ c ∈ word, isBlank c = false) → w ∈ wordsFrom word s → IsSolid w := by
    clear h
    induction s with
    | nil =>
      intro word hword h
      rw [wordsFrom] at h
      split at h
      · cases h
      · rename_i hne
        obtain rfl := List.mem_singleton.1 h
        exact isSolid_reverse hne hword
    | cons c r ih =>
      intro word hword h
      rw [wordsFrom] at h
      split at h
      · split at h
        · exact ih [] (by simp) h
        · rename_i hne
          rcases List.mem_cons.1 h with rfl | h
          · exact isSolid_reverse hne hword
          · exact ih [] (by simp) h
      · rename_i hc
        refine ih (c :: word) (fun d hd => ?_) h
        rcases List.mem_cons.1 hd with rfl | hd
        · exact Bool.eq_false_iff.2 hc
        · exact hword d hd
  exact hfrom [] (by simp) h

/-- **Words with single spaces between them are read as those words.** -/
theorem words_intercalate {ws : List (List Char)} (h : ∀ w ∈ ws, IsSolid w) :
    words ([' '].intercalate ws) = ws := by
  induction ws with
  | nil => rfl
  | cons w ws ih =>
    obtain ⟨hw, hws⟩ := List.forall_mem_cons.1 h
    have hend : ¬(w.reverse ++ []).isEmpty = true := by
      rw [List.append_nil, List.isEmpty_iff, List.reverse_eq_nil_iff]
      exact hw.ne_nil
    cases ws with
    | nil =>
      have hword := wordsFrom_append hw.dark [] []
      rw [wordsFrom, if_neg hend, List.append_nil, List.append_nil, List.reverse_reverse] at hword
      rw [List.intercalate_singleton]
      exact hword
    | cons v ws =>
      rw [List.intercalate_cons_cons, List.append_assoc, words, wordsFrom_append hw.dark,
        List.singleton_append, wordsFrom, if_pos isBlank_space, if_neg hend, List.append_nil,
        List.reverse_reverse]
      exact congrArg (List.cons w) (ih hws)

/-- **Folding keeps the words.** -/
theorem words_folded (s : String) : words (folded s).toList = words s.toList := by
  rw [folded_eq_spaced, toList_spaced]
  exact words_intercalate fun _ => isSolid_of_mem_words

end CloudClient.Text
