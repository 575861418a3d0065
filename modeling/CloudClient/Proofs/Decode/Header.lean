import CloudClient.Decode.Header
import Mathlib.Data.List.TakeWhile

/-!
# Headers that cannot be read

A length is read when every character of its header looks like a digit. Some characters look like
digits and are none, and some numbers have more digits than are read. Main statements: these are the
lengths that fail, and a date fails only when one of its numbers is out of all range.
-/

namespace CloudClient

namespace Text

/-- The code points of the blanks. -/
def blankPoints : List Nat :=
  [0x9, 0xA, 0xB, 0xC, 0xD, 0x1C, 0x1D, 0x1E, 0x1F, 0x20, 0x85, 0xA0, 0x1680, 0x2000, 0x2001,
    0x2002, 0x2003, 0x2004, 0x2005, 0x2006, 0x2007, 0x2008, 0x2009, 0x200A, 0x2028, 0x2029, 0x202F,
    0x205F, 0x3000]

/-- No blank looks like a digit. -/
theorem isBlank_of_isDigitLike {c : Char} (h : isDigitLike c = true) : isBlank c = false := by
  by_contra hblank
  rw [Bool.not_eq_false, isBlank, Ranges.holds, List.any_eq_true] at hblank
  obtain ⟨range, hrange, hc⟩ := hblank
  have hpoint : c.toNat ∈ blankPoints := by
    simp only [Bool.and_eq_true, decide_eq_true_eq] at hc
    simp only [blankRanges, List.mem_cons, List.not_mem_nil, or_false] at hrange
    simp only [blankPoints, List.mem_cons, List.not_mem_nil, or_false]
    rcases hrange with rfl | rfl | rfl | rfl | rfl | rfl | rfl | rfl | rfl | rfl
    all_goals omega
  have hnone : ∀ n ∈ blankPoints, isDigitLike (Char.ofNat n) = false := by decide
  have hc' := hnone _ hpoint
  rw [Char.ofNat_toNat, h] at hc'
  cases hc'

end Text

namespace Number

/-- A character that looks like a digit is no sign and no mark between digits. -/
theorem ne_sign_of_isDigitLike {c : Char} (h : Text.isDigitLike c = true) :
    c ≠ '-' ∧ c ≠ '+' ∧ c ≠ '_' := by
  refine ⟨?_, ?_, ?_⟩
  all_goals
    rintro rfl
    revert h
    decide

/-- A text without marks separates its digits unless it is empty. -/
theorem marksSeparate_of_not_mem {s : List Char} (h : '_' ∉ s) (afterDigit : Bool) :
    marksSeparate afterDigit s = (afterDigit || !s.isEmpty) := by
  induction s generalizing afterDigit with
  | nil => simp [marksSeparate]
  | cons c s ih =>
    rw [List.mem_cons, not_or] at h
    have hc : (c == '_') = false := beq_eq_false_iff_ne.2 (Ne.symm h.1)
    rw [marksSeparate, hc, if_neg (by simp), ih h.2]
    simp

section DigitLike

variable {s : List Char} (hs : ∀ c ∈ s, Text.isDigitLike c = true)

include hs

/-- The digits in front of the first character that is no decimal digit are all the digits that are
found. -/
theorem takeWhile_isDigitOrMark :
    s.takeWhile isDigitOrMark = s.takeWhile fun c => (Text.decimalValue? c).isSome := by
  induction s with
  | nil => rfl
  | cons c s ih =>
    have hmark : (c == '_') = false :=
      beq_eq_false_iff_ne.2 (ne_sign_of_isDigitLike (hs c List.mem_cons_self)).2.2
    rw [List.takeWhile_cons, List.takeWhile_cons, isDigitOrMark, hmark, Bool.or_false,
      ih fun d hd => hs d (List.mem_cons_of_mem c hd)]

/-- The reading of such a text: nothing is dropped in front of its digits. -/
theorem readInt_of_isDigitLike :
    readInt s =
      if !marksSeparate false (s.takeWhile isDigitOrMark) then .error (.malformed (String.ofList s))
      else if maxDigits < (digitValues (s.takeWhile isDigitOrMark)).length then
        .error (.tooLong (digitValues (s.takeWhile isDigitOrMark)).length)
      else if (s.dropWhile isDigitOrMark).all isNumberBlank then
        .ok (ofDigits (digitValues (s.takeWhile isDigitOrMark)) : Nat)
      else .error (.malformed (String.ofList s)) := by
  have hdrop : s.dropWhile isNumberBlank = s := by
    cases s with
    | nil => rfl
    | cons c s =>
      refine List.dropWhile_cons_of_neg ?_
      simp [isNumberBlank, Text.isBlank_of_isDigitLike (hs c List.mem_cons_self)]
  have hsign : cutSign s = (false, s) := by
    cases s with
    | nil => rfl
    | cons c s =>
      have hne := ne_sign_of_isDigitLike (hs c List.mem_cons_self)
      rw [cutSign]
      · exact fun _ h => hne.1 (List.cons.inj h).1
      · exact fun _ h => hne.2.1 (List.cons.inj h).1
  rw [readInt, hdrop, hsign]
  rfl

/-- **A text that looks like digits is read exactly when it is made of decimal digits**, and not of
too many. -/
theorem exists_readInt_iff (hne : s ≠ []) :
    (∃ n, readInt s = .ok n) ↔
      (∀ c ∈ s, (Text.decimalValue? c).isSome = true) ∧ s.length ≤ maxDigits := by
  have hmark : '_' ∉ s := fun hmem => (ne_sign_of_isDigitLike (hs _ hmem)).2.2 rfl
  rw [readInt_of_isDigitLike hs, takeWhile_isDigitOrMark hs]
  by_cases hall : ∀ c ∈ s, (Text.decimalValue? c).isSome = true
  · have htake : (s.takeWhile fun c => (Text.decimalValue? c).isSome) = s :=
      List.takeWhile_eq_self_iff.2 hall
    have hdrop : s.dropWhile isDigitOrMark = [] := by
      rw [List.dropWhile_eq_nil_iff]
      intro c hc
      rw [isDigitOrMark, hall c hc, Bool.true_or]
    have hlength : (digitValues s).length = s.length := by
      rw [digitValues, List.length_filterMap_eq_countP, List.countP_eq_length]
      exact hall
    have hsep : marksSeparate false s = true := by
      rw [marksSeparate_of_not_mem hmark, Bool.false_or, Bool.not_eq_true',
        List.isEmpty_eq_false_iff]
      exact hne
    rw [htake, hdrop, hsep, hlength]
    by_cases hlong : maxDigits < s.length
    · simp [hlong]
    · simp only [hlong, Nat.le_of_not_lt hlong]
      simpa using hall
  · have hrest : (s.dropWhile isDigitOrMark).all isNumberBlank = false := by
      -- What stands behind the digits begins with a character that is no blank either.
      obtain ⟨c, hc, hnone⟩ : ∃ c ∈ s, isDigitOrMark c = false := by
        simp only [not_forall] at hall
        obtain ⟨c, hc, hnone⟩ := hall
        refine ⟨c, hc, ?_⟩
        rw [isDigitOrMark, Bool.eq_false_iff.2 hnone, Bool.false_or,
          beq_eq_false_iff_ne.2 (ne_sign_of_isDigitLike (hs c hc)).2.2]
      have hmem : c ∈ s.dropWhile isDigitOrMark := by
        have hsplit : c ∈ s.takeWhile isDigitOrMark ++ s.dropWhile isDigitOrMark := by
          rw [List.takeWhile_append_dropWhile]
          exact hc
        refine (List.mem_append.1 hsplit).resolve_left fun htaken => ?_
        rw [List.mem_takeWhile_imp htaken] at hnone
        cases hnone
      rw [List.all_eq_false]
      refine ⟨c, hmem, ?_⟩
      simp [isNumberBlank, Text.isBlank_of_isDigitLike (hs c hc)]
    rw [hrest, if_neg Bool.false_ne_true]
    constructor
    · rintro ⟨n, hn⟩
      repeat' split at hn
      all_goals cases hn
    · exact fun h => absurd h.1 hall

end DigitLike

end Number

namespace Header

/-- Headers tell a length that looks like a number and cannot be read as one: all its characters
look like digits, and one of them is no decimal digit or there are too many. -/
def HasFalseLength (h : ResponseHeaders) : Prop :=
  ∃ t, h.first? "Content-Length" = some t ∧ t ≠ "" ∧ (∀ c ∈ t.toList, Text.isDigitLike c = true) ∧
    ((∃ c ∈ t.toList, Text.decimalValue? c = none) ∨ Number.maxDigits < t.toList.length)

/-- **The lengths that fail** are those that look like numbers and cannot be read. -/
theorem contentLength_fails_iff (h : ResponseHeaders) :
    (∃ e, contentLength h = .error e) ↔ HasFalseLength h := by
  rw [contentLength, HasFalseLength]
  cases hfirst : h.first? "Content-Length" with
  | none => simp
  | some t =>
    simp only [Option.some.injEq, exists_eq_left']
    by_cases hread : t ≠ "" ∧ ∀ c ∈ t.toList, Text.isDigitLike c = true
    · obtain ⟨hne, hlike⟩ := hread
      have hne' : t.toList ≠ [] := by
        intro hnil
        exact hne (String.toList_eq_nil_iff.1 hnil)
      have hguard : (t.isEmpty || !t.toList.all Text.isDigitLike) = false := by
        rw [Bool.or_eq_false_iff]
        refine ⟨by simpa using hne, ?_⟩
        rw [Bool.not_eq_false', List.all_eq_true]
        exact hlike
      have hiff := Number.exists_readInt_iff hlike hne'
      rw [hguard, if_neg (by simp)]
      have hfails : (∃ e, (readInt t).map some = .error e) ↔
          ¬∃ n, Number.readInt t.toList = .ok n := by
        show (∃ e, (Number.readInt t.toList).map some = .error e) ↔ _
        cases Number.readInt t.toList with
        | error e => simp [Except.map]
        | ok n => simp [Except.map]
      rw [hfails, hiff, not_and_or]
      simp only [not_forall, Nat.not_le, exists_prop, Option.not_isSome_iff_eq_none, hne, ne_eq,
        not_false_eq_true, true_and]
      constructor
      · exact fun h => ⟨hlike, h⟩
      · exact fun h => h.2
    · have hguard : (t.isEmpty || !t.toList.all Text.isDigitLike) = true := by
        by_cases hempty : t = ""
        · simp [hempty]
        · have hunlike : ¬∀ c ∈ t.toList, Text.isDigitLike c = true := fun h => hread ⟨hempty, h⟩
          rw [Bool.or_eq_true, Bool.not_eq_true', ← Bool.not_eq_true, List.all_eq_true]
          exact .inr hunlike
      rw [hguard, if_pos rfl]
      constructor
      · rintro ⟨e, he⟩
        cases he
      · exact fun h => absurd ⟨h.1, h.2.1⟩ hread

/-- A date fails only when it is out of all range: any other text is no date, or one. -/
theorem isOverflow_of_date {text : Option String} {e : DateError} (h : date text = .error e) :
    e.isOverflow = true := by
  unfold date at h
  split at h
  · cases h
  · split at h
    · cases h
    · unfold MailDate.read at h
      split at h
      · cases h
      · dsimp only at h
        split at h
        · cases h
        · split at h
          · cases h
            assumption
          · cases h

end Header

end CloudClient
