import CloudClient.Text.Case

/-!
# What lower-casing makes

Main statements: lower-casing makes letters only, so that every other character of ASCII in a
lowered text was there before, and lower-casing a lowered text changes nothing.
-/

namespace CloudClient.Text

/-- A number from that of the small letter a on that is the number of a character. -/
def isLetterNumber (n : Int) : Bool := 0x61 ≤ n && (n < 0xD800 || (0xE000 ≤ n && n < 0x110000))

/-- The character of the number of a character has it. -/
theorem toNat_ofNat {n : Nat} (h : n.isValidChar) : (Char.ofNat n).toNat = n := by
  rw [Char.ofNat, dif_pos h]
  rfl

/-- The character of such a number has it. -/
theorem toNat_ofNat_of_isLetterNumber {n : Int} (h : isLetterNumber n = true) :
    (Char.ofNat n.toNat).toNat = n.toNat := by
  simp only [isLetterNumber, Bool.and_eq_true, Bool.or_eq_true, decide_eq_true_eq] at h
  apply toNat_ofNat
  rw [Nat.isValidChar]
  omega

/-- A capital of a run. -/
def inRun (n : Nat) (r : Nat × Nat × Nat × Int) : Bool :=
  r.1 ≤ n && n ≤ r.2.1 && (n - r.1) % r.2.2.1 == 0

/-- A whole run of capitals goes to small letters. -/
theorem isLetterNumber_of_run {r : Nat × Nat × Nat × Int} (h : r ∈ capitalRuns) {n : Nat}
    (hn : inRun n r = true) : isLetterNumber (n + r.2.2.2) = true := by
  -- No run ends beyond the gap of the surrogates when it begins before it.
  have hall : ∀ r ∈ capitalRuns, 0x61 ≤ (r.1 : Int) + r.2.2.2 ∧
      ((r.2.1 : Int) + r.2.2.2 < 0xD800 ∨
        (0xE000 ≤ (r.1 : Int) + r.2.2.2 ∧ (r.2.1 : Int) + r.2.2.2 < 0x110000)) := by
    decide +kernel
  have hrun := hall r h
  simp only [inRun, isLetterNumber, Bool.and_eq_true, Bool.or_eq_true, decide_eq_true_eq] at hn ⊢
  omega

/-- A character is left as it is, or it is a capital of ASCII or of a run and goes to its small
letter. -/
theorem lowerChar_cases (c : Char) :
    lowerChar c = c ∨
      (0x41 ≤ c.toNat ∧ c.toNat ≤ 0x5A ∧ lowerChar c = Char.ofNat (c.toNat + 0x20)) ∨
      ∃ r ∈ capitalRuns, inRun c.toNat r = true ∧
        lowerChar c = Char.ofNat ((c.toNat : Int) + r.2.2.2).toNat := by
  rw [lowerChar]
  split
  · split
    · rename_i hupper
      rw [Bool.and_eq_true, decide_eq_true_eq, decide_eq_true_eq] at hupper
      exact .inr (.inl ⟨hupper.1, hupper.2, rfl⟩)
    · exact .inl rfl
  · split
    · rename_i r hr
      exact .inr (.inr ⟨r, List.mem_of_find?_eq_some hr, List.find?_some hr, rfl⟩)
    · exact .inl rfl

/-- Lower-casing a character makes a letter, or leaves it as it is. -/
theorem lowerChar_eq_or_le (c : Char) : lowerChar c = c ∨ 0x61 ≤ (lowerChar c).toNat := by
  rcases lowerChar_cases c with h | ⟨hfirst, hlast, h⟩ | ⟨r, hr, hin, h⟩
  · exact .inl h
  · have hvalid : (c.toNat + 0x20).isValidChar := .inl (by omega)
    rw [h, toNat_ofNat hvalid]
    exact .inr (by omega)
  · have hletter := isLetterNumber_of_run hr hin
    rw [h, toNat_ofNat_of_isLetterNumber hletter]
    simp only [isLetterNumber, Bool.and_eq_true, decide_eq_true_eq] at hletter
    exact .inr (by omega)

/-- Wherever it stands, a character is left as it is or becomes letters. -/
theorem eq_or_le_of_mem_lowerAt {before after : List Char} {c d : Char}
    (h : d ∈ lowerAt before c after) : d = c ∨ 0x61 ≤ d.toNat := by
  unfold lowerAt at h
  split at h
  · obtain rfl := List.mem_singleton.1 h
    split
    · exact .inr (by decide)
    · exact .inr (by decide)
  · split at h
    · rcases List.mem_cons.1 h with rfl | h
      · exact .inr (by decide)
      · obtain rfl := List.mem_singleton.1 h
        exact .inr (by decide)
    · obtain rfl := List.mem_singleton.1 h
      exact lowerChar_eq_or_le c

/-- What a lowered text holds was made of a character that was there. -/
theorem exists_of_mem_lower {s : List Char} {d : Char} (h : d ∈ lower s) :
    ∃ before, ∃ c ∈ s, ∃ after, d ∈ lowerAt before c after := by
  -- Where a character stands decides its small form, so the induction is for all that stands
  -- before.
  have hfrom : ∀ before, d ∈ lowerFrom before s →
      ∃ before, ∃ c ∈ s, ∃ after, d ∈ lowerAt before c after := by
    clear h
    induction s with
    | nil =>
      intro before h
      cases h
    | cons c r ih =>
      intro before h
      rw [lowerFrom] at h
      rcases List.mem_append.1 h with h | h
      · exact ⟨before, c, List.mem_cons_self, r, h⟩
      · obtain ⟨before', c', hc', after, hd⟩ := ih _ h
        exact ⟨before', c', List.mem_cons_of_mem _ hc', after, hd⟩
  exact hfrom [] h

/-- **A character below the small letters in a lowered text was there before.** -/
theorem mem_of_mem_lower {s : List Char} {d : Char} (h : d ∈ lower s) (hd : d.toNat < 0x61) :
    d ∈ s := by
  obtain ⟨before, c, hc, after, hat⟩ := exists_of_mem_lower h
  rcases eq_or_le_of_mem_lowerAt hat with rfl | hle
  · exact hc
  · omega

/-- Lower-casing a character makes no other below the small letters. -/
theorem lowerChar_eq_iff {c d : Char} (hd : d.toNat < 0x61) (hkept : lowerChar d = d) :
    lowerChar c = d ↔ c = d := by
  constructor
  · intro h
    rcases lowerChar_eq_or_le c with hc | hle
    · exact hc.symm.trans h
    · rw [h] at hle
      omega
  · rintro rfl
    exact hkept

/-- Neither of the two characters that have rules of their own. -/
def IsOrdinary (c : Char) : Prop := c.toNat ≠ 0x3A3 ∧ c.toNat ≠ 0x130

/-- Characters without rules of their own are lowered one by one. -/
theorem lowerFrom_append {s : List Char} (h : ∀ c ∈ s, IsOrdinary c) (before t : List Char) :
    lowerFrom before (s ++ t) = s.map lowerChar ++ lowerFrom (s.reverse ++ before) t := by
  induction s generalizing before with
  | nil => rfl
  | cons c s ih =>
    obtain ⟨hsigma, hdotted⟩ := h c List.mem_cons_self
    rw [List.cons_append, lowerFrom, lowerAt, if_neg hsigma, if_neg hdotted,
      ih fun d hd => h d (List.mem_cons_of_mem _ hd), List.reverse_cons, List.append_assoc]
    rfl

/-- A text of such characters is lowered one by one. -/
theorem lower_eq_map {s : List Char} (h : ∀ c ∈ s, IsOrdinary c) : lower s = s.map lowerChar := by
  have hall := lowerFrom_append h [] []
  rw [List.append_nil] at hall
  exact hall.trans (List.append_nil _)

/-- Every character is made into something. -/
theorem lowerFrom_ne_nil {s : List Char} (h : s ≠ []) (before : List Char) :
    lowerFrom before s ≠ [] := by
  cases s with
  | nil => exact absurd rfl h
  | cons c s =>
    rw [lowerFrom, lowerAt]
    split
    · exact List.cons_ne_nil _ _
    · split
      · exact List.cons_ne_nil _ _
      · exact List.cons_ne_nil _ _

/-! ## Lower-casing twice -/

/-- The number of the small letter of a capital. -/
def smallNumber (n : Nat) : Int → Nat
  | .ofNat d => n + d
  | .negSucc d => n - (d + 1)

/-- The small letter stands at the distance of its run. -/
theorem smallNumber_eq (n : Nat) (d : Int) : smallNumber n d = ((n : Int) + d).toNat := by
  cases d with
  | ofNat d =>
    rw [smallNumber, Int.ofNat_eq_natCast]
    omega
  | negSucc d =>
    rw [smallNumber]
    omega

/-- No small letter of the first run is a capital of the second one: the runs lie apart, or their
letters alternate. -/
def isApart (r t : Nat × Nat × Nat × Int) : Bool :=
  Nat.blt (smallNumber r.2.1 r.2.2.2) t.1 || (Nat.blt t.2.1 (smallNumber r.1 r.2.2.2) ||
    ((Nat.beq r.1 r.2.1 || Nat.beq r.2.2.1 2) &&
      (Nat.beq t.2.2.1 2 && Nat.beq ((smallNumber r.1 r.2.2.2 - t.1) % 2) 1)))

/-- The small letters of no run are capitals. -/
theorem all_isApart : (capitalRuns.all fun r => capitalRuns.all (isApart r)) = true := by
  decide +kernel

/-- No small letter of a run is a capital. -/
theorem find?_inRun_smallNumber {r : Nat × Nat × Nat × Int} (hr : r ∈ capitalRuns) {n : Nat}
    (hn : inRun n r = true) : capitalRuns.find? (inRun (smallNumber n r.2.2.2)) = none := by
  rw [List.find?_eq_none]
  intro t ht hin
  have hletter := isLetterNumber_of_run hr hn
  have hapart := List.all_eq_true.1 (List.all_eq_true.1 all_isApart r hr) t ht
  obtain ⟨first, last, step, delta⟩ := r
  obtain ⟨first', last', step', delta'⟩ := t
  simp only [inRun, isApart, smallNumber_eq, Bool.and_eq_true, Bool.or_eq_true, decide_eq_true_eq,
    beq_iff_eq, Nat.blt_eq, Nat.beq_eq, isLetterNumber] at hletter hn hin hapart
  obtain ⟨⟨hn1, hn2⟩, hn3⟩ := hn
  obtain ⟨⟨hin1, hin2⟩, hin3⟩ := hin
  -- The two runs lie apart, one way or the other, or every second number is a capital of the
  -- second.
  rcases hapart with hapart | hapart | ⟨heven, hstep', hodd⟩
  · omega
  · omega
  · rw [hstep'] at hin3
    rcases heven with hsingle | hstep
    · omega
    · rw [hstep] at hn3
      omega

/-- A character that lower-casing leaves alone wherever it stands. -/
def IsSmall (c : Char) : Prop := lowerChar c = c ∧ c.toNat ≠ 0x3A3 ∧ c.toNat ≠ 0x130

instance : DecidablePred IsSmall := fun c =>
  inferInstanceAs (Decidable (lowerChar c = c ∧ c.toNat ≠ 0x3A3 ∧ c.toNat ≠ 0x130))

/-- The small letter of a capital of a run is left alone. -/
theorem isSmall_of_run {c : Char} {r : Nat × Nat × Nat × Int} (hr : r ∈ capitalRuns)
    (hin : inRun c.toNat r = true) :
    IsSmall (Char.ofNat ((c.toNat : Int) + r.2.2.2).toNat) := by
  have hletter := isLetterNumber_of_run hr hin
  have hnone := find?_inRun_smallNumber hr hin
  have hnumber := toNat_ofNat_of_isLetterNumber hletter
  rw [smallNumber_eq, ← hnumber] at hnone
  have hfirst : 0x61 ≤ (Char.ofNat ((c.toNat : Int) + r.2.2.2).toNat).toNat := by
    simp only [isLetterNumber, Bool.and_eq_true, decide_eq_true_eq] at hletter
    omega
  refine ⟨?_, ?_, ?_⟩
  · rcases lowerChar_cases (Char.ofNat ((c.toNat : Int) + r.2.2.2).toNat) with
      h | ⟨-, hlast, -⟩ | ⟨t, ht, hint, -⟩
    · exact h
    · omega
    · exact absurd hint (List.find?_eq_none.1 hnone t ht)
  · intro hsigma
    rw [hsigma] at hnone
    revert hnone
    decide
  · -- The capital I with a dot stands in no run, but no letter goes to it.
    have hdotted : (capitalRuns.all fun r => isApart r (0x130, 0x130, 1, 0)) = true := by
      decide +kernel
    have hapart := List.all_eq_true.1 hdotted r hr
    intro hi
    rw [hnumber] at hi
    obtain ⟨first, last, step, delta⟩ := r
    simp only [inRun, isApart, smallNumber_eq, Bool.and_eq_true, Bool.or_eq_true,
      decide_eq_true_eq, beq_iff_eq, Nat.blt_eq, Nat.beq_eq] at hin hapart hi
    omega

/-- Lower-casing a character makes one that it leaves alone, but for the two that have rules of
their own. -/
theorem isSmall_lowerChar {c : Char} (hsigma : c.toNat ≠ 0x3A3) (hdotted : c.toNat ≠ 0x130) :
    IsSmall (lowerChar c) := by
  rcases lowerChar_cases c with h | ⟨hfirst, hlast, h⟩ | ⟨r, hr, hin, h⟩
  · rw [h]
    exact ⟨h, hsigma, hdotted⟩
  · have hall : ∀ n < 0x5B, 0x41 ≤ n → IsSmall (Char.ofNat (n + 0x20)) := by decide
    rw [h]
    exact hall c.toNat (by omega) hfirst
  · rw [h]
    exact isSmall_of_run hr hin

/-- A lowered text has such characters alone. -/
theorem isSmall_of_mem_lower {s : List Char} {d : Char} (h : d ∈ lower s) : IsSmall d := by
  obtain ⟨before, c, -, after, hat⟩ := exists_of_mem_lower h
  unfold lowerAt at hat
  split at hat
  · obtain rfl := List.mem_singleton.1 hat
    split
    · decide
    · decide
  · rename_i hsigma
    split at hat
    · rcases List.mem_cons.1 hat with rfl | hat
      · decide
      · obtain rfl := List.mem_singleton.1 hat
        decide
    · rename_i hdotted
      obtain rfl := List.mem_singleton.1 hat
      exact isSmall_lowerChar hsigma hdotted

/-- A text of such characters is left as it is. -/
theorem lower_eq_self {s : List Char} (h : ∀ c ∈ s, IsSmall c) : lower s = s := by
  -- Only a capital sigma looks at what stands around it.
  have hfrom : ∀ before, lowerFrom before s = s := by
    induction s with
    | nil =>
      intro before
      rfl
    | cons c r ih =>
      intro before
      obtain ⟨hc, hsigma, hdotted⟩ := h c List.mem_cons_self
      rw [lowerFrom, lowerAt, if_neg hsigma, if_neg hdotted, hc,
        ih fun d hd => h d (List.mem_cons_of_mem _ hd), List.singleton_append]
  exact hfrom []

/-- **Lower-casing a lowered text changes nothing.** -/
theorem lower_lower (s : List Char) : lower (lower s) = lower s :=
  lower_eq_self fun _ => isSmall_of_mem_lower

end CloudClient.Text
