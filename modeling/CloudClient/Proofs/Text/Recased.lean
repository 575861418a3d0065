import CloudClient.Proofs.Text.Case
import Mathlib.Data.List.Forall2

/-!
# Texts that differ in case

Two texts differ in case alone when their characters have the same small letters one by one. The
small letter of a capital sigma is chosen by what stands around it, so one cannot be put in the
place of a small one. Main statement: texts that differ in the case of other letters alone are
lowered to the same text.
-/

namespace CloudClient.Text

/-- The characters differ in case alone, and neither is a capital sigma unless both are. -/
def SameLetter (c d : Char) : Prop :=
  lowerChar c = lowerChar d ∧ (c.toNat = 0x3A3 ↔ d.toNat = 0x3A3)

/-- The texts differ in the case of letters alone, and have their capital sigmas at the same places.
-/
def Recased (s t : String) : Prop := List.Forall₂ SameLetter s.toList t.toList

instance : DecidableRel SameLetter := fun c d =>
  inferInstanceAs (Decidable (lowerChar c = lowerChar d ∧ (c.toNat = 0x3A3 ↔ d.toNat = 0x3A3)))

instance : DecidableRel Recased := fun s t =>
  inferInstanceAs (Decidable (List.Forall₂ SameLetter s.toList t.toList))

variable {c d : Char} {s t : List Char}

/-- Letters that differ in case alone do so the other way round. -/
theorem SameLetter.symm (h : SameLetter c d) : SameLetter d c := ⟨h.1.symm, h.2.symm⟩

/-- Letters that differ from one in case alone differ in case alone. -/
theorem SameLetter.trans {e : Char} (h : SameLetter c d) (h' : SameLetter d e) : SameLetter c e :=
  ⟨h.1.trans h'.1, h.2.trans h'.2⟩

/-- A text differs from itself in nothing. -/
theorem Recased.refl (s : String) : Recased s s := List.forall₂_same.2 fun _ _ => ⟨rfl, Iff.rfl⟩

/-- A letter of ASCII differs from its small letter in case alone, and other characters stay. -/
theorem sameLetter_toLower (c : Char) : SameLetter c c.toLower := by
  by_cases hc : c.toNat < 0x80
  · have hall : ∀ n < 0x80, SameLetter (Char.ofNat n) (Char.ofNat n).toLower := by decide
    rw [← Char.ofNat_toNat c]
    exact hall _ hc
  · have hbeyond : ¬(c.val ≥ 'A'.val ∧ c.val ≤ 'Z'.val) := by
      rintro ⟨-, hlast⟩
      exact hc (Nat.lt_of_le_of_lt (UInt32.le_iff_toNat_le.1 hlast) (by decide))
    have hsame : c.toLower = c := dif_neg hbeyond
    rw [hsame]
    exact ⟨rfl, Iff.rfl⟩

/-- **Texts that are the same but for the case of letters of ASCII differ in case alone.** -/
theorem recased_of_toLower {s t : String} (h : s.toLower = t.toLower) : Recased s t := by
  have hmap : s.toList.map Char.toLower = t.toList.map Char.toLower := by
    rw [← String.toList_map, ← String.toList_map]
    exact congrArg String.toList h
  have hsmall : List.Forall₂ (fun c d : Char => c.toLower = d.toLower) s.toList t.toList := by
    have heq := List.forall₂_eq_eq_eq ▸ hmap
    rwa [List.forall₂_map_left_iff, List.forall₂_map_right_iff] at heq
  refine hsmall.imp fun c d hcd => ?_
  exact (sameLetter_toLower c).trans (hcd ▸ (sameLetter_toLower d).symm)

/-! ## Capitals and small letters have case -/

/-- A number is in one of the ranges. -/
def isWithin (rs : Ranges) (n : Nat) : Bool := rs.any fun g => Nat.ble g.1 n && Nat.ble n g.2

/-- The numbers from the first to the last one, by a step, are in the ranges: all of them in one, or
each of them in one. -/
def areWithin (rs : Ranges) (first last step : Nat) : Bool :=
  (rs.any fun g => Nat.ble g.1 first && Nat.ble last g.2) ||
    (List.range (last - first + 1)).all fun i => !Nat.beq (i % step) 0 || isWithin rs (first + i)

/-- A number between those of a range is in it. -/
theorem isWithin_iff {rs : Ranges} {n : Nat} :
    isWithin rs n = true ↔ ∃ g ∈ rs, g.1 ≤ n ∧ n ≤ g.2 := by
  simp only [isWithin, List.any_eq_true, Bool.and_eq_true, Nat.ble_eq]

/-- The ranges hold the characters whose numbers are in them. -/
theorem holds_eq_isWithin (rs : Ranges) (c : Char) : rs.holds c = isWithin rs c.toNat := by
  rw [Bool.eq_iff_iff, isWithin_iff]
  simp only [Ranges.holds, List.any_eq_true, Bool.and_eq_true, decide_eq_true_eq]

/-- Each of numbers that are in the ranges is. -/
theorem isWithin_of_areWithin {rs : Ranges} {first last step n : Nat}
    (h : areWithin rs first last step = true) (hfirst : first ≤ n) (hlast : n ≤ last)
    (hstep : (n - first) % step = 0) : isWithin rs n = true := by
  rw [areWithin, Bool.or_eq_true] at h
  rcases h with h | h
  · obtain ⟨g, hg, hin⟩ := List.any_eq_true.1 h
    rw [Bool.and_eq_true, Nat.ble_eq, Nat.ble_eq] at hin
    exact isWithin_iff.2 ⟨g, hg, by omega, by omega⟩
  · have hn := List.all_eq_true.1 h (n - first) (List.mem_range.2 (by omega))
    rw [hstep, Nat.add_sub_cancel' hfirst] at hn
    exact hn

/-- The capitals of every run have case, and so do their small letters. -/
theorem all_areWithin : (capitalRuns.all fun r =>
    areWithin casedRanges r.1 r.2.1 r.2.2.1 &&
      areWithin casedRanges (smallNumber r.1 r.2.2.2)
        (smallNumber r.2.1 r.2.2.2) r.2.2.1) = true := by
  decide +kernel

/-- No letter with case is passed over. -/
theorem all_apart : (casedRanges.all fun g =>
    transparentRanges.all fun t => Nat.blt g.2 t.1 || Nat.blt t.2 g.1) = true := by
  decide +kernel

/-- A letter with case ends the search for a word's end. -/
theorem transparentRanges_holds_of_cased (h : casedRanges.holds c = true) :
    transparentRanges.holds c = false := by
  rw [holds_eq_isWithin] at h ⊢
  obtain ⟨g, hg, hfirst, hlast⟩ := isWithin_iff.1 h
  rw [Bool.eq_false_iff]
  intro hpassed
  obtain ⟨t, ht, hfirst', hlast'⟩ := isWithin_iff.1 hpassed
  have hapart := List.all_eq_true.1 (List.all_eq_true.1 all_apart g hg) t ht
  rw [Bool.or_eq_true, Nat.blt_eq, Nat.blt_eq] at hapart
  omega

/-- The capitals of a run have case, and so do their small letters. -/
theorem cased_of_run {r : Nat × Nat × Nat × Int} (hr : r ∈ capitalRuns)
    (hin : inRun c.toNat r = true) :
    casedRanges.holds c = true ∧
      casedRanges.holds (Char.ofNat ((c.toNat : Int) + r.2.2.2).toNat) = true := by
  have hletter := isLetterNumber_of_run hr hin
  have hwithin := List.all_eq_true.1 all_areWithin r hr
  rw [Bool.and_eq_true] at hwithin
  rw [holds_eq_isWithin, holds_eq_isWithin, toNat_ofNat_of_isLetterNumber hletter]
  simp only [inRun, Bool.and_eq_true, decide_eq_true_eq, beq_iff_eq] at hin
  obtain ⟨⟨hfirst, hlast⟩, hstep⟩ := hin
  refine ⟨isWithin_of_areWithin hwithin.1 hfirst hlast hstep, ?_⟩
  -- The first capital goes to a small letter as well, so that their distance is that of the
  -- capitals.
  have hfirstLetter : isLetterNumber (r.1 + r.2.2.2) = true :=
    isLetterNumber_of_run hr (by simp [inRun]; omega)
  simp only [isLetterNumber, Bool.and_eq_true, decide_eq_true_eq] at hletter hfirstLetter
  have hwithin := hwithin.2
  rw [smallNumber_eq, smallNumber_eq] at hwithin
  refine isWithin_of_areWithin hwithin (by omega) (by omega) ?_
  have hsame : ((c.toNat : Int) + r.2.2.2).toNat - ((r.1 : Int) + r.2.2.2).toNat =
      c.toNat - r.1 := by
    omega
  rw [hsame]
  exact hstep

/-- A character that lower-casing changes has case, and so does its small letter. -/
theorem lowerChar_eq_or_cased (c : Char) :
    lowerChar c = c ∨ (casedRanges.holds c = true ∧ casedRanges.holds (lowerChar c) = true) := by
  rcases lowerChar_cases c with h | ⟨hfirst, hlast, h⟩ | ⟨r, hr, hin, h⟩
  · exact .inl h
  · have hall : ∀ n < 0x5B, 0x41 ≤ n → casedRanges.holds (Char.ofNat n) = true ∧
        casedRanges.holds (Char.ofNat (n + 0x20)) = true := by decide
    have hc := hall c.toNat (by omega) hfirst
    rw [Char.ofNat_toNat] at hc
    rw [h]
    exact .inr hc
  · rw [h]
    exact .inr (cased_of_run hr hin)

/-- Characters that differ in case alone are passed over alike, and have case alike. -/
theorem SameLetter.holds (h : SameLetter c d) :
    transparentRanges.holds c = transparentRanges.holds d ∧
      casedRanges.holds c = casedRanges.holds d := by
  have hsmall : ∀ c, transparentRanges.holds c = transparentRanges.holds (lowerChar c) ∧
      casedRanges.holds c = casedRanges.holds (lowerChar c) := by
    intro c
    rcases lowerChar_eq_or_cased c with heq | ⟨hcased, hcased'⟩
    · rw [heq]
      exact ⟨rfl, rfl⟩
    · rw [hcased, hcased', transparentRanges_holds_of_cased hcased,
        transparentRanges_holds_of_cased hcased']
      exact ⟨rfl, rfl⟩
  obtain ⟨hpassed, hcased⟩ := hsmall c
  obtain ⟨hpassed', hcased'⟩ := hsmall d
  rw [hpassed, hcased, hpassed', hcased', h.1]
  exact ⟨rfl, rfl⟩

/-! ## Lower-casing -/

/-- The search for a word's end finds the same in texts that differ in case alone. -/
theorem meetsCased_congr (h : List.Forall₂ SameLetter s t) : meetsCased s = meetsCased t := by
  induction h with
  | nil => rfl
  | @cons c d s t hletter _ ih =>
    obtain ⟨hpassed, hcased⟩ := hletter.holds
    rw [meetsCased, meetsCased, List.dropWhile_cons, List.dropWhile_cons, ← hpassed]
    by_cases hc : transparentRanges.holds c = true
    · rw [if_pos hc, if_pos hc]
      exact ih
    · rw [if_neg hc, if_neg hc]
      exact hcased

/-- The capital I with a dot has no small letter of one character. -/
theorem SameLetter.toNat_eq_iff (h : SameLetter c d) : c.toNat = 0x130 ↔ d.toNat = 0x130 := by
  have hdotted : ∀ {c d : Char}, SameLetter c d → c.toNat = 0x130 → d.toNat = 0x130 := by
    intro c d h hc
    by_contra hd
    have hsigma : d.toNat ≠ 0x3A3 := by
      rw [ne_eq, ← h.2]
      omega
    have hsmall := isSmall_lowerChar hsigma hd
    rw [← h.1, ← Char.ofNat_toNat c, hc] at hsmall
    revert hsmall
    decide
  exact ⟨hdotted h, hdotted h.symm⟩

/-- Characters that differ in case alone are lowered to the same among such. -/
theorem lowerAt_congr {before before' : List Char}
    (hbefore : List.Forall₂ SameLetter before before') (h : SameLetter c d)
    (hafter : List.Forall₂ SameLetter s t) : lowerAt before c s = lowerAt before' d t := by
  simp only [lowerAt, h.2, h.toNat_eq_iff, h.1, meetsCased_congr hbefore, meetsCased_congr hafter]

/-- **Texts that differ in case alone are lowered to the same text.** -/
theorem lowered_congr {s t : String} (h : Recased s t) : lowered s = lowered t := by
  -- What stands before a character decides its small form, so the induction is for all that stands
  -- before.
  have hfrom : ∀ {s t : List Char}, List.Forall₂ SameLetter s t → ∀ {before before' : List Char},
      List.Forall₂ SameLetter before before' → lowerFrom before s = lowerFrom before' t := by
    intro s t h
    induction h with
    | nil =>
      intro before before' _
      rfl
    | cons hletter hrest ih =>
      intro before before' hbefore
      rw [lowerFrom, lowerFrom, lowerAt_congr hbefore hletter hrest, ih (.cons hletter hbefore)]
  exact congrArg String.ofList (hfrom h .nil)

end CloudClient.Text
