import CloudClient.Calendar.DateTime
import CloudClient.Text.Split

/-!
# Numbers in the texts of times

The numbers of a time are filled up with zeros. Main statements: such a number has its width and its
value, and the compact text of a time begins with its day, which ends at the first letter T.
-/

namespace CloudClient.DateTime

/-- A filled up number is made of digits. -/
theorem isDigit_of_mem_padded {width n : Nat} {c : Char} (h : c ∈ (padded width n).toList) :
    c.isDigit = true := by
  rw [padded, String.toList_ofList, List.mem_append] at h
  rcases h with h | h
  · rw [List.eq_of_mem_replicate h]
    rfl
  · rw [Nat.toList_repr] at h
    exact Nat.isDigit_of_mem_toDigits (by decide) (by decide) h

/-- A number that is filled up with zeros takes its width. -/
theorem length_padded {width n : Nat} (hwidth : 0 < width) (h : n < Nat.pow 10 width) :
    (padded width n).toList.length = width := by
  have hle : (Nat.toDigits 10 n).length ≤ width :=
    (Nat.length_toDigits_le_iff (by decide) hwidth).2 h
  rw [padded, String.toList_ofList, List.length_append, List.length_replicate, Nat.toList_repr]
  omega

/-- Zeros in front of a number do not count. -/
theorem ofDigitChars_padded (width n : Nat) :
    Nat.ofDigitChars 10 (padded width n).toList 0 = n := by
  rw [padded, String.toList_ofList, Nat.toList_repr, Nat.ofDigitChars_append,
    Nat.ofDigitChars_replicate_zero, Nat.mul_zero, Nat.ofDigitChars_ten_toDigits]

/-- A day is made of digits. -/
theorem isDigit_of_mem_compactDate {utc : DateTime} {c : Char} (h : c ∈ utc.compactDate.toList) :
    c.isDigit = true := by
  rw [compactDate, String.toList_append, String.toList_append, List.mem_append,
    List.mem_append] at h
  rcases h with (h | h) | h
  · rw [Nat.toString_eq_repr, Nat.toList_repr] at h
    exact Nat.isDigit_of_mem_toDigits (by decide) (by decide) h
  · exact isDigit_of_mem_padded h
  · exact isDigit_of_mem_padded h

/-- The day is what stands before the time. -/
theorem cut_compactText (utc : DateTime) :
    String.ofList (Text.cut 'T' utc.compactText.toList).1 = utc.compactDate := by
  have hday : 'T' ∉ utc.compactDate.toList := by
    intro hmem
    cases isDigit_of_mem_compactDate hmem
  have htext : utc.compactText.toList =
      utc.compactDate.toList ++ 'T' :: (padded 2 utc.hour ++
        padded 2 utc.minute ++ padded 2 utc.second ++ "Z").toList := by
    have hmark : "T".toList = ['T'] := rfl
    rw [compactText]
    simp only [String.toList_append, List.append_assoc, hmark, List.cons_append, List.nil_append]
  rw [htext, Text.cut_append_sep hday, String.ofList_toList]

end CloudClient.DateTime
