import CloudClient.Calendar.MailDate
import CloudClient.Encoding.Binary
import CloudClient.Proofs.Calendar.CompactText
import CloudClient.Proofs.Text.Case
import CloudClient.Proofs.Text.Split

/-!
# Texts that stand on one line

A text stands on one line when none of its characters ends a line or a text. Main statements: texts
on one line are joined to such texts, and the numbers, dates and digests that are written are of
that kind.
-/

namespace CloudClient.Text

/-- The characters that end a line or a text. -/
def lineBreaks : List Char := ['\r', '\n', '\x00']

/-- None of the characters of a text ends a line. -/
def IsOneLine (s : String) : Prop := ∀ c ∈ s.toList, c ∉ lineBreaks

instance (s : String) : Decidable (IsOneLine s) :=
  List.decidableBAll (· ∉ lineBreaks) s.toList

/-! ## Characters -/

/-- What ends a line comes before the space. -/
theorem toNat_lt_of_mem_lineBreaks {c : Char} (h : c ∈ lineBreaks) : c.toNat < 0x20 := by
  simp only [lineBreaks, List.mem_cons, List.not_mem_nil, or_false] at h
  rcases h with rfl | rfl | rfl
  · decide
  · decide
  · decide

/-- A text of characters from the space on stands on one line. -/
theorem isOneLine_of_le {s : String} (h : ∀ c ∈ s.toList, 0x20 ≤ c.toNat) : IsOneLine s := by
  intro c hc hbreak
  have hbefore := toNat_lt_of_mem_lineBreaks hbreak
  have hafter := h c hc
  omega

/-- A text of digits stands on one line. -/
theorem isOneLine_of_isDigit {s : String} (h : ∀ c ∈ s.toList, c.isDigit = true) : IsOneLine s := by
  apply isOneLine_of_le
  intro c hc
  have hdigit := Char.isDigit_iff_toNat.1 (h c hc)
  simp only [Char.reduceToNat] at hdigit
  omega

/-! ## Joined texts -/

/-- Joined texts stand on one line exactly when each of them does. -/
@[simp] theorem isOneLine_append {s t : String} :
    IsOneLine (s ++ t) ↔ IsOneLine s ∧ IsOneLine t := by
  unfold IsOneLine
  rw [String.toList_append]
  constructor
  · intro h
    exact ⟨fun c hc => h c (List.mem_append_left _ hc),
      fun c hc => h c (List.mem_append_right _ hc)⟩
  · rintro ⟨hs, ht⟩ c hc
    exact (List.mem_append.1 hc).elim (hs c) (ht c)

/-- Texts on one line that are joined by a character that ends none stand on one line. -/
theorem isOneLine_intercalate {sep : String} {mark : Char} (hsep : sep.toList = [mark])
    (hmark : mark ∉ lineBreaks) {l : List String} (h : ∀ s ∈ l, IsOneLine s) :
    IsOneLine (sep.intercalate l) := by
  intro c hc
  rw [String.toList_intercalate, hsep] at hc
  rcases eq_sep_or_exists_of_mem_intercalate hc with rfl | ⟨p, hp, hcp⟩
  · exact hmark
  · obtain ⟨s, hs, rfl⟩ := List.mem_map.1 hp
    exact h s hs c hcp

/-- A text on one line stays on it in lower case: no capital becomes a character that ends a line.
-/
theorem IsOneLine.lowered {s : String} (h : IsOneLine s) : IsOneLine (Text.lowered s) := by
  intro c hc hbreak
  rw [Text.lowered, String.toList_ofList] at hc
  have hbefore := toNat_lt_of_mem_lineBreaks hbreak
  exact h c (mem_of_mem_lower hc (by omega)) hbreak

/-! ## Numbers -/

/-- A natural number is written on one line. -/
@[simp] theorem isOneLine_toString_nat (n : Nat) : IsOneLine (toString n) := by
  apply isOneLine_of_isDigit
  intro c hc
  rw [Nat.toString_eq_repr, Nat.toList_repr] at hc
  exact Nat.isDigit_of_mem_toDigits (by decide) (by decide) hc

/-- An integer is written on one line. -/
@[simp] theorem isOneLine_toString_int (n : Int) : IsOneLine (toString n) := by
  cases n with
  | ofNat n => exact isOneLine_toString_nat n
  | negSucc n => exact isOneLine_append.2 ⟨by decide, isOneLine_toString_nat (n + 1)⟩

/-- A number that is filled up is written on one line. -/
@[simp] theorem isOneLine_padded (width n : Nat) : IsOneLine (DateTime.padded width n) :=
  isOneLine_of_isDigit fun _ => DateTime.isDigit_of_mem_padded

/-! ## Digests -/

/-- A hexadecimal text stands on one line. -/
@[simp] theorem isOneLine_hex (s : Bytes) : IsOneLine (Hex.ofBytes s) := by
  have hdigit : ∀ n < 16, 0x20 ≤ (hexDigit n).toNat := by decide
  apply isOneLine_of_le
  intro c hc
  rw [Hex.ofBytes, String.toList_ofList] at hc
  obtain ⟨b, -, hb⟩ := List.mem_flatMap.1 hc
  have hsize : b.toNat < 256 := b.toNat_lt
  rcases List.mem_cons.1 hb with rfl | hb
  · exact hdigit _ (by omega)
  · obtain rfl := List.mem_singleton.1 hb
    exact hdigit _ (by omega)

/-- The characters of base 64 stand after the space. -/
theorem le_of_mem_base64 {s : Bytes} {c : Char} (h : c ∈ Base64.encode s) : 0x20 ≤ c.toNat := by
  have hdigit : ∀ n < 64, 0x20 ≤ (Base64.digit n).toNat := by decide
  have hpad : 0x20 ≤ '='.toNat := by decide
  -- Three bytes become four digits, and what is left is filled up, as the encoding goes.
  induction s using Base64.encode.induct with
  | case1 a b d r ih =>
    have ha : a.toNat < 256 := a.toNat_lt
    have hb : b.toNat < 256 := b.toNat_lt
    have hd : d.toNat < 256 := d.toNat_lt
    simp only [Base64.encode, List.mem_cons] at h
    rcases h with rfl | rfl | rfl | rfl | h
    · exact hdigit _ (by omega)
    · exact hdigit _ (by omega)
    · exact hdigit _ (by omega)
    · exact hdigit _ (by omega)
    · exact ih h
  | case2 a b =>
    have ha : a.toNat < 256 := a.toNat_lt
    have hb : b.toNat < 256 := b.toNat_lt
    simp only [Base64.encode, List.mem_cons, List.not_mem_nil, or_false] at h
    rcases h with rfl | rfl | rfl | rfl
    · exact hdigit _ (by omega)
    · exact hdigit _ (by omega)
    · exact hdigit _ (by omega)
    · exact hpad
  | case3 a =>
    have ha : a.toNat < 256 := a.toNat_lt
    simp only [Base64.encode, List.mem_cons, List.not_mem_nil, or_false] at h
    rcases h with rfl | rfl | rfl | rfl
    · exact hdigit _ (by omega)
    · exact hdigit _ (by omega)
    · exact hpad
    · exact hpad
  | case4 => cases h

/-- A text in base 64 stands on one line. -/
@[simp] theorem isOneLine_base64 (s : Bytes) : IsOneLine (Base64.ofBytes s) := by
  apply isOneLine_of_le
  intro c hc
  rw [Base64.ofBytes, String.toList_ofList] at hc
  exact le_of_mem_base64 hc

/-! ## Dates -/

/-- A name that is looked up among names on one line stands on one line. -/
theorem isOneLine_getD {l : List String} (h : ∀ s ∈ l, IsOneLine s) (i : Nat) :
    IsOneLine (l.getD i "") := by
  rw [List.getD_eq_getElem?_getD]
  cases hname : l[i]? with
  | none =>
    intro c hc
    cases hc
  | some s => exact h s (List.mem_of_getElem? hname)

/-- The date of a header stands on one line. -/
@[simp] theorem isOneLine_mailDate (t : DateTime) : IsOneLine (MailDate.write t) := by
  have hday := isOneLine_getD (l := MailDate.dayNames) (by decide) (Calendar.weekday t.dayNumber)
  have hmonth := isOneLine_getD (l := MailDate.monthNames) (by decide) (t.month - 1)
  simp +decide only [MailDate.write, isOneLine_append, isOneLine_padded, hday, hmonth, and_self]

/-- A day without separators stands on one line. -/
@[simp] theorem isOneLine_compactDate (t : DateTime) : IsOneLine t.compactDate :=
  isOneLine_of_isDigit fun _ => DateTime.isDigit_of_mem_compactDate

/-- A time without separators stands on one line. -/
@[simp] theorem isOneLine_compactText (t : DateTime) : IsOneLine t.compactText := by
  simp +decide only [DateTime.compactText, isOneLine_append, isOneLine_compactDate,
    isOneLine_padded, and_self]

end CloudClient.Text
