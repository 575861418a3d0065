import CloudClient.Calendar.MailDate
import CloudClient.Proofs.Calendar.CompactText
import CloudClient.Proofs.Calendar.Instant
import CloudClient.Proofs.Number.Integer
import CloudClient.Proofs.Text.Blank
import CloudClient.Proofs.Text.Split

/-!
# Dates of headers that are read back

A header writes a time in UTC as six words, down to the second. The reader drops the weekday, finds
the month by its name, and reads the other words as numbers. Main statement: what is written of a
time from the year 100 on is read as the second of that time.
-/

namespace CloudClient.MailDate

open DateTime

/-! ## Words that are written -/

/-- The first word: the weekday with a comma. -/
def weekdayWord (t : DateTime) : List Char :=
  (dayNames.getD (Calendar.weekday t.dayNumber) "").toList ++ [',']

/-- The time of day. -/
def clockWord (t : DateTime) : List Char :=
  (padded 2 t.hour).toList ++ ':' ::
    ((padded 2 t.minute).toList ++ ':' :: (padded 2 t.second).toList)

/-- The name of the month. -/
def monthWord (t : DateTime) : List Char := (monthNames.getD (t.month - 1) "").toList

/-- The words of a date. -/
def dateWords (t : DateTime) : List (List Char) :=
  [weekdayWord t, (padded 2 t.day).toList, monthWord t, (padded 4 t.year).toList, clockWord t,
    "GMT".toList]

/-- A date is its words with single spaces between them. -/
theorem toList_write (t : DateTime) : (write t).toList = [' '].intercalate (dateWords t) := by
  have hcomma : ", ".toList = [',', ' '] := rfl
  have hspace : " ".toList = [' '] := rfl
  have hcolon : ":".toList = [':'] := rfl
  have hzone : " GMT".toList = ' ' :: "GMT".toList := rfl
  simp only [write, dateWords, weekdayWord, clockWord, monthWord, String.toList_append, hcomma,
    hspace, hcolon, hzone, List.intercalate_cons_cons, List.intercalate_singleton,
    List.append_assoc, List.cons_append, List.nil_append]

/-! ## Numbers that are written -/

variable {width n : Nat} {t : DateTime}

/-- A filled up number is a word. -/
theorem isSolid_padded (hwidth : 0 < width) (h : n < Nat.pow 10 width) :
    Text.IsSolid (padded width n).toList where
  ne_nil := by
    rw [ne_eq, ← List.length_eq_zero_iff, length_padded hwidth h]
    omega
  dark := fun c hc =>
    Text.isBlank_of_isDigitLike (Number.isDigitLike_of_isDigit (isDigit_of_mem_padded hc))

/-- A filled up number is read. -/
theorem int?_padded (hwidth : 0 < width) (h : n < Nat.pow 10 width) (hshort : width ≤ 4) :
    int? (padded width n).toList = some (n : Int) := by
  have hlength := length_padded hwidth h
  have hread := Number.readInt_of_isDigit (s := (padded width n).toList)
    (fun c hc => isDigit_of_mem_padded hc) (isSolid_padded hwidth h).ne_nil (by
      rw [hlength, Number.maxDigits]
      omega)
  rw [int?, hread, ofDigitChars_padded]
  rfl

/-- A filled up number has no other character. -/
theorem not_mem_padded {c : Char} (hc : c.isDigit = false) : c ∉ (padded width n).toList := by
  intro hmem
  rw [isDigit_of_mem_padded hmem] at hc
  cases hc

/-- No comma is dropped of a text that ends with a number. -/
theorem dropComma_append_padded (s : List Char) (hwidth : 0 < width) (h : n < Nat.pow 10 width) :
    dropComma (s ++ (padded width n).toList) = s ++ (padded width n).toList := by
  have hne := (isSolid_padded hwidth h).ne_nil
  have hlast : (s ++ (padded width n).toList).getLast? ≠ some ',' := by
    rw [List.getLast?_append, List.getLast?_eq_some_getLast hne, Option.some_or]
    intro hcomma
    exact not_mem_padded (by decide) (Option.some.inj hcomma ▸ List.getLast_mem hne)
  rw [dropComma, if_neg hlast]

/-! ## Reading the parts -/

/-- A month is known by its name. -/
theorem monthNumber?_monthWord (h : 1 ≤ t.month ∧ t.month ≤ 12) :
    monthNumber? (Text.lower (monthWord t)) = some t.month := by
  have hall : ∀ k < 12, monthNumber? (Text.lower (monthNames.getD k "").toList) = some (k + 1) := by
    decide +kernel
  have hmonth := hall (t.month - 1) (by omega)
  rw [monthWord, hmonth]
  congr 1
  omega

/-- A month has a name. -/
theorem isSolid_monthWord (h : 1 ≤ t.month ∧ t.month ≤ 12) : Text.IsSolid (monthWord t) := by
  have hall : ∀ k < 12, Text.IsSolid (monthNames.getD k "").toList := by decide
  exact hall (t.month - 1) (by omega)

/-- A weekday has a name. -/
theorem isSolid_weekdayWord (t : DateTime) : Text.IsSolid (weekdayWord t) := by
  have hall : ∀ k < 7, Text.IsSolid ((dayNames.getD k "").toList ++ [',']) := by decide
  exact hall _ (Nat.mod_lt _ (by decide))

variable (h : t.IsSound)

include h

/-- The numbers of a sound time fit in their places. -/
theorem numbers_lt : t.day < Nat.pow 10 2 ∧ t.year < Nat.pow 10 4 ∧ t.hour < Nat.pow 10 2 ∧
    t.minute < Nat.pow 10 2 ∧ t.second < Nat.pow 10 2 := by
  have hmonth := daysInMonth_le t.year t.month
  obtain ⟨hyear, -, hday, hhour, hminute, hsecond, -⟩ := h
  refine ⟨?_, ?_, ?_, ?_, ?_⟩
  all_goals
    simp only [Nat.pow_eq]
    omega

/-- The time of day is a word. -/
theorem isSolid_clockWord : Text.IsSolid (clockWord t) := by
  obtain ⟨-, -, hhour, hminute, hsecond⟩ := numbers_lt h
  refine ⟨by simp [clockWord], fun c hc => ?_⟩
  simp only [clockWord, List.mem_append, List.mem_cons] at hc
  rcases hc with hc | rfl | hc | rfl | hc
  · exact (isSolid_padded (by decide) hhour).dark c hc
  · decide
  · exact (isSolid_padded (by decide) hminute).dark c hc
  · decide
  · exact (isSolid_padded (by decide) hsecond).dark c hc

/-- A time of day is split at its colons. -/
theorem splitTime_clockWord :
    splitTime (dropComma (clockWord t)) =
      some ((padded 2 t.hour).toList, (padded 2 t.minute).toList, (padded 2 t.second).toList) := by
  obtain ⟨-, -, -, -, hsecond⟩ := numbers_lt h
  have hassoc : clockWord t =
      ((padded 2 t.hour).toList ++ ':' :: ((padded 2 t.minute).toList ++ [':'])) ++
        (padded 2 t.second).toList := by
    simp [clockWord]
  have hdrop : dropComma (clockWord t) = clockWord t := by
    rw [hassoc]
    exact dropComma_append_padded _ (by decide) hsecond
  have hcolon : ∀ n, ':' ∉ (padded 2 n).toList := fun _ => not_mem_padded (by decide)
  rw [hdrop, splitTime, clockWord, Text.pieces_append_sep (hcolon _),
    Text.pieces_append_sep (hcolon _), Text.pieces_of_not_mem (hcolon _)]

/-- **The parts of a date that is written are read.** -/
theorem readParts?_dateWords (hyear : 100 ≤ t.year) :
    readParts? (padded 2 t.day).toList (monthWord t)
      (padded 4 t.year).toList (clockWord t) "GMT".toList =
      some ⟨t.year, t.month, t.day, t.hour, t.minute, t.second, some 0⟩ := by
  obtain ⟨hday, hyears, hhour, hminute, hsecond⟩ := numbers_lt h
  have hempty : ∀ {w}, Text.IsSolid w → w.isEmpty = false :=
    fun hw => List.isEmpty_eq_false_iff.2 hw.ne_nil
  have hmonth : dayAndMonth? (padded 2 t.day).toList (monthWord t) =
      some ((padded 2 t.day).toList, t.month) := by
    rw [dayAndMonth?, monthNumber?_monthWord h.month]
  have hdrop : ∀ {width n}, 0 < width → n < Nat.pow 10 width →
      dropComma (padded width n).toList = (padded width n).toList := by
    intro width n hwidth hn
    have happend := dropComma_append_padded [] hwidth hn
    rwa [List.nil_append] at happend
  -- The year holds no colon, so it is not taken for the time; and it begins with a digit, so it is
  -- not taken for the zone.
  have htake : (padded 4 t.year).toList.takeWhile (· != ':') = (padded 4 t.year).toList := by
    rw [List.takeWhile_eq_self_iff]
    intro c hc
    rw [bne_iff_ne]
    rintro rfl
    exact not_mem_padded (by decide) hc
  have hhead : (((padded 4 t.year).toList.head?.map Text.isDigitLike).getD false) = true := by
    cases hlist : (padded 4 t.year).toList with
    | nil => exact absurd hlist (isSolid_padded (by decide) hyears).ne_nil
    | cons c r =>
      have hc : c ∈ (padded 4 t.year).toList := hlist ▸ List.mem_cons_self
      exact Number.isDigitLike_of_isDigit (isDigit_of_mem_padded hc)
  have hzone : zoneOffset? "GMT".toList = some 0 := by decide +kernel
  have hfull : fullYear t.year = t.year := by
    rw [fullYear, if_neg (by omega)]
  generalize "GMT".toList = zone at hzone ⊢
  rw [readParts?]
  simp only [hempty (isSolid_padded (by decide) hday), hempty (isSolid_monthWord h.month),
    hempty (isSolid_padded (by decide) hyears), hmonth, hdrop (by decide) hday,
    hdrop (by decide) hyears, htake, hhead, splitTime_clockWord h,
    int?_padded (by decide) hday (by decide), int?_padded (by decide) hyears (by decide),
    int?_padded (by decide) hhour (by decide), int?_padded (by decide) hminute (by decide),
    int?_padded (by decide) hsecond (by decide), hzone, hfull, Bool.or_self, Bool.false_eq_true,
    Nat.lt_irrefl, decide_false, Bool.false_and, if_true, if_false, Option.bind_eq_bind,
    Option.bind_some]
  rfl

/-- **The numbers of a date that is written are read.** -/
theorem readFields?_write (hyear : 100 ≤ t.year) :
    readFields? (write t).toList =
      some ⟨t.year, t.month, t.day, t.hour, t.minute, t.second, some 0⟩ := by
  obtain ⟨hday, hyears, -⟩ := numbers_lt h
  have hsolid : ∀ w ∈ dateWords t, Text.IsSolid w := by
    simp only [dateWords, List.forall_mem_cons, List.not_mem_nil, false_imp_iff, implies_true,
      and_true]
    exact ⟨isSolid_weekdayWord t, isSolid_padded (by decide) hday, isSolid_monthWord h.month,
      isSolid_padded (by decide) hyears, isSolid_clockWord h, by decide⟩
  have hweekday : dropWeekday (dateWords t) = (dateWords t).tail := by
    have hcomma : (weekdayWord t).getLast? = some ',' := by
      rw [weekdayWord, List.getLast?_concat]
    rw [dateWords, dropWeekday, hcomma]
    rfl
  rw [readFields?, toList_write, Text.words_intercalate hsolid]
  have hparts := readParts?_dateWords h hyear
  simp only [dateWords] at hweekday ⊢
  simp only [Option.bind_eq_bind, Option.bind_some, hweekday]
  exact hparts

/-- **A time that is written in a header is read as its second.** -/
theorem read_write (hutc : t.offset = some 0) (hyear : 100 ≤ t.year) :
    read (write t) = .ok (some t.wholeSecond) := by
  have hmake : make t.year t.month t.day t.hour t.minute t.second 0 (some 0) =
      .ok t.wholeSecond := by
    rw [← hutc]
    exact make_of_isSound (isSound_wholeSecond h)
  have hoffset : checkOffset 0 = .ok 0 := rfl
  rw [read, readFields?_write h hyear]
  simp only [hoffset, bind, Except.bind, pure, Except.pure, hmake]

end CloudClient.MailDate
