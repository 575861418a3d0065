import CloudClient.Calendar.IsoDate
import CloudClient.Proofs.Calendar.CompactText
import CloudClient.Proofs.Calendar.Instant
import CloudClient.Proofs.Text.Utf8

/-!
# ISO 8601 dates that are read back

A listing writes the time of an object in UTC, down to the millisecond; a signature writes the time
of signing down to the second. Both write a date with hyphens and a time of day with colons. Main
statements: what a listing writes of a time is read as that time, and what a signature writes of it
is read as its second.
-/

namespace CloudClient

/-- A text without blanks is trimmed. -/
theorem Text.trim_of_no_blank {s : List Char} (h : ∀ c ∈ s, isBlank c = false) : trim s = s := by
  have hdrop : ∀ l : List Char, (∀ c ∈ l, isBlank c = false) → l.dropWhile isBlank = l := by
    intro l hl
    cases l with
    | nil => rfl
    | cons c l => exact List.dropWhile_cons_of_neg (by simp [hl c List.mem_cons_self])
  rw [trim, dropEndWhile, hdrop s h, hdrop s.reverse (fun c hc => h c (List.mem_reverse.1 hc)),
    List.reverse_reverse]

namespace DateTime

/-- A time in UTC without a fraction of a millisecond. -/
structure IsMilli (t : DateTime) : Prop extends t.IsSound where
  isUtc : t.offset = some 0
  isWhole : t.microsecond % 1000 = 0

/-- The extended text of a UTC time, down to the millisecond. -/
def milliText (t : DateTime) : String :=
  padded 4 t.year ++ "-" ++ padded 2 t.month ++ "-" ++ padded 2 t.day ++ "T" ++ padded 2 t.hour
    ++ ":" ++ padded 2 t.minute ++ ":" ++ padded 2 t.second ++ "."
    ++ padded 3 (t.microsecond / 1000) ++ "Z"

end DateTime

namespace IsoDate

open DateTime

/-! ## Digits -/

/-- Characters are so many digits that write a number. -/
structure Writes (ds : List Char) (width n : Nat) : Prop where
  length_eq : ds.length = width
  isDigit : ∀ c ∈ ds, Text.isAsciiDigit c = true
  digits? : ∀ r, digits? width 0 (ds ++ r) = some (n, r)

/-- A digit of the standard notation is a digit of ASCII. -/
theorem isAsciiDigit_of_isDigit {c : Char} (h : c.isDigit = true) : Text.isAsciiDigit c = true := by
  have hc := Char.isDigit_iff_toNat.1 h
  simpa [Text.isAsciiDigit] using hc

/-- Digits are read as the number that they write after the digits before them. -/
theorem digits?_append {ds : List Char} (hds : ∀ c ∈ ds, Text.isAsciiDigit c = true) (acc : Nat)
    (r : List Char) :
    digits? ds.length acc (ds ++ r) = some (Nat.ofDigitChars 10 ds acc, r) := by
  induction ds generalizing acc with
  | nil => rfl
  | cons c ds ih =>
    have hdigit : digit? c = some (c.toNat - 0x30) := if_pos (hds c List.mem_cons_self)
    rw [List.length_cons, List.cons_append, digits?, hdigit, Nat.ofDigitChars_cons]
    exact ih (fun d hd => hds d (List.mem_cons_of_mem c hd)) _

/-- A number that is filled up with zeros is written in its width. -/
theorem writes_padded {width n : Nat} (hwidth : 0 < width) (h : n < Nat.pow 10 width) :
    Writes (padded width n).toList width n := by
  have hdigit : ∀ c ∈ (padded width n).toList, Text.isAsciiDigit c = true := fun c hc =>
    isAsciiDigit_of_isDigit (isDigit_of_mem_padded hc)
  refine ⟨length_padded hwidth h, hdigit, fun r => ?_⟩
  have hread := digits?_append hdigit 0 r
  rwa [length_padded hwidth h, ofDigitChars_padded] at hread

/-- Two digits. -/
theorem Writes.exists_two {ds : List Char} {n : Nat} (h : Writes ds 2 n) :
    ∃ a b, ds = [a, b] ∧ Text.isAsciiDigit a = true ∧ Text.isAsciiDigit b = true := by
  match ds, h with
  | [a, b], h => exact ⟨a, b, rfl, h.isDigit a (by simp), h.isDigit b (by simp)⟩

/-- A digit is none of the signs of a date. -/
theorem ne_of_isAsciiDigit {c d : Char} (hc : Text.isAsciiDigit c = true)
    (hd : Text.isAsciiDigit d = false) : c ≠ d := by
  rintro rfl
  rw [hc] at hd
  cases hd

/-- The digits of a date. -/
structure WritesDate (ys ms ds : List Char) (y m d : Nat) : Prop where
  year : Writes ys 4 y
  month : Writes ms 2 m
  day : Writes ds 2 d

/-- The digits of a time of day, down to the millisecond. -/
structure WritesClock (hs mis ss fs : List Char) (h mi s f : Nat) : Prop where
  hour : Writes hs 2 h
  minute : Writes mis 2 mi
  second : Writes ss 2 s
  fraction : Writes fs 3 f

/-- The text of a date with hyphens. -/
def dateText (ys ms ds : List Char) : List Char := ys ++ '-' :: (ms ++ '-' :: ds)

/-- The text of a time of day with a fraction. -/
def clockText (hs mis ss fs : List Char) : List Char :=
  hs ++ ':' :: (mis ++ ':' :: (ss ++ '.' :: fs))

/-- The text of a time of day down to the second. -/
def secondText (hs mis ss : List Char) : List Char := hs ++ ':' :: (mis ++ ':' :: ss)

/-- The characters of a time of day. -/
def isClockChar (c : Char) : Bool := Text.isAsciiDigit c || c == ':' || c == '.'

/-- A text that is read as the time of day that a clock shows, in front of a distance from UTC. -/
structure IsClockText (ct : List Char) (clock : Clock) : Prop where
  chars : ∀ c ∈ ct, isClockChar c = true
  reads : ∀ r, readClock? 2 [] false ct ('+' :: r) = some clock

/-! ## The date -/

variable {y m d h mi s f : Nat} {ys ms ds hs mis ss fs : List Char}

/-- A date with hyphens is read. -/
theorem readDate?_dateText (hdate : WritesDate ys ms ds y m d) :
    readDate? (dateText ys ms ds) = some ((y : Int), (m : Int), (d : Int)) := by
  obtain ⟨hy, hm, hd⟩ := hdate
  have hday : digits? 2 0 ds = some (d, []) := by simpa using hd.digits? []
  have hmonth := hm.digits? ('-' :: ds)
  obtain ⟨a, b, rfl, ha, -⟩ := hm.exists_two
  have hweek : a ≠ 'W' := ne_of_isAsciiDigit ha rfl
  rw [readDate?, dateText, hy.digits?]
  simp only [Option.bind_eq_bind, Option.bind_some, List.head?_cons, BEq.rfl, if_true,
    List.drop_succ_cons, List.drop_zero, List.cons_append, List.nil_append]
  split
  · rename_i heq
    exact absurd (List.cons.inj heq).1 hweek
  · simp only [List.cons_append, List.nil_append] at hmonth
    simp only [hmonth, Option.bind_some, hyphen?, if_true, hday]

/-- A date takes ten places. -/
theorem length_dateText (hdate : WritesDate ys ms ds y m d) : (dateText ys ms ds).length = 10 := by
  simp only [dateText, List.length_append, List.length_cons, hdate.year.length_eq,
    hdate.month.length_eq, hdate.day.length_eq]

/-- A date with hyphens is seen to take ten places. -/
theorem dateWidth_dateText (hdate : WritesDate ys ms ds y m d) (r : List Char) :
    dateWidth (dateText ys ms ds ++ r) = 10 := by
  have hlong : (dateText ys ms ds ++ r).length ≠ 7 := by
    rw [List.length_append, length_dateText hdate]
    omega
  obtain ⟨a, b, rfl, ha, -⟩ := hdate.month.exists_two
  have hweek : a ≠ 'W' := ne_of_isAsciiDigit ha rfl
  match ys, hdate.year.length_eq with
  | [i, j, k, l], _ =>
    have hhyphen : (dateText [i, j, k, l] [a, b] ds ++ r)[4]? = some '-' := rfl
    have hmonth : (dateText [i, j, k, l] [a, b] ds ++ r)[5]? = some a := rfl
    rw [dateWidth, if_neg hlong]
    simp only [hhyphen, hmonth, Option.some.injEq, hweek, if_true, if_false]

/-! ## The time of day -/

/-- A field of a clock is read up to the colon behind it. -/
theorem readClock?_colon {fields : List Nat} {colons : Bool} (hfields : fields = [] ∨ colons = true)
    (hh : Writes hs 2 h) {t : List Char} (ht : t ≠ []) (rest : List Char) (fuel : Nat) :
    readClock? (fuel + 1) fields colons (hs ++ ':' :: t) rest =
      readClock? fuel (h :: fields) true t rest := by
  have hread := hh.digits? (':' :: t ++ rest)
  obtain ⟨a, b, rfl, -⟩ := hh.exists_two
  -- The first colon decides that there are colons; after it they are known.
  have hcolons : (if (h :: fields).length = 1 then ':' == ':' else colons) = true := by
    rcases hfields with rfl | rfl
    · rfl
    · split <;> rfl
  have hlong : ¬(':' :: t).length ≤ 1 := by simpa using ht
  rw [readClock?, List.append_assoc, hread]
  simp only [Option.bind_eq_bind, Option.bind_some, List.cons_append, List.nil_append,
    List.drop_succ_cons, List.drop_zero, List.head?_cons, Option.getD_some, hcolons, hlong]
  rfl

/-- The last field of a clock is read with the fraction behind it. -/
theorem readClock?_fraction (hse : Writes ss 2 s) (hf : Writes fs 3 f) (r : List Char)
    (fuel : Nat) :
    readClock? fuel [mi, h] true (ss ++ '.' :: fs) ('+' :: r) =
      some ⟨h, mi, s, f * 1000, true⟩ := by
  have hfraction : readFraction? fs ('+' :: r) = some (f * 1000, true) := by
    have hwidth : min fs.length 6 = 3 := by
      rw [hf.length_eq]
      rfl
    rw [readFraction?, hwidth, hf.digits?]
    rfl
  have hread := hse.digits? ('.' :: fs ++ '+' :: r)
  have hlong : ¬('.' :: fs).length ≤ 1 := by
    rw [List.length_cons, hf.length_eq]
    decide
  obtain ⟨a, b, rfl, -⟩ := hse.exists_two
  rw [readClock?, List.append_assoc, hread]
  simp only [Option.bind_eq_bind, Option.bind_some, List.cons_append, List.nil_append,
    List.drop_succ_cons, List.drop_zero, List.head?_cons, Option.getD_some, hlong]
  simp [hfraction]

/-- The last field of a clock without a fraction is read up to the distance from UTC. -/
theorem readClock?_second (hse : Writes ss 2 s) (r : List Char) (fuel : Nat) :
    readClock? fuel [mi, h] true ss ('+' :: r) = some ⟨h, mi, s, 0, true⟩ := by
  have hread := hse.digits? ('+' :: r)
  obtain ⟨a, b, rfl, -⟩ := hse.exists_two
  rw [readClock?, hread]
  rfl

/-- A digit is a character of a time of day. -/
theorem Writes.isClockChar {ds : List Char} {width n : Nat} (hds : Writes ds width n) :
    ∀ c ∈ ds, isClockChar c = true := by
  intro c hc
  rw [IsoDate.isClockChar, hds.isDigit c hc]
  rfl

/-- A clock with a fraction of three digits is read. -/
theorem isClockText_clockText (hclock : WritesClock hs mis ss fs h mi s f) :
    IsClockText (clockText hs mis ss fs) ⟨h, mi, s, f * 1000, true⟩ where
  chars := by
    simp only [clockText, List.forall_mem_append, List.forall_mem_cons]
    exact ⟨hclock.hour.isClockChar, rfl, hclock.minute.isClockChar, rfl, hclock.second.isClockChar,
      rfl, hclock.fraction.isClockChar⟩
  reads := by
    intro r
    rw [clockText, readClock?_colon (.inl rfl) hclock.hour (by simp),
      readClock?_colon (.inr rfl) hclock.minute (by simp),
      readClock?_fraction hclock.second hclock.fraction]

/-- A clock without a fraction is read. -/
theorem isClockText_secondText (hh : Writes hs 2 h) (hmi : Writes mis 2 mi) (hse : Writes ss 2 s) :
    IsClockText (secondText hs mis ss) ⟨h, mi, s, 0, true⟩ where
  chars := by
    simp only [secondText, List.forall_mem_append, List.forall_mem_cons]
    exact ⟨hh.isClockChar, rfl, hmi.isClockChar, rfl, hse.isClockChar⟩
  reads := by
    intro r
    have hne : ss ≠ [] := by
      rintro rfl
      cases hse.length_eq
    rw [secondText, readClock?_colon (.inl rfl) hh (by simp), readClock?_colon (.inr rfl) hmi hne,
      readClock?_second hse]

variable {ct : List Char} {clock : Clock}

/-- A clock holds no sign of a distance from UTC. -/
theorem cutZone_append (hct : ∀ c ∈ ct, isClockChar c = true) (r : List Char) :
    cutZone (ct ++ '+' :: r) = (ct, some ('+', r)) := by
  have hmark : ∀ c ∈ ct, (!(c == '+' || c == '-' || c == 'Z')) = true := by
    intro c hc
    have hclock := hct c hc
    rw [isClockChar, Bool.or_eq_true, Bool.or_eq_true, beq_iff_eq, beq_iff_eq] at hclock
    rcases hclock with (hdigit | rfl) | rfl
    · simp [ne_of_isAsciiDigit hdigit (d := '+') rfl, ne_of_isAsciiDigit hdigit (d := '-') rfl,
        ne_of_isAsciiDigit hdigit (d := 'Z') rfl]
    · rfl
    · rfl
  simp only [cutZone, List.dropWhile_append_of_pos hmark, List.takeWhile_append_of_pos hmark]
  rw [List.dropWhile_cons_of_neg (by decide), List.takeWhile_cons_of_neg (by decide),
    List.append_nil]

/-- A time of day without a distance from UTC is read. -/
theorem readTime?_isClockText (hclock : IsClockText ct clock) :
    readTime? (ct ++ "+00:00".toList) = some (clock, some 0) := by
  have hzone : readClock? 2 [] false "00:00".toList [] = some ⟨0, 0, 0, 0, false⟩ := rfl
  show readTime? (ct ++ '+' :: "00:00".toList) = _
  rw [readTime?, cutZone_append hclock.chars]
  simp only [hclock.reads, hzone, Option.bind_eq_bind, Option.bind_some]
  rfl

/-! ## Both together -/

/-- A written date and time is read. -/
theorem readStrict?_writes (hdate : WritesDate ys ms ds y m d) (hclock : IsClockText ct clock)
    (hascii : ∀ c ∈ dateText ys ms ds ++ 'T' :: (ct ++ "+00:00".toList), c.toNat < 0x80) :
    readStrict? (dateText ys ms ds ++ 'T' :: (ct ++ "+00:00".toList)) =
      (DateTime.make y m d clock.hour clock.minute clock.second clock.microsecond
        (some 0)).toOption := by
  have hlength := length_dateText hdate
  have hlong : ∀ r, ¬(dateText ys ms ds ++ r).length < 7 := by
    intro r
    rw [List.length_append, hlength]
    omega
  have hseparator : separatorWidth 'T' - 1 = 0 := rfl
  rw [readStrict?, byteChars, Utf8.map_encode_of_lt hascii]
  simp only [hlong, dateWidth_dateText hdate, List.take_left' hlength, List.drop_left' hlength,
    readDate?_dateText hdate, Option.bind_eq_bind, Option.bind_some, if_false, hseparator,
    List.drop_zero, readTime?_isClockText hclock]

/-! ## Written times -/

/-- The characters of a written time, the mark of UTC apart. -/
def isTimeChar (c : Char) : Bool :=
  Text.isAsciiDigit c || c == '-' || c == ':' || c == '.' || c == 'T'

/-- What holds of these characters among ASCII holds of all of them. -/
theorem of_isTimeChar {p : Char → Bool}
    (hp : ∀ n < 0x80, isTimeChar (Char.ofNat n) = true → p (Char.ofNat n) = true) {c : Char}
    (h : isTimeChar c = true) : p c = true := by
  have hlt : c.toNat < 0x80 := by
    simp only [isTimeChar, Text.isAsciiDigit, Bool.or_eq_true, Bool.and_eq_true, decide_eq_true_eq,
      beq_iff_eq] at h
    rcases h with (((h | rfl) | rfl) | rfl) | rfl
    · omega
    all_goals decide
  have hc := hp c.toNat hlt
  rw [Char.ofNat_toNat] at hc
  exact hc h

/-- The mark of UTC is written as a distance from it. -/
theorem openZulu_append {a : List Char} (h : 'Z' ∉ a) :
    openZulu (a ++ ['Z']) = a ++ "+00:00".toList := by
  induction a with
  | nil => rfl
  | cons c a ih =>
    have hc : c ≠ 'Z' := fun e => h (e ▸ List.mem_cons_self)
    have hrest := ih fun hmem => h (List.mem_cons_of_mem c hmem)
    rw [openZulu] at hrest ⊢
    rw [List.cons_append, List.flatMap_cons, if_neg hc, hrest]
    rfl

/-- A written time begins with its date and ends with the mark of UTC. -/
theorem toList_milliText (t : DateTime) :
    t.milliText.toList =
      dateText (padded 4 t.year).toList (padded 2 t.month).toList (padded 2 t.day).toList ++
        'T' :: clockText (padded 2 t.hour).toList (padded 2 t.minute).toList
          (padded 2 t.second).toList (padded 3 (t.microsecond / 1000)).toList ++ ['Z'] := by
  simp [milliText, dateText, clockText]

/-- No other characters stand in front of the mark. -/
theorem isTimeChar_of_mem
    (hdigit : ∀ l ∈ [ys, ms, ds, hs, mis, ss, fs], ∀ c ∈ l, Text.isAsciiDigit c = true) {c : Char}
    (hc : c ∈ dateText ys ms ds ++ 'T' :: clockText hs mis ss fs) : isTimeChar c = true := by
  have hone : ∀ l ∈ [ys, ms, ds, hs, mis, ss, fs], c ∈ l → isTimeChar c = true := by
    intro l hl hmem
    rw [isTimeChar, hdigit l hl c hmem]
    rfl
  simp only [dateText, clockText, List.mem_append, List.mem_cons] at hc
  rcases hc with (hc | rfl | hc | rfl | hc) | rfl | hc | rfl | hc | rfl | hc | rfl | hc
  · exact hone ys (by simp) hc
  · rfl
  · exact hone ms (by simp) hc
  · rfl
  · exact hone ds (by simp) hc
  · rfl
  · exact hone hs (by simp) hc
  · rfl
  · exact hone mis (by simp) hc
  · rfl
  · exact hone ss (by simp) hc
  · rfl
  · exact hone fs (by simp) hc

/-- A written time has no other characters. -/
theorem isTimeChar_of_mem_milliText {t : DateTime} {c : Char} (h : c ∈ t.milliText.toList) :
    isTimeChar c = true ∨ c = 'Z' := by
  rw [toList_milliText, List.mem_append, List.mem_singleton] at h
  refine h.imp (fun hc => ?_) id
  refine isTimeChar_of_mem (fun l hl d hd => isAsciiDigit_of_isDigit ?_) hc
  obtain ⟨width, n, hwritten⟩ : ∃ width n, l = (padded width n).toList := by
    simp only [List.mem_cons, List.not_mem_nil, or_false] at hl
    rcases hl with h | h | h | h | h | h | h
    all_goals exact ⟨_, _, h⟩
  rw [hwritten] at hd
  exact isDigit_of_mem_padded hd

/-- A text that is made so is read as the time of its numbers. -/
theorem read?_writes {text : String} (htext : text.toList = dateText ys ms ds ++ 'T' :: ct ++ ['Z'])
    (hdate : WritesDate ys ms ds y m d) (hclock : IsClockText ct clock) :
    read? text =
      (DateTime.make y m d clock.hour clock.minute clock.second clock.microsecond
        (some 0)).toOption := by
  have hdigit : ∀ {l width n}, Writes l width n → ∀ c ∈ l, isTimeChar c = true := by
    intro l width n hl c hc
    rw [isTimeChar, hl.isDigit c hc]
    rfl
  have hclockChar : ∀ c ∈ ct, isTimeChar c = true := by
    intro c hc
    have hchar := hclock.chars c hc
    rw [isClockChar, Bool.or_eq_true, Bool.or_eq_true] at hchar
    rcases hchar with (hchar | hchar) | hchar
    all_goals simp [isTimeChar, hchar]
  have hchar : ∀ c ∈ dateText ys ms ds ++ 'T' :: ct, isTimeChar c = true := by
    simp only [dateText, List.forall_mem_append, List.forall_mem_cons]
    exact ⟨⟨hdigit hdate.year, rfl, hdigit hdate.month, rfl, hdigit hdate.day⟩, rfl, hclockChar⟩
  have hempty : text.isEmpty = false := by
    rw [Bool.eq_false_iff]
    intro h
    rw [String.isEmpty_iff.1 h] at htext
    simp at htext
  have htrim : Text.trim text.toList = text.toList := by
    refine Text.trim_of_no_blank fun c hc => ?_
    rw [htext] at hc
    rcases List.mem_append.1 hc with hc | hc
    · have hdark := of_isTimeChar (p := fun c => !Text.isBlank c) (by decide) (hchar c hc)
      rwa [Bool.not_eq_true'] at hdark
    · rw [List.mem_singleton.1 hc]
      decide
  have hmark : 'Z' ∉ dateText ys ms ds ++ 'T' :: ct := by
    intro hmem
    cases hchar 'Z' hmem
  -- Places are counted in bytes, so what is read must be in ASCII.
  have hascii : ∀ c ∈ dateText ys ms ds ++ 'T' :: (ct ++ "+00:00".toList), c.toNat < 0x80 := by
    intro c hc
    rw [← List.cons_append, ← List.append_assoc] at hc
    rcases List.mem_append.1 hc with hc | hc
    · exact of_decide_eq_true
        (of_isTimeChar (p := fun c => decide (c.toNat < 0x80)) (by decide) (hchar c hc))
    · have hall : ("+00:00".toList.all fun c => decide (c.toNat < 0x80)) = true := by decide
      exact of_decide_eq_true (List.all_eq_true.1 hall c hc)
  rw [read?, hempty, htrim, htext, openZulu_append hmark, List.append_assoc, List.cons_append]
  exact readStrict?_writes hdate hclock hascii

section

variable {t : DateTime} (ht : t.IsSound)

include ht

/-- The digits of a date. -/
theorem writesDate_padded :
    WritesDate (padded 4 t.year).toList (padded 2 t.month).toList (padded 2 t.day).toList
      t.year t.month t.day := by
  have hmonth := daysInMonth_le t.year t.month
  obtain ⟨hyear, hmonths, hdays, -⟩ := ht
  exact ⟨writes_padded (by decide) (show t.year < 10000 by omega),
    writes_padded (by decide) (show t.month < 100 by omega),
    writes_padded (by decide) (show t.day < 100 by omega)⟩

/-- The digits of a time of day. -/
theorem writesClock_padded :
    WritesClock (padded 2 t.hour).toList (padded 2 t.minute).toList (padded 2 t.second).toList
      (padded 3 (t.microsecond / 1000)).toList t.hour t.minute t.second (t.microsecond / 1000) := by
  obtain ⟨-, -, -, hhour, hminute, hsecond, hmicrosecond⟩ := ht
  exact ⟨writes_padded (by decide) (show t.hour < 100 by omega),
    writes_padded (by decide) (show t.minute < 100 by omega),
    writes_padded (by decide) (show t.second < 100 by omega),
    writes_padded (by decide) (show t.microsecond / 1000 < 1000 by omega)⟩

end

/-- **A written time is read as that time.** -/
theorem read?_milliText {t : DateTime} (h : t.IsMilli) : read? t.milliText = some t := by
  obtain ⟨hsound, hutc, hwhole⟩ := h
  have hmake := make_of_isSound hsound
  have hmicros : t.microsecond / 1000 * 1000 = t.microsecond := by omega
  rw [read?_writes (toList_milliText t) (writesDate_padded hsound)
    (isClockText_clockText (writesClock_padded hsound)), hmicros, ← hutc, hmake]
  rfl

/-! ## Times down to the second -/

/-- A number of four digits is written without zeros in front of it. -/
theorem padded_four {n : Nat} (h : 1000 ≤ n) : padded 4 n = toString n := by
  have hlong : ¬(Nat.repr n).toList.length ≤ 3 := by
    rw [Nat.toList_repr, Nat.length_toDigits_le_iff (by decide) (by decide)]
    exact Nat.not_lt.2 h
  have hnone : 4 - (Nat.repr n).toList.length = 0 := by omega
  rw [padded, hnone, List.replicate_zero, List.nil_append, String.ofList_toList]
  rfl

/-- **A time that is written down to the second is read as its second**, when its year has four
digits. -/
theorem read?_zuluText {t : DateTime} (h : t.IsSound) (hutc : t.offset = some 0)
    (hyear : 1000 ≤ t.year) : read? t.zuluText = some t.wholeSecond := by
  obtain ⟨hhour, hminute, hsecond, -⟩ := writesClock_padded h
  have htext : t.zuluText.toList =
      dateText (padded 4 t.year).toList (padded 2 t.month).toList (padded 2 t.day).toList ++
        'T' :: secondText (padded 2 t.hour).toList (padded 2 t.minute).toList
          (padded 2 t.second).toList ++ ['Z'] := by
    simp [zuluText, dateText, secondText, padded_four hyear]
  have hmake := make_of_isSound (isSound_wholeSecond h)
  rw [read?_writes htext (writesDate_padded h) (isClockText_secondText hhour hminute hsecond),
    ← hutc]
  exact congrArg Except.toOption hmake

end IsoDate

end CloudClient
