import CloudClient.Text.CharClass

/-!
# Blanks

A blank is a white-space character of any script, the four information separators included.
Texts are trimmed of blanks at both ends, split into words at blanks, and folded, which turns
each run of blanks into one space.
-/

namespace CloudClient.Text

/-- The white-space characters. -/
def blankRanges : Ranges :=
  [(0x9, 0xD), (0x1C, 0x20), (0x85, 0x85), (0xA0, 0xA0), (0x1680, 0x1680), (0x2000, 0x200A),
   (0x2028, 0x2029), (0x202F, 0x202F), (0x205F, 0x205F), (0x3000, 0x3000)]

/-- A white-space character of any script. -/
def isBlank (c : Char) : Bool :=
  blankRanges.holds c

/-! ## Trimming -/

/-- Drops the longest run of characters of a class from the end. -/
def dropEndWhile (p : Char → Bool) (s : List Char) : List Char :=
  (s.reverse.dropWhile p).reverse

/-- Drops the blanks at both ends. -/
def trim (s : List Char) : List Char :=
  dropEndWhile isBlank (s.dropWhile isBlank)

/-! ## Folding -/

/-- Folds the rest of a text; `inRun` says that a blank of the current run is already written. -/
def foldFrom (inRun : Bool) : List Char → List Char
  | [] => []
  | c :: r =>
    if isBlank c then
      if inRun then foldFrom true r else ' ' :: foldFrom true r
    else c :: foldFrom false r

/-- Turns each run of blanks into one space. -/
def fold (s : List Char) : List Char :=
  foldFrom false s

/-- A header value as it is signed: trimmed, with each inner run of blanks as one space. -/
def folded (s : String) : String :=
  String.ofList (fold (trim s.toList))

/-- A space is a blank. -/
theorem isBlank_space : isBlank ' ' = true := by decide

/-! ## Words -/

/-- Splits the rest of a text into words; `word` holds the current word, last character first. -/
def wordsFrom (word : List Char) : List Char → List (List Char)
  | [] => if word.isEmpty then [] else [word.reverse]
  | c :: r =>
    if isBlank c then
      if word.isEmpty then wordsFrom [] r else word.reverse :: wordsFrom [] r
    else wordsFrom (c :: word) r

/-- The maximal runs of characters that are not blank, in order. -/
def words (s : List Char) : List (List Char) :=
  wordsFrom [] s

end CloudClient.Text
