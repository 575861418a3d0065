import CloudClient.Xml.Reference

/-!
# Tokens of content

Content is a sequence of tags, characters, references and parts that are skipped. A token is read
from the front of the content and leaves the rest of it, which is always shorter. Main statement:
the tokens of content are its first token and the tokens of the rest.
-/

namespace CloudClient.Xml

variable {letters : Letters}

/-- A piece of content. -/
inductive Token where
  /-- A character that stands for itself. -/
  | char (c : Char)
  /-- Characters that a reference or a section of character data stands for. -/
  | data (s : List Char)
  /-- A reference to a declared entity. -/
  | entity (name : List Char)
  /-- A start tag, or the tag of an empty element; the values of attributes are as written. -/
  | start (name : List Char) (attributes : List (List Char × List Char)) (isEmpty : Bool)
  /-- An end tag. -/
  | finish (name : List Char)
  /-- A comment or a processing instruction. -/
  | silent
  deriving DecidableEq, Repr, Inhabited

/-! ## Parts that are skipped -/

/-- The text after a comment; two hyphens end it and must be followed by an angle bracket. -/
def skipComment? : List Char → Option (List Char)
  | '-' :: '-' :: r =>
    match r with
    | '>' :: r => some r
    | _ => none
  | _ :: r => skipComment? r
  | [] => none

/-- The end of a comment takes at least one character. -/
theorem length_skipComment?_lt {s r : List Char} (h : skipComment? s = some r) :
    r.length < s.length := by
  induction s using skipComment?.induct generalizing r with
  | case1 r' =>
    cases h
    simp only [List.length_cons]
    omega
  | case2 r' hne =>
    rw [skipComment?] at h
    · cases h
    · exact hne
  | case3 c s hne ih =>
    rw [skipComment?] at h
    · exact Nat.lt_succ_of_lt (ih h)
    · exact hne
  | case4 => cases h

/-- The characters of a section of character data and the text after it. -/
def cutSection? : List Char → Option (List Char × List Char)
  | ']' :: ']' :: '>' :: r => some ([], r)
  | c :: r => (cutSection? r).map fun (a, b) => (c :: a, b)
  | [] => none

/-- The end of a section takes at least one character. -/
theorem length_cutSection?_lt {s data r : List Char} (h : cutSection? s = some (data, r)) :
    r.length < s.length := by
  induction s using cutSection?.induct generalizing data r with
  | case1 r' =>
    cases h
    simp only [List.length_cons]
    omega
  | case2 c s hne ih =>
    rw [cutSection?] at h
    · obtain ⟨⟨a, b⟩, hab, he⟩ := Option.map_eq_some_iff.1 h
      cases he
      exact Nat.lt_succ_of_lt (ih hab)
    · exact hne
  | case3 => cases h

/-- The text after the target of a processing instruction. -/
def skipAfterTarget? (s : List Char) : Option (List Char) :=
  match s with
  | '?' :: '>' :: r => some r
  | _ => if startsWithSpace s then (cutInstruction? s).map (·.2) else none

/-- What follows a target takes at least one character. -/
theorem length_skipAfterTarget?_lt {s r : List Char} (h : skipAfterTarget? s = some r) :
    r.length < s.length := by
  unfold skipAfterTarget? at h
  split at h
  · cases h
    simp only [List.length_cons]
    omega
  · split at h
    · obtain ⟨⟨text, rc⟩, hc, he⟩ := Option.map_eq_some_iff.1 h
      cases he
      exact length_cutInstruction?_lt hc
    · cases h

/-- The text after a processing instruction. Its target is a name other than that of the
declaration. -/
def skipInstruction? (letters : Letters) (s : List Char) : Option (List Char) :=
  match readName? letters s with
  | none => none
  | some (target, r) => if capitals target = "XML" then none else skipAfterTarget? r

/-- A processing instruction takes at least one character. -/
theorem length_skipInstruction?_lt {s r : List Char} (h : skipInstruction? letters s = some r) :
    r.length < s.length := by
  unfold skipInstruction? at h
  split at h
  · cases h
  · rename_i hn
    split at h
    · cases h
    · exact Nat.lt_trans (length_skipAfterTarget?_lt h) (length_readName?_lt hn)

/-! ## Tags -/

/-- The text before a closing quote and the text after the quote. -/
def cutQuote? (q : Char) (s : List Char) : Option (List Char × List Char) :=
  match s.dropWhile (· != q) with
  | _ :: r => some (s.takeWhile (· != q), r)
  | [] => none

/-- A closing quote takes one character. -/
theorem length_cutQuote?_lt {q : Char} {s text r : List Char}
    (h : cutQuote? q s = some (text, r)) : r.length < s.length := by
  have hle := (List.dropWhile_suffix (· != q) (l := s)).length_le
  unfold cutQuote? at h
  split at h
  · rename_i heq
    rw [heq] at hle
    cases h
    exact hle
  · cases h

/-- Reads an equals sign and a quoted value, with blanks before and between them. -/
def readValue? (s : List Char) : Option (List Char × List Char) :=
  match skipSpace s with
  | '=' :: r =>
    match skipSpace r with
    | q :: r => if q == '"' || q == '\x27' then cutQuote? q r else none
    | [] => none
  | _ => none

/-- The value of an attribute takes at least one character. -/
theorem length_readValue?_lt {s value r : List Char} (h : readValue? s = some (value, r)) :
    r.length < s.length := by
  have hs := length_skipSpace_le s
  unfold readValue? at h
  split at h
  · rename_i rest heq
    rw [heq, List.length_cons] at hs
    have hr := length_skipSpace_le rest
    split at h
    · rename_i heq
      rw [heq, List.length_cons] at hr
      split at h
      · have hq := length_cutQuote?_lt h
        omega
      · cases h
    · cases h
  · cases h

/-- Reads one attribute: blanks, a name, an equals sign and a quoted value. -/
def readAttribute? (letters : Letters) (s : List Char) :
    Option ((List Char × List Char) × List Char) :=
  if startsWithSpace s then
    match readQualified? letters (skipSpace s) with
    | none => none
    | some (name, r) => (readValue? r).map fun (value, r) => ((name, value), r)
  else none

/-- An attribute takes at least one character. -/
theorem length_readAttribute?_lt {s r : List Char} {a : List Char × List Char}
    (h : readAttribute? letters s = some (a, r)) : r.length < s.length := by
  unfold readAttribute? at h
  split at h
  · split at h
    · cases h
    · rename_i hn
      obtain ⟨⟨value, rv⟩, hv, he⟩ := Option.map_eq_some_iff.1 h
      cases he
      have hlt := length_readQualified?_lt hn
      have hle := length_skipSpace_le s
      have := length_readValue?_lt hv
      omega
  · cases h

/-- Reads the attributes of a tag and its end, which says whether the element is empty. -/
def readAttributes? (letters : Letters) (s : List Char) :
    Option (List (List Char × List Char) × Bool × List Char) :=
  match skipSpace s with
  | '>' :: r => some ([], false, r)
  | '/' :: '>' :: r => some ([], true, r)
  | _ =>
    match h : readAttribute? letters s with
    | none => none
    | some (a, r) =>
      have _hlt := length_readAttribute?_lt h
      (readAttributes? letters r).map fun (more, isEmpty, r) => (a :: more, isEmpty, r)
termination_by s.length

/-- The end of a tag takes at least one character. -/
theorem length_readAttributes?_lt {s r : List Char} {as : List (List Char × List Char)}
    {isEmpty : Bool} (h : readAttributes? letters s = some (as, isEmpty, r)) :
    r.length < s.length := by
  induction hn : s.length using Nat.strongRecOn generalizing s as isEmpty r with
  | ind n ih =>
    subst hn
    have hs := length_skipSpace_le s
    rw [readAttributes?] at h
    split at h
    · rename_i heq
      rw [heq, List.length_cons] at hs
      cases h
      omega
    · rename_i heq
      rw [heq, List.length_cons, List.length_cons] at hs
      cases h
      omega
    · split at h
      · cases h
      · rename_i ha
        have hlt := length_readAttribute?_lt ha
        obtain ⟨⟨more, e, rm⟩, hm, he⟩ := Option.map_eq_some_iff.1 h
        cases he
        exact Nat.lt_trans (ih _ hlt hm rfl) hlt

/-- Reads a tag after its angle bracket. -/
def readTag? (letters : Letters) (s : List Char) : Option (Token × List Char) :=
  match readQualified? letters s with
  | none => none
  | some (name, r) =>
    (readAttributes? letters r).map fun (attributes, isEmpty, r) =>
      (.start name attributes isEmpty, r)

/-- A tag takes at least one character. -/
theorem length_readTag?_lt {s r : List Char} {t : Token} (h : readTag? letters s = some (t, r)) :
    r.length < s.length := by
  unfold readTag? at h
  split at h
  · cases h
  · rename_i hn
    obtain ⟨⟨as, e, ra⟩, ha, he⟩ := Option.map_eq_some_iff.1 h
    cases he
    exact Nat.lt_trans (length_readAttributes?_lt ha) (length_readQualified?_lt hn)

/-- Reads an end tag after its slash. -/
def readEndTag? (letters : Letters) (s : List Char) : Option (Token × List Char) :=
  match readQualified? letters s with
  | none => none
  | some (name, r) =>
    match skipSpace r with
    | '>' :: r => some (.finish name, r)
    | _ => none

/-- An end tag takes at least one character. -/
theorem length_readEndTag?_lt {s r : List Char} {t : Token}
    (h : readEndTag? letters s = some (t, r)) : r.length < s.length := by
  unfold readEndTag? at h
  split at h
  · cases h
  · rename_i name rn hn
    have hlt := length_readQualified?_lt hn
    have hle := length_skipSpace_le rn
    split at h
    · rename_i heq
      rw [heq, List.length_cons] at hle
      cases h
      omega
    · cases h

/-! ## Content -/

/-- Reads what begins with an angle bracket. -/
def readMarkup? (letters : Letters) (s : List Char) : Option (Token × List Char) :=
  match s with
  | '/' :: r => readEndTag? letters r
  | '!' :: '-' :: '-' :: r => (skipComment? r).map fun r => (.silent, r)
  | '!' :: '[' :: 'C' :: 'D' :: 'A' :: 'T' :: 'A' :: '[' :: r =>
    (cutSection? r).map fun (cs, r) => (.data cs, r)
  | '?' :: r => (skipInstruction? letters r).map fun r => (.silent, r)
  | _ => readTag? letters s

/-- Markup takes at least one character. -/
theorem length_readMarkup?_lt {s r : List Char} {t : Token}
    (h : readMarkup? letters s = some (t, r)) : r.length < s.length := by
  unfold readMarkup? at h
  split at h
  · exact Nat.lt_succ_of_lt (length_readEndTag?_lt h)
  · obtain ⟨rc, hc, he⟩ := Option.map_eq_some_iff.1 h
    cases he
    have hlt := length_skipComment?_lt hc
    simp only [List.length_cons]
    omega
  · obtain ⟨⟨cs, rc⟩, hc, he⟩ := Option.map_eq_some_iff.1 h
    cases he
    have hlt := length_cutSection?_lt hc
    simp only [List.length_cons]
    omega
  · obtain ⟨rc, hc, he⟩ := Option.map_eq_some_iff.1 h
    cases he
    exact Nat.lt_succ_of_lt (length_skipInstruction?_lt hc)
  · exact length_readTag?_lt h

/-- The token of a reference. -/
def ofReference : Reference → Token
  | .char c => .data [c]
  | .entity name =>
    match standard? name with
    | some c => .data [c]
    | none => .entity name

/-- Reads the token at the front of some content. The end of a section of character data may not
stand among plain characters. -/
def readToken? (letters : Letters) (s : List Char) : Option (Token × List Char) :=
  match s with
  | '<' :: r => readMarkup? letters r
  | '&' :: r => (readReference? letters r).map fun (reference, r) => (ofReference reference, r)
  | ']' :: ']' :: '>' :: _ => none
  | c :: r => some (.char c, r)
  | [] => none

/-- A token takes at least one character. -/
theorem length_readToken?_lt {s r : List Char} {t : Token}
    (h : readToken? letters s = some (t, r)) : r.length < s.length := by
  unfold readToken? at h
  split at h
  · exact Nat.lt_succ_of_lt (length_readMarkup?_lt h)
  · obtain ⟨⟨reference, rr⟩, hr, he⟩ := Option.map_eq_some_iff.1 h
    cases he
    exact Nat.lt_succ_of_lt (length_readReference?_lt hr)
  · cases h
  · cases h
    exact Nat.lt_succ_self _
  · cases h

/-- All tokens of some content. -/
def tokens? (letters : Letters) (s : List Char) : Option (List Token) :=
  if s.isEmpty then some []
  else
    match h : readToken? letters s with
    | none => none
    | some (t, r) =>
      have _hlt := length_readToken?_lt h
      (tokens? letters r).map (t :: ·)
termination_by s.length

/-- No content has no tokens. -/
@[simp] theorem tokens?_nil : tokens? letters [] = some [] := by
  rw [tokens?]; rfl

/-- The tokens of content are its first token and the tokens of the rest. -/
theorem tokens?_of_read {s r : List Char} {t : Token} (h : readToken? letters s = some (t, r)) :
    tokens? letters s = (tokens? letters r).map (t :: ·) := by
  have hs : s ≠ [] := by rintro rfl; simp [readToken?] at h
  rw [tokens?, if_neg (by simpa using hs)]
  split
  · rename_i h'
    rw [h] at h'
    cases h'
  · rename_i h'
    rw [h] at h'
    cases h'
    rfl

end CloudClient.Xml
