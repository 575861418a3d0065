import CloudClient.Xml.Nesting

/-!
# Written fields

The services write their documents as fields: an element holds a text, stands empty, or holds other
fields. In a text the characters of the markup are written as references. Main statement: what is
written is read as the elements that it was made of, whatever follows it.
-/

namespace CloudClient.Xml

/-! ## Fields -/

/-- A field of a document. -/
inductive Field where
  /-- An element with a text. -/
  | text (name : String) (s : String)
  /-- An empty element, written as a single tag. -/
  | mark (name : String)
  /-- An element with fields. -/
  | group (name : String) (fields : List Field)
  deriving Repr, Inhabited

/-- How a character stands in a text. -/
def escapeChar (c : Char) : List Char :=
  if c = '&' then "&amp;".toList
  else if c = '<' then "&lt;".toList
  else if c = '>' then "&gt;".toList
  else [c]

/-- How a text is written. -/
def escape (s : List Char) : List Char := s.flatMap escapeChar

/-- A start tag without attributes. -/
def startTag (name : String) : List Char := '<' :: (name.toList ++ ['>'])

/-- An end tag. -/
def endTag (name : String) : List Char := '<' :: '/' :: (name.toList ++ ['>'])

/-- The content of an element that holds a text. -/
def textContent (s : String) : List Node := if s.isEmpty then [] else [.text s]

namespace Field

/-- The name of the element. -/
def name : Field → String
  | text name _ => name
  | mark name => name
  | group name _ => name

mutual

/-- How a field is written. -/
def write : Field → List Char
  | text name s => startTag name ++ escape s.toList ++ endTag name
  | mark name => '<' :: (name.toList ++ ['/', '>'])
  | group name fields => startTag name ++ writeAll fields ++ endTag name

/-- How fields are written, one after the other. -/
def writeAll : List Field → List Char
  | [] => []
  | f :: rest => write f ++ writeAll rest

end

/-- Fields are written part by part. -/
theorem writeAll_append (l r : List Field) : writeAll (l ++ r) = writeAll l ++ writeAll r := by
  induction l with
  | nil => rfl
  | cons f l ih => rw [List.cons_append, writeAll, writeAll, ih, List.append_assoc]

mutual

/-- The element of a field. -/
def node : Field → Node
  | text name s => .element name [] (textContent s)
  | mark name => .element name [] []
  | group name fields => .element name [] (nodes fields)

/-- The elements of fields. -/
def nodes : List Field → List Node
  | [] => []
  | f :: rest => node f :: nodes rest

end

end Field

/-! ## Plain names -/

/-- A letter or a digit of ASCII. -/
def isPlainChar (c : Char) : Bool := isLatinLetter c || isDecimal c

/-- A name of letters and digits of ASCII. -/
def isPlainName : List Char → Bool
  | [] => false
  | c :: r => isLatinLetter c && r.all isPlainChar

/-- Letters and digits of ASCII are in ASCII. -/
theorem lt_of_isPlainChar {c : Char} (h : isPlainChar c = true) : c.toNat < 0x80 := by
  have hle : ∀ {d : Char}, c ≤ d → c.toNat ≤ d.toNat := fun hcd => UInt32.le_iff_toNat_le.1 hcd
  simp only [isPlainChar, isLatinLetter, isDecimal, Bool.or_eq_true, Bool.and_eq_true,
    decide_eq_true_eq] at h
  rcases h with (⟨-, h⟩ | ⟨-, h⟩) | ⟨-, h⟩
  all_goals
    have hc := hle h
    simp only [Char.reduceToNat] at hc
    omega

/-- What holds of the letters and digits among the characters of ASCII holds of all of them. -/
theorem of_isPlainChar {p : Char → Bool}
    (hp : ∀ n < 0x80, isPlainChar (Char.ofNat n) = true → p (Char.ofNat n) = true) {c : Char}
    (h : isPlainChar c = true) : p c = true := by
  have hc := hp c.toNat (lt_of_isPlainChar h)
  rw [Char.ofNat_toNat] at hc
  exact hc h

variable {letters : Letters} {name r : List Char}

/-- Names can hold the letters and digits of ASCII. -/
theorem isNameChar_of_isPlainChar {c : Char} (h : isPlainChar c = true) :
    isNameChar letters c = true := by
  cases letters
  all_goals exact of_isPlainChar (by decide) h

/-- A plain name is a letter and then letters and digits. -/
theorem exists_of_isPlainName (h : isPlainName name = true) :
    ∃ c rest, name = c :: rest ∧ isLatinLetter c = true ∧ ∀ d ∈ rest, isPlainChar d = true := by
  cases name with
  | nil => cases h
  | cons c rest =>
    rw [isPlainName, Bool.and_eq_true, List.all_eq_true] at h
    exact ⟨c, rest, rfl, h⟩

/-- A plain name holds nothing but letters and digits. -/
theorem isPlainChar_of_mem (h : isPlainName name = true) {c : Char} (hc : c ∈ name) :
    isPlainChar c = true := by
  obtain ⟨d, rest, rfl, hd, hrest⟩ := exists_of_isPlainName h
  rcases List.mem_cons.1 hc with rfl | hc
  · rw [isPlainChar, hd, Bool.true_or]
  · exact hrest c hc

/-- A character that is no letter and no digit stands in no plain name. -/
theorem not_mem_of_isPlainName (h : isPlainName name = true) {c : Char}
    (hc : isPlainChar c = false) : c ∉ name := by
  intro hmem
  rw [isPlainChar_of_mem h hmem] at hc
  cases hc

/-- A plain name is read up to a character that names cannot hold. -/
theorem readName?_plain (h : isPlainName name = true) {d : Char}
    (hd : isNameChar letters d = false) :
    readName? letters (name ++ d :: r) = some (name, d :: r) := by
  obtain ⟨c, rest, rfl, hc, hrest⟩ := exists_of_isPlainName h
  have hstart : isNameStart letters c = true := by
    have hlt : c.toNat < 0x80 := lt_of_isPlainChar (by rw [isPlainChar, hc, Bool.true_or])
    rw [isNameStart, if_pos hlt, hc, Bool.true_or]
  have hall : ∀ e ∈ rest, isNameChar letters e = true := fun e he =>
    isNameChar_of_isPlainChar (hrest e he)
  rw [List.cons_append, readName?, if_pos hstart, List.takeWhile_append_of_pos hall,
    List.dropWhile_append_of_pos hall, List.takeWhile_cons_of_neg (by simp [hd]),
    List.dropWhile_cons_of_neg (by simp [hd]), List.append_nil]

/-- A plain name is a qualified name without a colon. -/
theorem readQualified?_plain (h : isPlainName name = true) {d : Char}
    (hd : isNameChar letters d = false) (hcolon : d ≠ ':') :
    readQualified? letters (name ++ d :: r) = some (name, d :: r) := by
  rw [readQualified?, readName?_plain h hd]
  simp only [Option.bind_eq_bind, Option.bind_some]
  split
  · rename_i heq
    exact absurd (List.cons.inj heq).1 hcolon
  · rfl

/-! ## Content that is read -/

/-- The nodes that content makes after what is read already, within elements that are open. -/
def readContent? (m : Meaning) (letters : Letters) (s : List Char) (p : Partial)
    (opened : List Open) : Option (List Node) :=
  (tokens? letters s).bind fun ts => nest m ts p opened

variable {m : Meaning} {p : Partial} {o : Open} {opened : List Open}

/-- Content is read token by token. -/
theorem readContent?_of_read {s : List Char} {t : Token} (h : readToken? letters s = some (t, r)) :
    readContent? m letters s p opened =
      (tokens? letters r).bind fun ts => nest m (t :: ts) p opened := by
  rw [readContent?, tokens?_of_read h, Option.bind_map]
  rfl

/-- A plain character is read as itself, where no end of a section of character data begins. -/
theorem readToken?_char {c : Char} (hlt : c ≠ '<') (hamp : c ≠ '&')
    (hend : ∀ t, r ≠ ']' :: '>' :: t) : readToken? letters (c :: r) = some (.char c, r) := by
  unfold readToken?
  split
  · rename_i heq
    exact absurd (List.cons.inj heq).1 hlt
  · rename_i heq
    exact absurd (List.cons.inj heq).1 hamp
  · rename_i heq
    exact absurd (List.cons.inj heq).2 (hend _)
  · rename_i heq
    cases heq
    rfl
  · rename_i heq
    cases heq

/-- A reference is read up to its semicolon. -/
theorem readReference?_plain (hname : isPlainName name = true) :
    readReference? letters (name ++ ';' :: r) = some (.entity name, r) := by
  have hsemicolon : isNameChar letters ';' = false := by cases letters <;> rfl
  have hnumber : ∀ t, name ++ ';' :: r ≠ '#' :: t := by
    obtain ⟨d, rest, rfl, hd, -⟩ := exists_of_isPlainName hname
    intro t heq
    rw [List.cons_append] at heq
    rw [(List.cons.inj heq).1] at hd
    cases hd
  unfold readReference?
  split
  · rename_i heq
    exact absurd heq (hnumber _)
  · rename_i heq
    exact absurd heq (hnumber _)
  · rw [readName?_plain hname hsemicolon]
    rfl

/-- A reference to a standard entity is read as its character. -/
theorem readToken?_reference (hname : isPlainName name = true) {c : Char}
    (hc : standard? name = some c) :
    readToken? letters ('&' :: (name ++ ';' :: r)) = some (.data [c], r) := by
  simp only [readToken?, readReference?_plain hname, Option.map_some, ofReference, hc]

/-- The characters of the markup stand in no written text. -/
theorem not_mem_escape (s : List Char) : '<' ∉ escape s ∧ '>' ∉ escape s := by
  have hone : ∀ c, '<' ∉ escapeChar c ∧ '>' ∉ escapeChar c := by
    intro c
    unfold escapeChar
    split
    · decide
    split
    case isTrue => decide
    case isFalse hlt =>
      split
      case isTrue => decide
      case isFalse hgt =>
        rw [List.mem_singleton, List.mem_singleton]
        exact ⟨Ne.symm hlt, Ne.symm hgt⟩
  refine ⟨?_, ?_⟩
  · intro h
    obtain ⟨c, -, hc⟩ := List.mem_flatMap.1 h
    exact (hone c).1 hc
  · intro h
    obtain ⟨c, -, hc⟩ := List.mem_flatMap.1 h
    exact (hone c).2 hc

/-- No end of a section of character data begins in a written text. -/
theorem escape_append_ne (s t : List Char) : escape s ++ '<' :: r ≠ ']' :: '>' :: t := by
  have hgt := (not_mem_escape s).2
  cases hs : escape s with
  | nil => simp
  | cons c e =>
    rw [hs] at hgt
    cases e with
    | nil => simp
    | cons d e =>
      intro heq
      simp only [List.cons_append, List.cons.injEq] at heq
      rw [heq.2.1] at hgt
      simp at hgt

/-- A written text is read as the characters that it was made of. -/
theorem readContent?_escape (s : List Char) (p : Partial) :
    readContent? m letters (escape s ++ '<' :: r) p (o :: opened) =
      readContent? m letters ('<' :: r) (p.addChars s) (o :: opened) := by
  induction s generalizing p with
  | nil => rfl
  | cons c s ih =>
    have hadd : (p.addChars [c]).addChars s = p.addChars (c :: s) := by
      simp [Partial.addChars]
    -- A character of the markup stands as a reference, which is read as one token.
    have hreference : ∀ name : List Char, isPlainName name = true → standard? name = some c →
        escapeChar c = '&' :: (name ++ [';']) →
        readContent? m letters (escape (c :: s) ++ '<' :: r) p (o :: opened) =
          readContent? m letters ('<' :: r) (p.addChars (c :: s)) (o :: opened) := by
      intro name hname hc hescape
      have htext : escape (c :: s) ++ '<' :: r =
          '&' :: (name ++ ';' :: (escape s ++ '<' :: r)) := by
        rw [escape, List.flatMap_cons, hescape]
        simp [escape]
      rw [htext, readContent?_of_read (readToken?_reference hname hc), ← hadd, ← ih]
      rfl
    by_cases hamp : c = '&'
    · exact hreference "amp".toList rfl (by rw [hamp]; rfl) (by rw [hamp]; rfl)
    by_cases hlt : c = '<'
    · exact hreference "lt".toList rfl (by rw [hlt]; rfl) (by rw [hlt]; rfl)
    by_cases hgt : c = '>'
    · exact hreference "gt".toList rfl (by rw [hgt]; rfl) (by rw [hgt]; rfl)
    have hescape : escape (c :: s) = c :: escape s := by
      rw [escape, List.flatMap_cons, escapeChar, if_neg hamp, if_neg hlt, if_neg hgt]
      rfl
    rw [hescape, List.cons_append,
      readContent?_of_read (readToken?_char hlt hamp (escape_append_ne s)), ← hadd, ← ih]
    rfl

/-! ## Tags -/

/-- A name after an angle bracket begins a tag. -/
theorem readToken?_tag (hname : isPlainName name = true) {d : Char}
    (hd : isNameChar letters d = false) (hcolon : d ≠ ':') :
    readToken? letters ('<' :: (name ++ d :: r)) =
      (readAttributes? letters (d :: r)).map fun (attributes, isEmpty, r) =>
        (.start name attributes isEmpty, r) := by
  have htag : readMarkup? letters (name ++ d :: r) = readTag? letters (name ++ d :: r) := by
    have hletter : ∀ c t, isLatinLetter c = false → name ++ d :: r ≠ c :: t := by
      obtain ⟨e, rest, rfl, he, -⟩ := exists_of_isPlainName hname
      intro c t hc heq
      rw [List.cons_append] at heq
      rw [(List.cons.inj heq).1, hc] at he
      cases he
    unfold readMarkup?
    split
    · rename_i heq
      exact absurd heq (hletter _ _ rfl)
    · rename_i heq
      exact absurd heq (hletter _ _ rfl)
    · rename_i heq
      exact absurd heq (hletter _ _ rfl)
    · rename_i heq
      exact absurd heq (hletter _ _ rfl)
    · rfl
  show readMarkup? letters (name ++ d :: r) = _
  rw [htag, readTag?, readQualified?_plain hname hd hcolon]

/-- A closing bracket ends a tag. -/
theorem readAttributes?_close : readAttributes? letters ('>' :: r) = some ([], false, r) := by
  rw [readAttributes?]
  rfl

/-- A slash and a closing bracket end the tag of an empty element. -/
theorem readAttributes?_closeEmpty :
    readAttributes? letters ('/' :: '>' :: r) = some ([], true, r) := by
  rw [readAttributes?]
  rfl

/-- A closing bracket stands in no name. -/
theorem isNameChar_close : isNameChar letters '>' = false := by cases letters <;> rfl

/-- A slash stands in no name. -/
theorem isNameChar_slash : isNameChar letters '/' = false := by cases letters <;> rfl

variable {tag : String}

/-- A start tag opens an element. -/
theorem readContent?_startTag (hname : isPlainName tag.toList = true)
    (hm : m.attributes? tag.toList [] = some []) (p : Partial) (opened : List Open) :
    readContent? m letters (startTag tag ++ r) p opened =
      readContent? m letters r {} (⟨tag.toList, [], p⟩ :: opened) := by
  have hread : readToken? letters (startTag tag ++ r) = some (.start tag.toList [] false, r) := by
    rw [startTag, List.cons_append, List.append_assoc, List.singleton_append,
      readToken?_tag hname isNameChar_close (by decide), readAttributes?_close]
    rfl
  rw [readContent?_of_read hread, readContent?]
  simp only [nest, hm]
  rfl

/-- The tag of an empty element adds the element. -/
theorem readContent?_mark (hname : isPlainName tag.toList = true)
    (hm : m.attributes? tag.toList [] = some []) (p : Partial) (opened : List Open) :
    readContent? m letters ((Field.mark tag).write ++ r) p opened =
      readContent? m letters r (p.addNodes [(Field.mark tag).node]) opened := by
  have hread : readToken? letters ((Field.mark tag).write ++ r) =
      some (.start tag.toList [] true, r) := by
    rw [Field.write, List.cons_append, List.append_assoc, List.cons_append, List.singleton_append,
      readToken?_tag hname isNameChar_slash (by decide), readAttributes?_closeEmpty]
    rfl
  rw [readContent?_of_read hread, readContent?]
  simp only [nest, hm, Field.node, String.ofList_toList]
  rfl

/-- An end tag closes the element that was opened last. -/
theorem readContent?_endTag (hname : isPlainName tag.toList = true)
    (attributes : List (String × String)) (before p : Partial) (opened : List Open) :
    readContent? m letters (endTag tag ++ r) p (⟨tag.toList, attributes, before⟩ :: opened) =
      readContent? m letters r
        (before.addNodes [.element tag attributes p.nodesInOrder]) opened := by
  have hread : readToken? letters (endTag tag ++ r) = some (.finish tag.toList, r) := by
    rw [endTag, List.cons_append, List.cons_append, List.append_assoc, List.singleton_append]
    show readEndTag? letters (tag.toList ++ '>' :: r) = _
    rw [readEndTag?, readQualified?_plain hname isNameChar_close (by decide)]
    rfl
  rw [readContent?_of_read hread, readContent?]
  simp only [nest, if_true, String.ofList_toList]

/-! ## Fields -/

namespace Field

mutual

/-- The names of a field and of the fields inside it are plain, and their texts are such as `P`
says. -/
def Fits (P : String → Prop) : Field → Prop
  | text name s => isPlainName name.toList = true ∧ P s
  | mark name => isPlainName name.toList = true
  | group name fields => isPlainName name.toList = true ∧ AllFit P fields

/-- All fields have plain names and texts such as `P` says. -/
def AllFit (P : String → Prop) : List Field → Prop
  | [] => True
  | f :: rest => Fits P f ∧ AllFit P rest

end

/-- Fields fit when each of them does. -/
theorem allFit_iff {P : String → Prop} {fields : List Field} :
    AllFit P fields ↔ ∀ f ∈ fields, f.Fits P := by
  induction fields with
  | nil => simp [AllFit]
  | cons f rest ih => simp [AllFit, ih]

/-- Two lists of fields fit together when each of them does. -/
theorem allFit_append {P : String → Prop} {l r : List Field} :
    AllFit P (l ++ r) ↔ AllFit P l ∧ AllFit P r := by
  simp only [allFit_iff, List.forall_mem_append]

end Field

variable {P : String → Prop}

/-- The content of an element that holds a text is the text. -/
theorem nodesInOrder_addChars (s : String) :
    (({} : Partial).addChars s.toList).nodesInOrder = textContent s := by
  by_cases hs : s = ""
  · rw [hs]
    rfl
  · have hempty : s.isEmpty = false := by
      rw [Bool.eq_false_iff]
      intro h
      exact hs (String.isEmpty_iff.1 h)
    have hchars : s.toList.isEmpty = false := by
      rw [List.isEmpty_eq_false_iff]
      intro h
      exact hs (String.toList_eq_nil_iff.1 h)
    simp [Partial.nodesInOrder, Partial.flush, Partial.addChars, textContent, hempty, hchars]

mutual

/-- **A written field is read as its element**, whatever follows it. -/
theorem readContent?_write (hm : ∀ name, m.attributes? name [] = some []) :
    ∀ (f : Field), f.Fits P → ∀ (r : List Char) (ns : List Node) (opened : List Open),
      readContent? m letters (f.write ++ r) ⟨ns, []⟩ opened =
        readContent? m letters r ⟨f.node :: ns, []⟩ opened
  | .text name s, hf, r, ns, opened => by
    rw [Field.Fits] at hf
    have hend : escape s.toList ++ (endTag name ++ r) =
        escape s.toList ++ '<' :: ('/' :: (name.toList ++ ['>']) ++ r) := rfl
    rw [Field.write, List.append_assoc, List.append_assoc, readContent?_startTag hf.1 (hm _), hend,
      readContent?_escape]
    show readContent? m letters (endTag name ++ r) _ _ = _
    rw [readContent?_endTag hf.1, nodesInOrder_addChars]
    rfl
  | .mark name, hf, r, ns, opened => by
    rw [Field.Fits] at hf
    rw [readContent?_mark hf (hm _)]
    rfl
  | .group name fields, hf, r, ns, opened => by
    rw [Field.Fits] at hf
    rw [Field.write, List.append_assoc, List.append_assoc, readContent?_startTag hf.1 (hm _),
      readContent?_writeAll hm fields hf.2, readContent?_endTag hf.1, List.append_nil]
    simp only [Partial.nodesInOrder, Partial.flush, List.isEmpty_nil, if_true, List.reverse_reverse,
      Partial.addNodes, List.reverse_singleton, List.singleton_append, Field.node]

/-- Written fields are read as their elements. -/
theorem readContent?_writeAll (hm : ∀ name, m.attributes? name [] = some []) :
    ∀ (fields : List Field), Field.AllFit P fields →
      ∀ (r : List Char) (ns : List Node) (opened : List Open),
      readContent? m letters (Field.writeAll fields ++ r) ⟨ns, []⟩ opened =
        readContent? m letters r ⟨(Field.nodes fields).reverse ++ ns, []⟩ opened
  | [], _, r, ns, opened => rfl
  | f :: rest, hf, r, ns, opened => by
    rw [Field.AllFit] at hf
    rw [Field.writeAll, List.append_assoc, readContent?_write hm f hf.1,
      readContent?_writeAll hm rest hf.2, Field.nodes, List.reverse_cons, List.append_assoc,
      List.singleton_append]

end

end CloudClient.Xml
