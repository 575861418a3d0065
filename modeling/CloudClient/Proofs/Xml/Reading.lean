import CloudClient.Proofs.Text.Utf8
import CloudClient.Proofs.Xml.Names
import CloudClient.Proofs.Xml.Written

/-!
# Reading written documents

The bytes of a written document tell that they are UTF-8, with and without a declaration; its
characters are read with unified line ends; and its element is read and loses its namespace. Main
statement: reading a written document gives its element.
-/

namespace CloudClient.Xml

/-! ## Documents as bytes -/

/-- What a heading declares. -/
def Heading.declaration : Heading → Declaration
  | bare => {}
  | version => {}
  | encoding => { encoding := some "UTF-8".toList }

/-- A heading in front of an element is read as what it declares. -/
theorem readDeclaration?_heading (h : Heading) {c : Char} (hc : isLatinLetter c = true)
    (r : List Char) :
    readDeclaration? (h.write ++ '<' :: c :: r) = some (h.declaration, '<' :: c :: r) := by
  cases h with
  | bare =>
    show readDeclaration? ('<' :: c :: r) = _
    unfold readDeclaration?
    split
    · rename_i heq
      rw [(List.cons.inj (List.cons.inj heq).2).1] at hc
      cases hc
    · rfl
  | version => rfl
  | encoding => rfl

/-- Headings are in ASCII. -/
theorem lt_of_mem_heading {h : Heading} {c : Char} (hc : c ∈ h.write) : c.toNat < 0x80 := by
  have hall : (h.write.all fun e => decide (e.toNat < 0x80)) = true := by
    cases h <;> decide
  exact of_decide_eq_true (List.all_eq_true.1 hall c hc)

/-- A text of ASCII is seen at the head of a document. -/
theorem glance_append {a : List Char} (ha : ∀ c ∈ a, c.toNat < 0x80) (t : List Char) :
    glance .utf8 (Utf8.encode (a ++ t)) = a ++ glance .utf8 (Utf8.encode t) := by
  show (Utf8.encode (a ++ t)).map _ = a ++ (Utf8.encode t).map _
  rw [Utf8.encode_append, List.map_append, Utf8.map_encode_of_lt ha]

/-- A text that begins with a bracket and a character of ASCII is taken for UTF-8. -/
theorem sniff_encode {c : Char} (hc : c.toNat < 0x80) (hne : c.toNat ≠ 0) (r : List Char) :
    sniff (Utf8.encode ('<' :: c :: r)) = (.utf8, Utf8.encode ('<' :: c :: r)) := by
  have hbytes : Utf8.encode ('<' :: c :: r) = 0x3C :: UInt8.ofNat c.toNat :: Utf8.encode r := by
    rw [Utf8.encode_cons, Utf8.encode_cons, Utf8.encodeChar_of_lt hc]
    rfl
  have hbyte : UInt8.ofNat c.toNat ≠ 0 := by
    intro h
    have hnat := congrArg UInt8.toNat h
    rw [Utf8.toNat_byte (by omega)] at hnat
    exact hne hnat
  rw [hbytes]
  unfold sniff
  split
  · rename_i heq
    cases heq
  · rename_i heq
    cases heq
  · rename_i heq
    cases heq
  · rename_i heq
    cases heq
  · rename_i heq
    exact absurd (List.cons.inj (List.cons.inj heq).2).1 hbyte
  · rfl

namespace Written

variable {d : Written}

/-- The document as it is read: with the line ends of its texts unified. -/
def unified (d : Written) : Written := { d with fields := Field.allUnified d.fields }

/-- A document whose names are plain, whose texts XML allows, and whose default namespace can be
bound. -/
structure IsSound (d : Written) : Prop where
  isPlainName : isPlainName d.name.toList = true
  allFit : Field.AllFit IsXmlText d.fields
  isSpace : ∀ s ∈ d.space, IsSpace s

/-- The element begins with the letter of a tag. -/
theorem exists_element_eq (h : Xml.isPlainName d.name.toList = true) :
    ∃ c r, isLatinLetter c = true ∧ d.element = '<' :: c :: r := by
  obtain ⟨c, rest, hname, hc, -⟩ := exists_of_isPlainName h
  unfold element rootTag startTag
  rw [hname]
  cases d.space with
  | none => exact ⟨c, _, hc, rfl⟩
  | some s => exact ⟨c, _, hc, rfl⟩

/-- XML allows the characters of the element. -/
theorem all_element (h : d.IsSound) : d.element.all isXmlChar = true := by
  have hroot : d.rootTag.all isXmlChar = true := by
    unfold rootTag
    cases hd : d.space with
    | none => exact all_startTag h.isPlainName
    | some s =>
      have hs : (escapeValue s.toList).all isXmlChar = true := by
        rw [List.all_eq_true]
        intro c hc
        obtain ⟨e, he, hce⟩ := List.mem_flatMap.1 hc
        unfold escapeValueChar at hce
        split at hce
        · exact List.all_eq_true.1 (show "&quot;".toList.all isXmlChar = true by decide) c hce
        · have hall := (all_escapeChar e).trans ((h.isSpace s hd).isXmlText.isXmlChar_of_mem he)
          exact List.all_eq_true.1 hall c hce
      have hbinding : binding.all isXmlChar = true := by decide
      simp only [List.all_cons, List.all_append, all_of_isPlainName h.isPlainName, hs, hbinding]
      rfl
  rw [element, List.all_append, List.all_append, hroot, all_writeAll h.allFit,
    all_endTag h.isPlainName]
  rfl

/-- The line ends of the element are those of its texts. -/
theorem unifyLines_element (h : d.IsSound) : unifyLines d.element = d.unified.element := by
  have hroot : '\r' ∉ d.rootTag := by
    have hname := not_mem_of_isPlainName h.isPlainName (c := '\r') rfl
    unfold rootTag
    cases hd : d.space with
    | none => exact not_mem_startTag h.isPlainName
    | some s =>
      have hs : '\r' ∉ escapeValue s.toList := by
        intro hmem
        obtain ⟨c, hc, hr⟩ := List.mem_flatMap.1 hmem
        have hdark := (h.isSpace s hd).isDark.isSpace_of_mem hc
        unfold escapeValueChar at hr
        split at hr
        · revert hr
          decide
        · refine not_mem_escapeChar ?_ hr
          rintro rfl
          cases hdark
      simp [binding, hname, hs]
  have hend : unifyLines (endTag d.name) = endTag d.name :=
    unifyLines_of_no_return (not_mem_endTag h.isPlainName)
  rw [element, List.append_assoc, unifyLines_append_of_no_return hroot,
    unifyLines_writeAll h.allFit, hend, ← List.append_assoc]
  rfl

/-- The line ends of the document are those of its texts. -/
theorem unifyLines_text (h : d.IsSound) :
    unifyLines (d.heading.write ++ d.element) = d.heading.write ++ d.unified.element := by
  have hheading : '\r' ∉ d.heading.write := by
    cases d.heading <;> decide
  rw [unifyLines_append_of_no_return hheading, unifyLines_element h]

/-- **A written document is read as characters**: the text of its element with all line ends
unified. -/
theorem readSource?_bytes (h : d.IsSound) :
    readSource? d.bytes = some ⟨d.heading.declaration, .listed, d.unified.element⟩ := by
  obtain ⟨c, r, hc, helement⟩ := exists_element_eq h.isPlainName
  obtain ⟨c', r', hc', hunified⟩ := exists_element_eq (d := d.unified) h.isPlainName
  have hplain : isPlainChar c = true := by rw [isPlainChar, hc, Bool.true_or]
  have hascii : c.toNat < 0x80 := lt_of_isPlainChar hplain
  have hne : c.toNat ≠ 0 :=
    bne_iff_ne.1 (of_isPlainChar (p := fun e => e.toNat != 0) (by decide) hplain)
  have hsniff : sniff d.bytes = (.utf8, d.bytes) := by
    rw [bytes, helement]
    cases d.heading with
    | bare => exact sniff_encode hascii hne r
    | version => exact sniff_encode (c := '?') (by decide) (by decide) _
    | encoding => exact sniff_encode (c := '?') (by decide) (by decide) _
  -- The declaration is read twice: among the bytes for the encoding, and then among the characters.
  have hglance : readDeclaration? (glance .utf8 d.bytes) =
      some (d.heading.declaration, '<' :: c :: glance .utf8 (Utf8.encode r)) := by
    have htext : d.heading.write ++ '<' :: c :: r = (d.heading.write ++ ['<', c]) ++ r := by simp
    rw [bytes, helement, htext, glance_append, List.append_assoc]
    · exact readDeclaration?_heading d.heading hc _
    · intro e he
      rcases List.mem_append.1 he with he | he
      · exact lt_of_mem_heading he
      · simp only [List.mem_cons, List.not_mem_nil, or_false] at he
        rcases he with rfl | rfl
        · decide
        · exact hascii
  have hchars : (d.heading.write ++ d.element).all isXmlChar = true := by
    rw [List.all_append, all_element h, Bool.and_true]
    cases d.heading <;> decide
  have hdeclared : readDeclaration? (d.heading.write ++ d.unified.element) =
      some (d.heading.declaration, d.unified.element) := by
    rw [hunified]
    exact readDeclaration?_heading d.heading hc' r'
  have hsettle : settle? .utf8 d.heading.declaration.encoding = some .utf8 := by
    cases d.heading <;> rfl
  have hdecode : decodeAs? .utf8 d.bytes = some (d.heading.write ++ d.element) :=
    Utf8.decode?_encode _
  simp only [readSource?, hsniff, hglance, Option.bind_eq_bind, Option.bind_some, hsettle, hdecode,
    hchars, unifyLines_text h, hdeclared]
  rfl

/-! ## Documents as elements -/

/-- Without entities no document is too large. -/
theorem isTooLarge_of_no_entities (standsAlone : Bool) (letters : Letters) (s : List Char) :
    Doctype.isTooLarge { standsAlone } letters s = false := by
  have hsize : Doctype.sizeBy letters [] s = s.length := by
    have hfold : ∀ (names : List (List Char)) (n : Nat),
        names.foldl (fun size name => size + (([] : List (List Char × Nat)).lookup name).getD 0) n =
          n := by
      intro names
      induction names with
      | nil => exact fun _ => rfl
      | cons name names ih => exact fun n => ih n
    exact hfold _ _
  have hsizes : Doctype.sizes { standsAlone } (Doctype.depthBound { standsAlone }) = [] := rfl
  rw [Doctype.isTooLarge, hsizes, hsize, Bool.and_eq_false_iff]
  right
  rw [decide_eq_false_iff_not]
  omega

/-- The prolog ends in front of an element. -/
theorem readProlog?_element {letters : Letters} (h : Xml.isPlainName d.name.toList = true)
    (fuel : Nat) (hasType : Bool) (t : Doctype) :
    readProlog? letters (fuel + 1) hasType t d.element = some (t, d.element) := by
  obtain ⟨c, r, hc, helement⟩ := exists_element_eq h
  have hspace : skipSpace ('<' :: c :: r) = '<' :: c :: r := rfl
  rw [helement, readProlog?, hspace]
  split
  · rename_i heq
    rw [(List.cons.inj (List.cons.inj heq).2).1] at hc
    cases hc
  · rename_i heq
    rw [(List.cons.inj (List.cons.inj heq).2).1] at hc
    cases hc
  · rename_i heq
    rw [(List.cons.inj (List.cons.inj heq).2).1] at hc
    cases hc
  · rename_i heq
    cases heq
    rfl
  · rename_i hno
    exact absurd rfl (hno _)

/-- The element of a written document is read with its attributes. -/
theorem element?_bytes (h : d.IsSound) :
    element? d.bytes =
      some (.element d.unified.name d.unified.attributes (Field.nodes d.unified.fields)) := by
  have hfit : Field.AllFit (fun _ => True) d.unified.fields := Field.AllFit.unified h.allFit
  have hname : Xml.isPlainName d.unified.name.toList = true := h.isPlainName
  have hcontent : readContent? _ .listed d.unified.element {} [] = _ :=
    readContent?_element hname hfit h.isSpace d.heading.declaration.standalone
  have honly : onlyElement? [.element d.unified.name d.unified.attributes
      (Field.nodes d.unified.fields)] =
        some (.element d.unified.name d.unified.attributes (Field.nodes d.unified.fields)) := rfl
  obtain ⟨ts, htokens, hnest⟩ := Option.bind_eq_some_iff.1 hcontent
  rw [Xml.element?, readSource?_bytes h, Option.bind_some, Source.element?]
  simp only [readProlog?_element hname, Option.bind_eq_bind, Option.bind_some,
    isTooLarge_of_no_entities, htokens, hnest, honly]
  rfl

/-- **A written document is read as its element**, without its namespace and with the line ends of
its texts unified. -/
theorem readDocument?_bytes (h : d.IsSound) : readDocument? d.bytes = some d.unified.root := by
  rw [readDocument?_eq, element?_bytes h]
  exact resolve?_element h.isPlainName (Field.AllFit.unified h.allFit) h.isSpace

/-- A document without carriage returns is read as its element. -/
theorem readDocument?_bytes_of_no_return (h : d.IsSound)
    (hreturn : Field.AllFit (fun s => '\r' ∉ s.toList) d.fields) :
    readDocument? d.bytes = some d.root := by
  rw [readDocument?_bytes h, unified, Field.allUnified_of_no_return hreturn]

end Written

end CloudClient.Xml
