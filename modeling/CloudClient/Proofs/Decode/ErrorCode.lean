import CloudClient.Proofs.Decode.Lookup
import CloudClient.Proofs.Text.Utf8
import CloudClient.Proofs.Xml.Reading
import CloudClient.Response

/-!
# Finding the code of an error document

The code of an error is found among the bytes of its document, without reading the document: tags
and texts are passed over up to the first start tag of a code. Main statement: what is found is the
text of the first field of that name.
-/

namespace CloudClient.Response

open Xml

/-! ## What is passed over -/

/-- The start tag of the code in bytes. -/
theorem codeStart_eq : codeStart = 0x3C :: (Utf8.encode "Code".toList ++ [0x3E]) := by decide

/-- What holds no bracket is passed over. -/
theorem findCode?_append_of_not_mem {a : Bytes} (h : 0x3C ∉ a) (t : Bytes) :
    findCode? (a ++ t) = findCode? t := by
  induction a with
  | nil => rfl
  | cons b a ih =>
    have hb : b ≠ 0x3C := fun e => h (e ▸ List.mem_cons_self)
    have ha : 0x3C ∉ a := fun hmem => h (List.mem_cons_of_mem b hmem)
    have hstart : codeStart.isPrefixOf (b :: (a ++ t)) = false := by
      rw [codeStart_eq, List.isPrefixOf_cons_cons, beq_eq_false_iff_ne.2 (Ne.symm hb),
        Bool.false_and]
    rw [List.cons_append, findCode?, hstart, if_neg Bool.false_ne_true, ih ha]

/-- A text without brackets is passed over. -/
theorem findCode?_text {s : List Char} (h : '<' ∉ s) (t : List Char) :
    findCode? (Utf8.encode (s ++ t)) = findCode? (Utf8.encode t) := by
  rw [Utf8.encode_append, findCode?_append_of_not_mem]
  exact fun hmem => h (Utf8.mem_of_byte_mem_encode (c := '<') (by decide) hmem)

/-- The bytes of a tag that is followed by a text. -/
theorem encode_tag (v t : List Char) :
    Utf8.encode ('<' :: (v ++ '>' :: t)) = 0x3C :: (Utf8.encode v ++ 0x3E :: Utf8.encode t) := by
  rw [Utf8.encode_cons, Utf8.encode_append, Utf8.encode_cons]
  rfl

/-- A tag that begins like the start tag of the code is that tag. -/
theorem eq_of_isPrefixOf {v t : List Char} (hv : '>' ∉ v)
    (h : codeStart.isPrefixOf (Utf8.encode ('<' :: (v ++ '>' :: t))) = true) :
    v = "Code".toList := by
  -- Both tags end at their first closing bracket, so their insides are compared whole.
  have hclose : ∀ s : List Char, '>' ∉ s → ∀ r,
      (Utf8.encode s ++ 0x3E :: r).takeWhile (· != 0x3E) = Utf8.encode s := by
    intro s hs r
    have hne : ∀ b ∈ Utf8.encode s, (b != 0x3E) = true := by
      intro b hb
      rw [bne_iff_ne]
      rintro rfl
      exact hs (Utf8.mem_of_byte_mem_encode (c := '>') (by decide) hb)
    rw [List.takeWhile_append_of_pos hne, List.takeWhile_cons_of_neg (by simp), List.append_nil]
  obtain ⟨r, hr⟩ := List.isPrefixOf_iff_prefix.1 h
  rw [encode_tag, codeStart_eq, List.cons_append, List.append_assoc, List.singleton_append] at hr
  have htaken := congrArg (List.takeWhile (· != 0x3E)) (List.cons.inj hr).2
  rw [hclose _ (by decide), hclose v hv] at htaken
  have hdecoded := congrArg Utf8.decode? htaken
  rw [Utf8.decode?_encode, Utf8.decode?_encode] at hdecoded
  exact (Option.some.inj hdecoded).symm

/-- A tag other than the start tag of the code is passed over. -/
theorem findCode?_tag {v : List Char} (hopen : '<' ∉ v) (hclose : '>' ∉ v) (hv : v ≠ "Code".toList)
    (t : List Char) :
    findCode? (Utf8.encode ('<' :: (v ++ '>' :: t))) = findCode? (Utf8.encode t) := by
  have hstart : codeStart.isPrefixOf (Utf8.encode ('<' :: (v ++ '>' :: t))) = false := by
    rw [Bool.eq_false_iff]
    exact fun h => hv (eq_of_isPrefixOf hclose h)
  have hrest : '<' ∉ v ++ ['>'] := by
    rw [List.mem_append, List.mem_singleton, not_or]
    exact ⟨hopen, by decide⟩
  have hbytes : Utf8.encode ('<' :: (v ++ '>' :: t)) = 0x3C :: Utf8.encode ((v ++ ['>']) ++ t) := by
    rw [encode_tag, List.append_assoc, Utf8.encode_append, List.singleton_append, Utf8.encode_cons]
    rfl
  rw [hbytes] at hstart ⊢
  rw [findCode?, hstart, if_neg Bool.false_ne_true, findCode?_text hrest]

/-! ## Fields -/

variable {name : String} {P : String → Prop}

/-- A start tag of another name is passed over. -/
theorem findCode?_startTag (hname : isPlainName name.toList = true) (hne : name ≠ "Code")
    (t : List Char) :
    findCode? (Utf8.encode (startTag name ++ t)) = findCode? (Utf8.encode t) := by
  have htext : startTag name ++ t = '<' :: (name.toList ++ '>' :: t) := by simp [startTag]
  rw [htext, findCode?_tag (not_mem_of_isPlainName hname rfl) (not_mem_of_isPlainName hname rfl)]
  exact fun h => hne (String.toList_inj.1 h)

/-- An end tag is passed over. -/
theorem findCode?_endTag (hname : isPlainName name.toList = true) (t : List Char) :
    findCode? (Utf8.encode (endTag name ++ t)) = findCode? (Utf8.encode t) := by
  have htext : endTag name ++ t = '<' :: (('/' :: name.toList) ++ '>' :: t) := by simp [endTag]
  have hopen := not_mem_of_isPlainName hname (c := '<') rfl
  have hclose := not_mem_of_isPlainName hname (c := '>') rfl
  rw [htext, findCode?_tag (by simp [hopen]) (by simp [hclose])]
  intro h
  cases (List.cons.inj h).1

/-- An empty element is passed over. -/
theorem findCode?_mark (hname : isPlainName name.toList = true) (t : List Char) :
    findCode? (Utf8.encode ((Field.mark name).write ++ t)) = findCode? (Utf8.encode t) := by
  have htext : (Field.mark name).write ++ t = '<' :: ((name.toList ++ ['/']) ++ '>' :: t) := by
    simp [Field.write]
  have hopen := not_mem_of_isPlainName hname (c := '<') rfl
  have hclose := not_mem_of_isPlainName hname (c := '>') rfl
  rw [htext, findCode?_tag (by simp [hopen]) (by simp [hclose])]
  intro h
  have hslash : '/' ∈ "Code".toList := by
    rw [← h]
    simp
  revert hslash
  decide

/-- Fields with other names are passed over. -/
theorem findCode?_writeAll {fields : List Field} (hleaf : ∀ f ∈ fields, f.IsLeaf)
    (hfit : Field.AllFit P fields) (hne : ∀ f ∈ fields, f.name ≠ "Code") (t : List Char) :
    findCode? (Utf8.encode (Field.writeAll fields ++ t)) = findCode? (Utf8.encode t) := by
  induction fields with
  | nil => rfl
  | cons f rest ih =>
    have hf := hne f List.mem_cons_self
    have hrest := ih (fun g hg => hleaf g (List.mem_cons_of_mem f hg)) hfit.2
      fun g hg => hne g (List.mem_cons_of_mem f hg)
    rw [Field.writeAll, List.append_assoc]
    cases f with
    | text name s =>
      rw [Field.write, List.append_assoc, List.append_assoc, findCode?_startTag hfit.1.1 hf,
        findCode?_text (not_mem_escape _).1, findCode?_endTag hfit.1.1, hrest]
    | mark name => rw [findCode?_mark hfit.1, hrest]
    | group name fields => exact absurd (hleaf _ List.mem_cons_self) id

/-! ## The head of a document -/

/-- A declaration is passed over. -/
theorem findCode?_heading (h : Heading) (t : List Char) :
    findCode? (Utf8.encode (h.write ++ t)) = findCode? (Utf8.encode t) := by
  cases h with
  | bare => rfl
  | version =>
    exact findCode?_tag (v := "?xml version=\"1.0\"?".toList) (by decide) (by decide) (by decide) t
  | encoding =>
    exact findCode?_tag (v := "?xml version=\"1.0\" encoding=\"UTF-8\"?".toList) (by decide)
      (by decide) (by decide) t

/-- The start tag of a document is passed over, with its namespace. -/
theorem findCode?_rootTag {d : Written} (hname : isPlainName d.name.toList = true)
    (hne : d.name ≠ "Code") (t : List Char) :
    findCode? (Utf8.encode (d.rootTag ++ t)) = findCode? (Utf8.encode t) := by
  unfold Written.rootTag
  cases d.space with
  | none => exact findCode?_startTag hname hne t
  | some s =>
    have hopen := not_mem_of_isPlainName hname (c := '<') rfl
    have hclose := not_mem_of_isPlainName hname (c := '>') rfl
    obtain ⟨-, hvalueOpen, hvalueClose⟩ := not_mem_escapeValue s.toList
    have htext : '<' :: (d.name.toList ++ ' ' :: (Written.binding ++ '=' :: '"' ::
        (escapeValue s.toList ++ ['"', '>']))) ++ t =
          '<' :: ((d.name.toList ++ ' ' :: (Written.binding ++ '=' :: '"' ::
            (escapeValue s.toList ++ ['"']))) ++ '>' :: t) := by
      simp
    dsimp only
    rw [htext, findCode?_tag (by simp [Written.binding, hopen, hvalueOpen])
      (by simp [Written.binding, hclose, hvalueClose])]
    intro h
    have hblank : ' ' ∈ "Code".toList := by
      rw [← h]
      simp
    revert hblank
    decide

/-! ## The code -/

/-- A text that stands in a document as it is, without blanks. -/
structure IsWord (s : String) : Prop where
  ne_empty : s ≠ ""
  isXmlText : IsXmlText s
  isDark : IsDark s
  isBare : '<' ∉ s.toList ∧ '>' ∉ s.toList ∧ '&' ∉ s.toList

/-- A word is written as it is. -/
theorem IsWord.escape_eq {s : String} (h : IsWord s) : escape s.toList = s.toList := by
  have hone : ∀ c ∈ s.toList, escapeChar c = [c] := by
    intro c hc
    obtain ⟨hlt, hgt, hamp⟩ := h.isBare
    rw [escapeChar, if_neg (ne_of_mem_of_not_mem hc hamp), if_neg (ne_of_mem_of_not_mem hc hlt),
      if_neg (ne_of_mem_of_not_mem hc hgt)]
  have hall : ∀ l : List Char, (∀ c ∈ l, escapeChar c = [c]) → escape l = l := by
    intro l hl
    induction l with
    | nil => rfl
    | cons c l ih =>
      have hrest : l.flatMap escapeChar = l := ih fun d hd => hl d (List.mem_cons_of_mem c hd)
      rw [escape, List.flatMap_cons, hl c List.mem_cons_self, hrest]
      rfl
  exact hall s.toList hone

/-- The bytes of a word are no blanks and no brackets. -/
theorem IsWord.isCodeByte_of_mem {s : String} (h : IsWord s) {b : UInt8}
    (hb : b ∈ Utf8.encode s.toList) : isCodeByte b = true := by
  by_cases hlt : b.toNat < 0x80
  · obtain ⟨c, hc, hcb⟩ := Utf8.exists_of_mem_encode hlt hb
    have hchar : (isXmlChar c && !isSpace c && c != '<') = true := by
      rw [h.isXmlText.isXmlChar_of_mem hc, h.isDark.isSpace_of_mem hc, Bool.not_false,
        Bool.true_and, Bool.true_and, bne_iff_ne]
      exact ne_of_mem_of_not_mem hc h.isBare.1
    have hall : ∀ n < 0x80, (isXmlChar (Char.ofNat n) && !isSpace (Char.ofNat n) &&
        Char.ofNat n != '<') = true → isCodeByte (UInt8.ofNat n) = true := by decide
    have hbyte := hall b.toNat hlt
    rw [UInt8.ofNat_toNat, ← hcb, Char.ofNat_toNat] at hbyte
    exact hbyte hchar
  · have hrange : ¬b ≤ 0xD := by
      rw [UInt8.le_iff_toNat_le]
      exact fun hle => hlt (Nat.lt_of_le_of_lt hle (by decide))
    have hspace : b ≠ 0x20 := by
      rintro rfl
      exact hlt (by decide)
    have hbracket : b ≠ 0x3C := by
      rintro rfl
      exact hlt (by decide)
    simp [isCodeByte, isBlankByte, hrange, hspace, hbracket]

/-- A word is found before the end tag. -/
theorem wordBeforeEnd?_append {w : Bytes} (hne : w ≠ []) (hw : ∀ b ∈ w, isCodeByte b = true)
    (t : Bytes) : wordBeforeEnd? (w ++ (codeEnd ++ t)) = some w := by
  obtain ⟨e, hend⟩ : ∃ e, codeEnd ++ t = 0x3C :: e := ⟨_, rfl⟩
  have hstart : (w ++ (codeEnd ++ t)).dropWhile isBlankByte = w ++ (codeEnd ++ t) := by
    cases w with
    | nil => exact absurd rfl hne
    | cons b w =>
      have hb := hw b List.mem_cons_self
      rw [isCodeByte, Bool.and_eq_true, Bool.not_eq_true'] at hb
      exact List.dropWhile_cons_of_neg (by rw [hb.1]; decide)
  have htake : (w ++ (codeEnd ++ t)).takeWhile isCodeByte = w := by
    rw [List.takeWhile_append_of_pos hw, hend, List.takeWhile_cons_of_neg (by decide),
      List.append_nil]
  have hdrop : ((w ++ (codeEnd ++ t)).dropWhile isCodeByte).dropWhile isBlankByte =
      codeEnd ++ t := by
    rw [List.dropWhile_append_of_pos hw, hend, List.dropWhile_cons_of_neg (by decide),
      List.dropWhile_cons_of_neg (by decide)]
  have hprefix : codeEnd.isPrefixOf (codeEnd ++ t) = true :=
    List.isPrefixOf_iff_prefix.2 (List.prefix_append _ _)
  have hempty : w.isEmpty = false := List.isEmpty_eq_false_iff.2 hne
  rw [wordBeforeEnd?]
  simp only [hstart, htake, hdrop, hprefix, hempty]
  rfl

/-- After the start tag of the code a word before the end tag is what is found. -/
theorem findCode?_codeStart {r w : Bytes} (h : wordBeforeEnd? r = some w) :
    findCode? (codeStart ++ r) = some w := by
  obtain ⟨e, hstart⟩ : ∃ e, codeStart ++ r = 0x3C :: e := ⟨_, rfl⟩
  have hprefix : codeStart.isPrefixOf (codeStart ++ r) = true :=
    List.isPrefixOf_iff_prefix.2 (List.prefix_append _ _)
  have hdrop : (codeStart ++ r).drop codeStart.length = r := List.drop_left
  rw [hstart] at hprefix hdrop ⊢
  rw [findCode?, if_pos hprefix, hdrop, h]

/-- The code is found in its field. -/
theorem findCode?_code {s : String} (h : IsWord s) (t : List Char) :
    findCode? (Utf8.encode ((Field.text "Code" s).write ++ t)) = some (Utf8.encode s.toList) := by
  have hword : Utf8.encode s.toList ≠ [] := by
    intro hnil
    have hdecoded := congrArg Utf8.decode? hnil
    rw [Utf8.decode?_encode] at hdecoded
    have hempty : s.toList = [] := by simpa [Utf8.decode?] using hdecoded
    exact h.ne_empty (String.toList_eq_nil_iff.1 hempty)
  have hbytes : Utf8.encode ((Field.text "Code" s).write ++ t) =
      codeStart ++ (Utf8.encode s.toList ++ (codeEnd ++ Utf8.encode t)) := by
    rw [Field.write, h.escape_eq, List.append_assoc, List.append_assoc, Utf8.encode_append,
      Utf8.encode_append, Utf8.encode_append]
    rfl
  rw [hbytes]
  exact findCode?_codeStart (wordBeforeEnd?_append hword (fun b hb => h.isCodeByte_of_mem hb) _)

end CloudClient.Response
