import CloudClient.Proofs.Xml.Field

/-!
# Characters of written fields

A document is read as characters once, before its markup is looked at: each of them must be one that
XML allows, and every line end becomes a single line feed. Main statement: unifying the line ends of
written fields unifies those of their texts and leaves the markup as it is.
-/

namespace CloudClient.Xml

/-! ## Line ends -/

/-- A character other than a carriage return stays as it is. -/
theorem unifyLines_cons {c : Char} (hc : c ≠ '\r') (r : List Char) :
    unifyLines (c :: r) = c :: unifyLines r := by
  rw [unifyLines]
  · intro _ e
    exact absurd e hc
  · exact hc

/-- What holds no carriage return keeps its line ends. -/
theorem unifyLines_append_of_no_return {a : List Char} (h : '\r' ∉ a) (t : List Char) :
    unifyLines (a ++ t) = a ++ unifyLines t := by
  induction a with
  | nil => rfl
  | cons c a ih =>
    have hc : c ≠ '\r' := fun e => h (e ▸ List.mem_cons_self)
    have ha : '\r' ∉ a := fun e => h (List.mem_cons_of_mem c e)
    rw [List.cons_append, unifyLines_cons hc, ih ha, List.cons_append]

/-- No line end is cut in front of a character other than a line feed. -/
theorem unifyLines_append_cons (s : List Char) {c : Char} (hc : c ≠ '\n') (t : List Char) :
    unifyLines (s ++ c :: t) = unifyLines s ++ unifyLines (c :: t) := by
  induction s using unifyLines.induct with
  | case1 r ih =>
    rw [List.cons_append, List.cons_append, unifyLines, ih, unifyLines, List.cons_append]
  | case2 r hr ih =>
    -- No line feed follows the return, not even the first character of what is appended.
    have hnext : ∀ u, r ++ c :: t ≠ '\n' :: u := by
      intro u heq
      cases r with
      | nil => exact hc (List.cons.inj heq).1
      | cons d r =>
        exact hr r (congrArg (· :: r) (List.cons.inj heq).1)
    rw [List.cons_append, unifyLines, ih, unifyLines, List.cons_append]
    · exact hr
    · exact hnext
  | case3 d r _ hd ih =>
    rw [List.cons_append, unifyLines_cons hd, ih, unifyLines_cons hd, List.cons_append]
  | case4 => rfl

/-- A reference holds no carriage return. -/
theorem not_mem_escapeChar {c : Char} (hc : c ≠ '\r') : '\r' ∉ escapeChar c := by
  unfold escapeChar
  split
  · decide
  split
  · decide
  split
  · decide
  · rw [List.mem_singleton]
    exact Ne.symm hc

/-- A written text begins with a line feed only where the text does. -/
theorem exists_of_escape_eq {s t : List Char} (h : escape s = '\n' :: t) : ∃ r, s = '\n' :: r := by
  cases s with
  | nil => cases h
  | cons c s =>
    refine ⟨s, ?_⟩
    rw [escape, List.flatMap_cons, escapeChar] at h
    split at h
    · cases h
    split at h
    · cases h
    split at h
    · cases h
    · exact congrArg (· :: s) (List.cons.inj h).1

/-- The line ends of a written text are those of the text. -/
theorem unifyLines_escape (s : List Char) : unifyLines (escape s) = escape (unifyLines s) := by
  induction s using unifyLines.induct with
  | case1 r ih =>
    have hescape : escape ('\r' :: '\n' :: r) = '\r' :: '\n' :: escape r := rfl
    rw [hescape, unifyLines, ih, unifyLines]
    rfl
  | case2 r hr ih =>
    have hescape : escape ('\r' :: r) = '\r' :: escape r := rfl
    rw [hescape, unifyLines, ih, unifyLines]
    · rfl
    · exact hr
    · intro t h
      obtain ⟨u, hu⟩ := exists_of_escape_eq h
      exact hr u hu
  | case3 c r _ hc ih =>
    have hescape : ∀ u, escape (c :: u) = escapeChar c ++ escape u := fun _ => List.flatMap_cons
    rw [hescape, unifyLines_append_of_no_return (not_mem_escapeChar hc), ih, unifyLines_cons hc,
      hescape]
  | case4 => rfl

/-! ## Texts as they are read -/

/-- A text as it is read: its line ends are unified. -/
def unifyText (s : String) : String := String.ofList (unifyLines s.toList)

/-- A text without carriage returns is read as it is. -/
theorem unifyText_of_no_return {s : String} (h : '\r' ∉ s.toList) : unifyText s = s := by
  rw [unifyText, unifyLines_of_no_return h, String.ofList_toList]

/-- A text has none but characters that XML allows. -/
def IsXmlText (s : String) : Prop := s.toList.all isXmlChar = true

instance (s : String) : Decidable (IsXmlText s) :=
  inferInstanceAs (Decidable (s.toList.all isXmlChar = true))

/-- XML allows each character of such a text. -/
theorem IsXmlText.isXmlChar_of_mem {s : String} (h : IsXmlText s) {c : Char} (hc : c ∈ s.toList) :
    isXmlChar c = true :=
  List.all_eq_true.1 h c hc

/-- A text has no blanks of XML. -/
def IsDark (s : String) : Prop := s.toList.any isSpace = false

instance (s : String) : Decidable (IsDark s) :=
  inferInstanceAs (Decidable (s.toList.any isSpace = false))

/-- No character of such a text is a blank. -/
theorem IsDark.isSpace_of_mem {s : String} (h : IsDark s) {c : Char} (hc : c ∈ s.toList) :
    isSpace c = false :=
  Bool.eq_false_iff.2 (List.any_eq_false.1 h c hc)

namespace Field

mutual

/-- A field with its texts as they are read. -/
def unified : Field → Field
  | text name s => text name (unifyText s)
  | mark name => mark name
  | group name fields => group name (allUnified fields)

/-- Fields with their texts as they are read. -/
def allUnified : List Field → List Field
  | [] => []
  | f :: rest => unified f :: allUnified rest

end

/-- Fields are read one by one. -/
theorem allUnified_eq_map (fields : List Field) : allUnified fields = fields.map unified := by
  induction fields with
  | nil => rfl
  | cons f rest ih => rw [allUnified, ih, List.map_cons]

/-- A field keeps its name. -/
@[simp] theorem name_unified (f : Field) : f.unified.name = f.name := by
  cases f <;> rfl

variable {P Q : String → Prop}

mutual

/-- Fields that fit fit a weaker condition. -/
theorem Fits.imp (hPQ : ∀ s, P s → Q s) : ∀ {f : Field}, f.Fits P → f.Fits Q
  | .text _ _, h => ⟨h.1, hPQ _ h.2⟩
  | .mark _, h => h
  | .group _ _, h => ⟨h.1, AllFit.imp hPQ h.2⟩

/-- The same of several fields. -/
theorem AllFit.imp (hPQ : ∀ s, P s → Q s) :
    ∀ {fields : List Field}, AllFit P fields → AllFit Q fields
  | [], _ => trivial
  | _ :: _, h => ⟨Fits.imp hPQ h.1, AllFit.imp hPQ h.2⟩

end

mutual

/-- The names of a field stay plain. -/
theorem Fits.unified : ∀ {f : Field}, f.Fits P → f.unified.Fits fun _ => True
  | .text _ _, h => ⟨h.1, trivial⟩
  | .mark _, h => h
  | .group _ _, h => ⟨h.1, AllFit.unified h.2⟩

/-- The names of fields stay plain. -/
theorem AllFit.unified : ∀ {fields : List Field}, AllFit P fields →
    AllFit (fun _ => True) (allUnified fields)
  | [], _ => trivial
  | _ :: _, h => ⟨Fits.unified h.1, AllFit.unified h.2⟩

end

mutual

/-- A field without carriage returns is read as it is. -/
theorem unified_of_no_return : ∀ {f : Field}, f.Fits (fun s => '\r' ∉ s.toList) → f.unified = f
  | .text name _, h => congrArg (Field.text name) (unifyText_of_no_return h.2)
  | .mark _, _ => rfl
  | .group name _, h => congrArg (Field.group name) (allUnified_of_no_return h.2)

/-- Fields without carriage returns are read as they are. -/
theorem allUnified_of_no_return : ∀ {fields : List Field},
    AllFit (fun s => '\r' ∉ s.toList) fields → allUnified fields = fields
  | [], _ => rfl
  | f :: rest, h => by
    rw [allUnified, unified_of_no_return h.1, allUnified_of_no_return h.2]

end

end Field

/-- A start tag holds no carriage return. -/
theorem not_mem_startTag {name : String} (h : isPlainName name.toList = true) :
    '\r' ∉ startTag name := by
  have hname := not_mem_of_isPlainName h (c := '\r') rfl
  simp [startTag, hname]

/-- An end tag holds no carriage return. -/
theorem not_mem_endTag {name : String} (h : isPlainName name.toList = true) :
    '\r' ∉ endTag name := by
  have hname := not_mem_of_isPlainName h (c := '\r') rfl
  simp [endTag, hname]

/-- The tag of an empty element holds no carriage return. -/
theorem not_mem_mark {name : String} (h : isPlainName name.toList = true) :
    '\r' ∉ (Field.mark name).write := by
  have hname := not_mem_of_isPlainName h (c := '\r') rfl
  simp [Field.write, hname]

mutual

/-- The line ends of a written field are those of its texts. -/
theorem unifyLines_write {P : String → Prop} : ∀ {f : Field}, f.Fits P → ∀ t : List Char,
    unifyLines (f.write ++ t) = f.unified.write ++ unifyLines t
  | .text name s, h, t => by
    -- A return at the end of the text stands before a bracket, so its line ends there.
    have hcut : unifyLines (escape s.toList ++ (endTag name ++ t)) =
        escape (unifyLines s.toList) ++ (endTag name ++ unifyLines t) := by
      show unifyLines (escape s.toList ++ '<' :: ('/' :: (name.toList ++ ['>']) ++ t)) = _
      rw [unifyLines_append_cons _ (by decide), unifyLines_escape]
      exact congrArg _ (unifyLines_append_of_no_return (not_mem_endTag h.1) t)
    rw [Field.write, List.append_assoc, List.append_assoc,
      unifyLines_append_of_no_return (not_mem_startTag h.1), hcut, Field.unified, Field.write,
      unifyText, String.toList_ofList, List.append_assoc, List.append_assoc]
  | .mark name, h, t => unifyLines_append_of_no_return (not_mem_mark h) t
  | .group name fields, h, t => by
    rw [Field.write, List.append_assoc, List.append_assoc,
      unifyLines_append_of_no_return (not_mem_startTag h.1), unifyLines_writeAll h.2,
      unifyLines_append_of_no_return (not_mem_endTag h.1), Field.unified, Field.write,
      List.append_assoc, List.append_assoc]

/-- The line ends of written fields are those of their texts. -/
theorem unifyLines_writeAll {P : String → Prop} : ∀ {fields : List Field}, Field.AllFit P fields →
    ∀ t : List Char,
      unifyLines (Field.writeAll fields ++ t) =
        Field.writeAll (Field.allUnified fields) ++ unifyLines t
  | [], _, t => rfl
  | f :: rest, h, t => by
    rw [Field.writeAll, List.append_assoc, unifyLines_write h.1, unifyLines_writeAll h.2,
      Field.allUnified, Field.writeAll, List.append_assoc]

end

/-! ## Characters of XML -/

/-- A character is written with characters that XML allows when it is one itself. -/
theorem all_escapeChar (c : Char) : (escapeChar c).all isXmlChar = isXmlChar c := by
  unfold escapeChar
  split
  · rename_i h
    rw [h]
    rfl
  split
  · rename_i h
    rw [h]
    rfl
  split
  · rename_i h
    rw [h]
    rfl
  · rw [List.all_cons, List.all_nil, Bool.and_true]

/-- The same of a text. -/
theorem all_escape (s : List Char) : (escape s).all isXmlChar = s.all isXmlChar := by
  simp only [escape, List.all_flatMap, all_escapeChar]

/-- XML allows plain names. -/
theorem all_of_isPlainName {name : List Char} (h : isPlainName name = true) :
    name.all isXmlChar = true :=
  List.all_eq_true.2 fun _ hc => of_isPlainChar (by decide) (isPlainChar_of_mem h hc)

/-- XML allows the characters of a start tag. -/
theorem all_startTag {name : String} (h : isPlainName name.toList = true) :
    (startTag name).all isXmlChar = true := by
  rw [startTag, List.all_cons, List.all_append, all_of_isPlainName h]
  rfl

/-- XML allows the characters of an end tag. -/
theorem all_endTag {name : String} (h : isPlainName name.toList = true) :
    (endTag name).all isXmlChar = true := by
  rw [endTag, List.all_cons, List.all_cons, List.all_append, all_of_isPlainName h]
  rfl

mutual

/-- XML allows the characters of a written field. -/
theorem all_write : ∀ {f : Field}, f.Fits IsXmlText → f.write.all isXmlChar = true
  | .text _ s, h => by
    have hs : (escape s.toList).all isXmlChar = true := (all_escape _).trans h.2
    rw [Field.write, List.all_append, List.all_append, all_startTag h.1, hs, all_endTag h.1]
    rfl
  | .mark name, h => by
    have hname : name.toList.all isXmlChar = true := all_of_isPlainName h
    rw [Field.write, List.all_cons, List.all_append, hname]
    rfl
  | .group _ fields, h => by
    rw [Field.write, List.all_append, List.all_append, all_startTag h.1, all_writeAll h.2,
      all_endTag h.1]
    rfl

/-- XML allows the characters of written fields. -/
theorem all_writeAll : ∀ {fields : List Field}, Field.AllFit IsXmlText fields →
    (Field.writeAll fields).all isXmlChar = true
  | [], _ => rfl
  | _ :: _, h => by
    rw [Field.writeAll, List.all_append, all_write h.1, all_writeAll h.2]
    rfl

end

end CloudClient.Xml
