import CloudClient.Proofs.Text.Split
import CloudClient.Proofs.Xml.Characters
import CloudClient.Xml.Document

/-!
# Written documents

A service writes a document as a heading and one element with fields, which may be in a default
namespace. Main statement: the characters of such an element are read as the element with its
fields, which then loses its namespace.
-/

namespace CloudClient.Xml

/-! ## Documents -/

/-- What a document says of itself in front of its element. -/
inductive Heading where
  /-- Nothing. -/
  | bare
  /-- The version of XML. -/
  | version
  /-- The version of XML and the encoding. -/
  | encoding
  deriving DecidableEq, Repr, Inhabited

/-- How a heading is written. -/
def Heading.write : Heading → List Char
  | bare => []
  | version => "<?xml version=\"1.0\"?>".toList
  | encoding => "<?xml version=\"1.0\" encoding=\"UTF-8\"?>".toList

/-- How a character stands in a value in double quotes. -/
def escapeValueChar (c : Char) : List Char := if c = '"' then "&quot;".toList else escapeChar c

/-- How a value in double quotes is written. -/
def escapeValue (s : List Char) : List Char := s.flatMap escapeValueChar

/-- A document of a service: its heading, its default namespace, and the name and the fields of its
element. -/
structure Written where
  heading : Heading
  space : Option String
  name : String
  fields : List Field
  deriving Repr, Inhabited

namespace Written

/-- The name of the attribute that binds the default namespace. -/
def binding : List Char := "xmlns".toList

/-- The start tag of the element, which binds the default namespace. -/
def rootTag (d : Written) : List Char :=
  match d.space with
  | none => startTag d.name
  | some s =>
    '<' :: (d.name.toList ++ ' ' :: (binding ++ '=' :: '"' :: (escapeValue s.toList ++ ['"', '>'])))

/-- The element as it is written. -/
def element (d : Written) : List Char := d.rootTag ++ Field.writeAll d.fields ++ endTag d.name

/-- The bytes of a document in UTF-8. -/
def bytes (d : Written) : Bytes := Utf8.encode (d.heading.write ++ d.element)

/-- The element without its namespace. -/
def root (d : Written) : Node := .element d.name [] (Field.nodes d.fields)

end Written

/-! ## The value of an attribute -/

variable {letters : Letters} {r : List Char} {P : String → Prop}

/-- Quotes and brackets stand in no written value. -/
theorem not_mem_escapeValue (s : List Char) :
    '"' ∉ escapeValue s ∧ '<' ∉ escapeValue s ∧ '>' ∉ escapeValue s := by
  have hone : ∀ c, '"' ∉ escapeValueChar c ∧ '<' ∉ escapeValueChar c ∧ '>' ∉ escapeValueChar c := by
    intro c
    unfold escapeValueChar
    split
    case isTrue => decide
    case isFalse hquote =>
      have hescape : '<' ∉ escapeChar c ∧ '>' ∉ escapeChar c := by
        have hwritten := not_mem_escape [c]
        rwa [escape, List.flatMap_singleton] at hwritten
      refine ⟨?_, hescape⟩
      unfold escapeChar
      split
      · decide
      split
      · decide
      split
      · decide
      · rw [List.mem_singleton]
        exact Ne.symm hquote
  refine ⟨fun h => ?_, fun h => ?_, fun h => ?_⟩
  all_goals obtain ⟨c, -, hc⟩ := List.mem_flatMap.1 h
  · exact (hone c).1 hc
  · exact (hone c).2.1 hc
  · exact (hone c).2.2 hc

/-- A value is read up to its closing quote. -/
theorem cutQuote?_escapeValue (s : List Char) :
    cutQuote? '"' (escapeValue s ++ '"' :: r) = some (escapeValue s, r) := by
  have hquote : ∀ c ∈ escapeValue s, (c != '"') = true := by
    intro c hc
    rw [bne_iff_ne]
    exact ne_of_mem_of_not_mem hc (not_mem_escapeValue s).1
  rw [cutQuote?, List.dropWhile_append_of_pos hquote, List.takeWhile_append_of_pos hquote,
    List.dropWhile_cons_of_neg (by simp), List.takeWhile_cons_of_neg (by simp), List.append_nil]

namespace Doctype

variable {entity? : List Char → Option (List Char)}

/-- A reference to a standard entity means its character. -/
theorem expandValue_reference {name : List Char} (hname : isPlainName name = true) {c : Char}
    (hc : standard? name = some c) :
    expandValue letters entity? ('&' :: (name ++ ';' :: r)) =
      (expandValue letters entity? r).map (c :: ·) := by
  rw [expandValue]
  split
  · rename_i h
    rw [readReference?_plain hname] at h
    cases h
  · rename_i h
    rw [readReference?_plain hname] at h
    cases h
    simp only [hc]

/-- A plain character of a value that is no blank means itself. -/
theorem expandValue_char {c : Char} (hlt : c ≠ '<') (hamp : c ≠ '&') (hblank : isSpace c = false) :
    expandValue letters entity? (c :: r) = (expandValue letters entity? r).map (c :: ·) := by
  rw [expandValue]
  · rw [hblank]
    rfl
  · exact hlt
  · exact hamp

/-- A written value without blanks means the text that it was made of. -/
theorem expandValue_escapeValue {s : List Char} (hs : ∀ c ∈ s, isSpace c = false) :
    expandValue letters entity? (escapeValue s) = some s := by
  induction s with
  | nil => rw [escapeValue, List.flatMap_nil, expandValue]
  | cons c s ih =>
    have hrest := ih fun d hd => hs d (List.mem_cons_of_mem c hd)
    have hreference : ∀ name : List Char, isPlainName name = true → standard? name = some c →
        escapeValueChar c = '&' :: (name ++ [';']) →
        expandValue letters entity? (escapeValue (c :: s)) = some (c :: s) := by
      intro name hname hc hescape
      have htext : escapeValue (c :: s) = '&' :: (name ++ ';' :: escapeValue s) := by
        rw [escapeValue, List.flatMap_cons, hescape]
        simp [escapeValue]
      rw [htext, expandValue_reference hname hc, hrest]
      rfl
    by_cases hquote : c = '"'
    · exact hreference "quot".toList rfl (by rw [hquote]; rfl) (by rw [hquote]; rfl)
    by_cases hamp : c = '&'
    · exact hreference "amp".toList rfl (by rw [hamp]; rfl) (by rw [hamp]; rfl)
    by_cases hlt : c = '<'
    · exact hreference "lt".toList rfl (by rw [hlt]; rfl) (by rw [hlt]; rfl)
    by_cases hgt : c = '>'
    · exact hreference "gt".toList rfl (by rw [hgt]; rfl) (by rw [hgt]; rfl)
    have hescape : escapeValue (c :: s) = c :: escapeValue s := by
      rw [escapeValue, List.flatMap_cons, escapeValueChar, if_neg hquote, escapeChar, if_neg hamp,
        if_neg hlt, if_neg hgt]
      rfl
    rw [hescape, expandValue_char hlt hamp (hs c List.mem_cons_self), hrest]
    rfl

end Doctype

/-! ## The start tag of the element -/

/-- The binding of the default namespace is read as an attribute. -/
theorem readAttributes?_binding (s : List Char) :
    readAttributes? letters
        (' ' :: (Written.binding ++ '=' :: '"' :: (escapeValue s ++ '"' :: '>' :: r))) =
      some ([(Written.binding, escapeValue s)], false, r) := by
  have hequals : isNameChar letters '=' = false := by cases letters <;> rfl
  have hread : readAttribute? letters
      (' ' :: (Written.binding ++ '=' :: '"' :: (escapeValue s ++ '"' :: '>' :: r))) =
        some ((Written.binding, escapeValue s), '>' :: r) := by
    have hspace : skipSpace
        (' ' :: (Written.binding ++ '=' :: '"' :: (escapeValue s ++ '"' :: '>' :: r))) =
          Written.binding ++ '=' :: '"' :: (escapeValue s ++ '"' :: '>' :: r) := rfl
    have hvalue : readValue? ('=' :: '"' :: (escapeValue s ++ '"' :: '>' :: r)) =
        some (escapeValue s, '>' :: r) := cutQuote?_escapeValue s
    rw [readAttribute?, hspace, readQualified?_plain rfl hequals (by decide)]
    dsimp only
    rw [hvalue]
    rfl
  rw [readAttributes?]
  split
  · rename_i heq
    cases heq
  · rename_i heq
    cases heq
  · split
    · rename_i h
      rw [hread] at h
      cases h
    · rename_i h
      rw [hread] at h
      cases h
      rw [readAttributes?_close]
      rfl

namespace Written

variable (d : Written)

/-- The attributes of the element as they are meant. -/
def attributes : List (String × String) :=
  match d.space with
  | none => []
  | some s => [("xmlns", s)]

/-- A default namespace can be bound, and has none but XML characters and no blanks. -/
structure IsSpace (s : String) : Prop where
  isBinding : isBinding "" s = true
  isXmlText : IsXmlText s
  isDark : IsDark s

variable {d}

/-- A document type without declarations leaves the attributes of an element as they are written. -/
theorem attributes?_nil (standsAlone : Bool) (name : List Char) :
    Doctype.attributes? { standsAlone } letters name [] = some [] := rfl

/-- In particular a bound namespace is the one that is written. -/
theorem attributes?_binding (standsAlone : Bool) (name : List Char) {s : String}
    (hs : IsSpace s) :
    Doctype.attributes? { standsAlone } letters name [(binding, escapeValue s.toList)] =
      some [("xmlns", s)] := by
  have hvalue : Doctype.value? { standsAlone } letters true (escapeValue s.toList) =
      some s.toList := by
    rw [Doctype.value?, Doctype.expandValue_escapeValue fun _ hc => hs.isDark.isSpace_of_mem hc]
    rfl
  simp only [Doctype.attributes?, Doctype.rulesOf, List.filter_nil, List.find?_nil,
    Option.map_none, Option.getD_none, List.mapM_cons, List.mapM_nil, hvalue, List.filterMap_nil,
    List.append_nil]
  show some [(String.ofList binding, String.ofList s.toList)] = _
  rw [String.ofList_toList]
  rfl

/-- The start tag of the element opens it. -/
theorem readContent?_rootTag (hname : isPlainName d.name.toList = true)
    (hspace : ∀ s ∈ d.space, IsSpace s) (standsAlone : Bool) :
    readContent? (Doctype.meaning { standsAlone } letters) letters (d.rootTag ++ r) {} [] =
      readContent? (Doctype.meaning { standsAlone } letters) letters r {}
        [⟨d.name.toList, d.attributes, {}⟩] := by
  unfold rootTag attributes
  cases hd : d.space with
  | none => exact readContent?_startTag hname (attributes?_nil standsAlone _) {} []
  | some s =>
    have hblank : isNameChar letters ' ' = false := by cases letters <;> rfl
    have hread : readToken? letters ('<' :: (d.name.toList ++ ' ' :: (binding ++ '=' :: '"' ::
        (escapeValue s.toList ++ '"' :: '>' :: r)))) =
          some (.start d.name.toList [(binding, escapeValue s.toList)] false, r) := by
      rw [readToken?_tag hname hblank (by decide), readAttributes?_binding]
      rfl
    have htext : '<' :: (d.name.toList ++ ' ' :: (binding ++ '=' :: '"' ::
        (escapeValue s.toList ++ ['"', '>']))) ++ r =
          '<' :: (d.name.toList ++ ' ' :: (binding ++ '=' :: '"' ::
            (escapeValue s.toList ++ '"' :: '>' :: r))) := by
      simp
    dsimp only
    rw [htext, readContent?_of_read hread, readContent?]
    simp only [nest, Doctype.meaning, attributes?_binding standsAlone _ (hspace s hd)]
    rfl

/-- The element of a document is read with its attributes. -/
theorem readContent?_element (hname : isPlainName d.name.toList = true)
    (hfields : Field.AllFit P d.fields) (hspace : ∀ s ∈ d.space, IsSpace s)
    (standsAlone : Bool) :
    readContent? (Doctype.meaning { standsAlone } letters) letters d.element {} [] =
      some [.element d.name d.attributes (Field.nodes d.fields)] := by
  have hend : endTag d.name = endTag d.name ++ [] := (List.append_nil _).symm
  rw [element, List.append_assoc, readContent?_rootTag hname hspace,
    readContent?_writeAll (attributes?_nil standsAlone) d.fields hfields, hend,
    readContent?_endTag hname, readContent?, tokens?_nil]
  simp [nest, Partial.nodesInOrder, Partial.flush, Partial.addNodes]

end Written

/-! ## Names without namespaces -/

/-- A plain name has no prefix. -/
theorem localName?_plain {name : String} (hname : isPlainName name.toList = true) (scope : Scope) :
    localName? scope name = some name := by
  have hcut : Text.cut ':' name.toList = (name.toList, none) :=
    Text.cut_of_not_mem (not_mem_of_isPlainName hname rfl)
  have hsplit : splitName name = ("", name) := by
    rw [splitName, hcut]
  rw [localName?, hsplit]
  rfl

/-- An element without attributes binds nothing. -/
theorem resolve?_plain {name : String} (hname : isPlainName name.toList = true) (scope : Scope)
    {content content' : List Node} (hcontent : Node.resolveAll? scope content = some content') :
    Node.resolve? scope (.element name [] content) = some (.element name [] content') := by
  have hbound : bindings? [] = some [] := rfl
  have hattributes : attributesIn? scope [] = some [] := rfl
  rw [Node.resolve?, hbound]
  dsimp only
  rw [List.nil_append, localName?_plain hname, hattributes, hcontent]

/-- The texts of elements stay as they are. -/
theorem resolveAll?_textContent (scope : Scope) (s : String) :
    Node.resolveAll? scope (textContent s) = some (textContent s) := by
  unfold textContent
  split <;> rfl

mutual

/-- The element of a field stays as it is. -/
theorem resolve?_node (scope : Scope) : ∀ f : Field, f.Fits P →
    Node.resolve? scope f.node = some f.node
  | .text _ s, hf => resolve?_plain hf.1 scope (resolveAll?_textContent scope s)
  | .mark _, hf => resolve?_plain hf scope rfl
  | .group _ fields, hf => resolve?_plain hf.1 scope (resolveAll?_nodes scope fields hf.2)

/-- The elements of fields stay as they are. -/
theorem resolveAll?_nodes (scope : Scope) : ∀ fields : List Field, Field.AllFit P fields →
    Node.resolveAll? scope (Field.nodes fields) = some (Field.nodes fields)
  | [], _ => rfl
  | f :: rest, hf => by
    rw [Field.nodes, Node.resolveAll?, resolve?_node scope f hf.1,
      resolveAll?_nodes scope rest hf.2]

end

namespace Written

variable {d : Written}

/-- The element of a document loses its namespace. -/
theorem resolve?_element (hname : isPlainName d.name.toList = true)
    (hfields : Field.AllFit P d.fields) (hspace : ∀ s ∈ d.space, IsSpace s) :
    Node.resolve? outerScope (.element d.name d.attributes (Field.nodes d.fields)) =
      some d.root := by
  unfold attributes
  cases hd : d.space with
  | none => exact resolve?_plain hname _ (resolveAll?_nodes _ d.fields hfields)
  | some s =>
    have hs := (hspace s hd).isBinding
    have hbound : bindings? [("xmlns", s)] = some [("", s)] := by
      simp [bindings?, boundPrefix?, hs]
    have hattributes : ∀ scope, attributesIn? scope [("xmlns", s)] = some [] := fun _ => rfl
    dsimp only
    rw [Node.resolve?, hbound]
    dsimp only
    rw [localName?_plain hname, hattributes, resolveAll?_nodes _ d.fields hfields]
    rfl

end Written

end CloudClient.Xml
