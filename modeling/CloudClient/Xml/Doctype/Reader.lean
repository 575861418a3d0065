import CloudClient.Xml.Doctype.Mark
import CloudClient.Xml.Entity

/-!
# Reading a document type

A document type names the root element and may hold declarations. Every declaration must have its
proper form, also one that has no effect here.
-/

namespace CloudClient.Xml.Doctype

/-- A reader of declarations, which knows the letters of the document's names. -/
abbrev Reader := ReaderT Letters (StateT (List Char) Option)

/-- The next mark. -/
def next : Reader Mark := fun letters s => Mark.read? letters s

/-- The letters of names. -/
def lettersOfNames : Reader Letters := fun letters s => some (letters, s)

/-- The next mark is a given one. -/
def expect (m : Mark) : Reader Unit := do
  if (← next) != m then failure

/-- The end of a declaration. -/
def expectEnd : Reader Unit := expect (.sign '>')

/-- A literal. -/
def literal : Reader (List Char) := do
  match ← next with
  | .literal s => return s
  | _ => failure

/-- A name without a colon. -/
def plainName : Reader (List Char) := do
  match ← next with
  | .name s => return s
  | _ => failure

/-- A name with or without a colon. -/
def anyName : Reader (List Char) := do
  match ← next with
  | .name s => return s
  | .qualified s => return s
  | _ => failure

/-- A character of a public identifier. -/
def isPublicChar (c : Char) : Bool :=
  isLatinLetter c || isDecimal c || c == '\n' || " -\x27()+,./:=?;!*#@$_%".toList.contains c

/-- A literal that is a public identifier. -/
def publicLiteral : Reader Unit := do
  if !(← literal).all isPublicChar then failure

/-! ## Entities -/

/-- The text of an entity from its literal: numbered characters are resolved, other references
stay. -/
def entityText? (letters : Letters) (s : List Char) : Option (List Char) :=
  match s with
  | [] => some []
  | '%' :: _ => none
  | '&' :: r =>
    match h : readReference? letters r with
    | none => none
    | some (reference, rest) =>
      have _hlt := length_readReference?_lt h
      match reference with
      | .char c => (entityText? letters rest).map (c :: ·)
      | .entity name => (entityText? letters rest).map (('&' :: name ++ [';']) ++ ·)
  | c :: r => (entityText? letters r).map (c :: ·)
termination_by s.length
decreasing_by all_goals (simp only [List.length_cons] at *; omega)

/-- The document type with an entity more, unless its name is taken or standard. -/
def declare (d : Doctype) (name : List Char) (rule : EntityRule) : Doctype :=
  if d.passesOver || (standard? name).isSome || (d.entities.lookup name).isSome then d
  else { d with entities := d.entities ++ [(name, rule)] }

/-- The value of an entity after its name. Of a declaration that is passed over only the form
counts. -/
def entityValue (d : Doctype) (text : List Char) : Reader EntityRule := do
  if d.passesOver then return .internal []
  match entityText? (← lettersOfNames) text with
  | some t => return .internal t
  | none => failure

/-- What an entity stands for, and the end of its declaration. -/
def entityRule (d : Doctype) (isGeneral : Bool) : Reader EntityRule := do
  match ← next with
  | .literal text =>
    let rule ← entityValue d text
    expectEnd
    return rule
  | .name kind =>
    if kind = "PUBLIC".toList then publicLiteral
    else if kind != "SYSTEM".toList then failure
    let _ ← literal
    match ← next with
    | .sign '>' => return .external
    | .name word =>
      if !isGeneral || word != "NDATA".toList then failure
      let _ ← plainName
      expectEnd
      return .unparsed
    | _ => failure
  | _ => failure

/-- The declaration of an entity. -/
def entity (d : Doctype) : Reader Doctype := do
  match ← next with
  | .name name => return d.declare name (← entityRule d true)
  | .sign '%' =>
    let _ ← plainName
    let _ ← entityRule d false
    return d
  | _ => failure

/-! ## Attributes -/

/-- The names of the types of attributes. -/
def typeNames : List (List Char) :=
  ["CDATA", "ID", "IDREF", "IDREFS", "ENTITY", "ENTITIES", "NMTOKEN", "NMTOKENS"].map String.toList

/-- A list of alternatives after its first parenthesis. -/
def alternatives (item : Reader Unit) : Nat → Reader Unit
  | 0 => failure
  | fuel + 1 => do
    item
    match ← next with
    | .sign '|' => alternatives item fuel
    | .close none => return ()
    | _ => failure

/-- A word of an enumeration. -/
def enumerated : Reader Unit := do
  match ← next with
  | .name _ => return ()
  | .qualified _ => return ()
  | .word _ => return ()
  | _ => failure

/-- The type of an attribute; the answer says whether its values are plain text. -/
def attributeType (fuel : Nat) : Reader Bool := do
  match ← next with
  | .sign '(' =>
    alternatives enumerated fuel
    return false
  | .name type =>
    if type = "NOTATION".toList then
      expect (.sign '(')
      alternatives (discard plainName) fuel
      return false
    else if typeNames.contains type then return type == "CDATA".toList
    else failure
  | _ => failure

/-- The default of an attribute, as written. -/
def attributeDefault : Reader (Option (List Char)) := do
  match ← next with
  | .literal s => return some s
  | .keyword word =>
    if word = "FIXED".toList then return some (← literal)
    else if word = "IMPLIED".toList || word = "REQUIRED".toList then return none
    else failure
  | _ => failure

/-- The document type with an attribute more, unless its name is taken. -/
def declareAttribute (d : Doctype) (letters : Letters) (element name : List Char) (isPlain : Bool)
    (written : Option (List Char)) : Option Doctype := do
  if d.passesOver then return d
  let default ← written.mapM (d.value? letters isPlain)
  if d.attributes.any fun r => r.element == element && r.name == name then return d
  return { d with attributes := d.attributes ++ [{ element, name, isPlain, default }] }

/-- The attributes of an element after its name. -/
def attributeList (element : List Char) : Nat → Doctype → Reader Doctype
  | 0, _ => failure
  | fuel + 1, d => do
    match ← next with
    | .sign '>' => return d
    | .name name => one fuel d name
    | .qualified name => one fuel d name
    | _ => failure
where
  /-- One attribute after its name, and those that follow it. -/
  one (fuel : Nat) (d : Doctype) (name : List Char) : Reader Doctype := do
    let isPlain ← attributeType fuel
    let written ← attributeDefault
    let letters ← lettersOfNames
    let d ← (d.declareAttribute letters element name isPlain written : Option Doctype)
    attributeList element fuel d

/-! ## Elements and notations -/

/-- The rest of a mixed content model after its keyword. -/
def mixedModel : Nat → Bool → Reader Unit
  | 0, _ => failure
  | fuel + 1, hasNames => do
    match ← next with
    | .close sign => if sign != some '*' && (hasNames || sign.isSome) then failure
    | .sign '|' =>
      let _ ← anyName
      mixedModel fuel true
    | _ => failure

/-- A content model from an item on, or from the end of an item on. Each open group remembers the
sign that connects its items. -/
def elementModel : Nat → Bool → List (Option Char) → Reader Unit
  | 0, _, _ => failure
  | _, false, [] => return ()
  | fuel + 1, true, groups => do
    match ← next with
    | .sign '(' => elementModel fuel true (none :: groups)
    | .name _ => elementModel fuel false groups
    | .qualified _ => elementModel fuel false groups
    | .repeated _ => elementModel fuel false groups
    | _ => failure
  | fuel + 1, false, connector :: groups => do
    match ← next with
    | .close _ => elementModel fuel false groups
    | .sign c =>
      if (c != ',' && c != '|') || connector.any (· != c) then failure
      elementModel fuel true (some c :: groups)
    | _ => failure

/-- The declaration of an element. -/
def element (fuel : Nat) : Reader Unit := do
  let _ ← anyName
  match ← next with
  | .name kind => if kind != "EMPTY".toList && kind != "ANY".toList then failure
  | .sign '(' =>
    match ← next with
    | .keyword word =>
      if word != "PCDATA".toList then failure
      mixedModel fuel false
    | .sign '(' => elementModel fuel true [none, none]
    | .name _ => elementModel fuel false [none]
    | .qualified _ => elementModel fuel false [none]
    | .repeated _ => elementModel fuel false [none]
    | _ => failure
  | _ => failure
  expectEnd

/-- The declaration of a notation. -/
def notationDeclaration : Reader Unit := do
  let _ ← plainName
  let kind ← plainName
  if kind = "SYSTEM".toList then
    let _ ← literal
    expectEnd
  else if kind = "PUBLIC".toList then
    publicLiteral
    match ← next with
    | .literal _ => expectEnd
    | .sign '>' => return ()
    | _ => failure
  else failure

/-! ## The whole type -/

/-- One declaration of a kind. -/
def declaration (fuel : Nat) (d : Doctype) (kind : List Char) : Reader Doctype := do
  if kind = "ENTITY".toList then entity d
  else if kind = "ATTLIST".toList then
    let element ← anyName
    attributeList element fuel d
  else if kind = "ELEMENT".toList then
    element fuel
    return d
  else if kind = "NOTATION".toList then
    notationDeclaration
    return d
  else failure

/-- The declarations up to the closing bracket. -/
def declarations : Nat → Doctype → Reader Doctype
  | 0, _ => failure
  | fuel + 1, d => do
    match ← next with
    | .sign ']' => return d
    | .silent => declarations fuel d
    | .outside =>
      declarations fuel { d with hasOutside := true, passesOver := !d.standsAlone }
    | .declaration kind => declarations fuel (← declaration fuel d kind)
    | _ => failure

/-- The document type after the name of the root and the identifiers. -/
def body (fuel : Nat) (d : Doctype) : Mark → Reader Doctype
  | .sign '>' => return d
  | .sign '[' => do
    let d ← declarations fuel d
    expectEnd
    return d
  | _ => failure

/-- A document type after its keyword. -/
def read (d : Doctype) (fuel : Nat) : Reader Doctype := do
  let _ ← anyName
  match ← next with
  | .name kind =>
    if kind = "PUBLIC".toList then publicLiteral
    else if kind != "SYSTEM".toList then failure
    let _ ← literal
    body fuel { d with hasOutside := true } (← next)
  | m => body fuel d m

end CloudClient.Xml.Doctype
