import CloudClient.Xml.Nesting

/-!
# Entities and declared attributes

A document type declares entities, which stand for text, and attributes, which get defaults and
are tidied by their type. The first declaration of a name counts. An entity may refer to others
but not, by any way, to itself.
-/

namespace CloudClient.Xml

/-- What an entity stands for. -/
inductive EntityRule where
  /-- A text in the document itself. -/
  | internal (text : List Char)
  /-- A text elsewhere, which is never fetched. -/
  | external
  /-- Something that is no text. -/
  | unparsed
  deriving DecidableEq, Repr, Inhabited

/-- What is declared of an attribute. -/
structure AttributeRule where
  element : List Char
  name : List Char
  /-- The value is plain text; of any other type, only single inner spaces are kept. -/
  isPlain : Bool
  default : Option (List Char)
  deriving DecidableEq, Repr, Inhabited

/-- The declarations of a document type. -/
structure Doctype where
  entities : List (List Char × EntityRule) := []
  attributes : List AttributeRule := []
  /-- Some declarations stand elsewhere and are not known. -/
  hasOutside : Bool := false
  /-- The document says that it needs no declarations from elsewhere. -/
  standsAlone : Bool := false
  /-- Declarations that follow are passed over. -/
  passesOver : Bool := false
  deriving DecidableEq, Repr, Inhabited

namespace Doctype

/-! ## Values of attributes -/

/-- The value of an attribute as it is meant: references are resolved and blanks become spaces. -/
def expandValue (letters : Letters) (entity? : List Char → Option (List Char)) (s : List Char) :
    Option (List Char) :=
  match s with
  | [] => some []
  | '<' :: _ => none
  | '&' :: r =>
    match h : readReference? letters r with
    | none => none
    | some (reference, rest) =>
      have _hlt := length_readReference?_lt h
      match reference with
      | .char c => (expandValue letters entity? rest).map (c :: ·)
      | .entity name =>
        match standard? name with
        | some c => (expandValue letters entity? rest).map (c :: ·)
        | none =>
          match entity? name with
          | none => none
          | some t => (expandValue letters entity? rest).map (t ++ ·)
  | c :: r => (expandValue letters entity? r).map ((if isSpace c then ' ' else c) :: ·)
termination_by s.length
decreasing_by all_goals (simp only [List.length_cons] at *; omega)

/-- The text of an entity inside a value, with at most `depth` entities inside one another. An
entity that is not declared is dropped when declarations from elsewhere may hold it. The text of
an entity has lost the encoding of the document, so its names have the listed letters. -/
def valueOf? (d : Doctype) : Nat → List Char → Option (List Char)
  | 0, _ => none
  | depth + 1, name =>
    match d.entities.lookup name with
    | some (.internal text) => expandValue .listed (d.valueOf? depth) text
    | some _ => none
    | none => if d.hasOutside && !d.standsAlone then some [] else none

/-- More entities than can stand inside one another without a cycle. -/
def depthBound (d : Doctype) : Nat := d.entities.length + 2

/-- Single spaces between the words of a value, and none at its ends. -/
def tidy (s : List Char) : List Char :=
  let words := (s.splitBy fun a b => a != ' ' && b != ' ').filter fun w => w.all (· != ' ')
  (words.intersperse [' ']).flatten

/-- The value of an attribute of a type. -/
def value? (d : Doctype) (letters : Letters) (isPlain : Bool) (written : List Char) :
    Option (List Char) :=
  (expandValue letters (d.valueOf? d.depthBound) written).map fun s =>
    if isPlain then s else tidy s

/-- The rules for the attributes of an element. -/
def rulesOf (d : Doctype) (element : List Char) : List AttributeRule :=
  d.attributes.filter fun r => r.element == element

/-- The attributes of an element: those that are written, and the defaults of those that are
not. -/
def attributes? (d : Doctype) (letters : Letters) (element : List Char)
    (written : List (List Char × List Char)) : Option (List (String × String)) := do
  let rules := d.rulesOf element
  let isPlain (name : List Char) : Bool :=
    ((rules.find? (·.name == name)).map (·.isPlain)).getD true
  let given ← written.mapM fun (name, value) => do
    return (String.ofList name, String.ofList (← d.value? letters (isPlain name) value))
  let missing := rules.filter fun r => !written.any fun w => w.1 == r.name
  let defaults := missing.filterMap fun r =>
    r.default.map fun v => (String.ofList r.name, String.ofList v)
  return given ++ defaults

/-! ## Content of entities -/

/-- The content that an entity stands for, with at most `depth` entities inside one another. Its
names have the listed letters. -/
def contentOf? (d : Doctype) : Nat → List Char → Option (List Node)
  | 0, _ => none
  | depth + 1, name =>
    match d.entities.lookup name with
    | some (.internal text) =>
      (tokens? .listed text).bind fun ts =>
        nest ⟨d.attributes? .listed, d.contentOf? depth, true⟩ ts {} []
    | _ => none

/-- What the tokens of a document of this type mean. -/
def meaning (d : Doctype) (letters : Letters) : Meaning :=
  ⟨d.attributes? letters, d.contentOf? d.depthBound, false⟩

/-! ## Size -/

/-- The names that are referred to in a text. -/
def namesIn (letters : Letters) : List Char → List (List Char)
  | [] => []
  | '&' :: r =>
    match readReference? letters r with
    | some (.entity name, _) => name :: namesIn letters r
    | _ => namesIn letters r
  | _ :: r => namesIn letters r

/-- The size of a text with its entities, by a table of the sizes of entities. -/
def sizeBy (letters : Letters) (sizes : List (List Char × Nat)) (text : List Char) : Nat :=
  (namesIn letters text).foldl (fun size name => size + (sizes.lookup name).getD 0) text.length

/-- The sizes of entities, with at most so many entities inside one another. -/
def sizes (d : Doctype) : Nat → List (List Char × Nat)
  | 0 => []
  | depth + 1 =>
    let inner := d.sizes depth
    d.entities.map fun (name, rule) =>
      (name, match rule with | .internal text => sizeBy .listed inner text | _ => 0)

/-- A document whose entities make it more than a hundred times as large as it is written, and
larger than 8 MiB, is refused. -/
def isTooLarge (d : Doctype) (letters : Letters) (document : List Char) : Bool :=
  let size := sizeBy letters (d.sizes d.depthBound) document
  8388608 < size && 100 * (document.length + 1) < size

end Doctype

end CloudClient.Xml
