import CloudClient.Xml.Doctype.Reader
import CloudClient.Xml.Namespace

/-!
# Documents

A document is a declaration, a document type, and one element; comments, processing instructions
and blanks may stand around them. Reading a document answers its element.
-/

namespace CloudClient.Xml

/-- The document type, if there is one, and the rest of a document from its first tag on. `fuel`
bounds the number of parts before it. -/
def readProlog? (letters : Letters) :
    Nat → Bool → Doctype → List Char → Option (Doctype × List Char)
  | 0, _, _, _ => none
  | fuel + 1, hasType, d, s =>
    match skipSpace s with
    | '<' :: '!' :: '-' :: '-' :: r => (skipComment? r).bind (readProlog? letters fuel hasType d)
    | '<' :: '!' :: r =>
      let keyword := "DOCTYPE".toList
      if hasType || !keyword.isPrefixOf r || !startsWithSpace (r.drop keyword.length) then none
      else
        (d.read r.length letters (r.drop keyword.length)).bind fun (d, r) =>
          readProlog? letters fuel true d r
    | '<' :: '?' :: r => (skipInstruction? letters r).bind (readProlog? letters fuel hasType d)
    | '<' :: r => some (d, '<' :: r)
    | _ => none

/-- The node is a text of blanks. -/
def isBlankText : Node → Bool
  | .text s => s.toList.all isSpace
  | _ => false

/-- The only element among nodes, when all else is blank. -/
def onlyElement? (nodes : List Node) : Option Node :=
  match nodes.filter fun n => !isBlankText n with
  | [n] => if n.isElement then some n else none
  | _ => none

/-- The element of a document, in characters. -/
def Source.root? (s : Source) : Option Node := do
  let outer : Doctype := { standsAlone := s.declaration.standalone }
  let (type, rest) ← readProlog? s.letters (s.text.length + 1) false outer s.text
  if type.isTooLarge s.letters rest then failure
  let nodes ← nest (type.meaning s.letters) (← tokens? s.letters rest) {} []
  (← onlyElement? nodes).resolve? outerScope

/-- The element of a document, in bytes. -/
def readDocument? (s : Bytes) : Option Node := (readSource? s).bind Source.root?

end CloudClient.Xml
