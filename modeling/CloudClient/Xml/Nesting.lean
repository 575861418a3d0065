import CloudClient.Xml.Node
import CloudClient.Xml.Token

/-!
# Nesting

Tokens become nodes when every end tag closes the element that was opened last. The values of
attributes, and the content that an entity stands for, are given as functions.
-/

namespace CloudClient.Xml

/-- Content that is being read, last first: whole nodes, and the characters after them. -/
structure Partial where
  nodes : List Node := []
  chars : List Char := []
  deriving Inhabited

namespace Partial

/-- The nodes so far, last first, with the pending characters as a text. -/
def flush (p : Partial) : List Node :=
  if p.chars.isEmpty then p.nodes else .text (String.ofList p.chars.reverse) :: p.nodes

/-- The content so far. -/
def nodesInOrder (p : Partial) : List Node := p.flush.reverse

/-- The content with more characters. -/
def addChars (p : Partial) (cs : List Char) : Partial :=
  { p with chars := cs.reverse ++ p.chars }

/-- The content with more nodes. -/
def addNodes (p : Partial) (ns : List Node) : Partial := ⟨ns.reverse ++ p.flush, []⟩

end Partial

/-- An element whose end tag is still to come, and the content before it. -/
structure Open where
  name : List Char
  attributes : List (String × String)
  before : Partial
  deriving Inhabited

/-- What the tokens of a document need to be understood. -/
structure Meaning where
  /-- The attributes of an element, from those that are written. -/
  attributes? : List Char → List (List Char × List Char) → Option (List (String × String))
  /-- The content that an entity stands for. -/
  entity? : List Char → Option (List Node)
  /-- Data and entities may stand outside all elements. -/
  allowsOuterData : Bool

/-- Builds the nodes of tokens, within elements that are open. -/
def nest (m : Meaning) : List Token → Partial → List Open → Option (List Node)
  | [], p, [] => some p.nodesInOrder
  | [], _, _ :: _ => none
  | t :: ts, p, opened =>
    match t with
    | .char c => nest m ts (p.addChars [c]) opened
    | .data cs =>
      if opened.isEmpty && !m.allowsOuterData then none else nest m ts (p.addChars cs) opened
    | .entity name =>
      if opened.isEmpty && !m.allowsOuterData then none
      else
        match m.entity? name with
        | none => none
        | some nodes => nest m ts (p.addNodes nodes) opened
    | .start name written isEmpty =>
      match m.attributes? name written with
      | none => none
      | some attributes =>
        if isEmpty then
          nest m ts (p.addNodes [.element (String.ofList name) attributes []]) opened
        else nest m ts {} (⟨name, attributes, p⟩ :: opened)
    | .finish name =>
      match opened with
      | [] => none
      | o :: opened =>
        if o.name = name then
          nest m ts
            (o.before.addNodes [.element (String.ofList name) o.attributes p.nodesInOrder]) opened
        else none
    | .silent => nest m ts p opened

end CloudClient.Xml
