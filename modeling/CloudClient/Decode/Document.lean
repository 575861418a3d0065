import CloudClient.Number.Integer
import CloudClient.Text.Blank
import CloudClient.Text.Case
import CloudClient.Xml.Document

/-!
# Values in documents

The body of a response is a document whose elements hold texts, numbers and dates. An element that
must be there and is not makes the document unreadable.
-/

namespace CloudClient

/-- Why a document cannot be read. -/
inductive DocumentError where
  | malformed
  /-- An element has no child on a path. -/
  | missing (path tag : String)
  /-- The root is not the expected one. -/
  | unexpectedRoot (expected tag : String)
  | integer (error : IntegerError)
  deriving DecidableEq, Repr

namespace DocumentError

/-- The text of an error. -/
def message : DocumentError → String
  | malformed => "xml syntax error"
  | missing path tag => s!"missing <{path}> in <{tag}>"
  | unexpectedRoot expected tag => s!"expected <{expected}>, got <{tag}>"
  | integer e => e.message

end DocumentError

namespace Document

open Xml

/-- The root of a document. -/
def root (body : Bytes) : Except DocumentError Node :=
  match readDocument? body with
  | some n => .ok n
  | none => .error .malformed

/-- The text of an element, which may be empty. -/
def textOf (n : Node) : String := n.text?.getD ""

/-- The text of the first child of a name. -/
def childText? (n : Node) (tag : String) : Option String := (n.child? tag).map textOf

/-- The text of the first element of a name below an element. -/
def descendantText? (n : Node) (tag : String) : Option String := (n.descendant? tag).map textOf

/-- The text of the first child of a name, or the empty text. -/
def childTextD (n : Node) (tag : String) : String := (childText? n tag).getD ""

/-- The children of a name of the children of another name. -/
def grandchildren (n : Node) (outer inner : String) : List Node :=
  (n.childrenNamed outer).flatMap fun c => c.childrenNamed inner

/-- The text of a child that must be there. -/
def required (n : Node) (tag : String) : Except DocumentError String :=
  match childText? n tag with
  | some t => .ok t
  | none => .error (.missing tag n.tag)

/-- The text of an element below that must be there. -/
def requiredBelow (n : Node) (tag : String) : Except DocumentError String :=
  match descendantText? n tag with
  | some t => .ok t
  | none => .error (.missing (".//" ++ tag) n.tag)

/-- A text that counts only when it is not empty. -/
def nonEmpty? : Option String → Option String
  | none => none
  | some t => if t.isEmpty then none else some t

/-- The number that a child holds; an empty child holds none. -/
def childInt? (n : Node) (tag : String) : Except DocumentError (Option Int) :=
  match nonEmpty? (childText? n tag) with
  | none => .ok none
  | some t =>
    match readInt t with
    | .ok i => .ok (some i)
    | .error e => .error (.integer e)

/-- The truth value that a text holds. -/
def isTrue (t : String) : Bool := Text.lower (Text.trim t.toList) == "true".toList

end Document

end CloudClient
