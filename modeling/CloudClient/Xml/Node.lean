/-!
# Trees of elements

A document is a tree of elements with texts between them. Besides the tree itself this module
holds what is asked of it: the text at the head of an element, the text after an element, and the
elements of a name among the children or anywhere below.
-/

namespace CloudClient.Xml

/-- A text, or an element with its attributes and its content. -/
inductive Node where
  | text (s : String)
  | element (tag : String) (attributes : List (String × String)) (content : List Node)
  deriving Repr, Inhabited

namespace Node

/-- The name of an element; a text has none. -/
def tag : Node → String
  | text _ => ""
  | element tag _ _ => tag

/-- The attributes of an element. -/
def attributes : Node → List (String × String)
  | text _ => []
  | element _ attributes _ => attributes

/-- What stands between the tags of an element. -/
def content : Node → List Node
  | text _ => []
  | element _ _ content => content

/-- The node is an element. -/
def isElement : Node → Bool
  | text _ => false
  | element _ _ _ => true

/-- The characters at the head of some content, up to the first element. -/
def headText : List Node → String
  | text s :: rest => s ++ headText rest
  | _ => ""

/-- A text when it has characters. -/
def some? (s : String) : Option String := if s.isEmpty then none else some s

/-- The text of an element, which ends at its first child. -/
def text? (n : Node) : Option String := some? (headText n.content)

/-- The elements of some content, each with the text after it. -/
def withTails : List Node → List (Node × Option String)
  | [] => []
  | text _ :: rest => withTails rest
  | n :: rest => (n, some? (headText rest)) :: withTails rest

/-- The elements directly inside an element. -/
def children (n : Node) : List Node := n.content.filter isElement

/-- The children of a name. -/
def childrenNamed (n : Node) (tag : String) : List Node :=
  n.children.filter fun c => c.tag == tag

/-- The first child of a name. -/
def child? (n : Node) (tag : String) : Option Node := (n.childrenNamed tag).head?

mutual

/-- A node and all elements below it, in the order of their start tags. -/
def within : Node → List Node
  | text _ => []
  | element tag attributes content => element tag attributes content :: withinAll content

/-- All elements in some content, in the order of their start tags. -/
def withinAll : List Node → List Node
  | [] => []
  | n :: rest => within n ++ withinAll rest

end

/-- The elements of a name, the node itself among them. -/
def allNamed (n : Node) (tag : String) : List Node := n.within.filter fun e => e.tag == tag

/-- The first element of a name below a node, the node itself excluded. -/
def descendant? (n : Node) (tag : String) : Option Node :=
  (withinAll n.content).find? fun e => e.tag == tag

end Node

end CloudClient.Xml
