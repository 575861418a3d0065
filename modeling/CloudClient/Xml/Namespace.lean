import CloudClient.Text.Split
import CloudClient.Xml.Node

/-!
# Namespaces

Attributes bind prefixes to namespaces for an element and all that is inside it. Every prefix that
is used must be bound. The names of elements lose their prefixes; the names of attributes with a
prefix tell the namespace in braces.
-/

namespace CloudClient.Xml

/-- The namespaces of the prefixes that are bound, innermost first; the empty prefix is that of
the default namespace. -/
abbrev Scope := List (String × String)

/-- The namespace that is always bound to its own prefix. -/
def xmlSpace : String := "http://www.w3.org/XML/1998/namespace"

/-- The namespace of the bindings themselves. -/
def bindingSpace : String := "http://www.w3.org/2000/xmlns/"

/-- The bindings outside of all elements. -/
def outerScope : Scope := [("xml", xmlSpace)]

/-- The parts of a name before and after its first colon; a name without one has an empty first
part. -/
def splitName (name : String) : String × String :=
  match Text.cut ':' name.toList with
  | (a, some b) => (String.ofList a, String.ofList b)
  | (_, none) => ("", name)

/-- The prefix that an attribute binds, if it is a binding. -/
def boundPrefix? (name : String) : Option String :=
  if name = "xmlns" then some ""
  else
    match splitName name with
    | ("xmlns", p) => some p
    | _ => none

/-- A binding is allowed: a prefix is not bound to nothing, the two special namespaces keep to
their prefixes, and no namespace has a closing brace. -/
def isBinding (p space : String) : Bool :=
  (p.isEmpty || !space.isEmpty) && p != "xmlns" && (p == "xml") == (space == xmlSpace) &&
    space != bindingSpace && !space.toList.contains '\x7d'

/-- The bindings among attributes, when all of them are allowed. -/
def bindings? (attributes : List (String × String)) : Option Scope :=
  let bound := attributes.filterMap fun (name, v) => (boundPrefix? name).map fun p => (p, v)
  if bound.all fun (p, v) => isBinding p v then some bound else none

/-- The name of an attribute with its namespace. -/
def attributeName? (scope : Scope) (name : String) : Option String :=
  match splitName name with
  | ("", _) => some name
  | (p, base) => (scope.lookup p).map fun space => s!"\x7b{space}\x7d{base}"

/-- The name of an element without its prefix, which must be bound. -/
def localName? (scope : Scope) (name : String) : Option String :=
  match splitName name with
  | ("", _) => some name
  | (p, base) => if (scope.lookup p).isSome then some base else none

/-- No text stands twice. -/
def areDistinct : List String → Bool
  | [] => true
  | s :: rest => !rest.contains s && areDistinct rest

/-- The test for distinct texts decides that none stands twice. -/
theorem areDistinct_iff (l : List String) : areDistinct l = true ↔ l.Nodup := by
  induction l with
  | nil => simp [areDistinct]
  | cons s rest ih => simp [areDistinct, ih]

/-- The attributes of an element that are no bindings, under their full names. No name stands
twice, neither as written nor in full. -/
def attributesIn? (scope : Scope) (attributes : List (String × String)) :
    Option (List (String × String)) :=
  if areDistinct (attributes.map (·.1)) then
    let plain := attributes.filter fun a => (boundPrefix? a.1).isNone
    let named? := plain.mapM fun a => (attributeName? scope a.1).map fun name => (name, a.2)
    named?.filter fun named => areDistinct (named.map (·.1))
  else none

namespace Node

mutual

/-- A node with its names in their namespaces. -/
def resolve? (scope : Scope) : Node → Option Node
  | text s => some (text s)
  | element name attributes content =>
    match bindings? attributes with
    | none => none
    | some bound =>
      let scope := bound ++ scope
      match localName? scope name, attributesIn? scope attributes, resolveAll? scope content with
      | some tag, some attributes, some content => some (element tag attributes content)
      | _, _, _ => none

/-- Nodes with their names in their namespaces. -/
def resolveAll? (scope : Scope) : List Node → Option (List Node)
  | [] => some []
  | n :: rest =>
    match resolve? scope n, resolveAll? scope rest with
    | some n, some rest => some (n :: rest)
    | _, _ => none

end

end Node

end CloudClient.Xml
