import CloudClient.Decode.Document
import CloudClient.Proofs.Xml.Characters

/-!
# Values of fields

A document is asked for the elements of a name, for the text of the first of them, and for numbers
in such texts. Main statements: the answers are those of the fields from which an element is made.
-/

namespace CloudClient

open Xml Document

namespace Xml

/-- The text that a field holds; one with fields inside begins with none. -/
def Field.value : Field → String
  | .text _ s => s
  | .mark _ => ""
  | .group _ _ => ""

/-- No fields are inside a field. -/
def Field.IsLeaf : Field → Prop
  | .text _ _ => True
  | .mark _ => True
  | .group _ _ => False

/-- A field with a text has its name. -/
@[simp] theorem Field.name_text (name s : String) : (Field.text name s).name = name := rfl

/-- A field with fields inside has its name. -/
@[simp] theorem Field.name_group (name : String) (fields : List Field) :
    (Field.group name fields).name = name := rfl

/-- A field with a text has that text. -/
@[simp] theorem Field.value_text (name s : String) : (Field.text name s).value = s := rfl

/-- The element of a field has its name. -/
@[simp] theorem Field.tag_node (f : Field) : f.node.tag = f.name := by
  cases f <;> rfl

/-- A field is an element. -/
@[simp] theorem Field.isElement_node (f : Field) : f.node.isElement = true := by
  cases f <;> rfl

/-- The elements of fields, one for each. -/
theorem Field.nodes_eq_map (fields : List Field) : Field.nodes fields = fields.map Field.node := by
  induction fields with
  | nil => rfl
  | cons f rest ih => rw [Field.nodes, ih, List.map_cons]

/-! ## Fields of a name -/

/-- The fields of a name, in order. -/
def Field.named (name : String) (fields : List Field) : List Field :=
  fields.filter fun f => f.name == name

/-- Among no fields there is none of a name. -/
@[simp] theorem Field.named_nil (name : String) : Field.named name [] = [] := rfl

/-- The first field is taken when it has the name. -/
@[simp] theorem Field.named_cons (name : String) (f : Field) (rest : List Field) :
    Field.named name (f :: rest) =
      if f.name = name then f :: Field.named name rest else Field.named name rest := by
  simp [Field.named, List.filter_cons]

/-- The fields of a name are taken part by part. -/
@[simp] theorem Field.named_append (name : String) (l r : List Field) :
    Field.named name (l ++ r) = Field.named name l ++ Field.named name r :=
  List.filter_append l r

/-- Fields with other names are left out. -/
theorem Field.named_eq_nil {name : String} {fields : List Field} (h : ∀ f ∈ fields, f.name ≠ name) :
    Field.named name fields = [] := by
  rw [Field.named, List.filter_eq_nil_iff]
  intro f hf
  rw [beq_iff_eq]
  exact h f hf

/-- Fields that are made alike are taken together. -/
theorem Field.named_map {α : Type} (make : α → Field) {own : String}
    (hown : ∀ a, (make a).name = own) (name : String) (l : List α) :
    Field.named name (l.map make) = if own = name then l.map make else [] := by
  induction l with
  | nil => simp
  | cons a l ih =>
    rw [List.map_cons, Field.named_cons, hown, ih]
    split <;> rfl

/-- A field that may be missing is taken when it is there. -/
theorem Field.named_toList {α : Type} (make : α → Field) {own : String}
    (hown : ∀ a, (make a).name = own) (name : String) (value : Option α) :
    Field.named name (value.map make).toList =
      if own = name then (value.map make).toList else [] := by
  cases value with
  | none => simp
  | some a => exact Field.named_map make hown name [a]

/-- The fields of a name are read one by one. -/
theorem Field.named_allUnified (name : String) (fields : List Field) :
    Field.named name (Field.allUnified fields) = (Field.named name fields).map Field.unified := by
  rw [Field.allUnified_eq_map, Field.named, Field.named, List.filter_map]
  simp [Function.comp_def]

/-- The text of a field is read with unified line ends. -/
theorem Field.value_unified (f : Field) : f.unified.value = unifyText f.value := by
  cases f <;> rfl

/-- A field keeps what is inside it. -/
theorem Field.isLeaf_unified {f : Field} (h : f.IsLeaf) : f.unified.IsLeaf := by
  cases f with
  | text name s => trivial
  | mark name => trivial
  | group name fields => exact h

variable {tag : String} {attributes : List (String × String)} {fields : List Field}

/-- The children of a name are the elements of the fields of that name. -/
theorem childrenNamed_nodes (name : String) :
    (Node.element tag attributes (Field.nodes fields)).childrenNamed name =
      (Field.named name fields).map Field.node := by
  rw [Node.childrenNamed, Node.children, Node.content, Field.nodes_eq_map, List.filter_map,
    List.filter_map, List.filter_filter]
  simp [Field.named]

/-- The first child of a name is the element of the first field of that name. -/
theorem child?_nodes (name : String) :
    (Node.element tag attributes (Field.nodes fields)).child? name =
      (Field.named name fields).head?.map Field.node := by
  rw [Node.child?, childrenNamed_nodes, List.head?_map]

/-! ## Fields below an element -/

/-- The elements within some content are those within its parts. -/
theorem withinAll_append (l r : List Node) :
    Node.withinAll (l ++ r) = Node.withinAll l ++ Node.withinAll r := by
  induction l with
  | nil => rfl
  | cons n l ih => rw [List.cons_append, Node.withinAll, Node.withinAll, ih, List.append_assoc]

mutual

/-- A field and all fields inside it, in the order of their start tags. -/
def Field.within : Field → List Field
  | .text name s => [.text name s]
  | .mark name => [.mark name]
  | .group name fields => .group name fields :: Field.allWithin fields

/-- Fields and all fields inside them, in the order of their start tags. -/
def Field.allWithin : List Field → List Field
  | [] => []
  | f :: rest => f.within ++ Field.allWithin rest

end

/-- The fields within fields are those within their parts. -/
theorem Field.allWithin_append (l r : List Field) :
    Field.allWithin (l ++ r) = Field.allWithin l ++ Field.allWithin r := by
  induction l with
  | nil => rfl
  | cons f l ih => rw [List.cons_append, Field.allWithin, Field.allWithin, ih, List.append_assoc]

/-- Of fields that are made alike, those of a name are found one after the other. -/
theorem Field.named_allWithin_map {α : Type} (make : α → Field) (name : String) (l : List α) :
    Field.named name (Field.allWithin (l.map make)) =
      l.flatMap fun a => Field.named name (make a).within := by
  induction l with
  | nil => rfl
  | cons a l ih =>
    rw [List.map_cons, Field.allWithin, Field.named_append, ih, List.flatMap_cons]

/-- Fields that have a name are all the fields of that name, when nothing inside them has it. -/
theorem Field.named_allWithin_map_eq {α : Type} {make : α → Field} {name : String} {l : List α}
    (h : ∀ a ∈ l, Field.named name (make a).within = [make a]) :
    Field.named name (Field.allWithin (l.map make)) = l.map make := by
  induction l with
  | nil => rfl
  | cons a l ih =>
    rw [List.map_cons, Field.allWithin, Field.named_append, h a List.mem_cons_self,
      ih fun b hb => h b (List.mem_cons_of_mem a hb), List.singleton_append]

mutual

/-- The elements within the element of a field are those of the fields within it. -/
theorem within_node : ∀ f : Field, f.node.within = f.within.map Field.node
  | .text name s => by
    have hcontent : Node.withinAll (textContent s) = [] := by
      unfold textContent
      split <;> rfl
    rw [Field.node, Node.within, hcontent, Field.within, List.map_singleton, Field.node]
  | .mark _ => rfl
  | .group name fields => by
    rw [Field.node, Node.within, withinAll_fields fields, Field.within, List.map_cons, Field.node]

/-- The same of several fields. -/
theorem withinAll_fields : ∀ fields : List Field,
    Node.withinAll (Field.nodes fields) = (Field.allWithin fields).map Field.node
  | [] => rfl
  | f :: rest => by
    rw [Field.nodes, Node.withinAll, within_node f, withinAll_fields rest, Field.allWithin,
      List.map_append]

end

/-- The elements of a name within the element of a field are those of the fields of that name. -/
theorem allNamed_node (f : Field) (name : String) :
    f.node.allNamed name = (Field.named name f.within).map Field.node := by
  rw [Node.allNamed, within_node, List.filter_map, Field.named]
  simp [Function.comp_def]

/-- Fields without fields inside are all that is within them. -/
theorem withinAll_nodes {fields : List Field} (h : ∀ f ∈ fields, f.IsLeaf) :
    Node.withinAll (Field.nodes fields) = fields.map Field.node := by
  have hleaf : Field.allWithin fields = fields := by
    induction fields with
    | nil => rfl
    | cons f rest ih =>
      have hown : f.within = [f] := by
        cases f with
        | text name s => rfl
        | mark name => rfl
        | group name fields => exact absurd (h _ List.mem_cons_self) id
      rw [Field.allWithin, hown, ih fun g hg => h g (List.mem_cons_of_mem f hg),
        List.singleton_append]
  rw [withinAll_fields, hleaf]

end Xml

namespace Document

/-- A text that is not empty counts. -/
theorem nonEmpty?_some {s : String} (h : s ≠ "") : nonEmpty? (some s) = some s := by
  rw [nonEmpty?, if_neg]
  rwa [String.isEmpty_iff]

/-- A text that is missing rather than empty counts where it is there. -/
theorem nonEmpty?_of_ne {value : Option String} (h : ∀ s ∈ value, s ≠ "") :
    nonEmpty? value = value := by
  cases value with
  | none => rfl
  | some s => exact nonEmpty?_some (h s rfl)

/-- An element holds the text of its field. -/
theorem textOf_node (f : Field) : textOf f.node = f.value := by
  cases f with
  | text name s =>
    by_cases hs : s = ""
    · rw [hs]
      rfl
    · simp [textOf, Field.node, Node.text?, Node.content, textContent, Node.headText, Node.some?,
        hs, Field.value]
  | mark name => rfl
  | group name fields =>
    cases fields with
    | nil => rfl
    | cons f rest => cases f <;> rfl

variable {tag : String} {attributes : List (String × String)} {fields : List Field}

/-- The text of the first child of a name is that of the first field of that name. -/
theorem childText?_nodes (name : String) :
    childText? (.element tag attributes (Field.nodes fields)) name =
      (Field.named name fields).head?.map Field.value := by
  rw [childText?, child?_nodes, Option.map_map]
  exact congrArg (Option.map · _) (funext textOf_node)

/-- The first element of a name below an element is that of the first field of that name, when the
elements below it are those of some fields. -/
theorem descendant?_of_within {n : Node} (h : Node.withinAll n.content = fields.map Field.node)
    (name : String) :
    n.descendant? name = (Field.named name fields).head?.map Field.node := by
  rw [Node.descendant?, h, List.find?_map, Field.named, List.head?_filter]
  have htag : (fun e : Node => e.tag == name) ∘ Field.node = fun f => f.name == name := by
    funext f
    rw [Function.comp_apply, Field.tag_node]
  rw [htag]

/-- The same of its text. -/
theorem descendantText?_of_within {n : Node}
    (h : Node.withinAll n.content = fields.map Field.node) (name : String) :
    descendantText? n name = (Field.named name fields).head?.map Field.value := by
  rw [descendantText?, descendant?_of_within h, Option.map_map]
  exact congrArg (Option.map · _) (funext textOf_node)

end Document

end CloudClient
