import CloudClient.Xml.Document

/-!
# Names of elements

A document is read as its element, whose names are then put into their namespaces. Main statement:
before that every element of a document, those that its entities stand for among them, has a name
that begins as names do; in particular neither a colon nor a brace stands in front of it.
-/

namespace CloudClient.Xml

variable {letters : Letters} {s r : List Char}

/-! ## Names that are read -/

/-- A text begins as the names of a document do. -/
def BeginsName (name : List Char) : Prop := ∃ c r, name = c :: r ∧ isNameStart .withSigns c = true

/-- The listed letters are letters where signs count as well. -/
theorem isNameStart_withSigns {c : Char} (h : isNameStart letters c = true) :
    isNameStart .withSigns c = true := by
  unfold isNameStart at h ⊢
  split
  · rwa [if_pos ‹_›] at h
  · rw [if_neg ‹_›, isWideLetter, Bool.or_eq_true] at h
    rw [isWideLetter, Bool.or_eq_true]
    refine h.imp_right fun hsign => ?_
    rw [Bool.and_eq_true] at hsign ⊢
    exact ⟨rfl, hsign.2⟩

/-- A name begins as names do. -/
theorem beginsName_of_readName? {name : List Char} (h : readName? letters s = some (name, r)) :
    BeginsName name := by
  unfold readName? at h
  split at h
  · split at h
    · rename_i hstart
      cases h
      exact ⟨_, _, rfl, isNameStart_withSigns hstart⟩
    · cases h
  · cases h

/-- A qualified name begins with its prefix. -/
theorem beginsName_of_readQualified? {name : List Char}
    (h : readQualified? letters s = some (name, r)) : BeginsName name := by
  obtain ⟨⟨a, ra⟩, ha, h⟩ := Option.bind_eq_some_iff.1 h
  obtain ⟨c, t, rfl, hc⟩ := beginsName_of_readName? ha
  dsimp only at h
  split at h
  · obtain ⟨⟨b, rb⟩, -, h⟩ := Option.bind_eq_some_iff.1 h
    cases h
    exact ⟨c, _, rfl, hc⟩
  · cases h
    exact ⟨c, t, rfl, hc⟩

/-! ## Tokens -/

/-- The name in a tag begins as names do. -/
def Token.IsNamed : Token → Prop
  | .start name _ _ | .finish name => BeginsName name
  | .char _ | .data _ | .entity _ | .silent => True

/-- A tag is read with a name. -/
theorem isNamed_of_readTag? {t : Token} (h : readTag? letters s = some (t, r)) : t.IsNamed := by
  unfold readTag? at h
  split at h
  · cases h
  · rename_i hname
    obtain ⟨_, -, h⟩ := Option.map_eq_some_iff.1 h
    cases h
    exact beginsName_of_readQualified? hname

/-- An end tag is read with a name. -/
theorem isNamed_of_readEndTag? {t : Token} (h : readEndTag? letters s = some (t, r)) :
    t.IsNamed := by
  unfold readEndTag? at h
  split at h
  · cases h
  · rename_i hname
    split at h
    · cases h
      exact beginsName_of_readQualified? hname
    · cases h

/-- Markup is read with a name when it is a tag. -/
theorem isNamed_of_readMarkup? {t : Token} (h : readMarkup? letters s = some (t, r)) :
    t.IsNamed := by
  unfold readMarkup? at h
  split at h
  · exact isNamed_of_readEndTag? h
  · obtain ⟨_, -, h⟩ := Option.map_eq_some_iff.1 h
    cases h
    trivial
  · obtain ⟨_, -, h⟩ := Option.map_eq_some_iff.1 h
    cases h
    trivial
  · obtain ⟨_, -, h⟩ := Option.map_eq_some_iff.1 h
    cases h
    trivial
  · exact isNamed_of_readTag? h

/-- A reference is no tag. -/
theorem isNamed_ofReference (reference : Reference) : (ofReference reference).IsNamed := by
  unfold ofReference
  repeat' split
  all_goals trivial

/-- A token is read with a name when it is a tag. -/
theorem isNamed_of_readToken? {t : Token} (h : readToken? letters s = some (t, r)) :
    t.IsNamed := by
  unfold readToken? at h
  split at h
  · exact isNamed_of_readMarkup? h
  · obtain ⟨_, -, h⟩ := Option.map_eq_some_iff.1 h
    cases h
    exact isNamed_ofReference _
  · cases h
  · cases h
    trivial
  · cases h

/-- All tags of some content have names. -/
theorem isNamed_of_tokens? {ts : List Token} (h : tokens? letters s = some ts) :
    ∀ t ∈ ts, t.IsNamed := by
  induction hn : s.length using Nat.strongRecOn generalizing s ts with
  | ind n ih =>
    subst hn
    rw [tokens?] at h
    split at h
    · cases h
      exact fun t ht => absurd ht List.not_mem_nil
    · split at h
      · cases h
      · rename_i hread
        obtain ⟨rest, hrest, h⟩ := Option.map_eq_some_iff.1 h
        cases h
        intro t ht
        rcases List.mem_cons.1 ht with rfl | ht
        · exact isNamed_of_readToken? hread
        · exact ih _ (length_readToken?_lt hread) hrest rfl t ht

/-! ## Elements -/

namespace Node

mutual

/-- An element and all below it have names that begin as names do. -/
def IsNamed : Node → Prop
  | text _ => True
  | element name _ content => BeginsName name.toList ∧ AllNamed content

/-- All elements in some content have such names. -/
def AllNamed : List Node → Prop
  | [] => True
  | n :: rest => n.IsNamed ∧ AllNamed rest

end

/-- Content has names when each node in it does. -/
theorem allNamed_iff {l : List Node} : AllNamed l ↔ ∀ n ∈ l, n.IsNamed := by
  induction l with
  | nil => exact ⟨fun _ => List.forall_mem_nil _, fun _ => trivial⟩
  | cons n rest ih =>
    rw [AllNamed, ih, List.forall_mem_cons]

end Node

namespace Partial

/-- The nodes of content that is being read have names. -/
def IsNamed (p : Partial) : Prop := ∀ n ∈ p.nodes, n.IsNamed

/-- Content that is empty so far has names. -/
theorem isNamed_empty : IsNamed {} := List.forall_mem_nil _

variable {p : Partial}

/-- Pending characters become a text, which has no name to tell. -/
theorem IsNamed.flush (h : p.IsNamed) : ∀ n ∈ p.flush, n.IsNamed := by
  intro n hn
  unfold Partial.flush at hn
  split at hn
  · exact h n hn
  · rcases List.mem_cons.1 hn with rfl | hn
    · trivial
    · exact h n hn

/-- The nodes in their order are the same. -/
theorem IsNamed.nodesInOrder (h : p.IsNamed) : ∀ n ∈ p.nodesInOrder, n.IsNamed := by
  intro n hn
  exact h.flush n (List.mem_reverse.1 hn)

/-- Nodes with names can be added. -/
theorem IsNamed.addNodes (h : p.IsNamed) {nodes : List Node} (hnodes : ∀ n ∈ nodes, n.IsNamed) :
    (p.addNodes nodes).IsNamed := by
  intro n hn
  rcases List.mem_append.1 hn with hn | hn
  · exact hnodes n (List.mem_reverse.1 hn)
  · exact h.flush n hn

/-- An element with a name can be added when its content has names. -/
theorem IsNamed.addElement (h : p.IsNamed) {name : List Char} (hname : BeginsName name)
    (attributes : List (String × String)) {content : List Node}
    (hcontent : ∀ n ∈ content, n.IsNamed) :
    (p.addNodes [.element (String.ofList name) attributes content]).IsNamed := by
  refine h.addNodes fun n hn => ?_
  obtain rfl := List.mem_singleton.1 hn
  rw [Node.IsNamed, String.toList_ofList]
  exact ⟨hname, Node.allNamed_iff.2 hcontent⟩

end Partial

/-- **What tags with names are nested to has names**, when what entities stand for has. -/
theorem isNamed_of_nest {m : Meaning}
    (hm : ∀ {name nodes}, m.entity? name = some nodes → ∀ n ∈ nodes, n.IsNamed) {ts : List Token}
    (hts : ∀ t ∈ ts, t.IsNamed) {p : Partial} {opened : List Open} (hp : p.IsNamed)
    (hopened : ∀ o ∈ opened, o.before.IsNamed) {nodes : List Node}
    (h : nest m ts p opened = some nodes) : ∀ n ∈ nodes, n.IsNamed := by
  induction ts generalizing p opened with
  | nil =>
    cases opened with
    | nil =>
      cases h
      exact hp.nodesInOrder
    | cons o opened => cases h
  | cons t ts ih =>
    have ht := hts t List.mem_cons_self
    have hrest : ∀ t ∈ ts, t.IsNamed := fun t ht => hts t (List.mem_cons_of_mem _ ht)
    rw [nest.eq_def] at h
    cases t with
    | char c => exact ih hrest (p := p.addChars [c]) hp hopened h
    | silent => exact ih hrest hp hopened h
    | data cs =>
      dsimp only at h
      split at h
      · cases h
      · exact ih hrest (p := p.addChars cs) hp hopened h
    | entity name =>
      dsimp only at h
      split at h
      · cases h
      · split at h
        · cases h
        · rename_i hentity
          exact ih hrest (hp.addNodes (hm hentity)) hopened h
    | start name written isEmpty =>
      dsimp only at h
      split at h
      · cases h
      · split at h
        · exact ih hrest (hp.addElement ht _ (List.forall_mem_nil _)) hopened h
        · -- the content so far waits until the element that begins here is finished
          exact ih hrest Partial.isNamed_empty (List.forall_mem_cons.2 ⟨hp, hopened⟩) h
    | finish name =>
      cases opened with
      | nil => cases h
      | cons o opened =>
        obtain ⟨hbefore, hopened⟩ := List.forall_mem_cons.1 hopened
        dsimp only at h
        split at h
        · exact ih hrest (hbefore.addElement ht _ hp.nodesInOrder) hopened h
        · cases h

/-- What an entity stands for has names. -/
theorem isNamed_of_contentOf? {d : Doctype} {depth : Nat} {name : List Char} {nodes : List Node}
    (h : d.contentOf? depth name = some nodes) : ∀ n ∈ nodes, n.IsNamed := by
  induction depth generalizing name nodes with
  | zero => cases h
  | succ depth ih =>
    rw [Doctype.contentOf?] at h
    split at h
    · obtain ⟨ts, hts, h⟩ := Option.bind_eq_some_iff.1 h
      exact isNamed_of_nest ih (isNamed_of_tokens? hts) Partial.isNamed_empty
        (List.forall_mem_nil _) h
    · cases h

/-! ## Documents -/

/-- The element of a document as it is written, in characters. -/
def Source.element? (s : Source) : Option Node := do
  let outer : Doctype := { standsAlone := s.declaration.standalone }
  let (type, rest) ← readProlog? s.letters (s.text.length + 1) false outer s.text
  if type.isTooLarge s.letters rest then failure
  let nodes ← nest (type.meaning s.letters) (← tokens? s.letters rest) {} []
  onlyElement? nodes

/-- The element of a document as it is written, in bytes. -/
def element? (s : Bytes) : Option Node := (readSource? s).bind Source.element?

/-- The element of a document is read as it is written, and its names are then put into their
namespaces. -/
theorem readDocument?_eq (s : Bytes) :
    readDocument? s = (element? s).bind (Node.resolve? outerScope) := by
  have hroot : Source.root? = fun s => s.element?.bind (Node.resolve? outerScope) := by
    funext s
    simp only [Source.root?, Source.element?, Option.bind_eq_bind, Option.bind_assoc]
    refine congrArg (Option.bind _) (funext fun d => ?_)
    split
    · rfl
    · simp only [Option.bind_assoc]
  rw [readDocument?, element?, hroot, Option.bind_assoc]

/-- A document that has an element is not empty. -/
theorem isEmpty_of_element? {s : Bytes} {e : Node} (h : element? s = some e) :
    s.isEmpty = false := by
  cases s with
  | nil =>
    have hnone : element? [] = none := by cbv
    rw [hnone] at h
    cases h
  | cons b s => rfl

/-- **The elements of a document have names.** -/
theorem isNamed_of_element? {s : Bytes} {e : Node} (h : element? s = some e) : e.IsNamed := by
  obtain ⟨source, -, h⟩ := Option.bind_eq_some_iff.1 h
  obtain ⟨⟨type, rest⟩, -, h⟩ := Option.bind_eq_some_iff.1 h
  dsimp only at h
  split at h
  · cases h
  obtain ⟨ts, hts, h⟩ := Option.bind_eq_some_iff.1 h
  obtain ⟨nodes, hnodes, h⟩ := Option.bind_eq_some_iff.1 h
  have hnamed : ∀ n ∈ nodes, n.IsNamed :=
    isNamed_of_nest isNamed_of_contentOf? (isNamed_of_tokens? hts) Partial.isNamed_empty
      (List.forall_mem_nil _) hnodes
  unfold onlyElement? at h
  split at h
  · rename_i hfilter
    split at h
    · cases h
      have hmem : e ∈ nodes.filter fun n => !isBlankText n := by
        rw [hfilter]
        exact List.mem_cons_self
      exact hnamed e (List.mem_filter.1 hmem).1
    · cases h
  · cases h

end CloudClient.Xml
