import CloudClient.Proofs.Text.Split
import CloudClient.Proofs.Xml.Names

/-!
# Elements in namespaces

The elements of a document are put into namespaces by bindings at any depth, default ones or
prefixes, or stay in none. A parser delivers their names with the namespaces in braces, and what
stands up to the closing brace is taken off. Main statement: however the elements are put into
namespaces, what is left of a document is the tree of its local names and its texts.
-/

namespace CloudClient.Xml

/-! ## Names -/

/-- A name without its prefix. -/
def baseName (name : String) : String := (splitName name).2

/-- The prefix of a name is bound; a name without a prefix needs no binding. -/
def IsBound (scope : Scope) (name : String) : Prop :=
  (splitName name).1 = "" ∨ (scope.lookup (splitName name).1).isSome

/-- The name of an element as a parser delivers it, with its namespace in braces; an element in no
namespace keeps its name. -/
def deliveredName? (scope : Scope) (name : String) : Option String :=
  match scope.lookup (splitName name).1 with
  | some space =>
    some (if space.isEmpty then baseName name else s!"\x7b{space}\x7d{baseName name}")
  | none => if (splitName name).1 = "" then some name else none

/-- A delivered name without the namespace in front of it. -/
def withoutSpace (tag : String) : String :=
  match tag.toList with
  | '\x7b' :: r => String.ofList ((Text.cut '\x7d' r).2.getD [])
  | _ => tag

/-- A name that begins as names do has no prefix, or one that is not empty. -/
theorem splitName_of_beginsName {name : String} (h : BeginsName name.toList)
    (hunmarked : (splitName name).1 = "") : splitName name = ("", name) := by
  obtain ⟨c, r, hname, hc⟩ := h
  have hcolon : c ≠ ':' := by
    rintro rfl
    revert hc
    decide
  unfold splitName at hunmarked ⊢
  rw [hname, Text.cut, if_neg hcolon] at hunmarked ⊢
  cases hcut : (Text.cut ':' r).2 with
  | none =>
    dsimp only
    rw [hcut]
  | some b =>
    dsimp only at hunmarked
    rw [hcut] at hunmarked
    have hempty : (c :: (Text.cut ':' r).1) = [] := by
      rw [← String.toList_ofList (l := c :: _)]
      exact congrArg String.toList hunmarked
    cases hempty

/-- The bindings of a scope are allowed. -/
def IsScope (scope : Scope) : Prop := ∀ b ∈ scope, isBinding b.1 b.2 = true

/-- Outside of all elements the bindings are allowed. -/
theorem isScope_outerScope : IsScope outerScope := by
  intro b hb
  obtain rfl := List.mem_singleton.1 hb
  decide

variable {scope : Scope} {name : String}

/-- A namespace that is found in a scope is bound to its prefix there. -/
theorem mem_of_lookup {p space : String} (h : scope.lookup p = some space) :
    (p, space) ∈ scope := by
  obtain ⟨front, rest, rfl, -⟩ := List.lookup_eq_some_iff.1 h
  exact List.mem_append_right _ List.mem_cons_self

/-- A prefix is not bound to nothing. -/
theorem IsScope.eq_empty_of_lookup (hscope : IsScope scope) {p : String}
    (h : scope.lookup p = some "") : p = "" := by
  have hbinding := hscope _ (mem_of_lookup h)
  simp only [isBinding, Bool.and_eq_true, Bool.or_eq_true] at hbinding
  rcases hbinding.1.1.1.1 with hempty | hspace
  · exact String.isEmpty_iff.1 hempty
  · cases hspace

/-- No namespace in a scope has a closing brace. -/
theorem IsScope.brace_not_mem (hscope : IsScope scope) {p space : String}
    (h : scope.lookup p = some space) : '\x7d' ∉ space.toList := by
  have hbinding := hscope _ (mem_of_lookup h)
  simp only [isBinding, Bool.and_eq_true] at hbinding
  simpa using hbinding.2

/-- The name of an element without its prefix. -/
theorem localName?_of_isBound (hname : BeginsName name.toList) (h : IsBound scope name) :
    localName? scope name = some (baseName name) := by
  by_cases hunmarked : (splitName name).1 = ""
  · have hsplit := splitName_of_beginsName hname hunmarked
    rw [localName?, baseName, hsplit]
    rfl
  · rw [localName?]
    split
    · rename_i heq
      exact absurd (congrArg Prod.fst heq) hunmarked
    · rename_i heq
      have hsome := h.resolve_left hunmarked
      rw [heq] at hsome
      rw [if_pos hsome, baseName, heq]

/-- A name without a prefix is a local name. -/
theorem baseName_of_unmarked (hname : BeginsName name.toList)
    (hunmarked : (splitName name).1 = "") : baseName name = name := by
  rw [baseName, splitName_of_beginsName hname hunmarked]

/-- A name without a namespace in front of it stays as it is. -/
theorem withoutSpace_of_beginsName (hname : BeginsName name.toList) : withoutSpace name = name := by
  obtain ⟨c, r, hchars, hc⟩ := hname
  have hbrace : c ≠ '\x7b' := by
    rintro rfl
    revert hc
    decide
  unfold withoutSpace
  split
  · rename_i heq
    rw [hchars] at heq
    exact absurd (List.cons.inj heq).1 hbrace
  · rfl

/-- A namespace without a closing brace is taken off. -/
theorem withoutSpace_braced {space : String} (hspace : '\x7d' ∉ space.toList) (base : String) :
    withoutSpace s!"\x7b{space}\x7d{base}" = base := by
  have hchars : (s!"\x7b{space}\x7d{base}").toList =
      '\x7b' :: (space.toList ++ '\x7d' :: base.toList) := by
    simp [toString, String.toList_append]
  rw [withoutSpace, hchars]
  show String.ofList ((Text.cut '\x7d' (space.toList ++ '\x7d' :: _)).2.getD []) = _
  rw [Text.cut_append_sep hspace, Option.getD_some, String.ofList_toList]

/-- **What a parser delivers of a name is the local name behind the namespace.** -/
theorem withoutSpace_deliveredName? (hscope : IsScope scope) (hname : BeginsName name.toList)
    (h : IsBound scope name) :
    ∃ tag, deliveredName? scope name = some tag ∧ withoutSpace tag = baseName name := by
  rw [deliveredName?]
  cases hspace : scope.lookup (splitName name).1 with
  | none =>
    have hunmarked : (splitName name).1 = "" := by
      refine h.resolve_right fun hsome => ?_
      rw [hspace] at hsome
      cases hsome
    dsimp only
    rw [if_pos hunmarked, baseName_of_unmarked hname hunmarked]
    exact ⟨name, rfl, withoutSpace_of_beginsName hname⟩
  | some space =>
    refine ⟨_, rfl, ?_⟩
    split
    · -- only the default namespace can be empty, so the name has no prefix
      rename_i hempty
      rw [String.isEmpty_iff.1 hempty] at hspace
      rw [baseName_of_unmarked hname (hscope.eq_empty_of_lookup hspace)]
      exact withoutSpace_of_beginsName hname
    · exact withoutSpace_braced (hscope.brace_not_mem hspace) _

/-! ## Attributes -/

/-- The bindings among attributes. -/
def bindingsOf (attributes : List (String × String)) : Scope :=
  attributes.filterMap fun (name, v) => (boundPrefix? name).map fun p => (p, v)

/-- The attributes that are no bindings. -/
def plainAttributes (attributes : List (String × String)) : List (String × String) :=
  attributes.filter fun a => (boundPrefix? a.1).isNone

/-- The attributes of an element are told apart in a scope: as they are written, and those that are
no bindings by their namespaces as well. -/
structure AreApart (scope : Scope) (attributes : List (String × String)) : Prop where
  written : (attributes.map (·.1)).Nodup
  isBound : ∀ a ∈ plainAttributes attributes, IsBound scope a.1
  full : ((plainAttributes attributes).map fun a => (attributeName? scope a.1).getD "").Nodup

/-- Bindings that are allowed bind. -/
theorem bindings?_eq {attributes : List (String × String)} (h : IsScope (bindingsOf attributes)) :
    bindings? attributes = some (bindingsOf attributes) := if_pos (List.all_eq_true.2 h)

/-- The bindings of an element make a scope of the scope around it. -/
theorem isScope_append {attributes : List (String × String)}
    (hbound : IsScope (bindingsOf attributes)) (hscope : IsScope scope) :
    IsScope (bindingsOf attributes ++ scope) := by
  intro b hb
  exact (List.mem_append.1 hb).elim (hbound b) (hscope b)

/-- An attribute has a full name when its prefix is bound. -/
theorem exists_attributeName? (h : IsBound scope name) :
    ∃ full, attributeName? scope name = some full := by
  rw [attributeName?]
  split
  · exact ⟨_, rfl⟩
  · rename_i p base hne heq
    have hsome : (scope.lookup p).isSome := by
      rw [IsBound, heq] at h
      exact h.resolve_left hne
    obtain ⟨space, hspace⟩ := Option.isSome_iff_exists.1 hsome
    rw [hspace]
    exact ⟨_, rfl⟩

/-- Attributes get their full names one by one. -/
theorem mapM_attributeName? {l : List (String × String)} (h : ∀ a ∈ l, IsBound scope a.1) :
    (l.mapM fun a => (attributeName? scope a.1).map fun full => (full, a.2)) =
      some (l.map fun a => ((attributeName? scope a.1).getD "", a.2)) := by
  induction l with
  | nil => rfl
  | cons a l ih =>
    obtain ⟨full, hfull⟩ := exists_attributeName? (h a List.mem_cons_self)
    rw [List.mapM_cons, hfull, ih fun b hb => h b (List.mem_cons_of_mem a hb), List.map_cons, hfull]
    rfl

/-- Attributes that are told apart have full names. -/
theorem exists_attributesIn? {attributes : List (String × String)} (h : AreApart scope attributes) :
    ∃ named, attributesIn? scope attributes = some named := by
  have hfull : areDistinct (((plainAttributes attributes).map
      fun a => ((attributeName? scope a.1).getD "", a.2)).map (·.1)) = true := by
    rw [areDistinct_iff, List.map_map]
    exact h.full
  rw [attributesIn?, if_pos ((areDistinct_iff _).2 h.written)]
  dsimp only
  rw [← plainAttributes, mapM_attributeName? h.isBound]
  exact ⟨_, Option.filter_some_pos hfull⟩

/-- Bindings that bind are allowed. -/
theorem isScope_of_bindings? {attributes : List (String × String)} {b : Scope}
    (h : bindings? attributes = some b) :
    IsScope (bindingsOf attributes) ∧ b = bindingsOf attributes := by
  unfold bindings? at h
  dsimp only at h
  split at h
  · rename_i hall
    cases h
    exact ⟨List.all_eq_true.1 hall, rfl⟩
  · cases h

/-- An element that has a local name has a bound prefix. -/
theorem isBound_of_localName? {base : String} (h : localName? scope name = some base) :
    IsBound scope name := by
  unfold localName? at h
  unfold IsBound
  split at h
  · rename_i heq
    exact .inl (by rw [heq])
  · rename_i heq
    rw [heq]
    split at h
    · rename_i hsome
      exact .inr hsome
    · cases h

/-- An attribute that has a full name has a bound prefix. -/
theorem isBound_of_attributeName? {full : String} (h : attributeName? scope name = some full) :
    IsBound scope name := by
  unfold attributeName? at h
  unfold IsBound
  split at h
  · rename_i heq
    exact .inl (by rw [heq])
  · rename_i heq
    rw [heq]
    obtain ⟨space, hspace, -⟩ := Option.map_eq_some_iff.1 h
    exact .inr (by rw [hspace]; rfl)

/-- Attributes that have full names have bound prefixes. -/
theorem isBound_of_mapM {l named : List (String × String)}
    (h : (l.mapM fun a => (attributeName? scope a.1).map fun full => (full, a.2)) = some named) :
    ∀ a ∈ l, IsBound scope a.1 := by
  induction l generalizing named with
  | nil => exact fun a ha => absurd ha List.not_mem_nil
  | cons a l ih =>
    rw [List.mapM_cons] at h
    obtain ⟨_, ha, h⟩ := Option.bind_eq_some_iff.1 h
    obtain ⟨rest, hrest, -⟩ := Option.bind_eq_some_iff.1 h
    obtain ⟨full, hfull, -⟩ := Option.map_eq_some_iff.1 ha
    exact List.forall_mem_cons.2 ⟨isBound_of_attributeName? hfull, ih hrest⟩

/-- Attributes that are read are told apart. -/
theorem areApart_of_attributesIn? {attributes named : List (String × String)}
    (h : attributesIn? scope attributes = some named) : AreApart scope attributes := by
  unfold attributesIn? at h
  dsimp only at h
  split at h
  · rename_i hwritten
    obtain ⟨hnamed, hdistinct⟩ := Option.filter_eq_some_iff.1 h
    have hbound := isBound_of_mapM hnamed
    rw [mapM_attributeName? hbound, Option.some.injEq] at hnamed
    rw [← hnamed, List.map_map] at hdistinct
    exact ⟨(areDistinct_iff _).1 hwritten, hbound, (areDistinct_iff _).1 hdistinct⟩
  · cases h

/-! ## Trees -/

namespace Node

mutual

/-- An element and all below it are put into namespaces in a scope: their bindings are allowed and
hold for what is inside, their prefixes are bound, and their attributes are told apart. -/
def IsPlaced (scope : Scope) : Node → Prop
  | text _ => True
  | element name attributes content =>
    IsScope (bindingsOf attributes) ∧ IsBound (bindingsOf attributes ++ scope) name ∧
      AreApart (bindingsOf attributes ++ scope) attributes ∧
      AllPlaced (bindingsOf attributes ++ scope) content

/-- All elements in some content are put into namespaces. -/
def AllPlaced (scope : Scope) : List Node → Prop
  | [] => True
  | n :: rest => n.IsPlaced scope ∧ AllPlaced scope rest

end

mutual

/-- A node as a parser delivers it, with the namespaces of its elements in braces. -/
def delivered? (scope : Scope) : Node → Option Node
  | text s => some (text s)
  | element name attributes content =>
    match bindings? attributes with
    | none => none
    | some bound =>
      match deliveredName? (bound ++ scope) name, attributesIn? (bound ++ scope) attributes,
        allDelivered? (bound ++ scope) content with
      | some tag, some attributes, some content => some (element tag attributes content)
      | _, _, _ => none

/-- Nodes as a parser delivers them. -/
def allDelivered? (scope : Scope) : List Node → Option (List Node)
  | [] => some []
  | n :: rest =>
    match delivered? scope n, allDelivered? scope rest with
    | some n, some rest => some (n :: rest)
    | _, _ => none

end

mutual

/-- A delivered node without namespaces. -/
def stripped : Node → Node
  | text s => text s
  | element tag attributes content => element (withoutSpace tag) attributes (allStripped content)

/-- Delivered nodes without namespaces. -/
def allStripped : List Node → List Node
  | [] => []
  | n :: rest => n.stripped :: allStripped rest

end

mutual

/-- A node without attributes. -/
def bare : Node → Node
  | text s => text s
  | element tag _ content => element tag [] (allBare content)

/-- Nodes without attributes. -/
def allBare : List Node → List Node
  | [] => []
  | n :: rest => n.bare :: allBare rest

end

mutual

/-- A node as it is written, without prefixes and attributes. -/
def localized : Node → Node
  | text s => text s
  | element name _ content => element (baseName name) [] (allLocalized content)

/-- Nodes as they are written, without prefixes and attributes. -/
def allLocalized : List Node → List Node
  | [] => []
  | n :: rest => n.localized :: allLocalized rest

end

mutual

/-- **What is delivered of a node that is put into namespaces loses them again**, and the tree of
its local names and its texts is left. -/
theorem exists_delivered {scope : Scope} (hscope : IsScope scope) :
    ∀ e : Node, e.IsNamed → e.IsPlaced scope →
      ∃ full, e.delivered? scope = some full ∧ e.resolve? scope = some full.stripped ∧
        full.stripped.bare = e.localized
  | text s, _, _ => ⟨text s, rfl, rfl, rfl⟩
  | element name attributes content, hnamed, hplaced => by
    obtain ⟨hname, hcontent⟩ := hnamed
    obtain ⟨hbound, hinScope, hapart, hinside⟩ := hplaced
    have hinner := isScope_append hbound hscope
    obtain ⟨tag, htag, hlocal⟩ := withoutSpace_deliveredName? hinner hname hinScope
    obtain ⟨named, hattributes⟩ := exists_attributesIn? hapart
    obtain ⟨full, hfull, hresolve, hbare⟩ := exists_allDelivered hinner content hcontent hinside
    refine ⟨element tag named full, ?_, ?_, ?_⟩
    · rw [delivered?, bindings?_eq hbound]
      dsimp only
      rw [htag, hattributes, hfull]
    · rw [resolve?, bindings?_eq hbound]
      dsimp only
      rw [localName?_of_isBound hname hinScope, hattributes, hresolve, stripped, hlocal]
    · rw [stripped, bare, localized, hlocal, hbare]

/-- The same of all nodes in some content. -/
theorem exists_allDelivered {scope : Scope} (hscope : IsScope scope) :
    ∀ l : List Node, AllNamed l → AllPlaced scope l →
      ∃ full, allDelivered? scope l = some full ∧ resolveAll? scope l = some (allStripped full) ∧
        allBare (allStripped full) = allLocalized l
  | [], _, _ => ⟨[], rfl, rfl, rfl⟩
  | n :: rest, hnamed, hplaced => by
    obtain ⟨node, hnode, hresolve, hbare⟩ := exists_delivered hscope n hnamed.1 hplaced.1
    obtain ⟨full, hfull, hrest, hbares⟩ := exists_allDelivered hscope rest hnamed.2 hplaced.2
    refine ⟨node :: full, ?_, ?_, ?_⟩
    · rw [allDelivered?, hnode, hfull]
    · rw [resolveAll?, hresolve, hrest, allStripped]
    · rw [allStripped, allBare, allLocalized, hbare, hbares]

end

mutual

/-- A node whose names are put into namespaces was placed in them. -/
theorem isPlaced_of_resolve? {scope : Scope} :
    ∀ {e n : Node}, e.resolve? scope = some n → e.IsPlaced scope
  | text _, _, _ => trivial
  | element name attributes content, n, h => by
    rw [resolve?] at h
    split at h
    · cases h
    · rename_i hbindings
      obtain ⟨hscope, rfl⟩ := isScope_of_bindings? hbindings
      dsimp only at h
      split at h
      · rename_i hname hattributes hcontent
        exact ⟨hscope, isBound_of_localName? hname, areApart_of_attributesIn? hattributes,
          allPlaced_of_resolveAll? hcontent⟩
      · cases h

/-- Nodes whose names are put into namespaces were placed in them. -/
theorem allPlaced_of_resolveAll? {scope : Scope} :
    ∀ {l nodes : List Node}, resolveAll? scope l = some nodes → AllPlaced scope l
  | [], _, _ => trivial
  | n :: rest, nodes, h => by
    rw [resolveAll?] at h
    split at h
    · rename_i hnode hrest
      exact ⟨isPlaced_of_resolve? hnode, allPlaced_of_resolveAll? hrest⟩
    · cases h

end

end Node

/-- A document is read exactly when its elements are put into namespaces. -/
theorem isSome_readDocument?_iff {d : Bytes} {e : Node} (h : element? d = some e) :
    (readDocument? d).isSome ↔ e.IsPlaced outerScope := by
  rw [readDocument?_eq, h, Option.bind_some]
  constructor
  · intro hsome
    obtain ⟨n, hn⟩ := Option.isSome_iff_exists.1 hsome
    exact Node.isPlaced_of_resolve? hn
  · intro hplaced
    obtain ⟨full, -, hresolve, -⟩ :=
      Node.exists_delivered isScope_outerScope e (isNamed_of_element? h) hplaced
    rw [hresolve]
    rfl

/-- **A document whose elements are put into namespaces is read as the tree of its local names and
its texts.** -/
theorem exists_read_of_isPlaced {d : Bytes} {e : Node} (h : element? d = some e)
    (hplaced : e.IsPlaced outerScope) :
    ∃ full, e.delivered? outerScope = some full ∧ readDocument? d = some full.stripped ∧
      full.stripped.bare = e.localized := by
  obtain ⟨full, hfull, hresolve, hbare⟩ :=
    Node.exists_delivered isScope_outerScope e (isNamed_of_element? h) hplaced
  refine ⟨full, hfull, ?_, hbare⟩
  rw [readDocument?_eq, h, Option.bind_some, hresolve]

end CloudClient.Xml
