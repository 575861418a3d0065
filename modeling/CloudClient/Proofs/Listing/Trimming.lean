import CloudClient.Proofs.Listing.Truncation

/-!
# Cut pages

A page is cut in the order of its items. The order is stable: items of the same text stay as the
page keeps them, objects before groups, so a cut page that is put in order again has the items that
it was cut to. Main statement: a page is cut to the first of its items, and a second cut only lowers
the limit.
-/

namespace CloudClient.Page

/-- The items of a text, in their order. -/
def ofKey (key : String) (l : List Item) : List Item := l.filter fun i => i.key == key

/-- No group stands before an object. -/
def ObjectsFirst (l : List Item) : Prop :=
  l.Pairwise fun a b => b.entry?.isSome → a.entry?.isSome

/-! ## Items of a text -/

/-- An item is among those of its text. -/
theorem mem_ofKey {key : String} {i : Item} {l : List Item} :
    i ∈ ofKey key l ↔ i ∈ l ∧ i.key = key := by
  rw [ofKey, List.mem_filter, beq_iff_eq]

/-- The first of some items is the first of its text. -/
theorem ofKey_cons_of_eq {key : String} {i : Item} (h : i.key = key) (l : List Item) :
    ofKey key (i :: l) = i :: ofKey key l :=
  List.filter_cons_of_pos (beq_iff_eq.2 h)

/-- An item of another text does not count. -/
theorem ofKey_cons_of_ne {key : String} {i : Item} (h : i.key ≠ key) (l : List Item) :
    ofKey key (i :: l) = ofKey key l :=
  List.filter_cons_of_neg (by simpa using h)

/-- The first of some items in order is not behind the first of others that have the same items of
each text. -/
theorem key_le_of_ofKey_eq {a b : Item} {l m : List Item} (hl : Sorted (a :: l))
    (h : ∀ key, ofKey key (a :: l) = ofKey key (b :: m)) : a.key ≤ b.key := by
  have hb : b ∈ ofKey b.key (a :: l) := by
    rw [h b.key]
    exact mem_ofKey.2 ⟨List.mem_cons_self, rfl⟩
  rcases List.mem_cons.1 (mem_ofKey.1 hb).1 with rfl | hmem
  · exact String.le_refl _
  · exact (List.pairwise_cons.1 hl).1 b hmem

/-- **Items in order are told by the items of each text.** -/
theorem eq_of_ofKey_eq {l m : List Item} (hl : Sorted l) (hm : Sorted m)
    (h : ∀ key, ofKey key l = ofKey key m) : l = m := by
  induction l generalizing m with
  | nil =>
    cases m with
    | nil => rfl
    | cons b m =>
      have hb := h b.key
      rw [ofKey_cons_of_eq rfl] at hb
      cases hb
  | cons a l ih =>
    cases m with
    | nil =>
      have ha := h a.key
      rw [ofKey_cons_of_eq rfl] at ha
      cases ha
    | cons b m =>
      have hkey : a.key = b.key :=
        String.le_antisymm (key_le_of_ofKey_eq hl h) (key_le_of_ofKey_eq hm fun key => (h key).symm)
      have hhead := h b.key
      rw [ofKey_cons_of_eq hkey, ofKey_cons_of_eq rfl] at hhead
      obtain rfl := (List.cons.inj hhead).1
      refine congrArg (a :: ·) (ih (List.pairwise_cons.1 hl).2 (List.pairwise_cons.1 hm).2 ?_)
      intro key
      have hrest := h key
      by_cases hmatch : a.key = key
      · rw [ofKey_cons_of_eq hmatch, ofKey_cons_of_eq hmatch] at hrest
        exact (List.cons.inj hrest).2
      · rwa [ofKey_cons_of_ne hmatch, ofKey_cons_of_ne hmatch] at hrest

/-! ## Items in order -/

/-- What a page keeps in order stays in that order. -/
theorem sublist_items {p : Page} {l : List Item} (hl : Sorted l) (h : l.Sublist p.contents) :
    l.Sublist p.items :=
  List.sublist_mergeSort keyLE_trans keyLE_total (hl.imp fun hab => decide_eq_true hab) h

/-- **Items of the same text stay as the page keeps them.** -/
theorem ofKey_items (p : Page) (key : String) : ofKey key p.items = ofKey key p.contents := by
  have hsame : Sorted (ofKey key p.contents) := by
    apply List.pairwise_of_forall_mem_list
    intro a ha b hb
    exact Std.le_of_eq ((mem_ofKey.1 ha).2.trans (mem_ofKey.1 hb).2.symm)
  have hsub : (ofKey key (ofKey key p.contents)).Sublist (ofKey key p.items) :=
    (sublist_items hsame List.filter_sublist).filter _
  have htwice : ofKey key (ofKey key p.contents) = ofKey key p.contents := by
    simp only [ofKey, List.filter_filter, Bool.and_self]
  rw [htwice] at hsub
  exact (hsub.eq_of_length ((items_perm p).filter _).length_eq.symm).symm

/-! ## Objects in front -/

/-- A page keeps its objects in front of its groups. -/
theorem objectsFirst_contents (p : Page) : ObjectsFirst p.contents := by
  rw [ObjectsFirst, contents, List.pairwise_append]
  refine ⟨?_, ?_, ?_⟩
  · exact List.pairwise_map.2 (List.pairwise_of_forall fun _ _ _ => rfl)
  · refine List.pairwise_map.2 (List.pairwise_of_forall fun _ _ h => ?_)
    cases h
  · intro a ha b _ _
    obtain ⟨e, -, rfl⟩ := List.mem_map.1 ha
    rfl

/-- Items that have their objects in front stay as they are. -/
theorem apart_eq_self {l : List Item} (h : ObjectsFirst l) : apart l = l := by
  induction l with
  | nil => rfl
  | cons i l ih =>
    obtain ⟨hi, hl⟩ := List.pairwise_cons.1 h
    have hrest := ih hl
    cases i with
    | entry e => exact congrArg (Item.entry e :: ·) hrest
    | group c =>
      -- no object follows a group
      have hnone : l.filterMap Item.entry? = [] := by
        refine List.filterMap_eq_nil_iff.2 fun j hj => ?_
        exact Option.not_isSome_iff_eq_none.1 fun hsome => Bool.false_ne_true (hi j hj hsome)
      have hobjects : (Item.group c :: l).filterMap Item.entry? = [] := hnone
      rw [apart, hnone, List.map_nil, List.nil_append] at hrest
      rw [apart, hobjects, List.map_nil, List.nil_append]
      exact congrArg (Item.group c :: ·) hrest

/-- The items of a text are taken apart as all items are. -/
theorem ofKey_apart (key : String) (l : List Item) : ofKey key (apart l) = apart (ofKey key l) := by
  rw [ofKey, apart, apart, ofKey, List.filter_append, List.filter_map, List.filter_map,
    List.filter_filterMap, List.filter_filterMap, List.filterMap_filter, List.filterMap_filter]
  congr 3
  · funext i
    cases i <;> simp [Item.entry?, Option.filter]
  · funext i
    cases i <;> simp [Item.group?, Option.filter]

/-! ## One cut -/

/-- A cut page keeps the items that it is cut to with their objects in front. -/
theorem contents_trim {p : Page} {n : Nat} (h : n < p.size) :
    (p.trim n).contents = apart (p.items.take n) := by
  rw [trim_of_lt h]
  rfl

/-- **The items of a cut page are the first items of the page**, in the same order. -/
theorem items_trim (p : Page) (n : Nat) : (p.trim n).items = p.items.take n := by
  by_cases hsize : p.size ≤ n
  · rw [trim_of_size_le (by omega), List.take_of_length_le (by rwa [length_items])]
  · refine eq_of_ofKey_eq (sorted_items _) ((sorted_items p).sublist (List.take_sublist n _)) ?_
    intro key
    -- of one text, the page keeps objects before groups, and so does any part of it
    have hfirst : ObjectsFirst (ofKey key (p.items.take n)) := by
      have hsub : (ofKey key (p.items.take n)).Sublist (ofKey key p.contents) := by
        rw [← ofKey_items]
        exact (List.take_sublist n p.items).filter _
      exact (objectsFirst_contents p).sublist (hsub.trans List.filter_sublist)
    rw [ofKey_items, contents_trim (by omega), ofKey_apart, apart_eq_self hfirst]

/-- The items of a page are those of the cut page and those that are cut off. -/
theorem items_eq_append (p : Page) (n : Nat) :
    p.items = (p.trim n).items ++ p.items.drop n := by
  rw [items_trim, List.take_append_drop]

/-- Nothing that is kept is behind anything that is cut off. -/
theorem key_le_of_mem_drop {p : Page} {n : Nat} {kept dropped : Item}
    (hkept : kept ∈ (p.trim n).contents) (hdropped : dropped ∈ p.items.drop n) :
    kept.key ≤ dropped.key := by
  have hsorted := sorted_items p
  rw [items_eq_append p n] at hsorted
  exact (List.pairwise_append.1 hsorted).2.2 kept ((items_perm _).mem_iff.2 hkept) dropped hdropped

/-! ## What stays in order -/

/-- The objects among what a page keeps. -/
theorem filterMap_entry?_contents (p : Page) : p.contents.filterMap Item.entry? = p.entries := by
  have hnone : (p.commonPrefixes.map Item.group).filterMap Item.entry? = [] := by
    rw [List.filterMap_map]
    exact List.filterMap_eq_nil_iff.2 fun _ _ => rfl
  rw [contents, List.filterMap_append, hnone, List.append_nil, List.filterMap_map]
  exact List.filterMap_some

/-- The groups among what a page keeps. -/
theorem filterMap_group?_contents (p : Page) :
    p.contents.filterMap Item.group? = p.commonPrefixes := by
  have hnone : (p.entries.map Item.entry).filterMap Item.group? = [] := by
    rw [List.filterMap_map]
    exact List.filterMap_eq_nil_iff.2 fun _ _ => rfl
  rw [contents, List.filterMap_append, hnone, List.nil_append, List.filterMap_map]
  exact List.filterMap_some

/-- A kind of items that a page keeps in order stays as it is when all items are put in order. -/
theorem filterMap_items {α : Type} {p : Page} {kind : Item → Option α} {l : List Item}
    (hl : Sorted l) (hsub : l.Sublist p.contents)
    (hall : l.filterMap kind = p.contents.filterMap kind) :
    p.items.filterMap kind = p.contents.filterMap kind := by
  have hkept := (sublist_items hl hsub).filterMap kind
  rw [hall] at hkept
  exact (hkept.eq_of_length ((items_perm p).filterMap kind).length_eq.symm).symm

/-- Objects that a page keeps in order are the objects of its items. -/
theorem filterMap_entry?_items {p : Page} (h : p.entries.Pairwise fun a b => a.key ≤ b.key) :
    p.items.filterMap Item.entry? = p.entries := by
  have hall : (p.entries.map Item.entry).filterMap Item.entry? =
      p.contents.filterMap Item.entry? := by
    rw [filterMap_entry?_contents, List.filterMap_map]
    exact List.filterMap_some
  rw [filterMap_items (List.pairwise_map.2 h) (List.sublist_append_left _ _) hall,
    filterMap_entry?_contents]

/-- Groups that a page keeps in order are the groups of its items. -/
theorem filterMap_group?_items {p : Page} (h : p.commonPrefixes.Pairwise (· ≤ ·)) :
    p.items.filterMap Item.group? = p.commonPrefixes := by
  have hall : (p.commonPrefixes.map Item.group).filterMap Item.group? =
      p.contents.filterMap Item.group? := by
    rw [filterMap_group?_contents, List.filterMap_map]
    exact List.filterMap_some
  rw [filterMap_items (List.pairwise_map.2 h) (List.sublist_append_right _ _) hall,
    filterMap_group?_contents]

/-- Objects that a page keeps in order are cut at their end. -/
theorem entries_trim_isPrefix {p : Page} (h : p.entries.Pairwise fun a b => a.key ≤ b.key)
    (n : Nat) : (p.trim n).entries <+: p.entries := by
  by_cases hsize : p.size ≤ n
  · have hsame : p.trim n = p := trim_of_size_le (by omega)
    simp only [hsame, List.prefix_rfl]
  · rw [trim_of_lt (by omega)]
    have hcut := (List.take_prefix n p.items).filterMap Item.entry?
    rwa [filterMap_entry?_items h] at hcut

/-- Groups that a page keeps in order are cut at their end. -/
theorem commonPrefixes_trim_isPrefix {p : Page} (h : p.commonPrefixes.Pairwise (· ≤ ·))
    (n : Nat) : (p.trim n).commonPrefixes <+: p.commonPrefixes := by
  by_cases hsize : p.size ≤ n
  · have hsame : p.trim n = p := trim_of_size_le (by omega)
    simp only [hsame, List.prefix_rfl]
  · rw [trim_of_lt (by omega)]
    have hcut := (List.take_prefix n p.items).filterMap Item.group?
    rwa [filterMap_group?_items h] at hcut

/-! ## Two cuts -/

/-- A second cut only lowers the limit. -/
theorem trim_trim (p : Page) (a b : Nat) : (p.trim a).trim b = p.trim (min a b : Nat) := by
  by_cases ha : p.size ≤ a
  · have hwhole : p.trim a = p := trim_of_size_le (by omega)
    rw [hwhole]
    by_cases hb : b ≤ a
    · rw [Nat.min_eq_right hb]
    · rw [Nat.min_eq_left (by omega), hwhole]
      exact trim_of_size_le (by omega)
  · have hsize : (p.trim a).size = a := by
      rw [size_trim, Nat.min_eq_left (by omega)]
    by_cases hb : a ≤ b
    · rw [Nat.min_eq_left hb]
      exact trim_of_size_le (by omega)
    · have hlt : b < (p.trim a).size := by omega
      have hlt' : b < p.size := by omega
      rw [trim_of_lt hlt, items_trim, List.take_take, Nat.min_eq_left (by omega),
        trim_of_lt (by omega), Nat.min_eq_right (by omega), trim_of_lt hlt']

/-- **A page is cut to its first items in the order of the listing.** A page within the limit stays
as it is. Any other keeps exactly as many items as the limit, of which none is behind one that is
cut off, says that more follow, and is the same otherwise; objects, or groups, that ascend are cut
at their end. A second cut only lowers the limit, whatever the order of the page. -/
theorem trim_keeps_first_items (p : Page) (limit : Nat) :
    (p.size ≤ limit → p.trim limit = p) ∧
    (limit < p.size →
      (p.trim limit).size = limit ∧
      p.trim limit =
        { p with
          entries := (p.trim limit).entries
          commonPrefixes := (p.trim limit).commonPrefixes
          isTruncated := true } ∧
      (∃ dropped, p.contents.Perm ((p.trim limit).contents ++ dropped) ∧
        ∀ i ∈ (p.trim limit).contents, ∀ j ∈ dropped, i.key ≤ j.key) ∧
      (p.entries.Pairwise (fun a b => a.key ≤ b.key) → (p.trim limit).entries <+: p.entries) ∧
      (p.commonPrefixes.Pairwise (· ≤ ·) →
        (p.trim limit).commonPrefixes <+: p.commonPrefixes)) ∧
    ∀ a b : Nat, (p.trim a).trim b = p.trim (min a b : Nat) := by
  refine ⟨fun h => trim_of_size_le (by omega), fun hlimit => ?_, trim_trim p⟩
  refine ⟨?_, ?_, ⟨p.items.drop limit, ?_, ?_⟩, ?_, ?_⟩
  · rw [size_trim, Nat.min_eq_left (by omega)]
  · rw [trim_of_lt hlimit]
  · have hall := items_perm p
    rw [items_eq_append p limit] at hall
    exact hall.symm.trans ((items_perm _).append_right _)
  · intro i hi j hj
    exact key_le_of_mem_drop hi hj
  · exact fun h => entries_trim_isPrefix h limit
  · exact fun h => commonPrefixes_trim_isPrefix h limit

/-- Objects out of order, with a group that has the text of the first. -/
def shuffledPage : Page :=
  { bucket := "bucket"
    entries := [{ key := "b", size := 1 }, { key := "a", size := 2 }]
    commonPrefixes := ["b"] }

/-- Cut to two items and then to one, the page keeps what it keeps when it is cut to one. -/
theorem shuffledPage_cut_twice :
    2 < shuffledPage.size ∧
    (shuffledPage.trim (2 : Nat)).size = 2 ∧
    (shuffledPage.trim (2 : Nat)).trim (1 : Nat) = shuffledPage.trim (1 : Nat) := by
  have hlimit : 2 < shuffledPage.size := by decide
  have h := trim_keeps_first_items shuffledPage 2
  exact ⟨hlimit, (h.2.1 hlimit).1, h.2.2 2 1⟩

end CloudClient.Page
