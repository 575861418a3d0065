import CloudClient.Listing.Page

/-!
# Items of a page

A page keeps objects and groups apart. When the items that it was made of ascend strictly, nothing
of their order is lost: the page gives the same items back, a cut page gives the first of them,
and the listing goes on after the last of them.
-/

namespace CloudClient.Page

/-- The items as a page keeps them: its objects and then its groups. -/
def contents (p : Page) : List Item :=
  p.entries.map Item.entry ++ p.commonPrefixes.map Item.group

/-- Items with their objects in front of their groups. -/
def apart (l : List Item) : List Item :=
  (l.filterMap Item.entry?).map Item.entry ++ (l.filterMap Item.group?).map Item.group

/-- Items whose texts do not descend. -/
def Sorted (l : List Item) : Prop := l.Pairwise fun a b => a.key ≤ b.key

/-- Items whose texts ascend strictly. -/
def Ascending (l : List Item) : Prop := l.Pairwise fun a b => a.key < b.key

/-- The page lists some items: its objects and its groups are those of the items, each in their
order. -/
structure Lists (p : Page) (l : List Item) : Prop where
  entries : p.entries = l.filterMap Item.entry?
  groups : p.commonPrefixes = l.filterMap Item.group?

/-! ## Objects and groups apart -/

/-- Items that are taken apart into objects and groups are still the same items. -/
theorem perm_apart (l : List Item) : (apart l).Perm l := by
  induction l with
  | nil => exact List.Perm.refl _
  | cons i l ih =>
    cases i with
    | entry e => exact ih.cons _
    | group c =>
      have hmid : ((l.filterMap Item.entry?).map Item.entry ++
          Item.group c :: (l.filterMap Item.group?).map Item.group).Perm
            (Item.group c :: ((l.filterMap Item.entry?).map Item.entry ++
              (l.filterMap Item.group?).map Item.group)) := List.perm_middle
      exact hmid.trans (ih.cons _)

/-- Items are as many as their objects and groups together. -/
theorem length_apart (l : List Item) :
    (l.filterMap Item.entry?).length + (l.filterMap Item.group?).length = l.length := by
  have hlen := (perm_apart l).length_eq
  rwa [apart, List.length_append, List.length_map, List.length_map] at hlen

/-! ## The order of a page -/

/-- The comparison by which a page sorts is transitive. -/
theorem keyLE_trans (a b c : Item) :
    decide (a.key ≤ b.key) → decide (b.key ≤ c.key) → decide (a.key ≤ c.key) := by
  intro hab hbc
  exact decide_eq_true (String.le_trans (of_decide_eq_true hab) (of_decide_eq_true hbc))

/-- The comparison by which a page sorts is total. -/
theorem keyLE_total (a b : Item) : decide (a.key ≤ b.key) || decide (b.key ≤ a.key) := by
  simpa using String.le_total a.key b.key

/-- The items of a page are those that it keeps. -/
theorem items_perm (p : Page) : p.items.Perm p.contents := List.mergeSort_perm _ _

/-- The items of a page are in order. -/
theorem sorted_items (p : Page) : Sorted p.items :=
  (List.pairwise_mergeSort keyLE_trans keyLE_total p.contents).imp fun h => of_decide_eq_true h

/-- Ascending items of the same text are the same item. -/
theorem eq_of_key_eq {l : List Item} (h : Ascending l) {a b : Item} (ha : a ∈ l) (hb : b ∈ l)
    (hab : a.key = b.key) : a = b := by
  induction l with
  | nil => cases ha
  | cons i l ih =>
    obtain ⟨hi, hl⟩ := List.pairwise_cons.1 h
    rcases List.mem_cons.1 ha with rfl | hal <;> rcases List.mem_cons.1 hb with rfl | hbl
    · rfl
    · exact absurd (hab ▸ hi b hbl) (String.lt_irrefl _)
    · exact absurd (hab ▸ hi a hal) (String.lt_irrefl _)
    · exact ih hl hal hbl

/-- Ascending items do not descend. -/
theorem Ascending.sorted {l : List Item} (h : Ascending l) : Sorted l :=
  h.imp Std.le_of_lt

/-! ## One cut -/

/-- A page above the limit keeps the first of its items, apart again, and says that more follow. -/
theorem trim_of_lt {p : Page} {n : Nat} (h : n < p.size) :
    p.trim n =
      { p with
        entries := (p.items.take n).filterMap Item.entry?
        commonPrefixes := (p.items.take n).filterMap Item.group?
        isTruncated := true } := by
  have hkept : cut (n : Int) p.items = p.items.take n := by
    rw [cut, if_pos (Int.natCast_nonneg n), Int.toNat_natCast]
  rw [trim, if_neg (by omega), hkept]

/-! ## Pages that list items -/

namespace Lists

variable {p : Page} {l : List Item}

/-- A page that lists ascending items gives them back. -/
theorem items (h : p.Lists l) (hl : Ascending l) : p.items = l := by
  have hperm : p.items.Perm l := by
    refine (items_perm p).trans ?_
    rw [contents, h.entries, h.groups]
    exact perm_apart l
  refine hperm.eq_of_pairwise ?_ (sorted_items p) hl.sorted
  intro a b ha hb hab hba
  exact eq_of_key_eq hl (hperm.subset ha) hb (String.le_antisymm hab hba)

/-- A page has as many items as it lists. -/
theorem size_eq (h : p.Lists l) : p.size = l.length := by
  rw [Page.size, h.entries, h.groups, length_apart]

/-- A page that lists ascending items and is cut lists the first of them. -/
theorem trim (h : p.Lists l) (hl : Ascending l) (n : Nat) : (p.trim n).Lists (l.take n) := by
  have hsize := h.size_eq
  by_cases hle : l.length ≤ n
  · rw [trim_of_size_le (by omega), List.take_of_length_le hle]
    exact h
  · rw [trim_of_lt (by omega), h.items hl]
    exact ⟨rfl, rfl⟩

/-- The listing goes on after the last of the ascending items, unless the page names a place. -/
theorem greatest_eq (h : p.Lists l) (hl : Ascending l) :
    continuation.greatest p = l.getLast?.map Item.key := by
  rcases List.eq_nil_or_concat l with rfl | ⟨front, last, rfl⟩
  · rw [continuation.greatest, h.entries, h.groups]
    rfl
  · rw [List.concat_eq_append] at h hl ⊢
    have hlt : ∀ i ∈ front, i.key < last.key := by
      intro i hi
      exact (List.pairwise_append.1 hl).2.2 i hi last (List.mem_singleton.2 rfl)
    rw [continuation.greatest, h.entries, h.groups]
    cases last with
    | entry e =>
      have hle : ∀ c, (front.filterMap Item.group?).getLast? = some c → ¬ e.key < c := by
        intro c hc
        obtain ⟨i, hi, hic⟩ := List.mem_filterMap.1 (List.mem_of_getLast? hc)
        cases i with
        | entry _ => cases hic
        | group c' =>
          cases hic
          exact Std.not_lt.2 (Std.le_of_lt (hlt _ hi))
      simp only [List.filterMap_append, List.filterMap_cons, List.filterMap_nil, Item.entry?,
        Item.group?, List.append_nil, List.getLast?_append, List.getLast?_singleton,
        Option.some_or, Option.map_some, Item.key]
      cases hc : (front.filterMap Item.group?).getLast? with
      | none => rfl
      | some c => simp only [if_neg (hle c hc)]
    | group c =>
      have hlt' : ∀ e, (front.filterMap Item.entry?).getLast? = some e → e.key < c := by
        intro e he
        obtain ⟨i, hi, hie⟩ := List.mem_filterMap.1 (List.mem_of_getLast? he)
        cases i with
        | entry e' =>
          cases hie
          exact hlt _ hi
        | group _ => cases hie
      simp only [List.filterMap_append, List.filterMap_cons, List.filterMap_nil, Item.entry?,
        Item.group?, List.append_nil, List.getLast?_append, List.getLast?_singleton,
        Option.some_or, Option.map_some, Item.key]
      cases he : (front.filterMap Item.entry?).getLast? with
      | none => rfl
      | some e => simp only [if_pos (hlt' e he)]

end Lists

end CloudClient.Page
