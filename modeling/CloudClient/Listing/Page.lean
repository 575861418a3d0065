import CloudClient.Result

/-!
# Pages of a listing

The objects and the common beginnings of a page stand in one order. A page is cut in that order,
and the listing goes on after its last item unless the service names another place.
-/

namespace CloudClient

/-- An item of a page. -/
inductive Page.Item where
  | entry (e : ObjectEntry)
  | group (commonPrefix : String)
  deriving DecidableEq, Inhabited

namespace Page

/-- The text by which an item is ordered. -/
def Item.key : Item → String
  | .entry e => e.key
  | .group p => p

/-- The object of an item. -/
def Item.entry? : Item → Option ObjectEntry
  | .entry e => some e
  | .group _ => none

/-- The common beginning of an item. -/
def Item.group? : Item → Option String
  | .entry _ => none
  | .group p => some p

/-- The number of items. -/
def size (p : Page) : Nat := p.entries.length + p.commonPrefixes.length

/-- All items in the order of their texts; an object stands before a group of the same text. -/
def items (p : Page) : List Item :=
  (p.entries.map Item.entry ++ p.commonPrefixes.map Item.group).mergeSort fun a b =>
    decide (a.key ≤ b.key)

/-- A page has as many items as its size says. -/
theorem length_items (p : Page) : p.items.length = p.size := by
  simp [items, size]

/-- The marker after which the listing goes on: the one that the service names, or the greater of
the last object and the last group. -/
def continuation (p : Page) : Option String :=
  match p.nextMarker with
  | some m => if m.isEmpty then greatest else some m
  | none => greatest
where
  /-- The greater of the last object and the last group. -/
  greatest : Option String :=
    match p.entries.getLast?, p.commonPrefixes.getLast? with
    | some e, some c => some (if e.key < c then c else e.key)
    | some e, none => some e.key
    | none, c => c

/-- The first items up to a limit; a negative limit counts from the end. -/
def cut {α : Type} (limit : Int) (l : List α) : List α :=
  if 0 ≤ limit then l.take limit.toNat else l.take (l.length - limit.natAbs)

/-- The page with as many of its first items as a limit allows. A page that loses items says that
more follow. -/
def trim (p : Page) (limit : Int) : Page :=
  if (p.size : Int) ≤ limit then p
  else
    let kept := cut limit p.items
    { p with
      entries := kept.filterMap Item.entry?
      commonPrefixes := kept.filterMap Item.group?
      isTruncated := true }

/-- A page within the limit stays as it is. -/
theorem trim_of_size_le {p : Page} {limit : Int} (h : (p.size : Int) ≤ limit) :
    p.trim limit = p := by
  simp [trim, h]

end Page

end CloudClient
