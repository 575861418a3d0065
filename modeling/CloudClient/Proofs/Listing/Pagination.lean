import CloudClient.Proofs.Listing.Page
import CloudClient.Proofs.Listing.Walk

/-!
# Pagination

A source keeps items in ascending order and answers a request with the next of them, as many as it
likes but at least one. A walk over such a source gives every item after the initial marker once and
in order, however the items are spread over the pages. The invariant is that the marker of a request
is the text of the last item that was given, so the items after it are those that are still to come.
-/

namespace CloudClient.Cursor

variable {ε β : Type} {source : Nat → PageQuery → Except ε Page}

/-! ## Sources that keep items -/

/-- The items after a marker. -/
def after (marker : String) (items : List Page.Item) : List Page.Item :=
  items.filter fun i => decide (marker < i.key)

/-- A page serves items that are left to a request: it lists the first `n` of them, says whether
more follow, and names the last of them as the place to go on, or no place. -/
structure ServedBy (left : List Page.Item) (n : Nat) (p : Page) : Prop where
  lists : p.Lists (left.take n)
  truncated : p.isTruncated = decide (n < left.length)
  names : p.nextMarker = none ∨ p.nextMarker = (left.take n).getLast?.map Page.Item.key

/-- A source keeps items: each request is served at least one of those after its marker. -/
def Keeps (items : List Page.Item) (source : Nat → PageQuery → Except ε Page) : Prop :=
  ∀ k q, ∃ n p, 0 < n ∧ source k q = .ok p ∧ ServedBy (after q.marker items) n p

/-- The source that serves `size k` items to the request after `k` others, and names the last of
them when `isNamed k` says so. -/
def serving (items : List Page.Item) (size : Nat → Nat) (isNamed : Nat → Bool) (k : Nat)
    (q : PageQuery) : Except ε Page :=
  let left := after q.marker items
  let shown := left.take (size k)
  .ok
    { bucket := "bucket"
      entries := shown.filterMap Page.Item.entry?
      commonPrefixes := shown.filterMap Page.Item.group?
      isTruncated := decide (size k < left.length)
      nextMarker := if isNamed k then shown.getLast?.map Page.Item.key else none }

/-- Pages of any sizes above zero, with or without names, keep the items. -/
theorem keeps_serving (items : List Page.Item) {size : Nat → Nat} (hsize : ∀ k, 0 < size k)
    (isNamed : Nat → Bool) :
    Keeps items (serving items size isNamed : Nat → PageQuery → Except ε Page) := by
  intro k q
  refine ⟨size k, _, hsize k, rfl, ⟨rfl, rfl⟩, rfl, ?_⟩
  cases isNamed k
  · exact .inl rfl
  · exact .inr rfl

variable {items left : List Page.Item}

/-- The items after a marker ascend as all items do. -/
theorem ascending_after (h : Page.Ascending items) (marker : String) :
    Page.Ascending (after marker items) :=
  h.filter _

/-- The items after an item are those behind it. -/
theorem after_key {front rest : List Page.Item} {x : Page.Item}
    (h : Page.Ascending (front ++ x :: rest)) : after x.key (front ++ x :: rest) = rest := by
  obtain ⟨-, hrest, hcross⟩ := List.pairwise_append.1 h
  obtain ⟨hx, -⟩ := List.pairwise_cons.1 hrest
  have hfront : front.filter (fun i => decide (x.key < i.key)) = [] := by
    apply List.filter_eq_nil_iff.2
    intro i hi hafter
    have hlt : i.key < x.key := hcross i hi x List.mem_cons_self
    exact String.lt_irrefl _ (String.lt_trans hlt (of_decide_eq_true hafter))
  have hbehind : rest.filter (fun i => decide (x.key < i.key)) = rest := by
    apply List.filter_eq_self.2
    intro i hi
    exact decide_eq_true (hx i hi)
  rw [after, List.filter_append, List.filter_cons_of_neg (by simp), hfront, hbehind,
    List.nil_append]

/-- After an item that comes after a marker, the same items follow whether one starts from all items
or from those after the marker. -/
theorem after_after {marker key : String} (h : marker < key) (items : List Page.Item) :
    after key (after marker items) = after key items := by
  rw [after, after, List.filter_filter]
  apply List.filter_congr
  intro i _
  by_cases hi : key < i.key
  · simp [hi, String.lt_trans h hi]
  · simp [hi]

namespace ServedBy

variable {n : Nat} {p : Page}

/-- A page that serves items is continued after the last item that it lists. -/
theorem continuation_eq (h : ServedBy left n p) (hleft : Page.Ascending left) :
    p.continuation = (left.take n).getLast?.map Page.Item.key := by
  have hgreatest := h.lists.greatest_eq (hleft.sublist (List.take_sublist n left))
  rcases h.names with hnone | hsome
  · rw [Page.continuation, hnone]
    exact hgreatest
  · rw [Page.continuation, hsome]
    cases hlast : (left.take n).getLast?.map Page.Item.key with
    | none => exact hgreatest.trans hlast
    | some m =>
      show (if m.isEmpty then Page.continuation.greatest p else some m) = some m
      rw [hgreatest, hlast, ite_self]

/-- A walk is complete when nothing is left behind the page. -/
theorem next_eq_complete (h : ServedBy left n p) (hn : left.length ≤ n) (q : PageQuery) :
    next q p = .complete := by
  have htruncated : p.isTruncated = false := by
    rw [h.truncated]
    exact decide_eq_false (by omega)
  rw [next, htruncated]
  rfl

/-- A walk asks for what is left behind the page: the marker moves to the last item that the page
lists, and what comes after it is what the page does not list. -/
theorem next_eq_ask {q : PageQuery} (h : ServedBy (after q.marker items) n p)
    (hitems : Page.Ascending items) (hpos : 0 < n) (hn : n < (after q.marker items).length) :
    ∃ m, next q p = .ask { q with marker := m } ∧
      after m items = (after q.marker items).drop n := by
  have hleft := ascending_after hitems q.marker
  have htruncated : p.isTruncated = true := by
    rw [h.truncated]
    exact decide_eq_true hn
  have hne : (after q.marker items).take n ≠ [] := by
    intro hnil
    have hlen := congrArg List.length hnil
    rw [List.length_take, List.length_nil] at hlen
    omega
  obtain ⟨front, x, hx⟩ : ∃ front x, (after q.marker items).take n = front ++ [x] :=
    ⟨_, _, (List.dropLast_concat_getLast hne).symm⟩
  have hsplit : after q.marker items = front ++ x :: (after q.marker items).drop n := by
    have hparts := List.take_append_drop n (after q.marker items)
    rw [hx, List.append_assoc] at hparts
    exact hparts.symm
  have hmarker : q.marker < x.key := by
    have hmem : x ∈ after q.marker items := by
      rw [hsplit]
      simp
    exact of_decide_eq_true (List.mem_filter.1 hmem).2
  have hcont : p.continuation = some x.key := by
    rw [h.continuation_eq hleft, hx, List.getLast?_concat]
    rfl
  have hnonempty : x.key.isEmpty = false := by
    rw [Bool.eq_false_iff]
    intro hempty
    rw [String.isEmpty_iff.1 hempty] at hmarker
    exact List.not_lt_nil _ hmarker
  have hnew : (x.key == q.marker) = false := by
    rw [beq_eq_false_iff_ne]
    intro heq
    rw [heq] at hmarker
    exact String.lt_irrefl _ hmarker
  refine ⟨x.key, ?_, ?_⟩
  · rw [next, htruncated, hcont]
    simp only [hnonempty, hnew, Bool.not_true, Bool.or_self, Bool.false_eq_true, if_false]
  · rw [← after_after hmarker, hsplit]
    rw [hsplit] at hleft
    rw [after_key hleft, ← hsplit]

end ServedBy

/-! ## Walks over a source that keeps items -/

/-- What a limit leaves of some items. -/
def within (limit : Option Nat) (l : List Page.Item) : List Page.Item :=
  match limit with
  | none => l
  | some n => l.take n

/-- The requests and the pages of a walk that gives the wanted items, each once and in order. No
request changes more than the marker, and there are no more requests than items, but for a first
one that finds nothing. -/
structure Covers (q : PageQuery) (wanted : List Page.Item) (asked : List PageQuery)
    (pages : List Page) : Prop where
  scope : ∀ a ∈ asked, a = { q with marker := a.marker }
  few : asked.length ≤ max 1 wanted.length
  items : pages.flatMap Page.items = wanted
  objects : pages.flatMap Page.entries = wanted.filterMap Page.Item.entry?

variable {q : PageQuery} {wanted rest : List Page.Item} {p : Page}

/-- A single page covers what it lists. -/
theorem covers_single (hp : p.Lists wanted) (hwanted : Page.Ascending wanted) :
    Covers q wanted [q] [p] := by
  refine ⟨?_, ?_, ?_, ?_⟩
  · intro a ha
    rw [List.mem_singleton.1 ha]
  · exact Nat.le_max_left 1 _
  · rw [List.flatMap_singleton, hp.items hwanted]
  · rw [List.flatMap_singleton, hp.entries]

/-- A page in front of a walk covers what it lists besides what the walk covers. -/
theorem covers_cons {marker : String} {asked : List PageQuery} {pages : List Page}
    (hp : p.Lists wanted) (hwanted : Page.Ascending wanted) (hne : wanted ≠ []) (hrest : rest ≠ [])
    (h : Covers { q with marker } rest asked pages) :
    Covers q (wanted ++ rest) (q :: asked) (p :: pages) := by
  refine ⟨?_, ?_, ?_, ?_⟩
  · intro a ha
    rcases List.mem_cons.1 ha with rfl | ha
    · rfl
    · exact h.scope a ha
  · have hfew := h.few
    have hpos := List.length_pos_iff.2 hne
    have hpos' := List.length_pos_iff.2 hrest
    rw [List.length_cons, List.length_append]
    omega
  · rw [List.flatMap_cons, hp.items hwanted, h.items]
  · rw [List.flatMap_cons, hp.entries, h.objects, List.filterMap_append]

/-- One request of a walk over kept items: its page is the last one and lists what the limit leaves,
or the walk goes on after the page with what is left of the items and of the limit. -/
theorem run_walkFrom_step (hitems : Page.Ascending items) (hkeeps : Keeps items source)
    (parts : Page → List β) (fuel : Nat) (q : PageQuery) (limit : Option Nat) (log : WalkLog β) :
    (∃ given : Page, given.Lists (within limit (after q.marker items)) ∧
      (walkFrom (asking source) (noting parts) (fuel + 1) q limit).run log =
        (.complete, log.add [q] (parts given))) ∨
    ∃ n p marker limit', 0 < n ∧ n < (after q.marker items).length ∧ limit' ≠ some 0 ∧
      p.Lists ((after q.marker items).take n) ∧
      after marker items = (after q.marker items).drop n ∧
      within limit (after q.marker items) =
        (after q.marker items).take n ++ within limit' ((after q.marker items).drop n) ∧
      (walkFrom (asking source) (noting parts) (fuel + 1) q limit).run log =
        (walkFrom (asking source) (noting parts) fuel { q with marker } limit').run
          (log.add [q] (parts p)) := by
  obtain ⟨n, p, hpos, hsource, hserved⟩ := hkeeps log.asked.length q
  have hchunk := (ascending_after hitems q.marker).sublist (List.take_sublist n _)
  have hsize := hserved.lists.size_eq
  rw [List.length_take] at hsize
  rw [run_walkFrom_of_ok source parts fuel q limit log hsource]
  by_cases hn : n < (after q.marker items).length
  · obtain ⟨marker, hnext, hafter⟩ := hserved.next_eq_ask hitems hpos hn
    rw [Nat.min_eq_left (by omega)] at hsize
    cases limit with
    | none =>
      refine .inr ⟨n, p, marker, none, hpos, hn, by simp, hserved.lists, hafter, ?_, ?_⟩
      · exact (List.take_append_drop n _).symm
      · rw [show share none p = (p, .unlimited) from rfl, hnext]
    | some k =>
      by_cases hk : k ≤ n
      · -- the page is cut where the limit is reached
        have htrim := hserved.lists.trim hchunk k
        rw [List.take_take, Nat.min_eq_left hk] at htrim
        refine .inl ⟨p.trim k, htrim, ?_⟩
        rw [show share (some k) p = (p.trim k, .nothing) from if_pos (hsize ▸ hk)]
      · refine .inr ⟨n, p, marker, some (k - n), hpos, hn, by simp; omega, hserved.lists, hafter,
          ?_, ?_⟩
        · rw [within, within, ← List.take_add, Nat.add_sub_cancel' (by omega)]
        · rw [show share (some k) p = (p, .atMost (k - p.size)) from if_neg (hsize ▸ hk), hnext,
            hsize]
  · -- nothing is left behind the page, whatever the limit is
    have hall : (after q.marker items).take n = after q.marker items :=
      List.take_of_length_le (by omega)
    have hlists := hserved.lists
    rw [hall] at hlists hchunk
    rw [hserved.next_eq_complete (by omega) q]
    cases limit with
    | none => exact .inl ⟨p, hlists, rfl⟩
    | some k =>
      by_cases hk : k ≤ p.size
      · refine .inl ⟨p.trim k, hlists.trim hchunk k, ?_⟩
        rw [show share (some k) p = (p.trim k, .nothing) from if_pos hk]
      · have hwithin : within (some k) (after q.marker items) = after q.marker items :=
          List.take_of_length_le (by omega)
        rw [hwithin]
        refine .inl ⟨p, hlists, ?_⟩
        rw [show share (some k) p = (p, .atMost (k - p.size)) from if_neg hk]

/-- A limit above zero leaves some of some items. -/
theorem within_ne_nil {limit : Option Nat} (hlimit : limit ≠ some 0) {l : List Page.Item}
    (hl : l ≠ []) : within limit l ≠ [] := by
  cases limit with
  | none => exact hl
  | some k =>
    have hk : k ≠ 0 := fun h => hlimit (h ▸ rfl)
    rw [within, Ne, List.take_eq_nil_iff, not_or]
    exact ⟨hk, hl⟩

/-- What a limit leaves of ascending items ascends. -/
theorem ascending_within {l : List Page.Item} (h : Page.Ascending l) (limit : Option Nat) :
    Page.Ascending (within limit l) := by
  cases limit with
  | none => exact h
  | some k => exact h.sublist (List.take_sublist k l)

/-- **A walk over kept items.** With enough requests allowed, a walk that begins anywhere completes
and covers what the limit leaves of the items after its marker. -/
theorem run_walkFrom_of_keeps (hitems : Page.Ascending items) (hkeeps : Keeps items source)
    (parts : Page → List β) (fuel : Nat) : ∀ (q : PageQuery) (limit : Option Nat) (log : WalkLog β),
    (after q.marker items).length < fuel →
    ∃ asked pages,
      (walkFrom (asking source) (noting parts) fuel q limit).run log =
        (.complete, log.add asked (pages.flatMap parts)) ∧
      Covers q (within limit (after q.marker items)) asked pages := by
  induction fuel with
  | zero =>
    intro q limit log hfuel
    omega
  | succ fuel ih =>
    intro q limit log hfuel
    have hleft := ascending_after hitems q.marker
    rcases run_walkFrom_step hitems hkeeps parts fuel q limit log with
      ⟨given, hgiven, hrun⟩ |
      ⟨n, p, marker, limit', hpos, hn, hlimit', hp, hafter, hwithin, hrun⟩
    · refine ⟨[q], [given], ?_, covers_single hgiven (ascending_within hleft limit)⟩
      rw [hrun, List.flatMap_singleton]
    · -- the rest of the walk covers what the page does not list
      have hshort : (after marker items).length < fuel := by
        rw [hafter, List.length_drop]
        omega
      obtain ⟨asked, pages, hrest, hcovers⟩ :=
        ih { q with marker } limit' (log.add [q] (parts p)) hshort
      have hwanted : (after q.marker items).take n ≠ [] := by
        apply List.ne_nil_of_length_pos
        rw [List.length_take]
        omega
      have hbehind : (after q.marker items).drop n ≠ [] := by
        apply List.ne_nil_of_length_pos
        rw [List.length_drop]
        omega
      refine ⟨q :: asked, p :: pages, ?_, ?_⟩
      · rw [hrun, hrest, WalkLog.add_add, List.flatMap_cons, List.singleton_append]
      · rw [hafter] at hcovers
        rw [hwithin]
        exact covers_cons hp (hleft.sublist (List.take_sublist n _)) hwanted
          (within_ne_nil hlimit' hbehind) hcovers

/-- A walk of a cursor covers what its limit leaves of the items after its initial marker. -/
theorem run_walk_of_keeps (hitems : Page.Ascending items) (hkeeps : Keeps items source)
    (parts : Page → List β) (c : Cursor) {fuel : Nat}
    (hfuel : (after c.initial.marker items).length < fuel) (log : WalkLog β) :
    ∃ asked pages,
      (c.walk (asking source) (noting parts) fuel).run log =
        (.complete, log.add asked (pages.flatMap parts)) ∧
      Covers c.initial (within c.limit (after c.initial.marker items)) asked pages := by
  by_cases hlimit : c.limit = some 0
  · refine ⟨[], [], ?_, ?_⟩
    · rw [walk, if_pos hlimit]
      simp only [WalkLog.add, List.flatMap_nil, List.append_nil]
      rfl
    · rw [hlimit]
      exact ⟨by simp, by simp, rfl, rfl⟩
  · rw [walk, if_neg hlimit]
    exact run_walkFrom_of_keeps hitems hkeeps parts fuel c.initial c.limit log hfuel

/-- What a walk of a cursor sees when it notes whole pages. -/
def recorded (c : Cursor) (source : Nat → PageQuery → Except ε Page) (fuel : Nat)
    (log : WalkLog Page) : Ending ε × WalkLog Page :=
  (c.walk (asking source) (noting fun p => [p]) fuel).run log

/-- **Pagination neither loses nor repeats.** Over a source that keeps ascending items, a walk
completes without a stall and gives the items after its initial marker, each once and in order, or
the first of them up to its limit; no request changes more than the marker. A walk over objects
gives the objects among these items. A second walk of the cursor gives the same items again, and on
the same pages when the source answers it as it answered the first. -/
theorem walk_gives_each_once (hitems : Page.Ascending items) (hkeeps : Keeps items source)
    (c : Cursor) {fuel : Nat} (hfuel : (after c.initial.marker items).length < fuel) :
    let wanted := within c.limit (after c.initial.marker items)
    let first := c.recorded source fuel {}
    let again := c.recorded source fuel first.2
    (first.1 = .complete ∧ Covers c.initial wanted first.2.asked first.2.given) ∧
    (∃ asked, (c.walkEntries (asking source) notingEntry fuel).run {} =
      (.complete, ⟨asked, wanted.filterMap Page.Item.entry?⟩)) ∧
    again.1 = .complete ∧
    ∃ asked pages, again.2 = first.2.add asked pages ∧ Covers c.initial wanted asked pages ∧
      ((∀ j q, source (first.2.asked.length + j) q = source j q) →
        asked = first.2.asked ∧ pages = first.2.given) := by
  have hflat : ∀ pages : List Page, pages.flatMap (fun p => [p]) = pages := by
    intro pages
    rw [List.flatMap_singleton']
  intro wanted first again
  obtain ⟨asked, pages, hrun, hcovers⟩ :=
    run_walk_of_keeps hitems hkeeps (fun p => [p]) c hfuel {}
  obtain ⟨asked', pages', hrun', hcovers'⟩ :=
    run_walk_of_keeps hitems hkeeps (fun p => [p]) c hfuel first.2
  obtain ⟨askedFor, pagesOf, hobjects, hcoversOf⟩ :=
    run_walk_of_keeps hitems hkeeps Page.entries c hfuel {}
  rw [hflat] at hrun hrun'
  have hfirst : first = (.complete, ⟨asked, pages⟩) := hrun
  have hagain : again = (.complete, first.2.add asked' pages') := hrun'
  refine ⟨?_, ⟨askedFor, ?_⟩, ?_, asked', pages', ?_, hcovers', ?_⟩
  · rw [hfirst]
    exact ⟨rfl, hcovers⟩
  · rw [walkEntries_notingEntry, hobjects, hcoversOf.objects]
    rfl
  · rw [hagain]
  · rw [hagain]
  · intro hsame
    have hshift : ∀ j q, source (first.2.asked.length + j) q =
        source (({} : WalkLog Page).asked.length + j) q := by
      intro j q
      rw [hsame, List.length_nil, Nat.zero_add]
    obtain ⟨ending, asked'', given, hstart, hrepeat⟩ :=
      run_walk_shift source (fun p => [p]) c fuel {} first.2 hshift
    have hone : (Ending.complete, ⟨asked, pages⟩) =
        (ending, ({} : WalkLog Page).add asked'' given) := hrun.symm.trans hstart
    have htwo : (Ending.complete, first.2.add asked' pages') =
        (ending, first.2.add asked'' given) := hrun'.symm.trans hrepeat
    simp only [WalkLog.add, List.nil_append, Prod.mk.injEq, WalkLog.mk.injEq,
      List.append_cancel_left_eq] at hone htwo
    rw [hfirst]
    exact ⟨htwo.2.1.trans hone.2.1.symm, htwo.2.2.trans hone.2.2.symm⟩

/-- Two objects with a group between them. -/
def threeItems : List Page.Item :=
  [.entry { key := "a", size := 1 }, .group "b/", .entry { key := "c", size := 3 }]

/-- Their pages: one item on the first page, two on the second, which names its last item. -/
def pagesOfThree : Nat → PageQuery → Except String Page :=
  serving threeItems (fun k => k + 1) fun k => k == 1

/-- A first page of one item and a second page that ends with a group, under a limit of two. -/
theorem walk_gives_two_of_three :
    Page.Ascending threeItems ∧
    Keeps threeItems pagesOfThree ∧
    (after "" threeItems).length < 4 ∧
    (recorded { limit := some 2 } pagesOfThree 4 {}).2.given.flatMap Page.items =
      [.entry { key := "a", size := 1 }, .group "b/"] := by
  have hitems : Page.Ascending threeItems := by
    unfold Page.Ascending
    decide
  have hkeeps : Keeps threeItems pagesOfThree :=
    keeps_serving threeItems (fun k => Nat.succ_pos k) _
  have hafter : after "" threeItems = threeItems := by decide
  have hlength : (after "" threeItems).length < 4 := by
    rw [hafter]
    decide
  have h := walk_gives_each_once hitems hkeeps { limit := some 2 } hlength
  refine ⟨hitems, hkeeps, hlength, ?_⟩
  rw [h.1.2.items, hafter]
  rfl

end CloudClient.Cursor
