import CloudClient.Proofs.Listing.Pagination

/-!
# Limited walks

A limit changes nothing of a walk until it is reached: the same requests are made and the same pages
are given. The page that reaches the limit is cut and is the last one. The pages may have any shape,
sorted or not, and a request may fail.
-/

namespace CloudClient

namespace Page

/-- A cut page has as many items as the limit, when it has that many at all. -/
theorem size_trim (p : Page) (n : Nat) : (p.trim n).size = min n p.size := by
  by_cases hle : p.size ≤ n
  · rw [trim_of_size_le (by omega)]
    omega
  · rw [trim_of_lt (by omega), size, length_apart, List.length_take, length_items]

end Page

namespace Cursor

variable {ε β : Type}

/-! ## Pages up to a limit -/

/-- The number of items on some pages. -/
def itemCount : List Page → Nat
  | [] => 0
  | p :: rest => p.size + itemCount rest

/-- The page at place `j` is the first with which the pages hold as many items as a limit allows. -/
structure ReachedAt (limit : Nat) (pages : List Page) (j : Nat) : Prop where
  before : ∀ i ≤ j, itemCount (pages.take i) < limit
  reached : limit ≤ itemCount (pages.take (j + 1))

/-- The pages that a limit allows: those before the limit is reached, and of the page that reaches
it as many items as are left. -/
def upTo : Nat → List Page → List Page
  | _, [] => []
  | limit, p :: rest =>
    if limit ≤ p.size then [p.trim limit] else p :: upTo (limit - p.size) rest

variable {limit j : Nat} {p : Page} {pages : List Page}

/-- The items of a first page count besides those of the other pages. -/
theorem itemCount_cons (p : Page) (pages : List Page) :
    itemCount (p :: pages) = p.size + itemCount pages := rfl

/-- The items are counted part by part. -/
theorem itemCount_append (l r : List Page) : itemCount (l ++ r) = itemCount l + itemCount r := by
  induction l with
  | nil => rw [List.nil_append, itemCount, Nat.zero_add]
  | cons p l ih => rw [List.cons_append, itemCount_cons, itemCount_cons, ih, Nat.add_assoc]

/-- Pages that reach a limit are cut to exactly as many items. -/
theorem itemCount_upTo (h : limit ≤ itemCount pages) : itemCount (upTo limit pages) = limit := by
  induction pages generalizing limit with
  | nil => exact (Nat.le_zero.1 h).symm
  | cons p rest ih =>
    rw [itemCount_cons] at h
    unfold upTo
    split
    case isTrue hle =>
      rw [itemCount_cons, Page.size_trim, Nat.min_eq_left hle]
      rfl
    case isFalse hlt =>
      rw [itemCount_cons, ih (by omega)]
      omega

/-- A limit that the first page does not reach is reached at a later page, by what the first page
leaves of it. -/
theorem ReachedAt.tail (h : ReachedAt limit (p :: pages) (j + 1)) :
    ReachedAt (limit - p.size) pages j := by
  refine ⟨?_, ?_⟩
  · intro i hi
    have hbefore := h.before (i + 1) (by omega)
    rw [List.take_succ_cons, itemCount_cons] at hbefore
    omega
  · have hreached := h.reached
    rw [List.take_succ_cons, itemCount_cons] at hreached
    omega

/-- Where a limit is reached there is a page, and it is cut after the whole pages before it. -/
theorem upTo_of_reachedAt (h : ReachedAt limit pages j) :
    ∃ page, pages[j]? = some page ∧
      upTo limit pages = pages.take j ++ [page.trim (limit - itemCount (pages.take j) : Nat)] := by
  induction pages generalizing limit j with
  | nil =>
    have hpos := h.before 0 (Nat.zero_le j)
    have hreached := h.reached
    rw [List.take_nil] at hpos hreached
    omega
  | cons p rest ih =>
    cases j with
    | zero =>
      have hreached : limit ≤ p.size := h.reached
      refine ⟨p, rfl, ?_⟩
      rw [upTo, if_pos hreached]
      rfl
    | succ j =>
      have hlt := h.before 1 (by omega)
      rw [List.take_succ_cons, List.take_zero, itemCount_cons] at hlt
      obtain ⟨page, hpage, hupTo⟩ := ih h.tail
      refine ⟨page, hpage, ?_⟩
      rw [upTo, if_neg (by simpa [itemCount] using hlt), hupTo, List.take_succ_cons,
        itemCount_cons, Nat.sub_sub]
      rfl

/-- The pages that reach a limit reach it at one of them. -/
theorem ReachedAt.le_itemCount (h : ReachedAt limit pages j) : limit ≤ itemCount pages := by
  have hsplit : itemCount pages =
      itemCount (pages.take (j + 1)) + itemCount (pages.drop (j + 1)) := by
    rw [← itemCount_append, List.take_append_drop]
  have hreached := h.reached
  omega

/-! ## Walks with and without a limit -/

variable (source : Nat → PageQuery → Except ε Page)

/-- The walk that notes whole pages. -/
def noteFrom (fuel : Nat) (q : PageQuery) (limit : Option Nat) (log : WalkLog Page) :
    Ending ε × WalkLog Page :=
  (walkFrom (asking source) (noting fun p => [p]) fuel q limit).run log

/-- What a walk adds to a log under a limit, when without one it adds the given requests and pages:
the same while the limit is not reached, and else as many pages as the limit allows. -/
structure LimitedBy (limit : Nat) (ending : Ending ε) (asked : List PageQuery) (pages : List Page)
    (log : WalkLog Page) (held : Ending ε × WalkLog Page) : Prop where
  short : itemCount pages < limit → held = (ending, log.add asked pages)
  full : limit ≤ itemCount pages →
    held = (.complete, log.add (asked.take (upTo limit pages).length) (upTo limit pages))

variable {source} {fuel : Nat} {q : PageQuery} {log : WalkLog Page} {ending : Ending ε}
  {asked : List PageQuery} {held : Ending ε × WalkLog Page}

/-- A first page that does not reach the limit stands before what the rest of the limit allows. -/
theorem LimitedBy.cons (hp : p.size < limit)
    (h : LimitedBy (limit - p.size) ending asked pages (log.add [q] [p]) held) :
    LimitedBy limit ending (q :: asked) (p :: pages) log held := by
  refine ⟨?_, ?_⟩
  · intro hlt
    rw [itemCount_cons] at hlt
    rw [h.short (by omega), WalkLog.add_add]
    rfl
  · intro hle
    rw [itemCount_cons] at hle
    rw [h.full (by omega), WalkLog.add_add, upTo, if_neg (by omega)]
    rfl

/-- A first page that reaches the limit is cut, whatever the walk without a limit does after it. -/
theorem limitedBy_of_le (hp : limit ≤ p.size) :
    LimitedBy limit ending (q :: asked) (p :: pages) log
      (.complete, log.add [q] [p.trim limit]) := by
  refine ⟨?_, ?_⟩
  · intro hlt
    rw [itemCount_cons] at hlt
    omega
  · intro _
    rw [upTo, if_pos hp]
    rfl

/-- A walk that ends with a page below the limit ends in the same way under the limit. -/
theorem limitedBy_single (hp : p.size < limit) :
    LimitedBy limit ending [q] [p] log (ending, log.add [q] [p]) := by
  refine ⟨fun _ => rfl, ?_⟩
  intro hle
  rw [itemCount_cons, itemCount] at hle
  omega

/-- A walk that is given no page ends in the same way under a limit. -/
theorem limitedBy_nil (hlimit : 0 < limit) :
    LimitedBy limit ending asked [] log (ending, log.add asked []) := by
  refine ⟨fun _ => rfl, ?_⟩
  intro hle
  rw [itemCount] at hle
  omega

variable (source)

/-- A page that reaches the limit is the last one of a walk and is cut. -/
theorem noteFrom_of_le (fuel : Nat) {q : PageQuery} {log : WalkLog Page} {page : Page}
    (hanswer : source log.asked.length q = .ok page) (hreached : limit ≤ page.size) :
    noteFrom source (fuel + 1) q (some limit) log =
      (.complete, log.add [q] [page.trim limit]) := by
  have hshare : share (some limit) page = (page.trim limit, .nothing) := if_pos hreached
  rw [noteFrom, run_walkFrom_of_ok source _ fuel q (some limit) log hanswer, hshare]

/-- A page that no limit cuts is followed by the same under every limit: the end of the walk, or
another request under what the page leaves of the limit. -/
theorem noteFrom_of_ok (fuel : Nat) {q : PageQuery} {log : WalkLog Page} {page : Page}
    (hanswer : source log.asked.length q = .ok page) :
    (∃ ending,
      noteFrom source (fuel + 1) q none log = (ending, log.add [q] [page]) ∧
      ∀ limit, page.size < limit →
        noteFrom source (fuel + 1) q (some limit) log = (ending, log.add [q] [page])) ∨
    ∃ q',
      noteFrom source (fuel + 1) q none log = noteFrom source fuel q' none (log.add [q] [page]) ∧
      ∀ limit, page.size < limit →
        noteFrom source (fuel + 1) q (some limit) log =
          noteFrom source fuel q' (some (limit - page.size)) (log.add [q] [page]) := by
  have hstep := run_walkFrom_of_ok source (fun p : Page => [p]) fuel q
  have hshare : ∀ limit, page.size < limit →
      share (some limit) page = (page, .atMost (limit - page.size)) :=
    fun limit hlimit => if_neg (Nat.not_le.2 hlimit)
  have hfree := hstep none log hanswer
  cases hnext : next q page with
  | complete =>
    rw [hnext] at hfree
    refine .inl ⟨.complete, hfree, fun limit hlimit => ?_⟩
    rw [noteFrom, hstep (some limit) log hanswer, hshare limit hlimit, hnext]
  | stalled warning =>
    rw [hnext] at hfree
    refine .inl ⟨.stalled warning, hfree, fun limit hlimit => ?_⟩
    rw [noteFrom, hstep (some limit) log hanswer, hshare limit hlimit, hnext]
  | ask q' =>
    rw [hnext] at hfree
    refine .inr ⟨q', hfree, fun limit hlimit => ?_⟩
    rw [noteFrom, hstep (some limit) log hanswer, hshare limit hlimit, hnext]
    rfl

/-- A limit that is not reached leaves a walk as it is; one that is reached ends the walk with the
page that reaches it, after as many requests as pages are given. The induction is on the requests
that are left; what a page leaves of the limit is the limit of the rest. -/
theorem noteFrom_limited (fuel : Nat) : ∀ (q : PageQuery) (limit : Nat) (log : WalkLog Page),
    0 < limit →
    ∃ ending asked pages,
      noteFrom source fuel q none log = (ending, log.add asked pages) ∧
      LimitedBy limit ending asked pages log (noteFrom source fuel q (some limit) log) := by
  induction fuel with
  | zero =>
    intro q limit log hpos
    have hstop : ∀ limit, noteFrom source 0 q limit log = (.unfinished, log.add [] []) := by
      intro limit
      simp only [noteFrom, walkFrom, WalkLog.add, List.append_nil]
      rfl
    refine ⟨.unfinished, [], [], hstop none, ?_⟩
    rw [hstop]
    exact limitedBy_nil hpos
  | succ fuel ih =>
    intro q limit log hpos
    cases hanswer : source log.asked.length q with
    | error e =>
      have hfail := run_walkFrom_of_error source (fun p : Page => [p]) fuel q
      refine ⟨.failed e, [q], [], hfail none log hanswer, ?_⟩
      rw [noteFrom, hfail (some limit) log hanswer]
      exact limitedBy_nil hpos
    | ok page =>
      rcases noteFrom_of_ok source fuel hanswer with ⟨ending, hfree, hheld⟩ | ⟨q', hfree, hheld⟩
      · refine ⟨ending, [q], [page], hfree, ?_⟩
        by_cases hreached : limit ≤ page.size
        · rw [noteFrom_of_le source fuel hanswer hreached]
          exact limitedBy_of_le hreached
        · rw [hheld limit (Nat.not_le.1 hreached)]
          exact limitedBy_single (Nat.not_le.1 hreached)
      · -- a limit that is reached says nothing about the rest of the walk without a limit
        obtain ⟨ending, asked, pages, hrest, hlimited⟩ :=
          ih q' (max 1 (limit - page.size)) (log.add [q] [page]) (by omega)
        rw [WalkLog.add_add] at hrest
        refine ⟨ending, q :: asked, page :: pages, hfree.trans hrest, ?_⟩
        by_cases hreached : limit ≤ page.size
        · rw [noteFrom_of_le source fuel hanswer hreached]
          exact limitedBy_of_le hreached
        · have hbelow : page.size < limit := Nat.not_le.1 hreached
          rw [Nat.max_eq_right (by omega)] at hlimited
          rw [hheld limit hbelow]
          exact hlimited.cons hbelow

/-- **A limited walk is the truncation of the unlimited one.** Let a walk without a limit be given
some pages. When the page at place `j` is the first with which they hold as many items as a limit,
the walk under the limit makes the same first `j + 1` requests, gives the first `j` pages as they
are and then what is left of the limit of the next, and is complete with exactly so many items. When
the pages never hold as many, both walks make the same requests, give the same pages and end in the
same way. Under a limit of zero nothing is asked for. -/
theorem limited_walk_is_truncated (initial : PageQuery) (limit fuel : Nat) :
    let free := recorded { initial } source fuel {}
    let held := recorded { initial, limit := some limit } source fuel {}
    (∀ j, ReachedAt limit free.2.given j →
      (∃ page, free.2.given[j]? = some page ∧
        held.2.given = free.2.given.take j ++
          [page.trim (limit - itemCount (free.2.given.take j) : Nat)]) ∧
      held.2.asked = free.2.asked.take (j + 1) ∧
      held.1 = .complete ∧
      itemCount held.2.given = limit) ∧
    (itemCount free.2.given < limit → held = free) ∧
    (limit = 0 → held = (.complete, {})) := by
  intro free held
  by_cases hlimit : limit = 0
  · subst hlimit
    refine ⟨?_, ?_, fun _ => rfl⟩
    · intro j hj
      exact absurd (hj.before 0 (Nat.zero_le j)) (Nat.not_lt_zero _)
    · intro hlt
      exact absurd hlt (Nat.not_lt_zero _)
  · obtain ⟨ending, asked, pages, hfree, hheld⟩ :=
      noteFrom_limited source fuel initial limit {} (Nat.pos_of_ne_zero hlimit)
    have hfree' : free = (ending, ⟨asked, pages⟩) := hfree
    have hstart : held = noteFrom source fuel initial (some limit) {} := by
      have hstarts : (some limit : Option Nat) ≠ some 0 := fun h => hlimit (Option.some.inj h)
      show (walk { initial, limit := some limit } (asking source) (noting fun p => [p]) fuel).run
        ({} : WalkLog Page) = _
      rw [walk, if_neg hstarts]
      rfl
    rw [← hstart] at hheld
    rw [hfree']
    refine ⟨?_, hheld.short, fun h => absurd h hlimit⟩
    intro j hj
    replace hj : ReachedAt limit pages j := hj
    obtain ⟨page, hpage, hupTo⟩ := upTo_of_reachedAt hj
    have hfull := hheld.full hj.le_itemCount
    have hlength : (upTo limit pages).length = j + 1 := by
      have hlt : j < pages.length := (List.getElem?_eq_some_iff.1 hpage).1
      rw [hupTo, List.length_append, List.length_take, List.length_singleton,
        Nat.min_eq_left (by omega)]
    rw [hlength] at hfull
    rw [hfull]
    exact ⟨⟨page, hpage, hupTo⟩, rfl, rfl, itemCount_upTo hj.le_itemCount⟩

/-- A page of two objects out of order, a page of an object and a group, and then a failure. -/
def twoPagesThenFailure : Nat → PageQuery → Except String Page
  | 0, _ => .ok
      { bucket := "bucket"
        entries := [{ key := "b", size := 1 }, { key := "a", size := 2 }]
        isTruncated := true }
  | 1, _ => .ok
      { bucket := "bucket"
        entries := [{ key := "d", size := 3 }]
        commonPrefixes := ["c/"]
        isTruncated := true }
  | _, _ => .error "unavailable"

/-- Under a limit of three the second page is cut and the failure after it is never met. -/
theorem limited_walk_gives_three :
    let held := recorded { limit := some 3 } twoPagesThenFailure 5 {}
    ReachedAt 3 (recorded {} twoPagesThenFailure 5 {}).2.given 1 ∧
    held.1 = .complete ∧
    held.2.asked = [{}, { marker := "a" }] ∧
    itemCount held.2.given = 3 := by
  intro held
  have hreached : ReachedAt 3 (recorded {} twoPagesThenFailure 5 {}).2.given 1 := by
    refine ⟨?_, ?_⟩
    · intro i hi
      rcases Nat.le_one_iff_eq_zero_or_eq_one.1 hi with rfl | rfl <;> decide
    · decide
  obtain ⟨-, hasked, hending, hcount⟩ :=
    (limited_walk_is_truncated twoPagesThenFailure {} 3 5).1 1 hreached
  exact ⟨hreached, hending, hasked, hcount⟩

end Cursor

end CloudClient
