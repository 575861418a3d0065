import CloudClient.Listing.Cursor

/-!
# Recorded walks

A walk over a listing is run against a source that may answer each request in its own way. A log
keeps the requests that were made and what was given of their pages. One step of a walk depends on
the answer alone; a source that begins to repeat its answers leads a second walk the way of the
first.
-/

namespace CloudClient.Cursor

variable {ε β : Type}

/-! ## The log -/

/-- What a walk has done: the requests that it made, and what it gave of their pages. -/
structure WalkLog (β : Type) where
  asked : List PageQuery := []
  given : List β := []

/-- The log with more requests, and more given. -/
def WalkLog.add (log : WalkLog β) (asked : List PageQuery) (given : List β) : WalkLog β :=
  ⟨log.asked ++ asked, log.given ++ given⟩

/-- What is added to a log in two parts is added in one. -/
theorem WalkLog.add_add (log : WalkLog β) (asked asked' : List PageQuery) (given given' : List β) :
    (log.add asked given).add asked' given' = log.add (asked ++ asked') (given ++ given') := by
  simp only [add, List.append_assoc]

/-- The number of requests in a log that is added to. -/
theorem WalkLog.length_asked_add (log : WalkLog β) (asked : List PageQuery) (given : List β) :
    (log.add asked given).asked.length = log.asked.length + asked.length :=
  List.length_append

/-- Asks a source for a page and notes the request. A source may answer the same request differently
the next time; it is told how many requests came before. -/
def asking (source : Nat → PageQuery → Except ε Page) (q : PageQuery) :
    StateM (WalkLog β) (Except ε Page) := fun log =>
  (source log.asked.length q, log.add [q] [])

/-- Notes what is given of a page, and wants more. -/
def noting (parts : Page → List β) (p : Page) : StateM (WalkLog β) Bool := fun log =>
  (true, log.add [] (parts p))

/-- Notes an object, and wants more. -/
def notingEntry (e : ObjectEntry) : StateM (WalkLog ObjectEntry) Bool := fun log =>
  (true, log.add [] [e])

/-- Objects are noted one by one as the objects of a page are noted at once. -/
theorem visitEach_notingEntry (entries : List ObjectEntry) (log : WalkLog ObjectEntry) :
    (visitEach notingEntry entries).run log = (true, log.add [] entries) := by
  induction entries generalizing log with
  | nil =>
    show (true, log) = (true, log.add [] [])
    rw [WalkLog.add, List.append_nil, List.append_nil]
  | cons e rest ih =>
    have hstep : (visitEach notingEntry (e :: rest)).run log =
        (visitEach notingEntry rest).run (log.add [] [e]) := by
      rw [visitEach, StateT.run_bind]
      rfl
    rw [hstep, ih, WalkLog.add_add]
    rfl

/-- A walk over objects notes the objects of each page. -/
theorem walkEntries_notingEntry (c : Cursor)
    (fetch : PageQuery → StateM (WalkLog ObjectEntry) (Except ε Page)) (fuel : Nat) :
    c.walkEntries fetch notingEntry fuel = c.walk fetch (noting Page.entries) fuel := by
  have hvisit : (fun p : Page => visitEach notingEntry p.entries) = noting Page.entries := by
    funext p log
    exact visitEach_notingEntry p.entries log
  rw [walkEntries, hvisit]

/-! ## Steps -/

variable (source : Nat → PageQuery → Except ε Page) (parts : Page → List β)

/-- A walk ends with the failure of a page. -/
theorem run_walkFrom_of_error (fuel : Nat) (q : PageQuery) (limit : Option Nat) (log : WalkLog β)
    {e : ε} (he : source log.asked.length q = .error e) :
    (walkFrom (asking source) (noting parts) (fuel + 1) q limit).run log =
      (.failed e, log.add [q] []) := by
  have hfetch : (asking source q).run log = pure (.error e, log.add [q] []) := by
    show (source log.asked.length q, _) = _
    rw [he]
    rfl
  rw [walkFrom, StateT.run_bind, hfetch, pure_bind]
  rfl

/-- A page is given as far as the limit allows, and the walk goes on as the page and the limit
say. -/
theorem run_walkFrom_of_ok (fuel : Nat) (q : PageQuery) (limit : Option Nat) (log : WalkLog β)
    {page : Page} (hpage : source log.asked.length q = .ok page) :
    (walkFrom (asking source) (noting parts) (fuel + 1) q limit).run log =
      let log := log.add [q] (parts (share limit page).1)
      match (share limit page).2, next q page with
      | .nothing, _ => (.complete, log)
      | _, .complete => (.complete, log)
      | _, .stalled warning => (.stalled warning, log)
      | .unlimited, .ask q' => (walkFrom (asking source) (noting parts) fuel q' none).run log
      | .atMost n, .ask q' =>
        (walkFrom (asking source) (noting parts) fuel q' (some n)).run log := by
  have hfetch : (asking source q).run log = pure (.ok page, log.add [q] []) := by
    show (source log.asked.length q, _) = _
    rw [hpage]
    rfl
  have hadd : ∀ given : List β, (log.add [q] []).add [] given = log.add [q] given := by
    intro given
    rw [WalkLog.add_add, List.append_nil, List.nil_append]
  rw [walkFrom, StateT.run_bind, hfetch, pure_bind]
  dsimp only
  obtain ⟨given, remaining⟩ := share limit page
  dsimp only
  rw [← hadd (parts given)]
  cases remaining <;> cases next q page <;> rfl

/-- A source that answers from one request on as it did from another leads a walk the same way. -/
theorem run_walkFrom_shift (fuel : Nat) : ∀ (q : PageQuery) (limit : Option Nat)
    (log log' : WalkLog β),
    (∀ j q, source (log'.asked.length + j) q = source (log.asked.length + j) q) →
    ∃ ending asked given,
      (walkFrom (asking source) (noting parts) fuel q limit).run log =
        (ending, log.add asked given) ∧
      (walkFrom (asking source) (noting parts) fuel q limit).run log' =
        (ending, log'.add asked given) := by
  induction fuel with
  | zero =>
    intro q limit log log' _
    refine ⟨.unfinished, [], [], ?_, ?_⟩ <;> simp [walkFrom, WalkLog.add] <;> rfl
  | succ fuel ih =>
    intro q limit log log' hsame
    have hstart : source log'.asked.length q = source log.asked.length q := by
      simpa using hsame 0 q
    cases hanswer : source log.asked.length q with
    | error e =>
      exact ⟨.failed e, [q], [], run_walkFrom_of_error source parts fuel q limit log hanswer,
        run_walkFrom_of_error source parts fuel q limit log' (hstart.trans hanswer)⟩
    | ok page =>
      rw [run_walkFrom_of_ok source parts fuel q limit log hanswer,
        run_walkFrom_of_ok source parts fuel q limit log' (hstart.trans hanswer)]
      obtain ⟨given, remaining⟩ := share limit page
      -- the two logs are equally far apart after the page
      have hlater : ∀ j q', source ((log'.add [q] (parts given)).asked.length + j) q' =
          source ((log.add [q] (parts given)).asked.length + j) q' := by
        intro j q'
        have h := hsame (1 + j) q'
        rw [← Nat.add_assoc, ← Nat.add_assoc] at h
        rw [WalkLog.length_asked_add, WalkLog.length_asked_add]
        exact h
      have hgo : ∀ q' limit', ∃ ending asked given',
          (walkFrom (asking source) (noting parts) fuel q' limit').run (log.add [q] (parts given))
            = (ending, log.add asked given') ∧
          (walkFrom (asking source) (noting parts) fuel q' limit').run (log'.add [q] (parts given))
            = (ending, log'.add asked given') := by
        intro q' limit'
        obtain ⟨ending, asked, given', h, h'⟩ := ih q' limit' _ _ hlater
        rw [WalkLog.add_add] at h h'
        exact ⟨ending, [q] ++ asked, parts given ++ given', h, h'⟩
      cases hnext : next q page with
      | complete =>
        cases remaining <;> exact ⟨.complete, [q], parts given, rfl, rfl⟩
      | stalled warning =>
        cases remaining
        · exact ⟨.stalled warning, [q], parts given, rfl, rfl⟩
        · exact ⟨.stalled warning, [q], parts given, rfl, rfl⟩
        · exact ⟨.complete, [q], parts given, rfl, rfl⟩
      | ask q' =>
        cases remaining with
        | unlimited => exact hgo q' none
        | atMost n => exact hgo q' (some n)
        | nothing => exact ⟨.complete, [q], parts given, rfl, rfl⟩

/-- A source that repeats its answers leads a second walk of a cursor the way of the first. -/
theorem run_walk_shift (c : Cursor) (fuel : Nat) (log log' : WalkLog β)
    (hsame : ∀ j q, source (log'.asked.length + j) q = source (log.asked.length + j) q) :
    ∃ ending asked given,
      (c.walk (asking source) (noting parts) fuel).run log = (ending, log.add asked given) ∧
      (c.walk (asking source) (noting parts) fuel).run log' = (ending, log'.add asked given) := by
  by_cases hlimit : c.limit = some 0
  · refine ⟨.complete, [], [], ?_, ?_⟩ <;> rw [walk, if_pos hlimit] <;>
      simp only [WalkLog.add, List.append_nil] <;> rfl
  · rw [walk, if_neg hlimit]
    exact run_walkFrom_shift source parts fuel c.initial c.limit log log' hsame

end CloudClient.Cursor
