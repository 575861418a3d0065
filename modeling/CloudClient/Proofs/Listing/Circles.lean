import CloudClient.Proofs.Listing.Pagination
import Mathlib.Logic.Relation
import Mathlib.Data.List.Chain
import Mathlib.Data.List.Nodup
import Mathlib.Data.List.Perm.Subperm

/-!
# Walks in circles

A source that answers each request as the request says leads a walk from request to request in one
way only. A request is never followed by itself, because a page that repeats the marker it was asked
for stalls the walk. But two pages may name each other's places, and then the walk goes round
without end. Where the markers do not lead back, and in particular where none is smaller than the
one before, no request is made twice and finitely many markers make every walk end.
-/

namespace CloudClient.Cursor

variable {ε : Type} (fetch : PageQuery → Except ε Page)

/-! ## From request to request -/

/-- The source that answers a request as the request says, whatever came before. -/
def answering (_count : Nat) (q : PageQuery) : Except ε Page := fetch q

/-- The request that follows a request, as long as no limit is reached. -/
def following? (q : PageQuery) : Option PageQuery :=
  match fetch q with
  | .error _ => none
  | .ok p =>
    match next q p with
    | .ask q' => some q'
    | _ => none

/-- A walk over one page or more leads from a request to another. -/
def LeadsTo : PageQuery → PageQuery → Prop :=
  Relation.TransGen fun q q' => following? fetch q = some q'

variable {fetch} {q q' : PageQuery} {asked rest : List PageQuery}

/-- A walk asks on with the place that a page names, when it is not the place that was asked for. -/
theorem exists_of_next_eq_ask {p : Page} (h : next q p = .ask q') :
    ∃ m, p.continuation = some m ∧ m ≠ q.marker ∧ q' = { q with marker := m } := by
  unfold next at h
  split at h
  · cases h
  · cases hc : p.continuation with
    | none =>
      rw [hc] at h
      cases h
    | some m =>
      rw [hc] at h
      by_cases hold : (m.isEmpty || m == q.marker) = true
      · simp only [hold, if_true] at h
        cases h
      · simp only [hold] at h
        cases h
        refine ⟨m, rfl, ?_, rfl⟩
        intro heq
        exact hold (by rw [heq, beq_self_eq_true, Bool.or_true])

/-- A request that follows another has a new marker, which the page names, and is the same in all
else. -/
theorem following?_eq_some (h : following? fetch q = some q') :
    q' = { q with marker := q'.marker } ∧ q'.marker ≠ q.marker ∧
      ∃ p, fetch q = .ok p ∧ p.continuation = some q'.marker := by
  unfold following? at h
  split at h
  · cases h
  · rename_i p hp
    split at h
    · rename_i hnext
      cases h
      obtain ⟨m, hm, hne, rfl⟩ := exists_of_next_eq_ask hnext
      exact ⟨rfl, hne, p, hp, hm⟩
    · cases h

/-- Where no request is followed by one with a smaller marker, no request leads back to itself. -/
theorem not_leadsTo_self
    (h : ∀ q q', following? fetch q = some q' → q.marker ≤ q'.marker) (q : PageQuery) :
    ¬ LeadsTo fetch q q := by
  have hstep : ∀ q q', following? fetch q = some q' → q.marker < q'.marker := by
    intro q q' hq
    exact Std.lt_of_le_of_ne (h q q' hq) (following?_eq_some hq).2.1.symm
  have hlt : ∀ q', LeadsTo fetch q q' → q.marker < q'.marker := by
    intro q' hq
    induction hq with
    | single hone => exact hstep _ _ hone
    | tail _ hone ih => exact String.lt_trans ih (hstep _ _ hone)
  intro hself
  exact String.lt_irrefl _ (hlt q hself)

/-! ## Trails -/

variable (fetch) in
/-- A trail from a request: requests of which each is followed by the next. -/
inductive Trail : PageQuery → List PageQuery → Prop where
  | single (q : PageQuery) : Trail q [q]
  | follow {q q' : PageQuery} {rest : List PageQuery} (h : following? fetch q = some q')
      (hrest : Trail q' rest) : Trail q (q :: rest)

variable (fetch) in
/-- Nothing follows the last of some requests. -/
def Ended (asked : List PageQuery) : Prop :=
  ∀ last ∈ asked.getLast?, following? fetch last = none

namespace Trail

/-- A trail begins with its first request. -/
theorem head?_eq (h : Trail fetch q asked) : asked.head? = some q := by
  cases h <;> rfl

/-- A trail that goes on is not empty behind its first request, and ends as the rest of it. -/
theorem getLast?_cons (h : Trail fetch q' rest) : (q :: rest).getLast? = rest.getLast? := by
  cases h <;> rw [List.getLast?_cons_cons]

/-- No request stands twice in a row on a trail. -/
theorem isChain_ne (h : Trail fetch q asked) : asked.IsChain (· ≠ ·) := by
  induction h with
  | single q => exact List.IsChain.singleton q
  | @follow q q' rest h hrest ih =>
    refine List.isChain_cons.2 ⟨?_, ih⟩
    intro q'' hq''
    rw [hrest.head?_eq, Option.mem_some_iff] at hq''
    subst hq''
    intro heq
    exact (following?_eq_some h).2.1 (congrArg PageQuery.marker heq).symm

/-- The first request of a trail leads to all others. -/
theorem eq_or_leadsTo (h : Trail fetch q asked) {a : PageQuery} (ha : a ∈ asked) :
    a = q ∨ LeadsTo fetch q a := by
  induction h with
  | single q => exact .inl (List.mem_singleton.1 ha)
  | @follow q q' rest h hrest ih =>
    rcases List.mem_cons.1 ha with rfl | ha
    · exact .inl rfl
    · right
      rcases ih ha with rfl | hlead
      · exact Relation.TransGen.single h
      · exact Relation.TransGen.head h hlead

/-- A trail without circles has no request twice. -/
theorem nodup (h : Trail fetch q asked) (hopen : ∀ a ∈ asked, ¬ LeadsTo fetch a a) :
    asked.Nodup := by
  induction h with
  | single q => exact List.nodup_singleton q
  | @follow q q' rest h hrest ih =>
    refine List.nodup_cons.2 ⟨?_, ih fun a ha => hopen a (List.mem_cons_of_mem q ha)⟩
    intro hq
    refine hopen q List.mem_cons_self ?_
    rcases hrest.eq_or_leadsTo hq with rfl | hlead
    · exact Relation.TransGen.single h
    · exact Relation.TransGen.head h hlead

/-- What is left of a trail from one of its requests on is a trail. -/
theorem exists_suffix (h : Trail fetch q asked) {a : PageQuery} (ha : a ∈ asked) :
    ∃ left, Trail fetch a left ∧ left <:+ asked := by
  induction h with
  | single q =>
    rw [List.mem_singleton.1 ha]
    exact ⟨[q], .single q, List.suffix_rfl⟩
  | @follow q q' rest h hrest ih =>
    rcases List.mem_cons.1 ha with rfl | ha
    · exact ⟨a :: rest, .follow h hrest, List.suffix_rfl⟩
    · obtain ⟨left, hleft, hsuffix⟩ := ih ha
      exact ⟨left, hleft, hsuffix.trans (List.suffix_cons q rest)⟩

/-- There is only one trail from a request to an end. -/
theorem unique (h : Trail fetch q asked) (hend : Ended fetch asked) {asked' : List PageQuery}
    (h' : Trail fetch q asked') (hend' : Ended fetch asked') : asked = asked' := by
  induction h generalizing asked' with
  | single q =>
    cases h' with
    | single => rfl
    | follow h _ => exact absurd (hend q rfl) (by rw [h]; exact Option.some_ne_none _)
  | @follow q q' rest h hrest ih =>
    cases h' with
    | single => exact absurd (hend' q rfl) (by rw [h]; exact Option.some_ne_none _)
    | @follow _ q'' rest' h'' hrest' =>
      obtain rfl : q' = q'' := Option.some.inj (h.symm.trans h'')
      unfold Ended at hend hend'
      rw [hrest.getLast?_cons] at hend
      rw [hrest'.getLast?_cons] at hend'
      rw [ih hend hrest' hend']

/-- A trail that ends has no request twice: from the same request it would go the same way again,
and so never end. -/
theorem nodup_of_ended (h : Trail fetch q asked) (hend : Ended fetch asked) : asked.Nodup := by
  induction h with
  | single q => exact List.nodup_singleton q
  | @follow q q' rest h hrest ih =>
    have hrestEnd : Ended fetch rest := by
      unfold Ended at hend ⊢
      rwa [hrest.getLast?_cons] at hend
    refine List.nodup_cons.2 ⟨?_, ih hrestEnd⟩
    intro hq
    obtain ⟨left, hleft, hsuffix⟩ := hrest.exists_suffix hq
    have hleftEnd : Ended fetch left := by
      obtain ⟨front, rfl⟩ := hsuffix
      intro last hlast
      apply hrestEnd
      rw [List.getLast?_append, Option.mem_def.1 hlast]
      rfl
    have hsame := (Trail.follow h hrest).unique hend hleft hleftEnd
    have hle := hsuffix.length_le
    rw [← hsame, List.length_cons] at hle
    omega

/-- The requests of a trail differ in nothing but their markers, and those behind the first have
markers that pages name. -/
theorem scope (h : Trail fetch q asked) :
    (∀ a ∈ asked, a = { q with marker := a.marker }) ∧
      ∀ a ∈ asked.tail, ∃ q p, fetch q = .ok p ∧ p.continuation = some a.marker := by
  induction h with
  | single q =>
    refine ⟨?_, ?_⟩
    · intro a ha
      rw [List.mem_singleton.1 ha]
    · intro a ha
      cases ha
  | @follow q q' rest h hrest ih =>
    obtain ⟨hq', -, p, hp, hcont⟩ := following?_eq_some h
    refine ⟨?_, ?_⟩
    · intro a ha
      rcases List.mem_cons.1 ha with rfl | ha
      · rfl
      · have hin := ih.1 a ha
        rw [hq'] at hin
        exact hin
    · intro a ha
      rw [List.tail_cons] at ha
      have hhead := hrest.head?_eq
      cases rest with
      | nil => cases ha
      | cons b rest =>
        rcases List.mem_cons.1 ha with rfl | ha
        · cases hhead
          exact ⟨q, p, hp, hcont⟩
        · exact ih.2 a ha

/-- A trail that has no request twice is no longer than the markers that pages can name, and one. -/
theorem length_le (h : Trail fetch q asked) (hnodup : asked.Nodup) {markers : List String}
    (hmarkers : ∀ q p m, fetch q = .ok p → p.continuation = some m → m ∈ markers) :
    asked.length ≤ markers.length + 1 := by
  have hdistinct : (asked.map PageQuery.marker).Nodup := by
    refine hnodup.map_on ?_
    intro a ha b hb hab
    rw [h.scope.1 a ha, h.scope.1 b hb, hab]
  have hsub : asked.tail.map PageQuery.marker ⊆ markers := by
    intro m hm
    obtain ⟨a, ha, rfl⟩ := List.mem_map.1 hm
    obtain ⟨q, p, hp, hcont⟩ := h.scope.2 a ha
    exact hmarkers q p a.marker hp hcont
  have htail : (asked.tail.map PageQuery.marker).Nodup := by
    rw [List.map_tail]
    exact hdistinct.sublist (List.tail_sublist _)
  have hle := (List.subperm_of_subset htail hsub).length_le
  rw [List.length_map, List.length_tail] at hle
  omega

end Trail

/-! ## Walks over such a source -/

variable {β : Type}

variable (fetch) in
/-- How a walk of at most `fuel` requests from a request ends, and what it asks for: its requests
are a trail if there are any, it is cut off only after as many requests as it may make, and without
a limit and not cut off it has made all requests that follow. -/
structure Walked (fuel : Nat) (q : PageQuery) (limit : Option Nat) (ending : Ending ε)
    (asked : List PageQuery) : Prop where
  trail : asked = [] ∨ Trail fetch q asked
  cutOff : ending = .unfinished → asked.length = fuel
  ended : limit = none → ending ≠ .unfinished → Trail fetch q asked ∧ Ended fetch asked

variable {fuel : Nat} {limit limit' : Option Nat} {ending : Ending ε}

/-- A walk that asks for nothing is cut off at once, or has a limit and is complete. -/
theorem walked_nil (hcutOff : ending = .unfinished → fuel = 0)
    (hlimit : limit = none → ending = .unfinished) : Walked fetch fuel q limit ending [] := by
  refine ⟨.inl rfl, fun h => (hcutOff h).symm, ?_⟩
  intro hnone hfinished
  exact absurd (hlimit hnone) hfinished

/-- A walk that asks once and is not cut off. -/
theorem walked_single (hending : ending ≠ .unfinished)
    (hended : limit = none → following? fetch q = none) :
    Walked fetch (fuel + 1) q limit ending [q] := by
  refine ⟨.inr (.single q), fun h => absurd h hending, ?_⟩
  intro hlimit _
  refine ⟨.single q, ?_⟩
  intro last hlast
  cases hlast
  exact hended hlimit

/-- A walk that asks on. -/
theorem Walked.follow (hq : following? fetch q = some q') (hlimit : limit = none → limit' = none)
    (h : Walked fetch fuel q' limit' ending asked) :
    Walked fetch (fuel + 1) q limit ending (q :: asked) := by
  refine ⟨.inr ?_, ?_, ?_⟩
  · rcases h.trail with rfl | htrail
    · exact .single q
    · exact .follow hq htrail
  · intro hunfinished
    rw [List.length_cons, h.cutOff hunfinished]
  · intro hnone hfinished
    obtain ⟨htrail, hend⟩ := h.ended (hlimit hnone) hfinished
    refine ⟨.follow hq htrail, ?_⟩
    unfold Ended
    rw [htrail.getLast?_cons]
    exact hend

variable (fetch) in
/-- One request of a walk over such a source: the walk ends with it, and without a limit only where
no request follows, or it goes on with the request that follows. -/
theorem run_walkFrom_answering (parts : Page → List β) (fuel : Nat) (q : PageQuery)
    (limit : Option Nat) (log : WalkLog β) :
    (∃ ending given, ending ≠ .unfinished ∧ (limit = none → following? fetch q = none) ∧
      (walkFrom (asking (answering fetch)) (noting parts) (fuel + 1) q limit).run log =
        (ending, log.add [q] given)) ∨
    ∃ q' limit' given, following? fetch q = some q' ∧ (limit = none → limit' = none) ∧
      (walkFrom (asking (answering fetch)) (noting parts) (fuel + 1) q limit).run log =
        (walkFrom (asking (answering fetch)) (noting parts) fuel q' limit').run
          (log.add [q] given) := by
  cases hfetch : fetch q with
  | error e =>
    refine .inl ⟨.failed e, [], by simp, fun _ => by rw [following?, hfetch], ?_⟩
    exact run_walkFrom_of_error (answering fetch) parts fuel q limit log hfetch
  | ok page =>
    rw [run_walkFrom_of_ok (answering fetch) parts fuel q limit log hfetch]
    cases hshare : share limit page with | mk given remaining =>
    have hfollowing : following? fetch q =
        match next q page with | .ask q' => some q' | _ => none := by
      rw [following?, hfetch]
    cases hnext : next q page with
    | complete =>
      rw [hnext] at hfollowing
      refine .inl ⟨.complete, parts given, by simp, fun _ => hfollowing, ?_⟩
      cases remaining <;> rfl
    | stalled warning =>
      rw [hnext] at hfollowing
      cases remaining with
      | nothing => exact .inl ⟨.complete, parts given, by simp, fun _ => hfollowing, rfl⟩
      | unlimited => exact .inl ⟨.stalled warning, parts given, by simp, fun _ => hfollowing, rfl⟩
      | atMost n => exact .inl ⟨.stalled warning, parts given, by simp, fun _ => hfollowing, rfl⟩
    | ask q' =>
      rw [hnext] at hfollowing
      cases remaining with
      | unlimited => exact .inr ⟨q', none, parts given, hfollowing, fun _ => rfl, rfl⟩
      | nothing =>
        -- only a limit leaves nothing
        refine .inl ⟨.complete, parts given, by simp, ?_, rfl⟩
        rintro rfl
        cases hshare
      | atMost n =>
        refine .inr ⟨q', some n, parts given, hfollowing, ?_, rfl⟩
        rintro rfl
        cases hshare

variable (fetch) in
/-- Every walk over a source that answers as the request says is walked along a trail. The induction
is on the requests that are left. -/
theorem walked_of_run (parts : Page → List β) (fuel : Nat) :
    ∀ (q : PageQuery) (limit : Option Nat) (log : WalkLog β), ∃ ending asked given,
      (walkFrom (asking (answering fetch)) (noting parts) fuel q limit).run log =
        (ending, log.add asked given) ∧ Walked fetch fuel q limit ending asked := by
  induction fuel with
  | zero =>
    intro q limit log
    refine ⟨.unfinished, [], [], ?_, walked_nil (fun _ => rfl) fun _ => rfl⟩
    simp only [walkFrom, WalkLog.add, List.append_nil]
    rfl
  | succ fuel ih =>
    intro q limit log
    rcases run_walkFrom_answering fetch parts fuel q limit log with
      ⟨ending, given, hending, hended, hrun⟩ | ⟨q', limit', given, hq, hlimit, hrun⟩
    · exact ⟨ending, [q], given, hrun, walked_single hending hended⟩
    · obtain ⟨ending, asked, given', hrest, hwalked⟩ := ih q' limit' (log.add [q] given)
      rw [hrest, WalkLog.add_add] at hrun
      exact ⟨ending, _, _, hrun, hwalked.follow hq hlimit⟩

variable (fetch) in
/-- The walk of a cursor is walked from its initial request. -/
theorem walked_of_recorded (c : Cursor) (fuel : Nat) :
    let run := c.recorded (answering fetch) fuel {}
    Walked fetch fuel c.initial c.limit run.1 run.2.asked := by
  intro run
  by_cases hlimit : c.limit = some 0
  · have hrun : run = (.complete, {}) := by
      show (c.walk (asking (answering fetch)) (noting fun p => [p]) fuel).run
        ({} : WalkLog Page) = _
      rw [walk, if_pos hlimit]
      rfl
    rw [hrun, hlimit]
    refine walked_nil ?_ ?_
    · intro hunfinished
      cases hunfinished
    · intro hnone
      cases hnone
  · obtain ⟨ending, asked, given, hwalk, hwalked⟩ :=
      walked_of_run fetch (fun p : Page => [p]) fuel c.initial c.limit {}
    have hrun : run = (ending, ({} : WalkLog Page).add asked given) := by
      show (c.walk (asking (answering fetch)) (noting fun p => [p]) fuel).run
        ({} : WalkLog Page) = _
      rw [walk, if_neg hlimit]
      exact hwalk
    rw [hrun]
    exact hwalked

/-- **Only a circle makes a walk repeat itself.** A walk over a source that answers as the request
says never makes a request twice in a row. It makes a request twice only when the places that the
pages name lead from a request back to itself, and then, without a limit, it does not end. Where
they do not lead back, and in particular where no request is followed by one with a smaller marker,
no request is made twice, and when the pages can name finitely many places every walk ends, however
the pages look otherwise. -/
theorem walk_repeats_only_in_circles (fetch : PageQuery → Except ε Page) (c : Cursor) (fuel : Nat) :
    let run := c.recorded (answering fetch) fuel {}
    run.2.asked.IsChain (· ≠ ·) ∧
    ((∀ q ∈ run.2.asked, ¬ LeadsTo fetch q q) → run.2.asked.Nodup) ∧
    (c.limit = none → run.1 ≠ .unfinished → run.2.asked.Nodup) ∧
    (∀ markers : List String,
      (∀ q p m, fetch q = .ok p → p.continuation = some m → m ∈ markers) →
      (∀ q ∈ run.2.asked, ¬ LeadsTo fetch q q) →
      run.2.asked.length ≤ markers.length + 1 ∧
        (markers.length + 1 < fuel → run.1 ≠ .unfinished)) ∧
    ((∀ q q', following? fetch q = some q' → q.marker ≤ q'.marker) →
      ∀ q, ¬ LeadsTo fetch q q) := by
  intro run
  have hwalked : Walked fetch fuel c.initial c.limit run.1 run.2.asked :=
    walked_of_recorded fetch c fuel
  rcases hwalked.trail with hnothing | htrail
  · have hcutOff := hwalked.cutOff
    rw [hnothing] at hcutOff ⊢
    refine ⟨.nil, fun _ => List.nodup_nil, fun _ _ => List.nodup_nil, ?_, not_leadsTo_self⟩
    intro markers _ _
    refine ⟨Nat.zero_le _, ?_⟩
    intro hlong hunfinished
    rw [← hcutOff hunfinished, List.length_nil] at hlong
    omega
  · refine ⟨htrail.isChain_ne, htrail.nodup, ?_, ?_, not_leadsTo_self⟩
    · intro hlimit hfinished
      exact htrail.nodup_of_ended (hwalked.ended hlimit hfinished).2
    · intro markers hmarkers hopen
      have hle := htrail.length_le (htrail.nodup hopen) hmarkers
      refine ⟨hle, ?_⟩
      intro hlong hunfinished
      have hlength := hwalked.cutOff hunfinished
      omega

/-! ## A circle -/

/-- A listing of two pages that name each other's places: the page at `a` goes on at `b`, every
other page goes on at `a`. -/
def circling (q : PageQuery) : Except String Page :=
  .ok
    { bucket := "bucket1"
      entries := []
      isTruncated := true
      nextMarker := some (if q.marker = "a" then "b" else "a") }

/-- Every request to the circling pages is followed by another. -/
theorem following?_circling (q : PageQuery) :
    following? circling q = some { q with marker := if q.marker = "a" then "b" else "a" } := by
  by_cases ha : q.marker = "a"
  · simp [following?, circling, next, Page.continuation, ha]
  · simp [following?, circling, next, Page.continuation, ha, Ne.symm ha]

/-- The two pages name two places only, and yet the second request is made again and no bound on the
number of requests lets the walk end. -/
theorem circling_is_walked_forever :
    (∀ q p m, circling q = .ok p → p.continuation = some m → m ∈ ["a", "b"]) ∧
    (recorded {} (answering circling) 4 {}).2.asked =
      [{}, { marker := "a" }, { marker := "b" }, { marker := "a" }] ∧
    ∀ fuel, (recorded {} (answering circling) fuel {}).1 = .unfinished := by
  refine ⟨?_, rfl, ?_⟩
  · intro q p m hp hm
    cases hp
    by_cases ha : q.marker = "a" <;> simp_all [Page.continuation]
  · intro fuel
    by_contra hfinished
    obtain ⟨htrail, hend⟩ := (walked_of_recorded circling {} fuel).ended rfl hfinished
    -- the last request would have to be one that nothing follows
    have hne : (recorded {} (answering circling) fuel {}).2.asked ≠ [] := by
      intro hnil
      have hhead := htrail.head?_eq
      rw [hnil] at hhead
      cases hhead
    have hlast := hend _ (List.getLast?_eq_some_getLast hne)
    rw [following?_circling] at hlast
    cases hlast

end CloudClient.Cursor
