import CloudClient.Proofs.Connection.RetrySafety
import CloudClient.Proofs.Decode

/-!
# Pages of a connection

The pages of a bucket are asked for by calls, one for each. Main statements: a fetch comes to what
its call has ended in, a page, a fault or another failure, since a good answer is decoded to a page
and to no other result; and the walk over a bucket on a transport is the walk of its cursor over
what the fetches come to there.
-/

namespace CloudClient

/-! ## Fetches -/

/-- A listing is decoded to a page or to a fault. -/
theorem decode_of_listBucket {c : CallInfo} (h : c.operation = .listBucket) (r : Response) :
    (∃ p, decode c r = .ok (.ok (.listBucket p))) ∨ ∃ f, decode c r = .ok (.error f) := by
  rcases decode_cases c r with ⟨out, hout, hanswers, -⟩ | ⟨e, -, hescapes⟩
  · cases out with
    | error f => exact .inr ⟨f, hout⟩
    | ok x =>
      have hx : x.operation = .listBucket := hanswers.trans h
      cases x with
      | listBucket p => exact .inl ⟨p, hout⟩
      | _ => cases hx
  · -- Only the headers of objects let a failure escape.
    have hobject : c.operation = .get ∨ c.operation = .head := by
      cases hescapes with
      | length _ hget _ | unchangedDate _ hget _ => exact .inl hget
      | date _ hheaders _ => exact hheaders
    rw [h] at hobject
    rcases hobject with hget | hhead
    · cases hget
    · cases hhead

/-- The outcome of a call that a fetch tells of. -/
def CallOutcome.ofPage : Except Failure Page → CallOutcome
  | .ok p => .ok (.ok (.listBucket p))
  | .error e => (CallEnd.ofFailure e).outcome

namespace StorageConnection

/-- The call that asks for a page of a bucket. -/
def pageCall (bucket : String) (q : PageQuery) : StorageCall :=
  .listBucket bucket q.keyPrefix q.marker q.maxKeys q.delimiter

/-- A call that lists a bucket ends in a page or fails. -/
theorem exists_outcome_pageCall (c : StorageConnection) (bucket : String) (q : PageQuery)
    (t : Transport) :
    ∃ page, ((c.perform (pageCall bucket q)).run t).1.outcome = CallOutcome.ofPage page := by
  show ∃ page, ((ServiceCall.storage c (pageCall bucket q)).perform.run t).1.outcome = _
  cases hr : (ServiceCall.storage c (pageCall bucket q)).request with
  | error e =>
    rw [ServiceCall.run_perform_of_refused hr]
    exact ⟨.error e, rfl⟩
  | ok r =>
    rw [ServiceCall.run_perform hr]
    generalize ((Flight.execute _ _ _ _).run t).1 = a
    cases a with
    | error e => exact ⟨.error e, rfl⟩
    | ok a =>
      have hdecoded := decode_of_listBucket (c := (pageCall bucket q).info r) rfl a.response
      rcases hdecoded with ⟨p, hp⟩ | ⟨f, hf⟩
      · exact ⟨.ok p, hp⟩
      · exact ⟨.error (.fault f), hf⟩

/-- **A fetch comes to what its call has ended in.** -/
theorem run_fetchPage (c : StorageConnection) (bucket : String) (q : PageQuery) (t : Transport) :
    ∃ page e t', (c.fetchPage bucket q).run t = (page, t') ∧
      (c.perform (pageCall bucket q)).run t = (e, t') ∧ e.outcome = CallOutcome.ofPage page := by
  obtain ⟨page, hpage⟩ := c.exists_outcome_pageCall bucket q t
  refine ⟨page, _, _, ?_, rfl, hpage⟩
  rw [fetchPage, Flight.run_then]
  refine Prod.ext ?_ rfl
  rw [pageCall] at hpage
  rw [hpage]
  cases page with
  | ok p => rfl
  | error e => cases e <;> rfl

end StorageConnection

/-! ## Walks -/

namespace Interpretation

variable {m : Type → Type} [Monad m] {τ β γ ε : Type} (I : Interpretation m τ)

/-- A program as a step between states. -/
def asState (x : m β) : StateM τ β := fun s => I.run x s

/-- A program that does nothing is a step that does nothing. -/
theorem asState_pure (b : β) : I.asState (pure b) = pure b := by
  funext s
  exact I.run_pure b s

/-- Programs in a row are steps in a row. -/
theorem asState_bind (x : m β) (f : β → m γ) :
    I.asState (x >>= f) = I.asState x >>= fun b => I.asState (f b) := by
  funext s
  exact I.run_bind x f s

variable (fetch : PageQuery → m (Except ε Page)) (visit : Page → m Bool)

/-- A walk is the walk over what its fetches and visits are as steps. -/
theorem asState_walkFrom (fuel : Nat) (q : PageQuery) (limit : Option Nat) :
    I.asState (Cursor.walkFrom fetch visit fuel q limit) =
      Cursor.walkFrom (fun q => I.asState (fetch q))
        (fun p => I.asState (visit p)) fuel q limit := by
  induction fuel generalizing q limit with
  | zero => exact I.asState_pure _
  | succ fuel ih =>
    rw [Cursor.walkFrom, Cursor.walkFrom, asState_bind]
    congr 1
    funext out
    cases out with
    | error e => exact I.asState_pure _
    | ok page =>
      dsimp only
      rw [asState_bind]
      congr 1
      funext wantsMore
      cases wantsMore with
      | false => exact I.asState_pure _
      | true =>
        rw [if_pos rfl, if_pos rfl]
        cases (Cursor.share limit page).2 <;> cases Cursor.next q page
        case unlimited.ask q' => exact ih q' none
        case atMost.ask n q' => exact ih q' (some n)
        all_goals exact I.asState_pure _

/-- The same of the walk of a cursor. -/
theorem asState_walk (c : Cursor) (fuel : Nat) :
    I.asState (c.walk fetch visit fuel) =
      c.walk (fun q => I.asState (fetch q)) (fun p => I.asState (visit p)) fuel := by
  rw [Cursor.walk, Cursor.walk]
  split
  · exact I.asState_pure _
  · exact I.asState_walkFrom fetch visit fuel c.initial c.limit

end Interpretation

/-- A program beside a state that stays as it is, taken on a transport. -/
theorem Flight.asState_beside {σ α : Type} (x : Flight α) :
    onTransport.asState (fun s => do return (← x, s) : StateT σ Flight α) =
      fun (s, t) => ((x.run t).1, s, (x.run t).2) := by
  funext ⟨s, t⟩
  have hrun := run_then x (fun a => pure (a, s)) t
  show (((x >>= fun a => pure (a, s) : Flight (α × σ)).run t).1.1, _, _) = _
  rw [hrun]
  rfl

namespace StorageConnection

variable {σ : Type}

/-- Asks for a page on a transport, beside a state that stays as it is. -/
def fetchingPage (c : StorageConnection) (bucket : String) (q : PageQuery) :
    StateM (σ × Transport) (Except Failure Page) := fun (s, t) =>
  (((c.fetchPage bucket q).run t).1, s, ((c.fetchPage bucket q).run t).2)

/-- Visits a page beside a transport that stays as it is. -/
def visitingPage (visit : Page → σ → Bool × σ) (p : Page) : StateM (σ × Transport) Bool :=
  fun (s, t) => ((visit p s).1, (visit p s).2, t)

/-- **A walk over a bucket on a transport is the walk of its cursor** over what the fetches come to
there. It ends as that walk does: with the failure of a page, with a line in the log when the
listing stalls, or without more. -/
theorem run_walk (c : StorageConnection) (bucket : String) (cursor : Cursor)
    (visit : Page → σ → Bool × σ) (fuel : Nat) (s : σ) (t : Transport) :
    ∃ ending s' t',
      (cursor.walk (c.fetchingPage bucket) (visitingPage visit) fuel).run (s, t) =
        (ending, s', t') ∧
      (c.walk bucket cursor visit fuel s).run t =
        match ending with
        | .failed e => ((s', some e), t')
        | .stalled message =>
          ((s', none), t'.warn { logger := "awsrest.protocol.cursor", message })
        | .complete | .unfinished => ((s', none), t') := by
  let fetch (q : PageQuery) : StateT σ Flight (Except Failure Page) := fun s => do
    return (← c.fetchPage bucket q, s)
  let visiting (p : Page) : StateT σ Flight Bool := fun s => pure (visit p s)
  have hfetch : (fun q => Flight.onTransport.asState (fetch q)) = c.fetchingPage bucket :=
    funext fun q => Flight.asState_beside (c.fetchPage bucket q)
  have hvisit : (fun p => Flight.onTransport.asState (visiting p)) = visitingPage visit := rfl
  have hwalk := Flight.onTransport.asState_walk fetch visiting cursor fuel
  rw [hfetch, hvisit] at hwalk
  obtain ⟨ending, s', t', hend⟩ : ∃ ending s' t',
      ((cursor.walk fetch visiting fuel).run s).run t = ((ending, s'), t') := ⟨_, _, _, rfl⟩
  refine ⟨ending, s', t', ?_, ?_⟩
  · rw [← hwalk]
    exact congrArg (fun r => (r.1.1, r.1.2, r.2)) hend
  · rw [walk, Flight.run_then]
    dsimp only [fetch, visiting] at hend
    rw [hend]
    cases ending <;> rfl

end StorageConnection

end CloudClient
