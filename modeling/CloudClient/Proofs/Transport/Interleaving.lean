import CloudClient.Proofs.Transport.Exchange

/-!
# Calls step by step

Calls that share a transport take their steps in any order, so that a call is followed here one step
at a time: the transport on which it takes its next step is the one that others have left. Main
statements: a call that ends within a number of steps on certain transports goes on doing so, and
what holds of the rest of a call at each of its waits is found when the call comes to wait.
-/

namespace CloudClient

namespace Flight

variable {α β : Type}

/-- One step of a call on a transport: what is left of the call, and the transport afterwards. A
call that has ended stays as it is. -/
def step : Flight α → Transport → Flight α × Transport
  | done a, t => (done a, t)
  | clock next, t => (next t.readClock.1, t.readClock.2)
  | countRequest next, t => (next, t.count (·.countRequest))
  | countRetry next, t => (next, t.count (·.countRetry))
  | handOver request live next, t => (next (t.handOver request live).1, (t.handOver request live).2)
  | settle handed next, t => (next (t.settle handed).1, (t.settle handed).2)
  | share next, t => (next t.drawShare.1, t.drawShare.2)
  | warn warning next, t => (next, t.warn warning)
  | pause seconds next, t => (next, t.pause seconds)

/-- A call that is run by itself takes its steps in a row. -/
theorem run_step (m : Flight α) (t : Transport) : (m.step t).1.run (m.step t).2 = m.run t := by
  cases m <;> rfl

/-! ## What a step leaves as it is -/

section Frame

variable (m : Flight α) (t : Transport)

/-- No step opens a transport or closes it, and none has a say in what comes from outside. -/
theorem kept_step : (m.step t).2.isClosed = t.isClosed ∧ (m.step t).2.supply = t.supply := by
  cases m with
  | handOver request live next =>
    cases hclosed : t.isClosed with
    | true =>
      have hrefused : (t.handOver request live).2 = t := by rw [Transport.handOver, if_pos hclosed]
      show (t.handOver request live).2.isClosed = _ ∧ (t.handOver request live).2.supply = _
      rw [hrefused]
      exact ⟨hclosed, rfl⟩
    | false =>
      obtain ⟨h, x, t', hhanded, -, -, -, -, -, -, hledger, -⟩ :=
        t.handOver_of_open hclosed request live
      show (t.handOver request live).2.isClosed = _ ∧ (t.handOver request live).2.supply = _
      rw [hhanded]
      exact ⟨(congrArg Ledger.isClosed hledger).trans hclosed, congrArg Ledger.supply hledger⟩
  | settle handed next =>
    obtain ⟨f, -, hledger⟩ := t.ledger_settle handed
    exact ⟨congrArg Ledger.isClosed hledger, congrArg Ledger.supply hledger⟩
  | _ => exact ⟨rfl, rfl⟩

/-- On a closed transport no step hands a request to the session. -/
theorem requests_step (hclosed : t.isClosed = true) :
    (m.step t).2.journal.exchanges.map (·.request) = t.journal.exchanges.map (·.request) := by
  cases m with
  | handOver request live next =>
    show (t.handOver request live).2.journal.exchanges.map (·.request) = _
    rw [Transport.handOver, if_pos hclosed]
  | settle handed next =>
    obtain ⟨f, hf, hledger⟩ := t.ledger_settle handed
    have hexchanges : (t.settle handed).2.journal.exchanges =
        t.journal.exchanges.modify handed.exchange f :=
      congrArg Ledger.exchanges hledger
    show (t.settle handed).2.journal.exchanges.map (·.request) = _
    rw [hexchanges]
    exact map_modify_of_kept (fun x => (hf x).1) _ _
  | _ => rfl

end Frame

/-! ## Ends -/

/-- The call ends with such an outcome when it has taken so many steps, each on such a transport. -/
def EndsWithin (E : Transport → Prop) (Q : α → Prop) : Nat → Flight α → Prop
  | 0, m => ∃ a, m = done a ∧ Q a
  | n + 1, m => ∀ t, E t → EndsWithin E Q n (m.step t).1

section Ends

variable {E : Transport → Prop} {Q : α → Prop} {n : Nat} {m : Flight α} {t : Transport} {a : α}

/-- The end that was foretold is the end. -/
theorem EndsWithin.of_done (ht : E t) (h : EndsWithin E Q n (done a)) : Q a := by
  induction n with
  | zero =>
    obtain ⟨a', ha', hq⟩ := h
    cases ha'
    exact hq
  | succ n ih => exact ih (h t ht)

/-- A step brings the end nearer. -/
theorem EndsWithin.step (ht : E t) (h : EndsWithin E Q n m) :
    EndsWithin E Q (n - 1) (m.step t).1 := by
  cases n with
  | zero =>
    obtain ⟨a, rfl, ha⟩ := h
    exact ⟨a, rfl, ha⟩
  | succ n => exact h t ht

/-- What goes on with a call and ends at once ends when the call does. -/
theorem EndsWithin.bind {f : α → Flight β} {Q' : β → Prop} (h : EndsWithin E Q n m)
    (hf : ∀ a, Q a → ∃ b, f a = done b ∧ Q' b) : EndsWithin E Q' n (m.bind f) := by
  induction n generalizing m with
  | zero =>
    obtain ⟨a, rfl, ha⟩ := h
    exact hf a ha
  | succ n ih =>
    intro t ht
    have hnext := ih (h t ht)
    -- Only of a call that has ended is the next step not that of the call.
    cases m with
    | done a =>
      obtain ⟨b, hb, -⟩ := hf a ((h t ht).of_done ht)
      have hbind : (done a).bind f = done b := hb
      rw [hbind]
      rw [show ((done a).step t).1.bind f = done b from hb] at hnext
      exact hnext
    | _ => exact hnext

end Ends

/-! ## Waits -/

/-- What holds of the rest of a call at each of its waits, and of its outcome, whatever it learns on
its way. -/
def AtWaits (W : Flight α → Prop) (Q : α → Prop) : Flight α → Prop
  | done a => Q a
  | clock next => ∀ time, (next time).AtWaits W Q
  | countRequest next => next.AtWaits W Q
  | countRetry next => next.AtWaits W Q
  | handOver request live next => ∀ t : Transport, (next (t.handOver request live).1).AtWaits W Q
  | settle _ next => ∀ a, (next a).AtWaits W Q
  | share next => ∀ x, (next x).AtWaits W Q
  | warn _ next => next.AtWaits W Q
  | pause _ next => W next ∧ next.AtWaits W Q

section Waits

variable {W : Flight α → Prop} {Q : α → Prop} {m : Flight α}

/-- A step of a call loses nothing of what holds at its waits. -/
theorem AtWaits.step (h : m.AtWaits W Q) (t : Transport) : (m.step t).1.AtWaits W Q := by
  cases m with
  | clock next => exact h _
  | handOver request live next => exact h t
  | settle handed next => exact h _
  | share next => exact h _
  | pause seconds next => exact h.2
  | _ => exact h

/-- Less may be said of the outcome. -/
theorem AtWaits.imp {Q' : α → Prop} (h : m.AtWaits W Q) (hQ : ∀ a, Q a → Q' a) :
    m.AtWaits W Q' := by
  induction m with
  | done a => exact hQ a h
  | clock next ih => exact fun time => ih time (h time)
  | countRequest next ih => exact ih h
  | countRetry next ih => exact ih h
  | handOver request live next ih => exact fun t => ih _ (h t)
  | settle handed next ih => exact fun a => ih a (h a)
  | share next ih => exact fun x => ih x (h x)
  | warn warning next ih => exact ih h
  | pause seconds next ih => exact ⟨h.1, ih h.2⟩

/-- What holds at the waits of a call that goes on with another. -/
theorem AtWaits.bind {f : α → Flight β} {W : Flight β → Prop} {Q : β → Prop}
    (h : m.AtWaits (fun rest => W (rest.bind f)) (fun a => (f a).AtWaits W Q)) :
    (m.bind f).AtWaits W Q := by
  induction m with
  | done a => exact h
  | clock next ih => exact fun time => ih time (h time)
  | countRequest next ih => exact ih h
  | countRetry next ih => exact ih h
  | handOver request live next ih => exact fun t => ih _ (h t)
  | settle handed next ih => exact fun a => ih a (h a)
  | share next ih => exact fun x => ih x (h x)
  | warn warning next ih => exact ih h
  | pause seconds next ih => exact ⟨h.1, ih h.2⟩

end Waits

end Flight

end CloudClient
