import CloudClient.Transport.Upload

/-!
# Bodies that go back to their start

A body that can be sent again can be put back to its start however much of it the session has taken,
also when the request is made anew. Main statements: being such a body is kept by handing it over
and by going back, and going back succeeds.
-/

namespace CloudClient

/-- What reading keeps of a source, drawing an upload keeps. -/
theorem Upload.source_draw {σ : Type} {read : σ → Nat → Bytes × σ} {chunkSize : Nat}
    (P : σ → Prop) (hread : ∀ s n, P s → P (read s n).2) (pulls : Option Nat) (remaining : Nat)
    (source : σ) (h : P source) : P (draw read chunkSize pulls remaining source).source := by
  induction pulls, remaining, source using draw.induct read chunkSize with
  | case1 pulls remaining source hdone =>
    rw [draw_of_done hdone]
    exact h
  | case2 pulls remaining source hmore rest hend =>
    have hnext := hread source (min chunkSize remaining) h
    rw [hend] at hnext
    rw [draw_of_end hmore hend]
    exact hnext
  | case3 pulls remaining source hmore b bs rest hchunk ih =>
    have hnext := hread source (min chunkSize remaining) h
    rw [hchunk] at hnext
    rw [draw_of_chunk hmore hchunk]
    exact ih hnext

namespace Body

/-- A body as an attempt sends it: the same, but a stream may stand elsewhere. -/
def SentAs : Body → Body → Prop
  | .stream p, b => ∃ s, b = .stream { p with stream := s }
  | b, b' => b' = b

/-- A body is sent as itself. -/
theorem SentAs.refl (b : Body) : b.SentAs b := by
  cases b with
  | empty => rfl
  | bytes data => rfl
  | stream p => exact ⟨p.stream, rfl⟩

/-- A body that went back to its start is sent as the same body. -/
theorem SentAs.of_rewind {b earlier b' : Body} (h : (b.resume earlier).rewind = .ok b') :
    b.SentAs b' := by
  cases b with
  | empty =>
    cases h
    rfl
  | bytes data =>
    cases h
    rfl
  | stream p =>
    have hresume : ∃ s, (Body.stream p).resume earlier = .stream { p with stream := s } := by
      cases earlier with
      | stream e => exact ⟨e.stream, rfl⟩
      | _ => exact ⟨p.stream, rfl⟩
    obtain ⟨s, hs⟩ := hresume
    rw [hs, Body.rewind, StreamPart.rewind] at h
    dsimp only at h
    split at h
    · cases h
    · cases hseek : s.seek ‹Int› with
      | error e =>
        rw [hseek] at h
        cases h
      | ok s' =>
        rw [hseek] at h
        cases h
        exact ⟨s', rfl⟩

/-- A body that is a stream is one that moves, from a position that it can go to. -/
def CanRewind : Body → Prop
  | .stream p => p.stream.kind = .seekable ∧
      ∃ start : Nat, p.start = some (start : Int) ∧ Stream.isWord start = true
  | _ => True

/-- A body that goes back can be sent a second time. -/
theorem CanRewind.isReplayable {b : Body} (h : b.CanRewind) : b.isReplayable = true := by
  cases b with
  | empty => rfl
  | bytes data => rfl
  | stream p =>
    obtain ⟨-, start, hstart, -⟩ := h
    rw [Body.isReplayable, hstart]
    rfl

/-- Handing a body over leaves it where it can go back. -/
theorem CanRewind.handOver {b : Body} (h : b.CanRewind) (chunkSize : Nat) (pulls : Option Nat) :
    (b.handOver chunkSize pulls).body.CanRewind := by
  cases b with
  | empty => trivial
  | bytes data => trivial
  | stream p =>
    have hkind : (p.upload chunkSize pulls).source.kind = .seekable :=
      Upload.source_draw (fun s : Stream => s.kind = .seekable) (fun _ _ hs => hs) _ _ _ h.1
    exact ⟨hkind, h.2⟩

/-- A body over a stream that an earlier attempt has left can go back as well. -/
theorem CanRewind.resume {b earlier : Body} (h : b.CanRewind) (hearlier : earlier.CanRewind) :
    (b.resume earlier).CanRewind := by
  cases b with
  | empty => trivial
  | bytes data => trivial
  | stream p =>
    cases earlier with
    | empty => exact h
    | bytes data => exact h
    | stream p' => exact ⟨hearlier.1, h.2⟩

/-- Going back succeeds, and can be done again. -/
theorem CanRewind.rewind {b : Body} (h : b.CanRewind) :
    ∃ b', b.rewind = .ok b' ∧ b'.CanRewind := by
  cases b with
  | empty => exact ⟨_, rfl, trivial⟩
  | bytes data => exact ⟨_, rfl, trivial⟩
  | stream p =>
    obtain ⟨hkind, start, hstart, hword⟩ := h
    have hseek : p.stream.seek (start : Int) = .ok { p.stream with position := start } := by
      rw [Stream.seek, hkind]
      dsimp only
      rw [Stream.moveTo, hword, if_neg (by simp), if_neg (by omega), Int.toNat_natCast]
    refine ⟨.stream { p with stream := { p.stream with position := start } }, ?_, hkind, start,
      hstart, hword⟩
    rw [Body.rewind, StreamPart.rewind, hstart]
    dsimp only
    rw [hseek]
    rfl

end Body

end CloudClient
