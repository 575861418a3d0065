import CloudClient.Transport.Upload
import Mathlib.Algebra.Order.BigOperators.Group.List

/-!
# Drawing from a source

A source answers with a part of what is left of it, and with nothing only when nothing is left. Main
statements: an upload in chunks of at least one byte draws the bytes that are asked for as far as
the source has them, and nothing beyond them; a session that stops early has got the first chunks of
the same upload.
-/

namespace CloudClient

namespace Stream

/-- What is read is the beginning of what is left. -/
theorem fst_readAtMost (s : Stream) (count : Nat) : (s.readAtMost count).1 = s.rest.take count := by
  have hcount : ¬((count : Int) < 0) := by omega
  rw [readAtMost, read, if_neg hcount, Int.toNat_natCast]

/-- What is left afterwards is the rest of it. -/
theorem rest_readAtMost (s : Stream) (count : Nat) :
    (s.readAtMost count).2.rest = s.rest.drop count := by
  have hrest : (s.readAtMost count).2.rest = s.rest.drop (s.rest.take count).length := by
    rw [← fst_readAtMost]
    show s.content.drop (s.position + (s.readAtMost count).1.length) =
        (s.content.drop s.position).drop _
    rw [List.drop_drop]
  rw [hrest, List.length_take]
  rcases Nat.le_total count s.rest.length with hle | hle
  · rw [Nat.min_eq_left hle]
  · rw [Nat.min_eq_right hle, List.drop_eq_nil_of_le hle, List.drop_length]

end Stream

namespace Upload

variable {σ : Type}

/-- A source is read from its front: an answer is a beginning of what is left, no longer than what
is asked for, and empty only when nothing is left or asked for. -/
structure Reads (read : σ → Nat → Bytes × σ) (left : σ → Bytes) : Prop where
  left_eq : ∀ s n, left s = (read s n).1 ++ left (read s n).2
  length_le : ∀ s n, (read s n).1.length ≤ n
  ne_nil : ∀ s n, 0 < n → left s ≠ [] → (read s n).1 ≠ []

/-- What is drawn of a source: chunks of a proper size, together the bytes that are asked for as far
as they are there, and the number of those that are not; the rest is left. -/
structure Draws (u : Upload σ) (left : σ → Bytes) (chunkSize count : Nat) (source : σ) : Prop where
  chunk : ∀ c ∈ u.chunks, c ≠ [] ∧ c.length ≤ chunkSize
  bytes : u.chunks.flatten = (left source).take count
  missing : u.missing = count - (left source).length
  rest : left u.source = (left source).drop count

variable {read : σ → Nat → Bytes × σ} {left : σ → Bytes} {chunkSize : Nat}

/-- One chunk before an upload. -/
theorem Draws.cons {u : Upload σ} {chunk : Bytes} {count : Nat} {s s' : σ} (hne : chunk ≠ [])
    (hsize : chunk.length ≤ chunkSize) (hcount : chunk.length ≤ count)
    (hleft : left s = chunk ++ left s') (h : u.Draws left chunkSize (count - chunk.length) s') :
    ({ u with chunks := chunk :: u.chunks } : Upload σ).Draws left chunkSize count s where
  chunk := by
    intro c hc
    rcases List.mem_cons.1 hc with rfl | hc
    · exact ⟨hne, hsize⟩
    · exact h.chunk c hc
  bytes := by
    show (chunk :: u.chunks).flatten = _
    rw [List.flatten_cons, h.bytes, hleft, List.take_append, List.take_of_length_le hcount]
  missing := by
    show u.missing = _
    rw [h.missing, hleft, List.length_append]
    omega
  rest := by
    show left u.source = _
    rw [h.rest, hleft, List.drop_append, List.drop_of_length_le hcount, List.nil_append]

/-- **An upload draws what is asked for**, as far as it is there. -/
theorem draws_draw (h : Reads read left) (hpos : 0 < chunkSize) (count : Nat) (source : σ) :
    (draw read chunkSize none count source).Draws left chunkSize count source := by
  generalize hpulls : (none : Option Nat) = pulls
  -- Each chunk takes at least one byte of those that are still to come.
  induction pulls, count, source using draw.induct read chunkSize with
  | case1 pulls count source hdone =>
    subst hpulls
    obtain rfl : count = 0 := by simpa using hdone
    rw [draw_of_done hdone]
    exact ⟨by rintro c ⟨⟩, by simp, by simp, by simp⟩
  | case2 pulls count source hmore s' hend =>
    have hasked : 0 < min chunkSize count := by
      rw [not_or] at hmore
      omega
    have hempty : left source = [] := by
      apply Classical.byContradiction
      intro hne
      have hanswer := h.ne_nil source (min chunkSize count) hasked hne
      rw [hend] at hanswer
      exact hanswer rfl
    have hleft := h.left_eq source (min chunkSize count)
    rw [hend, hempty] at hleft
    rw [draw_of_end hmore hend]
    exact ⟨by rintro c ⟨⟩, by simp [hempty], by simp [hempty], by simpa [hempty] using hleft.symm⟩
  | case3 pulls count source hmore b bs s' hchunk ih =>
    subst hpulls
    have hleft := h.left_eq source (min chunkSize count)
    have hlength := h.length_le source (min chunkSize count)
    rw [hchunk] at hleft hlength
    dsimp only at hleft hlength
    rw [draw_of_chunk hmore hchunk]
    exact (ih rfl).cons (List.cons_ne_nil b bs) (by omega) (by omega) hleft

/-- An upload has no more chunks than bytes. -/
theorem Draws.length_chunks_le {u : Upload σ} {count : Nat} {source : σ}
    (h : u.Draws left chunkSize count source) :
    u.chunks.length ≤ min count (left source).length := by
  have hpos : ∀ n ∈ u.chunks.map List.length, 1 ≤ n := by
    intro n hn
    obtain ⟨chunk, hchunk, rfl⟩ := List.mem_map.1 hn
    exact List.length_pos_of_ne_nil (h.chunk chunk hchunk).1
  calc u.chunks.length = (u.chunks.map List.length).length := by rw [List.length_map]
    _ ≤ (u.chunks.map List.length).sum := List.length_le_sum_of_one_le _ hpos
    _ = u.chunks.flatten.length := List.length_flatten.symm
    _ = min count (left source).length := by rw [h.bytes, List.length_take]

/-- A stream is such a source. -/
theorem reads_readAtMost : Reads Stream.readAtMost Stream.rest where
  left_eq s n := by
    rw [Stream.fst_readAtMost, Stream.rest_readAtMost, List.take_append_drop]
  length_le := Stream.length_fst_readAtMost_le
  ne_nil s n hn hleft := by
    rw [Stream.fst_readAtMost]
    intro hnil
    rcases List.take_eq_nil_iff.1 hnil with hzero | hempty
    · omega
    · exact hleft hempty

/-! ## Sessions that stop early -/

/-- An upload of which so many chunks are asked for, beside the same upload drawn to its end: the
first chunks of it, nothing of it missing, or all of it when more chunks are asked for than there
are. -/
structure IsCut (v u : Upload σ) (pulls : Nat) : Prop where
  chunks : v.chunks = u.chunks.take pulls
  missing : pulls ≤ u.chunks.length → v.missing = 0
  eq_of_lt : u.chunks.length < pulls → v = u

/-- One chunk before an upload is one more to ask for. -/
theorem IsCut.cons {v u : Upload σ} {pulls : Nat} (h : v.IsCut u pulls) (chunk : Bytes) :
    ({ v with chunks := chunk :: v.chunks } : Upload σ).IsCut { u with chunks := chunk :: u.chunks }
      (pulls + 1) where
  chunks := by
    show chunk :: v.chunks = (chunk :: u.chunks).take (pulls + 1)
    rw [h.chunks, List.take_succ_cons]
  missing := by
    intro hle
    exact h.missing (Nat.le_of_succ_le_succ hle)
  eq_of_lt := by
    intro hlt
    rw [h.eq_of_lt (Nat.lt_of_succ_lt_succ hlt)]

/-- **A session that stops early gets the first chunks**, as they are for a session that does not.
-/
theorem isCut_draw (pulls count : Nat) (source : σ) :
    (draw read chunkSize (some pulls) count source).IsCut
    (draw read chunkSize none count source) pulls := by
  generalize hasked : some pulls = asked
  induction asked, count, source using draw.induct read chunkSize generalizing pulls with
  | case1 asked count source hdone =>
    subst hasked
    rw [draw_of_done hdone]
    rcases hdone with rfl | hpulls
    · rw [draw_of_done (.inl rfl)]
      exact ⟨List.take_nil.symm, fun _ => rfl, fun _ => rfl⟩
    · obtain rfl := Option.some.inj hpulls
      exact ⟨List.take_zero.symm, fun _ => rfl, fun hlt => absurd hlt (Nat.not_lt_zero _)⟩
  | case2 asked count source hmore rest hend =>
    subst hasked
    rw [not_or] at hmore
    rw [draw_of_end (by simpa using hmore) hend, draw_of_end (by simpa using hmore.1) hend]
    refine ⟨List.take_nil.symm, fun hle => ?_, fun _ => rfl⟩
    obtain rfl := Nat.le_zero.1 hle
    exact absurd rfl hmore.2
  | case3 asked count source hmore b bs rest hchunk ih =>
    subst hasked
    rw [not_or] at hmore
    have hpulls : pulls ≠ 0 := by
      rintro rfl
      exact hmore.2 rfl
    obtain ⟨pulls, rfl⟩ := Nat.exists_eq_succ_of_ne_zero hpulls
    rw [draw_of_chunk (by simpa using hmore) hchunk, draw_of_chunk (by simpa using hmore.1) hchunk]
    exact (ih pulls rfl).cons (b :: bs)

end Upload

end CloudClient
