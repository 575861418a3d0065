import CloudClient.Proofs.Transport.Drawing
import CloudClient.Proofs.Transport.Rewind
import CloudClient.Transport.State
import Mathlib.Data.List.Infix

/-!
# What an upload takes of a stream

The chunks of an upload are the bytes of the stream from where it stands, in order. Main statements:
a stream that holds what the upload asks for is never found short, what the session takes is a
beginning of it, and a session that asks until nothing is left takes all of it; the stream is left
elsewhere, but otherwise as it was.
-/

namespace CloudClient

namespace Stream

/-- The same stream, but perhaps at another position. -/
def SameBut (s s' : Stream) : Prop := ∃ position, s' = { s with position }

/-- Drawing an upload moves a stream and changes nothing else of it. -/
theorem sameBut_draw (s : Stream) (chunkSize : Nat) (pulls : Option Nat) (remaining : Nat) :
    s.SameBut (Upload.draw Stream.readAtMost chunkSize pulls remaining s).source := by
  refine Upload.source_draw s.SameBut ?_ pulls remaining s ⟨s.position, rfl⟩
  rintro - n ⟨position, rfl⟩
  exact ⟨_, rfl⟩

end Stream

/-- The session asks for more chunks than there are, and so reads the body to its end. -/
def Delivery.ReadsToEnd (d : Delivery) (chunks : List Bytes) : Prop :=
  ∀ k, d.pulls = some k → chunks.length < k

namespace Upload

section Sessions

variable {σ : Type} {read : σ → Nat → Bytes × σ} {chunkSize count : Nat} {source : σ} {d : Delivery}

/-- A session that reads a body to its end gets the whole upload. -/
theorem draw_of_readsToEnd (h : d.ReadsToEnd (draw read chunkSize none count source).chunks) :
    draw read chunkSize d.pulls count source = draw read chunkSize none count source := by
  cases hpulls : d.pulls with
  | none => rfl
  | some k => exact (isCut_draw k count source).eq_of_lt (h k hpulls)

/-- A session that does not finds nothing missing. -/
theorem missing_draw_of_not_readsToEnd
    (h : ¬d.ReadsToEnd (draw read chunkSize none count source).chunks) :
    (draw read chunkSize d.pulls count source).missing = 0 := by
  rw [Delivery.ReadsToEnd] at h
  push Not at h
  obtain ⟨k, hpulls, hle⟩ := h
  rw [hpulls]
  exact (isCut_draw k count source).missing hle

/-- What a session gets is a beginning of the whole upload. -/
theorem chunks_draw_isPrefix (pulls : Option Nat) :
    (draw read chunkSize pulls count source).chunks <+:
      (draw read chunkSize none count source).chunks := by
  cases pulls with
  | none => exact List.prefix_rfl
  | some k =>
    rw [(isCut_draw k count source).chunks]
    exact List.take_prefix _ _

end Sessions

/-- What an upload of so many bytes has taken of them: it has not found any missing, and the chunks
are all of them when the session asks for more than there are. -/
structure Takes (u : Upload Stream) (pulls : Option Nat) (bytes : Bytes) : Prop where
  missing : u.missing = 0
  isBeginning : u.chunks.flatten <+: bytes
  all : (∀ k, pulls = some k → u.chunks.length < k) → u.chunks.flatten = bytes

/-- **An upload takes what is asked for**, from where the stream stands, when the stream holds it.
-/
theorem takes_draw {chunkSize : Nat} (hpos : 0 < chunkSize) (pulls : Option Nat) (remaining : Nat)
    (s : Stream) (h : remaining ≤ s.rest.length) :
    (draw Stream.readAtMost chunkSize pulls remaining s).Takes pulls (s.rest.take remaining) := by
  have hdraws := draws_draw reads_readAtMost hpos remaining s
  have hcut (k : Nat) : (draw Stream.readAtMost chunkSize (some k) remaining s).IsCut
      (draw Stream.readAtMost chunkSize none remaining s) k := isCut_draw k remaining s
  have hprefix : (draw Stream.readAtMost chunkSize pulls remaining s).chunks <+:
      (draw Stream.readAtMost chunkSize none remaining s).chunks := chunks_draw_isPrefix pulls
  have hmissing := hdraws.missing
  constructor
  case missing =>
    cases pulls with
    | none => omega
    | some k =>
      rcases Nat.lt_or_ge (draw Stream.readAtMost chunkSize none remaining s).chunks.length k
        with hlt | hle
      · rw [(hcut k).eq_of_lt hlt]
        omega
      · exact (hcut k).missing hle
  case isBeginning =>
    rw [← hdraws.bytes]
    exact hprefix.flatten
  case all =>
    intro hend
    cases pulls with
    | none => exact hdraws.bytes
    | some k =>
      have hlt := hend k rfl
      rw [(hcut k).chunks, List.length_take] at hlt
      rw [(hcut k).eq_of_lt (by omega), hdraws.bytes]

end Upload

namespace StreamPart

/-- A part of a stream that moves, that starts where the stream stands and lies within its content.
-/
structure IsWhole (p : StreamPart) : Prop where
  kind : p.stream.kind = .seekable
  start : p.start = some (p.stream.position : Int)
  length : ∃ n : Nat, p.length = n ∧ n ≤ p.stream.rest.length

/-- The bytes of a part. -/
def bytes (p : StreamPart) : Bytes := p.stream.rest.take p.length.toNat

/-- What the session gets of a part, when it deals with it in this way: chunks of a proper size,
that are a beginning of its bytes, and all of them when it reads the part to the end. -/
def SentBy (p : StreamPart) (chunkSize : Nat) (d : Delivery) (cargo : Cargo) : Prop :=
  ∃ chunks, cargo = .chunks chunks ∧ (∀ chunk ∈ chunks, chunk ≠ [] ∧ chunk.length ≤ chunkSize) ∧
    chunks.flatten <+: p.bytes ∧ (d.ReadsToEnd chunks → chunks.flatten = p.bytes)

variable {p : StreamPart}

/-- The part has as many bytes as it announces. -/
theorem IsWhole.length_bytes (h : p.IsWhole) : (p.bytes.length : Int) = p.length := by
  obtain ⟨n, hn, hle⟩ := h.length
  rw [bytes, hn, Int.toNat_natCast, List.length_take, Nat.min_eq_left hle]

/-- **A part is handed over from its first byte**, none of its bytes is found missing, and the
stream stands elsewhere afterwards. -/
theorem IsWhole.handOver (h : p.IsWhole) {chunkSize : Nat} (hpos : 0 < chunkSize) (d : Delivery) :
    p.SentBy chunkSize d ((Body.stream p).handOver chunkSize d.pulls).cargo ∧
      ((Body.stream p).handOver chunkSize d.pulls).shortage = none ∧
      ∃ s, p.stream.SameBut s ∧
        ((Body.stream p).handOver chunkSize d.pulls).body = .stream { p with stream := s } := by
  obtain ⟨n, hn, hle⟩ := h.length
  have htakes : (p.upload chunkSize d.pulls).Takes d.pulls p.bytes := by
    rw [upload, bytes, hn, Int.toNat_natCast]
    exact Upload.takes_draw hpos d.pulls n p.stream hle
  refine ⟨⟨_, rfl, ?_, htakes.isBeginning, htakes.all⟩, ?_, _, ?_, rfl⟩
  · exact Upload.chunk_bounds Stream.length_fst_readAtMost_le _ _ _
  · show (if (p.upload chunkSize d.pulls).missing = 0 then none else some _) = none
    rw [if_pos htakes.missing]
  · exact p.stream.sameBut_draw _ _ _

/-- **A part goes back to its first byte**, wherever its stream stands. -/
theorem IsWhole.eq_of_rewind (h : p.IsWhole) {s : Stream} (hs : p.stream.SameBut s) {b : Body}
    (hb : ((Body.stream p).resume (.stream { p with stream := s })).rewind = .ok b) :
    b = .stream p := by
  obtain ⟨⟨kind, content, first⟩, length, start⟩ := p
  obtain ⟨position, rfl⟩ := hs
  obtain rfl : kind = .seekable := h.kind
  obtain rfl : start = some (first : Int) := h.start
  dsimp only [Body.resume, Body.rewind, StreamPart.rewind, Stream.seek, Stream.moveTo] at hb
  split at hb
  · cases hb
  · rw [if_neg (by omega), Int.toNat_natCast] at hb
    cases hb
    rfl

end StreamPart

end CloudClient
