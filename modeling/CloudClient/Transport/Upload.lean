import CloudClient.Body

/-!
# Uploads

A body of stated length is drawn from its source in chunks. No chunk is empty or longer than the
chunk size, and nothing is read beyond the stated length. A source that ends early leaves the
upload short. Main statement: every chunk respects the chunk size.
-/

namespace CloudClient

variable {σ : Type}

/-- What was drawn from a source: the chunks, the number of bytes that were found missing, and
the source as it stands afterwards. -/
structure Upload (σ : Type) where
  chunks : List Bytes
  missing : Nat
  source : σ
  deriving DecidableEq

namespace Upload

/-- The number of bytes in the chunks. -/
def size (u : Upload σ) : Nat := u.chunks.flatten.length

/-- Draws `remaining` bytes in chunks of at most `chunkSize`; `pulls` limits the number of
chunks, if given. -/
def draw (read : σ → Nat → Bytes × σ) (chunkSize : Nat) (pulls : Option Nat) (remaining : Nat)
    (source : σ) : Upload σ :=
  if _h : remaining = 0 ∨ pulls = some 0 then { chunks := [], missing := 0, source }
  else
    match read source (min chunkSize remaining) with
    | ([], source) => { chunks := [], missing := remaining, source }
    | (b :: bs, source) =>
      let u := draw read chunkSize (pulls.map (· - 1)) (remaining - (b :: bs).length) source
      { u with chunks := (b :: bs) :: u.chunks }
termination_by remaining
decreasing_by
  simp only [List.length_cons]
  omega

variable {read : σ → Nat → Bytes × σ} {chunkSize : Nat}

/-- Nothing is drawn when nothing is left to draw, or when no chunk is asked for. -/
theorem draw_of_done {pulls : Option Nat} {remaining : Nat} (h : remaining = 0 ∨ pulls = some 0)
    (source : σ) :
    draw read chunkSize pulls remaining source = { chunks := [], missing := 0, source } := by
  rw [draw.eq_def, dif_pos h]

/-- A source that has come to its end leaves the rest missing. -/
theorem draw_of_end {pulls : Option Nat} {remaining : Nat}
    (h : ¬(remaining = 0 ∨ pulls = some 0)) {source rest : σ}
    (hread : read source (min chunkSize remaining) = ([], rest)) :
    draw read chunkSize pulls remaining source =
      { chunks := [], missing := remaining, source := rest } := by
  rw [draw.eq_def, dif_neg h, hread]

/-- A chunk that is read comes before what is drawn after it. -/
theorem draw_of_chunk {pulls : Option Nat} {remaining : Nat}
    (h : ¬(remaining = 0 ∨ pulls = some 0)) {source rest : σ} {b : UInt8} {bs : Bytes}
    (hread : read source (min chunkSize remaining) = (b :: bs, rest)) :
    draw read chunkSize pulls remaining source =
      let u := draw read chunkSize (pulls.map (· - 1)) (remaining - (b :: bs).length) rest
      { u with chunks := (b :: bs) :: u.chunks } := by
  rw [draw.eq_def, dif_neg h, hread]

/-- No chunk is empty, and none is longer than the chunk size. -/
theorem chunk_bounds (hread : ∀ s n, (read s n).1.length ≤ n) (pulls : Option Nat)
    (remaining : Nat) (source : σ) :
    ∀ c ∈ (draw read chunkSize pulls remaining source).chunks,
      c ≠ [] ∧ c.length ≤ chunkSize := by
  induction pulls, remaining, source using draw.induct read chunkSize with
  | case1 pulls remaining source hdone =>
    rw [draw_of_done hdone]
    rintro c ⟨⟩
  | case2 pulls remaining source hmore rest hend =>
    rw [draw_of_end hmore hend]
    rintro c ⟨⟩
  | case3 pulls remaining source hmore b bs rest hchunk ih =>
    have hle := hread source (min chunkSize remaining)
    rw [hchunk] at hle
    rw [draw_of_chunk hmore hchunk]
    intro c hc
    rcases List.mem_cons.1 hc with rfl | hc
    · exact ⟨List.cons_ne_nil b bs, Nat.le_trans hle (Nat.min_le_left _ _)⟩
    · exact ih c hc

end Upload

namespace Stream

/-- Reads at most a number of bytes. -/
def readAtMost (s : Stream) (count : Nat) : Bytes × Stream := s.read count

/-- No more is read than was asked for. -/
theorem length_fst_readAtMost_le (s : Stream) (count : Nat) :
    (s.readAtMost count).1.length ≤ count := by
  have h : ¬((count : Int) < 0) := by omega
  simp only [readAtMost, read, if_neg h, List.length_take, Int.toNat_natCast]
  exact Nat.min_le_left _ _

end Stream

/-- What the session gets of a body. -/
inductive Cargo where
  | nothing
  | bytes (data : Bytes)
  | chunks (parts : List Bytes)
  deriving DecidableEq, Repr, Inhabited

/-- The number of bytes in what the session gets. -/
def Cargo.size : Cargo → Nat
  | nothing => 0
  | bytes data => data.length
  | chunks parts => parts.flatten.length

/-- A body that is being handed over: what the session gets, the fault of a stream that ends
early, and the body as it stands afterwards. -/
structure Handover where
  cargo : Cargo
  shortage : Option Fault := none
  body : Body
  deriving Inhabited

namespace StreamPart

/-- The fault of a stream that ends before its stated length. -/
def shortage (length : Int) (missing : Nat) : Fault :=
  .invalidArgument "size" (.int length)
    s!"stream ended after {length - missing} of {length} bytes"

/-- Draws the part from its stream; a length below zero draws nothing. -/
def upload (p : StreamPart) (chunkSize : Nat) (pulls : Option Nat) : Upload Stream :=
  Upload.draw Stream.readAtMost chunkSize pulls p.length.toNat p.stream

end StreamPart

namespace Body

/-- Hands a body over to the session, which takes all of it unless `pulls` limits the chunks. -/
def handOver (b : Body) (chunkSize : Nat) (pulls : Option Nat) : Handover :=
  match b with
  | .empty => { cargo := .nothing, body := b }
  | .bytes data => { cargo := .bytes data, body := b }
  | .stream p =>
    let u := p.upload chunkSize pulls
    { cargo := .chunks u.chunks
      shortage := if u.missing = 0 then none else some (StreamPart.shortage p.length u.missing)
      body := .stream { p with stream := u.source } }

/-- A body over the stream as an earlier attempt has left it. -/
def resume : Body → Body → Body
  | .stream p, .stream earlier => .stream { p with stream := earlier.stream }
  | b, _ => b

/-- The body again at its start. -/
def rewind : Body → Except Failure Body
  | .stream p => p.rewind.map .stream
  | b => .ok b

end Body

end CloudClient
