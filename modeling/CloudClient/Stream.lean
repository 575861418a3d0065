import CloudClient.Fault
import CloudClient.Text.Utf8

/-!
# Byte streams

A caller may give the body of a request as a stream that it owns. Streams differ in what they can
do: some cannot say where they stand, some cannot move. A stream that can do both is measured by
moving to its end and back.
-/

namespace CloudClient

/-- What a stream can do besides being read. A stream that has been closed is of none of these
kinds: it fails when it is asked whether it can move, and that failure is outside the model. -/
inductive StreamKind where
  /-- It tells its position and moves. -/
  | seekable
  /-- It says that it cannot move. -/
  | unseekable
  /-- It offers reading alone. -/
  | readOnly
  /-- It claims to move, but cannot tell its position. -/
  | tellFails
  /-- It tells its position, but refuses to move. -/
  | seekFails
  deriving DecidableEq, Repr, Inhabited

/-- A stream over its content, at a position that may lie past the end. -/
structure Stream where
  kind : StreamKind := .seekable
  content : Bytes
  position : Nat := 0
  deriving DecidableEq, Repr, Inhabited

/-- Why a stream does not answer. -/
inductive StreamFailure where
  /-- The stream has no such ability. -/
  | missing
  /-- The stream cannot tell its position. -/
  | tellRefused
  /-- The stream does not move. -/
  | seekRefused
  /-- There is no position before the first. -/
  | negativePosition (position : Int)
  /-- A position has more than 64 bits. -/
  | positionTooLarge
  /-- A number of bytes has more than 64 bits. -/
  | countTooLarge
  deriving DecidableEq, Repr

/-- The failure of a stream as the cause of a fault. -/
def StreamFailure.cause : StreamFailure → Cause
  | missing => ⟨"AttributeError", "stream has no attribute of this name"⟩
  | tellRefused => ⟨"OSError", "stream cannot tell its position"⟩
  | seekRefused => ⟨"ValueError", "stream cannot seek"⟩
  | negativePosition position => ⟨"ValueError", s!"negative seek value {position}"⟩
  | positionTooLarge => ⟨"OverflowError", "Python int too large to convert to C ssize_t"⟩
  | countTooLarge => ⟨"OverflowError", "cannot fit 'int' into an index-sized integer"⟩

namespace Stream

/-! ## Abilities -/

/-- The stream says of itself that it cannot move. -/
def disclaimsSeeking (s : Stream) : Bool := s.kind == .unseekable

/-- The position, when the stream tells it. -/
def tell (s : Stream) : Except StreamFailure Nat :=
  match s.kind with
  | .seekable | .seekFails => .ok s.position
  | .unseekable | .readOnly => .error .missing
  | .tellFails => .error .tellRefused

/-- A number has 64 bits with its sign. -/
def isWord (n : Int) : Bool := -0x8000000000000000 ≤ n && n < 0x8000000000000000

/-- Moves to a position, which may lie past the end. -/
def moveTo (s : Stream) (position : Int) : Except StreamFailure Stream :=
  if !isWord position then .error .positionTooLarge
  else if position < 0 then .error (.negativePosition position)
  else .ok { s with position := position.toNat }

/-- Moves to a position, if the stream can move. -/
def seek (s : Stream) (position : Int) : Except StreamFailure Stream :=
  match s.kind with
  | .seekable | .tellFails => s.moveTo position
  | .unseekable | .readOnly => .error .missing
  | .seekFails => .error .seekRefused

/-- Moves to the end and answers its position. -/
def seekEnd (s : Stream) : Except StreamFailure (Nat × Stream) :=
  match s.kind with
  | .seekable | .tellFails =>
    .ok (s.content.length, { s with position := s.content.length })
  | .unseekable | .readOnly => .error .missing
  | .seekFails => .error .seekRefused

/-- What is left to read. -/
def rest (s : Stream) : Bytes := s.content.drop s.position

/-- Reads up to a number of bytes; a negative number reads all that is left. -/
def read (s : Stream) (count : Int) : Bytes × Stream :=
  let taken := if count < 0 then s.rest else s.rest.take count.toNat
  (taken, { s with position := s.position + taken.length })

/-- Reads up to a number of bytes that a caller gives, which must fit in 64 bits. -/
def read? (s : Stream) (count : Int) : Except StreamFailure (Bytes × Stream) :=
  if isWord count then .ok (s.read count) else .error .countTooLarge

/-! ## Measuring -/

/-- The position and the number of bytes left, found by moving to the end and back, with the
stream as it stands afterwards. -/
def measure (s : Stream) : Except StreamFailure (Nat × Nat) × Stream :=
  match s.tell with
  | .error e => (.error e, s)
  | .ok start =>
    match s.seekEnd with
    | .error e => (.error e, s)
    | .ok (last, s) => (.ok (start, last - start), { s with position := start })

/-- Measures the stream that is to be stored under a key; one that cannot be measured makes the
fault of an unknown size. -/
def measureFor (bucket key : String) (s : Stream) : Except Fault (Nat × Nat) × Stream :=
  if s.disclaimsSeeking then (.error (.unseekable bucket key none), s)
  else
    let (answer, s) := s.measure
    (answer.mapError fun e => .unseekable bucket key (some e.cause), s)

/-- The position of a stream that can be asked for it. -/
def position? (s : Stream) : Option Nat :=
  if s.disclaimsSeeking then none else s.tell.toOption

/-- Measuring leaves a stream where it was, whatever the outcome. -/
@[simp] theorem snd_measure (s : Stream) : s.measure.2 = s := by
  obtain ⟨kind, content, position⟩ := s
  cases kind <;> rfl

/-- Measuring for a key leaves a stream where it was as well. -/
@[simp] theorem snd_measureFor (bucket key : String) (s : Stream) :
    (s.measureFor bucket key).2 = s := by
  unfold measureFor
  split
  · rfl
  · exact s.snd_measure

/-- A measured stream tells its position and what is left of its content. -/
theorem fst_measure_eq_ok {s : Stream} {start length : Nat}
    (h : s.measure.1 = .ok (start, length)) :
    start = s.position ∧ length = s.content.length - s.position := by
  obtain ⟨kind, content, position⟩ := s
  cases kind <;> simp_all [measure, tell, seekEnd]
  obtain ⟨rfl, rfl⟩ := h
  simp

end Stream

end CloudClient
