import CloudClient.Proofs.Request.Metadata
import CloudClient.Proofs.Request.Repetition
import CloudClient.Proofs.Transport.Chunks

/-!
# What is stored of a stream

A stream is stored by a part of it, whose length is given or measured, and which has a start when
the stream can go back to it. Main statements: the part says of the stream what is so, and a part
that has a start is replayed from it, however much of the stream was read; a size that is given is
never found unknown, unless the stream tells where it stands and refuses to move.
-/

namespace CloudClient

namespace Stream

variable {s : Stream}

/-! ## Measuring -/

/-- How much is left of a stream can be found out: it tells where it stands, and where it ends. -/
def IsMeasurable (s : Stream) : Prop :=
  ∃ start last moved, s.tell = .ok start ∧ s.seekEnd = .ok (last, moved)

/-- Such a stream is one that moves. -/
theorem isMeasurable_iff : s.IsMeasurable ↔ s.kind = .seekable := by
  obtain ⟨kind, content, position⟩ := s
  constructor
  · rintro ⟨start, last, moved, htell, hend⟩
    cases kind with
    | seekable => rfl
    | seekFails => cases hend
    | unseekable | readOnly | tellFails => cases htell
  · intro hkind
    obtain rfl : kind = .seekable := hkind
    exact ⟨_, _, _, rfl, rfl⟩

/-- A stream that moves is measured from where it stands. -/
theorem measureFor_of_seekable (hs : s.kind = .seekable) (bucket key : String) :
    s.measureFor bucket key = (.ok (s.position, s.rest.length), s) := by
  obtain ⟨kind, content, position⟩ := s
  obtain rfl : kind = .seekable := hs
  rw [Stream.rest, List.length_drop]
  rfl

/-- Any other stream cannot be measured. -/
theorem measureFor_of_ne (hs : s.kind ≠ .seekable) (bucket key : String) :
    ∃ cause, s.measureFor bucket key = (.error (.unseekable bucket key cause), s) := by
  obtain ⟨kind, content, position⟩ := s
  cases kind
  case seekable => exact absurd rfl hs
  all_goals exact ⟨_, rfl⟩

/-- A stream is asked for its position when it tells it. -/
theorem position?_eq_some_iff {start : Nat} : s.position? = some start ↔ s.tell = .ok start := by
  obtain ⟨kind, content, position⟩ := s
  cases kind <;> simp [position?, disclaimsSeeking, tell, Except.toOption]

/-! ## Reading -/

/-- The stream after it was read some times, each time up to a number of bytes or to its end. -/
def afterReads (s : Stream) (counts : List Int) : Stream :=
  counts.foldl (fun s count => (s.read count).2) s

/-- Reading moves a stream and changes nothing else of it. -/
theorem sameBut_afterReads (s : Stream) (counts : List Int) : s.SameBut (s.afterReads counts) := by
  -- The induction is on the reads that are left, for wherever the reads before them have led.
  suffices h : ∀ s', s.SameBut s' → s.SameBut (s'.afterReads counts) from h s ⟨s.position, rfl⟩
  induction counts with
  | nil =>
    intro s' hs'
    exact hs'
  | cons count counts ih =>
    rintro s' ⟨position, rfl⟩
    exact ih _ ⟨_, rfl⟩

/-- What is read of a stream is the beginning of what is left of it. -/
theorem fst_read {n : Int} (hn : 0 ≤ n) :
    (s.read n).1 = (s.content.drop s.position).take n.toNat := by
  rw [read, if_neg (by omega)]
  rfl

end Stream

/-- **A part of a stream that moves goes back to its start**, wherever the stream stands, when the
start is a position that a stream can be told to go to. -/
theorem StreamPart.IsWhole.rewind {p : StreamPart} (hp : p.IsWhole)
    (hword : Stream.isWord p.stream.position = true) {s : Stream} (hs : p.stream.SameBut s) :
    ({ p with stream := s } : StreamPart).rewind = .ok p := by
  obtain ⟨⟨kind, content, first⟩, length, start⟩ := p
  obtain ⟨position, rfl⟩ := hs
  obtain rfl : kind = .seekable := hp.kind
  obtain rfl : start = some (first : Int) := hp.start
  have hseek : Stream.seek { kind := .seekable, content, position } (first : Int) =
      .ok { kind := .seekable, content, position := first } := by
    show Stream.moveTo _ _ = _
    rw [Stream.moveTo, hword, if_neg (by decide), if_neg (by omega), Int.toNat_natCast]
  rw [StreamPart.rewind]
  dsimp only
  rw [hseek]
  rfl

namespace StorageRequest

/-! ## Parts -/

/-- The number of bytes that are stored of a stream: as many as are said to be there, or all that
are left. -/
def storedLength (s : Stream) : Option SizeHint → Int
  | some (.known n) => n
  | _ => s.rest.length

variable {bucket key : String} {s : Stream} {size : Option SizeHint} {p : StreamPart}

/-- All that is left is stored when no size is given. -/
theorem storedLength_of_measured (hsize : ∀ n, size ≠ some (.known n)) :
    storedLength s size = s.rest.length := by
  cases size with
  | none => rfl
  | some hint =>
    cases hint with
    | known n => exact absurd rfl (hsize n)
    | measured => rfl

/-- A stream whose size is not given is stored as it is measured. -/
theorem fst_streamPart_of_measured (hsize : ∀ n, size ≠ some (.known n)) :
    (streamPart bucket key s size).1 =
      (s.measureFor bucket key).1.map fun m =>
        { stream := s, length := (m.2 : Int), start := some (m.1 : Int) } := by
  have hsame := s.snd_measureFor bucket key
  unfold streamPart
  split
  · rename_i n
    exact absurd rfl (hsize n)
  · split
    · rename_i hmeasure
      rw [hmeasure]
      rfl
    · rename_i hmeasure
      rw [hmeasure] at hsame ⊢
      obtain rfl := hsame
      rfl

/-- A stream that moves is stored with a size that is given when it holds as much. -/
theorem fst_streamPart_of_seekable {n : Int} (hn : 0 ≤ n) (hs : s.kind = .seekable) :
    (streamPart bucket key s (some (.known n))).1 =
      if (s.rest.length : Int) < n then
        .error (.invalidArgument "size" (.int n) s!"stream holds only {s.rest.length} bytes")
      else .ok { stream := s, length := n, start := some (s.position : Int) } := by
  have hposition : s.position? = some s.position := by
    rw [Stream.position?_eq_some_iff, Stream.tell, hs]
  rw [streamPart, if_neg (by omega), hposition]
  dsimp only
  rw [Stream.measureFor_of_seekable hs]
  dsimp only
  split
  · rfl
  · rfl

/-- A stream that does not tell where it stands is stored with the size that is given. -/
theorem fst_streamPart_of_untold {n : Int} (hn : 0 ≤ n) (hs : ∀ start, s.tell ≠ .ok start) :
    (streamPart bucket key s (some (.known n))).1 = .ok { stream := s, length := n } := by
  have hposition : s.position? = none := by
    rw [Option.eq_none_iff_forall_ne_some]
    intro start hstart
    exact hs start (Stream.position?_eq_some_iff.1 hstart)
  rw [streamPart, if_neg (by omega), hposition]

/-- A stream that tells where it stands and does not move is measured all the same, and refused. -/
theorem fst_streamPart_of_unmovable (bucket key : String) {n : Int} (hn : 0 ≤ n) {start : Nat}
    (htell : s.tell = .ok start) (hs : s.kind ≠ .seekable) :
    ∃ cause, (streamPart bucket key s (some (.known n))).1 =
      .error (.unseekable bucket key cause) := by
  obtain ⟨cause, hmeasure⟩ := Stream.measureFor_of_ne hs bucket key
  refine ⟨cause, ?_⟩
  rw [streamPart, if_neg (by omega), Stream.position?_eq_some_iff.2 htell]
  dsimp only
  rw [hmeasure]

/-- What a part says of the stream that it was made of. -/
structure Describes (p : StreamPart) (s : Stream) (size : Option SizeHint) : Prop where
  stream : p.stream = s
  length : p.length = storedLength s size
  nonneg : 0 ≤ p.length
  isWhole : s.kind = .seekable → p.IsWhole
  start : s.kind ≠ .seekable → p.start = none

/-- **A part says of its stream what is so.** -/
theorem describes_of_streamPart (h : (streamPart bucket key s size).1 = .ok p) :
    Describes p s size := by
  by_cases hknown : ∃ n, size = some (.known n)
  · obtain ⟨n, rfl⟩ := hknown
    have hn : 0 ≤ n := by
      refine Int.not_lt.1 fun hn => ?_
      rw [streamPart, if_pos hn] at h
      cases h
    by_cases hs : s.kind = .seekable
    · rw [fst_streamPart_of_seekable hn hs] at h
      split at h
      · cases h
      · cases h
        refine ⟨rfl, rfl, hn, ?_, fun hne => absurd hs hne⟩
        intro _
        exact ⟨hs, rfl, n.toNat, by dsimp only; omega, by dsimp only; omega⟩
    · by_cases htell : ∃ start, s.tell = .ok start
      · obtain ⟨start, htell⟩ := htell
        obtain ⟨cause, hrefused⟩ := fst_streamPart_of_unmovable bucket key hn htell hs
        rw [hrefused] at h
        cases h
      · rw [fst_streamPart_of_untold hn fun start hstart => htell ⟨start, hstart⟩] at h
        cases h
        exact ⟨rfl, rfl, hn, fun hseekable => absurd hseekable hs, fun _ => rfl⟩
  · have hmeasured : ∀ n, size ≠ some (.known n) := fun n hn => hknown ⟨n, hn⟩
    have hlength : storedLength s size = s.rest.length := storedLength_of_measured hmeasured
    rw [fst_streamPart_of_measured hmeasured] at h
    by_cases hs : s.kind = .seekable
    · rw [Stream.measureFor_of_seekable hs] at h
      cases h
      refine ⟨rfl, hlength.symm, by dsimp only; omega, ?_, fun hne => absurd hs hne⟩
      intro _
      exact ⟨hs, rfl, s.rest.length, rfl, Nat.le_refl _⟩
    · obtain ⟨cause, hrefused⟩ := Stream.measureFor_of_ne hs bucket key
      rw [hrefused] at h
      cases h

/-! ## Requests -/

variable {contentType : String} {metadata : Dict String}

/-- What is made of a stream under proper names is what is made of its part. -/
theorem fst_put_of_names (hnames : checkObject bucket key = .ok ()) :
    (put bucket key (.stream s) contentType size metadata).1 =
      ((streamPart bucket key s size).1.map .stream).bind
        (putBody bucket key contentType metadata) := by
  rw [put, hnames]
  rfl

/-- **A stream is described as it is, and replayed when it is said to be.** Whatever comes of
storing it, the stream stays where it was. The part that is stored of it has the length that is
given, or all that is left when it is measured, and the request may be repeated exactly when the
part has a start. A part with a start begins where the stream stands and lies within its content;
and after any reads it goes back there, as it was, and its bytes are read again, provided that the
place is a position that a stream can be told to go to. -/
theorem put_describes_stream (bucket key contentType : String) (s : Stream) (size : Option SizeHint)
    (metadata : Dict String) :
    (put bucket key (.stream s) contentType size metadata).2 = .stream s ∧
    ∀ r, (put bucket key (.stream s) contentType size metadata).1 = .ok r →
      ∃ p, r.body = .stream p ∧ p.stream = s ∧ 0 ≤ p.length ∧
        (∀ n, size = some (.known n) → p.length = n) ∧
        ((∀ n, size ≠ some (.known n)) → p.length = max 0 ((s.content.length : Int) - s.position)) ∧
        (r.isIdempotent = true ↔ ∃ start, p.start = some start) ∧
        ∀ start, p.start = some start →
          start = s.position ∧ p.length ≤ max 0 ((s.content.length : Int) - s.position) ∧
          (Stream.isWord start = true → ∀ reads,
            ({ p with stream := s.afterReads reads } : StreamPart).rewind = .ok p ∧
            (p.stream.read p.length).1 = (s.content.drop s.position).take p.length.toNat ∧
            ((p.stream.read p.length).1.length : Int) = p.length) := by
  refine ⟨snd_put bucket key (.stream s) contentType size metadata, ?_⟩
  intro r h
  obtain ⟨hbody, hidempotent, -⟩ := body_of_put h
  obtain ⟨p, hp, hpart⟩ := exists_part_of_payloadBody hbody
  obtain ⟨rfl, hlength, hnonneg, hwhole, hstart⟩ := describes_of_streamPart hp
  have hrest : (p.stream.rest.length : Int) =
      max 0 ((p.stream.content.length : Int) - p.stream.position) := by
    rw [Stream.rest, List.length_drop]
    omega
  refine ⟨p, hpart, rfl, hnonneg, ?_, ?_, ?_, ?_⟩
  · rintro n rfl
    exact hlength
  · intro hmeasured
    rw [hlength, storedLength_of_measured hmeasured, hrest]
  · rw [hidempotent, hpart, Body.isReplayable, Option.isSome_iff_exists]
  · intro start hsome
    -- A part has a start only when its stream moves, and then the stream holds it.
    have hkind : p.stream.kind = .seekable := by
      refine Decidable.byContradiction fun hne => ?_
      rw [hstart hne] at hsome
      cases hsome
    have hp := hwhole hkind
    obtain rfl : (p.stream.position : Int) = start := Option.some.inj (hp.start.symm.trans hsome)
    obtain ⟨n, hn, hle⟩ := hp.length
    refine ⟨rfl, by omega, ?_⟩
    intro hword reads
    have hread : (p.stream.read p.length).1 = p.bytes := Stream.fst_read hnonneg
    refine ⟨hp.rewind hword (p.stream.sameBut_afterReads reads), hread, ?_⟩
    rw [hread]
    exact hp.length_bytes

/-- A stream that stands in the middle of its bytes. -/
def streamFromThird : Stream := { content := Utf8.ofString "stream", position := 2 }

/-- Three bytes of it are stored, and read again after it was read to its end. -/
theorem streamFromThird_is_replayed :
    ∃ r p, (put "bucket" "key" (.stream streamFromThird) "" (some (.known 3)) .empty).1 = .ok r ∧
      r.body = .stream p ∧ p.length = 3 ∧ r.isIdempotent = true ∧
      ({ p with stream := streamFromThird.afterReads [1, -1] } : StreamPart).rewind = .ok p ∧
      (p.stream.read p.length).1 = Utf8.ofString "rea" := by
  obtain ⟨-, hmade⟩ :=
    put_describes_stream "bucket" "key" "" streamFromThird (some (.known 3)) .empty
  obtain ⟨r, hr⟩ : ∃ r, (put "bucket" "key" (.stream streamFromThird) "" (some (.known 3))
      .empty).1 = .ok r := ⟨_, rfl⟩
  obtain ⟨p, hbody, -, -, hlength, -, hidempotent, hstart⟩ := hmade r hr
  have hp : p.start = some 2 := by
    cases hr
    cases hbody
    rfl
  obtain ⟨-, -, hreplay⟩ := hstart 2 hp
  obtain ⟨hrewind, hread, -⟩ := hreplay (by decide) [1, -1]
  refine ⟨r, p, hr, hbody, hlength 3 rfl, hidempotent.2 ⟨2, hp⟩, hrewind, ?_⟩
  rw [hread, hlength 3 rfl]
  decide

/-! ## Sizes that are not known -/

/-- What is made is the fault of a size that is not known. -/
def IsSizeUnknown (made : Except Fault Request) : Prop :=
  ∃ f, made = .error f ∧ f.family = .sizeUnknown

/-- What is made of a body is a request or the fault of its metadata, and so not that of a size. -/
theorem not_isSizeUnknown_putBody (bucket key contentType : String) (metadata : Dict String)
    (body : Body) : ¬IsSizeUnknown (putBody bucket key contentType metadata body) := by
  rintro ⟨f, hf, hfamily⟩
  by_cases hnamed : "" ∈ metadata.keys
  · rw [putBody_of_unnamed hnamed] at hf
    cases hf
    cases hfamily
  · obtain ⟨r, hr, -⟩ := putBody_of_named bucket key contentType body hnamed
    rw [hr] at hf
    cases hf

/-- What comes of storing a stream with a given size: it is refused when it holds less or its
metadata is without a name, and else it is stored with this size. -/
inductive IsSized (s : Stream) (n : Int) (metadata : Dict String) :
    Except Fault Request → Prop where
  | short (hs : s.IsMeasurable) (hn : (s.rest.length : Int) < n) :
      IsSized s n metadata
        (.error (.invalidArgument "size" (.int n) s!"stream holds only {s.rest.length} bytes"))
  | unnamed (hn : s.IsMeasurable → n ≤ s.rest.length) (hnames : "" ∈ metadata.keys) :
      IsSized s n metadata (.error unnamedMetadata)
  | stored (hn : s.IsMeasurable → n ≤ s.rest.length) (hnames : "" ∉ metadata.keys) {r : Request}
      {p : StreamPart} (hbody : r.body = .stream p) (hstream : p.stream = s)
      (hlength : p.length = n) : IsSized s n metadata (.ok r)

/-- A part that its stream holds is stored, or its metadata is refused. -/
theorem isSized_putBody (p : StreamPart)
    (hn : p.stream.IsMeasurable → p.length ≤ p.stream.rest.length) (bucket key contentType : String)
    (metadata : Dict String) :
    IsSized p.stream p.length metadata (putBody bucket key contentType metadata (.stream p)) := by
  by_cases hnames : "" ∈ metadata.keys
  · rw [putBody_of_unnamed hnames]
    exact .unnamed hn hnames
  · obtain ⟨r, hr, hbody⟩ := putBody_of_named bucket key contentType (.stream p) hnames
    rw [hr]
    exact .stored hn hnames hbody rfl rfl

/-- What comes of storing a stream with a given size is no size that is not known. -/
theorem IsSized.not_isSizeUnknown {n : Int} {made : Except Fault Request}
    (h : IsSized s n metadata made) : ¬IsSizeUnknown made := by
  rintro ⟨f, hf, hfamily⟩
  cases h with
  | short hs hn | unnamed hn hnames =>
    cases hf
    cases hfamily
  | stored => cases hf

/-- A stream is stored with a size that is given, unless it tells where it stands and does not move.
-/
theorem isSized_put (hnames : checkObject bucket key = .ok ()) {n : Int} (hn : 0 ≤ n)
    (hs : ¬((∃ start, s.tell = .ok start) ∧ ¬s.IsMeasurable)) (contentType : String)
    (metadata : Dict String) :
    IsSized s n metadata (put bucket key (.stream s) contentType (some (.known n)) metadata).1 := by
  rw [fst_put_of_names hnames]
  by_cases hmoves : s.IsMeasurable
  · rw [fst_streamPart_of_seekable hn (Stream.isMeasurable_iff.1 hmoves)]
    by_cases hshort : (s.rest.length : Int) < n
    · rw [if_pos hshort]
      exact .short hmoves hshort
    · rw [if_neg hshort]
      exact isSized_putBody ⟨s, n, _⟩ (fun _ => Int.not_lt.1 hshort) _ _ _ _
  · rw [fst_streamPart_of_untold hn fun start htell => hs ⟨⟨start, htell⟩, hmoves⟩]
    exact isSized_putBody ⟨s, n, _⟩ (fun hmoves' => absurd hmoves' hmoves) _ _ _ _

/-- **A size that is given is stored, unless the stream cannot move from a place that it tells.**
Under proper names, a stream with a given size is stored with it when the stream holds as much, or
does not tell where it stands; it is refused when it holds less. But when it tells where it stands
and does not move, its size is said not to be known, although it is given. Without a given size that
is said exactly of the streams of which cannot be found out how much is left. -/
theorem given_size_is_stored_unless_unmovable (hnames : checkObject bucket key = .ok ())
    (contentType : String) (s : Stream) (metadata : Dict String) :
    (∀ n : Int, 0 ≤ n →
      (IsSizeUnknown (put bucket key (.stream s) contentType (some (.known n)) metadata).1 ↔
        (∃ start, s.tell = .ok start) ∧ ¬s.IsMeasurable) ∧
      (¬((∃ start, s.tell = .ok start) ∧ ¬s.IsMeasurable) →
        IsSized s n metadata
          (put bucket key (.stream s) contentType (some (.known n)) metadata).1)) ∧
    ∀ size, (∀ n, size ≠ some (.known n)) →
      (IsSizeUnknown (put bucket key (.stream s) contentType size metadata).1 ↔
        ¬s.IsMeasurable) := by
  constructor
  · intro n hn
    have hsized := fun hs => isSized_put (s := s) hnames hn hs contentType metadata
    refine ⟨?_, hsized⟩
    constructor
    · intro hunknown
      exact Classical.byContradiction fun hs => (hsized hs).not_isSizeUnknown hunknown
    · rintro ⟨⟨start, htell⟩, hs⟩
      rw [Stream.isMeasurable_iff] at hs
      obtain ⟨cause, hrefused⟩ := fst_streamPart_of_unmovable bucket key hn htell hs
      rw [fst_put_of_names hnames, hrefused]
      exact ⟨_, rfl, rfl⟩
  · intro size hsize
    rw [fst_put_of_names hnames, fst_streamPart_of_measured hsize, Stream.isMeasurable_iff]
    by_cases hs : s.kind = .seekable
    · rw [Stream.measureFor_of_seekable hs]
      exact iff_of_false (not_isSizeUnknown_putBody _ _ _ _ _) fun hne => hne hs
    · obtain ⟨cause, hrefused⟩ := Stream.measureFor_of_ne hs bucket key
      rw [hrefused]
      exact iff_of_true ⟨_, rfl, rfl⟩ hs

/-- A stream that tells where it stands and refuses to move. -/
def unmovable : Stream := { kind := .seekFails, content := Utf8.ofString "data" }

/-- It is refused with a given size as one whose size is not known. -/
theorem unmovable_is_refused_with_size :
    unmovable.tell = .ok 0 ∧
    (put "bucket" "key" (.stream unmovable) "" (some (.known 4)) .empty).1 =
      .error (.unseekable "bucket" "key" (some StreamFailure.seekRefused.cause)) ∧
    IsSizeUnknown (put "bucket" "key" (.stream unmovable) "" (some (.known 4)) .empty).1 := by
  exact ⟨rfl, rfl, _, rfl, rfl⟩

/-- A stream that does not tell where it stands is stored with the size that is given, and refused
without one. -/
theorem untold_is_stored_with_size :
    checkObject "bucket" "key" = .ok () ∧ (0 : Int) ≤ 4 ∧
    (∃ r p, (put "bucket" "key" (.stream { kind := .tellFails, content := Utf8.ofString "data" }) ""
        (some (.known 4)) .empty).1 = .ok r ∧ r.body = .stream p ∧ p.length = 4) ∧
    IsSizeUnknown (put "bucket" "key"
      (.stream { kind := .tellFails, content := Utf8.ofString "data" }) "" none .empty).1 := by
  have hnames : checkObject "bucket" "key" = .ok () := rfl
  obtain ⟨hgiven, hmeasured⟩ := given_size_is_stored_unless_unmovable hnames ""
    { kind := .tellFails, content := Utf8.ofString "data" } .empty
  have hne : ¬Stream.IsMeasurable { kind := .tellFails, content := Utf8.ofString "data" } := by
    rw [Stream.isMeasurable_iff]
    decide
  refine ⟨hnames, by decide, ?_, (hmeasured none (by rintro n ⟨⟩)).2 hne⟩
  have hsized := (hgiven 4 (by decide)).2 fun htold => by
    obtain ⟨⟨start, htell⟩, -⟩ := htold
    cases htell
  generalize (put "bucket" "key" _ "" (some (.known 4)) .empty).1 = made at hsized
  cases hsized with
  | short hs => exact absurd hs hne
  | unnamed _ hunnamed => exact absurd hunnamed List.not_mem_nil
  | stored _ _ hbody _ hlength => exact ⟨_, _, rfl, hbody, hlength⟩

end StorageRequest

end CloudClient
