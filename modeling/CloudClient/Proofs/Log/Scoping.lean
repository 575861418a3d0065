import CloudClient.Proofs.Log.Fields

/-!
# Programs that scope log fields

A program opens blocks of fields, logs messages, looks at the fields in force and ends parts of
itself by a return or by an exception, in any nesting; what it does next may depend on what it sees.
A block is closed however its body ends. Main statements: a program leaves the scopes as it found
them, and so does every block in it; inside, the fields in force are those of the enclosing blocks,
an inner block standing over an outer one; and a line shows the field of its call, else that of the
logger, else that of the innermost enclosing block that gives one, and no field of a block that was
left.
-/

namespace CloudClient

/-! ## Fields in force -/

namespace LogScope

/-- The fields of enclosing blocks over those that are there outside, the innermost block first. -/
def within (base : Dict Json) (enclosing : List (Dict Json)) : Dict Json :=
  enclosing.foldr (fun fields outer => outer.merge fields) base

/-- The field that the innermost block gives which has one of the name, or else the one outside. -/
def innermost? (base : Dict Json) (enclosing : List (Dict Json)) (k : String) : Option Json :=
  (enclosing.findSome? (·.get? k)).or (base.get? k)

/-- **Of nested blocks the innermost one gives a field.** -/
theorem get?_within (base : Dict Json) (enclosing : List (Dict Json)) (k : String) :
    (within base enclosing).get? k = innermost? base enclosing k := by
  induction enclosing with
  | nil => rfl
  | cons fields enclosing ih =>
    show ((within base enclosing).merge fields).get? k = _
    rw [Dict.get?_merge, ih, innermost?, innermost?, List.findSome?_cons]
    cases fields.get? k with
    | none => rfl
    | some v => rfl

/-- A block opened inside of others stands over them. -/
theorem current_enter_within {s : LogScope} {base : Dict Json} {enclosing : List (Dict Json)}
    (h : s.current = within base enclosing) (fields : Dict Json) :
    (s.enter fields).current = within base (fields :: enclosing) := by
  rw [current_enter, h]
  rfl

end LogScope

/-! ## Programs -/

/-- How a part of a program ends before its end. -/
inductive LogExit where
  | returned
  | raised (text : String)
  deriving DecidableEq, Repr

/-- A message that a program logs. -/
structure LogCall where
  logger : Logger
  level : LogLevel
  message : String
  fields : Dict Json
  created : EpochTime

/-- What logging the message gives. -/
def LogCall.outcome (c : LogCall) (s : LogScope) : Except LoggerError (Option String) :=
  c.logger.line s c.level c.message c.fields c.created

/-- A message that cannot be logged raises its error; a line that cannot be written is left out by
what writes the lines. -/
def LogExit.ofOutcome? : Except LoggerError (Option String) → Option LogExit
  | .error (.line _) => none
  | .error e => some (.raised e.message)
  | .ok _ => none

/-- A program that scopes log fields. -/
inductive LogProgram where
  | skip
  | andThen (first next : LogProgram)
  /-- Looks at the fields in force and goes on as they say. -/
  | look (next : Dict Json → LogProgram)
  | log (call : LogCall)
  /-- A block with fields of its own. -/
  | block (fields : Dict Json) (body : LogProgram)
  | exit (how : LogExit)
  /-- A function; a return ends no more than its body. -/
  | function (body : LogProgram)
  /-- A body whose exception is handled. -/
  | guarded (body : LogProgram) (handler : String → LogProgram)

/-- What is observed of a program. -/
inductive LogEvent where
  | looked (fields : Dict Json)
  | logged (call : LogCall) (outcome : Except LoggerError (Option String))
  /-- A block was left: the fields in force before it and after it. -/
  | left (before after : LogScope)

/-- What a program does: the scopes that it leaves, each event with the fields of the blocks around
it, the innermost first, and how the program ends if it does so before its end. -/
structure LogRun where
  scope : LogScope
  events : List (List (Dict Json) × LogEvent) := []
  exit : Option LogExit := none

namespace LogProgram

/-- Runs a program inside of blocks. -/
def run : LogProgram → List (Dict Json) → LogScope → LogRun
  | skip, _, s => { scope := s }
  | andThen first next, enclosing, s =>
    let r := first.run enclosing s
    match r.exit with
    | some _ => r
    | none =>
      let r' := next.run enclosing r.scope
      { r' with events := r.events ++ r'.events }
  | look next, enclosing, s =>
    let r := (next s.current).run enclosing s
    { r with events := (enclosing, .looked s.current) :: r.events }
  | log call, enclosing, s =>
    { scope := s, events := [(enclosing, .logged call (call.outcome s))],
      exit := LogExit.ofOutcome? (call.outcome s) }
  | block fields body, enclosing, s =>
    let r := body.run (fields :: enclosing) (s.enter fields)
    { r with scope := r.scope.leave, events := r.events ++ [(enclosing, .left s r.scope.leave)] }
  | exit how, _, s => { scope := s, exit := some how }
  | function body, enclosing, s =>
    let r := body.run enclosing s
    { r with exit := r.exit.filter (· ≠ .returned) }
  | guarded body handler, enclosing, s =>
    let r := body.run enclosing s
    match r.exit with
    | some (.raised text) =>
      let r' := (handler text).run enclosing r.scope
      { r' with events := r.events ++ r'.events }
    | _ => r

/-- **A program leaves the scopes as it found them**, however it ends. -/
theorem scope_run (p : LogProgram) (enclosing : List (Dict Json)) (s : LogScope) :
    (p.run enclosing s).scope = s := by
  induction p generalizing enclosing s with
  | skip => rfl
  | andThen first next ihFirst ihNext =>
    rw [run]
    split
    · exact ihFirst enclosing s
    · show (next.run enclosing (first.run enclosing s).scope).scope = s
      rw [ihNext, ihFirst]
  | look next ih => exact ih s.current enclosing s
  | log call => rfl
  | block fields body ih =>
    show (body.run (fields :: enclosing) (s.enter fields)).scope.leave = s
    rw [ih, LogScope.leave_enter]
  | exit how => rfl
  | function body ih => exact ih enclosing s
  | guarded body handler ihBody ihHandler =>
    rw [run]
    split
    · rename_i text _
      show ((handler text).run enclosing (body.run enclosing s).scope).scope = s
      rw [ihHandler, ihBody]
    · exact ihBody enclosing s

end LogProgram

/-! ## Events -/

/-- The line shows, under every name that it has no other use for, the first field that the call,
the logger and the enclosing blocks give, and nothing where none of them does. -/
def LogCall.IsLine (c : LogCall) (base : Dict Json) (enclosing : List (Dict Json)) (line : String) :
    Prop :=
  ∃ object : Dict Json, line = (Json.ofDict object).render ∧
    ∀ k, LogRecord.IsFieldName k →
      object.get? k = c.logger.fieldOf c.fields (LogScope.innermost? base enclosing) k

/-- The message can be logged: its fields have names of their own, its level is enabled, and its
time is one of the calendar. -/
structure LogCall.IsWritable (c : LogCall) : Prop where
  fields : c.logger.Takes c.fields
  level : c.logger.isEnabled c.level.number
  time : ∃ time, c.created.toUtc = .ok time

/-- What is observed agrees with the blocks around it: the fields in force are theirs, a message
that can be logged has a line and every line is that of its call within the blocks, and leaving a
block gives back what was there before. -/
def LogEvent.AgreesWith (base : Dict Json) (enclosing : List (Dict Json)) : LogEvent → Prop
  | looked fields =>
    fields = LogScope.within base enclosing ∧
      ∀ k, fields.get? k = LogScope.innermost? base enclosing k
  | logged call outcome =>
    (call.IsWritable → ∃ line, outcome = .ok (some line)) ∧
      ∀ line, outcome = .ok (some line) → call.IsLine base enclosing line
  | left before after => after = before

section Agreement

variable {s : LogScope} {base : Dict Json} {enclosing : List (Dict Json)}

/-- The fields that are in force within blocks are theirs. -/
theorem LogEvent.looked_agreesWith (hs : s.current = LogScope.within base enclosing) :
    (LogEvent.looked s.current).AgreesWith base enclosing := by
  refine ⟨hs, ?_⟩
  intro k
  rw [hs, LogScope.get?_within]

/-- A message that is logged within blocks has its line within them. -/
theorem LogEvent.logged_agreesWith (hs : s.current = LogScope.within base enclosing) (c : LogCall) :
    (LogEvent.logged c (c.outcome s)).AgreesWith base enclosing := by
  constructor
  · rintro ⟨hfields, hlevel, time, htime⟩
    exact Logger.exists_line hfields hlevel htime s
  · intro line hline
    obtain ⟨object, hrender, hobject⟩ := Logger.exists_object_of_line hline
    refine ⟨object, hrender, ?_⟩
    intro k hk
    have hscope : s.current.get? = LogScope.innermost? base enclosing := by
      funext k
      rw [hs, LogScope.get?_within]
    rw [hobject k hk, hscope]

end Agreement

namespace LogProgram

/-- **Whatever is observed of a program agrees with the blocks around it.** -/
theorem agreesWith_of_mem_events (p : LogProgram) {base : Dict Json} {enclosing : List (Dict Json)}
    {s : LogScope} (hs : s.current = LogScope.within base enclosing) :
    ∀ e ∈ (p.run enclosing s).events, e.2.AgreesWith base e.1 := by
  -- Every part of the program begins in the scopes in which the whole does, as those before it left
  -- them so.
  induction p generalizing enclosing s with
  | skip =>
    intro e he
    cases he
  | andThen first next ihFirst ihNext =>
    rw [run]
    split
    · exact ihFirst hs
    · intro e he
      rcases List.mem_append.1 he with he | he
      · exact ihFirst hs e he
      · rw [scope_run] at he
        exact ihNext hs e he
  | look next ih =>
    intro e he
    rcases List.mem_cons.1 he with rfl | he
    · exact LogEvent.looked_agreesWith hs
    · exact ih s.current hs e he
  | log call =>
    intro e he
    obtain rfl := List.mem_singleton.1 he
    exact LogEvent.logged_agreesWith hs call
  | block fields body ih =>
    intro e he
    rcases List.mem_append.1 he with he | he
    · exact ih (LogScope.current_enter_within hs fields) e he
    · obtain rfl := List.mem_singleton.1 he
      show (body.run (fields :: enclosing) (s.enter fields)).scope.leave = s
      rw [scope_run, LogScope.leave_enter]
  | exit how =>
    intro e he
    cases he
  | function body ih => exact ih hs
  | guarded body handler ihBody ihHandler =>
    rw [run]
    split
    · rename_i text _
      intro e he
      rcases List.mem_append.1 he with he | he
      · exact ihBody hs e he
      · rw [scope_run] at he
        exact ihHandler text hs e he
    · exact ihBody hs

/-- **Scoping is a stack discipline.** A program leaves the scopes as it found them; each block in
it leaves what was there before the block; and inside, the fields in force and those of every line
are given by the enclosing blocks alone, the innermost first. -/
theorem scoping_is_stack_discipline (p : LogProgram) (s : LogScope) :
    (p.run [] s).scope = s ∧ ∀ e ∈ (p.run [] s).events, e.2.AgreesWith s.current e.1 := by
  constructor
  · exact scope_run p [] s
  · exact agreesWith_of_mem_events p rfl

/-- A handled exception leaves the inner block: the field is that of the outer one again. -/
example :
    ((block (.ofList [("key", .text "outer")])
      (andThen (guarded (block (.ofList [("key", .text "inner")]) (exit (.raised "gone")))
        fun _ => skip)
        (look fun fields => exit (.raised (((fields.get? "key").map Json.display).getD ""))))).run
          [] {}).exit =
      some (.raised "outer") := by
  cbv

end LogProgram

end CloudClient
