import CloudClient.Json

/-!
# Log levels

Five levels have names. A line may have any number as its level, and a greater number is more
severe. Main statements: a line shows a level that has a name by the name, and any integer as the
level of that number.
-/

namespace CloudClient

/-- A named level. -/
inductive LogLevel where
  | debug
  | info
  | warning
  | error
  | critical
  deriving DecidableEq, Repr, Inhabited

namespace LogLevel

/-- All levels, the least severe first. -/
def all : List LogLevel := [debug, info, warning, error, critical]

/-- The name of a level. -/
def name : LogLevel → String
  | debug => "DEBUG"
  | info => "INFO"
  | warning => "WARNING"
  | error => "ERROR"
  | critical => "CRITICAL"

/-- The number of a level. -/
def number : LogLevel → Int
  | debug => 10
  | info => 20
  | warning => 30
  | error => 40
  | critical => 50

/-- The level of a name. -/
def ofName? (s : String) : Option LogLevel := all.find? fun l => l.name == s

/-- What a line shows as its level: the name, or the number of a level without one. -/
def label (n : Int) : String :=
  match all.find? fun l => l.number == n with
  | some l => l.name
  | none => if n = 0 then "NOTSET" else s!"Level {n}"

/-- What a line shows as its level when that may be any value: a value that equals the number of a
level goes by the name of the level. -/
def labelOf (v : Json) : String :=
  match (0 :: all.map number).find? fun n => v.same (.int n) with
  | some n => label n
  | none => s!"Level {v.display}"

/-- The label of the number of a level is its name. -/
theorem label_number (l : LogLevel) : label l.number = l.name := by
  cases l <;> rfl

/-- An integer as a level is shown as the level of that number. -/
theorem labelOf_int (n : Int) : labelOf (.int n) = label n := by
  unfold labelOf
  split
  · rename_i m hm
    have hsame := List.find?_some hm
    have heq : n = m := by simpa [Json.same, Json.sameScalar, Json.integer?] using hsame
    rw [heq]
  · rename_i hnone
    have hother : ∀ m ∈ 0 :: all.map number, n ≠ m := by
      simpa [Json.same, Json.sameScalar, Json.integer?] using hnone
    have hname : all.find? (fun l => l.number == n) = none := by
      rw [List.find?_eq_none]
      intro l hl heq
      exact hother l.number (List.mem_cons_of_mem 0 (List.mem_map_of_mem hl))
        (eq_of_beq heq).symm
    have hzero : n ≠ 0 := hother 0 List.mem_cons_self
    have hshown : (Json.int n).display = toString n := by
      simp [Json.display, Json.quoted, Json.quote]
    simp only [label, hname, hzero, hshown, if_false]
    rfl

end LogLevel

end CloudClient
