import CloudClient.Json

/-!
# Scopes of log fields

Fields can be scoped: from the opening of a scope to its closing every line carries them. Scopes
nest, and the fields of an inner scope stand over those of an outer one. Main statement: closing
the scope that was opened last gives back the fields that were there before it.
-/

namespace CloudClient

/-- The fields in force, and what each open scope will restore, the innermost first. -/
structure LogScope where
  current : Dict Json := .empty
  outer : List (Dict Json) := []
  deriving Inhabited

namespace LogScope

/-- Opens a scope. -/
def enter (s : LogScope) (fields : Dict Json) : LogScope :=
  { current := s.current.merge fields, outer := s.current :: s.outer }

/-- Closes the innermost scope; without one nothing changes. -/
def leave (s : LogScope) : LogScope :=
  match s.outer with
  | [] => s
  | fields :: outer => { current := fields, outer }

/-- Leaving a scope that was just entered gives back the scopes before. -/
theorem leave_enter (s : LogScope) (fields : Dict Json) : (s.enter fields).leave = s := rfl

/-- Entering a scope puts its fields over the current ones. -/
theorem current_enter (s : LogScope) (fields : Dict Json) :
    (s.enter fields).current = s.current.merge fields := rfl

end LogScope

end CloudClient
