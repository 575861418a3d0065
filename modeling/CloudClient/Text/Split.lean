/-!
# Splitting text

Cutting a list at a separator: at its first occurrence, at its last, or at every one. Main
statement: a text is cut at a separator that has none before it, and not at all without one.
-/

namespace CloudClient.Text

variable {α : Type} [DecidableEq α]

/-- What stands before the first separator, and what stands after it when there is one. -/
def cut (sep : α) : List α → List α × Option (List α)
  | [] => ([], none)
  | c :: r =>
    if c = sep then ([], some r)
    else
      let (a, b) := cut sep r
      (c :: a, b)

/-- What stands before the last separator when there is one, and what stands after it. -/
def cutLast (sep : α) : List α → Option (List α) × List α
  | [] => (none, [])
  | c :: r =>
    match cutLast sep r with
    | (some a, b) => (some (c :: a), b)
    | (none, b) => if c = sep then (some [], b) else (none, c :: b)

/-- The pieces between separators; a text without one is a single piece. -/
def pieces (sep : α) : List α → List (List α)
  | [] => [[]]
  | c :: r =>
    if c = sep then [] :: pieces sep r
    else
      match pieces sep r with
      | [] => [[c]]
      | p :: ps => (c :: p) :: ps

/-- There is always at least one piece. -/
theorem pieces_ne_nil (sep : α) (s : List α) : pieces sep s ≠ [] := by
  cases s with
  | nil => simp [pieces]
  | cons c r =>
    unfold pieces
    split
    · simp
    · split <;> simp

/-- A text is cut at a separator that has none before it. -/
theorem cut_append_sep {sep : α} {a : List α} (h : sep ∉ a) (b : List α) :
    cut sep (a ++ sep :: b) = (a, some b) := by
  induction a with
  | nil => simp [cut]
  | cons c r ih =>
    simp only [List.mem_cons, not_or] at h
    simp [cut, ih h.2, Ne.symm h.1]

/-- A text without the separator is not cut. -/
theorem cut_of_not_mem {sep : α} {a : List α} (h : sep ∉ a) : cut sep a = (a, none) := by
  induction a with
  | nil => rfl
  | cons c r ih =>
    simp only [List.mem_cons, not_or] at h
    simp [cut, ih h.2, Ne.symm h.1]

/-- The first `n` elements and the rest start with the given ones: drops them. -/
def dropFront? (front : List α) (s : List α) : Option (List α) :=
  match front, s with
  | [], s => some s
  | _ :: _, [] => none
  | a :: f, c :: r => if a = c then dropFront? f r else none

/-- Dropping a front leaves what stood behind it. -/
theorem dropFront?_append (front s : List α) : dropFront? front (front ++ s) = some s := by
  induction front with
  | nil => simp [dropFront?]
  | cons a f ih => simp [dropFront?, ih]

end CloudClient.Text
