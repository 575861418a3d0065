import CloudClient.Proofs.Text.Split

/-!
# Dot segments

Readers of locators take the segments `.` and `..` of a path for steps in a tree, and remove them
before they use the path. The way in which they do so moves the path from one text to another,
segment by segment. Main statement: a path that begins with a slash and has no such segment stays as
it is.
-/

namespace CloudClient

namespace Uri

/-- A segment that is one dot or two. -/
def isDots (segment : List Char) : Bool := segment == ['.'] || segment == ['.', '.']

/-- A path without its last segment and the slash in front of it. -/
def withoutLast (path : List Char) : List Char := (Text.cutLast '/' path).1.getD []

/-- Moves a path to what has been moved before. A segment in front of which no slash stands is
moved, or dropped with the slash after it when it is dots. A segment after a slash is moved with the
slash; when it is dots, the slash stays, and two dots take back the segment that was moved last. -/
def moveSegments (moved : List Char) : List Char → List Char
  | [] => moved
  | c :: r =>
    let segment := (Text.cut '/' r).1
    if c = '/' then
      if segment = ['.'] then moveSegments moved ('/' :: (Text.cut '/' r).2.getD [])
      else if segment = ['.', '.'] then
        moveSegments (withoutLast moved) ('/' :: (Text.cut '/' r).2.getD [])
      else moveSegments (moved ++ '/' :: segment) (Text.fromSep '/' r)
    else if isDots (c :: segment) then moveSegments moved ((Text.cut '/' r).2.getD [])
    else moveSegments (moved ++ c :: segment) (Text.fromSep '/' r)
termination_by path => path.length
decreasing_by
  · rename_i hdot
    exact Nat.succ_lt_succ (Text.length_after_lt hdot)
  · rename_i hdots
    exact Nat.succ_lt_succ (Text.length_after_lt hdots)
  · exact Nat.lt_succ_of_le (Text.length_fromSep_le '/' r)
  · have hle := Text.length_after_le '/' r
    rw [List.length_cons]
    omega
  · exact Nat.lt_succ_of_le (Text.length_fromSep_le '/' r)

/-- A path without dot segments, as readers of locators remove them. -/
def removeDotSegments (path : List Char) : List Char := moveSegments [] path

/-- Two dots take the segment in front of them with them. -/
example : removeDotSegments "/a/b/c/./../../g".toList = "/a/g".toList := by cbv

/-- A path without a slash in front loses its dot segments as well. -/
example : removeDotSegments "mid/content=5/../6".toList = "mid/6".toList := by cbv

/-- A segment that is not dots is moved with the slash in front of it. -/
theorem moveSegments_segment {segment rest : List Char} (hslash : '/' ∉ segment)
    (hdots : isDots segment = false) (hrest : rest = [] ∨ ∃ r, rest = '/' :: r)
    (moved : List Char) :
    moveSegments moved ('/' :: (segment ++ rest)) =
      moveSegments (moved ++ '/' :: segment) rest := by
  have hcut : (Text.cut '/' (segment ++ rest)).1 = segment ∧
      Text.fromSep '/' (segment ++ rest) = rest := by
    rw [Text.fromSep]
    rcases hrest with rfl | ⟨r, rfl⟩
    · rw [List.append_nil, Text.cut_of_not_mem hslash]
      exact ⟨rfl, rfl⟩
    · rw [Text.cut_append_sep hslash]
      exact ⟨rfl, rfl⟩
  rw [isDots, Bool.or_eq_false_iff, beq_eq_false_iff_ne, beq_eq_false_iff_ne] at hdots
  rw [moveSegments, hcut.1, hcut.2, if_pos rfl, if_neg hdots.1, if_neg hdots.2]

/-- Segments that are not dots are moved one after the other. -/
theorem moveSegments_flatMap {segments : List (List Char)}
    (h : ∀ s ∈ segments, '/' ∉ s ∧ isDots s = false) (moved : List Char) :
    moveSegments moved (segments.flatMap (List.cons '/')) =
      moved ++ segments.flatMap (List.cons '/') := by
  induction segments generalizing moved with
  | nil => rw [List.flatMap_nil, moveSegments, List.append_nil]
  | cons s segments ih =>
    obtain ⟨hslash, hdots⟩ := h s List.mem_cons_self
    have hrest : segments.flatMap (List.cons '/') = [] ∨
        ∃ r, segments.flatMap (List.cons '/') = '/' :: r := by
      cases segments with
      | nil => exact .inl rfl
      | cons t segments => exact .inr ⟨_, rfl⟩
    rw [List.flatMap_cons, List.cons_append, moveSegments_segment hslash hdots hrest,
      ih fun t ht => h t (List.mem_cons_of_mem s ht), List.append_assoc, List.cons_append]

/-- **A path without dot segments stays as it is.** -/
theorem removeDotSegments_eq_self {segments : List (List Char)}
    (h : ∀ s ∈ segments, '/' ∉ s ∧ isDots s = false) :
    removeDotSegments (segments.flatMap (List.cons '/')) = segments.flatMap (List.cons '/') := by
  rw [removeDotSegments, moveSegments_flatMap h, List.nil_append]

end Uri

end CloudClient
