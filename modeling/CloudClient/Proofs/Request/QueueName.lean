import CloudClient.Proofs.Success
import CloudClient.Proofs.Uri.Reading
import CloudClient.Request.Queue

/-!
# Names of queues

The name of a queue is documented as one to eighty letters, digits, hyphens and low lines of ASCII,
the last of which may be followed by the mark of an ordered queue. Main statement: the names that
are documented are accepted, and no others but those that are followed by a single line feed; a
queue is asked for under every name that is accepted.
-/

namespace CloudClient

namespace Name

/-! ## Documented names -/

/-- A letter or a digit of ASCII, a low line, or a hyphen. -/
def IsQueueLetter (c : Char) : Prop := c.isAlphanum = true ∨ c = '_' ∨ c = '-'

/-- One or more of these characters, and then the mark of an ordered queue or nothing. -/
def IsQueueForm (s : List Char) : Prop :=
  ∃ base : List Char, base ≠ [] ∧ (∀ c ∈ base, IsQueueLetter c) ∧
    (s = base ∨ s = base ++ ".fifo".toList)

/-- A name of a queue as it is documented. -/
def IsDocumentedQueue (name : String) : Prop :=
  1 ≤ name.length ∧ name.length ≤ 80 ∧ IsQueueForm name.toList

variable {s : List Char} {name : String}

/-- A form has a character. -/
theorem IsQueueForm.ne_nil (h : IsQueueForm s) : s ≠ [] := by
  obtain ⟨base, hne, -, rfl | rfl⟩ := h
  · exact hne
  · exact List.append_ne_nil_of_left_ne_nil hne _

/-- No form holds a line feed. -/
theorem IsQueueForm.lineFeed_not_mem (h : IsQueueForm s) : '\n' ∉ s := by
  obtain ⟨base, -, hall, hs⟩ := h
  have hbase : '\n' ∉ base := by
    intro hmem
    rcases hall _ hmem with hletter | heq | heq
    · revert hletter
      decide
    · cases heq
    · cases heq
  rcases hs with rfl | rfl
  · exact hbase
  · rw [List.mem_append, not_or]
    exact ⟨hbase, by decide⟩

/-- A name of at most eighty characters is documented when it has the form. -/
theorem isDocumentedQueue_iff (hlength : name.length ≤ 80) :
    IsDocumentedQueue name ↔ IsQueueForm name.toList := by
  refine ⟨fun h => h.2.2, fun h => ⟨?_, hlength, h⟩⟩
  rw [← String.length_toList]
  exact List.length_pos_iff.2 h.ne_nil

/-! ## The check of a name -/

/-- The check takes the same characters. -/
theorem isQueueChar_iff (c : Char) : isQueueChar c = true ↔ IsQueueLetter c := by
  rw [isQueueChar, Bool.or_eq_true, Bool.or_eq_true, Bool.or_eq_true, ← Uri.isAlphanum_iff,
    beq_iff_eq, beq_iff_eq, or_assoc]
  rfl

/-- A base is one or more of these characters. -/
theorem isQueueBase_iff (s : List Char) :
    isQueueBase s = true ↔ s ≠ [] ∧ ∀ c ∈ s, IsQueueLetter c := by
  simp only [isQueueBase, Bool.and_eq_true, Bool.not_eq_true', List.isEmpty_eq_false_iff,
    List.all_eq_true, isQueueChar_iff]

/-- The form that the check asks for is the documented one. -/
theorem isQueueName_iff (s : List Char) : isQueueName s = true ↔ IsQueueForm s := by
  have hfront : ∀ base : List Char,
      (base ++ orderedMark).take ((base ++ orderedMark).length - orderedMark.length) = base := by
    intro base
    rw [List.length_append, Nat.add_sub_cancel_right, List.take_left]
  rw [isQueueName, Bool.or_eq_true, Bool.and_eq_true, isQueueBase_iff, isQueueBase_iff,
    List.isSuffixOf_iff_suffix]
  constructor
  · rintro (⟨hne, hall⟩ | ⟨⟨base, rfl⟩, hne, hall⟩)
    · exact ⟨s, hne, hall, .inl rfl⟩
    · rw [hfront] at hne hall
      exact ⟨base, hne, hall, .inr rfl⟩
  · rintro ⟨base, hne, hall, rfl | rfl⟩
    · exact .inl ⟨hne, hall⟩
    · refine .inr ⟨⟨base, rfl⟩, ?_⟩
      rw [show ".fifo".toList = orderedMark from rfl, hfront]
      exact ⟨hne, hall⟩

/-- A text has the form with or without a line feed at its end when it has it, or a line feed stands
behind the form. -/
theorem isQueueForm_or_dropLineFeed (s : List Char) :
    IsQueueForm s ∨ IsQueueForm (dropLineFeed s) ↔
      IsQueueForm s ∨ ∃ t, IsQueueForm t ∧ s = t ++ ['\n'] := by
  unfold dropLineFeed
  split
  · rename_i hlast
    obtain ⟨t, rfl⟩ := List.getLast?_eq_some_iff.1 hlast
    rw [List.dropLast_concat]
    apply or_congr_right
    constructor
    · intro ht
      exact ⟨t, ht, rfl⟩
    · rintro ⟨t', ht, heq⟩
      rwa [List.append_cancel_right heq]
  · rename_i hlast
    rw [or_self, iff_self_or]
    rintro ⟨t, -, rfl⟩
    exact absurd List.getLast?_concat hlast

/-- **The names that are accepted** have at most eighty characters, and have the form or a line feed
behind it. -/
theorem checkQueue_eq_ok_iff (name : String) :
    checkQueue name = .ok () ↔
      name.length ≤ 80 ∧
        (IsQueueForm name.toList ∨ ∃ t, IsQueueForm t ∧ name.toList = t ++ ['\n']) := by
  rw [← isQueueForm_or_dropLineFeed, ← isQueueName_iff, ← isQueueName_iff, ← Bool.or_eq_true,
    checkQueue]
  split
  · rename_i hempty
    rw [String.isEmpty_iff.1 hempty]
    exact iff_of_false (by simp [refuse]) (by decide)
  · split
    · rename_i hlong
      exact iff_of_false (by simp [refuse]) fun h => by omega
    · rename_i hlength
      split
      · rename_i hform
        exact iff_of_true rfl ⟨by omega, hform⟩
      · rename_i hform
        exact iff_of_false (by simp [refuse]) fun h => hform h.2

/-- A name that is not accepted is refused by a fault that names it. -/
theorem failsAs_invalidName_checkQueue (name : String) :
    FailsAs (fun f => ∃ reason, f = .invalidName "queue" name reason) (checkQueue name) := by
  have hrefuse : ∀ reason, FailsAs (fun f => ∃ reason, f = Fault.invalidName "queue" name reason)
      (refuse "queue" name reason) := fun reason => failsAs_error ⟨reason, rfl⟩
  exact .ite (hrefuse _) (.ite (hrefuse _) (.ite failsAs_ok (hrefuse _)))

end Name

/-- A queue is asked for when its name is accepted, and under that name. -/
theorem QueueRequest.exists_createQueue_iff (version name : String) :
    (∃ r form, createQueue version name .null = .ok r ∧ r.form = some form ∧
      form.get? "QueueName" = some name) ↔ Name.checkQueue name = .ok () := by
  constructor
  · rintro ⟨r, -, h, -⟩
    obtain ⟨_, hname, -⟩ := exists_of_bind_eq_ok h
    exact eq_ok_of_mapError hname
  · intro hname
    rw [createQueue, hname]
    exact ⟨_, _, rfl, rfl, rfl⟩

open Name

/-- **The names of queues are those that are documented, unless a line feed follows.** A name is
accepted exactly when it is documented, or is a documented name and a single line feed, of eighty
characters together at most; every other name is refused by a fault that names it, and a queue is
asked for under each of the names that are accepted. -/
theorem queue_names_are_documented_unless_line_feed_follows (name : String) :
    (checkQueue name = .ok () ↔
      IsDocumentedQueue name ∨
        name.length ≤ 80 ∧ ∃ front, IsDocumentedQueue front ∧ name = front ++ "\n") ∧
    (∀ f, checkQueue name = .error f → ∃ reason, f = .invalidName "queue" name reason) ∧
    ∀ version,
      (∃ r form, QueueRequest.createQueue version name .null = .ok r ∧ r.form = some form ∧
        form.get? "QueueName" = some name) ↔ checkQueue name = .ok () := by
  refine ⟨?_, failsAs_invalidName_checkQueue name,
    fun version => QueueRequest.exists_createQueue_iff version name⟩
  rw [checkQueue_eq_ok_iff, and_or_left]
  -- The bound on the length includes the line feed, and so it holds of what stands before it as
  -- well.
  apply or_congr
  · constructor
    · rintro ⟨hlength, hform⟩
      exact (isDocumentedQueue_iff hlength).2 hform
    · rintro ⟨-, hlength, hform⟩
      exact ⟨hlength, hform⟩
  · refine and_congr_right fun hlength => ?_
    constructor
    · rintro ⟨t, ht, hname⟩
      refine ⟨String.ofList t, ?_, ?_⟩
      · rw [isDocumentedQueue_iff, String.toList_ofList]
        · exact ht
        · have hcount := congrArg List.length hname
          rw [List.length_append, String.length_toList] at hcount
          rw [String.length_ofList]
          omega
      · rw [← String.toList_inj, hname, String.toList_append, String.toList_ofList]
        rfl
    · rintro ⟨front, hfront, rfl⟩
      exact ⟨front.toList, hfront.2.2, String.toList_append⟩

/-- A single letter and a line feed are accepted, and are no documented name. -/
theorem followedName_is_accepted :
    checkQueue "q\n" = .ok () ∧ ¬IsDocumentedQueue "q\n" := by
  refine ⟨rfl, fun h => ?_⟩
  exact h.2.2.lineFeed_not_mem (by decide)

end CloudClient
