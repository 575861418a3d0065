import CloudClient.Log.Logger
import CloudClient.Proofs.Dict
import CloudClient.Proofs.Success

/-!
# Fields of log lines

A line shows a field of the record where the record gives one, and otherwise a field of the scopes;
a record has the fields of its call over those of its logger. The operation and the id of the
request stand before the other fields, and only where they are not empty. Main statements: what
stands under a name in the line of a message is the first that the call, the logger and the scopes
give, and a message whose fields have names of their own has a line.
-/

namespace CloudClient

namespace LogRecord

/-- The names under which every line says when, how severe, what and by whom. -/
def lineNames : List String := ["@timestamp", "level", "message", "logger"]

/-- The names of the fields that stand before the others. -/
def leadingNames : List String := ["operation", "request_id"]

/-- The line has no other use for a name, and shows the field that goes by it. -/
def IsFieldName (k : String) : Prop := k ∉ lineNames ∧ k ∉ ownNames

instance (k : String) : Decidable (IsFieldName k) := inferInstanceAs (Decidable (_ ∧ _))

/-- What is shown of the value of a field: the operation and the id of the request are left out
where they are empty. -/
def shown (k : String) (v : Option Json) : Option Json :=
  if k ∈ leadingNames then v.filter (!·.isEmpty) else v

variable {r : LogRecord} {scope fields : Dict Json} {k : String}

/-! ## The fields of a record -/

/-- What is read of a list under a name that a filter lets pass. -/
theorem lookup_filter_own (hk : k ∉ ownNames) (l : List (String × Json)) :
    (l.filter fun e => !ownNames.contains e.1).lookup k = l.lookup k := by
  induction l with
  | nil => rfl
  | cons e l ih =>
    obtain ⟨a, v⟩ := e
    by_cases ha : a ∈ ownNames
    · have hne : (k == a) = false := by
        apply beq_eq_false_iff_ne.2
        rintro rfl
        exact hk ha
      rw [List.filter_cons_of_neg (by simpa using ha), List.lookup_cons, hne, ih]
    · rw [List.filter_cons_of_pos (by simpa using ha), List.lookup_cons, List.lookup_cons, ih]

/-- A field of the record stands over one of the scopes. -/
theorem get?_allFields (hr : r.failure = none) (hk : k ∉ ownNames) :
    (r.allFields scope).get? k = (r.fields.get? k).or (scope.get? k) := by
  have hdistinct : ((r.fields.entries.filter fun e => !ownNames.contains e.1).map (·.1)).Nodup :=
    r.fields.nodup.sublist (List.filter_sublist.map _)
  rw [allFields, hr, Dict.get?_putAll hdistinct, lookup_filter_own hk]
  rfl

/-! ## The fields of a line -/

/-- A field that stands in front has its name. -/
theorem filter_leading (fields : Dict Json) (k a : String) :
    (leading fields a).filter (·.1 = k) = if a = k then leading fields a else [] := by
  have hname : ∀ e ∈ leading fields a, e.1 = a := by
    intro e he
    unfold leading at he
    split at he
    · cases he
    · split at he
      · cases he
      · rw [List.mem_singleton.1 he]
  split
  · rename_i ha
    apply List.filter_eq_self.2
    intro e he
    exact decide_eq_true ((hname e he).trans ha)
  · rename_i ha
    apply List.filter_eq_nil_iff.2
    intro e he hk
    exact ha ((hname e he).symm.trans (of_decide_eq_true hk))

/-- A field stands in front where it is not empty. -/
theorem getLast?_leading (fields : Dict Json) (a : String) :
    ((leading fields a).map (·.2)).getLast? = (fields.get? a).filter (!·.isEmpty) := by
  unfold leading
  cases fields.get? a with
  | none => rfl
  | some v => cases hv : v.isEmpty <;> simp [hv, Option.filter]

/-- Of the fields only the operation and the id of the request stand in front. -/
theorem get?_front (hk : k ∉ lineNames) (fields : Dict Json) (a b c d : Json) :
    (Dict.ofList ([("@timestamp", a), ("level", b), ("message", c), ("logger", d)] ++
      leading fields "operation" ++ leading fields "request_id")).get? k =
      if k ∈ leadingNames then (fields.get? k).filter (!·.isEmpty) else none := by
  have hline :
      [("@timestamp", a), ("level", b), ("message", c), ("logger", d)].filter (·.1 = k) = [] := by
    apply List.filter_eq_nil_iff.2
    intro e he heq
    have hname : e.1 ∈ lineNames := List.mem_map_of_mem (f := (·.1)) he
    exact hk (of_decide_eq_true heq ▸ hname)
  rw [Dict.get?_ofList, List.filter_append, List.filter_append, hline, filter_leading,
    filter_leading, List.nil_append]
  by_cases ho : "operation" = k
  · subst ho
    rw [if_pos rfl, if_neg (by decide), List.append_nil, getLast?_leading, if_pos (by decide)]
  · by_cases hi : "request_id" = k
    · subst hi
      rw [if_neg ho, if_pos rfl, List.nil_append, getLast?_leading, if_pos (by decide)]
    · have hother : k ∉ leadingNames := by
        simp only [leadingNames, List.mem_cons, List.not_mem_nil, or_false, not_or]
        exact ⟨Ne.symm ho, Ne.symm hi⟩
      rw [if_neg ho, if_neg hi, if_neg hother]
      rfl

/-- **A line shows a field of the record, or else one of the scopes.** -/
theorem get?_object (hr : r.failure = none) (hk : IsFieldName k) (time : DateTime) (text : String) :
    (r.object scope time text).get? k = shown k ((r.fields.get? k).or (scope.get? k)) := by
  rw [← get?_allFields hr hk.2]
  generalize hall : r.allFields scope = all
  have hrest : ∀ d : Dict Json,
      (d.putAll ((all.erase "operation").erase "request_id").entries).get? k =
      (((all.erase "operation").erase "request_id").get? k).or (d.get? k) :=
    fun d => Dict.get?_putAll (Dict.nodup _) k
  rw [object, hall, hrest, get?_front hk.1, shown]
  by_cases ho : k = "operation"
  · subst ho
    rw [Dict.get?_erase_of_ne (by decide), Dict.get?_erase_self]
    rfl
  · by_cases hi : k = "request_id"
    · subst hi
      rw [Dict.get?_erase_self]
      rfl
    · have hother : k ∉ leadingNames := by
        simp only [leadingNames, List.mem_cons, List.not_mem_nil, or_false, not_or]
        exact ⟨ho, hi⟩
      rw [Dict.get?_erase_of_ne hi, Dict.get?_erase_of_ne ho, if_neg hother, if_neg hother,
        Option.or_none]

end LogRecord

namespace Logger

variable {l : Logger} {level : LogLevel} {message : String} {fields : Dict Json}
  {created : EpochTime}

/-- A message can be logged with such fields: none has the name of an argument of the call, and
none, of the call or of the logger, has the name of something that every record carries. -/
structure Takes (l : Logger) (fields : Dict Json) : Prop where
  own : ∀ k ∈ fields.keys, k ∉ ["self", "message", "level"]
  all : ∀ k ∈ (l.defaults.merge fields).keys, k ∉ reservedNames

/-- No field has the name of an argument of the call exactly when none is found. -/
theorem repeatedArgument?_eq_none_iff {arguments : List String} :
    repeatedArgument? arguments fields = none ↔ ∀ k ∈ fields.keys, k ∉ arguments := by
  simp [repeatedArgument?]

/-- The record of a message: it has the fields of the call over those of the logger. -/
def recordOf (l : Logger) (level : LogLevel) (message : String) (fields : Dict Json)
    (created : EpochTime) : LogRecord :=
  { logger := l.name, level := level.number, message, created, fields := l.defaults.merge fields }

/-- **A message becomes a record exactly where its fields can be logged and its level is enabled.**
-/
theorem record_eq_some_iff {r : LogRecord} :
    l.record level message fields created = .ok (some r) ↔
      l.Takes fields ∧ l.isEnabled level.number = true ∧
        r = l.recordOf level message fields created := by
  unfold record
  constructor
  · intro h
    split at h
    · cases h
    · rename_i hown
      split at h
      · cases h
      · rename_i hlevel
        split at h
        · cases h
        · rename_i henabled
          simp only at h
          split at h
          · cases h
          · rename_i hall
            cases h
            refine ⟨⟨?_, ?_⟩, by simpa using henabled, rfl⟩
            · intro k hk
              have hname := repeatedArgument?_eq_none_iff.1 hown k hk
              have hne : k ≠ "level" := by
                rintro rfl
                exact hlevel (Dict.contains_eq_true_iff.2 hk)
              simp only [List.mem_cons, List.not_mem_nil, or_false, not_or] at hname ⊢
              exact ⟨hname.1, hname.2, hne⟩
            · simpa using hall
  · rintro ⟨htakes, henabled, rfl⟩
    have hown : repeatedArgument? ["self", "message"] fields = none := by
      apply repeatedArgument?_eq_none_iff.2
      intro k hk hin
      exact htakes.own k hk (List.mem_append_left ["level"] hin)
    have hlevel : ¬fields.contains "level" = true := by
      intro hin
      exact htakes.own "level" (Dict.contains_eq_true_iff.1 hin) (by decide)
    have hall : (l.defaults.merge fields).keys.find? reservedNames.contains = none := by
      simpa using htakes.all
    simp only [hown, if_neg hlevel, henabled, hall]
    rfl

/-- What a line shows under a name, the fields of its scopes being given: the field of the call,
else the one of the logger, else the one of the scopes. -/
def fieldOf (l : Logger) (fields : Dict Json) (inScope : String → Option Json) (k : String) :
    Option Json :=
  LogRecord.shown k ((fields.get? k).or ((l.defaults.get? k).or (inScope k)))

/-- A logger that is derived shows the fields it was given over those of the logger it comes from.
-/
theorem fieldOf_child {added : Dict Json} {child : Logger} (h : l.child added = .ok child)
    (inScope : String → Option Json) (k : String) :
    child.fieldOf fields inScope k =
      LogRecord.shown k
        ((fields.get? k).or ((added.get? k).or ((l.defaults.get? k).or (inScope k)))) := by
  rw [Logger.child] at h
  split at h
  · cases h
  · obtain rfl := Except.ok.inj h
    rw [fieldOf, Dict.get?_merge, Option.or_assoc]

variable {scope : LogScope} {line : String}

/-- **A line shows the field of the call, else that of the logger, else that of the scopes**, and
nothing else. -/
theorem exists_object_of_line (h : l.line scope level message fields created = .ok (some line)) :
    ∃ object : Dict Json, line = (Json.ofDict object).render ∧
      ∀ k, LogRecord.IsFieldName k → object.get? k = l.fieldOf fields scope.current.get? k := by
  obtain ⟨record, hrecord, h⟩ := exists_of_bind_eq_ok h
  cases record with
  | none => cases h
  | some r =>
    obtain ⟨-, -, hr⟩ := record_eq_some_iff.1 hrecord
    obtain ⟨text, hline, h⟩ := exists_of_bind_eq_ok h
    cases h
    obtain ⟨time, -, hline⟩ := exists_of_bind_eq_ok (eq_ok_of_mapError hline)
    obtain ⟨shown, -, hline⟩ := exists_of_bind_eq_ok hline
    refine ⟨r.object scope.current time shown, (Except.ok.inj hline).symm, ?_⟩
    intro k hk
    have hfailure : r.failure = none := by rw [hr, recordOf]
    have hfields : r.fields = l.defaults.merge fields := by rw [hr, recordOf]
    rw [LogRecord.get?_object hfailure hk, hfields, Dict.get?_merge, Option.or_assoc, fieldOf]

/-- **A message has a line where its fields can be logged, its level is enabled and its time is one
of the calendar.** -/
theorem exists_line (hfields : l.Takes fields) (hlevel : l.isEnabled level.number) {time : DateTime}
    (htime : created.toUtc = .ok time) (scope : LogScope) :
    ∃ line, l.line scope level message fields created = .ok (some line) := by
  have hrecord : l.record level message fields created =
      .ok (some (l.recordOf level message fields created)) :=
    record_eq_some_iff.2 ⟨hfields, hlevel, rfl⟩
  let object := (l.recordOf level message fields created).object scope.current time message
  have hline : (l.recordOf level message fields created).jsonLine scope.current =
      .ok (Json.ofDict object).render := by
    simp only [LogRecord.jsonLine, LogRecord.instant, LogRecord.text, recordOf, fillTemplate, htime]
    rfl
  refine ⟨(Json.ofDict object).render, ?_⟩
  rw [line, bind_of_eq_ok hrecord]
  simp only [hline]
  rfl

end Logger

end CloudClient
