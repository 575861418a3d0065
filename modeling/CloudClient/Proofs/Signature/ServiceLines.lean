import CloudClient.Proofs.Signature.Canonical
import CloudClient.Proofs.Signature.Headers
import CloudClient.Proofs.Success
import CloudClient.Proofs.Text.Blank
import CloudClient.Signature.HeaderV2

/-!
# The lines of the service in a version 2 signature

The headers of the service are signed on lines of their own: a name in lower case, and the value
with single spaces. Headers whose names differ in case alone share a line. Main statement: the lines
hold every name once and in ascending order, with the last of its values; and that is all of its
values, with commas between them, exactly when no two headers of the service have names that differ
in case alone.
-/

namespace CloudClient.Signature.HeaderV2

/-! ## Headers of the service -/

/-- The values that are given under a name in lower case, in the order of the headers. -/
def valuesUnder (h : Headers) (name : String) : List String :=
  (h.entries.filter fun p => Text.lowered p.1 = name).map (·.2)

/-- The headers of the service, in whatever case their names are written. -/
def serviceEntries (h : Headers) : List (String × String) :=
  h.entries.filter fun p => isServiceHeader (Text.lowered p.1)

/-- The names of the headers of the service in lower case, each once and in ascending order. -/
structure IsServiceNames (h : Headers) (names : List String) : Prop where
  ascending : names.Pairwise (· < ·)
  complete : ∀ name, name ∈ names ↔
    isServiceHeader name = true ∧ ∃ p ∈ h.entries, Text.lowered p.1 = name

/-- The lines of names with what is signed of their values. -/
def serviceText (value : List String → String) (h : Headers) (names : List String) : String :=
  String.join (names.map fun name => s!"{name}:{value (valuesUnder h name)}\n")

/-- The last of several values, with single spaces. -/
def lastValue (values : List String) : String := Text.spaced (values.getLast?.getD "")

/-- All of several values, each with single spaces, with commas between them. -/
def joinedValues (values : List String) : String := ",".intercalate (values.map Text.spaced)

variable {h : Headers} {names : List String} {name : String}

/-- Under a lowered name the last of its values is found. -/
theorem get?_lowered (h : Headers) (name : String) :
    (lowered h).get? name = (valuesUnder h name).getLast? := by
  rw [lowered, Dict.get?_ofList, List.filter_map, List.map_map, valuesUnder]
  rfl

/-- The lowered names are those of the headers. -/
theorem mem_keys_lowered : name ∈ (lowered h).keys ↔ ∃ p ∈ h.entries, Text.lowered p.1 = name := by
  rw [lowered, Dict.mem_keys_ofList_iff, List.map_map, List.mem_map]
  rfl

/-- A name has values when a header has it. -/
theorem valuesUnder_ne_nil (hname : ∃ p ∈ h.entries, Text.lowered p.1 = name) :
    valuesUnder h name ≠ [] := by
  obtain ⟨p, hp, hlower⟩ := hname
  have hmem : p.2 ∈ valuesUnder h name :=
    List.mem_map_of_mem (List.mem_filter.2 ⟨hp, by simp [hlower]⟩)
  exact List.ne_nil_of_mem hmem

/-- The names whose lines are signed are those of the service. -/
theorem isServiceNames_sorted (h : Headers) :
    IsServiceNames h (sortedTexts ((lowered h).keys.filter isServiceHeader)) where
  ascending := by
    have hnodup : (sortedTexts ((lowered h).keys.filter isServiceHeader)).Nodup :=
      (sortedTexts_perm _).nodup_iff.2 ((lowered h).keys_nodup.sublist List.filter_sublist)
    have hsorted := List.pairwise_mergeSort textLE_trans textLE_total
      ((lowered h).keys.filter isServiceHeader)
    apply (hsorted.and (List.nodup_iff_pairwise_ne.1 hnodup)).imp
    rintro a b ⟨hle, hne⟩
    exact String.not_le.1 fun hge => hne (String.le_antisymm (textLE_iff.1 hle) hge)
  complete := by
    intro name
    rw [(sortedTexts_perm _).mem_iff, List.mem_filter, mem_keys_lowered, and_comm]

/-- **The lines that are signed hold the last value of every name.** -/
theorem serviceLines_eq (h : Headers) :
    serviceLines (lowered h) =
      serviceText lastValue h (sortedTexts ((lowered h).keys.filter isServiceHeader)) := by
  rw [serviceLines, serviceText]
  refine congrArg String.join (List.map_congr_left fun name _ => ?_)
  rw [headerLine, get?_lowered, lastValue, Text.folded_eq_spaced]

/-! ## Values that are joined -/

/-- A single value is the last one and all of them. -/
theorem lastValue_single (v : String) : lastValue [v] = joinedValues [v] := by
  rw [lastValue, joinedValues, List.map_singleton, String.intercalate_singleton]
  rfl

/-- All values together are longer than the last one by a comma for each of the others at least. -/
theorem length_lastValue_le {values : List String} (hne : values ≠ []) :
    (lastValue values).length + (values.length - 1) ≤ (joinedValues values).length := by
  induction values with
  | nil => exact absurd rfl hne
  | cons v rest ih =>
    cases rest with
    | nil =>
      rw [lastValue_single]
      exact Nat.le_refl _
    | cons w rest =>
      have hrest := ih (List.cons_ne_nil w rest)
      have hlast : lastValue (v :: w :: rest) = lastValue (w :: rest) := by
        rw [lastValue, lastValue, List.getLast?_cons_cons]
      have hjoined : (joinedValues (v :: w :: rest)).length =
          (Text.spaced v).length + 1 + (joinedValues (w :: rest)).length := by
        rw [joinedValues, List.map_cons, List.map_cons, String.intercalate_cons_cons,
          String.length_append, String.length_append]
        rfl
      rw [hlast, hjoined]
      simp only [List.length_cons] at hrest ⊢
      omega

/-- Texts of which each is no longer than another, and which are as long together, are as long one
by one. -/
theorem length_eq_of_join_eq {f g : String → String} {l : List String}
    (hle : ∀ x ∈ l, (f x).length ≤ (g x).length)
    (heq : (String.join (l.map f)).length = (String.join (l.map g)).length) :
    ∀ x ∈ l, (f x).length = (g x).length := by
  have htotal : ∀ {l : List String}, (∀ x ∈ l, (f x).length ≤ (g x).length) →
      (String.join (l.map f)).length ≤ (String.join (l.map g)).length := by
    intro l hle
    induction l with
    | nil => exact Nat.le_refl _
    | cons x l ih =>
      obtain ⟨hx, hl⟩ := List.forall_mem_cons.1 hle
      simp only [List.map_cons, String.join_cons, String.length_append]
      exact Nat.add_le_add hx (ih hl)
  induction l with
  | nil =>
    intro x hx
    cases hx
  | cons x l ih =>
    obtain ⟨hx, hl⟩ := List.forall_mem_cons.1 hle
    simp only [List.map_cons, String.join_cons, String.length_append] at heq
    -- Neither the first pair nor the others can make up for what the other one lacks.
    have hrest := htotal hl
    exact List.forall_mem_cons.2 ⟨by omega, ih hl (by omega)⟩

/-! ## Names that are repeated -/

/-- A lowered name stands among the headers of the service as often as it has values. -/
theorem count_serviceEntries (h : Headers) (hservice : isServiceHeader name = true) :
    ((serviceEntries h).map fun p => Text.lowered p.1).count name =
    (valuesUnder h name).length := by
  have hfilter : (serviceEntries h).filter ((· == name) ∘ fun p => Text.lowered p.1) =
      h.entries.filter fun p => Text.lowered p.1 = name := by
    rw [serviceEntries, List.filter_filter]
    refine List.filter_congr fun p _ => ?_
    by_cases hp : Text.lowered p.1 = name
    · simp [hp, hservice]
    · simp [hp]
  rw [List.count_eq_length_filter, List.filter_map, List.length_map, hfilter, valuesUnder,
    List.length_map]

/-- No two headers of the service have the same lowered name exactly when every name has a single
value. -/
theorem distinct_serviceEntries_iff (hnames : IsServiceNames h names) :
    Distinct (serviceEntries h) ↔ ∀ name ∈ names, (valuesUnder h name).length = 1 := by
  rw [Distinct, List.nodup_iff_count]
  constructor
  · intro hcount name hname
    obtain ⟨hservice, hgiven⟩ := (hnames.complete name).1 hname
    have hle := hcount name
    rw [count_serviceEntries h hservice] at hle
    have hpos := List.length_pos_iff.2 (valuesUnder_ne_nil hgiven)
    omega
  · intro hsingle name
    by_cases hmem : name ∈ (serviceEntries h).map fun p => Text.lowered p.1
    · obtain ⟨p, hp, rfl⟩ := List.mem_map.1 hmem
      obtain ⟨hentry, hservice⟩ := List.mem_filter.1 hp
      rw [count_serviceEntries h hservice]
      exact Nat.le_of_eq (hsingle _ ((hnames.complete _).2 ⟨hservice, p, hentry, rfl⟩))
    · rw [List.count_eq_zero.2 hmem]
      exact Nat.zero_le 1

/-- **The last values are all values exactly when no name is repeated.** -/
theorem serviceText_eq_iff (hnames : IsServiceNames h names) :
    serviceText lastValue h names = serviceText joinedValues h names ↔
      Distinct (serviceEntries h) := by
  have hvalues : ∀ name ∈ names, valuesUnder h name ≠ [] := fun name hname =>
    valuesUnder_ne_nil ((hnames.complete name).1 hname).2
  have hline : ∀ (value : List String → String) (name : String),
      s!"{name}:{value (valuesUnder h name)}\n".length =
        name.length + 1 + (value (valuesUnder h name)).length + 1 := by
    intro value name
    simp only [String.length_append, toString]
    rfl
  rw [distinct_serviceEntries_iff hnames]
  constructor
  · intro heq
    -- No line is longer than the one of all values, so the lines are as long as these one by one.
    have hlines :=
      length_eq_of_join_eq (l := names) (fun name hname => ?_) (congrArg String.length heq)
    · intro name hname
      have hsame := hlines name hname
      have hle := length_lastValue_le (hvalues name hname)
      have hpos := List.length_pos_iff.2 (hvalues name hname)
      rw [hline, hline] at hsame
      omega
    · have hle := length_lastValue_le (hvalues name hname)
      rw [hline, hline]
      omega
  · intro hsingle
    refine congrArg String.join (List.map_congr_left fun name hname => ?_)
    obtain ⟨v, hv⟩ := List.length_eq_one_iff.1 (hsingle name hname)
    rw [hv, lastValue_single]

/-! ## The text that is signed -/

/-- The date on its line: none beside a date of the service, else the one that is given, else the
time of signing. -/
def dateText (h : Headers) (time : DateTime) : Except Failure String :=
  if (lowered h).contains "x-amz-date" then .ok ""
  else
    match Fault.firstGiven [header? "date" h] with
    | some date => .ok date
    | none => (MailDate.header time).mapError .date

/-- The text that is signed, when its path can be signed and its date can be told. -/
def signedText (method path : String) (h : Headers) (query : Query) (date : String) :
    Except Failure String := do
  let some m := Method.ofName? method | .error (.unknownMethod method)
  return lines
    [m.name, (header? "content-md5" h).getD "", (header? "content-type" h).getD "", date,
      serviceLines (lowered h) ++ resource path query]

/-- The path is checked first, then the date is told, and then the lines are put together. -/
theorem stringToSign_eq (method path : String) (h : Headers) (time : DateTime) (query : Query) :
    stringToSign method path h time query = (do
      (checkPath path).mapError .fault
      let date ← dateText h time
      signedText method path h query date) := by
  rw [stringToSign]
  refine congrArg (Bind.bind _) (funext fun _ => ?_)
  unfold dateText header?
  dsimp only
  split
  · rfl
  · cases Fault.firstGiven [(lowered h).get? "date"] with
    | none => rfl
    | some date => rfl

/-- The text that is signed holds the lines of the service in front of the resource. -/
theorem exists_of_stringToSign {method path text : String} {time : DateTime} {query : Query}
    (htext : stringToSign method path h time query = .ok text) :
    ∃ date, dateText h time = .ok date ∧ text = lines
      [method, (header? "content-md5" h).getD "", (header? "content-type" h).getD "", date,
        serviceLines (lowered h) ++ resource path query] := by
  rw [stringToSign_eq] at htext
  obtain ⟨_, -, htext⟩ := exists_of_bind_eq_ok htext
  obtain ⟨date, hdate, htext⟩ := exists_of_bind_eq_ok htext
  refine ⟨date, hdate, ?_⟩
  unfold signedText at htext
  split at htext
  · rename_i m hm
    have hname : m.name = method := by simpa using List.find?_some hm
    cases htext
    rw [hname]
  · cases htext

/-- **The lines of the service hold the last value of each name, and all of them unless a name is
repeated.** Whatever the headers, the text that is signed has in front of the resource a line for
each name of the service, in lower case, once and in ascending order. On it stands the last value
under the name, with single spaces. These are the lines in which all values under a name are joined
by commas exactly when no two headers of the service have names that differ in case alone. -/
theorem service_lines_join_values_unless_repeated (h : Headers) :
    ∃ names, IsServiceNames h names ∧
      (∀ method path time query text, stringToSign method path h time query = .ok text →
        ∃ date, dateText h time = .ok date ∧ text = lines
          [method, (header? "content-md5" h).getD "", (header? "content-type" h).getD "", date,
            serviceText lastValue h names ++ resource path query]) ∧
      (serviceText lastValue h names = serviceText joinedValues h names ↔
        Distinct (serviceEntries h)) := by
  have hnames := isServiceNames_sorted h
  refine ⟨_, hnames, ?_, serviceText_eq_iff hnames⟩
  intro method path time query text htext
  rw [← serviceLines_eq]
  exact exists_of_stringToSign htext

/-- One name of the service that is written in two ways. -/
def repeatedNote : Headers := .ofList [("x-amz-meta-a", "1"), ("X-Amz-Meta-A", "2")]

/-- Only the last of the two values is signed. -/
theorem repeatedNote_loses_value :
    stringToSign "GET" "/b/k" repeatedNote ⟨2007, 3, 27, 19, 36, 42, 0, some 0⟩ .empty =
      .ok "GET\n\n\nTue, 27 Mar 2007 19:36:42 GMT\nx-amz-meta-a:2\n/b/k" ∧
    IsServiceNames repeatedNote ["x-amz-meta-a"] ∧
    serviceText joinedValues repeatedNote ["x-amz-meta-a"] = "x-amz-meta-a:1,2\n" := by
  have hnames : sortedTexts ((lowered repeatedNote).keys.filter isServiceHeader) =
      ["x-amz-meta-a"] :=
    List.mergeSort_singleton _
  have hresource : resource "/b/k" .empty = "/b/k" := by
    have hnone : sortedTexts ((Dict.empty : Query).keys.filter subresources.contains) = [] :=
      List.mergeSort_nil
    rw [resource, hnone]
    decide
  have hpath : (checkPath "/b/k").mapError Failure.fault = .ok () := rfl
  have hdate : dateText repeatedNote ⟨2007, 3, 27, 19, 36, 42, 0, some 0⟩ =
      .ok "Tue, 27 Mar 2007 19:36:42 GMT" := rfl
  refine ⟨?_, hnames ▸ isServiceNames_sorted repeatedNote, by decide⟩
  rw [stringToSign_eq, bind_of_eq_ok hpath, bind_of_eq_ok hdate, signedText, serviceLines_eq,
    hnames, hresource]
  rfl

end CloudClient.Signature.HeaderV2
