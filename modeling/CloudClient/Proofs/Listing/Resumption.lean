import CloudClient.Proofs.Listing.Trimming

/-!
# Going on after a cut page

A cut page says that more follows, and its reader goes on after the marker that the page gives. Main
statement: that marker stands between what is kept and what is cut off, so that the listing goes on
with what was cut off, exactly when the page names no place of its own. The place that a page names
lies behind all of its items, and a cut page still names it.
-/

namespace CloudClient.Page

/-- Objects and groups ascend, and no object has the text of a group. -/
structure IsAscending (p : Page) : Prop where
  entries : p.entries.Pairwise fun a b => a.key < b.key
  groups : p.commonPrefixes.Pairwise (· < ·)
  apart : ∀ e ∈ p.entries, e.key ∉ p.commonPrefixes

/-- The place that a page names to go on after it. An empty text names none. -/
def place? (p : Page) : Option String := p.nextMarker.filter fun m => !m.isEmpty

variable {p : Page}

/-- The listing goes on after the named place, or else after the greater of the last object and the
last group. -/
theorem continuation_eq (p : Page) : p.continuation = p.place?.or (continuation.greatest p) := by
  rw [continuation, place?]
  cases p.nextMarker with
  | none => rfl
  | some m => cases hm : m.isEmpty <;> simp [Option.filter, hm]

/-- A cut page names the place that the page names. -/
theorem place?_trim (p : Page) (n : Nat) : (p.trim n).place? = p.place? := by
  by_cases hsize : p.size ≤ n
  · rw [trim_of_size_le (by omega)]
  · rw [trim_of_lt (by omega)]
    rfl

namespace IsAscending

/-- The texts of an ascending page are all different. -/
theorem nodup_keys (h : p.IsAscending) : (p.contents.map Item.key).Nodup := by
  have hkeys : p.contents.map Item.key = p.entries.map (·.key) ++ p.commonPrefixes := by
    rw [contents, List.map_append, List.map_map, List.map_map]
    exact congrArg _ (List.map_id _)
  rw [hkeys, List.nodup_append]
  refine ⟨?_, ?_, ?_⟩
  · exact List.pairwise_map.2 (h.entries.imp fun hlt => String.ne_of_lt hlt)
  · exact h.groups.imp fun hlt => String.ne_of_lt hlt
  · intro key hkey c hc heq
    obtain ⟨e, he, rfl⟩ := List.mem_map.1 hkey
    exact h.apart e he (heq ▸ hc)

/-- The items of an ascending page ascend. -/
theorem ascending_items (h : p.IsAscending) : Ascending p.items := by
  have hnodup : (p.items.map Item.key).Nodup := (((items_perm p).map _).nodup_iff).2 h.nodup_keys
  refine ((sorted_items p).and (List.pairwise_map.1 hnodup)).imp ?_
  rintro a b ⟨hle, hne⟩
  exact Std.lt_of_le_of_ne hle hne

/-- An ascending page lists its items. -/
theorem lists_items (h : p.IsAscending) : p.Lists p.items where
  entries := (filterMap_entry?_items (h.entries.imp fun hlt => Std.le_of_lt hlt)).symm
  groups := (filterMap_group?_items (h.groups.imp fun hlt => Std.le_of_lt hlt)).symm

/-- The items of an ascending page that is cut are those up to the last one kept, and those after
it. -/
theorem exists_last_kept (h : p.IsAscending) {limit : Nat} (hpos : 0 < limit)
    (hlimit : limit < p.size) :
    ∃ front last, p.items.take limit = front ++ [last] ∧
      continuation.greatest (p.trim limit) = some last.key ∧
      p.items = front ++ last :: p.items.drop limit := by
  have hne : p.items.take limit ≠ [] := by
    apply List.ne_nil_of_length_pos
    rw [List.length_take, length_items]
    omega
  have hsplit : p.items.take limit =
      (p.items.take limit).dropLast ++ [(p.items.take limit).getLast hne] :=
    (List.dropLast_concat_getLast hne).symm
  refine ⟨_, _, hsplit, ?_, ?_⟩
  · have hkept := h.ascending_items.sublist (List.take_sublist limit p.items)
    rw [(h.lists_items.trim h.ascending_items limit).greatest_eq hkept,
      List.getLast?_eq_some_getLast hne, Option.map_some]
  · have hall := List.take_append_drop limit p.items
    rw [hsplit, List.append_assoc] at hall
    exact hall.symm

/-- An ascending page that names no place and is cut goes on after the last item that it keeps: with
what was cut off, and then with what follows the page. -/
theorem goes_on_after_last_kept (h : p.IsAscending) (hunnamed : p.place? = none) {limit : Nat}
    (hpos : 0 < limit) (hlimit : limit < p.size) :
    ∃ marker, (p.trim limit).continuation = some marker ∧
      (∀ i ∈ p.items.take limit, i.key ≤ marker) ∧ (∀ i ∈ p.items.drop limit, marker < i.key) ∧
      ∀ before behind, Ascending (before ++ p.items ++ behind) →
        Cursor.after marker (before ++ p.items ++ behind) = p.items.drop limit ++ behind := by
  obtain ⟨front, last, htake, hgreatest, hsplit⟩ := h.exists_last_kept hpos hlimit
  have hasc := h.ascending_items
  rw [hsplit] at hasc
  obtain ⟨-, hrest, hcross⟩ := List.pairwise_append.1 hasc
  refine ⟨last.key, ?_, ?_, (List.pairwise_cons.1 hrest).1, ?_⟩
  · rw [continuation_eq, place?_trim, hunnamed, hgreatest]
    rfl
  · intro i hi
    rw [htake] at hi
    rcases List.mem_append.1 hi with hi | hi
    · exact Std.le_of_lt (hcross i hi last List.mem_cons_self)
    · exact Std.le_of_eq (congrArg Item.key (List.mem_singleton.1 hi))
  · intro before behind hall
    have hparts : before ++ p.items ++ behind =
        (before ++ front) ++ last :: (p.items.drop limit ++ behind) := by
      calc before ++ p.items ++ behind
          = before ++ (front ++ last :: p.items.drop limit) ++ behind := by rw [← hsplit]
        _ = _ := by simp only [List.append_assoc, List.cons_append]
    rw [hparts] at hall ⊢
    exact Cursor.after_key hall

end IsAscending

/-- **A cut page is continued without loss unless it names a place.** Of an ascending page, whose
named place, if it has one, is behind none of its items, some items are kept and some are cut off,
and the cut page gives a marker that no kept item is behind. When the page names no place,
everything that is cut off is behind the marker, so a listing that goes on after it gives what was
cut off and then what follows the page. When the page names one, the cut page still gives that place
as its marker, and nothing that was cut off is behind it. -/
theorem cut_page_goes_on_unless_named (hp : p.IsAscending)
    (hplace : ∀ place, p.nextMarker = some place → ∀ i ∈ p.contents, i.key ≤ place)
    {limit : Nat} (hpos : 0 < limit) (hlimit : limit < p.size) :
    ∃ marker dropped, (p.trim limit).continuation = some marker ∧
      p.items = (p.trim limit).items ++ dropped ∧ dropped ≠ [] ∧
      (∀ i ∈ (p.trim limit).contents, i.key ≤ marker) ∧
      (p.place? = none →
        (∀ i ∈ dropped, marker < i.key) ∧
        ∀ before behind, Ascending (before ++ p.items ++ behind) →
          Cursor.after marker (before ++ p.items ++ behind) = dropped ++ behind) ∧
      ∀ place, p.place? = some place → marker = place ∧ ∀ i ∈ dropped, ¬ marker < i.key := by
  have hdropped : p.items.drop limit ≠ [] := by
    apply List.ne_nil_of_length_pos
    rw [List.length_drop, length_items]
    omega
  have hkept : ∀ i ∈ (p.trim limit).contents, i ∈ p.items.take limit := by
    intro i hi
    rw [← items_trim]
    exact (items_perm _).mem_iff.2 hi
  cases hnamed : p.place? with
  | none =>
    obtain ⟨marker, hmarker, hle, hlt, hafter⟩ := hp.goes_on_after_last_kept hnamed hpos hlimit
    exact ⟨marker, p.items.drop limit, hmarker, items_eq_append p limit, hdropped,
      fun i hi => hle i (hkept i hi), fun _ => ⟨hlt, hafter⟩, by simp⟩
  | some place =>
    have hmarker : p.nextMarker = some place := (Option.filter_eq_some_iff.1 hnamed).1
    have hbehind : ∀ i ∈ p.items, i.key ≤ place := fun i hi =>
      hplace place hmarker i ((items_perm p).mem_iff.1 hi)
    refine ⟨place, p.items.drop limit, ?_, items_eq_append p limit, hdropped, ?_, by simp, ?_⟩
    · rw [continuation_eq, place?_trim, hnamed]
      rfl
    · intro i hi
      exact hbehind i (List.mem_of_mem_take (hkept i hi))
    · rintro _ ⟨⟩
      exact ⟨rfl, fun i hi => Std.not_lt.2 (hbehind i (List.mem_of_mem_drop hi))⟩

/-- Two objects, on a page that names the second of them as the place to go on after. -/
def namedPage : Page :=
  { bucket := "bucket"
    entries := [{ key := "a", size := 1 }, { key := "b", size := 2 }]
    nextMarker := some "b"
    isTruncated := true }

/-- Cut to its first object, the page still names the second, so that going on after it skips the
object that was cut off. -/
theorem namedPage_skips_cut_object :
    namedPage.IsAscending ∧
    (∀ place, namedPage.nextMarker = some place → ∀ i ∈ namedPage.contents, i.key ≤ place) ∧
    1 < namedPage.size ∧
    (namedPage.trim (1 : Nat)).continuation = some "b" ∧
    namedPage.items.drop 1 = [.entry { key := "b", size := 2 }] ∧
    Cursor.after "b" namedPage.items = [] := by
  have hitems : namedPage.items = namedPage.contents :=
    Lists.items (p := namedPage) ⟨rfl, rfl⟩ (by unfold Ascending; decide)
  refine ⟨⟨by decide, by decide, by decide⟩, ?_, by decide, ?_, ?_, ?_⟩
  · rintro _ ⟨⟩
    decide
  · rw [trim_of_lt (by decide), hitems]
    decide
  · rw [hitems]
    decide
  · rw [hitems]
    decide

/-- Two objects with a group between them, on a page that names no place. -/
def unnamedPage : Page :=
  { bucket := "bucket"
    entries := [{ key := "a", size := 1 }, { key := "c", size := 3 }]
    commonPrefixes := ["b/"] }

/-- Cut to two items, the page is continued after its group with the object that was cut off. -/
theorem unnamedPage_goes_on_after_group :
    unnamedPage.IsAscending ∧
    (∀ place, unnamedPage.nextMarker = some place → ∀ i ∈ unnamedPage.contents, i.key ≤ place) ∧
    0 < 2 ∧
    2 < unnamedPage.size ∧
    (unnamedPage.trim (2 : Nat)).continuation = some "b/" ∧
    Cursor.after "b/" unnamedPage.items = [.entry { key := "c", size := 3 }] := by
  have hascending : unnamedPage.IsAscending := ⟨by decide, by decide, by decide⟩
  have hplace : ∀ place, unnamedPage.nextMarker = some place →
      ∀ i ∈ unnamedPage.contents, i.key ≤ place := by
    rintro _ ⟨⟩
  have hlimit : 2 < unnamedPage.size := by decide
  have hitems : unnamedPage.items =
      [.entry { key := "a", size := 1 }, .group "b/", .entry { key := "c", size := 3 }] :=
    Lists.items (p := unnamedPage) ⟨rfl, rfl⟩ (by unfold Ascending; decide)
  have hmarker : (unnamedPage.trim (2 : Nat)).continuation = some "b/" := by
    rw [trim_of_lt hlimit, hitems]
    decide
  have hdrop : unnamedPage.items.drop 2 = [.entry { key := "c", size := 3 }] := by
    rw [hitems]
    rfl
  refine ⟨hascending, hplace, by decide, hlimit, hmarker, ?_⟩
  obtain ⟨marker, dropped, hgives, hparts, -, -, hgoes, -⟩ :=
    cut_page_goes_on_unless_named hascending hplace (by decide) hlimit
  obtain rfl : "b/" = marker := Option.some.inj (hmarker.symm.trans hgives)
  obtain rfl : unnamedPage.items.drop 2 = dropped :=
    List.append_cancel_left ((items_eq_append unnamedPage 2).symm.trans hparts)
  have hafter := (hgoes rfl).2 [] []
  rw [List.nil_append, List.append_nil, List.append_nil, hdrop] at hafter
  exact hafter hascending.ascending_items

end CloudClient.Page
