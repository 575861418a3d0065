import CloudClient.Proofs.Signature.Covered
import CloudClient.Proofs.Signature.HeaderV2
import CloudClient.Proofs.Signature.QueryV2
import CloudClient.Proofs.Signature.ServiceLines
import CloudClient.Proofs.Text.Recased

/-!
# Canonical forms do not depend on presentation

The same request can be presented in several ways: its headers, its query and its form in any order,
the names of its headers in any case, and some values with other blanks between their words. Main
statement: the texts that the three schemes sign are the same for every presentation.
-/

namespace CloudClient

namespace Text

/-- Texts that differ in the blanks around their words alone. -/
def Reblanked (v w : String) : Prop := words v.toList = words w.toList

/-- Folding forgets such blanks. -/
theorem folded_congr {v w : String} (h : Reblanked v w) : folded v = folded w := by
  rw [folded_eq_spaced, folded_eq_spaced, spaced, spaced, h]

/-- **Folding a folded text changes nothing.** -/
theorem folded_folded (s : String) : folded (folded s) = folded s := folded_congr (words_folded s)

end Text

namespace Signature

/-! ## Presentations of headers -/

/-- A header presents another one: the case of its name may differ, and the blanks of its value
where the name is free. -/
structure Presents (free : String → Bool) (p q : String × String) : Prop where
  name : Text.Recased p.1 q.1
  value : p.2 = q.2 ∨ free (Text.lowered p.1) = true ∧ Text.Reblanked p.2 q.2

/-- Headers that present the same, in any order. -/
def Presented (free : String → Bool) (h h' : Headers) : Prop :=
  ∃ l, h.entries.Perm l ∧ List.Forall₂ (Presents free) l h'.entries

/-- A value without the blanks that are free. -/
def plainValue (free : String → Bool) (k v : String) : String := if free k then Text.folded v else v

/-- Headers under lowered names that agree but for the blanks that are free. -/
structure Alike (free : String → Bool) (d e : Headers) : Prop where
  keys : d.keys.Perm e.keys
  values : ∀ k, (d.get? k).map (plainValue free k) = (e.get? k).map (plainValue free k)

variable {free : String → Bool} {h h' d e : Headers} {l m : List (String × String)}

/-- Headers that present the same one by one have the same lowered names and plain values. -/
theorem map_plainValue_of_presents (hpresents : List.Forall₂ (Presents free) l m) :
    (loweredEntries l).map (fun p => (p.1, plainValue free p.1 p.2)) =
      (loweredEntries m).map fun p => (p.1, plainValue free p.1 p.2) := by
  induction hpresents with
  | nil => rfl
  | @cons p q l m hpq _ ih =>
    have hname : Text.lowered p.1 = Text.lowered q.1 := Text.lowered_congr hpq.name
    have hvalue : plainValue free (Text.lowered p.1) p.2 =
        plainValue free (Text.lowered p.1) q.2 := by
      rcases hpq.value with heq | ⟨hfree, hblank⟩
      · rw [heq]
      · rw [plainValue, plainValue, if_pos hfree, if_pos hfree, Text.folded_congr hblank]
    have hhead : (Text.lowered p.1, plainValue free (Text.lowered p.1) p.2) =
        (Text.lowered q.1, plainValue free (Text.lowered q.1) q.2) := by
      rw [hvalue, hname]
    exact congrArg₂ List.cons hhead ih

/-- Distinct names stay distinct however the headers are presented. -/
theorem Presented.distinct (hpresented : Presented free h h') (hd : Distinct h.entries) :
    Distinct h'.entries := by
  obtain ⟨l, hperm, hpresents⟩ := hpresented
  have hnames := congrArg (List.map Prod.fst) (map_plainValue_of_presents hpresents)
  simp only [loweredEntries, List.map_map] at hnames
  have hl : Distinct l := hd.perm hperm
  exact (congrArg List.Nodup hnames).mp hl

/-- **Headers that present the same agree under their lowered names.** -/
theorem Presented.alike (hpresented : Presented free h h') (hd : Distinct h.entries) :
    Alike free (lowered h) (lowered h') := by
  have hd' := hpresented.distinct hd
  obtain ⟨l, hperm, hpresents⟩ := hpresented
  -- Lowering keeps every header, so what is left of the presentation is the order and the free
  -- blanks.
  have hentries : ((lowered h).mapWithKey (plainValue free)).entries.Perm
      ((lowered h').mapWithKey (plainValue free)).entries := by
    show ((lowered h).entries.map _).Perm ((lowered h').entries.map _)
    rw [entries_lowered hd, entries_lowered hd', ← map_plainValue_of_presents hpresents]
    exact (hperm.map _).map _
  constructor
  · have hkeys := hentries.map Prod.fst
    rwa [← Dict.keys, ← Dict.keys, Dict.keys_mapWithKey, Dict.keys_mapWithKey] at hkeys
  · intro k
    rw [← Dict.get?_mapWithKey, ← Dict.get?_mapWithKey]
    exact Dict.get?_of_perm hentries k

/-- Under a name that is not free the same value is found. -/
theorem Alike.get?_eq (halike : Alike free d e) {k : String} (hk : free k = false) :
    d.get? k = e.get? k := by
  have hplain : plainValue free k = id := by
    funext v
    rw [plainValue, hk]
    rfl
  have hvalue := halike.values k
  rwa [hplain, Option.map_id, id, id] at hvalue

/-- The line of a header does not tell its blanks. -/
theorem Alike.headerLine (halike : Alike free d e) (k : String) :
    headerLine k ((d.get? k).getD "") = headerLine k ((e.get? k).getD "") := by
  have hfolded : ∀ v, Text.folded (plainValue free k v) = Text.folded v := by
    intro v
    unfold plainValue
    split
    · exact Text.folded_folded v
    · rfl
  have hline : ∀ value : Option String, Text.folded (value.getD "") =
      Text.folded ((value.map (plainValue free k)).getD "") := by
    intro value
    cases value with
    | none => rfl
    | some v => exact (hfolded v).symm
  rw [Signature.headerLine, Signature.headerLine, hline, halike.values, ← hline]

/-! ## Version 4 -/

namespace V4

/-- The covered headers are those of the lowered ones that are covered. -/
theorem get?_covered (hd : Distinct h.entries) (k : String) :
    (covered h).get? k = if isCovered k then (lowered h).get? k else none := by
  rw [Option.ext_iff]
  intro v
  have hmem : (k, v) ∈ (covered h).entries ↔ (k, v) ∈ (lowered h).entries ∧ isCovered k = true := by
    rw [entries_covered hd, entries_lowered hd, coveredEntries, List.mem_filter]
  rw [Dict.get?_eq_some_iff, hmem, ← Dict.get?_eq_some_iff]
  split
  · rename_i hk
    exact and_iff_left hk
  · rename_i hk
    simp [hk]

/-- Covered headers agree as the lowered ones do. -/
theorem alike_covered (hd : Distinct h.entries) (hd' : Distinct h'.entries)
    (halike : Alike free (lowered h) (lowered h')) : Alike free (covered h) (covered h') where
  keys := by
    have hkeys : ∀ {h : Headers}, Distinct h.entries →
        (covered h).keys = (lowered h).keys.filter isCovered := by
      intro h hd
      rw [Dict.keys, Dict.keys, entries_covered hd, entries_lowered hd, coveredEntries,
        List.filter_map]
      rfl
    rw [hkeys hd, hkeys hd']
    exact halike.keys.filter _
  values := by
    intro k
    rw [get?_covered hd, get?_covered hd']
    split
    · exact halike.values k
    · rfl

/-- Headers with the covered values folded. -/
def foldCovered (h : Headers) : Headers :=
  h.mapWithKey fun k v => plainValue isCovered (Text.lowered k) v

/-- Folded values present the same. -/
theorem presented_foldCovered (h : Headers) : Presented isCovered h (foldCovered h) := by
  refine ⟨h.entries, List.Perm.refl _,
    List.forall₂_map_right_iff.2 (List.forall₂_same.2 fun p _ => ?_)⟩
  refine ⟨.refl p.1, ?_⟩
  dsimp only [plainValue]
  split
  · rename_i hcovered
    exact .inr ⟨hcovered, (Text.words_folded p.2).symm⟩
  · exact .inl rfl

/-- **The canonical request does not depend on presentation.** -/
theorem canonicalRequest_of_presented {q r : Query} (hd : Distinct h.entries)
    (hq : q.entries.Perm r.entries) (hpresented : Presented isCovered h h')
    (method path hash : String) :
    canonicalRequest method path q h hash = canonicalRequest method path r h' hash := by
  -- The names are sorted and each line is folded, so neither order nor blanks are told.
  have halike := alike_covered hd (hpresented.distinct hd) (hpresented.alike hd)
  have hnames : sortedTexts (covered h).keys = sortedTexts (covered h').keys :=
    sortedTexts_congr halike.keys
  have hlines := funext halike.headerLine
  rw [canonicalRequest, canonicalRequest]
  dsimp only
  rw [hlines, hnames, Query.canonical_congr hq]

/-- The body that is sent does not depend on the order of the form. -/
theorem sentBody_congr (request : Request) {form form' : Dict String}
    (h : form.entries.Perm form'.entries) :
    sentBody { request with form := some form } = sentBody { request with form := some form' } := by
  have hcanonical : (formQuery form).canonical = (formQuery form').canonical :=
    Query.canonical_congr (h.map _)
  rw [sentBody, sentBody]
  dsimp only
  rw [hcanonical]

end V4

/-! ## Version 2 -/

/-- **The text that is signed in a header does not depend on presentation.** -/
theorem HeaderV2.stringToSign_of_presented {q r : Query} (hd : Distinct h.entries)
    (hq : q.entries.Perm r.entries) (hpresented : Presented isServiceHeader h h')
    (method path : String) (time : DateTime) :
    stringToSign method path h time q = stringToSign method path h' time r := by
  have halike := hpresented.alike hd
  have hread : ∀ name, isServiceHeader name = false → header? name h = header? name h' :=
    fun _ hname => halike.get?_eq hname
  have hdated : (lowered h).contains "x-amz-date" = (lowered h').contains "x-amz-date" := by
    have hsome := congrArg Option.isSome (halike.values "x-amz-date")
    rwa [Option.isSome_map, Option.isSome_map] at hsome
  have hdate : dateText h time = dateText h' time := by
    rw [dateText, dateText, hdated, hread _ (by decide)]
  have hlines : serviceLines (lowered h) = serviceLines (lowered h') := by
    rw [serviceLines, serviceLines, sortedTexts_congr (halike.keys.filter _),
      funext halike.headerLine]
  have htext : signedText method path h q = signedText method path h' r := by
    funext date
    rw [signedText, signedText, hread "content-md5" (by decide), hread "content-type" (by decide),
      hlines, resource_congr hq]
  rw [stringToSign_eq, stringToSign_eq, hdate, htext]

/-- **The text that is signed of parameters does not depend on presentation.** -/
theorem QueryV2.stringToSign_of_recased {host host' : String} {p p' : Dict String}
    (hhost : Text.Recased host host') (hp : p.entries.Perm p'.entries) (method path : String) :
    stringToSign method host path p = stringToSign method host' path p' := by
  rw [stringToSign_congr hp, stringToSign, stringToSign, Text.lowered_congr hhost]

/-! ## All schemes -/

/-- **The texts that are signed do not depend on presentation.** When no two names of headers differ
in case alone, the canonical request is the same for every order of the query, of the form and of
the headers, for every case of the names of headers and whatever the blanks around the words of
covered values, which may as well be folded. The text that is signed in a header is the same in the
same way, where the headers of the service have free blanks; and the text that is signed of
parameters for every order of these and every case of the host, in letters other than capital sigma.
-/
theorem signed_texts_do_not_depend_on_presentation :
    (∀ {h h' : Headers} {q r : Query}, Distinct h.entries → q.entries.Perm r.entries →
      Presented V4.isCovered h h' → ∀ method path hash,
        V4.canonicalRequest method path q h hash = V4.canonicalRequest method path r h' hash) ∧
    (∀ (request : Request) {form form' : Dict String}, form.entries.Perm form'.entries →
      V4.sentBody { request with form := some form } =
        V4.sentBody { request with form := some form' }) ∧
    (∀ {h : Headers}, Distinct h.entries → ∀ method path q hash,
      V4.canonicalRequest method path q (V4.foldCovered h) hash =
        V4.canonicalRequest method path q h hash) ∧
    (∀ {h h' : Headers} {q r : Query}, Distinct h.entries → q.entries.Perm r.entries →
      Presented isServiceHeader h h' → ∀ method path time,
        HeaderV2.stringToSign method path h time q = HeaderV2.stringToSign method path h' time r) ∧
    ∀ {host host' : String} {p p' : Dict String}, Text.Recased host host' →
      p.entries.Perm p'.entries →
      ∀ method path, QueryV2.stringToSign method host path p =
        QueryV2.stringToSign method host' path p' := by
  refine ⟨?_, V4.sentBody_congr, ?_, ?_, QueryV2.stringToSign_of_recased⟩
  · intro h h' q r hd hq hpresented method path hash
    exact V4.canonicalRequest_of_presented hd hq hpresented method path hash
  · intro h hd method path q hash
    have hfolded := V4.presented_foldCovered h
    exact (V4.canonicalRequest_of_presented hd (List.Perm.refl _) hfolded method path hash).symm
  · intro h h' q r hd hq hpresented method path time
    exact HeaderV2.stringToSign_of_presented hd hq hpresented method path time

/-- Headers in one presentation. -/
def plainHeaders : Headers :=
  .ofList [("x-amz-meta-note", "a b"), ("Host", "h"), ("accept", "c  d")]

/-- The same headers in another one: the blanks of the one that is not covered are as they were. -/
def otherHeaders : Headers :=
  .ofList [("Accept", "c  d"), ("X-Amz-Meta-NOTE", " a\t b "), ("host", "h")]

/-- Both presentations are signed alike, with either order of a query. -/
theorem otherHeaders_are_signed_alike :
    Distinct plainHeaders.entries ∧
      ([("a", none), ("b", some "1")] : List (String × Option String)).Perm
        [("b", some "1"), ("a", none)] ∧
      Presented V4.isCovered plainHeaders otherHeaders ∧
      V4.canonicalRequest "GET" "/k" (.ofList [("a", none), ("b", some "1")]) plainHeaders "hash" =
        V4.canonicalRequest "GET" "/k" (.ofList [("b", some "1"), ("a", none)]) otherHeaders
          "hash" := by
  have hdistinct : Distinct plainHeaders.entries := by
    unfold Distinct
    decide
  have hquery : ([("a", none), ("b", some "1")] : List (String × Option String)).Perm
      [("b", some "1"), ("a", none)] := List.Perm.swap _ _ _
  have hblank : Text.Reblanked "a b" " a\t b " := by
    unfold Text.Reblanked
    decide
  have hpresented : Presented V4.isCovered plainHeaders otherHeaders := by
    refine ⟨[("accept", "c  d"), ("x-amz-meta-note", "a b"), ("Host", "h")], by decide, ?_⟩
    exact .cons ⟨by decide, .inl rfl⟩ (.cons ⟨by decide, .inr ⟨by decide, hblank⟩⟩
      (.cons ⟨by decide, .inl rfl⟩ .nil))
  exact ⟨hdistinct, hquery, hpresented,
    signed_texts_do_not_depend_on_presentation.1 hdistinct hquery hpresented "GET" "/k" "hash"⟩

/-- A capital sigma at the end of a word has another small letter than one that is small already:
hosts that differ in the case of a sigma are signed apart. -/
theorem sigma_of_host_is_signed_apart :
    "ΑΣ".toList.map Text.lowerChar = "ασ".toList.map Text.lowerChar ∧
      QueryV2.stringToSign "GET" "ΑΣ" "/" .empty = .ok "GET\nας\n/\n" ∧
      QueryV2.stringToSign "GET" "ασ" "/" .empty = .ok "GET\nασ\n/\n" := by
  have hcanonical : (formQuery .empty).canonical = "" := by
    show "&".intercalate ((sortedPairs []).map Query.field) = ""
    rw [sortedPairs, List.mergeSort_nil]
    rfl
  have htext : ∀ host, QueryV2.stringToSign "GET" host "/" .empty =
      .ok (lines ["GET", Text.lowered host, Percent.path "/", ""]) := by
    intro host
    rw [QueryV2.stringToSign, hcanonical]
    rfl
  refine ⟨by decide, ?_, ?_⟩
  · rw [htext, show Text.lowered "ΑΣ" = "ας" by decide +kernel]
    rfl
  · rw [htext, show Text.lowered "ασ" = "ασ" by decide +kernel]
    rfl

end Signature

end CloudClient
