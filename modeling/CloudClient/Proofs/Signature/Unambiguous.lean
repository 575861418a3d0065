import CloudClient.Proofs.Signature.Covered
import CloudClient.Proofs.Wire

/-!
# Canonical requests are unambiguous

A canonical request is taken apart from its front: the method, the path and the query hold no line
feed, every header has a line of its own with a colon in it, an empty line ends the headers, and
what follows the names of the headers is the hash. Main statement: two canonical requests are the
same exactly when the requests have the same method, path, query, covered headers and hash.
-/

namespace CloudClient

namespace Text

/-- A folded text holds spaces and characters that are no blanks. -/
theorem eq_space_or_of_mem_foldFrom {c : Char} {s : List Char} {inRun : Bool}
    (h : c ∈ foldFrom inRun s) : c = ' ' ∨ isBlank c = false := by
  induction s generalizing inRun with
  | nil => cases h
  | cons d r ih =>
    rw [foldFrom] at h
    split at h
    · split at h
      · exact ih h
      · exact (List.mem_cons.1 h).elim .inl ih
    · rename_i hd
      rcases List.mem_cons.1 h with rfl | h
      · exact .inr (by simpa using hd)
      · exact ih h

/-- A line feed is folded. -/
theorem lineFeed_not_mem_folded (s : String) : '\n' ∉ (folded s).toList := by
  rw [folded, String.toList_ofList]
  intro h
  have hblank := eq_space_or_of_mem_foldFrom h
  revert hblank
  decide

/-- Texts that are the same up to the first separator and after it are the same in both parts. -/
theorem append_sep_inj {α : Type} [DecidableEq α] {sep : α} {a b s t : List α} (ha : sep ∉ a)
    (hb : sep ∉ b) : a ++ sep :: s = b ++ sep :: t ↔ a = b ∧ s = t := by
  constructor
  · intro h
    have hcut := congrArg (cut sep) h
    rw [cut_append_sep ha, cut_append_sep hb] at hcut
    exact ⟨congrArg Prod.fst hcut, Option.some.inj (congrArg Prod.snd hcut)⟩
  · rintro ⟨rfl, rfl⟩
    rfl

end Text

namespace Dict

/-- No entry stands twice. -/
theorem nodup_entries {α : Type} (d : Dict α) : d.entries.Nodup := by
  have hkeys := d.nodup
  rw [List.nodup_iff_pairwise_ne, List.pairwise_map] at hkeys
  exact hkeys.imp fun hne heq => hne (congrArg Prod.fst heq)

/-- Dictionaries in which the same is read have the same entries. -/
theorem perm_of_get? {α : Type} {d e : Dict α} (h : ∀ k, d.get? k = e.get? k) :
    d.entries.Perm e.entries := by
  refine (List.perm_ext_iff_of_nodup d.nodup_entries e.nodup_entries).2 ?_
  rintro ⟨k, v⟩
  rw [← get?_eq_some_iff, ← get?_eq_some_iff, h k]

end Dict

/-! ## Queries -/

namespace Wire

/-- A canonical form holds nothing but encoded components and the two separators. -/
theorem not_mem_canonical {c : Char} (h : Percent.isWritten [] c = false) (hequals : c ≠ '=')
    (hand : c ≠ '&') (q : Query) : c ∉ q.canonical.toList := by
  intro hc
  rw [Query.canonical, String.toList_intercalate, List.map_map] at hc
  rcases Text.eq_sep_or_exists_of_mem_intercalate hc with hc | ⟨field, hfield, hc⟩
  · exact hand hc
  · obtain ⟨p, hp, rfl⟩ := List.mem_map.1 hfield
    obtain ⟨⟨k, v⟩, -, rfl⟩ := List.mem_map.1 ((List.mergeSort_perm _ _).subset hp)
    exact not_mem_wireField h hequals k (some (v.getD "")) hc

/-- The canonical form of a query is that of its parameters. -/
theorem canonical_eq_of_perm {q r : Query}
    (h : (parameters q).entries.Perm (parameters r).entries) : q.canonical = r.canonical := by
  have hfields : ∀ q : Query, encodedFields q =
      (parameters q).entries.map fun p => (Percent.component p.1, Percent.component p.2) := by
    intro q
    rw [encodedFields, parameters, Dict.mapValues, List.map_map]
    rfl
  show "&".intercalate ((sortedPairs (encodedFields q)).map Query.field) =
    "&".intercalate ((sortedPairs (encodedFields r)).map Query.field)
  rw [hfields, hfields, sortedPairs_congr (h.map _)]

/-- The parameters of a query are read of its canonical form. -/
theorem perm_parameters_of_canonical_eq {q r : Query} (h : q.canonical = r.canonical) :
    (parameters q).entries.Perm (parameters r).entries := by
  obtain ⟨s, hs, hq⟩ := query?_canonical q
  obtain ⟨s', hs', hr⟩ := query?_canonical r
  rw [h, hs'] at hs
  obtain rfl := Option.some.inj hs
  have hvalues : ∀ q : Query, ((q.entries.map fun p => (p.1, some (p.2.getD ""))).map
      fun p => (p.1, p.2.getD "")) = (parameters q).entries := by
    intro q
    rw [List.map_map]
    rfl
  rw [← hvalues q, ← hvalues r]
  exact (hq.symm.trans hr).map _

/-- **Queries have the same canonical form exactly when they have the same parameters.** -/
theorem canonical_eq_iff {q r : Query} :
    q.canonical = r.canonical ↔ ∀ k, (parameters q).get? k = (parameters r).get? k :=
  ⟨fun h => Dict.get?_of_perm (perm_parameters_of_canonical_eq h),
    fun h => canonical_eq_of_perm (Dict.perm_of_get? h)⟩

end Wire

namespace Percent

/-- Paths are encoded apart. -/
theorem path_injective {s t : String} (h : path s = path t) : s = t := by
  have hs := Wire.decoded?_path s
  rw [h, Wire.decoded?_path] at hs
  exact (Option.some.inj hs).symm

end Percent

namespace Signature.V4

/-! ## Headers -/

/-- The covered headers under their lowered names, with their values as they are signed. -/
def foldedHeaders (headers : Headers) : Dict String := (covered headers).mapValues Text.folded

/-- The covered headers in the order of their lines. -/
def signedEntries (headers : Headers) : List (String × String) :=
  (sortedTexts (foldedHeaders headers).keys).map fun k =>
    (k, ((foldedHeaders headers).get? k).getD "")

/-- The lines of headers. -/
def headerLines (l : List (String × String)) : List Char :=
  l.flatMap fun p => p.1.toList ++ ':' :: (p.2.toList ++ ['\n'])

/-- The name of a header ends at the colon, and its value with the line. -/
def IsLine (p : String × String) : Prop :=
  ':' ∉ p.1.toList ∧ '\n' ∉ p.1.toList ∧ '\n' ∉ p.2.toList

/-- The lines of headers are told from one another and from the empty line after them. -/
theorem headerLines_inj {l m : List (String × String)} (hl : ∀ p ∈ l, IsLine p)
    (hm : ∀ p ∈ m, IsLine p) {s t : List Char}
    (h : headerLines l ++ '\n' :: s = headerLines m ++ '\n' :: t) : l = m ∧ s = t := by
  -- A line with a header is not empty, for its name holds no line feed and a colon follows.
  have hend : ∀ (p : String × String) (rest : List (String × String)) (s t : List Char),
      IsLine p → '\n' :: s ≠ headerLines (p :: rest) ++ '\n' :: t := by
    intro p rest s t hp heq
    rw [headerLines, List.flatMap_cons, List.append_assoc, List.append_assoc] at heq
    cases hname : p.1.toList with
    | nil =>
      rw [hname] at heq
      cases heq
    | cons c r =>
      rw [hname] at heq
      obtain rfl := (List.cons.inj heq).1
      exact hp.2.1 (hname ▸ List.mem_cons_self)
  induction l generalizing m with
  | nil =>
    cases m with
    | nil => exact ⟨rfl, (List.cons.inj h).2⟩
    | cons p m => exact absurd h (hend p m s t (hm p List.mem_cons_self))
  | cons p l ih =>
    cases m with
    | nil => exact absurd h.symm (hend p l t s (hl p List.mem_cons_self))
    | cons p' m =>
      obtain ⟨hcolon, -, hvalue⟩ := hl p List.mem_cons_self
      obtain ⟨hcolon', -, hvalue'⟩ := hm p' List.mem_cons_self
      simp only [headerLines, List.flatMap_cons, List.append_assoc, List.cons_append,
        List.nil_append] at h
      obtain ⟨hname, h⟩ := (Text.append_sep_inj hcolon hcolon').1 h
      obtain ⟨hsame, h⟩ := (Text.append_sep_inj hvalue hvalue').1 h
      obtain ⟨rfl, rfl⟩ := ih (fun p hp => hl p (List.mem_cons_of_mem _ hp))
        (fun p hp => hm p (List.mem_cons_of_mem _ hp)) h
      have hp : p = p' := Prod.ext (String.toList_inj.1 hname) (String.toList_inj.1 hsame)
      exact ⟨by rw [hp], rfl⟩

/-- The names of the covered headers can stand in front of a colon on a line. -/
def HasLineNames (headers : Headers) : Prop :=
  ∀ k ∈ (covered headers).keys, ':' ∉ k.toList ∧ '\n' ∉ k.toList

/-- The signed headers have the names of the covered ones. -/
theorem keys_foldedHeaders (headers : Headers) :
    (foldedHeaders headers).keys = (covered headers).keys := by
  rw [foldedHeaders, Dict.keys, Dict.mapValues, List.map_map]
  rfl

/-- Every covered header has its line. -/
theorem signedEntries_perm (headers : Headers) :
    (signedEntries headers).Perm (foldedHeaders headers).entries := by
  have h := (sortedTexts_perm (foldedHeaders headers).keys).map
    fun k => (k, ((foldedHeaders headers).get? k).getD "")
  rw [Dict.map_keys_get?] at h
  exact h

/-- A signed header of a plain name makes a line. -/
theorem isLine_of_mem_signedEntries {headers : Headers} (h : HasLineNames headers)
    {p : String × String} (hp : p ∈ signedEntries headers) : IsLine p := by
  have hentry : p ∈ (foldedHeaders headers).entries := (signedEntries_perm headers).subset hp
  have hkey : p.1 ∈ (covered headers).keys := by
    rw [← keys_foldedHeaders]
    exact List.mem_map_of_mem hentry
  obtain ⟨hcolon, hfeed⟩ := h p.1 hkey
  refine ⟨hcolon, hfeed, ?_⟩
  obtain ⟨e, -, rfl⟩ := List.mem_map.1 hentry
  exact Text.lineFeed_not_mem_folded e.2

/-- Headers in which the same is read have the same lines. -/
theorem signedEntries_congr {headers others : Headers}
    (h : ∀ k, (foldedHeaders headers).get? k = (foldedHeaders others).get? k) :
    signedEntries headers = signedEntries others := by
  have hkeys : sortedTexts (foldedHeaders headers).keys = sortedTexts (foldedHeaders others).keys :=
    sortedTexts_congr ((Dict.perm_of_get? h).map _)
  rw [signedEntries, signedEntries, hkeys, funext h]

/-! ## Requests -/

variable {method path hash method' path' hash' : String} {q q' : Query} {headers others : Headers}
  {form form' : String × String}

/-- What is signed of a header that is not there is what is signed of an empty value. -/
theorem get?_foldedHeaders (headers : Headers) (k : String) :
    ((foldedHeaders headers).get? k).getD "" =
      Text.folded (((covered headers).get? k).getD "") := by
  rw [foldedHeaders, Dict.get?_mapValues]
  cases (covered headers).get? k with
  | none => rfl
  | some v => rfl

/-- The lines of the covered headers, as a text. -/
theorem toList_join_headerLine (headers : Headers) :
    (String.join ((sortedTexts (covered headers).keys).map
      fun k => headerLine k (((covered headers).get? k).getD ""))).toList =
        headerLines (signedEntries headers) := by
  rw [String.toList_join, headerLines, signedEntries, keys_foldedHeaders, List.flatMap_map,
    List.flatMap_map]
  congr 1
  funext k
  rw [get?_foldedHeaders, headerLine]
  simp [toString, String.toList_append]

/-- What follows the method in a canonical request, line by line. -/
def afterMethod (path : String) (q : Query) (headers : Headers) (hash : String) : List Char :=
  (Percent.path path).toList ++ '\n' :: (q.canonical.toList ++ '\n' ::
    (headerLines (signedEntries headers) ++ '\n' ::
      ((";".intercalate ((signedEntries headers).map (·.1))).toList ++ '\n' :: hash.toList)))

/-- A canonical request, line by line. -/
theorem toList_of_canonicalRequest (h : canonicalRequest method path q headers hash = .ok form) :
    '\n' ∉ method.toList ∧
      form.1.toList = method.toList ++ '\n' :: afterMethod path q headers hash := by
  obtain ⟨_, -, h⟩ := exists_of_bind_eq_ok h
  dsimp only at h
  split at h
  · rename_i m hm
    cases h
    have hname : m.name = method := by simpa using List.find?_some hm
    have hplain : ∀ m : Method, '\n' ∉ m.name.toList := by
      intro m
      cases m <;> decide
    have hnames : (signedEntries headers).map (·.1) = sortedTexts (covered headers).keys := by
      rw [signedEntries, List.map_map, keys_foldedHeaders]
      exact List.map_id' _
    refine ⟨hname ▸ hplain m, ?_⟩
    rw [lines, String.toList_intercalate, hname, afterMethod, hnames, ← toList_join_headerLine]
    simp [List.intercalate_cons_cons]
  · cases h

/-- **Canonical requests are unambiguous.** Two requests, whose covered headers have plain names,
have the same canonical request exactly when they have the same method, path and hash, the same
parameters, where a bare flag has an empty value, and the same values, trimmed and folded, under the
lowered names of the covered headers. -/
theorem canonicalRequest_eq_iff (h : canonicalRequest method path q headers hash = .ok form)
    (h' : canonicalRequest method' path' q' others hash' = .ok form')
    (hnames : HasLineNames headers) (hnames' : HasLineNames others) :
    form.1 = form'.1 ↔
      method = method' ∧ path = path' ∧ hash = hash' ∧
        (∀ k, (Wire.parameters q).get? k = (Wire.parameters q').get? k) ∧
        ∀ k, (foldedHeaders headers).get? k = (foldedHeaders others).get? k := by
  obtain ⟨hmethod, htext⟩ := toList_of_canonicalRequest h
  obtain ⟨hmethod', htext'⟩ := toList_of_canonicalRequest h'
  have hpath : ∀ s, '\n' ∉ (Percent.path s).toList := by
    intro s
    rw [Percent.path, String.toList_ofList]
    exact Percent.not_mem_encode rfl _
  have hquery : ∀ q : Query, '\n' ∉ q.canonical.toList :=
    Wire.not_mem_canonical rfl (by decide) (by decide)
  rw [← String.toList_inj, htext, htext', Text.append_sep_inj hmethod hmethod', String.toList_inj]
  refine and_congr_right fun _ => ?_
  rw [afterMethod, afterMethod, Text.append_sep_inj (hpath _) (hpath _),
    Text.append_sep_inj (hquery _) (hquery _), String.toList_inj, String.toList_inj]
  constructor
  · rintro ⟨hsame, hcanonical, hblock⟩
    obtain ⟨hentries, hrest⟩ := headerLines_inj (fun p => isLine_of_mem_signedEntries hnames)
      (fun p => isLine_of_mem_signedEntries hnames') hblock
    rw [hentries] at hrest
    refine ⟨Percent.path_injective hsame, ?_, Wire.canonical_eq_iff.1 hcanonical, ?_⟩
    · exact String.toList_inj.1 (List.cons.inj (List.append_cancel_left hrest)).2
    · apply Dict.get?_of_perm
      exact (signedEntries_perm headers).symm.trans (hentries ▸ signedEntries_perm others)
  · rintro ⟨rfl, rfl, hparameters, hvalues⟩
    rw [signedEntries_congr hvalues]
    exact ⟨rfl, Wire.canonical_eq_iff.2 hparameters, rfl⟩

/-- One header whose value has a line feed in it and goes on like another header. -/
def brokenHeader : Headers := .ofList [("X-Amz-A", "1\nx-amz-b:2")]

/-- The two headers that it might be taken for. -/
def twoHeaders : Headers := .ofList [("x-amz-a", "1"), ("x-amz-b", "2")]

/-- The line feed in a value makes no new header: the canonical requests differ. -/
theorem brokenHeader_is_told_apart :
    HasLineNames brokenHeader ∧ HasLineNames twoHeaders ∧
      ∃ form form', canonicalRequest "GET" "/b" .empty brokenHeader "hash" = .ok form ∧
        canonicalRequest "GET" "/b" .empty twoHeaders "hash" = .ok form' ∧ form.1 ≠ form'.1 := by
  have hbroken : HasLineNames brokenHeader := by
    unfold HasLineNames
    decide
  have htwo : HasLineNames twoHeaders := by
    unfold HasLineNames
    decide
  obtain ⟨form, hform⟩ : ∃ form,
      canonicalRequest "GET" "/b" .empty brokenHeader "hash" = .ok form :=
    ⟨_, rfl⟩
  obtain ⟨form', hform'⟩ : ∃ form', canonicalRequest "GET" "/b" .empty twoHeaders "hash" =
      .ok form' :=
    ⟨_, rfl⟩
  refine ⟨hbroken, htwo, form, form', hform, hform', fun hsame => ?_⟩
  obtain ⟨-, -, -, -, hvalues⟩ := (canonicalRequest_eq_iff hform hform' hbroken htwo).1 hsame
  have hb := hvalues "x-amz-b"
  revert hb
  decide

end Signature.V4

end CloudClient
