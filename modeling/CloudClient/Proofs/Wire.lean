import CloudClient.Proofs.Encoding.Percent
import CloudClient.Proofs.Endpoint
import CloudClient.Proofs.Signature.Canonical
import CloudClient.Signature.Signed

/-!
# Locators as they are read on the other side

The other side of a connection has nothing but the text of a locator. It takes the host from the
authority, decodes the path, splits the query at the ampersands and each field at its first equals
sign, and decodes both parts. Main statement: what it reads is what the locator was made of, up to
the order of the query.
-/

namespace CloudClient

namespace Wire

/-! ## Reading -/

/-- What travels of a request. -/
structure Message where
  method : String
  url : String
  headers : Headers
  body : Body

/-- The bytes of a body, unless it is a stream. -/
def content? : Body → Option Bytes
  | .empty => some []
  | .bytes data => some data
  | .stream _ => none

/-- What a locator says to the side that reads it. -/
structure Target where
  host : String
  path : String
  query : Query

/-- A decoded text. -/
def decoded? (s : List Char) : Option String := (Percent.decode? s).map String.ofList

/-- A field of a query; one without an equals sign is a bare flag. -/
def field? (s : List Char) : Option (String × Option String) := do
  let key ← decoded? (Text.cut '=' s).1
  let value ← (Text.cut '=' s).2.mapM decoded?
  return (key, value)

/-- The query that a text stands for. -/
def query? (s : List Char) : Option Query :=
  if s = [] then some .empty else ((Text.pieces '&' s).mapM field?).map Dict.ofList

/-- The parameters of a query; a bare flag has an empty value. -/
def parameters (q : Query) : Dict String := q.mapValues fun v => v.getD ""

/-- The parameters that the bytes of a form stand for. -/
def form? (data : Bytes) : Option (Dict String) := do
  let text ← Utf8.decode? data
  return parameters (← query? text)

/-- The host, the path and the query of an absolute locator. -/
def target? (url : String) : Option Target := do
  let rest ← (Text.cut ':' url.toList).2
  let authority := Uri.cutAuthority rest
  let written := (Text.cut '#' authority.2).1
  let path ← decoded? (Text.cut '?' written).1
  let query ← query? ((Text.cut '?' written).2.getD [])
  return { host := String.ofList authority.1, path, query }

end Wire

/-- What travels of a signed request. -/
def SignedRequest.message (q : SignedRequest) : Wire.Message :=
  { method := q.method.name, url := q.url, headers := q.headers, body := q.body }

namespace Wire

/-! ## Fields -/

/-- An encoded component is read as the text it was made of. -/
theorem decoded?_component (s : String) : decoded? (Percent.component s).toList = some s := by
  rw [decoded?, Percent.component, String.toList_ofList, Percent.decode?_encode List.not_mem_nil,
    Option.map_some, String.ofList_toList]

/-- An encoded path is read as the path it was made of. -/
theorem decoded?_path (s : String) : decoded? (Percent.path s).toList = some s := by
  rw [decoded?, Percent.path, String.toList_ofList, Percent.decode?_encode (by decide),
    Option.map_some, String.ofList_toList]

/-- A separator does not stand in an encoded component. -/
theorem not_mem_component {c : Char} (h : Percent.isWritten [] c = false) (s : String) :
    c ∉ (Percent.component s).toList := by
  rw [Percent.component, String.toList_ofList]
  exact Percent.not_mem_encode h _

/-- A field is its key, with an equals sign and the value when it has one. -/
theorem toList_wireField (key : String) (value : Option String) :
    (Query.wireField key value).toList =
      (Percent.component key).toList ++
        value.elim [] fun v => '=' :: (Percent.component v).toList := by
  cases value with
  | none => exact (List.append_nil _).symm
  | some v =>
    simp only [Query.wireField, Query.field, toString, String.toList_append, Option.elim_some]
    rw [List.append_assoc]
    rfl

/-- **A field is read as the one it was made of**, a bare flag as a bare flag. -/
theorem field?_wireField (key : String) (value : Option String) :
    field? (Query.wireField key value).toList = some (key, value) := by
  have hkey : '=' ∉ (Percent.component key).toList := not_mem_component rfl key
  rw [toList_wireField]
  cases value with
  | none =>
    rw [Option.elim_none, List.append_nil, field?, Text.cut_of_not_mem hkey]
    rw [decoded?_component]
    rfl
  | some v =>
    rw [Option.elim_some, field?, Text.cut_append_sep hkey]
    rw [decoded?_component, Option.mapM_some, decoded?_component]
    rfl

/-- Fields hold no other separators. -/
theorem not_mem_wireField {c : Char} (h : Percent.isWritten [] c = false) (hc : c ≠ '=')
    (key : String) (value : Option String) : c ∉ (Query.wireField key value).toList := by
  rw [toList_wireField, List.mem_append, not_or]
  refine ⟨not_mem_component h key, ?_⟩
  cases value with
  | none => exact List.not_mem_nil
  | some v =>
    rw [Option.elim_some, List.mem_cons, not_or]
    exact ⟨hc, not_mem_component h v⟩

/-! ## Queries -/

/-- The entries of a query in the order in which they are sent. -/
def sent (q : Query) : List (String × Option String) :=
  (sortedTexts q.keys).map fun k => (k, (q.get? k).getD none)

/-- Every entry is sent, and once. -/
theorem sent_perm (q : Query) : (sent q).Perm q.entries := by
  have h := (sortedTexts_perm q.keys).map fun k => (k, (q.get? k).getD none)
  rw [Dict.map_keys_get?] at h
  exact h

/-- The text of a query joins the fields of what is sent. -/
theorem toList_wire (q : Query) :
    q.wire.toList =
      ['&'].intercalate ((sent q).map fun p => (Query.wireField p.1 p.2).toList) := by
  rw [Query.wire, String.toList_intercalate, sent, List.map_map, List.map_map]
  rfl

/-- Nothing but ampersands stands between fields. -/
theorem not_mem_wire {c : Char} (h : Percent.isWritten [] c = false) (hequals : c ≠ '=')
    (hand : c ≠ '&') (q : Query) : c ∉ q.wire.toList := by
  intro hc
  rw [toList_wire] at hc
  rcases Text.eq_sep_or_exists_of_mem_intercalate hc with hc | ⟨field, hfield, hc⟩
  · exact hand hc
  · obtain ⟨p, -, rfl⟩ := List.mem_map.1 hfield
    exact not_mem_wireField h hequals p.1 p.2 hc

/-- The fields of what is sent are found again. -/
theorem pieces_wire {q : Query} (h : sent q ≠ []) :
    Text.pieces '&' q.wire.toList =
      (sent q).map fun p => (Query.wireField p.1 p.2).toList := by
  rw [toList_wire]
  refine Text.pieces_intercalate ?_ ?_
  · intro hnil
    exact h (List.map_eq_nil_iff.1 hnil)
  · intro field hfield
    obtain ⟨p, -, rfl⟩ := List.mem_map.1 hfield
    exact not_mem_wireField rfl (by decide) p.1 p.2

/-- Fields are read one by one. -/
theorem mapM_field?_eq {α : Type} {write : α → List Char} {entry : α → String × Option String}
    {l : List α} (h : ∀ a ∈ l, field? (write a) = some (entry a)) :
    (l.map write).mapM field? = some (l.map entry) := by
  induction l with
  | nil => rfl
  | cons a l ih =>
    rw [List.map_cons, List.mapM_cons, h a List.mem_cons_self,
      ih fun b hb => h b (List.mem_cons_of_mem a hb)]
    rfl

/-- The fields are read as the entries they were made of. -/
theorem mapM_field? (l : List (String × Option String)) :
    (l.map fun p => (Query.wireField p.1 p.2).toList).mapM field? = some l := by
  have h : (l.map fun p => (Query.wireField p.1 p.2).toList).mapM field? = some (l.map id) :=
    mapM_field?_eq fun p _ => field?_wireField p.1 p.2
  rw [List.map_id] at h
  exact h

/-- A query with an entry leaves a text, unless the key of the entry is empty. -/
theorem wire_ne_nil {q : Query} (hkeys : "" ∉ q.keys) (h : sent q ≠ []) : q.wire.toList ≠ [] := by
  intro hnil
  have hpieces := pieces_wire h
  rw [hnil] at hpieces
  -- The only piece of the empty text is read as a flag without a name.
  have hempty : (Text.pieces '&' []).mapM field? = some [("", none)] := mapM_field? [("", none)]
  have hread := mapM_field? (sent q)
  rw [← hpieces, hempty] at hread
  have hsent : [("", none)] = sent q := Option.some.inj hread
  have hmem : ("", none) ∈ q.entries := (sent_perm q).subset (hsent ▸ List.mem_cons_self)
  exact hkeys (List.mem_map.2 ⟨_, hmem, rfl⟩)

/-- **A query is read as the one it was made of**, up to the order of its entries. -/
theorem query?_wire {q : Query} (hkeys : "" ∉ q.keys) :
    ∃ r, query? q.wire.toList = some r ∧ r.entries.Perm q.entries := by
  by_cases h : sent q = []
  · -- an empty text is the query without entries, not one with an empty flag
    have hentries : q.entries = [] := (h ▸ sent_perm q).nil_eq.symm
    refine ⟨.empty, ?_, ?_⟩
    · rw [toList_wire, h]
      rfl
    · rw [hentries]
      exact List.Perm.nil
  · have hnodup : ((sent q).map (·.1)).Nodup :=
      (((sent_perm q).map (·.1)).nodup_iff).2 q.nodup
    refine ⟨.ofList (sent q), ?_, ?_⟩
    · rw [query?, if_neg (wire_ne_nil hkeys h), pieces_wire h, mapM_field?, Option.map_some]
    · rw [Dict.entries_ofList hnodup]
      exact sent_perm q

/-! ## Canonical forms -/

/-- The fields of a canonical form before they are sorted. -/
def encodedFields (q : Query) : List (String × String) :=
  q.entries.map fun p => (Percent.component p.1, Percent.component (p.2.getD ""))

/-- The entry that an encoded field stands for. -/
def entryOf (p : String × String) : String × Option String :=
  ((decoded? p.1.toList).getD "", some ((decoded? p.2.toList).getD ""))

/-- An encoded field is read as the entry that it stands for, and holds no ampersand. -/
theorem field?_of_mem_encodedFields {q : Query} {p : String × String} (h : p ∈ encodedFields q) :
    field? (Query.field p).toList = some (entryOf p) ∧ '&' ∉ (Query.field p).toList ∧
      '=' ∈ (Query.field p).toList := by
  obtain ⟨⟨k, v⟩, -, rfl⟩ := List.mem_map.1 h
  have hread := field?_wireField k (some (v.getD ""))
  have hentry : entryOf (Percent.component k, Percent.component (v.getD "")) =
      (k, some (v.getD "")) := by
    rw [entryOf, decoded?_component, decoded?_component]
    rfl
  refine ⟨hread.trans (congrArg some hentry.symm), not_mem_wireField rfl (by decide) k (some _), ?_⟩
  show '=' ∈ (Query.wireField k (some (v.getD ""))).toList
  rw [toList_wireField]
  exact List.mem_append_right _ List.mem_cons_self

/-- The entries of encoded fields are those of the query, with a value for every key. -/
theorem map_entryOf_encodedFields (q : Query) :
    (encodedFields q).map entryOf = q.entries.map fun p => (p.1, some (p.2.getD "")) := by
  rw [encodedFields, List.map_map]
  refine List.map_congr_left fun p _ => ?_
  show entryOf (Percent.component p.1, Percent.component (p.2.getD "")) = _
  rw [entryOf, decoded?_component, decoded?_component]
  rfl

/-- **A canonical form is read as the query it was made of**, up to the order of its entries; a bare
flag has got an empty value. -/
theorem query?_canonical (q : Query) :
    ∃ r, query? q.canonical.toList = some r ∧
      r.entries.Perm (q.entries.map fun p => (p.1, some (p.2.getD ""))) := by
  have hsorted : (sortedPairs (encodedFields q)).Perm (encodedFields q) := List.mergeSort_perm _ _
  have hmem : ∀ p ∈ sortedPairs (encodedFields q), p ∈ encodedFields q := hsorted.subset
  have htext : q.canonical.toList =
      ['&'].intercalate ((sortedPairs (encodedFields q)).map fun p => (Query.field p).toList) := by
    rw [Query.canonical, String.toList_intercalate, List.map_map]
    rfl
  have hentries : ((sortedPairs (encodedFields q)).map entryOf).Perm
      (q.entries.map fun p => (p.1, some (p.2.getD ""))) := by
    rw [← map_entryOf_encodedFields]
    exact hsorted.map _
  cases hfields : sortedPairs (encodedFields q) with
  | nil =>
    refine ⟨.empty, ?_, ?_⟩
    · rw [htext, hfields]
      rfl
    · rw [hfields] at hentries
      exact hentries
  | cons p l =>
    have hpieces : Text.pieces '&' q.canonical.toList =
        (sortedPairs (encodedFields q)).map fun p => (Query.field p).toList := by
      rw [htext]
      refine Text.pieces_intercalate (by simp [hfields]) ?_
      intro field hfield
      obtain ⟨p, hp, rfl⟩ := List.mem_map.1 hfield
      exact (field?_of_mem_encodedFields (hmem p hp)).2.1
    have hne : q.canonical.toList ≠ [] := by
      -- The only piece of the empty text has no equals sign.
      intro hnil
      rw [hnil, hfields, List.map_cons] at hpieces
      have hsign := (field?_of_mem_encodedFields
        (hmem p (hfields ▸ List.mem_cons_self))).2.2
      rw [← (List.cons.inj hpieces).1] at hsign
      cases hsign
    have hnodup : (((sortedPairs (encodedFields q)).map entryOf).map (·.1)).Nodup := by
      refine ((hentries.map _).nodup_iff).2 ?_
      rw [List.map_map]
      exact q.nodup
    refine ⟨.ofList ((sortedPairs (encodedFields q)).map entryOf), ?_, ?_⟩
    · rw [query?, if_neg hne, hpieces,
        mapM_field?_eq fun p hp => (field?_of_mem_encodedFields (hmem p hp)).1, Option.map_some]
    · rw [Dict.entries_ofList hnodup]
      exact hentries

/-- The parameters of what is read of a form or of a query are those that were written. -/
theorem perm_parameters {r : Query} {d : Dict String} (h : r.entries.Perm (formQuery d).entries) :
    (parameters r).entries.Perm d.entries := by
  have hback : ((formQuery d).entries.map fun p => (p.1, p.2.getD "")) = d.entries := by
    show (d.entries.map fun p => (p.1, some p.2)).map _ = _
    rw [List.map_map]
    exact List.map_id' d.entries
  rw [← hback]
  exact h.map fun p => (p.1, p.2.getD "")

/-- **The bytes of a form are read as the parameters they were made of**, up to their order. -/
theorem form?_ofString (d : Dict String) :
    ∃ received, form? (Utf8.ofString (formQuery d).canonical) = some received ∧
      received.entries.Perm d.entries := by
  obtain ⟨r, hread, hperm⟩ := query?_canonical (formQuery d)
  refine ⟨parameters r, ?_, perm_parameters ?_⟩
  · rw [form?, Utf8.ofString, Utf8.decode?_encode]
    show (query? (formQuery d).canonical.toList).bind _ = _
    rw [hread]
    rfl
  · have hvalues : ((formQuery d).entries.map fun p => (p.1, some (p.2.getD ""))) =
        (formQuery d).entries := by
      show (d.entries.map fun p => (p.1, some p.2)).map _ = d.entries.map _
      rw [List.map_map]
      rfl
    rw [hvalues] at hperm
    exact hperm

/-! ## Locators -/

/-- The text of a query in a locator, with the mark in front of it. -/
def marked (q : Query) : List Char := if q.wire.isEmpty then [] else '?' :: q.wire.toList

/-- Cutting a path and a query at the mark finds both. -/
theorem cut_marked {path : List Char} (h : '?' ∉ path) (q : Query) :
    (Text.cut '?' (path ++ marked q)).1 = path ∧
      (Text.cut '?' (path ++ marked q)).2.getD [] = q.wire.toList := by
  unfold marked
  split
  · rename_i hempty
    rw [List.append_nil, Text.cut_of_not_mem h, String.isEmpty_iff.1 hempty]
    exact ⟨rfl, rfl⟩
  · rw [Text.cut_append_sep h]
    exact ⟨rfl, rfl⟩

/-- A query does not begin in a path. -/
theorem mark_not_mem_path (path : String) : '?' ∉ (Percent.path path).toList := by
  rw [Percent.path, String.toList_ofList]
  exact Percent.not_mem_encode rfl _

/-- A fragment begins in neither a path nor a query. -/
theorem hash_not_mem (path : String) (q : Query) :
    '#' ∉ (Percent.path path).toList ++ marked q := by
  have hpath : '#' ∉ (Percent.path path).toList := by
    rw [Percent.path, String.toList_ofList]
    exact Percent.not_mem_encode rfl _
  rw [List.mem_append, not_or]
  refine ⟨hpath, ?_⟩
  unfold marked
  split
  · exact List.not_mem_nil
  · rw [List.mem_cons, not_or]
    exact ⟨by decide, not_mem_wire rfl (by decide) (by decide) q⟩

/-- An authority ends at the slash after it. -/
theorem cutAuthority_append {host : List Char} (h : ∀ c ∈ host, Uri.endsAuthority c = false)
    (rest : List Char) :
    Uri.cutAuthority ('/' :: '/' :: (host ++ '/' :: rest)) = (host, '/' :: rest) := by
  have hkept : ∀ c ∈ host, (!Uri.endsAuthority c) = true := by
    intro c hc
    rw [h c hc]
    rfl
  rw [Uri.cutAuthority, List.takeWhile_append_of_pos hkept, List.dropWhile_append_of_pos hkept,
    List.takeWhile_cons_of_neg (by decide), List.dropWhile_cons_of_neg (by decide),
    List.append_nil]

/-- A path that begins with a slash does so when it is encoded. -/
theorem exists_toList_path {path : String} {rest : List Char} (h : path.toList = '/' :: rest) :
    ∃ written, (Percent.path path).toList = '/' :: written := by
  refine ⟨Percent.encode ['/'] rest, ?_⟩
  have happend := Percent.encode_append ['/'] ['/'] rest
  rw [Percent.path, String.toList_ofList, h]
  exact happend

/-- An authority ends at the path. -/
theorem cutAuthority_path {host : List Char} {path : String} {rest : List Char}
    (hhost : ∀ c ∈ host, Uri.endsAuthority c = false) (hpath : path.toList = '/' :: rest)
    (q : Query) :
    Uri.cutAuthority ('/' :: '/' :: (host ++ ((Percent.path path).toList ++ marked q))) =
      (host, (Percent.path path).toList ++ marked q) := by
  obtain ⟨written, hwritten⟩ := exists_toList_path hpath
  rw [hwritten]
  exact cutAuthority_append hhost _

/-- A locator that is put together from parts is taken apart into them. -/
theorem target?_of_toList {url scheme host path : String} {q r : Query} {rest : List Char}
    (hscheme : ':' ∉ scheme.toList) (hhost : ∀ c ∈ host.toList, Uri.endsAuthority c = false)
    (hpath : path.toList = '/' :: rest) (hquery : query? q.wire.toList = some r)
    (hurl : url.toList =
      scheme.toList ++
        ':' :: '/' :: '/' :: (host.toList ++ ((Percent.path path).toList ++ marked q))) :
    target? url = some { host, path, query := r } := by
  -- The marks of queries and fragments are encoded wherever they stand in a path or a query.
  obtain ⟨hcutPath, hcutQuery⟩ := cut_marked (mark_not_mem_path path) q
  have hhash := Text.cut_of_not_mem (hash_not_mem path q)
  rw [target?, hurl, Text.cut_append_sep hscheme]
  rw [Option.bind_eq_bind, Option.bind_some, cutAuthority_path hhost hpath]
  dsimp only
  rw [hhash, hcutPath, hcutQuery, decoded?_path, hquery, String.ofList_toList]
  rfl

/-- The text of the locator of a path and a query. -/
theorem toList_locator {endpoint : Endpoint} {url scheme host path : String} {q : Query}
    (hscheme : endpoint.scheme = .ok scheme) (hhost : endpoint.host = .ok host)
    (h : Signature.locator endpoint path q = .ok url) :
    url.toList =
      scheme.toList ++
        ':' :: '/' :: '/' :: (host.toList ++ ((Percent.path path).toList ++ marked q)) := by
  rw [Signature.locator, hscheme, hhost] at h
  cases h
  unfold marked
  split
  · simp [toString]
  · simp [toString]

/-- Every path and query have a locator at a valid endpoint. -/
theorem exists_locator_of_validate {endpoint : Endpoint} (hvalid : endpoint.validate = .ok ())
    (path : String) (q : Query) : ∃ url, Signature.locator endpoint path q = .ok url := by
  obtain ⟨host, hhost, -⟩ := Endpoint.exists_host_of_validate hvalid
  rcases Endpoint.scheme_of_validate hvalid with hscheme | hscheme
  · rw [Signature.locator, hscheme, hhost]
    exact ⟨_, rfl⟩
  · rw [Signature.locator, hscheme, hhost]
    exact ⟨_, rfl⟩

/-- A request for a valid endpoint can be put together. -/
theorem exists_finish_of_validate {endpoint : Endpoint} (hvalid : endpoint.validate = .ok ())
    (request : Request) (headers : Headers) (body : Body) (query : Query) :
    ∃ q, Signature.finish request endpoint headers body query = .ok q := by
  obtain ⟨url, hurl⟩ := exists_locator_of_validate hvalid request.path query
  rw [Signature.finish, hurl]
  exact ⟨_, rfl⟩

/-- A locator without a query has no mark of one. -/
theorem question_not_mem_of_locator {endpoint : Endpoint} {url path : String}
    (hvalid : endpoint.validate = .ok ())
    (h : Signature.locator endpoint path .empty = .ok url) : '?' ∉ url.toList := by
  obtain ⟨host, hhost, hends⟩ := Endpoint.exists_host_of_validate hvalid
  have hhostMark : '?' ∉ host.toList := by
    intro hmem
    have hends' := hends '?' hmem
    revert hends'
    decide
  have hpathMark := mark_not_mem_path path
  have hnone : marked .empty = [] := by
    simp [marked, Query.wire, sortedTexts, Dict.keys, Dict.empty]
  have hmark : '?' ∉ ':' :: '/' :: '/' ::
      (host.toList ++ ((Percent.path path).toList ++ marked .empty)) := by
    rw [hnone]
    simp [hhostMark, hpathMark]
  rcases Endpoint.scheme_of_validate hvalid with hscheme | hscheme
  · rw [toList_locator hscheme hhost h, List.mem_append, not_or]
    exact ⟨by decide, hmark⟩
  · rw [toList_locator hscheme hhost h, List.mem_append, not_or]
    exact ⟨by decide, hmark⟩

/-- **A locator is read as the host of its endpoint, the path and the query**, up to the order of
the entries of the query. -/
theorem exists_target_of_locator {endpoint : Endpoint} {url path : String} {q : Query}
    {rest : List Char} (hvalid : endpoint.validate = .ok ()) (hpath : path.toList = '/' :: rest)
    (hkeys : "" ∉ q.keys) (h : Signature.locator endpoint path q = .ok url) :
    ∃ host r, endpoint.host = .ok host ∧ target? url = some { host, path, query := r } ∧
      r.entries.Perm q.entries := by
  obtain ⟨host, hhost, hends⟩ := Endpoint.exists_host_of_validate hvalid
  obtain ⟨r, hread, hperm⟩ := query?_wire hkeys
  refine ⟨host, r, hhost, ?_, hperm⟩
  -- Neither scheme holds a colon, so the first colon ends it.
  rcases Endpoint.scheme_of_validate hvalid with hscheme | hscheme
  · exact target?_of_toList (by decide) hends hpath hread (toList_locator hscheme hhost h)
  · exact target?_of_toList (by decide) hends hpath hread (toList_locator hscheme hhost h)

end Wire

end CloudClient
