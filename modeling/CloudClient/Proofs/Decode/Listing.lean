import CloudClient.Decode
import CloudClient.Proofs.Calendar.IsoDate
import CloudClient.Proofs.Decode.Lookup
import CloudClient.Proofs.Number.Integer
import CloudClient.Proofs.Xml.Reading

/-!
# Pages that are read back

The storage service writes a page of a listing as a document: the fields of the page, then its
objects, then its groups. Main statement: the answer that holds the document of a page is decoded as
that page.
-/

namespace CloudClient.StorageDocument

open Xml Document

/-! ## Pages as documents -/

/-- A field that is written where there is a value. -/
def optionalField (name : String) (value : Option String) : List Field :=
  (value.map (Field.text name)).toList

/-- The field of an owner. -/
def ownerField (o : Owner) : Field :=
  .group "Owner" [.text "ID" o.id, .text "DisplayName" o.displayName]

/-- The fields of an object. -/
def entryFields (e : ObjectEntry) : List Field :=
  .text "Key" e.key :: optionalField "LastModified" (e.lastModified.map DateTime.milliText) ++
    [.text "ETag" e.etag, .text "Size" (toString e.size)] ++ (e.owner.map ownerField).toList ++
    [.text "StorageClass" e.storageClass]

/-- The field of an object. -/
def entryField (e : ObjectEntry) : Field := .group "Contents" (entryFields e)

/-- The field of a group. -/
def prefixField (p : String) : Field := .group "CommonPrefixes" [.text "Prefix" p]

/-- The fields of a page. -/
def pageFields (p : Page) : List Field :=
  [.text "Name" p.bucket, .text "Prefix" p.keyPrefix, .text "Marker" p.marker] ++
    optionalField "NextMarker" p.nextMarker ++ optionalField "MaxKeys" (p.maxKeys.map toString) ++
    optionalField "Delimiter" p.delimiter ++
    [.text "IsTruncated" (if p.isTruncated then "true" else "false")] ++
    p.entries.map entryField ++ p.commonPrefixes.map prefixField

/-- The document of a page, which may have a declaration and a default namespace. -/
def pageDocument (heading : Heading) (space : Option String) (p : Page) : Written :=
  { heading, space, name := pageRoot, fields := pageFields p }

/-! ## Pages that can be written -/

/-- XML allows the characters of a text, and none of them is a carriage return. -/
def IsPlainText (s : String) : Prop := IsXmlText s ∧ '\r' ∉ s.toList

instance (s : String) : Decidable (IsPlainText s) :=
  inferInstanceAs (Decidable (IsXmlText s ∧ '\r' ∉ s.toList))

/-- A natural number that is not too long to be read. -/
def IsCount (i : Int) : Prop := ∃ n : Nat, i = n ∧ (toString n).length ≤ Number.maxDigits

/-- The texts of an object are plain, its size is a natural number, and its time is in UTC and has
whole milliseconds. -/
structure IsWritableEntry (e : ObjectEntry) : Prop where
  key : IsPlainText e.key
  size : IsCount e.size
  lastModified : ∀ t ∈ e.lastModified, t.IsMilli
  etag : IsPlainText e.etag
  storageClass : IsPlainText e.storageClass
  owner : ∀ o ∈ e.owner, IsPlainText o.id ∧ IsPlainText o.displayName

/-- The texts of a page are plain; those that the service leaves out rather than empty are not
empty. -/
structure IsWritable (p : Page) : Prop where
  bucket : IsPlainText p.bucket ∧ p.bucket ≠ ""
  keyPrefix : IsPlainText p.keyPrefix
  marker : IsPlainText p.marker
  nextMarker : ∀ s ∈ p.nextMarker, IsPlainText s ∧ s ≠ ""
  delimiter : ∀ s ∈ p.delimiter, IsPlainText s ∧ s ≠ ""
  maxKeys : ∀ i ∈ p.maxKeys, IsCount i
  entries : ∀ e ∈ p.entries, IsWritableEntry e
  commonPrefixes : ∀ s ∈ p.commonPrefixes, IsPlainText s

/-! ## Reading what is written -/

/-- A field that is written where there is a value stands among those of its name. -/
@[simp] theorem named_optionalField (own name : String) (value : Option String) :
    Field.named name (optionalField own value) =
      if own = name then optionalField own value else [] :=
  Field.named_toList (Field.text own) (fun _ => rfl) name value

/-- The value of such a field. -/
@[simp] theorem head?_optionalField (name : String) (value : Option String) :
    (optionalField name value).head?.map Field.value = value := by
  cases value <;> rfl

/-- The field of an owner stands among those of its name. -/
@[simp] theorem named_ownerField (name : String) (o : Option Owner) :
    Field.named name (o.map ownerField).toList =
      if "Owner" = name then (o.map ownerField).toList else [] :=
  Field.named_toList ownerField (fun _ => rfl) name o

/-- A count is read back. -/
theorem childInt?_toString {n : Node} {tag : String} {value : Option Int}
    (htext : childText? n tag = value.map toString) (h : ∀ i ∈ value, IsCount i) :
    childInt? n tag = .ok value := by
  rw [childInt?, htext]
  cases value with
  | none => rfl
  | some i =>
    obtain ⟨k, rfl, hk⟩ := h i rfl
    have hread : readInt (toString (k : Int)) = .ok (k : Int) := readInt_toString hk
    have hne : toString (k : Int) ≠ "" := by
      intro hempty
      rw [hempty] at hread
      cases hread
    simp only [Option.map_some, nonEmpty?_some hne, hread]

/-- A time is read back. -/
theorem childDate?_milliText {n : Node} {tag : String} {value : Option DateTime}
    (htext : childText? n tag = value.map DateTime.milliText) (h : ∀ t ∈ value, t.IsMilli) :
    childDate? n tag = value := by
  rw [childDate?, htext]
  cases value with
  | none => rfl
  | some t =>
    have hread : IsoDate.read? t.milliText = some t := IsoDate.read?_milliText (h t rfl)
    have hne : t.milliText ≠ "" := by
      intro hempty
      rw [hempty] at hread
      cases hread
    rw [Option.map_some, nonEmpty?_some hne, Option.bind_some, hread]

/-- The field of an owner is read as that owner. -/
theorem owner_ownerField (o : Owner) : owner (ownerField o).node = o := by
  have hnode : (ownerField o).node = .element "Owner" [] (Field.nodes
      [.text "ID" o.id, .text "DisplayName" o.displayName]) := rfl
  simp [owner, childTextD, hnode, childText?_nodes]

/-- The field of an object is read as that object. -/
theorem entry_entryField {e : ObjectEntry} (h : IsWritableEntry e) :
    entry (entryField e).node = .ok e := by
  have hnode : (entryField e).node = .element "Contents" [] (Field.nodes (entryFields e)) := rfl
  have hkey : childText? (entryField e).node "Key" = some e.key := by
    simp [hnode, childText?_nodes, entryFields]
  have hsize : childText? (entryField e).node "Size" = some (toString e.size) := by
    simp [hnode, childText?_nodes, entryFields]
  have hmodified : childText? (entryField e).node "LastModified" =
      e.lastModified.map DateTime.milliText := by
    simp [hnode, childText?_nodes, entryFields]
  have hetag : childText? (entryField e).node "ETag" = some e.etag := by
    simp [hnode, childText?_nodes, entryFields]
  have hclass : childText? (entryField e).node "StorageClass" = some e.storageClass := by
    simp [hnode, childText?_nodes, entryFields]
  have howner : (entryField e).node.child? "Owner" = e.owner.map (Field.node ∘ ownerField) := by
    simp [hnode, child?_nodes, entryFields]
  have hcount : childInt? (entryField e).node "Size" = .ok (some e.size) :=
    childInt?_toString hsize fun i hi => Option.some.inj hi ▸ h.size
  have howners : (e.owner.map (Field.node ∘ ownerField)).map owner = e.owner := by
    cases e.owner with
    | none => rfl
    | some o => exact congrArg some (owner_ownerField o)
  simp only [entry, required, hkey, hcount, childDate?_milliText hmodified h.lastModified,
    childTextD, hetag, hclass, howner, howners]
  rfl

/-- The fields of objects are read one by one. -/
theorem mapM_entry {l : List ObjectEntry} (h : ∀ e ∈ l, IsWritableEntry e) :
    ((l.map entryField).map Field.node).mapM entry = .ok l := by
  induction l with
  | nil => rfl
  | cons e l ih =>
    have hrest := ih fun d hd => h d (List.mem_cons_of_mem e hd)
    rw [List.map_cons, List.map_cons, List.mapM_cons, entry_entryField (h e List.mem_cons_self),
      hrest]
    rfl

/-- The fields of objects stand among those of their name. -/
@[simp] theorem named_entryField (name : String) (l : List ObjectEntry) :
    Field.named name (l.map entryField) = if "Contents" = name then l.map entryField else [] :=
  Field.named_map entryField (fun _ => rfl) name l

/-- The fields of groups stand among those of their name. -/
@[simp] theorem named_prefixField (name : String) (l : List String) :
    Field.named name (l.map prefixField) =
      if "CommonPrefixes" = name then l.map prefixField else [] :=
  Field.named_map prefixField (fun _ => rfl) name l

/-- The field of a group is read as that group. -/
theorem childTextD_prefixField (s : String) : childTextD (prefixField s).node "Prefix" = s := by
  have hnode : (prefixField s).node =
      .element "CommonPrefixes" [] (Field.nodes [.text "Prefix" s]) :=
    rfl
  simp [childTextD, hnode, childText?_nodes]

/-- **The document of a page is read as that page.** -/
theorem page_root {p : Page} (h : IsWritable p) (heading : Heading) (space : Option String)
    (bucket : String) (requestId : Option String) :
    page bucket requestId (pageDocument heading space p).root = .ok { p with requestId } := by
  have hroot : (pageDocument heading space p).root =
      .element pageRoot [] (Field.nodes (pageFields p)) := rfl
  generalize (pageDocument heading space p).root = root at hroot
  have htag : root.tag = pageRoot := by
    rw [hroot]
    rfl
  have hname : childText? root "Name" = some p.bucket := by
    simp [hroot, childText?_nodes, pageFields]
  have hprefix : childTextD root "Prefix" = p.keyPrefix := by
    simp [childTextD, hroot, childText?_nodes, pageFields]
  have hmarker : childTextD root "Marker" = p.marker := by
    simp [childTextD, hroot, childText?_nodes, pageFields]
  have hnext : childText? root "NextMarker" = p.nextMarker := by
    simp [hroot, childText?_nodes, pageFields]
  have hmaxKeys : childText? root "MaxKeys" = p.maxKeys.map toString := by
    simp [hroot, childText?_nodes, pageFields]
  have hdelimiter : childText? root "Delimiter" = p.delimiter := by
    simp [hroot, childText?_nodes, pageFields]
  have htruncated : isTrue (childTextD root "IsTruncated") = p.isTruncated := by
    have htext : childTextD root "IsTruncated" = if p.isTruncated then "true" else "false" := by
      simp [childTextD, hroot, childText?_nodes, pageFields]
    rw [htext]
    cases p.isTruncated <;> decide
  have hentries : (root.childrenNamed "Contents").mapM entry = .ok p.entries := by
    rw [← mapM_entry h.entries]
    simp [hroot, childrenNamed_nodes, pageFields]
  have hgroups : (root.childrenNamed "CommonPrefixes").map (childTextD · "Prefix") =
      p.commonPrefixes := by
    simp [hroot, childrenNamed_nodes, pageFields, Function.comp_def, childTextD_prefixField]
  have hexpected : ¬(pageRoot != pageRoot) = true := by decide
  simp only [page, htag, hentries, childInt?_toString hmaxKeys h.maxKeys, hname,
    nonEmpty?_some h.bucket.2, hprefix, hmarker, hnext, hdelimiter,
    nonEmpty?_of_ne fun s hs => (h.nextMarker s hs).2,
    nonEmpty?_of_ne fun s hs => (h.delimiter s hs).2, htruncated, hgroups, if_neg hexpected]
  rfl

/-! ## Documents that can be read -/

/-- A text of the characters of written times is plain. -/
theorem isPlainText_of_isTimeChar {s : String}
    (h : ∀ c ∈ s.toList, IsoDate.isTimeChar c = true ∨ c = 'Z') : IsPlainText s := by
  refine ⟨List.all_eq_true.2 fun c hc => ?_, fun hmem => ?_⟩
  · rcases h c hc with hc | rfl
    · exact IsoDate.of_isTimeChar (by decide) hc
    · rfl
  · rcases h _ hmem with hc | hc
    · cases hc
    · cases hc

/-- A count is written as a plain text. -/
theorem isPlainText_toString {i : Int} (h : IsCount i) : IsPlainText (toString i) := by
  obtain ⟨n, rfl, -⟩ := h
  refine isPlainText_of_isTimeChar fun c hc => .inl ?_
  have htext : (toString (n : Int)).toList = Nat.toDigits 10 n := Nat.toList_repr
  rw [htext] at hc
  have hdigit : c.isDigit = true := Nat.isDigit_of_mem_toDigits (by decide) (by decide) hc
  rw [IsoDate.isTimeChar, IsoDate.isAsciiDigit_of_isDigit hdigit]
  rfl

/-- A time is written as a plain text. -/
theorem isPlainText_milliText (t : DateTime) : IsPlainText t.milliText :=
  isPlainText_of_isTimeChar fun _ hc => IsoDate.isTimeChar_of_mem_milliText hc

/-- A field that is written where there is a value fits when the value does. -/
theorem allFit_optionalField {P : String → Prop} {name : String} {value : Option String}
    (hname : isPlainName name.toList = true) (h : ∀ s ∈ value, P s) :
    Field.AllFit P (optionalField name value) := by
  cases value with
  | none => trivial
  | some s => exact ⟨⟨hname, h s rfl⟩, trivial⟩

/-- The fields of an object can be written. -/
theorem fits_entryField {e : ObjectEntry} (h : IsWritableEntry e) :
    (entryField e).Fits IsPlainText := by
  have hmodified : Field.AllFit IsPlainText
      (optionalField "LastModified" (e.lastModified.map DateTime.milliText)) := by
    refine allFit_optionalField (by decide) fun s hs => ?_
    obtain ⟨t, -, rfl⟩ := Option.map_eq_some_iff.1 hs
    exact isPlainText_milliText t
  have howner : Field.AllFit IsPlainText (e.owner.map ownerField).toList := by
    cases ho : e.owner with
    | none => trivial
    | some o =>
      have hplain := h.owner o ho
      exact ⟨⟨by decide, ⟨by decide, hplain.1⟩, ⟨by decide, hplain.2⟩, trivial⟩, trivial⟩
  have hmiddle : Field.AllFit IsPlainText [.text "ETag" e.etag, .text "Size" (toString e.size)] :=
    ⟨⟨by decide, h.etag⟩, ⟨by decide, isPlainText_toString h.size⟩, trivial⟩
  have hclass : Field.AllFit IsPlainText [.text "StorageClass" e.storageClass] :=
    ⟨⟨by decide, h.storageClass⟩, trivial⟩
  refine ⟨by decide, ?_⟩
  rw [entryFields, Field.allFit_append, Field.allFit_append, Field.allFit_append]
  exact ⟨⟨⟨⟨⟨by decide, h.key⟩, hmodified⟩, hmiddle⟩, howner⟩, hclass⟩

/-- The fields of a page can be written. -/
theorem allFit_pageFields {p : Page} (h : IsWritable p) :
    Field.AllFit IsPlainText (pageFields p) := by
  have hnext : Field.AllFit IsPlainText (optionalField "NextMarker" p.nextMarker) :=
    allFit_optionalField (by decide) fun s hs => (h.nextMarker s hs).1
  have hmaxKeys : Field.AllFit IsPlainText (optionalField "MaxKeys" (p.maxKeys.map toString)) := by
    refine allFit_optionalField (by decide) fun s hs => ?_
    obtain ⟨i, hi, rfl⟩ := Option.map_eq_some_iff.1 hs
    exact isPlainText_toString (h.maxKeys i hi)
  have hdelimiter : Field.AllFit IsPlainText (optionalField "Delimiter" p.delimiter) :=
    allFit_optionalField (by decide) fun s hs => (h.delimiter s hs).1
  have hplain : IsPlainText (if p.isTruncated then "true" else "false") := by
    cases p.isTruncated
    · decide
    · decide
  have htruncated : Field.AllFit IsPlainText
      [.text "IsTruncated" (if p.isTruncated then "true" else "false")] :=
    ⟨⟨by decide, hplain⟩, trivial⟩
  have hentries : Field.AllFit IsPlainText (p.entries.map entryField) := by
    rw [Field.allFit_iff, List.forall_mem_map]
    exact fun e he => fits_entryField (h.entries e he)
  have hgroups : Field.AllFit IsPlainText (p.commonPrefixes.map prefixField) := by
    rw [Field.allFit_iff, List.forall_mem_map]
    exact fun s hs => ⟨by decide, ⟨by decide, h.commonPrefixes s hs⟩, trivial⟩
  have hfirst : Field.AllFit IsPlainText
      [.text "Name" p.bucket, .text "Prefix" p.keyPrefix, .text "Marker" p.marker] :=
    ⟨⟨by decide, h.bucket.1⟩, ⟨by decide, h.keyPrefix⟩, ⟨by decide, h.marker⟩, trivial⟩
  simp only [pageFields, Field.allFit_append]
  exact ⟨⟨⟨⟨⟨⟨hfirst, hnext⟩, hmaxKeys⟩, hdelimiter⟩, htruncated⟩, hentries⟩, hgroups⟩

/-- The document of a page is sound. -/
theorem isSound_pageDocument {p : Page} (h : IsWritable p) (heading : Heading)
    {space : Option String} (hspace : ∀ s ∈ space, Written.IsSpace s) :
    (pageDocument heading space p).IsSound :=
  ⟨show isPlainName pageRoot.toList = true by decide,
    Field.AllFit.imp (fun _ hs => hs.1) (allFit_pageFields h), hspace⟩

end CloudClient.StorageDocument

namespace CloudClient

open Xml StorageDocument

/-- **A page that the service answers is decoded as that page**, all its objects and groups in their
order. -/
theorem decode_pageDocument {c : CallInfo} {r : Response} {p : Page} {heading : Heading}
    {space : Option String} (hc : c.operation = .listBucket) (hstatus : r.status = 200)
    (hp : IsWritable p) (hspace : ∀ s ∈ space, Written.IsSpace s)
    (hbody : r.body = (pageDocument heading space p).bytes) :
    decode c r = .ok (.ok (.listBucket { p with requestId := r.requestId })) := by
  have hread : readDocument? r.body = some (pageDocument heading space p).root := by
    rw [hbody]
    exact Written.readDocument?_bytes_of_no_return (isSound_pageDocument hp heading hspace)
      (Field.AllFit.imp (fun _ hs => hs.2) (allFit_pageFields hp))
  have hroot : Document.root r.body = .ok (pageDocument heading space p).root := by
    rw [Document.root, hread]
  have hresult : Decode.result c r =
      .ok (.ok (.listBucket { p with requestId := r.requestId })) := by
    have hlist : listBucket c.bucket r = .ok (.listBucket { p with requestId := r.requestId }) := by
      rw [listBucket, hroot]
      show (page _ _ _ >>= _) = _
      rw [page_root hp]
      rfl
    simp only [Decode.result, hc, hlist]
    rfl
  have hok : r.isOk = true := by
    rw [Response.isOk, hstatus]
    rfl
  have hchanged : ¬(r.status = 304 ∧ c.operation = .get) := by
    rw [hstatus]
    omega
  rw [decode, if_neg hchanged, hok, hresult]
  rfl

/-- A truncated page with an object, whose key holds markup, and a group. -/
def samplePage : Page :=
  { bucket := "photos", keyPrefix := "2009/", nextMarker := some "2009/été/", delimiter := some "/",
    maxKeys := some 2, isTruncated := true,
    entries := [
      { key := "2009/<b>&amp;.jpg", size := 1024,
        lastModified := some ⟨2009, 10, 12, 17, 50, 30, 250000, some 0⟩, etag := "\"fba9\"",
        storageClass := "STANDARD", owner := some { id := "75aa", displayName := "" } }],
    commonPrefixes := ["2009/été/"] }

/-- The page is decoded from its document in the namespace of the service. -/
theorem decode_samplePage :
    decode { operation := .listBucket, resource := "photos" }
      { status := 200
        body := (pageDocument .encoding (some "http://s3.amazonaws.com/doc/2006-03-01/")
          samplePage).bytes } =
      .ok (.ok (.listBucket samplePage)) := by
  have hentry : ∀ e ∈ samplePage.entries, IsWritableEntry e := by
    intro e he
    obtain rfl := List.mem_singleton.1 he
    have htime : ∀ t ∈ some (⟨2009, 10, 12, 17, 50, 30, 250000, some 0⟩ : DateTime), t.IsMilli := by
      intro t ht
      obtain rfl := Option.some.inj ht
      exact ⟨by constructor <;> decide, rfl, rfl⟩
    exact ⟨by decide, ⟨1024, rfl, by decide⟩, htime, by decide, by decide, by decide⟩
  have hspace : ∀ s ∈ some "http://s3.amazonaws.com/doc/2006-03-01/", Written.IsSpace s := by
    intro s hs
    obtain rfl := Option.some.inj hs
    exact ⟨by decide, by decide, by decide⟩
  have hcount : ∀ i ∈ samplePage.maxKeys, IsCount i := by
    intro i hi
    obtain rfl := Option.some.inj hi
    exact ⟨2, rfl, by decide⟩
  exact decode_pageDocument rfl rfl
    ⟨by decide, by decide, by decide, by decide, by decide, hcount, hentry, by decide⟩ hspace rfl

end CloudClient
