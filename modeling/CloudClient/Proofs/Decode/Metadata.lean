import CloudClient.Decode
import CloudClient.Proofs.Decode.Header
import CloudClient.Proofs.Request.Metadata
import CloudClient.Proofs.Text.Recased
import CloudClient.Proofs.Text.Split

/-!
# User metadata that comes back

The metadata of an object is sent in headers of its own, and comes back among the headers of the
object in whatever order, and with names in whatever case, the service writes them. Main statement:
what is read of such headers is the metadata under lowered names, where the last of several names
that differ in case alone counts.
-/

namespace CloudClient

namespace Header

/-! ## Headers with metadata -/

/-- The header holds user metadata: its name begins with the mark, in whatever case. -/
def isMetadata (p : String × String) : Bool := metadataMark.isPrefixOf (Text.lower p.1.toList)

/-- The piece of user metadata that a header holds. -/
def metadataPiece? : String × String → Option (String × String)
  | (name, value) =>
    (Text.dropFront? metadataMark (Text.lower name.toList)).map fun rest =>
      (String.ofList rest, value)

/-- A header comes back with its value and its name in some case. -/
structure ComesBack (p q : String × String) : Prop where
  name : Text.Recased p.1 q.1
  value : p.2 = q.2

/-- The headers of a service echo those that were sent: those with metadata come back in some order,
among any others. -/
def Echoes (sent : Headers) (h : ResponseHeaders) : Prop :=
  ∃ l, (sent.entries.filter isMetadata).Perm l ∧ List.Forall₂ ComesBack l (h.filter isMetadata)

/-- The length and the date of an object can be read where headers tell them. -/
structure IsReadable (h : ResponseHeaders) : Prop where
  length : ¬HasFalseLength h
  date : ∃ time, date (h.first? "Last-Modified") = .ok time

variable {h : ResponseHeaders} {l : List (String × String)} {p q : String × String}

/-- User metadata is made of the pieces of the headers. -/
theorem userMetadata_eq (h : ResponseHeaders) :
    userMetadata h = .ofList (h.filterMap metadataPiece?) := rfl

/-- Other headers hold no piece. -/
theorem isMetadata_of_metadataPiece? {e : String × String} (hp : metadataPiece? p = some e) :
    isMetadata p = true := by
  obtain ⟨rest, hrest, -⟩ := Option.map_eq_some_iff.1 hp
  rw [isMetadata, Text.dropFront?_eq_some_iff.1 hrest, List.isPrefixOf_iff_prefix]
  exact List.prefix_append _ _

/-- Only the headers with metadata are read. -/
theorem filterMap_filter_isMetadata (h : ResponseHeaders) :
    (h.filter isMetadata).filterMap metadataPiece? = h.filterMap metadataPiece? := by
  rw [List.filterMap_filter]
  refine List.filterMap_congr fun p _ => ?_
  by_cases hp : isMetadata p = true
  · rw [if_pos hp]
  · have hnone : metadataPiece? p = none :=
      Option.eq_none_iff_forall_ne_some.2 fun e he => hp (isMetadata_of_metadataPiece? he)
    rw [if_neg hp, hnone]

/-- The piece of a header that comes back is the one that was sent. -/
theorem ComesBack.metadataPiece?_eq (hpq : ComesBack p q) :
    metadataPiece? p = metadataPiece? q := by
  have hname : Text.lower p.1.toList = Text.lower q.1.toList :=
    String.ofList_inj.1 (Text.lowered_congr hpq.name)
  obtain ⟨name, value⟩ := p
  obtain ⟨name', value'⟩ := q
  obtain rfl : value = value' := hpq.value
  rw [metadataPiece?, metadataPiece?, hname]

/-- Headers that come back one by one hold the same pieces. -/
theorem filterMap_of_comesBack {m : List (String × String)} (hback : List.Forall₂ ComesBack l m) :
    l.filterMap metadataPiece? = m.filterMap metadataPiece? := by
  induction hback with
  | nil => rfl
  | cons hpq _ ih => rw [List.filterMap_cons, List.filterMap_cons, hpq.metadataPiece?_eq, ih]

end Header

open Header StorageRequest

/-! ## Metadata that was sent -/

variable {metadata : Dict String}

/-- A piece of metadata is read of the header of its name. -/
theorem metadataPiece?_lowered (name value : String) :
    metadataPiece? ("x-amz-meta-" ++ Text.lowered name, value) =
      some (Text.lowered name, value) := by
  have hname : ("x-amz-meta-" ++ Text.lowered name).toList =
      metadataMark ++ Text.lower name.toList := by
    rw [String.toList_append, Text.lowered, String.toList_ofList (l := Text.lower name.toList)]
    rfl
  have hmark : (metadataMark.all fun c => decide (Text.IsSmall c)) = true := by decide
  -- The name is lowered again when it is read, which changes nothing.
  have hsmall : ∀ c ∈ metadataMark ++ Text.lower name.toList, Text.IsSmall c := by
    intro c hc
    rcases List.mem_append.1 hc with hc | hc
    · exact of_decide_eq_true (List.all_eq_true.1 hmark c hc)
    · exact Text.isSmall_of_mem_lower hc
  rw [metadataPiece?, hname, Text.lower_eq_self hsmall, Text.dropFront?_append]
  rfl

/-- Metadata is read under its lowered names. -/
theorem metadataPiece?_of_mem {p : String × String}
    (hp : p ∈ (Signature.lowered metadata).entries) :
    metadataPiece? ("x-amz-meta-" ++ p.1, p.2) = some p := by
  obtain ⟨name, hname⟩ : ∃ name, Text.lowered name = p.1 := by
    obtain ⟨e, he, heq⟩ := List.mem_map.1 (Dict.mem_keys_ofList (List.mem_map_of_mem hp))
    obtain ⟨e', -, rfl⟩ := List.mem_map.1 he
    exact ⟨e'.1, heq⟩
  have hread := metadataPiece?_lowered name p.2
  rwa [hname] at hread

/-- **The headers of metadata hold the metadata under its lowered names.** -/
theorem filterMap_metadataEntries (metadata : Dict String) :
    (metadataEntries metadata).filterMap metadataPiece? = (Signature.lowered metadata).entries := by
  rw [metadataEntries, List.filterMap_map]
  exact (List.filterMap_congr fun p hp => metadataPiece?_of_mem hp).trans List.filterMap_some

/-- The headers with metadata of an object that is stored are those of its metadata. -/
theorem filter_isMetadata_of_put {bucket key contentType : String} {data : Payload}
    {size : Option SizeHint} {r : Request}
    (hput : (put bucket key data contentType size metadata).1 = .ok r) :
    r.headers.entries.filter isMetadata = metadataEntries metadata := by
  have htype : ¬isMetadata ("Content-Type", announcedType contentType) = true := by
    show ¬metadataMark.isPrefixOf (Text.lower "Content-Type".toList) = true
    decide
  have hall : ∀ p ∈ metadataEntries metadata, isMetadata p = true := by
    intro p hp
    obtain ⟨e, he, rfl⟩ := List.mem_map.1 hp
    exact isMetadata_of_metadataPiece? (metadataPiece?_of_mem he)
  rw [entries_of_put hput, List.filter_cons_of_neg htype, List.filter_eq_self.2 hall]

/-- **The metadata that comes back is read under its lowered names.** -/
theorem get?_userMetadata_of_echoes {sent : Headers} {h : ResponseHeaders}
    (hsent : sent.entries.filter isMetadata = metadataEntries metadata) (hechoes : Echoes sent h)
    (name : String) : (userMetadata h).get? name = (Signature.lowered metadata).get? name := by
  obtain ⟨l, hperm, hback⟩ := hechoes
  rw [hsent] at hperm
  have hpieces : (Signature.lowered metadata).entries.Perm (h.filterMap metadataPiece?) := by
    rw [← filterMap_metadataEntries, ← filterMap_filter_isMetadata h,
      ← filterMap_of_comesBack hback]
    exact hperm.filterMap _
  -- The lowered names are distinct, so that no piece takes the place of another one, whatever the
  -- order.
  have hnodup : ((h.filterMap metadataPiece?).map (·.1)).Nodup :=
    (hpieces.map _).nodup_iff.1 (Signature.lowered metadata).nodup
  have hentries : (userMetadata h).entries.Perm (Signature.lowered metadata).entries := by
    rw [userMetadata_eq, Dict.entries_ofList hnodup]
    exact hpieces.symm
  exact Dict.get?_of_perm hentries name

/-! ## Objects that are read -/

/-- The answers about an object tell its properties: that it has not changed, what it holds, and its
properties alone. -/
structure Response.Tells (r : Response) (info : ObjectInfo) : Prop where
  unchanged : ∀ c : CallInfo, r.status = 304 → c.operation = .get →
    decode c r = .ok (.ok (.get c.bucket c.key info .notModified r.requestId))
  got : ∀ c : CallInfo, r.isOk = true → c.operation = .get → ∃ content,
    decode c r = .ok (.ok (.get c.bucket c.key info content r.requestId))
  head : ∀ c : CallInfo, r.isOk = true → c.operation = .head →
    decode c r = .ok (.ok (.head c.bucket c.key info r.requestId))

/-- **Readable headers tell the properties of an object**, its metadata among them. -/
theorem exists_objectInfo {h : ResponseHeaders} (hreadable : IsReadable h) :
    ∃ info, objectInfo h = .ok info ∧ info.userMetadata = userMetadata h := by
  obtain ⟨time, htime⟩ := hreadable.date
  cases hlength : contentLength h with
  | error e => exact absurd ((contentLength_fails_iff h).1 ⟨e, hlength⟩) hreadable.length
  | ok length =>
    rw [objectInfo, hlength, htime]
    exact ⟨_, rfl, rfl⟩

/-- The answers with headers that can be read tell what is read of them. -/
theorem Response.tells_of_objectInfo {info : ObjectInfo} {r : Response}
    (hinfo : objectInfo r.headers = .ok info) : r.Tells info := by
  have hgood : ∀ c : CallInfo, r.isOk = true →
      decode c r = (Decode.result c r).map fun result => result.bind (Decode.checked c) := by
    intro c hok
    have hstatus : ¬(r.status = 304 ∧ c.operation = .get) := by
      rintro ⟨hstatus, -⟩
      rw [Response.isOk, hstatus] at hok
      cases hok
    rw [decode, if_neg hstatus, hok]
    rfl
  have hread : ∀ (c : CallInfo) (make : ObjectInfo → Result),
      Decode.ofHeaders c r make = .ok (.ok (make info)) := by
    intro c make
    rw [Decode.ofHeaders, hinfo]
  constructor
  · intro c hstatus hget
    rw [decode, if_pos ⟨hstatus, hget⟩, hinfo]
    rfl
  · intro c hok hget
    rw [hgood c hok, Decode.result, hget]
    dsimp only
    rw [hread]
    exact ⟨_, rfl⟩
  · intro c hok hhead
    rw [hgood c hok, Decode.result, hhead]
    dsimp only
    rw [hread]
    rfl

/-- **User metadata survives the round trip.** Metadata with names is stored wherever an object is
stored without metadata. When a service echoes the headers that were sent, in whatever order and
with names in whatever case, among any other headers in which the length and the date can be read,
then the properties that are read of them hold under each name in lower case the last value that was
given under it, and nothing else; and so do the answers that the object has not changed, of what it
holds, and of its properties. -/
theorem metadata_survives_round_trip {bucket key contentType : String} {data : Payload}
    {size : Option SizeHint} {metadata : Dict String} {bare : Request} (hnamed : "" ∉ metadata.keys)
    (hbare : (put bucket key data contentType size .empty).1 = .ok bare) :
    ∃ r, (put bucket key data contentType size metadata).1 = .ok r ∧
      ∀ h : ResponseHeaders, Echoes r.headers h → IsReadable h →
        ∃ info, objectInfo h = .ok info ∧
          (∀ name, info.userMetadata.get? name =
            ((metadata.entries.filter fun p => Text.lowered p.1 = name).map (·.2)).getLast?) ∧
          ∀ response : Response, response.headers = h → response.Tells info := by
  obtain ⟨r, hr⟩ := exists_put_of_named hbare hnamed
  refine ⟨r, hr, ?_⟩
  intro h hechoes hreadable
  obtain ⟨info, hinfo, hmetadata⟩ := exists_objectInfo hreadable
  refine ⟨info, hinfo, ?_, ?_⟩
  · intro name
    rw [hmetadata, get?_userMetadata_of_echoes (filter_isMetadata_of_put hr) hechoes,
      Signature.lowered, Dict.get?_ofList, List.filter_map, List.map_map]
    rfl
  · rintro response rfl
    exact Response.tells_of_objectInfo hinfo

/-- Metadata with one name in two cases and with a name that begins like its header. -/
def shades : Dict String := .ofList [("Color", "red"), ("COLOR", "blue"), ("x-amz-meta-a", "é")]

/-- Headers with this metadata, in another order and case. -/
def echoedShades : ResponseHeaders :=
  [("X-AMZ-META-X-Amz-Meta-A", "é"), ("Content-Length", "3"), ("X-Amz-Meta-Color", "blue")]

/-- The shades come back under their names in lower case. -/
theorem shades_come_back :
    "" ∉ shades.keys ∧ (∃ bare, (put "photos" "k" (.bytes []) "" none .empty).1 = .ok bare) ∧
      ∃ r info, (put "photos" "k" (.bytes []) "" none shades).1 = .ok r ∧
        Echoes r.headers echoedShades ∧
        IsReadable echoedShades ∧ objectInfo echoedShades = .ok info ∧
        info.userMetadata.get? "color" = some "blue" ∧
        info.userMetadata.get? "x-amz-meta-a" = some "é" ∧
        Response.Tells { status := 304, headers := echoedShades } info := by
  have hnamed : "" ∉ shades.keys := by decide
  obtain ⟨bare, hbare⟩ :
      ∃ bare, (put "photos" "k" (.bytes []) "" none .empty).1 = .ok bare := ⟨_, rfl⟩
  obtain ⟨r, hr, hall⟩ := metadata_survives_round_trip hnamed hbare
  have hechoes : Echoes r.headers echoedShades := by
    refine ⟨[("x-amz-meta-x-amz-meta-a", "é"), ("x-amz-meta-color", "blue")], ?_, ?_⟩
    · rw [filter_isMetadata_of_put hr]
      decide
    · exact .cons ⟨by decide, rfl⟩ (.cons ⟨by decide, rfl⟩ .nil)
  have hreadable : IsReadable echoedShades := by
    refine ⟨fun hfalse => ?_, none, rfl⟩
    obtain ⟨e, he⟩ := (contentLength_fails_iff echoedShades).2 hfalse
    cases he
  obtain ⟨info, hinfo, hmetadata, htells⟩ := hall echoedShades hechoes hreadable
  refine ⟨hnamed, ⟨bare, hbare⟩, r, info, hr, hechoes, hreadable, hinfo, ?_, ?_, htells _ rfl⟩
  · rw [hmetadata]
    decide
  · rw [hmetadata]
    decide

end CloudClient
