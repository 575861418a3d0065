import CloudClient.Connection.Storage
import CloudClient.Proofs.Signature.Signed
import CloudClient.Proofs.Text.Utf8
import CloudClient.Proofs.Uri.DotSegments
import CloudClient.Proofs.Wire

/-!
# Addresses of the storage service

A request to the storage service is about the service, a bucket or an object, and its path says
which. Main statement: the paths under which requests are sent are the same exactly when the
requests are about the same, each is read back as what its request is about, and none of them has a
dot segment for a reader to remove.
-/

namespace CloudClient

/-- What a request to the storage service is about. -/
inductive StorageAddress where
  | service
  | bucket (name : String)
  | object (bucket key : String)
  deriving DecidableEq, Repr

/-- What a call of the storage service is about. -/
def StorageCall.address : StorageCall → StorageAddress
  | listAllBuckets => .service
  | createBucket b | deleteBucket b | listBucket b .. => .bucket b
  | put b k .. | get b k .. | delete b k | head b k => .object b k

namespace StorageAddress

/-- The path of an address. -/
def path : StorageAddress → String
  | service => "/"
  | bucket b => "/" ++ b
  | object b k => s!"/{b}/{k}"

/-- The bucket of an address has a name, which holds no slash. -/
def HasBucket : StorageAddress → Prop
  | service => True
  | bucket b | object b _ => b ≠ "" ∧ '/' ∉ b.toList

/-- The address that a path stands for: what follows the leading slash is the bucket up to the first
slash, and then the key. -/
def ofPath? : List Char → Option StorageAddress
  | '/' :: rest =>
    match Text.cut '/' rest with
    | (b, some k) => some (.object (String.ofList b) (String.ofList k))
    | (b, none) => some (if b = [] then .service else .bucket (String.ofList b))
  | _ => none

/-- The address that the path of a locator stands for. -/
def ofWritten? (written : List Char) : Option StorageAddress :=
  (Percent.decode? written).bind ofPath?

/-- **A path is read as the address that it was made of.** -/
theorem ofPath?_path {a : StorageAddress} (h : a.HasBucket) : ofPath? a.path.toList = some a := by
  cases a with
  | service => rfl
  | bucket b =>
    obtain ⟨hne, hslash⟩ := h
    have hpath : (path (bucket b)).toList = '/' :: b.toList := by simp [path, String.toList_append]
    have hchars : b.toList ≠ [] := fun hnil => hne (String.toList_inj.1 hnil)
    rw [hpath, ofPath?, Text.cut_of_not_mem hslash]
    dsimp only
    rw [if_neg hchars, String.ofList_toList]
  | object b k =>
    obtain ⟨-, hslash⟩ := h
    have hpath : (path (object b k)).toList = '/' :: (b.toList ++ '/' :: k.toList) := by
      simp [path, toString, String.toList_append]
    rw [hpath, ofPath?, Text.cut_append_sep hslash]
    dsimp only
    rw [String.ofList_toList, String.ofList_toList]

/-- An encoded path is read as the address that it was made of. -/
theorem ofWritten?_path {a : StorageAddress} (h : a.HasBucket) :
    ofWritten? (Percent.path a.path).toList = some a := by
  rw [ofWritten?, Percent.path, String.toList_ofList, Percent.decode?_encode (by decide)]
  exact ofPath?_path h

/-- **Addresses have the same encoded path exactly when they are the same.** -/
theorem path_eq_iff {a b : StorageAddress} (ha : a.HasBucket) (hb : b.HasBucket) :
    (Percent.path a.path).toList = (Percent.path b.path).toList ↔ a = b := by
  constructor
  · intro h
    have hread := ofWritten?_path ha
    rw [h, ofWritten?_path hb] at hread
    exact (Option.some.inj hread).symm
  · rintro rfl
    rfl

end StorageAddress

/-! ## Paths of requests -/

namespace Name

/-- A bucket that is accepted has a name, which holds no slash. -/
theorem of_checkBucket {name : String} (h : checkBucket name = .ok ()) :
    name ≠ "" ∧ '/' ∉ name.toList := by
  unfold checkBucket at h
  split at h
  · cases h
  · rename_i hempty
    split at h
    · cases h
    · rename_i hslash
      refine ⟨?_, ?_⟩
      · rintro rfl
        exact hempty rfl
      · intro hmem
        exact hslash (List.contains_iff_mem.2 hmem)

end Name

namespace StorageRequest

/-- An object that is accepted has a bucket. -/
theorem hasBucket_of_checkObject {bucket key : String} (h : checkObject bucket key = .ok ()) :
    (StorageAddress.object bucket key).HasBucket := by
  obtain ⟨_, hbucket, -⟩ := exists_of_bind_eq_ok h
  exact Name.of_checkBucket hbucket

/-- An object is stored under its path. -/
theorem path_of_put {bucket key contentType : String} {data : Payload} {size : Option SizeHint}
    {metadata : Dict String} {r : Request}
    (h : (put bucket key data contentType size metadata).1 = .ok r) :
    r.path = (StorageAddress.object bucket key).path ∧
      (StorageAddress.object bucket key).HasBucket := by
  unfold put at h
  split at h
  · cases h
  · rename_i hobject
    obtain ⟨body, -, h⟩ := exists_of_bind_eq_ok h
    obtain ⟨headers, -, h⟩ := exists_of_bind_eq_ok h
    cases h
    exact ⟨rfl, hasBucket_of_checkObject hobject⟩

end StorageRequest

/-- **A request has the path of what its call is about**, with an accepted bucket. -/
theorem StorageCall.path_of_request {call : StorageCall} {region : Option String} {r : Request}
    (h : call.request region = .ok r) : r.path = call.address.path ∧ call.address.HasBucket := by
  cases call with
  | createBucket bucket =>
    obtain ⟨_, hbucket, h⟩ := exists_of_bind_eq_ok h
    refine ⟨?_, Name.of_checkBucket hbucket⟩
    dsimp only at h
    split at h
    · cases h
      rfl
    · obtain ⟨_, -, h⟩ := exists_of_bind_eq_ok h
      cases h
      rfl
  | listAllBuckets =>
    cases h
    exact ⟨rfl, trivial⟩
  | deleteBucket bucket =>
    obtain ⟨_, hbucket, h⟩ := exists_of_bind_eq_ok h
    cases h
    exact ⟨rfl, Name.of_checkBucket hbucket⟩
  | listBucket bucket keyPrefix marker maxKeys delimiter =>
    obtain ⟨_, hbucket, h⟩ := exists_of_bind_eq_ok h
    obtain ⟨_, -, h⟩ := exists_of_bind_eq_ok h
    cases h
    exact ⟨rfl, Name.of_checkBucket hbucket⟩
  | put bucket key data contentType size metadata => exact StorageRequest.path_of_put h
  | get bucket key oldTag live =>
    obtain ⟨_, hobject, h⟩ := exists_of_bind_eq_ok h
    refine ⟨?_, StorageRequest.hasBucket_of_checkObject hobject⟩
    dsimp only at h
    split at h
    · cases h
      rfl
    · cases h
      rfl
  | delete bucket key | head bucket key =>
    obtain ⟨_, hobject, h⟩ := exists_of_bind_eq_ok h
    cases h
    exact ⟨rfl, StorageRequest.hasBucket_of_checkObject hobject⟩

/-! ## Segments of encoded paths -/

namespace Percent

/-- A slash stands in an encoded text only where it stands in the text. -/
theorem slash_mem_of_mem_encode {s : List Char} (h : '/' ∈ encode ['/'] s) : '/' ∈ s := by
  obtain ⟨b, hb, hmem⟩ := List.mem_flatMap.1 h
  have hlt : b.toNat < 256 := b.toNat_lt
  have hdigit : ∀ n < 16, hexDigit n ≠ '/' := by decide
  unfold encodeByte at hmem
  split at hmem
  · rename_i hkept
    have hbyte : b.toNat = '/'.toNat := by
      rw [List.mem_singleton.1 hmem, toNat_ofNat (lt_of_isKept hkept)]
    apply Utf8.mem_of_byte_mem_encode (by decide)
    rwa [← hbyte, UInt8.ofNat_toNat]
  · rcases List.mem_cons.1 hmem with heq | hmem
    · cases heq
    · rcases List.mem_cons.1 hmem with heq | hmem
      · exact absurd heq.symm (hdigit _ (by omega))
      · exact absurd (List.mem_singleton.1 hmem).symm (hdigit _ (by omega))

/-- A path is encoded segment by segment. -/
theorem encode_flatMap (segments : List (List Char)) :
    encode ['/'] (segments.flatMap (List.cons '/')) =
      (segments.map (encode ['/'])).flatMap (List.cons '/') := by
  induction segments with
  | nil => rfl
  | cons s segments ih =>
    rw [List.flatMap_cons, List.map_cons, List.flatMap_cons, encode_append, ih]
    exact congrArg (· ++ _) (encode_append ['/'] ['/'] s)

/-- Texts are encoded apart. -/
theorem encode_inj {s t : List Char} (h : encode ['/'] s = encode ['/'] t) : s = t := by
  have hs := decode?_encode (by decide : '%' ∉ ['/']) s
  rw [h, decode?_encode (by decide)] at hs
  exact (Option.some.inj hs).symm

/-- Dots are encoded as themselves, and nothing else is encoded as dots. -/
theorem isDots_encode (s : List Char) : Uri.isDots (encode ['/'] s) = Uri.isDots s := by
  have hdot : encode ['/'] ['.'] = ['.'] := by decide
  have hdots : encode ['/'] ['.', '.'] = ['.', '.'] := by decide
  have hiff : ∀ {t}, encode ['/'] t = t → (encode ['/'] s = t ↔ s = t) := by
    intro t ht
    constructor
    · intro h
      exact encode_inj (h.trans ht.symm)
    · rintro rfl
      exact ht
  rw [Uri.isDots, Uri.isDots, Bool.eq_iff_iff, Bool.or_eq_true, Bool.or_eq_true, beq_iff_eq,
    beq_iff_eq, beq_iff_eq, beq_iff_eq, hiff hdot, hiff hdots]

end Percent

/-- A path that can be signed begins with a slash, and none of its segments is dots. -/
theorem Signature.segments_of_checkPath {path : String} (h : checkPath path = .ok ()) :
    ∃ rest, path.toList = '/' :: rest ∧ ∀ s ∈ Text.pieces '/' rest, Uri.isDots s = false := by
  unfold checkPath at h
  dsimp only at h
  split at h
  · rename_i rest hrest
    split at h
    · cases h
    · split at h
      · cases h
      · rename_i hdots
        refine ⟨rest, hrest, fun s hs => ?_⟩
        exact Bool.eq_false_iff.2 fun hsome => hdots (List.any_eq_true.2 ⟨s, hs, hsome⟩)
  · cases h

/-- **A path that can be signed is sent without dot segments.** -/
theorem removeDotSegments_path {path : String} (h : Signature.checkPath path = .ok ()) :
    Uri.removeDotSegments (Percent.path path).toList = (Percent.path path).toList := by
  obtain ⟨rest, hrest, hdots⟩ := Signature.segments_of_checkPath h
  rw [Percent.path, String.toList_ofList, hrest, Text.cons_eq_flatMap_pieces '/' rest,
    Percent.encode_flatMap]
  apply Uri.removeDotSegments_eq_self
  intro s hs
  obtain ⟨p, hp, rfl⟩ := List.mem_map.1 hs
  refine ⟨?_, ?_⟩
  · intro hslash
    exact Text.sep_not_mem_of_mem_pieces hp (Percent.slash_mem_of_mem_encode hslash)
  · rw [Percent.isDots_encode]
    exact hdots p hp

/-! ## Paths of locators -/

namespace Wire

/-- The path of an absolute locator, as it is written there. -/
def writtenPath? (url : String) : Option (List Char) := do
  let rest ← (Text.cut ':' url.toList).2
  return (Text.cut '?' (Text.cut '#' (Uri.cutAuthority rest).2).1).1

/-- A locator has the encoded path that it was made of. -/
theorem writtenPath?_of_locator {endpoint : Endpoint} {url path : String} {q : Query}
    {rest : List Char} (hpath : path.toList = '/' :: rest)
    (h : Signature.locator endpoint path q = .ok url) :
    writtenPath? url = some (Percent.path path).toList := by
  obtain ⟨scheme, hscheme, hparts⟩ := exists_of_bind_eq_ok h
  obtain ⟨host, hhost, -⟩ := exists_of_bind_eq_ok hparts
  replace hscheme := eq_ok_of_mapError hscheme
  replace hhost := eq_ok_of_mapError hhost
  rw [writtenPath?, toList_locator hscheme hhost h,
    Text.cut_append_sep (Endpoint.colon_not_mem_of_scheme hscheme)]
  rw [Option.bind_eq_bind, Option.bind_some,
    cutAuthority_path (Endpoint.not_endsAuthority_of_host hhost) hpath]
  dsimp only
  rw [Text.cut_of_not_mem (hash_not_mem path q), (cut_marked (mark_not_mem_path path) q).1]
  rfl

end Wire

/-- A signed request is sent under the encoded path of the request. -/
theorem Signer.writtenPath?_of_sign {signer : Signer} {r : Request} {credentials : Credentials}
    {endpoint : Endpoint} {time : DateTime} {q : SignedRequest}
    (h : signer.sign r credentials endpoint time = .ok q) :
    Wire.writtenPath? q.url = some (Percent.path r.path).toList := by
  obtain ⟨rest, hrest, -⟩ := Signature.segments_of_checkPath (checkPath_of_sign h)
  obtain ⟨headers, body, query, hfinish, -⟩ := exists_finish h
  obtain ⟨url, hurl, rfl⟩ := Signature.finish_eq_ok hfinish
  exact Wire.writtenPath?_of_locator hrest hurl

/-- **The path under which a request is sent tells what the request is about.** Whatever the
endpoints and the schemes for which two requests of the storage service are signed, their locators
have paths, which are the same exactly when the requests are about the same. The path, decoded and
split at the first slash after the leading one, gives the bucket and the key as they were, and
removing dot segments leaves it as it is. -/
theorem sent_path_tells_address {call call' : StorageCall} {region region' : Option String}
    {r r' : Request} {signer signer' : Signer} {credentials credentials' : Credentials}
    {endpoint endpoint' : Endpoint} {time time' : DateTime} {q q' : SignedRequest}
    (hr : call.request region = .ok r) (hq : signer.sign r credentials endpoint time = .ok q)
    (hr' : call'.request region' = .ok r')
    (hq' : signer'.sign r' credentials' endpoint' time' = .ok q') :
    ∃ path path', Wire.writtenPath? q.url = some path ∧ Wire.writtenPath? q'.url = some path' ∧
      (path = path' ↔ call.address = call'.address) ∧
      StorageAddress.ofWritten? path = some call.address ∧
      Uri.removeDotSegments path = path := by
  obtain ⟨hpath, hbucket⟩ := StorageCall.path_of_request hr
  obtain ⟨hpath', hbucket'⟩ := StorageCall.path_of_request hr'
  have hcheck := Signer.checkPath_of_sign hq
  refine ⟨_, _, Signer.writtenPath?_of_sign hq, Signer.writtenPath?_of_sign hq', ?_, ?_, ?_⟩
  · rw [hpath, hpath']
    exact StorageAddress.path_eq_iff hbucket hbucket'
  · rw [hpath]
    exact StorageAddress.ofWritten?_path hbucket
  · exact removeDotSegments_path hcheck

/-- An object whose key has a slash in it and one whose key has the encoded form of a slash are read
and removed under different paths. -/
theorem encodedSlash_is_told_apart :
    ∃ r r' q q' path path',
      StorageCall.request none (.get "photos" "a/b" none false) = .ok r ∧
        Signer.v4.sign r ⟨"id", "secret", none⟩ { url := "http://h" }
          ⟨2024, 1, 1, 0, 0, 0, 0, some 0⟩ = .ok q ∧
        StorageCall.request none (.delete "photos" "a%2Fb") = .ok r' ∧
        Signer.headerV2.sign r' ⟨"id", "secret", none⟩ { url := "http://h" }
          ⟨2024, 1, 1, 0, 0, 0, 0, some 0⟩ = .ok q' ∧
        Wire.writtenPath? q.url = some path ∧ Wire.writtenPath? q'.url = some path' ∧
          path ≠ path' := by
  obtain ⟨r, hr, q, hq⟩ : ∃ r, StorageCall.request none (.get "photos" "a/b" none false) = .ok r ∧
      ∃ q, Signer.v4.sign r ⟨"id", "secret", none⟩ { url := "http://h" }
        ⟨2024, 1, 1, 0, 0, 0, 0, some 0⟩ = .ok q := ⟨_, rfl, _, rfl⟩
  obtain ⟨r', hr', q', hq'⟩ : ∃ r', StorageCall.request none (.delete "photos" "a%2Fb") = .ok r' ∧
      ∃ q', Signer.headerV2.sign r' ⟨"id", "secret", none⟩ { url := "http://h" }
        ⟨2024, 1, 1, 0, 0, 0, 0, some 0⟩ = .ok q' := ⟨_, rfl, _, rfl⟩
  obtain ⟨path, path', hpath, hpath', hiff, -, -⟩ := sent_path_tells_address hr hq hr' hq'
  refine ⟨r, r', q, q', path, path', hr, hq, hr', hq', hpath, hpath', fun hsame => ?_⟩
  have haddress := hiff.1 hsame
  revert haddress
  decide

end CloudClient
