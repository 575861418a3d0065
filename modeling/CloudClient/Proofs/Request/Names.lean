import CloudClient.Proofs.Dict
import CloudClient.Proofs.Request.Repetition
import CloudClient.Proofs.Text.Case

/-!
# Names of headers and keys of queries

The names of headers are compared in lower case, and signing writes headers of its own. Main
statement: in the requests of the services the names differ in more than case, from each other and
from those that signing writes, and no key of a query is empty; no parameter of a form is named like
a signature.
-/

namespace CloudClient

namespace Request

/-- The names in lower case of the headers that signing writes. -/
def signingNames : List String :=
  ["x-amz-date", "x-amz-content-sha256", "x-amz-security-token", "authorization",
    "content-length", "host"]

/-- The names of headers differ in more than case, from each other and from those that signing
writes, and no key of the query is empty. -/
structure HasPlainNames (r : Request) : Prop where
  distinct : (r.headers.keys.map Text.lowered).Nodup
  free : ∀ k ∈ r.headers.keys, Text.lowered k ∉ signingNames
  keys : "" ∉ r.query.keys

/-- No parameter of the form or the query is named like a signature, or has no name. -/
structure HasPlainParameters (r : Request) : Prop where
  form : ∀ form, r.form = some form → ∀ k ∈ form.keys, k ≠ "" ∧ k ≠ "Signature"
  query : ∀ k ∈ r.query.keys, k ≠ "" ∧ k ≠ "Signature"

/-- A request that one of the services is asked. -/
inductive IsBuilt : Request → Prop where
  | storage {call : StorageCall} {region : Option String} {r : Request}
      (h : call.request region = .ok r) : IsBuilt r
  | queue {call : QueueCall} {version : String} {r : Request}
      (h : call.request version = .ok r) : IsBuilt r

variable {r : Request}

/-- Without headers and without a query there is nothing to tell apart. -/
theorem HasPlainNames.of_empty (hheaders : r.headers = .empty) (hquery : r.query = .empty) :
    r.HasPlainNames := by
  refine ⟨?_, ?_, ?_⟩
  · rw [hheaders]
    exact List.nodup_nil
  · rw [hheaders]
    intro k hk
    cases hk
  · rw [hquery]
    exact List.not_mem_nil

/-- A single header is told apart when its name is not one that signing writes. -/
theorem HasPlainNames.of_single {name value : String}
    (hheaders : r.headers = .ofList [(name, value)]) (hfree : Text.lowered name ∉ signingNames)
    (hquery : r.query = .empty) : r.HasPlainNames := by
  refine ⟨?_, ?_, ?_⟩
  · rw [hheaders]
    show [Text.lowered name].Nodup
    simp
  · rw [hheaders]
    intro k hk
    obtain rfl := List.mem_singleton.1 hk
    exact hfree
  · rw [hquery]
    exact List.not_mem_nil

end Request

namespace StorageRequest

/-! ## User metadata -/

/-- The header of a piece of metadata is written in lower case. -/
theorem lowered_metadataHeader (name : String) :
    Text.lowered (metadataHeader name) = metadataHeader name := by
  have hsmall : ∀ c ∈ (metadataHeader name).toList, Text.IsSmall c := by
    intro c hc
    rw [metadataHeader, String.toList_append, List.mem_append] at hc
    rcases hc with hc | hc
    · have hall : ("x-amz-meta-".toList.all fun c => decide (Text.IsSmall c)) = true := by decide
      exact of_decide_eq_true (List.all_eq_true.1 hall c hc)
    · rw [Text.lowered, String.toList_ofList] at hc
      exact Text.isSmall_of_mem_lower hc
  rw [Text.lowered, Text.lower_eq_self hsmall, String.ofList_toList]

/-- The header of a piece of metadata begins with a prefix that no other header has. -/
theorem take_metadataHeader (name : String) :
    (metadataHeader name).toList.take 11 = "x-amz-meta-".toList := by
  rw [metadataHeader, String.toList_append]
  exact List.take_left' rfl

/-- The header of a piece of metadata is none that signing writes. -/
theorem metadataHeader_not_mem (name : String) : metadataHeader name ∉ Request.signingNames := by
  have hother : ∀ n ∈ Request.signingNames, n.toList.take 11 ≠ "x-amz-meta-".toList := by decide
  intro hmem
  exact hother _ hmem (take_metadataHeader name)

/-- Metadata is written under headers of its own. -/
theorem mem_keys_withMetadata {l : List (String × String)} {headers out : Headers}
    (h : withMetadata headers l = .ok out) {k : String} (hk : k ∈ out.keys) :
    k ∈ headers.keys ∨ ∃ name, k = metadataHeader name := by
  induction l generalizing headers with
  | nil =>
    cases h
    exact .inl hk
  | cons p l ih =>
    unfold withMetadata at h
    split at h
    · cases h
    · rcases ih h with hk | hk
      · rw [Dict.keys_put] at hk
        split at hk
        · exact .inl hk
        · rcases List.mem_append.1 hk with hk | hk
          · exact .inl hk
          · exact .inr ⟨p.1, List.mem_singleton.1 hk⟩
      · exact .inr hk

/-- An object is stored under its type of content and its metadata, without a query. -/
theorem headers_of_put {bucket key contentType : String} {data : Payload}
    {size : Option SizeHint} {metadata : Dict String} {r : Request}
    (h : (put bucket key data contentType size metadata).1 = .ok r) :
    r.query = .empty ∧
      ∀ k ∈ r.headers.keys, k = "Content-Type" ∨ ∃ name, k = metadataHeader name := by
  unfold put at h
  split at h
  · cases h
  · obtain ⟨body, -, h⟩ := exists_of_bind_eq_ok h
    obtain ⟨headers, hheaders, h⟩ := exists_of_bind_eq_ok h
    cases h
    refine ⟨rfl, ?_⟩
    intro k hk
    exact (mem_keys_withMetadata hheaders hk).imp_left List.mem_singleton.1

/-- **Metadata is told apart by its lowered names.** -/
theorem hasPlainNames_put {bucket key contentType : String} {data : Payload}
    {size : Option SizeHint} {metadata : Dict String} {r : Request}
    (h : (put bucket key data contentType size metadata).1 = .ok r) : r.HasPlainNames := by
  obtain ⟨hquery, hkeys⟩ := headers_of_put h
  have hcontent : ∀ name, Text.lowered "Content-Type" ≠ metadataHeader name := by
    have hother : (Text.lowered "Content-Type").toList.take 11 ≠ "x-amz-meta-".toList := by decide
    intro name heq
    rw [heq] at hother
    exact hother (take_metadataHeader name)
  refine ⟨?_, ?_, ?_⟩
  · rw [List.nodup_iff_pairwise_ne, List.pairwise_map]
    apply (List.nodup_iff_pairwise_ne.1 r.headers.keys_nodup).imp_of_mem
    intro a b ha hb hne
    -- The type of content has no prefix of metadata, and headers of metadata are in lower case.
    rcases hkeys a ha with rfl | ⟨x, rfl⟩
    · rcases hkeys b hb with rfl | ⟨y, rfl⟩
      · exact absurd rfl hne
      · rw [lowered_metadataHeader]
        exact hcontent y
    · rcases hkeys b hb with rfl | ⟨y, rfl⟩
      · rw [lowered_metadataHeader]
        exact (hcontent x).symm
      · rw [lowered_metadataHeader, lowered_metadataHeader]
        exact hne
  · intro k hk
    rcases hkeys k hk with rfl | ⟨name, rfl⟩
    · decide
    · rw [lowered_metadataHeader]
      exact metadataHeader_not_mem name
  · rw [hquery]
    exact List.not_mem_nil

end StorageRequest

namespace StorageCall

/-- A query of given texts has the keys that they are given under. -/
theorem mem_keys_givenQuery {entries : List (String × Option String)} {k : String}
    (h : k ∈ (StorageRequest.givenQuery entries).keys) : k ∈ entries.map (·.1) := by
  obtain ⟨p, hp, rfl⟩ := List.mem_map.1 (Dict.mem_keys_ofList h)
  obtain ⟨e, he, heq⟩ := List.mem_filterMap.1 hp
  obtain ⟨s, -, rfl⟩ := Option.map_eq_some_iff.1 heq
  exact List.mem_map.2 ⟨e, he, rfl⟩

/-- The requests of the storage service have plain names. -/
theorem hasPlainNames {call : StorageCall} {region : Option String} {r : Request}
    (h : call.request region = .ok r) : r.HasPlainNames := by
  cases call with
  | put bucket key data contentType size metadata => exact StorageRequest.hasPlainNames_put h
  | listAllBuckets =>
    cases h
    exact .of_empty rfl rfl
  | createBucket bucket =>
    obtain ⟨_, -, h⟩ := exists_of_bind_eq_ok h
    dsimp only at h
    split at h
    · cases h
      exact .of_empty rfl rfl
    · obtain ⟨_, -, h⟩ := exists_of_bind_eq_ok h
      cases h
      exact .of_single rfl (by decide) rfl
  | listBucket bucket keyPrefix marker maxKeys delimiter =>
    obtain ⟨_, -, h⟩ := exists_of_bind_eq_ok h
    obtain ⟨_, -, h⟩ := exists_of_bind_eq_ok h
    cases h
    refine ⟨List.nodup_nil, ?_, ?_⟩
    · intro k hk
      cases hk
    · intro hk
      have hmem : "" ∈ ["prefix", "marker", "delimiter", "max-keys"] := mem_keys_givenQuery hk
      revert hmem
      decide
  | get bucket key oldTag live =>
    obtain ⟨_, -, h⟩ := exists_of_bind_eq_ok h
    dsimp only at h
    split at h
    · cases h
      exact .of_empty rfl rfl
    · cases h
      exact .of_single rfl (by decide) rfl
  | deleteBucket bucket | delete bucket key | head bucket key =>
    obtain ⟨_, -, h⟩ := exists_of_bind_eq_ok h
    cases h
    exact .of_empty rfl rfl

end StorageCall

namespace QueueCall

/-- The requests of the queue service have plain names: a form travels with its type alone. -/
theorem hasPlainNames {call : QueueCall} {version : String} {r : Request}
    (h : call.request version = .ok r) : r.HasPlainNames := by
  obtain ⟨operation, path, resource, fields, -, rfl⟩ := exists_form h
  exact .of_single rfl (by decide) rfl

/-- The requests of the queue service are forms with plain parameters. -/
theorem hasPlainParameters {call : QueueCall} {version : String} {r : Request}
    (h : call.request version = .ok r) : r.form.isSome = true ∧ r.HasPlainParameters := by
  obtain ⟨operation, path, resource, fields, hfields, rfl⟩ := exists_form h
  refine ⟨rfl, ?_, ?_⟩
  · rintro form hform k hk
    obtain rfl := Option.some.inj hform
    have hname : k ∈ ["Action", "Version"] ∨ QueueRequest.IsFieldName k := by
      obtain ⟨p, hp, rfl⟩ := List.mem_map.1 (Dict.mem_keys_ofList hk)
      rcases List.mem_append.1 hp with hp | hp
      · exact .inl (List.mem_map_of_mem hp)
      · exact .inr (hfields p hp)
    have hknown : ∀ n ∈ ["Action", "Version"] ++ QueueRequest.fieldNames,
        n ≠ "" ∧ n ≠ "Signature" := by decide
    rcases hname with hname | hname | ⟨i, rfl⟩
    · exact hknown k (List.mem_append_left _ hname)
    · exact hknown k (List.mem_append_right _ hname)
    · -- a numbered name begins as neither of the two
      constructor
      · intro hempty
        have hlength := congrArg (fun s : String => s.toList.take 1) hempty
        simp [toString] at hlength
      · intro hsignature
        have hbegin := congrArg (fun s : String => s.toList.take 1) hsignature
        simp [toString] at hbegin
  · intro k hk
    cases hk

end QueueCall

/-- **The requests of both services have plain names.** -/
theorem Request.IsBuilt.hasPlainNames {r : Request} (h : r.IsBuilt) : r.HasPlainNames := by
  cases h with
  | storage h => exact StorageCall.hasPlainNames h
  | queue h => exact QueueCall.hasPlainNames h

end CloudClient
