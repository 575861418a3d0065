import CloudClient.Proofs.Request.Names
import CloudClient.Signature.Canonical

/-!
# User metadata

The metadata of an object travels in headers of its own, under lowered names. Main statements:
metadata is refused exactly when a name in it is empty, and an object is stored under its type of
content and then its metadata, where the last of several names that differ in case alone counts.
-/

namespace CloudClient.StorageRequest

/-! ## Names of metadata -/

/-- The fault of metadata without a name. -/
def unnamedMetadata : Fault := .invalidArgument "metadata" (.text "") "empty header name"

/-- Metadata with names is written under the headers of its names. -/
theorem withMetadata_of_named {l : List (String × String)} (h : "" ∉ l.map (·.1))
    (headers : Headers) :
    withMetadata headers l = .ok (headers.putAll (l.map fun p => (metadataHeader p.1, p.2))) := by
  induction l generalizing headers with
  | nil => rfl
  | cons p l ih =>
    rw [List.map_cons, List.mem_cons, not_or] at h
    have hname : ¬p.1.isEmpty = true := by
      rw [String.isEmpty_iff]
      exact Ne.symm h.1
    rw [withMetadata, if_neg hname, ih h.2]
    rfl

/-- Metadata without a name is refused. -/
theorem withMetadata_of_unnamed {l : List (String × String)} (h : "" ∈ l.map (·.1))
    (headers : Headers) : withMetadata headers l = .error unnamedMetadata := by
  induction l generalizing headers with
  | nil => cases h
  | cons p l ih =>
    rw [withMetadata]
    by_cases hname : p.1 = ""
    · rw [if_pos (String.isEmpty_iff.2 hname), hname]
      rfl
    · rw [List.map_cons, List.mem_cons] at h
      rw [if_neg fun hempty => hname (String.isEmpty_iff.1 hempty)]
      exact ih (h.resolve_left (Ne.symm hname)) _

/-! ## Headers of an object -/

/-- The type of content that is announced. -/
def announcedType (contentType : String) : String :=
  if contentType.isEmpty then defaultContentType else contentType

/-- The headers of metadata: every lowered name once, with its last value. -/
def metadataEntries (metadata : Dict String) : List (String × String) :=
  (Signature.lowered metadata).entries.map fun p => ("x-amz-meta-" ++ p.1, p.2)

/-- A prefix tells names apart as they are. -/
theorem append_right_inj {s a b : String} (h : s ++ a = s ++ b) : a = b := by
  have hlist := congrArg String.toList h
  rw [String.toList_append, String.toList_append] at hlist
  exact String.toList_inj.1 (List.append_cancel_left hlist)

/-- The type of content is announced under a name of its own. -/
theorem contentType_ne (name : String) : "Content-Type" ≠ "x-amz-meta-" ++ name := by
  intro h
  have hbegin : "Content-Type".toList.take 1 = ("x-amz-meta-" ++ name).toList.take 1 := by rw [h]
  rw [String.toList_append, List.take_append_of_le_length (by decide)] at hbegin
  exact absurd hbegin (by decide)

/-- **The type of content comes first, and then the metadata.** -/
theorem entries_withMetadata {contentType : String} {metadata : Dict String} {out : Headers}
    (h : withMetadata (.ofList [("Content-Type", contentType)]) metadata.entries = .ok out) :
    "" ∉ metadata.keys ∧
      out.entries = ("Content-Type", contentType) :: metadataEntries metadata := by
  have hnamed : "" ∉ metadata.keys := by
    intro hmem
    rw [withMetadata_of_unnamed hmem] at h
    cases h
  rw [withMetadata_of_named hnamed] at h
  cases h
  refine ⟨hnamed, ?_⟩
  have hheaders : (metadata.entries.map fun p => (metadataHeader p.1, p.2)) =
      (metadata.entries.map fun p => (Text.lowered p.1, p.2)).map fun p =>
        ("x-amz-meta-" ++ p.1, p.2) := by
    rw [List.map_map]
    rfl
  rw [hheaders]
  exact Dict.entries_putAll_map (e := .empty) (fun _ _ => append_right_inj) contentType_ne rfl _

variable {bucket key contentType : String} {metadata : Dict String} {body : Body} {r : Request}

/-- An object without a name in its metadata is not stored. -/
theorem putBody_of_unnamed (h : "" ∈ metadata.keys) :
    putBody bucket key contentType metadata body = .error unnamedMetadata := by
  rw [putBody, withMetadata_of_unnamed h]
  rfl

/-- Any other object is stored under its body. -/
theorem putBody_of_named (bucket key contentType : String) (body : Body) (h : "" ∉ metadata.keys) :
    ∃ r, putBody bucket key contentType metadata body = .ok r ∧ r.body = body := by
  rw [putBody, withMetadata_of_named h]
  exact ⟨_, rfl, rfl⟩

/-- An object that is stored without metadata is stored with any that has names. -/
theorem exists_put_of_named {data : Payload} {size : Option SizeHint} {bare : Request}
    (hbare : (put bucket key data contentType size .empty).1 = .ok bare)
    (hnamed : "" ∉ metadata.keys) :
    ∃ r, (put bucket key data contentType size metadata).1 = .ok r := by
  unfold put at hbare ⊢
  cases hcheck : checkObject bucket key with
  | error f =>
    rw [hcheck] at hbare
    cases hbare
  | ok _ =>
    rw [hcheck] at hbare
    obtain ⟨body, hbody, -⟩ := exists_of_bind_eq_ok hbare
    obtain ⟨r, hr, -⟩ := putBody_of_named bucket key contentType body hnamed
    exact ⟨r, (bind_of_eq_ok hbody _).trans hr⟩

/-- An object is stored under its type of content and its metadata. -/
theorem entries_of_put {data : Payload} {size : Option SizeHint}
    (h : (put bucket key data contentType size metadata).1 = .ok r) :
    r.headers.entries = ("Content-Type", announcedType contentType) ::
      metadataEntries metadata := by
  unfold put at h
  split at h
  · cases h
  · obtain ⟨body, -, h⟩ := exists_of_bind_eq_ok h
    obtain ⟨headers, hheaders, h⟩ := exists_of_bind_eq_ok h
    cases h
    exact (entries_withMetadata hheaders).2

end CloudClient.StorageRequest
