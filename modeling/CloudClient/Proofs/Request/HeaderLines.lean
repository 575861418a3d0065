import CloudClient.Proofs.Request.Metadata
import CloudClient.Proofs.Text.Line

/-!
# The headers of requests to the storage service

A request carries the headers of its call, some of which hold texts as they were given. Main
statement: every header of a request has a name, and the headers are single lines exactly when none
of the given texts breaks a line.
-/

namespace CloudClient

namespace Headers

/-! ## Lines of headers -/

/-- Every header is a single line: neither its name nor its value breaks it. -/
def AreLines (l : List (String × String)) : Prop :=
  ∀ p ∈ l, Text.IsOneLine p.1 ∧ Text.IsOneLine p.2

/-- Every header has a name. -/
def AreNamed (l : List (String × String)) : Prop := ∀ p ∈ l, p.1 ≠ ""

/-- The texts stand on one line each. -/
def AreWhole (texts : List String) : Prop := ∀ s ∈ texts, Text.IsOneLine s

/-- The headers have names, and they are single lines exactly when the texts stand on one line each.
-/
structure BreakWith (l : List (String × String)) (texts : List String) : Prop where
  named : AreNamed l
  lines : AreLines l ↔ AreWhole texts

variable {l m : List (String × String)} {texts others : List String}

/-- Where there are no texts, none breaks a line. -/
theorem areWhole_nil : AreWhole [] := by
  intro s hs
  cases hs

/-- Where there are no headers, none breaks a line. -/
theorem BreakWith.nil : BreakWith [] [] where
  named := by
    intro p hp
    cases hp
  lines := by
    refine iff_of_true ?_ areWhole_nil
    intro p hp
    cases hp

/-- A header of a plain name breaks its line with its value. -/
theorem BreakWith.single {name value : String} (hne : name ≠ "") (hname : Text.IsOneLine name)
    (hvalue : Text.IsOneLine value ↔ AreWhole texts) : BreakWith [(name, value)] texts where
  named := by
    intro p hp
    obtain rfl := List.mem_singleton.1 hp
    exact hne
  lines := by
    rw [← hvalue]
    constructor
    · intro h
      exact (h _ List.mem_cons_self).2
    · intro h p hp
      obtain rfl := List.mem_singleton.1 hp
      exact ⟨hname, h⟩

/-- A header whose value is whole breaks no line. -/
theorem BreakWith.whole {name value : String} (hne : name ≠ "") (hname : Text.IsOneLine name)
    (hvalue : Text.IsOneLine value) : BreakWith [(name, value)] [] :=
  .single hne hname (iff_of_true hvalue areWhole_nil)

/-- Headers that are added to others break with their own texts. What is added may repeat the names
of the others, so its lines are asked for only when those of the others are whole. -/
theorem BreakWith.append_of_lines (hl : BreakWith l texts) (hnamed : AreNamed m)
    (hm : AreLines l → (AreLines m ↔ AreWhole others)) : BreakWith (l ++ m) (texts ++ others) where
  named := by
    intro p hp
    exact (List.mem_append.1 hp).elim (hl.named p) (hnamed p)
  lines := by
    have hsplit : AreLines (l ++ m) ↔ AreLines l ∧ AreLines m := List.forall_mem_append
    rw [hsplit, and_congr_right hm, hl.lines]
    exact List.forall_mem_append.symm

/-- Headers behind others break with the texts of both. -/
theorem BreakWith.append (hl : BreakWith l texts) (hm : BreakWith m others) :
    BreakWith (l ++ m) (texts ++ others) :=
  hl.append_of_lines hm.named fun _ => hm.lines

end Headers

/-! ## Texts of storage requests -/

namespace Name

/-- The quotes of an entity tag do not break its line. -/
theorem isOneLine_quotedTag (tag : String) :
    Text.IsOneLine (quotedTag tag) ↔ Text.IsOneLine (String.ofList (Text.trim tag.toList)) := by
  have hquote : '"' ∉ Text.lineBreaks := by decide
  rw [quotedTag]
  split
  · -- a tag that has its quotes, or is marked as weak, is only trimmed
    rfl
  · constructor
    · intro h c hc
      apply h c
      rw [String.toList_ofList] at hc ⊢
      exact List.mem_append_left _ (List.mem_cons_of_mem _ hc)
    · intro h c hc
      rw [String.toList_ofList, List.mem_append, List.mem_cons, List.mem_singleton] at hc
      rcases hc with (rfl | hc) | rfl
      · exact hquote
      · exact h c (by rwa [String.toList_ofList])
      · exact hquote

end Name

namespace StorageRequest

/-- The type of content that is announced breaks a line when the given one does. -/
theorem isOneLine_announcedType (contentType : String) :
    Text.IsOneLine (announcedType contentType) ↔ Text.IsOneLine contentType := by
  rw [announcedType]
  split
  · rename_i hempty
    rw [String.isEmpty_iff.1 hempty]
    exact iff_of_true (by decide) (by decide)
  · rfl

/-- The texts of metadata that are written into headers: every lowered name, with its last value. -/
def metadataTexts (metadata : Dict String) : List String :=
  (Signature.lowered metadata).entries.flatMap fun p => [p.1, p.2]

/-- The headers of metadata have names of their own. -/
theorem exists_of_mem_metadataEntries {metadata : Dict String} {p : String × String}
    (h : p ∈ metadataEntries metadata) : ∃ name, p.1 = metadataHeader name := by
  obtain ⟨e, he, rfl⟩ := List.mem_map.1 h
  obtain ⟨q, hq, hname⟩ := List.mem_map.1 (Dict.mem_keys_ofList (List.mem_map_of_mem he))
  obtain ⟨given, -, rfl⟩ := List.mem_map.1 hq
  exact ⟨given.1, congrArg ("x-amz-meta-" ++ ·) hname.symm⟩

/-- The header of a piece of metadata is not empty. -/
theorem metadataHeader_ne_empty (name : String) : metadataHeader name ≠ "" := by
  intro hempty
  have hbegin := take_metadataHeader name
  rw [hempty] at hbegin
  exact absurd hbegin (by decide)

/-- The headers of metadata break their lines with its texts. -/
theorem breakWith_metadataEntries (metadata : Dict String) :
    Headers.BreakWith (metadataEntries metadata) (metadataTexts metadata) where
  named := by
    intro p hp
    obtain ⟨name, hname⟩ := exists_of_mem_metadataEntries hp
    rw [hname]
    exact metadataHeader_ne_empty name
  lines := by
    have hfront : Text.IsOneLine "x-amz-meta-" := by decide
    constructor
    · intro h s hs
      obtain ⟨p, hp, hs⟩ := List.mem_flatMap.1 hs
      obtain ⟨hname, hvalue⟩ := h _ (List.mem_map_of_mem hp)
      rcases List.mem_cons.1 hs with rfl | hs
      · exact (Text.isOneLine_append.1 hname).2
      · obtain rfl := List.mem_singleton.1 hs
        exact hvalue
    · intro h q hq
      obtain ⟨p, hp, rfl⟩ := List.mem_map.1 hq
      have hname : Text.IsOneLine p.1 := h _ (List.mem_flatMap.2 ⟨p, hp, by simp⟩)
      have hvalue : Text.IsOneLine p.2 := h _ (List.mem_flatMap.2 ⟨p, hp, by simp⟩)
      exact ⟨Text.isOneLine_append.2 ⟨hfront, hname⟩, hvalue⟩

end StorageRequest

/-! ## Headers of storage requests -/

namespace StorageCall

/-- The headers of the request that a call becomes; a new bucket is made in a region. -/
def headers (region : Option String) : StorageCall → List (String × String)
  | createBucket _ =>
    if (region.getD "").isEmpty || region.getD "" = defaultRegion then []
    else [("Content-Type", "application/xml")]
  | put _ _ _ contentType _ metadata =>
    ("Content-Type", StorageRequest.announcedType contentType) ::
      StorageRequest.metadataEntries metadata
  | get _ _ oldTag _ =>
    ((Fault.firstGiven [oldTag]).map fun tag => ("If-None-Match", Name.quotedTag tag)).toList
  | _ => []

/-- The texts that a call is given for its headers. The blanks around an entity tag are left out. -/
def headerTexts : StorageCall → List String
  | put _ _ _ contentType _ metadata => contentType :: StorageRequest.metadataTexts metadata
  | get _ _ oldTag _ =>
    ((Fault.firstGiven [oldTag]).map fun tag => String.ofList (Text.trim tag.toList)).toList
  | _ => []

variable {call : StorageCall} {region : Option String} {r : Request}

/-- **A request carries the headers of its call.** -/
theorem entries_of_request (h : call.request region = .ok r) :
    r.headers.entries = call.headers region := by
  cases call with
  | createBucket bucket =>
    obtain ⟨_, -, h⟩ := exists_of_bind_eq_ok h
    dsimp only at h
    rw [headers]
    split at h
    · rename_i hdefault
      cases h
      rw [if_pos hdefault]
      rfl
    · rename_i hnamed
      obtain ⟨_, -, h⟩ := exists_of_bind_eq_ok h
      cases h
      rw [if_neg hnamed]
      rfl
  | listAllBuckets =>
    cases h
    rfl
  | listBucket bucket keyPrefix marker maxKeys delimiter =>
    obtain ⟨_, -, h⟩ := exists_of_bind_eq_ok h
    obtain ⟨_, -, h⟩ := exists_of_bind_eq_ok h
    cases h
    rfl
  | put bucket key data contentType size metadata => exact StorageRequest.entries_of_put h
  | get bucket key oldTag live =>
    obtain ⟨_, -, h⟩ := exists_of_bind_eq_ok h
    dsimp only at h
    rw [headers]
    cases hgiven : Fault.firstGiven [oldTag] with
    | none =>
      rw [hgiven] at h
      cases h
      rfl
    | some tag =>
      rw [hgiven] at h
      cases h
      rfl
  | deleteBucket bucket | delete bucket key | head bucket key =>
    obtain ⟨_, -, h⟩ := exists_of_bind_eq_ok h
    cases h
    rfl

/-- The names of the headers that a call can have. -/
theorem name_of_mem_headers {p : String × String} (h : p ∈ call.headers region) :
    p.1 ∈ ["Content-Type", "If-None-Match"] ∨ ∃ name, p.1 = StorageRequest.metadataHeader name := by
  cases call with
  | createBucket bucket =>
    rw [headers] at h
    split at h
    · cases h
    · obtain rfl := List.mem_singleton.1 h
      exact .inl (by decide)
  | put bucket key data contentType size metadata =>
    rcases List.mem_cons.1 h with rfl | h
    · exact .inl List.mem_cons_self
    · exact .inr (StorageRequest.exists_of_mem_metadataEntries h)
  | get bucket key oldTag live =>
    obtain ⟨tag, -, rfl⟩ := Option.map_eq_some_iff.1 (Option.mem_toList.1 h)
    exact .inl (List.mem_cons_of_mem _ List.mem_cons_self)
  | listAllBuckets | deleteBucket bucket | listBucket bucket keyPrefix marker maxKeys delimiter
  | delete bucket key | head bucket key => cases h

/-- **The headers of a call have names, and break their lines with the texts that are given for
them.** -/
theorem breakWith_headers (call : StorageCall) (region : Option String) :
    Headers.BreakWith (call.headers region) call.headerTexts := by
  have hcontent : Text.IsOneLine "Content-Type" := by decide
  have hmatch : Text.IsOneLine "If-None-Match" := by decide
  cases call with
  | createBucket bucket =>
    rw [headers]
    split
    · exact .nil
    · exact .whole (by decide) hcontent (by decide)
  | put bucket key data contentType size metadata =>
    have htype : Text.IsOneLine (StorageRequest.announcedType contentType) ↔
        Headers.AreWhole [contentType] := by
      rw [StorageRequest.isOneLine_announcedType]
      exact (List.forall_mem_singleton ..).symm
    exact .append (.single (by decide) hcontent htype)
      (StorageRequest.breakWith_metadataEntries metadata)
  | get bucket key oldTag live =>
    rw [headers, headerTexts]
    cases Fault.firstGiven [oldTag] with
    | none => exact .nil
    | some tag =>
      apply Headers.BreakWith.single (by decide) hmatch
      rw [Name.isOneLine_quotedTag]
      exact (List.forall_mem_singleton ..).symm
  | listAllBuckets | deleteBucket bucket | listBucket bucket keyPrefix marker maxKeys delimiter
  | delete bucket key | head bucket key => exact .nil

/-- The headers of a request to the storage service are not named like the date. -/
theorem lowered_ne_date (h : call.request region = .ok r) :
    ∀ k ∈ r.headers.keys, Text.lowered k ≠ "date" := by
  have hother : ∀ k ∈ ["Content-Type", "If-None-Match"], Text.lowered k ≠ "date" := by decide
  intro k hk hdate
  obtain ⟨p, hp, rfl⟩ := List.mem_map.1 hk
  rw [entries_of_request h] at hp
  rcases name_of_mem_headers hp with hname | ⟨name, hname⟩
  · exact hother _ hname hdate
  · -- a header of metadata is in lower case already, and begins otherwise
    rw [hname, StorageRequest.lowered_metadataHeader] at hdate
    have hbegin := StorageRequest.take_metadataHeader name
    rw [hdate] at hbegin
    exact absurd hbegin (by decide)

end StorageCall

end CloudClient
