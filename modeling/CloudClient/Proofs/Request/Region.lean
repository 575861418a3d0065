import CloudClient.Decode.Document
import CloudClient.Proofs.Success
import CloudClient.Proofs.Text.Split
import CloudClient.Proofs.Xml.Reading
import CloudClient.Request.Storage

/-!
# Regions of new buckets

A bucket in another region than the default one is asked for with a document that names the region,
and the region stands in it as it is given. Main statement: regions that are not runs of small
letters and digits with single hyphens between them are refused, and in the document of any other
region a reader finds that region and nothing else.
-/

namespace CloudClient

namespace Name

/-! ## Regions -/

/-- A small letter or a digit of ASCII. -/
def IsRegionLetter (c : Char) : Prop := ('a' ≤ c ∧ c ≤ 'z') ∨ ('0' ≤ c ∧ c ≤ '9')

/-- One or more runs of these characters, none of them empty, with a hyphen between any two. -/
def IsHyphenated (s : List Char) : Prop :=
  ∃ runs : List (List Char), runs ≠ [] ∧ (∀ run ∈ runs, run ≠ [] ∧ ∀ c ∈ run, IsRegionLetter c) ∧
    s = ['-'].intercalate runs

/-- No character but these and hyphens, and no hyphen that begins or ends the text or follows
another one. -/
structure IsSingleHyphened (s : List Char) : Prop where
  ne_nil : s ≠ []
  head : s.head? ≠ some '-'
  last : s.getLast? ≠ some '-'
  single : ¬['-', '-'] <:+: s
  letters : ∀ c ∈ s, c = '-' ∨ IsRegionLetter c

variable {s : List Char}

/-- The check of a region takes these characters. -/
theorem isRegionChar_iff (c : Char) : isRegionChar c = true ↔ IsRegionLetter c := by
  simp only [isRegionChar, Text.isAsciiDigit, IsRegionLetter, Bool.or_eq_true, Bool.and_eq_true,
    decide_eq_true_eq, Char.le_def, UInt32.le_iff_toNat_le]
  rfl

/-- Its pieces at the hyphens are runs of them. -/
theorem isRegion_iff (s : List Char) :
    isRegion s = true ↔ ∀ p ∈ Text.pieces '-' s, p ≠ [] ∧ ∀ c ∈ p, IsRegionLetter c := by
  simp only [isRegion, List.all_eq_true, Bool.and_eq_true, Bool.not_eq_true',
    List.isEmpty_eq_false_iff, isRegionChar_iff]

/-- No hyphen is one of the characters of a run. -/
theorem IsRegionLetter.ne_hyphen {c : Char} (h : IsRegionLetter c) : c ≠ '-' := by
  rintro rfl
  rcases h with ⟨h, -⟩ | ⟨h, -⟩ <;> revert h <;> decide

/-- **Regions are hyphenated runs.** -/
theorem isRegion_iff_isHyphenated (s : List Char) : isRegion s = true ↔ IsHyphenated s := by
  rw [isRegion_iff]
  constructor
  · intro h
    exact ⟨Text.pieces '-' s, Text.pieces_ne_nil '-' s, h, (Text.intercalate_pieces '-' s).symm⟩
  · rintro ⟨runs, hne, hruns, rfl⟩
    have hhyphen : ∀ run ∈ runs, '-' ∉ run := fun run hrun hmem =>
      ((hruns run hrun).2 '-' hmem).ne_hyphen rfl
    rwa [Text.pieces_intercalate hne hhyphen]

/-- **Hyphenated runs are the texts in which hyphens stand one by one, inside the text.** -/
theorem isHyphenated_iff (s : List Char) : IsHyphenated s ↔ IsSingleHyphened s := by
  have hempty : (∀ p ∈ Text.pieces '-' s, p ≠ []) ↔ [] ∉ Text.pieces '-' s :=
    ⟨fun h hmem => h [] hmem rfl, fun h p hp heq => h (heq ▸ hp)⟩
  rw [← isRegion_iff_isHyphenated, isRegion_iff]
  simp only [imp_and, forall_and]
  rw [Text.forall_mem_pieces_iff, hempty, Text.nil_not_mem_pieces_iff]
  constructor
  · rintro ⟨⟨hne, hhead, hlast, hsingle⟩, hletters⟩
    exact ⟨hne, hhead, hlast, hsingle, hletters⟩
  · rintro ⟨hne, hhead, hlast, hsingle, hletters⟩
    exact ⟨⟨hne, hhead, hlast, hsingle⟩, hletters⟩

/-- Such a text has a character. -/
theorem IsSingleHyphened.isEmpty_eq_false {region : String} (h : IsSingleHyphened region.toList) :
    region.isEmpty = false := by
  rw [String.isEmpty_eq_false_iff]
  rintro rfl
  exact h.ne_nil rfl

/-- A region is accepted when it is hyphenated runs. -/
theorem checkRegion_eq_ok_iff (region : String) :
    checkRegion region = .ok () ↔ IsHyphenated region.toList := by
  rw [← isRegion_iff_isHyphenated, checkRegion]
  split
  · rename_i h
    exact iff_of_true rfl h
  · rename_i h
    exact iff_of_false (by simp) h

end Name

/-! ## The document of a region -/

namespace StorageRequest

open Xml

/-- The document of a region as an element with one field, in the namespace of the service. -/
def regionWritten (region : String) : Written :=
  { heading := .bare
    space := some "http://s3.amazonaws.com/doc/2006-03-01/"
    name := "CreateBucketConfiguration"
    fields := [.text "LocationConstraint" region] }

variable {region : String}

/-- A character of a region stands for itself in a document: it is none of the markup, and XML
allows it. -/
theorem escapeChar_of_region {c : Char} (h : c = '-' ∨ Name.IsRegionLetter c) :
    escapeChar c = [c] ∧ isXmlChar c = true ∧ c ≠ '\r' := by
  -- All of them are in ASCII, where the three facts are decided.
  have hall : ∀ n < 0x80, Char.ofNat n = '-' ∨ Name.isRegionChar (Char.ofNat n) = true →
      escapeChar (Char.ofNat n) = [Char.ofNat n] ∧ isXmlChar (Char.ofNat n) = true ∧
        Char.ofNat n ≠ '\r' := by decide
  have hle : ∀ {d : Char}, c ≤ d → c.toNat ≤ d.toNat := fun hcd => UInt32.le_iff_toNat_le.1 hcd
  have hascii : c.toNat < 0x80 := by
    rcases h with rfl | ⟨-, hlast⟩ | ⟨-, hlast⟩
    · decide
    · exact Nat.lt_of_le_of_lt (hle hlast) (by decide)
    · exact Nat.lt_of_le_of_lt (hle hlast) (by decide)
  rw [← Name.isRegionChar_iff] at h
  rw [← Char.ofNat_toNat c] at h ⊢
  exact hall c.toNat hascii h

/-- A region is written as it is. -/
theorem escape_region (h : Name.IsSingleHyphened region.toList) :
    escape region.toList = region.toList := by
  have hall : ∀ {s : List Char}, (∀ c ∈ s, escapeChar c = [c]) → escape s = s := by
    intro s hs
    induction s with
    | nil => rfl
    | cons c s ih =>
      obtain ⟨hc, hs⟩ := List.forall_mem_cons.1 hs
      rw [escape, List.flatMap_cons, hc, List.singleton_append]
      exact congrArg (c :: ·) (ih hs)
  exact hall fun c hc => (escapeChar_of_region (h.letters c hc)).1

/-- What is asked for is the written document of the region. -/
theorem ofString_regionDocument (h : Name.IsSingleHyphened region.toList) :
    Utf8.ofString (regionDocument region) = (regionWritten region).bytes := by
  have hfirst : (regionWritten region).rootTag =
      "<CreateBucketConfiguration xmlns=\"http://s3.amazonaws.com/doc/2006-03-01/\">".toList := by
    cbv
  have hlast : "</LocationConstraint></CreateBucketConfiguration>".toList =
      endTag "LocationConstraint" ++ endTag "CreateBucketConfiguration" := by decide
  have hfield : Field.writeAll (regionWritten region).fields =
      "<LocationConstraint>".toList ++ region.toList ++ endTag "LocationConstraint" := by
    rw [regionWritten, Field.writeAll, Field.writeAll, Field.write, escape_region h,
      List.append_nil]
    rfl
  -- The parts are variables here, since rewriting would evaluate the fixed texts of the document.
  have hjoin : ∀ {first start last : String} {b c : List Char}, last.toList = b ++ c →
      (first ++ (start ++ region ++ last)).toList =
        first.toList ++ (start.toList ++ region.toList ++ b) ++ c := by
    intro first start last b c hlast
    simp only [String.toList_append, hlast, List.append_assoc]
  have htext : (regionDocument region).toList = (regionWritten region).element :=
    calc (regionDocument region).toList
        = _ := hjoin hlast
      _ = (regionWritten region).rootTag ++ Field.writeAll (regionWritten region).fields ++
            endTag "CreateBucketConfiguration" := by
          rw [hfirst, hfield]
          rfl
  rw [Utf8.ofString, htext]
  rfl

/-- **The document of a region is read as that region and nothing else.** -/
theorem root_regionDocument (h : Name.IsSingleHyphened region.toList) :
    Document.root (Utf8.ofString (regionDocument region)) =
      .ok (.element "CreateBucketConfiguration" []
        [.element "LocationConstraint" [] [.text region]]) := by
  have htext : IsXmlText region := List.all_eq_true.2 fun c hc =>
    (escapeChar_of_region (h.letters c hc)).2.1
  have hreturn : '\r' ∉ region.toList := fun hmem =>
    (escapeChar_of_region (h.letters _ hmem)).2.2 rfl
  have hspace : ∀ s ∈ (regionWritten region).space, Written.IsSpace s := by
    intro s hs
    obtain rfl := Option.some.inj hs
    exact ⟨by decide, by decide, by decide⟩
  have hname : isPlainName "CreateBucketConfiguration".toList = true := by decide
  have hsound : (regionWritten region).IsSound := ⟨hname, ⟨⟨by decide, htext⟩, trivial⟩, hspace⟩
  have hread : readDocument? (regionWritten region).bytes = some (regionWritten region).root :=
    Written.readDocument?_bytes_of_no_return hsound ⟨⟨by decide, hreturn⟩, trivial⟩
  rw [ofString_regionDocument h, Document.root, hread]
  simp [Written.root, regionWritten, Field.nodes, Field.node, textContent, h.isEmpty_eq_false]

/-! ## The request for a bucket -/

/-- A document with the region as the text of its only element. -/
structure NamesOnly (root : Node) (region : String) : Prop where
  tag : root.tag = "CreateBucketConfiguration"
  only : ∃ place, root.children = [place] ∧ place.tag = "LocationConstraint" ∧
    place.text? = some region ∧ place.children = []

/-- The document of a region names only that region. -/
theorem namesOnly_of_root (h : Name.IsSingleHyphened region.toList) :
    ∃ root, Document.root (Utf8.ofString (regionDocument region)) = .ok root ∧
      NamesOnly root region := by
  have htext : Node.text? (.element "LocationConstraint" [] [.text region]) = some region := by
    simp [Node.text?, Node.headText, Node.content, Node.some?, h.isEmpty_eq_false]
  exact ⟨_, root_regionDocument h, rfl, _, rfl, rfl, htext, rfl⟩

/-- A region is named in a request when it is given and is not the default one. -/
def IsNamed (region : String) : Prop := region ≠ "" ∧ region ≠ defaultRegion

/-- A region that is not named is one of these two. -/
theorem isNamed_iff (region : String) :
    IsNamed region ↔ ¬(region.isEmpty || region = defaultRegion) = true := by
  simp [IsNamed]

variable {bucket : String}

/-- A bucket in a region that is not named is asked for without a document. -/
theorem createBucket_of_not_isNamed (hbucket : Name.checkBucket bucket = .ok ())
    (h : ¬IsNamed region) :
    createBucket bucket (some region) = .ok (ofBucket .createBucket .put bucket) := by
  rw [isNamed_iff, Decidable.not_not] at h
  rw [createBucket, bind_of_eq_ok hbucket]
  exact if_pos h

/-- A named region is checked, and a bucket in it is asked for with its document. -/
theorem createBucket_of_isNamed (hbucket : Name.checkBucket bucket = .ok ()) (h : IsNamed region) :
    createBucket bucket (some region) = (Name.checkRegion region).map fun _ =>
      { ofBucket .createBucket .put bucket with
        headers := .ofList [("Content-Type", "application/xml")]
        body := .bytes (Utf8.ofString (regionDocument region)) } := by
  rw [isNamed_iff] at h
  rw [createBucket, bind_of_eq_ok hbucket]
  refine (if_neg h).trans ?_
  rw [Option.getD_some]
  cases Name.checkRegion region <;> rfl

/-- **A bucket is asked for in the region that is given, and in no other.** A named region is
refused when it is not hyphenated runs, and that is the only refusal. A bucket in any other named
region is asked for with a document that names it and nothing else; one in the default region, or in
none, without a body and without headers. -/
theorem created_in_the_given_region (hbucket : Name.checkBucket bucket = .ok ()) (region : String) :
    ((∃ f, createBucket bucket (some region) = .error f ∧ f.family = .construction) ↔
      IsNamed region ∧ ¬Name.IsHyphenated region.toList) ∧
    (∀ f, createBucket bucket (some region) = .error f → f.family = .construction) ∧
    (Name.IsHyphenated region.toList ↔ Name.IsSingleHyphened region.toList) ∧
    ∀ r, createBucket bucket (some region) = .ok r →
      (IsNamed region ∧ r.headers.get? "Content-Type" = some "application/xml" ∧
        ∃ data root, r.body = .bytes data ∧ Document.root data = .ok root ∧ NamesOnly root region) ∨
      (¬IsNamed region ∧ r.headers = .empty ∧ r.body = .empty) := by
  have hforms := Name.isHyphenated_iff region.toList
  by_cases hnamed : IsNamed region
  · rw [createBucket_of_isNamed hbucket hnamed]
    by_cases hregion : Name.IsHyphenated region.toList
    · rw [(Name.checkRegion_eq_ok_iff region).2 hregion]
      refine ⟨iff_of_false (by rintro ⟨f, hf, -⟩; cases hf) fun h => h.2 hregion,
        fun f hf => (by cases hf), hforms, fun r hr => ?_⟩
      obtain rfl := Except.ok.inj hr
      obtain ⟨root, hroot, honly⟩ := namesOnly_of_root (hforms.1 hregion)
      exact .inl ⟨hnamed, rfl, _, root, rfl, hroot, honly⟩
    · have hrefused : Name.checkRegion region = .error (.invalidArgument "region" (.text region)
          "expected lower-case letters, digits and '-' (e.g. eu-west-1)") := by
        rw [← Name.isRegion_iff_isHyphenated] at hregion
        exact if_neg hregion
      rw [hrefused]
      refine ⟨iff_of_true ⟨_, rfl, rfl⟩ ⟨hnamed, hregion⟩, fun f hf => ?_, hforms,
        fun r hr => by cases hr⟩
      obtain rfl := Except.error.inj hf
      rfl
  · rw [createBucket_of_not_isNamed hbucket hnamed]
    refine ⟨iff_of_false (by rintro ⟨f, hf, -⟩; cases hf) fun h => hnamed h.1,
      fun f hf => (by cases hf), hforms, fun r hr => ?_⟩
    obtain rfl := Except.ok.inj hr
    exact .inr ⟨hnamed, rfl, rfl⟩

/-- A bucket in Ireland: the region is named, and a reader finds it. -/
theorem created_in_ireland :
    Name.checkBucket "photos" = .ok () ∧ IsNamed "eu-west-1" ∧
      Name.IsHyphenated "eu-west-1".toList ∧
      ∃ r data root, createBucket "photos" (some "eu-west-1") = .ok r ∧ r.body = .bytes data ∧
        Document.root data = .ok root ∧ NamesOnly root "eu-west-1" := by
  have hbucket : Name.checkBucket "photos" = .ok () := rfl
  have hnamed : IsNamed "eu-west-1" := ⟨by decide, by decide⟩
  have hregion : Name.IsHyphenated "eu-west-1".toList :=
    (Name.isRegion_iff_isHyphenated _).1 (by decide)
  obtain ⟨hrefused, hfamily, -, hmade⟩ := created_in_the_given_region hbucket "eu-west-1"
  refine ⟨hbucket, hnamed, hregion, ?_⟩
  cases hr : createBucket "photos" (some "eu-west-1") with
  | error f => exact ((hrefused.1 ⟨f, hr, hfamily f hr⟩).2 hregion).elim
  | ok r =>
    rcases hmade r hr with ⟨-, -, data, root, hbody, hroot, honly⟩ | ⟨hunnamed, -⟩
    · exact ⟨r, data, root, rfl, hbody, hroot, honly⟩
    · exact (hunnamed hnamed).elim

end StorageRequest

end CloudClient
