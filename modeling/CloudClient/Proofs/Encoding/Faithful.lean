import CloudClient.Proofs.Request.Address

/-!
# Percent-encoding is faithful

An encoded text is a row of kept characters and of triplets in capital letters, and is read as the
text it was made of. A path is encoded piece by piece between its slashes. A query is written in two
ways, sorted by its keys and sorted by its encoded fields, and reading the first gives back a query
with the same second one.
-/

namespace CloudClient

namespace Percent

variable {safe : List Char}

/-! ## The form of encoded texts -/

/-- The digits of triplets, in capital letters. -/
def IsCapitalHex (c : Char) : Prop := ('0' ≤ c ∧ c ≤ '9') ∨ ('A' ≤ c ∧ c ≤ 'F')

/-- A character that is written as it is: a letter or digit of ASCII, one of four marks, or a
character of ASCII that is to be kept. -/
def IsKeptChar (safe : List Char) (c : Char) : Prop :=
  c.isAlphanum = true ∨ c ∈ ['-', '_', '.', '~'] ∨ c ∈ safe ∧ c.toNat < 0x80

/-- A row of kept characters and triplets. -/
inductive IsEncoded (safe : List Char) : List Char → Prop where
  | nil : IsEncoded safe []
  | kept {c : Char} {s : List Char} (hc : IsKeptChar safe c) (hs : IsEncoded safe s) :
      IsEncoded safe (c :: s)
  | triplet {d e : Char} {s : List Char} (hd : IsCapitalHex d) (he : IsCapitalHex e)
      (hs : IsEncoded safe s) : IsEncoded safe ('%' :: d :: e :: s)

/-- Numbers below sixteen have such digits. -/
theorem isCapitalHex_hexDigit {n : Nat} (hn : n < 16) : IsCapitalHex (hexDigit n) := by
  unfold IsCapitalHex
  revert n
  decide

/-- The bytes that are kept are those of kept characters. -/
theorem isKeptChar_ofNat {b : UInt8} (h : isKept safe b = true) :
    IsKeptChar safe (Char.ofNat b.toNat) := by
  have hlt := lt_of_isKept h
  have hunreserved : ∀ n < 128, isUnreserved (UInt8.ofNat n) = true →
      (Char.ofNat n).isAlphanum = true ∨ Char.ofNat n ∈ ['-', '_', '.', '~'] := by decide
  rw [isKept, Bool.or_eq_true, Bool.and_eq_true] at h
  rcases h with h | ⟨-, h⟩
  · rw [← UInt8.ofNat_toNat (x := b)] at h
    rcases hunreserved _ hlt h with h | h
    · exact .inl h
    · exact .inr (.inl h)
  · refine .inr (.inr ⟨List.contains_iff_mem.1 h, ?_⟩)
    rwa [toNat_ofNat hlt]

/-- The encoded form of a byte goes before an encoded text. -/
theorem IsEncoded.encodeByte_append (b : UInt8) {s : List Char} (hs : IsEncoded safe s) :
    IsEncoded safe (encodeByte safe b ++ s) := by
  have hb : b.toNat < 256 := b.toNat_lt
  unfold encodeByte
  split
  · rename_i hkept
    exact .kept (isKeptChar_ofNat hkept) hs
  · exact .triplet (isCapitalHex_hexDigit (by omega)) (isCapitalHex_hexDigit (by omega)) hs

/-- **An encoded text is a row of kept characters and triplets.** -/
theorem isEncoded_encode (safe s : List Char) : IsEncoded safe (encode safe s) := by
  rw [encode]
  induction Utf8.encode s with
  | nil => exact .nil
  | cons b bytes ih =>
    rw [List.flatMap_cons]
    exact ih.encodeByte_append b

/-! ## Slashes of paths -/

/-- Pieces that are joined by slashes are encoded one by one. -/
theorem encode_intercalate (ps : List (List Char)) :
    encode ['/'] (['/'].intercalate ps) = ['/'].intercalate (ps.map (encode ['/'])) := by
  induction ps with
  | nil => rfl
  | cons p ps ih =>
    cases ps with
    | nil => rw [List.map_singleton, List.intercalate_singleton, List.intercalate_singleton]
    | cons q ps =>
      have hslash : encode ['/'] ['/'] = ['/'] := by decide
      rw [List.intercalate_cons_cons, encode_append, encode_append, ih, hslash]
      simp

/-- A text without slashes is encoded alike whether they are to be kept or not. -/
theorem encode_of_slash_not_mem {s : List Char} (h : '/' ∉ s) : encode ['/'] s = encode [] s := by
  have hbyte : ∀ b ∈ Utf8.encode s, encodeByte ['/'] b = encodeByte [] b := by
    intro b hb
    have hslash : b ≠ UInt8.ofNat '/'.toNat := by
      rintro rfl
      exact h (Utf8.mem_of_byte_mem_encode (by decide) hb)
    have hkept : isKept ['/'] b = isKept [] b := by
      by_cases hlt : b < 0x80
      · have hchar : Char.ofNat b.toNat ≠ '/' := by
          intro heq
          apply hslash
          rw [← heq, toNat_ofNat (UInt8.lt_iff_toNat_lt.1 hlt), UInt8.ofNat_toNat]
        simp [isKept, hchar]
      · simp [isKept, hlt]
    rw [encodeByte, encodeByte, hkept]
  rw [encode, encode, List.flatMap_def, List.flatMap_def, List.map_congr_left hbyte]

/-- **The slashes of an encoded path are those of the path**, and between them stand the encoded
pieces. -/
theorem pieces_path (path : String) :
    Text.pieces '/' (Percent.path path).toList = (Text.pieces '/' path.toList).map (encode []) := by
  have hpieces : (Text.pieces '/' path.toList).map (encode ['/']) =
      (Text.pieces '/' path.toList).map (encode []) := by
    apply List.map_congr_left
    intro p hp
    exact encode_of_slash_not_mem (Text.sep_not_mem_of_mem_pieces hp)
  have hpath : (Percent.path path).toList =
      ['/'].intercalate ((Text.pieces '/' path.toList).map (encode ['/'])) := by
    rw [← encode_intercalate, Text.intercalate_pieces, Percent.path, String.toList_ofList]
  rw [hpath, ← hpieces]
  apply Text.pieces_intercalate
  · intro hnil
    exact Text.pieces_ne_nil '/' path.toList (List.map_eq_nil_iff.1 hnil)
  · intro p hp hslash
    obtain ⟨q, hq, rfl⟩ := List.mem_map.1 hp
    exact Text.sep_not_mem_of_mem_pieces hq (slash_mem_of_mem_encode hslash)

/-! ## Faithfulness -/

/-- **Percent-encoding is faithful.** A text is read back from its encoded form, whatever characters
other than the percent sign are to be kept, and that form holds nothing but kept characters and
triplets. The pieces of a path between its slashes are encoded each by itself. A query whose keys
are not empty is read back from the way in which it is sent, and what is read has the same canonical
form. -/
theorem encoding_is_faithful {safe : List Char} (hsafe : '%' ∉ safe) (s : List Char) (path : String)
    {q : Query} (hkeys : "" ∉ q.keys) :
    decode? (encode safe s) = some s ∧ IsEncoded safe (encode safe s) ∧
      Text.pieces '/' (Percent.path path).toList = (Text.pieces '/' path.toList).map (encode []) ∧
      ∃ r, Wire.query? q.wire.toList = some r ∧ r.entries.Perm q.entries ∧
        r.canonical = q.canonical := by
  refine ⟨decode?_encode hsafe s, isEncoded_encode safe s, pieces_path path, ?_⟩
  obtain ⟨r, hread, hperm⟩ := Wire.query?_wire hkeys
  exact ⟨r, hread, hperm, Query.canonical_congr hperm⟩

/-- A query of a flag and a prefix, in which the prefix stands first. -/
def flaggedListing : Query := .ofList [("prefix", some "a b&"), ("acl", none)]

/-- A text with a letter beyond ASCII, a path with an empty piece, and a query with a flag are read
back. -/
theorem flagged_listing_is_read_back :
    '%' ∉ ['/'] ∧ "" ∉ flaggedListing.keys ∧
      decode? (encode ['/'] "é/%".toList) = some "é/%".toList ∧
      IsEncoded ['/'] (encode ['/'] "é/%".toList) ∧
      Text.pieces '/' (Percent.path "/b//c d").toList = [[], ['b'], [], ['c', '%', '2', '0', 'd']] ∧
      ∃ r, Wire.query? flaggedListing.wire.toList = some r ∧
        r.entries.Perm [("prefix", some "a b&"), ("acl", none)] ∧
        r.canonical = flaggedListing.canonical := by
  have hsafe : '%' ∉ ['/'] := by decide
  have hkeys : "" ∉ flaggedListing.keys := by decide
  obtain ⟨hread, hform, hpieces, hquery⟩ := encoding_is_faithful hsafe "é/%".toList "/b//c d" hkeys
  exact ⟨hsafe, hkeys, hread, hform, hpieces, hquery⟩

end Percent

end CloudClient
