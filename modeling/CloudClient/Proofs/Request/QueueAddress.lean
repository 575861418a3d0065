import CloudClient.Proofs.Request.Address
import CloudClient.Proofs.Request.Refusal
import CloudClient.Proofs.Uri.Reading

/-!
# Addresses of queues

A queue is addressed by the path of its locator, which is a text in encoded form, and a request is
sent under the encoded form of its path. Main statement: a request about a queue is sent under a
path that is read as the text of the path in the queue's locator, which is what that path itself is
read as only when it has no triplets.
-/

namespace CloudClient

/-! ## Paths of locators -/

namespace Utf8

/-- A character is made of at least one byte. -/
theorem length_le_of_decode? {s : Bytes} {t : List Char} (h : decode? s = some t) :
    t.length ≤ s.length := by
  induction s using decode?.induct generalizing t with
  | case1 =>
    rw [decode?] at h
    obtain rfl := Option.some.inj h
    exact Nat.le_refl _
  | case2 b r rest hstep =>
    rw [decode?] at h
    split at h
    · cases h
    · rename_i hchar
      rw [hstep] at hchar
      cases hchar
  | case3 b r c rest hstep hle ih =>
    rw [decode?] at h
    split at h
    · cases h
    · rename_i c' rest' hchar
      obtain ⟨-, rfl⟩ := Prod.mk.inj (hstep.symm.trans hchar)
      obtain ⟨t, ht, rfl⟩ := Option.map_eq_some_iff.1 h
      exact Nat.succ_le_succ (Nat.le_trans (ih ht) hle)

/-- A text of ASCII has as many bytes as characters. -/
theorem length_encode_of_lt {s : List Char} (h : ∀ c ∈ s, c.toNat < 0x80) :
    (encode s).length = s.length := by
  have hchars := congrArg List.length (map_encode_of_lt h)
  rwa [List.length_map] at hchars

end Utf8

namespace Percent

/-- The characters of a path in a locator: slashes, unreserved ones, and those of triplets. -/
inductive IsPathText : List Char → Prop where
  | nil : IsPathText []
  | slash {s : List Char} (hs : IsPathText s) : IsPathText ('/' :: s)
  | unreserved {c : Char} {s : List Char} (hc : c.isAlphanum = true ∨ c ∈ ['-', '_', '.', '~'])
      (hs : IsPathText s) : IsPathText (c :: s)
  | triplet {d e : Char} {s : List Char} (hd : (Hex.digitValue? d).isSome = true)
      (he : (Hex.digitValue? e).isSome = true) (hs : IsPathText s) : IsPathText ('%' :: d :: e :: s)

variable {s : List Char}

/-- Unreserved characters are in ASCII, and a percent sign is none of them. -/
theorem of_unreserved {c : Char} (h : c.isAlphanum = true ∨ c ∈ ['-', '_', '.', '~']) :
    c.toNat < 0x80 ∧ c ≠ '%' := by
  rcases h with h | h
  · have hrange : ((0x61 ≤ c.toNat ∧ c.toNat ≤ 0x7A) ∨ 0x41 ≤ c.toNat ∧ c.toNat ≤ 0x5A) ∨
        0x30 ≤ c.toNat ∧ c.toNat ≤ 0x39 := by
      simpa [Uri.isAlphanum_iff, Uri.isAsciiLetter, Text.isAsciiDigit, Char.le_def,
        UInt32.le_iff_toNat_le] using h
    refine ⟨by omega, ?_⟩
    rintro rfl
    revert hrange
    decide
  · simp only [List.mem_cons, List.not_mem_nil, or_false] at h
    rcases h with rfl | rfl | rfl | rfl <;> decide

/-- A text without percent signs is read as it stands. -/
theorem decodeBytes_of_not_mem (h : '%' ∉ s) : decodeBytes s = Utf8.encode s := by
  induction s with
  | nil => rfl
  | cons c s ih =>
    rw [List.mem_cons, not_or] at h
    rw [decodeBytes_cons (Ne.symm h.1), ih h.2, ← Utf8.encode_append, List.singleton_append]

/-- A path is read as at most as many bytes as it has characters, and as fewer when it has a
triplet. -/
theorem IsPathText.length_decodeBytes (h : IsPathText s) :
    (decodeBytes s).length ≤ s.length ∧ ('%' ∈ s → (decodeBytes s).length < s.length) := by
  have hother : ∀ {c : Char} {s : List Char}, c.toNat < 0x80 → c ≠ '%' →
      ((decodeBytes s).length ≤ s.length ∧ ('%' ∈ s → (decodeBytes s).length < s.length)) →
      (decodeBytes (c :: s)).length ≤ (c :: s).length ∧
        ('%' ∈ c :: s → (decodeBytes (c :: s)).length < (c :: s).length) := by
    intro c s hlt hne ih
    have hone : (Utf8.encode [c]).length = 1 := Utf8.length_encode_of_lt (by simpa using hlt)
    rw [decodeBytes_cons hne, List.length_append, hone, List.length_cons, List.mem_cons]
    refine ⟨by omega, fun hmem => ?_⟩
    have := ih.2 (hmem.resolve_left (Ne.symm hne))
    omega
  induction h with
  | nil => exact ⟨Nat.le_refl _, fun hmem => by cases hmem⟩
  | slash _ ih => exact hother (by decide) (by decide) ih
  | unreserved hc _ ih => exact hother (of_unreserved hc).1 (of_unreserved hc).2 ih
  | triplet hd he _ ih =>
    obtain ⟨x, hx⟩ := Option.isSome_iff_exists.1 hd
    obtain ⟨y, hy⟩ := Option.isSome_iff_exists.1 he
    rw [decodeBytes_triplet hx hy]
    simp only [List.length_cons]
    exact ⟨by omega, fun _ => by omega⟩

/-- No path holds a NUL. -/
theorem IsPathText.nul_not_mem (h : IsPathText s) : '\x00' ∉ s := by
  have hdigit : ∀ {d : Char}, (Hex.digitValue? d).isSome = true → '\x00' ≠ d := by
    rintro d hd rfl
    revert hd
    decide
  have hletter : ∀ {c : Char}, (c.isAlphanum = true ∨ c ∈ ['-', '_', '.', '~']) → '\x00' ≠ c := by
    rintro c hc rfl
    revert hc
    decide
  induction h with
  | nil => exact List.not_mem_nil
  | slash _ ih => exact List.not_mem_cons_of_ne_of_not_mem (by decide) ih
  | unreserved hc _ ih => exact List.not_mem_cons_of_ne_of_not_mem (hletter hc) ih
  | triplet hd he _ ih =>
    exact List.not_mem_cons_of_ne_of_not_mem (by decide)
      (List.not_mem_cons_of_ne_of_not_mem (hdigit hd)
        (List.not_mem_cons_of_ne_of_not_mem (hdigit he) ih))

/-- **A path is read as its own text when it has no triplets.** -/
theorem IsPathText.decode?_eq_self_iff (h : IsPathText s) : decode? s = some s ↔ '%' ∉ s := by
  constructor
  -- A triplet is one byte of three characters, so that too few characters are read.
  · intro hread hmem
    have hle := Utf8.length_le_of_decode? hread
    have hlt := h.length_decodeBytes.2 hmem
    omega
  · intro hmem
    rw [decode?, decodeBytes_of_not_mem hmem, Utf8.decode?_encode]

end Percent

/-! ## Requests about queues -/

namespace Name

/-- The path of a queue begins with a slash. -/
theorem exists_of_queuePath {url path : String} (h : queuePath url = .ok path) :
    ∃ rest, path.toList = '/' :: rest := by
  rw [queuePath] at h
  obtain ⟨-, h⟩ := not_and_eq_ok_of_guard h
  obtain ⟨u, hread, h⟩ := exists_of_bind_eq_ok h
  obtain ⟨hgiven, h⟩ := not_and_eq_ok_of_guard h
  obtain rfl := Except.ok.inj h
  simp only [Bool.or_eq_true, not_or, String.isEmpty_iff, beq_iff_eq] at hgiven
  exact Uri.exists_of_path_ne (eq_ok_of_mapError hread) hgiven.1.1.2 hgiven.1.2

end Name

namespace QueueCall

variable {call : QueueCall} {version url : String} {r : Request}

/-- A request about a queue has the path of the queue's locator. -/
theorem queuePath_of_request (hurl : call.url? = some url) (hr : call.request version = .ok r) :
    Name.queuePath url = .ok r.path := by
  cases call with
  | createQueue name hiddenFor | listQueues namePrefix => cases hurl
  | deleteQueue url | getQueueAttributes url names =>
    cases hurl
    obtain ⟨path, hpath, hr⟩ := exists_of_bind_eq_ok hr
    cases hr
    exact hpath
  | sendMessage url body | deleteMessage url handle =>
    cases hurl
    obtain ⟨path, hpath, hr⟩ := exists_of_bind_eq_ok hr
    obtain ⟨-, hr⟩ := not_and_eq_ok_of_guard hr
    cases hr
    exact hpath
  | receiveMessage url count hiddenFor =>
    cases hurl
    obtain ⟨path, hpath, hr⟩ := exists_of_bind_eq_ok hr
    obtain ⟨fits, -, hr⟩ := exists_of_bind_eq_ok hr
    obtain ⟨-, hr⟩ := not_and_eq_ok_of_guard hr
    cases hr
    exact hpath

end QueueCall

/-- The path of a locator can be signed when it has no dot segments. -/
theorem Signature.checkPath_of_isPathText {path : String} {rest : List Char}
    (hpath : path.toList = '/' :: rest) (htext : Percent.IsPathText path.toList)
    (hdots : ∀ p ∈ Text.pieces '/' path.toList, Uri.isDots p = false) :
    checkPath path = .ok () := by
  have hnul : ¬rest.contains '\x00' = true := fun hmem =>
    htext.nul_not_mem (hpath ▸ List.mem_cons_of_mem _ (List.contains_iff_mem.1 hmem))
  have hsegments : ¬((Text.pieces '/' rest).any fun p => p == ['.'] || p == ['.', '.']) = true := by
    intro hany
    obtain ⟨p, hp, hdot⟩ := List.any_eq_true.1 hany
    have hmem : p ∈ Text.pieces '/' path.toList := by
      rw [hpath, Text.pieces, if_pos rfl]
      exact List.mem_cons_of_mem _ hp
    exact Bool.eq_false_iff.1 (hdots p hmem) hdot
  rw [checkPath]
  simp only [hpath]
  rw [if_neg hnul, if_neg hsegments]

/-- **A request about a queue is sent under the text of the path in the queue's locator.** When the
path has no dot segments, every request about the queue can be signed for its path. Whoever signs
it, the path under which it is sent is read as that text; reading the path in the locator gives the
same exactly when it has no triplets, which are taken for the text of the path rather than for the
characters that they stand for. -/
theorem queue_request_sent_under_written_path {call : QueueCall} {version url path : String}
    {r : Request} (hurl : call.url? = some url) (hpath : Name.queuePath url = .ok path)
    (htext : Percent.IsPathText path.toList)
    (hdots : ∀ p ∈ Text.pieces '/' path.toList, Uri.isDots p = false)
    (hr : call.request version = .ok r) :
    Signature.checkPath r.path = .ok () ∧
    ∀ (signer : Signer) (credentials : Credentials) (endpoint : Endpoint) (time : DateTime)
      (q : SignedRequest), signer.sign r credentials endpoint time = .ok q →
      ∃ written, Wire.writtenPath? q.url = some written ∧
        Percent.decode? written = some path.toList ∧
        (Percent.decode? written = Percent.decode? path.toList ↔ '%' ∉ path.toList) := by
  obtain rfl : path = r.path := by
    have hsame := hpath.symm.trans (QueueCall.queuePath_of_request hurl hr)
    exact Except.ok.inj hsame
  obtain ⟨rest, hrest⟩ := Name.exists_of_queuePath hpath
  refine ⟨Signature.checkPath_of_isPathText hrest htext hdots, ?_⟩
  intro signer credentials endpoint time q hq
  have hread : Percent.decode? (Percent.path r.path).toList = some r.path.toList := by
    rw [Percent.path, String.toList_ofList, Percent.decode?_encode (by decide)]
  refine ⟨_, Signer.writtenPath?_of_sign hq, hread, ?_⟩
  rw [hread, eq_comm]
  exact htext.decode?_eq_self_iff

/-- A queue whose path has no triplets is removed under the path that its locator stands for. -/
theorem plain_queue_is_addressed :
    ∃ r q written, QueueCall.request "2012-11-05" (.deleteQueue "http://h/1/q") = .ok r ∧
      Signer.queryV2.sign r ⟨"id", "secret", none⟩ { url := "http://h" }
        ⟨2024, 1, 1, 0, 0, 0, 0, some 0⟩ = .ok q ∧
      Wire.writtenPath? q.url = some written ∧
      Percent.decode? written = Percent.decode? "/1/q".toList := by
  obtain ⟨r, hr, q, hq⟩ :
      ∃ r, QueueCall.request "2012-11-05" (.deleteQueue "http://h/1/q") = .ok r ∧
      ∃ q, Signer.queryV2.sign r ⟨"id", "secret", none⟩ { url := "http://h" }
        ⟨2024, 1, 1, 0, 0, 0, 0, some 0⟩ = .ok q := ⟨_, rfl, _, rfl⟩
  have htext : Percent.IsPathText "/1/q".toList :=
    .slash (.unreserved (by decide) (.slash (.unreserved (by decide) .nil)))
  have hpath : Name.queuePath "http://h/1/q" = .ok "/1/q" := rfl
  obtain ⟨-, hsent⟩ := queue_request_sent_under_written_path rfl hpath htext (by decide) hr
  obtain ⟨written, hwritten, -, hsame⟩ := hsent _ _ _ _ _ hq
  exact ⟨r, q, written, hr, hq, hwritten, hsame.2 (by decide)⟩

/-- A triplet in the path of a queue is encoded once more: a request about the queue `q` is sent
under a path that stands for three other characters. -/
theorem triplet_is_encoded_again :
    Name.queuePath "http://h/1/%71" = .ok "/1/%71" ∧ Percent.IsPathText "/1/%71".toList ∧
      Percent.decode? "/1/%71".toList = some "/1/q".toList ∧
      ∃ r q written, QueueCall.request "2012-11-05" (.deleteQueue "http://h/1/%71") = .ok r ∧
        Signer.queryV2.sign r ⟨"id", "secret", none⟩ { url := "http://h" }
          ⟨2024, 1, 1, 0, 0, 0, 0, some 0⟩ = .ok q ∧
        Wire.writtenPath? q.url = some written ∧
          Percent.decode? written = some "/1/%71".toList := by
  have htext : Percent.IsPathText "/1/%71".toList :=
    .slash (.unreserved (by decide) (.slash (.triplet rfl rfl .nil)))
  have hbytes : Percent.decodeBytes "/1/%71".toList = Utf8.encode "/1/q".toList := by decide
  have hmeans : Percent.decode? "/1/%71".toList = some "/1/q".toList := by
    rw [Percent.decode?, hbytes, Utf8.decode?_encode]
  obtain ⟨r, hr, q, hq⟩ :
      ∃ r, QueueCall.request "2012-11-05" (.deleteQueue "http://h/1/%71") = .ok r ∧
      ∃ q, Signer.queryV2.sign r ⟨"id", "secret", none⟩ { url := "http://h" }
        ⟨2024, 1, 1, 0, 0, 0, 0, some 0⟩ = .ok q := ⟨_, rfl, _, rfl⟩
  have hsent := Signer.writtenPath?_of_sign hq
  have hpath : r.path = "/1/%71" := Except.ok.inj (QueueCall.queuePath_of_request rfl hr).symm
  rw [hpath] at hsent
  refine ⟨rfl, htext, hmeans, r, q, _, hr, hq, hsent, ?_⟩
  rw [Percent.path, String.toList_ofList, Percent.decode?_encode (by decide)]

end CloudClient
