import CloudClient.Proofs.Decode
import CloudClient.Proofs.Text.Case

/-!
# Checksums of messages

A received message may have a checksum of its body, and a sent message is answered with one. Main
statements: the checksums in a decoded result fit, and a good response with a checksum that does not
fit is decoded to the fault that tells of the first one in the document.
-/

namespace CloudClient

/-! ## Written checksums -/

/-- A checksum holds none but the digits of hexadecimal numbers, the letters being small. -/
theorem exists_hexDigit_of_mem_md5Text {s : String} {c : Char} (hc : c ∈ (md5Text s).toList) :
    ∃ n < 16, c = Text.hexDigit n := by
  rw [md5Text, Hex.ofBytes, String.toList_ofList] at hc
  obtain ⟨b, -, hb⟩ := List.mem_flatMap.1 hc
  have hsize : b.toNat < 256 := b.toNat_lt
  simp only [Hex.encodeByte, List.mem_cons, List.not_mem_nil, or_false] at hb
  rcases hb with rfl | rfl
  · exact ⟨b.toNat / 16, by omega, rfl⟩
  · exact ⟨b.toNat % 16, by omega, rfl⟩

/-- A checksum is in small letters. -/
theorem lowered_md5Text (s : String) : Text.lowered (md5Text s) = md5Text s := by
  have hsmall : ∀ n < 16, Text.IsSmall (Text.hexDigit n) := by decide
  rw [Text.lowered, Text.lower_eq_self, String.ofList_toList]
  intro c hc
  obtain ⟨n, hn, rfl⟩ := exists_hexDigit_of_mem_md5Text hc
  exact hsmall n hn

/-! ## Checksums that fit -/

/-- A checksum is that of a text, in letters of either case. -/
def IsChecksumOf (md5 text : String) : Prop := Text.lowered md5 = md5Text text

/-- The checksum of a message is that of its body, or there is none. -/
def Message.IsIntact (m : Message) : Prop := m.md5OfBody ≠ "" → IsChecksumOf m.md5OfBody m.body

/-- The checksums in a result are those of the received messages and of the message that was sent.
-/
def Result.IsIntact (sent : Option String) : Result → Prop
  | receiveMessage messages _ => ∀ m ∈ messages, m.IsIntact
  | sendMessage _ md5 _ => ∀ body ∈ sent, IsChecksumOf md5 body
  | _ => True

/-- A message is intact when the decoder takes it for intact. -/
theorem Message.isIntact_iff {m : Message} : m.IsIntact ↔ Decode.isIntact m = true := by
  rw [IsIntact, IsChecksumOf, Decode.isIntact, Bool.or_eq_true, String.isEmpty_iff, beq_iff_eq,
    Decidable.imp_iff_not_or, not_not]

/-! ## Checksums that do not fit -/

namespace CallInfo

open Document QueueDocument

/-- A response can be read and has a checksum that does not fit: that of one of its messages, or the
one that answers the message that was sent. -/
inductive IsCorrupt (c : CallInfo) (r : Response) : Prop where
  | received {root : Xml.Node} {messages : List Message} {m : Message}
      (hc : c.operation = .receiveMessage) (hroot : Document.root r.body = .ok root)
      (hmessages : (root.allNamed "Message").mapM message = .ok messages)
      (hmem : m ∈ messages) (hm : ¬m.IsIntact)
  | sent {root : Xml.Node} {messageId md5 body : String}
      (hc : c.operation = .sendMessage) (hroot : Document.root r.body = .ok root)
      (hid : requiredBelow root "MessageId" = .ok messageId)
      (hmd5 : requiredBelow root "MD5OfMessageBody" = .ok md5)
      (hbody : c.sentBody = some body) (hm : ¬IsChecksumOf md5 body)

/-- A fault tells of the first checksum in a response that does not fit: of a received message it
has the checksum that the service gave and then that of the body, of a sent one the two the other
way round. -/
inductive Mismatch (c : CallInfo) (r : Response) : Fault → Prop where
  | received {root : Xml.Node} {before after : List Message} {m : Message}
      (hc : c.operation = .receiveMessage) (hroot : Document.root r.body = .ok root)
      (hmessages : (root.allNamed "Message").mapM message = .ok (before ++ m :: after))
      (hbefore : ∀ p ∈ before, p.IsIntact) (hm : ¬m.IsIntact) :
      Mismatch c r (.integrityMismatch c.operation c.resource (requestId r (some root)) m.md5OfBody
        (md5Text m.body))
  | sent {root : Xml.Node} {messageId md5 body : String}
      (hc : c.operation = .sendMessage) (hroot : Document.root r.body = .ok root)
      (hid : requiredBelow root "MessageId" = .ok messageId)
      (hmd5 : requiredBelow root "MD5OfMessageBody" = .ok md5)
      (hbody : c.sentBody = some body) (hm : ¬IsChecksumOf md5 body) :
      Mismatch c r
        (.integrityMismatch c.operation c.resource (requestId r (some root)) (md5Text body)
        md5)

variable {c : CallInfo} {r : Response} {f : Fault}

/-- Such a fault is one of the operation and names its code. -/
theorem Mismatch.tells (h : c.Mismatch r f) :
    f.Tells c.operation c.resource ∧ f.code = .integrityMismatch := by
  cases h <;> exact ⟨⟨_, rfl, rfl⟩, rfl⟩

end CallInfo

namespace Decode

open Document QueueDocument

variable {c : CallInfo} {r : Response}

/-- The checks let a result through as it is, and then its checksums fit. -/
theorem isIntact_of_checked {x y : Result} (h : checked c x = .ok y) :
    y = x ∧ x.IsIntact c.sentBody := by
  cases x with
  | sendMessage messageId md5 requestId =>
    rw [checked] at h
    cases hsent : c.sentBody with
    | none =>
      rw [hsent] at h
      exact ⟨(Except.ok.inj h).symm, fun body hbody => by cases hbody⟩
    | some sent =>
      rw [hsent] at h
      dsimp only at h
      split at h
      · rename_i hfits
        refine ⟨(Except.ok.inj h).symm, fun body hbody => ?_⟩
        obtain rfl := Option.some.inj hbody
        exact hfits
      · cases h
  | receiveMessage messages requestId =>
    rw [checked] at h
    split at h
    · rename_i hnone
      refine ⟨(Except.ok.inj h).symm, fun m hm => ?_⟩
      have hfits := List.find?_eq_none.1 hnone m hm
      rw [Bool.not_eq_true', Bool.not_eq_false] at hfits
      exact Message.isIntact_iff.2 hfits
    · cases h
  | _ => exact ⟨(Except.ok.inj h).symm, trivial⟩

/-- The checks stop at the first message whose checksum does not fit. -/
theorem checked_receiveMessage {before after : List Message} {m : Message}
    (requestId : Option String) (hbefore : ∀ p ∈ before, p.IsIntact) (hm : ¬m.IsIntact) :
    checked c (.receiveMessage (before ++ m :: after) requestId) =
      .error
        (.integrityMismatch c.operation c.resource requestId m.md5OfBody (md5Text m.body)) := by
  have hfind : (before ++ m :: after).find? (fun m => !isIntact m) = some m := by
    rw [List.find?_eq_some_iff_append]
    refine ⟨by simpa [Message.isIntact_iff] using hm, before, after, rfl, fun p hp => ?_⟩
    rw [Message.isIntact_iff.1 (hbefore p hp)]
    rfl
  rw [checked, hfind]

end Decode

/-! ## Decoded responses -/

namespace QueueDocument

open Document

variable {c : CallInfo} {r : Response} {n : Xml.Node}

/-- A document is read as the messages that its elements describe. -/
theorem result_receiveMessage (hc : c.operation = .receiveMessage) (hroot : root r.body = .ok n)
    {messages : List Message} (hmessages : (n.allNamed "Message").mapM message = .ok messages) :
    Decode.result c r = .ok (.ok (.receiveMessage messages (requestId r (some n)))) := by
  have hread : receiveMessage r = .ok (.receiveMessage messages (requestId r (some n))) := by
    rw [receiveMessage, bind_of_eq_ok hroot, bind_of_eq_ok hmessages]
    rfl
  simp only [Decode.result, hc, hread]
  rfl

/-- A document is read as the id and the checksum of the message that was sent. -/
theorem result_sendMessage (hc : c.operation = .sendMessage) (hroot : root r.body = .ok n)
    {messageId md5 : String} (hid : requiredBelow n "MessageId" = .ok messageId)
    (hmd5 : requiredBelow n "MD5OfMessageBody" = .ok md5) :
    Decode.result c r = .ok (.ok (.sendMessage messageId md5 (requestId r (some n)))) := by
  have hread : sendMessage r = .ok (.sendMessage messageId md5 (requestId r (some n))) := by
    rw [sendMessage, bind_of_eq_ok hroot, bind_of_eq_ok hid, bind_of_eq_ok hmd5]
    rfl
  simp only [Decode.result, hc, hread]
  rfl

end QueueDocument

section Decoded

open QueueDocument

variable {c : CallInfo} {r : Response} {f : Fault}

/-- A good response is decoded to its result when that passes the checks. -/
theorem decode_of_result {x : Result} (hok : r.isOk = true) (h : Decode.result c r = .ok (.ok x)) :
    decode c r = .ok (Decode.checked c x) := by
  have hchanged : ¬(r.status = 304 ∧ c.operation = .get) := by
    rintro ⟨hstatus, -⟩
    rw [Response.isOk, hstatus] at hok
    cases hok
  rw [decode, if_neg hchanged, hok, h]
  rfl

/-- **The checksums in a decoded result fit.** -/
theorem isIntact_of_decode {x : Result} (h : decode c r = .ok (.ok x)) :
    x.operation = c.operation ∧ x.IsIntact c.sentBody := by
  refine ⟨?_, ?_⟩
  · rcases decode_cases c r with ⟨out, hout, hanswers, -⟩ | ⟨e, he, -⟩
    · rw [h] at hout
      cases hout
      exact hanswers
    · rw [h] at he
      cases he
  · rw [decode] at h
    split at h
    · obtain ⟨info, -, h⟩ := exists_of_bind_eq_ok h
      cases h
      trivial
    · split at h
      · cases h
      · cases hresult : Decode.result c r with
        | error e =>
          rw [hresult] at h
          cases h
        | ok out =>
          rw [hresult] at h
          obtain ⟨y, rfl, hy⟩ := exists_of_bind_eq_ok (Except.ok.inj h)
          obtain ⟨rfl, hintact⟩ := Decode.isIntact_of_checked hy
          exact hintact

/-- **The fault of a good response tells of the first checksum that does not fit.** -/
theorem decode_of_mismatch (hok : r.isOk = true) (h : c.Mismatch r f) :
    decode c r = .ok (.error f) := by
  cases h with
  | received hc hroot hmessages hbefore hm =>
    rw [decode_of_result hok (result_receiveMessage hc hroot hmessages),
      Decode.checked_receiveMessage _ hbefore hm]
  | sent hc hroot hid hmd5 hbody hm =>
    rw [decode_of_result hok (result_sendMessage hc hroot hid hmd5), Decode.checked, hbody]
    exact congrArg Except.ok (if_neg hm)

/-- A response with a checksum that does not fit has a first one. -/
theorem exists_mismatch (h : c.IsCorrupt r) : ∃ f, c.Mismatch r f := by
  cases h with
  | @received root messages m hc hroot hmessages hmem hm =>
    have hfound : (messages.find? fun m => !Decode.isIntact m).isSome = true := by
      rw [List.find?_isSome]
      exact ⟨m, hmem, by simpa [Message.isIntact_iff] using hm⟩
    obtain ⟨first, hfirst⟩ := Option.isSome_iff_exists.1 hfound
    obtain ⟨hcorrupt, before, after, rfl, hbefore⟩ := List.find?_eq_some_iff_append.1 hfirst
    refine ⟨_, .received hc hroot hmessages (fun p hp => ?_) ?_⟩
    · have hintact := hbefore p hp
      rw [Bool.not_not] at hintact
      exact Message.isIntact_iff.2 hintact
    · simpa [Message.isIntact_iff] using hcorrupt
  | sent hc hroot hid hmd5 hbody hm => exact ⟨_, .sent hc hroot hid hmd5 hbody hm⟩

end Decoded

end CloudClient
