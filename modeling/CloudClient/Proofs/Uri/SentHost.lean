import CloudClient.Proofs.Endpoint
import CloudClient.Proofs.Number.Integer
import CloudClient.Proofs.Uri.LoweredAddress
import CloudClient.Proofs.Uri.Reading
import Mathlib.Data.Nat.Digits.Defs

/-!
# Hosts that are sent

A request is sent to the host of its endpoint, which is written without the user information, in
lower case and without the port of the scheme. Main statement: the host of a valid endpoint holds
nothing that ends an authority or sets off user information, and an endpoint at that host is valid
and has it, unless the host is an address of a later version with a bracket in it.
-/

namespace CloudClient

namespace Uri

open Address

/-! ## The host of a locator that is read -/

variable {s : String} {u : Uri} {c : Char}

/-- The host of a locator is its written host in lower case. -/
theorem toList_host (u : Uri) : u.host.toList = lowerHost u.hostAndPort.1 := by
  rw [host, lowerHost, Text.fromSep]
  dsimp only
  rw [String.toList_ofList]
  cases (Text.cut '%' u.hostAndPort.1).2 <;> rfl

/-- A written host stands behind the user information. -/
theorem at_not_mem_hostAndPort (u : Uri) : '@' ∉ u.hostAndPort.1 := by
  intro hmem
  rw [hostAndPort] at hmem
  dsimp only at hmem
  split at hmem
  · rename_i hbracket
    exact Text.sep_not_mem_cutLast '@' _
      (Text.mem_of_cut_eq_some (by rw [hbracket]) (Text.mem_of_mem_cut hmem))
  · exact Text.sep_not_mem_cutLast '@' _ (Text.mem_of_mem_cut hmem)

/-- The host that is checked in an authority with brackets is the written host. -/
theorem eq_of_bracketedHost {host : List Char} (h : bracketedHost u.authority.toList = .ok host) :
    host = u.hostAndPort.1 := by
  unfold bracketedHost hostAndPort at *
  dsimp only at h ⊢
  split at h
  · split at h
    · exact (Except.ok.inj h).symm
    · cases h
  · exact (Except.ok.inj h).symm

/-- An authority with a bracket has both kinds, and its host is an address. -/
theorem checkBracketed_of_mem (h : read s = .ok u)
    (hmem : '[' ∈ u.authority.toList ∨ ']' ∈ u.authority.toList) :
    checkBracketed u.hostAndPort.1 = .ok () := by
  have hbrackets := (hasParts_of_read h).brackets
  rw [checkBrackets] at hbrackets
  obtain ⟨hboth, hbrackets⟩ := not_and_eq_ok_of_guard hbrackets
  have hopen : u.authority.toList.contains '[' = true := by
    rcases hmem with hopen | hclose
    · exact List.contains_iff_mem.2 hopen
    · rw [bne_iff_ne, ne_eq, Decidable.not_not] at hboth
      rw [hboth]
      exact List.contains_iff_mem.2 hclose
  rw [if_pos hopen] at hbrackets
  obtain ⟨host, hhost, hchecked⟩ := exists_of_bind_eq_ok hbrackets
  rwa [← eq_of_bracketedHost hhost]

/-- A written host in brackets is an address without closing brackets; one without brackets around
it holds neither colons nor opening brackets. -/
theorem hostAndPort_cases (u : Uri) :
    ('[' ∈ u.authority.toList ∧ ']' ∉ u.hostAndPort.1) ∨
      (':' ∉ u.hostAndPort.1 ∧ '[' ∉ u.hostAndPort.1) := by
  rw [hostAndPort]
  dsimp only
  split
  · rename_i hbracket
    refine .inl ⟨?_, Text.sep_not_mem_cut ']' _⟩
    exact Text.mem_of_mem_cutLast (Text.sep_mem_of_cut_eq_some (by rw [hbracket]))
  · rename_i hbracket
    refine .inr ⟨Text.sep_not_mem_cut ':' _, fun hmem => ?_⟩
    have hnone := Text.cut_append_fromSep '[' (Text.cutLast '@' u.authority.toList).2
    rw [Text.fromSep, hbracket, Option.elim_none, List.append_nil] at hnone
    have hbefore := Text.sep_not_mem_cut '[' (Text.cutLast '@' u.authority.toList).2
    rw [hbracket, hnone] at hbefore
    exact hbefore (Text.mem_of_mem_cut hmem)

/-- A host as it is sent, by the characters in it. -/
inductive HostForm (host : List Char) : Prop where
  /-- An address that is sent in brackets. -/
  | address (hcolon : ':' ∈ host) (hclose : ']' ∉ host) (hchecked : checkBracketed host = .ok ())
  | name (hcolon : ':' ∉ host) (hopen : '[' ∉ host) (hclose : ']' ∉ host)
  /-- An address that is sent without the brackets that stood around it, and holds one itself. -/
  | broken (hcolon : ':' ∉ host) (hone : ¬('[' ∈ host ↔ ']' ∈ host))
    (hfuture : isFuture host = true)

/-- **The host of a locator has one of these forms.** -/
theorem hostForm_of_read (h : read s = .ok u) : HostForm u.host.toList := by
  have hbefore : ∀ {c : Char}, c ∈ lowerHost u.hostAndPort.1 → c.toNat < 0x61 →
      c ∈ u.hostAndPort.1 := mem_of_mem_lowerHost
  have hauthority : ∀ {c : Char}, c ∈ lowerHost u.hostAndPort.1 → c.toNat < 0x61 →
      c ∈ u.authority.toList :=
    fun hc hlt => mem_of_mem_hostAndPort (hbefore hc hlt)
  rw [toList_host]
  -- Colons and brackets stand before the small letters, so that none comes from lowering.
  by_cases hcolon : ':' ∈ lowerHost u.hostAndPort.1
  · rcases hostAndPort_cases u with ⟨hopen, hclose⟩ | ⟨hnone, -⟩
    · exact .address hcolon (fun hmem => hclose (hbefore hmem (by decide)))
        (checkBracketed_lowerHost (checkBracketed_of_mem h (.inl hopen)))
    · exact absurd (hbefore hcolon (by decide)) hnone
  · by_cases hmem : '[' ∈ lowerHost u.hostAndPort.1 ∨ ']' ∈ lowerHost u.hostAndPort.1
    · have hchecked := checkBracketed_lowerHost (checkBracketed_of_mem h
        (hmem.imp (fun hopen => hauthority hopen (by decide)) fun hclose =>
          hauthority hclose (by decide)))
      refine .broken hcolon ?_ (((checkBracketed_iff _).1 hchecked).resolve_right fun hhex =>
        hcolon (colon_mem_of_isColonHex hhex))
      intro hsame
      rcases hostAndPort_cases u with ⟨-, hclose⟩ | ⟨-, hopen⟩
      · exact hclose (hbefore (hmem.elim hsame.1 id) (by decide))
      · exact hopen (hbefore (hmem.elim id hsame.2) (by decide))
    · rw [not_or] at hmem
      exact .name hcolon hmem.1 hmem.2

/-! ## Characters of hosts -/

/-- Lower-casing makes no character that stands for a separator. -/
theorem folded_of_mem_lower {t : List Char} (h : ∀ c ∈ t, c.toNat ∉ foldedSeparators)
    (hc : c ∈ Text.lower t) : c.toNat ∉ foldedSeparators := by
  -- What would go to a separator by a run of capitals lies outside of that run, for every run.
  have hapart : (Text.capitalRuns.all fun r =>
      foldedSeparators.all fun f => !Text.inRun ((f : Int) - r.2.2.2).toNat r) = true := by
    decide +kernel
  have hascii : ∀ n < 0x5B, (Char.ofNat (n + 0x20)).toNat ∉ foldedSeparators := by decide
  obtain ⟨before, d, hd, after, hat⟩ := Text.exists_of_mem_lower hc
  unfold Text.lowerAt at hat
  split at hat
  · obtain rfl := List.mem_singleton.1 hat
    split
    · decide
    · decide
  · split at hat
    · rcases List.mem_cons.1 hat with rfl | hat
      · decide
      · obtain rfl := List.mem_singleton.1 hat
        decide
    · obtain rfl := List.mem_singleton.1 hat
      rcases Text.lowerChar_cases d with hsame | ⟨-, hlast, hsmall⟩ | ⟨r, hr, hin, hsmall⟩
      · rw [hsame]
        exact h d hd
      · rw [hsmall]
        exact hascii d.toNat (by omega)
      · intro hmem
        have hletter := Text.isLetterNumber_of_run hr hin
        have hrun := List.all_eq_true.1 (List.all_eq_true.1 hapart r hr) _ hmem
        rw [hsmall, Text.toNat_ofNat_of_isLetterNumber hletter] at hrun
        have hback : ((((d.toNat : Int) + r.2.2.2).toNat : Int) - r.2.2.2).toNat = d.toNat := by
          simp only [Text.isLetterNumber, Bool.and_eq_true, decide_eq_true_eq] at hletter
          omega
        rw [hback, hin] at hrun
        cases hrun

/-- A character that may stand in the authority of a locator. -/
structure IsHostChar (c : Char) : Prop where
  ends : endsAuthority c = false
  ignored : isIgnored c = false
  folded : c.toNat ∉ foldedSeparators

instance : DecidablePred IsHostChar := fun c =>
  decidable_of_iff (endsAuthority c = false ∧ isIgnored c = false ∧ c.toNat ∉ foldedSeparators)
    ⟨fun ⟨ends, ignored, folded⟩ => ⟨ends, ignored, folded⟩, fun h => ⟨h.ends, h.ignored, h.folded⟩⟩

/-- The characters of a host are of this kind. -/
theorem isHostChar_of_mem_host (h : read s = .ok u) (hc : c ∈ u.host.toList) : IsHostChar c where
  ends := not_endsAuthority_of_mem_host h hc
  ignored := by
    by_cases hsmall : c.toNat < 0x61
    · exact isIgnored_of_mem_authority h (mem_of_mem_host hc hsmall)
    · refine Bool.eq_false_iff.2 fun hignored => hsmall ?_
      simp only [isIgnored, Bool.or_eq_true, beq_iff_eq] at hignored
      rcases hignored with (rfl | rfl) | rfl
      all_goals decide
  folded := by
    have hwritten : ∀ d ∈ u.hostAndPort.1, d.toNat ∉ foldedSeparators := fun d hd =>
      folded_of_mem_authority h (mem_of_mem_hostAndPort hd)
    rw [toList_host] at hc
    rcases List.mem_append.1 hc with hc | hc
    · exact folded_of_mem_lower (fun d hd => hwritten d (Text.mem_of_mem_cut hd)) hc
    · refine hwritten c ?_
      rw [← Text.cut_append_fromSep '%' u.hostAndPort.1]
      exact List.mem_append_right _ hc

/-! ## Authorities that are sent -/

/-- A host as it is sent: in brackets when it holds a colon. -/
def sentName (host : List Char) : List Char := if ':' ∈ host then '[' :: (host ++ [']']) else host

/-- The digits of a port. -/
def portDigits (port : Option Nat) : List Char := port.elim [] fun n => Nat.toDigits 10 n

/-- A port as it is sent. -/
def sentPort (port : Option Nat) : List Char := port.elim [] fun n => ':' :: Nat.toDigits 10 n

/-- A host and a port as they are sent. -/
def sentAuthority (host : List Char) (port : Option Nat) : List Char :=
  sentName host ++ sentPort port

variable {host : List Char} {port : Option Nat}

/-- The text of a host that is sent in brackets. -/
theorem sentAuthority_of_colon (hcolon : ':' ∈ host) (port : Option Nat) :
    sentAuthority host port = '[' :: (host ++ ']' :: sentPort port) := by
  rw [sentAuthority, sentName, if_pos hcolon, List.cons_append, List.append_assoc]
  rfl

/-- The text of a host that is sent without them. -/
theorem sentAuthority_of_not_colon (hcolon : ':' ∉ host) (port : Option Nat) :
    sentAuthority host port = host ++ sentPort port := by
  rw [sentAuthority, sentName, if_neg hcolon]

/-- A port is sent as a colon and digits. -/
theorem of_mem_sentPort (h : c ∈ sentPort port) : c = ':' ∨ Text.isAsciiDigit c = true := by
  cases port with
  | none => cases h
  | some n =>
    rcases List.mem_cons.1 h with rfl | h
    · exact .inl rfl
    · refine .inr ?_
      have hdigit :=
        Char.isDigit_iff_toNat.1 (Nat.isDigit_of_mem_toDigits (by decide) (by decide) h)
      rw [Text.isAsciiDigit, Bool.and_eq_true, decide_eq_true_eq, decide_eq_true_eq]
      exact hdigit

/-- The characters of a port may stand in an authority, and are no brackets or marks. -/
theorem isHostChar_of_mem_sentPort (h : c ∈ sentPort port) :
    IsHostChar c ∧ c ∉ ['[', ']', '@'] := by
  have hall : ∀ n < 0x80, Char.ofNat n = ':' ∨ Text.isAsciiDigit (Char.ofNat n) = true →
      IsHostChar (Char.ofNat n) ∧ Char.ofNat n ∉ ['[', ']', '@'] := by decide
  have hlt : c.toNat < 0x80 := by
    rcases of_mem_sentPort h with rfl | hdigit
    · decide
    · rw [Text.isAsciiDigit, Bool.and_eq_true, decide_eq_true_eq, decide_eq_true_eq] at hdigit
      omega
  exact forall_of_lt
    (P := fun c => c = ':' ∨ Text.isAsciiDigit c = true → IsHostChar c ∧ c ∉ ['[', ']', '@'])
    hall hlt (of_mem_sentPort h)

/-- A host is sent with its own characters and brackets. -/
theorem of_mem_sentName (h : c ∈ sentName host) :
    c ∈ host ∨ (':' ∈ host ∧ (c = '[' ∨ c = ']')) := by
  unfold sentName at h
  split at h
  · rename_i hcolon
    simp only [List.mem_cons, List.mem_append, List.not_mem_nil, or_false] at h
    rcases h with rfl | h | rfl
    · exact .inr ⟨hcolon, .inl rfl⟩
    · exact .inl h
    · exact .inr ⟨hcolon, .inr rfl⟩
  · exact .inl h

/-- Something is sent of a host that has characters. -/
theorem sentAuthority_ne_nil (hne : host ≠ []) (port : Option Nat) :
    sentAuthority host port ≠ [] := by
  refine List.append_ne_nil_of_left_ne_nil ?_ _
  unfold sentName
  split
  · exact List.cons_ne_nil _ _
  · exact hne

/-- What is sent of a host may stand in an authority. -/
theorem isHostChar_of_mem_sentAuthority (hhost : ∀ c ∈ host, IsHostChar c)
    (h : c ∈ sentAuthority host port) : IsHostChar c := by
  rcases List.mem_append.1 h with h | h
  · rcases of_mem_sentName h with h | ⟨-, rfl | rfl⟩
    · exact hhost c h
    · decide
    · decide
  · exact (isHostChar_of_mem_sentPort h).1

/-- No mark of user information is sent. -/
theorem at_not_mem_sentAuthority (hhost : '@' ∉ host) : '@' ∉ sentAuthority host port := by
  intro h
  rcases List.mem_append.1 h with h | h
  · rcases of_mem_sentName h with h | ⟨-, h | h⟩
    · exact hhost h
    · cases h
    · cases h
  · exact (isHostChar_of_mem_sentPort h).2 (by decide)

/-- **What is sent of a host and a port is taken apart into them.** -/
theorem hostAndPort_of_sentAuthority {v : Uri} (hat : '@' ∉ host) (hopen : ':' ∉ host → '[' ∉ host)
    (hclose : ':' ∈ host → ']' ∉ host) (hv : v.authority.toList = sentAuthority host port) :
    v.hostAndPort = (host, portDigits port) := by
  have hdigits : ∀ front : List Char, ':' ∉ front →
      (Text.cut ':' (front ++ sentPort port)).1 = front ∧
        ((Text.cut ':' (front ++ sentPort port)).2.getD []) = portDigits port := by
    intro front hfront
    cases port with
    | none =>
      have hcut : Text.cut ':' (front ++ []) = (front, none) := by
        rw [List.append_nil, Text.cut_of_not_mem hfront]
      rw [sentPort, Option.elim_none, hcut]
      exact ⟨rfl, rfl⟩
    | some n =>
      rw [sentPort, Option.elim_some, Text.cut_append_sep hfront]
      exact ⟨rfl, rfl⟩
  rw [hostAndPort, hv, Text.cutLast_of_not_mem (at_not_mem_sentAuthority hat)]
  by_cases hcolon : ':' ∈ host
  · have hafter := (hdigits [] List.not_mem_nil).2
    rw [sentAuthority_of_colon hcolon, Text.cut, if_pos rfl]
    dsimp only
    rw [Text.cut_append_sep (hclose hcolon)]
    exact Prod.ext rfl hafter
  · have hnone : '[' ∉ host ++ sentPort port := by
      rw [List.mem_append, not_or]
      exact ⟨hopen hcolon, fun h => (isHostChar_of_mem_sentPort h).2 (by decide)⟩
    obtain ⟨hfirst, hlast⟩ := hdigits host hcolon
    rw [sentAuthority_of_not_colon hcolon, Text.cut_of_not_mem hnone]
    exact Prod.ext hfirst hlast

/-- A port of a locator is below 65536. -/
theorem le_of_port {n : Nat} (h : u.port = .ok (some n)) : n ≤ 65535 := by
  rw [Uri.port] at h
  split at h
  · cases h
  · split at h
    · cases h
    · split at h
      · cases h
      · split at h
        · rename_i hle
          obtain rfl := Option.some.inj (Except.ok.inj h)
          omega
        · cases h

/-- The digits of a port are read as that port. -/
theorem port_of_portDigits {v : Uri} (hv : v.hostAndPort.2 = portDigits port)
    (hle : ∀ n, port = some n → n ≤ 65535) : v.port = .ok port := by
  rw [Uri.port, hv]
  cases port with
  | none => rfl
  | some n =>
    have hshort : (Nat.toDigits 10 n).length ≤ Number.maxDigits := by
      have hlength :=
        Nat.toDigits_length 10 n 5 (by decide) (Nat.lt_of_le_of_lt (hle n rfl) (by decide))
      rw [Number.maxDigits]
      omega
    have hempty : (Nat.toDigits 10 n).isEmpty = false :=
      List.isEmpty_eq_false_iff.2 Nat.toDigits_ne_nil
    have hdigits : (Nat.toDigits 10 n).all Text.isAsciiDigit = true := by
      refine List.all_eq_true.2 fun c hc => ?_
      have hdigit :=
        Char.isDigit_iff_toNat.1 (Nat.isDigit_of_mem_toDigits (by decide) (by decide) hc)
      rw [Text.isAsciiDigit, Bool.and_eq_true, decide_eq_true_eq, decide_eq_true_eq]
      exact hdigit
    have hsmall : (n : Int) ≤ 65535 := by
      have := hle n rfl
      omega
    have hwritten : portDigits (some n) = Nat.toDigits 10 n := rfl
    rw [hwritten, hempty, hdigits, Number.readInt_toDigits hshort]
    exact if_pos hsmall

/-! ## Reading what is sent -/

/-- A host that is sent without brackets is sent with the brackets that it holds. -/
theorem bracket_mem_sentAuthority (hcolon : ':' ∉ host) (hc : c = '[' ∨ c = ']') :
    c ∈ sentAuthority host port ↔ c ∈ host := by
  have hport : c ∉ sentPort port := fun h => (isHostChar_of_mem_sentPort h).2 (by
    rcases hc with rfl | rfl
    · decide
    · decide)
  rw [sentAuthority_of_not_colon hcolon, List.mem_append, or_iff_left hport]

/-- The brackets around an address are accepted. -/
theorem checkBrackets_of_colon (hat : '@' ∉ host) (hcolon : ':' ∈ host) (hclose : ']' ∉ host)
    (hchecked : checkBracketed host = .ok ()) :
    checkBrackets (sentAuthority host port) = .ok () := by
  have hport : ((sentPort port).isEmpty || (sentPort port).head? == some ':') = true := by
    cases port <;> rfl
  have hbracketed : bracketedHost (sentAuthority host port) = .ok host := by
    rw [bracketedHost, Text.cutLast_of_not_mem (at_not_mem_sentAuthority hat),
      sentAuthority_of_colon hcolon, Text.cut, if_pos rfl]
    dsimp only
    rw [Text.cut_append_sep hclose]
    exact if_pos hport
  have hopening : (sentAuthority host port).contains '[' = true := by
    rw [sentAuthority_of_colon hcolon, List.contains_iff_mem]
    exact List.mem_cons_self
  have hclosing : (sentAuthority host port).contains ']' = true := by
    rw [sentAuthority_of_colon hcolon, List.contains_iff_mem]
    exact List.mem_cons_of_mem _ (List.mem_append_right _ List.mem_cons_self)
  rw [checkBrackets, hbracketed, hopening, hclosing]
  exact hchecked

/-- A host that is broken is sent with one kind of brackets. -/
theorem sentAuthority_of_broken (hcolon : ':' ∉ host) (hone : ¬('[' ∈ host ↔ ']' ∈ host)) :
    ¬('[' ∈ sentAuthority host port ↔ ']' ∈ sentAuthority host port) := by
  rwa [bracket_mem_sentAuthority hcolon (.inl rfl), bracket_mem_sentAuthority hcolon (.inr rfl)]

/-- **What is sent with both kinds of brackets or none is accepted**, and is taken apart into its
parts. -/
theorem HostForm.of_balanced (h : HostForm host) (hat : '@' ∉ host)
    (hsame : '[' ∈ sentAuthority host port ↔ ']' ∈ sentAuthority host port) :
    checkBrackets (sentAuthority host port) = .ok () ∧
      ∀ v : Uri, v.authority.toList = sentAuthority host port →
        v.hostAndPort = (host, portDigits port) := by
  cases h with
  | address hcolon hclose hchecked =>
    exact ⟨checkBrackets_of_colon hat hcolon hclose hchecked, fun v =>
      hostAndPort_of_sentAuthority hat (fun hnone => absurd hcolon hnone) fun _ => hclose⟩
  | name hcolon hopen hclose =>
    refine ⟨checkBrackets_of_not_mem ?_ ?_, fun v =>
      hostAndPort_of_sentAuthority hat (fun _ => hopen) fun hsome => absurd hsome hcolon⟩
    · rwa [bracket_mem_sentAuthority hcolon (.inl rfl)]
    · rwa [bracket_mem_sentAuthority hcolon (.inr rfl)]
  | broken hcolon hone hfuture => exact absurd hsame (sentAuthority_of_broken hcolon hone)

/-- **What is sent with one kind of brackets is refused**, and its host is broken. -/
theorem HostForm.of_unbalanced (h : HostForm host)
    (hone : ¬('[' ∈ sentAuthority host port ↔ ']' ∈ sentAuthority host port)) :
    checkBrackets (sentAuthority host port) = .error .unbalancedBrackets ∧
      ':' ∉ host ∧ isFuture host = true := by
  have hkinds : ((sentAuthority host port).contains '[' != (sentAuthority host port).contains ']') =
      true := by
    rw [bne_iff_ne, ne_eq, Bool.eq_iff_iff, List.contains_iff_mem, List.contains_iff_mem]
    exact hone
  refine ⟨by rw [checkBrackets, if_pos hkinds]; rfl, ?_⟩
  cases h with
  | address hcolon hclose hchecked =>
    refine absurd ?_ hone
    rw [sentAuthority_of_colon hcolon]
    exact iff_of_true List.mem_cons_self
      (List.mem_cons_of_mem _ (List.mem_append_right _ List.mem_cons_self))
  | name hcolon hopen hclose =>
    refine absurd ?_ hone
    rw [bracket_mem_sentAuthority hcolon (.inl rfl), bracket_mem_sentAuthority hcolon (.inr rfl)]
    exact iff_of_false hopen hclose
  | broken hcolon _ hfuture => exact ⟨hcolon, hfuture⟩

/-- No mark of user information stands in a host. -/
theorem at_not_mem_host (u : Uri) : '@' ∉ u.host.toList := by
  rw [toList_host]
  exact fun hmem => at_not_mem_hostAndPort u (mem_of_mem_lowerHost hmem (by decide))

/-- A host that is taken from what was sent of another one is that host. -/
theorem host_eq_of_hostAndPort {v : Uri} (h : v.hostAndPort.1 = u.host.toList) :
    v.host = u.host := by
  apply String.toList_inj.1
  rw [toList_host v, h, toList_host u, lowerHost_lowerHost]

end Uri

namespace Endpoint

open Uri

/-! ## The endpoint at a host -/

/-- The port that is sent: the one of the scheme is left out. -/
def portOf (scheme : String) (port : Option Nat) : Option Nat :=
  if defaultPort? scheme = port then none else port

/-- The endpoint at another host: requests to it are sent there. -/
def sentTo (e : Endpoint) (scheme host : String) : Endpoint :=
  { e with url := s!"{scheme}://{host}" }

variable {e : Endpoint} {scheme : String} {port : Option Nat} {u : Uri}

/-- The host of an endpoint is the host of its locator as it is sent. -/
theorem toList_withPort (scheme name : String) (port : Option Nat) :
    (withPort scheme (bracketed name) port).toList =
      sentAuthority name.toList (portOf scheme port) := by
  have hname : (bracketed name).toList = sentName name.toList := by
    rw [bracketed, sentName]
    split
    · rename_i hcolon
      rw [if_pos (List.contains_iff_mem.1 hcolon)]
      simp [toString]
    · rename_i hcolon
      rw [if_neg fun hmem => hcolon (List.contains_iff_mem.2 hmem)]
  rw [sentAuthority, ← hname]
  cases port with
  | none =>
    have hnone : portOf scheme none = none := ite_self none
    rw [hnone]
    exact (List.append_nil _).symm
  | some n =>
    rw [withPort, portOf]
    split
    · exact (List.append_nil _).symm
    · simp [toString, sentPort, Nat.toList_repr]

/-- A port that is sent is the port. -/
theorem eq_some_of_portOf {n : Nat} (h : portOf scheme port = some n) : port = some n := by
  unfold portOf at h
  split at h
  · cases h
  · exact h

/-- Leaving out the port of the scheme changes nothing in what is sent. -/
theorem withPort_portOf (scheme name : String) (port : Option Nat) :
    withPort scheme name (portOf scheme port) = withPort scheme name port := by
  cases port with
  | none =>
    have hnone : portOf scheme none = none := ite_self none
    rw [hnone]
  | some n =>
    rw [portOf]
    split
    · rename_i hdefault
      rw [withPort, withPort, if_pos hdefault]
    · rfl

/-- An endpoint is valid when its locator is accepted and its scheme of signatures is known. -/
theorem validate_of_accepts (hread : Uri.read e.url = .ok u) (hu : Accepts u)
    (hsignature : ∀ name, e.signature ≠ .unknown name) : e.validate = .ok () := by
  have hscheme : ¬(u.scheme != "http" && u.scheme != "https") = true := by
    rcases hu.scheme with h | h
    · rw [h]
      decide
    · rw [h]
      decide
  have hhost : ¬u.host.isEmpty = true := Bool.eq_false_iff.1 hu.host
  obtain ⟨port, hport⟩ := hu.port
  have hpath : ¬(u.path != "" && u.path != "/") = true := by
    rcases hu.path with h | h
    · rw [h]
      decide
    · rw [h]
      decide
  rw [validate, hread]
  refine (if_neg hscheme).trans ((if_neg hhost).trans ((if_neg ?_).trans ((if_neg hpath).trans ?_)))
  · rw [hport]
    exact Bool.false_ne_true
  · split
    · rename_i name hname
      exact absurd hname (hsignature name)
    · rfl

/-- The locator of an endpoint at a host that is sent is read as far as its brackets are accepted.
-/
theorem read_sentTo {host : String} (hread : Uri.read e.url = .ok u)
    (hscheme : scheme = "http" ∨ scheme = "https")
    (hhost : host.toList = sentAuthority u.host.toList port) :
    Uri.read (e.sentTo scheme host).url = (checkBrackets host.toList).map fun _ =>
      { scheme, authority := host, path := "", query := "", fragment := "" } := by
  have hchars : ∀ c ∈ host.toList, IsHostChar c := by
    rw [hhost]
    exact fun c hc =>
      isHostChar_of_mem_sentAuthority (fun c hc => isHostChar_of_mem_host hread hc) hc
  have hurl : (e.sentTo scheme host).url.toList =
      scheme.toList ++ ':' :: '/' :: '/' :: host.toList := by
    simp [sentTo, toString]
  rw [read_of_toList hscheme (fun c hc => (hchars c hc).ends)
    (fun c hc => (hchars c hc).ignored) hurl,
    checkFolded_of_forall fun c hc => (hchars c hc).folded, String.ofList_toList]
  cases checkBrackets host.toList <;> rfl

/-- **The host of a valid endpoint is a normal form, unless brackets that belonged to it are lost.**
The scheme and the host of a valid endpoint are computed, and the host holds nothing that ends an
authority or sets off user information. When it has both kinds of brackets or none, the endpoint at
that host is valid and has the same scheme and host. Otherwise the locator of that endpoint cannot
be taken apart; the host is then an address of a later version without a colon, which is sent
without the brackets around it and holds a bracket itself. -/
theorem sent_host_is_normal_unless_brackets_are_lost (h : e.validate = .ok ()) :
    ∃ scheme host, e.scheme = .ok scheme ∧ e.host = .ok host ∧ host ≠ "" ∧
      (∀ c ∈ ['/', '?', '#', '@'], c ∉ host.toList) ∧
      (('[' ∈ host.toList ↔ ']' ∈ host.toList) →
        (e.sentTo scheme host).validate = .ok () ∧ (e.sentTo scheme host).host = .ok host ∧
          (e.sentTo scheme host).scheme = .ok scheme) ∧
      (¬('[' ∈ host.toList ↔ ']' ∈ host.toList) →
        (e.sentTo scheme host).validate = .error (.uri .unbalancedBrackets) ∧
          ∃ u, Uri.read e.url = .ok u ∧ ':' ∉ u.host.toList ∧
            Address.isFuture u.host.toList = true) := by
  obtain ⟨u, hread, hu, hsignature⟩ := exists_of_validate h
  obtain ⟨port, hport⟩ := hu.port
  have hhost := host_eq_ok hread hport
  have hscheme : e.scheme = .ok u.scheme := by
    rw [Endpoint.scheme, hread]
    rfl
  have hform := hostForm_of_read hread
  have hat := at_not_mem_host u
  have htext := toList_withPort u.scheme u.host port
  have hagain := read_sentTo hread hu.scheme htext
  refine ⟨u.scheme, _, hscheme, hhost, fun hempty => ?_, fun c hc hmem => ?_, fun hsame => ?_,
    fun hone => ?_⟩
  · have hne : u.host.toList ≠ [] := by
      rw [ne_eq, String.toList_eq_nil_iff, ← String.isEmpty_iff, hu.host]
      exact Bool.false_ne_true
    rw [hempty] at htext
    exact sentAuthority_ne_nil hne _ htext.symm
  · rw [htext] at hmem
    have hends :=
      (isHostChar_of_mem_sentAuthority (fun c => isHostChar_of_mem_host hread) hmem).ends
    simp only [List.mem_cons, List.not_mem_nil, or_false] at hc
    rcases hc with rfl | rfl | rfl | rfl
    · cases hends
    · cases hends
    · cases hends
    · exact at_not_mem_sentAuthority hat hmem
  · rw [htext] at hsame
    obtain ⟨hchecked, hparts⟩ := hform.of_balanced hat hsame
    rw [htext, hchecked] at hagain
    obtain ⟨v, hv, hvscheme, hvauthority, hvpath⟩ :
        ∃ v, Uri.read (e.sentTo u.scheme (withPort u.scheme (bracketed u.host) port)).url = .ok v ∧
          v.scheme = u.scheme ∧
          v.authority.toList = sentAuthority u.host.toList (portOf u.scheme port) ∧ v.path = "" :=
      ⟨_, hagain, rfl, htext, rfl⟩
    have hvparts := hparts v hvauthority
    have hvhost : v.host = u.host := host_eq_of_hostAndPort (by rw [hvparts])
    have hvport : v.port = .ok (portOf u.scheme port) :=
      port_of_portDigits (by rw [hvparts]) fun n hn =>
        le_of_port (hport.trans (by rw [eq_some_of_portOf hn]))
    refine ⟨validate_of_accepts hv ⟨?_, ?_, ⟨_, hvport⟩, .inl hvpath⟩ hsignature, ?_, ?_⟩
    · rw [hvscheme]
      exact hu.scheme
    · rw [hvhost]
      exact hu.host
    · rw [host_eq_ok hv hvport, hvhost, hvscheme, withPort_portOf]
    · rw [Endpoint.scheme, hv, ← hvscheme]
      rfl
  · rw [htext] at hone
    obtain ⟨hrefused, hcolon, hfuture⟩ := hform.of_unbalanced hone
    rw [htext, hrefused] at hagain
    refine ⟨?_, u, hread, hcolon, hfuture⟩
    rw [validate, hagain]
    rfl

/-- An address with a zone, written after user information, in capitals and with the port of the
scheme, is sent as it is read again. -/
theorem zoned_address_is_normal :
    validate { url := "https://u:p@[FE80::1%Eth0]:0443/" } = .ok () ∧
      host { url := "https://u:p@[FE80::1%Eth0]:0443/" } = .ok "[fe80::1%Eth0]" ∧
      validate { url := "https://[fe80::1%Eth0]" } = .ok () ∧
      host { url := "https://[fe80::1%Eth0]" } = .ok "[fe80::1%Eth0]" ∧
      Endpoint.scheme { url := "https://[fe80::1%Eth0]" } = .ok "https" := by
  have hvalid : validate { url := "https://u:p@[FE80::1%Eth0]:0443/" } = .ok () := by rfl
  obtain ⟨scheme, host, hscheme, hhost, -, -, hagain, -⟩ :=
    sent_host_is_normal_unless_brackets_are_lost hvalid
  obtain rfl : "https" = scheme := Except.ok.inj hscheme
  obtain rfl : "[fe80::1%Eth0]" = host := Except.ok.inj hhost
  exact ⟨hvalid, hhost, hagain (by decide)⟩

/-- The brackets around an address of a later version are lost, and the bracket in it makes what is
sent unreadable. -/
theorem futureAddress_is_not_normal :
    validate { url := "http://[v1.[]" } = .ok () ∧
      Endpoint.scheme { url := "http://[v1.[]" } = .ok "http" ∧
      host { url := "http://[v1.[]" } = .ok "v1.[" ∧
      validate (sentTo { url := "http://[v1.[]" } "http" "v1.[") =
        .error (.uri .unbalancedBrackets) ∧
      host (sentTo { url := "http://[v1.[]" } "http" "v1.[") = .error .unbalancedBrackets :=
  ⟨rfl, rfl, rfl, rfl, rfl⟩

end Endpoint

end CloudClient
