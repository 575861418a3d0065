import CloudClient.Endpoint
import CloudClient.Proofs.Success
import CloudClient.Proofs.Text.Case
import CloudClient.Proofs.Text.Split

/-!
# The authority of a valid endpoint

Main statement: a valid endpoint has a host and the scheme http or https, and no character of the
host ends the authority of a locator.
-/

namespace CloudClient

namespace Uri

/-! ## The host of a locator -/

/-- A locator is read with an authority in which nothing ends one. -/
theorem not_endsAuthority_of_read {s : String} {u : Uri} (h : read s = .ok u) :
    ∀ c ∈ u.authority.toList, endsAuthority c = false := by
  have hcut : ∀ s, ∀ c ∈ (cutAuthority s).1, endsAuthority c = false := by
    intro s c hc
    unfold cutAuthority at hc
    split at hc
    · simpa using List.all_eq_true.1 List.all_takeWhile c hc
    · cases hc
  obtain ⟨_, -, h⟩ := exists_of_bind_eq_ok h
  obtain ⟨_, -, h⟩ := exists_of_bind_eq_ok h
  cases h
  rw [String.toList_ofList]
  exact hcut _

/-- The written host is of the authority. -/
theorem mem_of_mem_hostAndPort {u : Uri} {c : Char} (h : c ∈ u.hostAndPort.1) :
    c ∈ u.authority.toList := by
  rw [hostAndPort] at h
  dsimp only at h
  split at h
  · rename_i hbracket
    have hmem := Text.mem_of_cut_eq_some (by rw [hbracket]) (Text.mem_of_mem_cut h)
    exact Text.mem_of_mem_cutLast hmem
  · exact Text.mem_of_mem_cutLast (Text.mem_of_mem_cut h)

/-- The host has the characters of the authority, and small letters. -/
theorem mem_of_mem_host {u : Uri} {c : Char} (h : c ∈ u.host.toList) (hc : c.toNat < 0x61) :
    c ∈ u.authority.toList := by
  apply mem_of_mem_hostAndPort
  rw [host] at h
  dsimp only at h
  rw [String.toList_ofList] at h
  rcases List.mem_append.1 h with h | h
  · exact Text.mem_of_mem_cut (Text.mem_of_mem_lower h hc)
  · split at h
    · cases h
    · rename_i hzone
      rcases List.mem_cons.1 h with rfl | h
      · exact Text.sep_mem_of_cut_eq_some hzone
      · exact Text.mem_of_cut_eq_some hzone h

/-- Nothing in the host of a locator ends an authority. -/
theorem not_endsAuthority_of_mem_host {s : String} {u : Uri} (h : read s = .ok u) {c : Char}
    (hc : c ∈ u.host.toList) : endsAuthority c = false := by
  -- Lower-casing makes letters only, and what ends an authority comes before them.
  by_cases hsmall : c.toNat < 0x61
  · exact not_endsAuthority_of_read h c (mem_of_mem_host hc hsmall)
  · rw [endsAuthority, Bool.or_eq_false_iff, Bool.or_eq_false_iff, beq_eq_false_iff_ne,
      beq_eq_false_iff_ne, beq_eq_false_iff_ne]
    refine ⟨⟨?_, ?_⟩, ?_⟩
    all_goals
      rintro rfl
      exact hsmall (by decide)

/-- A locator is read with a scheme that ends before the first colon. -/
theorem colon_not_mem_scheme {s : String} {u : Uri} (h : read s = .ok u) :
    ':' ∉ u.scheme.toList := by
  have hcut : ∀ s, ':' ∉ (cutScheme s).1 := by
    intro s hc
    rw [cutScheme] at hc
    split at hc
    · rename_i c r rest hscheme
      split at hc
      · have hmem : ':' ∈ c :: r := Text.mem_of_mem_lower hc (by decide)
        have hfront : ':' ∉ (Text.cut ':' s).1 := Text.sep_not_mem_cut ':' s
        rw [hscheme] at hfront
        exact hfront hmem
      · cases hc
    · cases hc
  obtain ⟨_, -, h⟩ := exists_of_bind_eq_ok h
  obtain ⟨_, -, h⟩ := exists_of_bind_eq_ok h
  cases h
  rw [String.toList_ofList]
  exact hcut _

end Uri

namespace Endpoint

variable {e : Endpoint}

/-- What the locator of a valid endpoint is. -/
structure Accepts (u : Uri) : Prop where
  scheme : u.scheme = "http" ∨ u.scheme = "https"
  host : u.host.isEmpty = false
  port : ∃ port, u.port = .ok port
  path : u.path = "" ∨ u.path = "/"

/-- The locator of a valid endpoint is accepted, and its scheme of signatures is known. -/
theorem exists_of_validate (h : e.validate = .ok ()) :
    ∃ u, Uri.read e.url = .ok u ∧ Accepts u ∧ ∀ name, e.signature ≠ .unknown name := by
  obtain ⟨u, hread, h⟩ := exists_of_bind_eq_ok h
  obtain ⟨hscheme, h⟩ := not_and_eq_ok_of_guard h
  obtain ⟨hhost, h⟩ := not_and_eq_ok_of_guard h
  obtain ⟨hport, h⟩ := not_and_eq_ok_of_guard h
  obtain ⟨hpath, h⟩ := not_and_eq_ok_of_guard h
  refine ⟨u, eq_ok_of_mapError hread, ⟨?_, ?_, ?_, ?_⟩, ?_⟩
  · simpa [Decidable.or_iff_not_imp_left] using hscheme
  · simpa using hhost
  · cases hu : u.port with
    | error error =>
      rw [hu] at hport
      exact absurd rfl hport
    | ok port => exact ⟨port, rfl⟩
  · simpa [Decidable.or_iff_not_imp_left] using hpath
  · intro name hname
    rw [hname] at h
    cases h

/-- The scheme of a valid endpoint is http or https. -/
theorem scheme_of_validate (h : e.validate = .ok ()) :
    e.scheme = .ok "http" ∨ e.scheme = .ok "https" := by
  obtain ⟨u, hread, hu, -⟩ := exists_of_validate h
  have hscheme : e.scheme = .ok u.scheme := by
    rw [scheme, hread]
    rfl
  rw [hscheme]
  rcases hu.scheme with h | h
  · exact .inl (by rw [h])
  · exact .inr (by rw [h])

/-- The digits of a port do not end an authority. -/
theorem not_endsAuthority_of_mem_repr {n : Nat} {c : Char} (h : c ∈ n.repr.toList) :
    Uri.endsAuthority c = false := by
  rw [Nat.toList_repr] at h
  have hdigit := Char.isDigit_iff_toNat.1 (Nat.isDigit_of_mem_toDigits (by decide) (by decide) h)
  rw [Uri.endsAuthority, Bool.or_eq_false_iff, Bool.or_eq_false_iff, beq_eq_false_iff_ne,
    beq_eq_false_iff_ne, beq_eq_false_iff_ne]
  refine ⟨⟨?_, ?_⟩, ?_⟩
  all_goals
    rintro rfl
    revert hdigit
    decide

/-- A host as it is sent: an address stands in brackets. -/
def bracketed (host : String) : String :=
  if host.toList.contains ':' then s!"[{host}]" else host

/-- A host with the port, unless it is the one of the scheme. -/
def withPort (scheme name : String) : Option Nat → String
  | none => name
  | some n => if defaultPort? scheme = some n then name else s!"{name}:{n}"

/-- The host of an endpoint is the one of its locator, with the port. -/
theorem host_eq_ok {u : Uri} {port : Option Nat} (hread : Uri.read e.url = .ok u)
    (hport : u.port = .ok port) :
    e.host = .ok (withPort u.scheme (bracketed u.host) port) := by
  rw [host, hread]
  show (u.port >>= _) = _
  rw [hport]
  cases port with
  | none => rfl
  | some n => rfl

/-- Brackets do not end an authority. -/
theorem not_endsAuthority_of_mem_bracketed {host : String}
    (h : ∀ c ∈ host.toList, Uri.endsAuthority c = false) :
    ∀ c ∈ (bracketed host).toList, Uri.endsAuthority c = false := by
  intro c hc
  unfold bracketed at hc
  split at hc
  · simp only [toString, String.toList_append, List.mem_append] at hc
    rcases hc with (hc | hc) | hc
    · obtain rfl := List.mem_singleton.1 hc
      rfl
    · exact h c hc
    · obtain rfl := List.mem_singleton.1 hc
      rfl
  · exact h c hc

/-- A port does not end an authority. -/
theorem not_endsAuthority_of_mem_withPort {scheme name : String} {port : Option Nat}
    (h : ∀ c ∈ name.toList, Uri.endsAuthority c = false) :
    ∀ c ∈ (withPort scheme name port).toList, Uri.endsAuthority c = false := by
  intro c hc
  cases port with
  | none => exact h c hc
  | some n =>
    rw [withPort] at hc
    split at hc
    · exact h c hc
    · simp only [toString, String.toList_append, List.mem_append] at hc
      rcases hc with (hc | hc) | hc
      · exact h c hc
      · obtain rfl := List.mem_singleton.1 hc
        rfl
      · exact not_endsAuthority_of_mem_repr hc

/-- Nothing in the host of an endpoint ends an authority. -/
theorem not_endsAuthority_of_host {name : String} (h : e.host = .ok name) :
    ∀ c ∈ name.toList, Uri.endsAuthority c = false := by
  obtain ⟨u, hread, hrest⟩ := exists_of_bind_eq_ok h
  obtain ⟨port, hport, -⟩ := exists_of_bind_eq_ok hrest
  rw [host_eq_ok hread hport, Except.ok.injEq] at h
  rw [← h]
  apply not_endsAuthority_of_mem_withPort
  apply not_endsAuthority_of_mem_bracketed
  intro c hc
  exact Uri.not_endsAuthority_of_mem_host hread hc

/-- The scheme of an endpoint holds no colon. -/
theorem colon_not_mem_of_scheme {name : String} (h : e.scheme = .ok name) : ':' ∉ name.toList := by
  obtain ⟨u, hread, hu⟩ := exists_of_bind_eq_ok h
  cases hu
  exact Uri.colon_not_mem_scheme hread

/-- **A valid endpoint has a host, in which nothing ends an authority.** -/
theorem exists_host_of_validate (h : e.validate = .ok ()) :
    ∃ host, e.host = .ok host ∧ ∀ c ∈ host.toList, Uri.endsAuthority c = false := by
  obtain ⟨u, hread, hu, -⟩ := exists_of_validate h
  obtain ⟨port, hport⟩ := hu.port
  have hhost := host_eq_ok hread hport
  exact ⟨_, hhost, not_endsAuthority_of_host hhost⟩

end Endpoint

end CloudClient
