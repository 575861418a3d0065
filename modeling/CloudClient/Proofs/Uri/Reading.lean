import CloudClient.Proofs.Success
import CloudClient.Proofs.Text.Split
import CloudClient.Uri
import Mathlib.Data.List.TakeWhile

/-!
# Parts of locators

Main statements: a locator that is read has an authority whose brackets and characters were checked,
and its path begins with a slash when it follows an authority; a locator that is nothing but a
scheme and an authority is read as the two of them when the authority is accepted.
-/

namespace CloudClient

namespace Uri

/-- Letters and digits of ASCII are those of the library. -/
theorem isAlphanum_iff (c : Char) :
    c.isAlphanum = true ↔ isAsciiLetter c = true ∨ Text.isAsciiDigit c = true := by
  have hlibrary : c.isAlphanum = (c.val ≥ 'A'.val ∧ c.val ≤ 'Z'.val ||
      c.val ≥ 'a'.val && c.val ≤ 'z'.val || c.val ≥ '0'.val && c.val ≤ '9'.val) := rfl
  simp only [hlibrary, isAsciiLetter, Text.isAsciiDigit, Bool.or_eq_true, Bool.and_eq_true,
    decide_eq_true_eq, Char.le_def, UInt32.le_iff_toNat_le, ge_iff_le]
  exact or_congr_left or_comm

variable {s : String} {u : Uri}

/-- What is left of a locator without its scheme. -/
def afterScheme (s : String) : List Char := (cutScheme (tidy s.toList)).2

/-- The parts of a locator that is read. -/
structure HasParts (s : String) (u : Uri) : Prop where
  scheme : u.scheme.toList = (cutScheme (tidy s.toList)).1
  authority : u.authority.toList = (cutAuthority (afterScheme s)).1
  path : u.path.toList = (Text.cut '?' (Text.cut '#' (cutAuthority (afterScheme s)).2).1).1
  brackets : checkBrackets u.authority.toList = .ok ()
  folded : checkFolded u.authority.toList = .ok ()

/-- **A locator is read as its parts.** -/
theorem hasParts_of_read (h : read s = .ok u) : HasParts s u := by
  obtain ⟨_, hbrackets, h⟩ := exists_of_bind_eq_ok h
  obtain ⟨_, hfolded, h⟩ := exists_of_bind_eq_ok h
  cases h
  exact ⟨String.toList_ofList, String.toList_ofList, String.toList_ofList,
    by rwa [String.toList_ofList], by rwa [String.toList_ofList]⟩

/-! ## The authority and the path -/

/-- What readers ignore is dropped of a text, and nothing is added. -/
theorem mem_of_mem_tidy {s : List Char} {c : Char} (h : c ∈ tidy s) : c ∈ s :=
  (List.dropWhile_sublist _).subset (List.mem_filter.1 h).1

/-- Nothing but characters of the text comes after the scheme. -/
theorem mem_of_mem_cutScheme {s : List Char} {c : Char} (h : c ∈ (cutScheme s).2) : c ∈ s := by
  rw [cutScheme] at h
  split at h
  · rename_i hcut
    split at h
    · exact Text.mem_of_cut_eq_some (by rw [hcut]) h
    · exact h
  · exact h

/-- The authority has characters of the text that it is cut from. -/
theorem mem_of_mem_cutAuthority {s : List Char} {c : Char} (h : c ∈ (cutAuthority s).1) :
    c ∈ s := by
  unfold cutAuthority at h
  split at h
  · exact List.mem_cons_of_mem _ (List.mem_cons_of_mem _ ((List.takeWhile_sublist _).subset h))
  · cases h

/-- A text is what stands up to the end of an authority, and then nothing or what ends it. -/
theorem eq_nil_or_exists_of_cutAuthority {s : List Char} (h : (cutAuthority s).1 ≠ []) :
    (cutAuthority s).2 = [] ∨ ∃ c r, (cutAuthority s).2 = c :: r ∧ endsAuthority c = true := by
  unfold cutAuthority at h ⊢
  split
  · rename_i r
    dsimp only
    cases hrest : r.dropWhile fun c => !endsAuthority c with
    | nil => exact .inl rfl
    | cons c rest =>
      have hhead : (r.dropWhile fun c => !endsAuthority c).head? = some c := by
        rw [hrest]
        rfl
      have hc := List.head?_dropWhile_not (fun c => !endsAuthority c) r
      rw [hhead] at hc
      exact .inr ⟨c, rest, rfl, by simpa using hc⟩
  · rename_i hother
    split at h
    · exact absurd rfl (hother _)
    · exact absurd rfl h

/-- The path after an authority begins with a slash. -/
theorem exists_of_path_ne (h : read s = .ok u) (hauthority : u.authority ≠ "")
    (hpath : u.path ≠ "") : ∃ rest, u.path.toList = '/' :: rest := by
  have hparts := hasParts_of_read h
  have hne : ∀ {t : String}, t ≠ "" → t.toList ≠ [] := fun ht hnil => ht (String.toList_inj.1 hnil)
  have hfirst := hne hauthority
  have hrest := hne hpath
  rw [hparts.authority] at hfirst
  rw [hparts.path] at hrest ⊢
  rcases eq_nil_or_exists_of_cutAuthority hfirst with hnil | ⟨c, r, hc, hends⟩
  · rw [hnil] at hrest
    exact absurd rfl hrest
  · rw [hc] at hrest ⊢
    simp only [endsAuthority, Bool.or_eq_true, beq_iff_eq] at hends
    rcases hends with (rfl | rfl) | rfl
    · exact ⟨_, rfl⟩
    · exact absurd rfl hrest
    · exact absurd rfl hrest

/-- A tab or a line end, which readers of locators ignore. -/
def isIgnored (c : Char) : Bool := c == '\t' || c == '\r' || c == '\n'

/-- No ignored character stands in an authority. -/
theorem isIgnored_of_mem_authority (h : read s = .ok u) {c : Char} (hc : c ∈ u.authority.toList) :
    isIgnored c = false := by
  rw [(hasParts_of_read h).authority] at hc
  have hkept := (List.mem_filter.1 (mem_of_mem_cutScheme (mem_of_mem_cutAuthority hc))).2
  simpa [isIgnored, and_assoc] using hkept

/-- No character of an authority stands for a separator. -/
theorem folded_of_mem_authority (h : read s = .ok u) {c : Char} (hc : c ∈ u.authority.toList) :
    c.toNat ∉ foldedSeparators := by
  have hchecked := (hasParts_of_read h).folded
  rw [checkFolded] at hchecked
  split at hchecked
  · cases hchecked
  · rename_i hany
    exact fun hfolded => hany (List.any_eq_true.2 ⟨c, hc, List.contains_iff_mem.2 hfolded⟩)

/-! ## Authorities that are accepted -/

variable {authority : List Char}

/-- An authority without square brackets has none that could stand wrong. -/
theorem checkBrackets_of_not_mem (hopen : '[' ∉ authority) (hclose : ']' ∉ authority) :
    checkBrackets authority = .ok () := by
  have hopening : authority.contains '[' = false := by
    rwa [List.contains_eq_mem, decide_eq_false_iff_not]
  have hclosing : authority.contains ']' = false := by
    rwa [List.contains_eq_mem, decide_eq_false_iff_not]
  rw [checkBrackets, hopening, hclosing]
  rfl

/-- An authority is accepted when none of its characters stands for a separator. -/
theorem checkFolded_of_forall (h : ∀ c ∈ authority, c.toNat ∉ foldedSeparators) :
    checkFolded authority = .ok () := by
  rw [checkFolded, if_neg]
  rw [List.any_eq_true]
  rintro ⟨c, hmem, hfolded⟩
  exact h c hmem (List.contains_iff_mem.1 hfolded)

/-! ## Locators without a path -/

variable {scheme url : String}

/-- What stands before the authority of a locator without a path. -/
theorem cutScheme_of_http (hscheme : scheme = "http" ∨ scheme = "https") (rest : List Char) :
    cutScheme (scheme.toList ++ ':' :: rest) = (scheme.toList, rest) := by
  have hcut : ∀ {front : List Char}, ':' ∉ front →
      Text.cut ':' (front ++ ':' :: rest) = (front, some rest) :=
    fun h => Text.cut_append_sep h rest
  rcases hscheme with rfl | rfl
  · rw [cutScheme, hcut (by decide)]
    rfl
  · rw [cutScheme, hcut (by decide)]
    rfl

/-- **A locator that is nothing but a scheme and an authority is read as the two of them**, when the
authority is accepted. -/
theorem read_of_toList (hscheme : scheme = "http" ∨ scheme = "https")
    (hends : ∀ c ∈ authority, endsAuthority c = false)
    (hkept : ∀ c ∈ authority, isIgnored c = false)
    (hurl : url.toList = scheme.toList ++ ':' :: '/' :: '/' :: authority) :
    read url = checkBrackets authority >>= fun _ => checkFolded authority >>= fun _ =>
      .ok { scheme, authority := String.ofList authority, path := "", query := "",
            fragment := "" } := by
  have hfront : ∀ c ∈ scheme.toList ++ [':', '/', '/'], isIgnored c = false := by
    rcases hscheme with rfl | rfl
    · simp [isIgnored]
    · simp [isIgnored]
  have hclean : ∀ c ∈ url.toList, isIgnored c = false := by
    have hjoined : url.toList = scheme.toList ++ [':', '/', '/'] ++ authority := by
      rw [hurl, List.append_assoc]
      rfl
    intro c hc
    rw [hjoined, List.mem_append] at hc
    exact hc.elim (hfront c) (hkept c)
  have htidy : tidy url.toList = url.toList := by
    have hfirst : url.toList.dropWhile (fun c => c.toNat ≤ 0x20) = url.toList := by
      rw [hurl]
      rcases hscheme with rfl | rfl
      · rfl
      · rfl
    rw [tidy, hfirst, List.filter_eq_self]
    intro c hc
    simpa [isIgnored, and_assoc] using hclean c hc
  have hauthority : cutAuthority ('/' :: '/' :: authority) = (authority, []) := by
    have hopen : ∀ c ∈ authority, (!endsAuthority c) = true := fun c hc => by rw [hends c hc]; rfl
    rw [cutAuthority, List.takeWhile_eq_self_iff.2 hopen, List.dropWhile_eq_nil_iff.2 hopen]
  rw [read, htidy, hurl, cutScheme_of_http hscheme]
  dsimp only
  rw [hauthority, String.ofList_toList]
  rfl

end Uri

end CloudClient
