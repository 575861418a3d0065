import CloudClient.Proofs.Text.Case
import CloudClient.Proofs.Text.Split
import CloudClient.Uri

/-!
# Addresses in lower case

The host of a locator is lowered up to its zone. Main statements: lowering it again changes nothing,
and a host in brackets that is accepted is accepted in this form as well.
-/

namespace CloudClient

namespace Address

open Text

/-! ## Characters of addresses -/

/-- A hexadecimal digit. -/
def IsHex (c : Char) : Prop := (Hex.digitValue? c).isSome = true

/-- A character of an address with colons: a colon, a hexadecimal digit, or a point. -/
def IsAddressChar (c : Char) : Prop := c = ':' ∨ IsHex c ∨ c = '.'

instance : DecidablePred IsHex :=
  fun c => inferInstanceAs (Decidable ((Hex.digitValue? c).isSome = true))

variable {c : Char} {s : List Char}

/-- A property of ASCII is decided character by character. -/
theorem forall_of_lt {P : Char → Prop} (h : ∀ n < 0x80, P (Char.ofNat n)) (hc : c.toNat < 0x80) :
    P c := by
  rw [← Char.ofNat_toNat c]
  exact h c.toNat hc

/-- Hexadecimal digits are in ASCII. -/
theorem IsHex.lt (h : IsHex c) : c.toNat < 0x80 := by
  refine Nat.lt_of_not_le fun hle => ?_
  rw [IsHex, Hex.digitValue?] at h
  simp only [Bool.and_eq_true, decide_eq_true_eq] at h
  rw [if_neg (by omega), if_neg (by omega), if_neg (by omega)] at h
  cases h

/-- Hexadecimal digits are lowered to hexadecimal digits. -/
theorem IsHex.lowerChar (h : IsHex c) : IsHex (lowerChar c) := by
  have hall : ∀ n < 0x80, IsHex (Char.ofNat n) → IsHex (Text.lowerChar (Char.ofNat n)) := by decide
  exact forall_of_lt (P := fun c => IsHex c → IsHex (Text.lowerChar c)) hall h.lt h

/-- Decimal digits are hexadecimal ones, and they are left as they are. -/
theorem of_isAsciiDigit (h : isAsciiDigit c = true) : IsHex c ∧ lowerChar c = c := by
  have hlt : c.toNat < 0x80 := by
    rw [isAsciiDigit, Bool.and_eq_true, decide_eq_true_eq, decide_eq_true_eq] at h
    omega
  have hall : ∀ n < 0x80, isAsciiDigit (Char.ofNat n) = true →
      IsHex (Char.ofNat n) ∧ lowerChar (Char.ofNat n) = Char.ofNat n := by decide
  exact forall_of_lt (P := fun c => isAsciiDigit c = true → IsHex c ∧ lowerChar c = c) hall hlt h

/-- The characters of addresses are lowered by the common rule. -/
theorem IsAddressChar.isOrdinary (h : IsAddressChar c) : IsOrdinary c := by
  have hlt : c.toNat < 0x80 := by
    rcases h with rfl | hhex | rfl
    · decide
    · exact hhex.lt
    · decide
  exact ⟨by omega, by omega⟩

/-- The letter v is no character of addresses. -/
theorem IsAddressChar.ne_v (h : IsAddressChar c) : c ≠ 'v' := by
  rintro rfl
  rcases h with h | h | h
  · cases h
  · cases h
  · cases h

/-! ## Single groups -/

/-- A dotted address is made of decimal digits and points. -/
theorem of_mem_isDotted (h : isDotted s = true) : ∀ c ∈ s, c = '.' ∨ isAsciiDigit c = true := by
  rw [isDotted, Bool.and_eq_true] at h
  refine forall_mem_pieces_iff.1 fun p hp c hc => ?_
  have hoctet := List.all_eq_true.1 h.2 p hp
  simp only [isOctet, Bool.and_eq_true, List.all_eq_true] at hoctet
  exact hoctet.1.1.1.2 c hc

/-- A dotted address is left as it is. -/
theorem map_of_isDotted (h : isDotted s = true) : s.map lowerChar = s := by
  have hkept : ∀ c ∈ s, lowerChar c = id c := by
    intro c hc
    rcases of_mem_isDotted h c hc with rfl | hdigit
    · decide
    · exact (of_isAsciiDigit hdigit).2
  rw [List.map_congr_left hkept, List.map_id]

/-- A group is made of hexadecimal digits. -/
theorem of_mem_isGroup (h : isGroup s = true) : ∀ c ∈ s, IsHex c := by
  simp only [isGroup, Bool.and_eq_true, List.all_eq_true] at h
  exact h.2

/-- A group is lowered to a group. -/
theorem isGroup_map (h : isGroup s = true) : isGroup (s.map lowerChar) = true := by
  simp only [isGroup, Bool.and_eq_true, Bool.not_eq_true', List.isEmpty_map, List.length_map,
    List.all_map, List.all_eq_true] at h ⊢
  exact ⟨h.1, fun c hc => IsHex.lowerChar (h.2 c hc)⟩

/-! ## Rows of groups -/

/-- The groups inside an address, which neither begin nor end it. -/
def inner (groups : List (List Char)) : List (List Char) := groups.tail.dropLast

/-- The groups in front of an empty one inside. -/
def front (groups : List (List Char)) : List (List Char) :=
  groups.head?.toList ++ (inner groups).takeWhile fun g => !g.isEmpty

/-- The groups behind it. -/
def back (groups : List (List Char)) : List (List Char) :=
  ((inner groups).dropWhile fun g => !g.isEmpty).tail ++ groups.getLast?.toList

/-- Eight groups, none of them empty. -/
structure IsFull (groups : List (List Char)) : Prop where
  inside : (inner groups).countP (·.isEmpty) = 0
  length : groups.length = 8
  isGroup : ∀ g ∈ groups, isGroup g = true

/-- Groups around an empty one, which stands for those that are left out. -/
structure IsShort (groups : List (List Char)) : Prop where
  inside : (inner groups).countP (·.isEmpty) = 1
  three_le : 3 ≤ groups.length
  le_nine : groups.length ≤ 9
  ends : ∃ a b, trimEnd? (front groups) = some a ∧ trimEnd? (back groups) = some b ∧
    a.length + b.length ≤ 7 ∧ (∀ g ∈ a, Address.isGroup g = true) ∧
      ∀ g ∈ b, Address.isGroup g = true

variable {groups gs a : List (List Char)}

/-- The check of groups, with its parts by name. -/
theorem areGroups_eq (groups : List (List Char)) : areGroups groups =
    if groups.length < 3 || 9 < groups.length || 1 < (inner groups).countP (·.isEmpty) then false
    else if (inner groups).countP (·.isEmpty) = 0 then groups.length == 8 && groups.all isGroup
    else
      match trimEnd? (front groups), trimEnd? (back groups) with
      | some a, some b => a.length + b.length ≤ 7 && a.all isGroup && b.all isGroup
      | _, _ => false := rfl

/-- Groups make an address in full, or with some left out. -/
theorem areGroups_iff : areGroups groups = true ↔ IsFull groups ∨ IsShort groups := by
  rw [areGroups_eq]
  split
  · rename_i hsize
    simp only [Bool.or_eq_true, decide_eq_true_eq] at hsize
    refine iff_of_false Bool.false_ne_true ?_
    rintro (⟨hinside, hlength, -⟩ | ⟨hinside, hleast, hmost, -⟩)
    · omega
    · omega
  · rename_i hsize
    simp only [Bool.or_eq_true, decide_eq_true_eq] at hsize
    split
    · rename_i hnone
      rw [Bool.and_eq_true, beq_iff_eq, List.all_eq_true]
      constructor
      · rintro ⟨hlength, hall⟩
        exact .inl ⟨hnone, hlength, hall⟩
      · rintro (h | h)
        · exact ⟨h.length, h.isGroup⟩
        · rw [h.inside] at hnone
          cases hnone
    · rename_i hsome
      constructor
      · intro h
        split at h
        · rename_i a b ha hb
          simp only [Bool.and_eq_true, decide_eq_true_eq, List.all_eq_true] at h
          exact .inr ⟨by omega, by omega, by omega, a, b, ha, hb, h.1.1, h.1.2, h.2⟩
        · cases h
      · rintro (h | h)
        · exact absurd h.inside hsome
        · obtain ⟨a, b, ha, hb, hlength, hfront, hback⟩ := h.ends
          rw [ha, hb]
          simp only [Bool.and_eq_true, decide_eq_true_eq, List.all_eq_true]
          exact ⟨⟨hlength, hfront⟩, hback⟩

/-- An end is a single empty group, or it stays as it is and has no empty group. -/
theorem trimEnd?_eq_some_iff :
    trimEnd? gs = some a ↔ (gs = [[]] ∧ a = []) ∨ (a = gs ∧ [] ∉ gs) := by
  have hany : (gs.any fun g => g.isEmpty) = true ↔ [] ∈ gs := by
    simp only [List.any_eq_true, List.isEmpty_iff, exists_eq_right]
  unfold trimEnd?
  split
  · simp [eq_comm]
  · rename_i hother
    have hne : gs ≠ [[]] := hother
    split
    · rename_i hempty
      simp [hne, hany.1 hempty]
    · rename_i hfull
      simp [hne, mt hany.2 hfull, eq_comm]

/-! ## The characters of rows -/

/-- A row of groups is its first one, those inside, and its last one. -/
theorem eq_cons_inner (hlength : 2 ≤ groups.length) :
    ∃ first last, groups = first :: (inner groups ++ [last]) := by
  match groups, hlength with
  | first :: second :: rest, _ =>
    refine ⟨first, (second :: rest).getLast (List.cons_ne_nil _ _), ?_⟩
    rw [inner, List.tail_cons, List.dropLast_concat_getLast]

/-- Every group that is not empty stands in front of the empty one or behind it. -/
theorem mem_front_or_mem_back (hlength : 2 ≤ groups.length) {g : List Char} (hg : g ∈ groups)
    (hne : g ≠ []) : g ∈ front groups ∨ g ∈ back groups := by
  obtain ⟨first, last, hgroups⟩ := eq_cons_inner hlength
  have hfirst : groups.head? = some first := by rw [hgroups, List.head?_cons]
  have hlast : groups.getLast? = some last := by
    rw [hgroups, ← List.cons_append, List.getLast?_concat]
  have hmem : g = first ∨ g ∈ inner groups ∨ g = last := by
    rw [hgroups] at hg
    simpa using hg
  rw [front, back, hfirst, hlast, List.mem_append, List.mem_append]
  rcases hmem with rfl | hinside | rfl
  · exact .inl (.inl (List.mem_singleton.2 rfl))
  · rw [← List.takeWhile_append_dropWhile (p := fun g : List Char => !g.isEmpty)
      (l := inner groups),
      List.mem_append] at hinside
    rcases hinside with hbefore | hafter
    · exact .inl (.inr hbefore)
    -- The first group that is dropped is the empty one, which is left out behind it.
    · refine .inr (.inl ?_)
      cases hrest : (inner groups).dropWhile fun g => !g.isEmpty with
      | nil =>
        rw [hrest] at hafter
        cases hafter
      | cons e rest =>
        have hempty := List.head?_dropWhile_not (fun g : List Char => !g.isEmpty) (inner groups)
        rw [hrest, List.head?_cons] at hempty
        rw [hrest, List.mem_cons] at hafter
        refine hafter.resolve_left ?_
        rintro rfl
        exact hne (by simpa using hempty)
  · exact .inr (.inr (List.mem_singleton.2 rfl))

/-- The groups of an address are groups, but for empty ones. -/
theorem of_mem_areGroups (h : areGroups groups = true) :
    ∀ g ∈ groups, g = [] ∨ isGroup g = true := by
  have hend : ∀ {gs a : List (List Char)}, trimEnd? gs = some a → (∀ g ∈ a, isGroup g = true) →
      ∀ g ∈ gs, g = [] ∨ isGroup g = true := by
    intro gs a htrim ha g hg
    rcases trimEnd?_eq_some_iff.1 htrim with ⟨rfl, -⟩ | ⟨rfl, -⟩
    · exact .inl (List.mem_singleton.1 hg)
    · exact .inr (ha g hg)
  intro g hg
  rcases areGroups_iff.1 h with h | h
  · exact .inr (h.isGroup g hg)
  · obtain ⟨a, b, ha, hb, -, hfront, hback⟩ := h.ends
    by_cases hne : g = []
    · exact .inl hne
    · rcases mem_front_or_mem_back (Nat.le_of_succ_le h.three_le) hg hne with hg | hg
      · exact hend ha hfront g hg
      · exact hend hb hback g hg

/-- The groups of an address are kept when its dotted tail is opened, but for that tail. -/
theorem mem_of_openDotted? (h : openDotted? groups = some gs) :
    ∀ g ∈ groups, g ∈ gs ∨ isDotted g = true := by
  intro g hg
  unfold openDotted? at h
  split at h
  · obtain rfl := Option.some.inj h
    exact .inl hg
  · rename_i last hlast
    split at h
    · split at h
      · rename_i hdotted
        obtain rfl := Option.some.inj h
        obtain ⟨before, rfl⟩ := List.getLast?_eq_some_iff.1 hlast
        rw [List.dropLast_concat, List.mem_append]
        rcases List.mem_append.1 hg with hg | hg
        · exact .inl (.inl hg)
        · obtain rfl := List.mem_singleton.1 hg
          exact .inr hdotted
      · cases h
    · obtain rfl := Option.some.inj h
      exact .inl hg

/-! ## Rows in lower case -/

section Map

variable (f : Char → Char)

/-- The groups inside stay inside. -/
theorem inner_map (groups : List (List Char)) :
    inner (groups.map (List.map f)) = (inner groups).map (List.map f) := by
  rw [inner, inner, List.map_dropLast, List.map_tail]

/-- Groups stay empty or not. -/
theorem isEmpty_comp_map :
    (fun g : List Char => !g.isEmpty) ∘ List.map f = fun g => !g.isEmpty := by
  funext g
  exact congrArg not List.isEmpty_map

/-- The empty groups inside stay so. -/
theorem countP_inner_map (groups : List (List Char)) :
    (inner (groups.map (List.map f))).countP (·.isEmpty) = (inner groups).countP (·.isEmpty) := by
  rw [inner_map, List.countP_map]
  exact congrArg (fun p => (inner groups).countP p) (funext fun g => List.isEmpty_map)

/-- The groups in front stay there. -/
theorem front_map (groups : List (List Char)) :
    front (groups.map (List.map f)) = (front groups).map (List.map f) := by
  rw [front, front, inner_map, List.takeWhile_map, isEmpty_comp_map, List.map_append,
    List.head?_map]
  cases groups.head? <;> rfl

/-- The groups behind stay there. -/
theorem back_map (groups : List (List Char)) :
    back (groups.map (List.map f)) = (back groups).map (List.map f) := by
  rw [back, back, inner_map, List.dropWhile_map, isEmpty_comp_map, List.map_append, List.map_tail,
    List.getLast?_map]
  cases groups.getLast? <;> rfl

/-- The ends of an address stay ends. -/
theorem trimEnd?_map (h : trimEnd? gs = some a) :
    trimEnd? (gs.map (List.map f)) = some (a.map (List.map f)) := by
  rw [trimEnd?_eq_some_iff] at h ⊢
  rcases h with ⟨rfl, rfl⟩ | ⟨rfl, hmem⟩
  · exact .inl ⟨rfl, rfl⟩
  · refine .inr ⟨rfl, fun hmap => ?_⟩
    obtain ⟨g, hg, hempty⟩ := List.mem_map.1 hmap
    exact hmem (List.map_eq_nil_iff.1 hempty ▸ hg)

end Map

/-- Groups that make an address make one in lower case. -/
theorem areGroups_map (h : areGroups groups = true) :
    areGroups (groups.map (List.map lowerChar)) = true := by
  have hall : ∀ {a : List (List Char)}, (∀ g ∈ a, isGroup g = true) →
      ∀ g ∈ a.map (List.map lowerChar), isGroup g = true := by
    intro a ha g hg
    obtain ⟨x, hx, rfl⟩ := List.mem_map.1 hg
    exact isGroup_map (ha x hx)
  rw [areGroups_iff] at h ⊢
  rcases h with h | h
  · refine .inl ⟨?_, ?_, hall h.isGroup⟩
    · rw [countP_inner_map, h.inside]
    · rw [List.length_map, h.length]
  · obtain ⟨a, b, ha, hb, hlength, hfront, hback⟩ := h.ends
    refine .inr ⟨?_, ?_, ?_, _, _, ?_, ?_, ?_, hall hfront, hall hback⟩
    · rw [countP_inner_map, h.inside]
    · rw [List.length_map]
      exact h.three_le
    · rw [List.length_map]
      exact h.le_nine
    · rw [front_map, trimEnd?_map lowerChar ha]
    · rw [back_map, trimEnd?_map lowerChar hb]
    · rwa [List.length_map, List.length_map]

/-- A dotted tail is opened in lower case. -/
theorem openDotted?_map (h : openDotted? groups = some gs) :
    openDotted? (groups.map (List.map lowerChar)) = some (gs.map (List.map lowerChar)) := by
  have hpoint : ∀ {s : List Char}, (s.map lowerChar).contains '.' = s.contains '.' := by
    intro s
    rw [Bool.eq_iff_iff, List.contains_iff_mem, List.contains_iff_mem, List.mem_map]
    simp only [lowerChar_eq_iff (d := '.') (by decide) (by decide), exists_eq_right]
  unfold openDotted? at h ⊢
  rw [List.getLast?_map]
  cases hlast : groups.getLast? with
  | none =>
    rw [hlast] at h
    obtain rfl := Option.some.inj h
    rfl
  | some last =>
    rw [hlast] at h
    dsimp only [Option.map_some] at h ⊢
    rw [hpoint]
    split at h
    · rename_i hdot
      rw [if_pos hdot]
      split at h
      · rename_i hdotted
        obtain rfl := Option.some.inj h
        rw [map_of_isDotted hdotted, if_pos hdotted, List.map_append, List.map_dropLast]
        rfl
      · cases h
    · rename_i hdot
      obtain rfl := Option.some.inj h
      exact if_neg hdot

/-! ## Addresses with colons -/

/-- What stands before the zone of an address with colons. -/
def IsGrouped (address : List Char) : Prop :=
  3 ≤ (pieces ':' address).length ∧
    ∃ gs, openDotted? (pieces ':' address) = some gs ∧ areGroups gs = true

/-- A zone is not empty and holds no second percent sign. -/
def isZone (zone : Option (List Char)) : Bool := zone.all fun z => !z.isEmpty && !z.contains '%'

/-- An address with colons is grouped, and a zone may follow. -/
theorem isColonHex_iff (s : List Char) :
    isColonHex s = true ↔ isZone (cut '%' s).2 = true ∧ IsGrouped (cut '%' s).1 := by
  have hparts : isColonHex s =
      (isZone (cut '%' s).2 && decide (3 ≤ (pieces ':' (cut '%' s).1).length) &&
      (openDotted? (pieces ':' (cut '%' s).1)).any areGroups) := by
    rw [isColonHex]
    obtain ⟨address, zone⟩ := cut '%' s
    dsimp only
    cases openDotted? (pieces ':' address) <;> cases zone <;> rfl
  rw [hparts, Bool.and_eq_true, Bool.and_eq_true, decide_eq_true_eq, and_assoc, IsGrouped,
    Option.any_eq_true]

/-- A grouped text holds a colon. -/
theorem IsGrouped.colon_mem (h : IsGrouped s) : ':' ∈ s := by
  refine Decidable.of_not_not fun hmem => ?_
  have hlength := h.1
  rw [pieces_of_not_mem hmem, List.length_singleton] at hlength
  omega

/-- A grouped text has characters of addresses. -/
theorem IsGrouped.isAddressChar (h : IsGrouped s) : ∀ c ∈ s, IsAddressChar c := by
  obtain ⟨-, gs, hopened, hgroups⟩ := h
  refine forall_mem_pieces_iff.1 fun p hp c hc => ?_
  rcases mem_of_openDotted? hopened p hp with hmem | hdotted
  · rcases of_mem_areGroups hgroups p hmem with rfl | hgroup
    · cases hc
    · exact .inl (of_mem_isGroup hgroup c hc)
  · rcases of_mem_isDotted hdotted c hc with rfl | hdigit
    · exact .inr rfl
    · exact .inl (of_isAsciiDigit hdigit).1

/-- A grouped text is lowered character by character. -/
theorem IsGrouped.lower_eq (h : IsGrouped s) : lower s = s.map lowerChar :=
  lower_eq_map fun c hc => (h.isAddressChar c hc).isOrdinary

/-- A grouped text is grouped in lower case. -/
theorem IsGrouped.lower (h : IsGrouped s) : IsGrouped (lower s) := by
  have hcolon : ∀ c, lowerChar c = ':' ↔ c = ':' :=
    fun c => lowerChar_eq_iff (by decide) (by decide)
  obtain ⟨hlength, gs, hopened, hgroups⟩ := h
  rw [IsGrouped.lower_eq ⟨hlength, gs, hopened, hgroups⟩, IsGrouped, pieces_map hcolon,
    List.length_map]
  exact ⟨hlength, _, openDotted?_map hopened, areGroups_map hgroups⟩

/-- An address with colons holds a colon. -/
theorem colon_mem_of_isColonHex (h : isColonHex s = true) : ':' ∈ s :=
  mem_of_mem_cut ((isColonHex_iff s).1 h).2.colon_mem

/-- An address with colons does not begin with the letter v. -/
theorem head?_of_isColonHex (h : isColonHex s = true) : s.head? ≠ some 'v' := by
  have hgrouped := ((isColonHex_iff s).1 h).2
  intro hhead
  rw [← cut_append_fromSep '%' s] at hhead
  cases haddress : (cut '%' s).1 with
  | nil =>
    rw [haddress] at hgrouped
    cases hgrouped.colon_mem
  | cons c rest =>
    rw [haddress] at hhead hgrouped
    exact (hgrouped.isAddressChar c List.mem_cons_self).ne_v (Option.some.inj hhead)

/-- An address with colons is not a dotted one. -/
theorem isDotted_of_isColonHex (h : isColonHex s = true) : isDotted s = false := by
  refine Bool.eq_false_iff.2 fun hdotted => ?_
  rcases of_mem_isDotted hdotted ':' (colon_mem_of_isColonHex h) with heq | hdigit
  · cases heq
  · revert hdigit
    decide

/-! ## Addresses of later versions -/

/-- An address of a later version is made of a version and more text. -/
theorem isFuture_iff (s : List Char) :
    isFuture s = true ↔ ∃ version rest, s = 'v' :: (version ++ '.' :: rest) ∧ version ≠ [] ∧
      (∀ c ∈ version, IsHex c) ∧ rest ≠ [] ∧ '\n' ∉ rest := by
  have hpoint : ¬(Hex.digitValue? '.').isSome = true := by decide
  constructor
  · intro h
    unfold isFuture at h
    split at h
    · rename_i r
      have hr := List.takeWhile_append_dropWhile (p := fun c => (Hex.digitValue? c).isSome) (l := r)
      have hversion := List.all_takeWhile (p := fun c => (Hex.digitValue? c).isSome) (l := r)
      generalize r.takeWhile (fun c => (Hex.digitValue? c).isSome) = version at h hr hversion
      generalize r.dropWhile (fun c => (Hex.digitValue? c).isSome) = after at hr
      subst hr
      dsimp only at h
      rw [List.drop_left] at h
      split at h
      · rename_i rest
        simp only [Bool.and_eq_true, Bool.not_eq_true', List.isEmpty_eq_false_iff] at h
        obtain ⟨⟨hne, hrest⟩, hline⟩ := h
        exact ⟨version, rest, rfl, hne, List.all_eq_true.1 hversion, hrest,
          fun hmem => Bool.eq_false_iff.1 hline (List.contains_iff_mem.2 hmem)⟩
      · cases h
    · cases h
  · rintro ⟨version, rest, rfl, hne, hhex, hrest, hline⟩
    have htake : (version ++ '.' :: rest).takeWhile (fun c => (Hex.digitValue? c).isSome) =
        version := by
      rw [List.takeWhile_append_of_pos hhex,
        List.takeWhile_cons_of_neg (p := fun c => (Hex.digitValue? c).isSome) hpoint,
        List.append_nil]
    rw [isFuture, htake, List.drop_left]
    simp [hne, hrest, hline]

/-! ## Hosts -/

/-- A host in lower case; a zone keeps its case. -/
def lowerHost (s : List Char) : List Char := lower (cut '%' s).1 ++ fromSep '%' s

/-- The host in lower case has the zone that it had. -/
theorem cut_lowerHost (s : List Char) :
    cut '%' (lowerHost s) = (lower (cut '%' s).1, (cut '%' s).2) := by
  have hmark : '%' ∉ lower (cut '%' s).1 := fun hmem =>
    sep_not_mem_cut '%' s (mem_of_mem_lower hmem (by decide))
  rw [lowerHost, fromSep]
  cases hzone : (cut '%' s).2 with
  | none =>
    rw [Option.elim_none, List.append_nil]
    exact cut_of_not_mem hmark
  | some z => exact cut_append_sep hmark z

/-- A character below the small letters in a host was there before it was lowered. -/
theorem mem_of_mem_lowerHost (h : c ∈ lowerHost s) (hc : c.toNat < 0x61) : c ∈ s := by
  rcases List.mem_append.1 h with h | h
  · exact mem_of_mem_cut (mem_of_mem_lower h hc)
  · rw [← cut_append_fromSep '%' s]
    exact List.mem_append_right _ h

/-- A front without a percent sign and without characters that have rules of their own is lowered
character by character. -/
theorem lowerHost_append {head : List Char} (hordinary : ∀ c ∈ head, IsOrdinary c)
    (hmark : '%' ∉ head) (rest : List Char) :
    ∃ before, lowerHost (head ++ rest) =
      head.map lowerChar ++ (lowerFrom before (cut '%' rest).1 ++ fromSep '%' rest) := by
  refine ⟨head.reverse ++ [], ?_⟩
  rw [lowerHost, fromSep, cut_append_of_not_mem hmark, lower, lowerFrom_append hordinary,
    List.append_assoc]
  rfl

/-- **Lowering a host again changes nothing.** -/
theorem lowerHost_lowerHost (s : List Char) : lowerHost (lowerHost s) = lowerHost s := by
  rw [lowerHost, fromSep, cut_lowerHost, lower_lower]
  rfl

/-- An address with colons is one in lower case. -/
theorem isColonHex_lowerHost (h : isColonHex s = true) : isColonHex (lowerHost s) = true := by
  rw [isColonHex_iff] at h ⊢
  rw [cut_lowerHost]
  exact ⟨h.1, h.2.lower⟩

/-- An address of a later version is one in lower case. -/
theorem isFuture_lowerHost (h : isFuture s = true) : isFuture (lowerHost s) = true := by
  obtain ⟨version, rest, rfl, hne, hhex, hrest, hline⟩ := (isFuture_iff _).1 h
  -- The version and the point stand before any zone, and are lowered character by character.
  have hordinary : ∀ c ∈ 'v' :: (version ++ ['.']), IsOrdinary c := by
    intro c hc
    rcases List.mem_cons.1 hc with rfl | hc
    · exact ⟨by decide, by decide⟩
    · rcases List.mem_append.1 hc with hc | hc
      · exact IsAddressChar.isOrdinary (.inr (.inl (hhex c hc)))
      · obtain rfl := List.mem_singleton.1 hc
        exact ⟨by decide, by decide⟩
  have hmark : '%' ∉ 'v' :: (version ++ ['.']) := by
    intro hmem
    rcases List.mem_cons.1 hmem with heq | hmem
    · cases heq
    · rcases List.mem_append.1 hmem with hmem | hmem
      · exact absurd (hhex _ hmem) (by decide)
      · cases List.mem_singleton.1 hmem
  obtain ⟨before, hlowered⟩ := lowerHost_append hordinary hmark rest
  rw [List.cons_append, List.append_assoc, List.singleton_append, List.map_cons, List.map_append,
    List.cons_append, List.append_assoc] at hlowered
  replace hlowered : lowerHost ('v' :: (version ++ '.' :: rest)) =
      'v' :: (version.map lowerChar ++
        '.' :: (lowerFrom before (cut '%' rest).1 ++ fromSep '%' rest)) := hlowered
  refine (isFuture_iff _).2 ⟨_, _, hlowered, ?_, ?_, ?_, ?_⟩
  · rwa [ne_eq, List.map_eq_nil_iff]
  · intro c hc
    obtain ⟨d, hd, rfl⟩ := List.mem_map.1 hc
    exact (hhex d hd).lowerChar
  · intro hnil
    obtain ⟨hfirst, hlast⟩ := List.append_eq_nil_iff.1 hnil
    have hempty : (cut '%' rest).1 = [] :=
      Decidable.of_not_not fun hne => lowerFrom_ne_nil hne _ hfirst
    rw [← cut_append_fromSep '%' rest, hempty, hlast] at hrest
    exact hrest rfl
  · intro hmem
    have hline' : '\n' ∈ lowerHost ('v' :: (version ++ '.' :: rest)) := by
      rw [hlowered]
      exact List.mem_cons_of_mem _ (List.mem_append_right _ (List.mem_cons_of_mem _ hmem))
    rcases List.mem_cons.1 (mem_of_mem_lowerHost hline' (by decide)) with heq | hmem
    · cases heq
    · rcases List.mem_append.1 hmem with hmem | hmem
      · exact absurd (hhex _ hmem) (by decide)
      · exact hline ((List.mem_cons.1 hmem).resolve_left (by decide))

end Address

namespace Uri

open Address

variable {host : List Char}

/-- A host in brackets is an address with colons, or one of a later version. -/
theorem checkBracketed_iff (host : List Char) :
    checkBracketed host = .ok () ↔ isFuture host = true ∨ isColonHex host = true := by
  have hhead : isFuture host = true → host.head? = some 'v' := by
    intro h
    obtain ⟨version, rest, rfl, -⟩ := (isFuture_iff host).1 h
    rfl
  rw [checkBracketed]
  split
  · rename_i hv
    have hcolon : ¬isColonHex host = true := fun h => head?_of_isColonHex h hv
    split
    · rename_i hfuture
      exact iff_of_true rfl (.inl hfuture)
    · rename_i hfuture
      exact iff_of_false (by simp) (not_or.2 ⟨hfuture, hcolon⟩)
  · rename_i hv
    have hfuture : ¬isFuture host = true := fun h => hv (hhead h)
    split
    · rename_i hdotted
      refine iff_of_false (by simp) (not_or.2 ⟨hfuture, fun h => ?_⟩)
      rw [isDotted_of_isColonHex h] at hdotted
      cases hdotted
    · split
      · rename_i hcolon
        exact iff_of_true rfl (.inr hcolon)
      · rename_i hcolon
        exact iff_of_false (by simp) (not_or.2 ⟨hfuture, hcolon⟩)

/-- **A host in brackets that is accepted is accepted in lower case.** -/
theorem checkBracketed_lowerHost (h : checkBracketed host = .ok ()) :
    checkBracketed (lowerHost host) = .ok () := by
  rw [checkBracketed_iff] at h ⊢
  exact h.imp isFuture_lowerHost isColonHex_lowerHost

end Uri

end CloudClient
