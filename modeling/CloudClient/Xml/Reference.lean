import CloudClient.Encoding.Binary
import CloudClient.Xml.Source

/-!
# References

After an ampersand stands a reference, which a semicolon ends: the number of a character, or the
name of an entity. Five entities are always there and stand for the characters of the markup.
-/

namespace CloudClient.Xml

/-- What a reference refers to. -/
inductive Reference where
  | char (c : Char)
  | entity (name : List Char)
  deriving DecidableEq, Repr, Inhabited

/-- The character that one of the five standard entities stands for. -/
def standard? (name : List Char) : Option Char :=
  match String.ofList name with
  | "amp" => some '&'
  | "lt" => some '<'
  | "gt" => some '>'
  | "quot" => some '"'
  | "apos" => some '\x27'
  | _ => none

/-- The character of a number, when there is one and XML allows it. -/
def charOfNumber? (n : Nat) : Option Char :=
  if h : n.isValidChar then
    let c := Char.ofNatAux n h
    if isXmlChar c then some c else none
  else none

/-- The number that digits in a base write. -/
def numberOf (base : Nat) (ds : List Char) : Nat :=
  ds.foldl (fun n d => base * n + (Hex.digitValue? d).getD 0) 0

/-- A decimal digit. -/
def isDecimal (c : Char) : Bool := '0' ≤ c && c ≤ '9'

/-- A hexadecimal digit. -/
def isHexadecimal (c : Char) : Bool := (Hex.digitValue? c).isSome

/-- Reads the number of a character and the semicolon after it. -/
def readNumber? (base : Nat) (isDigit : Char → Bool) (s : List Char) :
    Option (Reference × List Char) :=
  let ds := s.takeWhile isDigit
  match s.dropWhile isDigit with
  | ';' :: r =>
    if ds.isEmpty then none else (charOfNumber? (numberOf base ds)).map fun c => (.char c, r)
  | _ => none

/-- The number of a character takes at least its semicolon. -/
theorem length_readNumber?_lt {base : Nat} {isDigit : Char → Bool} {s r : List Char}
    {reference : Reference} (h : readNumber? base isDigit s = some (reference, r)) :
    r.length < s.length := by
  have hle := (List.dropWhile_suffix isDigit (l := s)).length_le
  unfold readNumber? at h
  simp only at h
  split at h
  · rename_i heq
    split at h
    · cases h
    · rw [heq, List.length_cons] at hle
      obtain ⟨c, -, hc⟩ := Option.map_eq_some_iff.1 h
      cases hc
      omega
  · cases h

/-- Reads what follows an ampersand. -/
def readReference? (letters : Letters) (s : List Char) : Option (Reference × List Char) :=
  match s with
  | '#' :: 'x' :: r => readNumber? 16 isHexadecimal r
  | '#' :: r => readNumber? 10 isDecimal r
  | _ =>
    match readName? letters s with
    | some (name, ';' :: r) => some (.entity name, r)
    | _ => none

/-- A reference takes at least one character. -/
theorem length_readReference?_lt {letters : Letters} {s r : List Char} {reference : Reference}
    (h : readReference? letters s = some (reference, r)) : r.length < s.length := by
  unfold readReference? at h
  split at h
  · have := length_readNumber?_lt h
    simp only [List.length_cons]
    omega
  · have := length_readNumber?_lt h
    simp only [List.length_cons]
    omega
  · split at h
    · rename_i hn
      have := length_readName?_lt hn
      cases h
      simp only [List.length_cons] at this
      omega
    · cases h

end CloudClient.Xml
