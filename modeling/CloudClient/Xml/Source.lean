import CloudClient.Text.Utf8
import CloudClient.Xml.Name

/-!
# Documents as bytes

The first bytes of a document, and then its declaration, tell how its characters are encoded. A
document is read as characters once: every character must be one that XML allows, and every line
ends with a single line feed.
-/

namespace CloudClient.Xml

/-- The encodings in which documents are read. -/
inductive Encoding where
  | utf8
  | latin1
  | ascii
  | utf16 (bigEndian : Bool)
  deriving DecidableEq, Repr, Inhabited

/-! ## Declaration -/

/-- What a declaration says. -/
structure Declaration where
  encoding : Option (List Char) := none
  standalone : Bool := false
  deriving DecidableEq, Repr, Inhabited

/-- A character of a value in a declaration. -/
def isDeclarationChar (c : Char) : Bool :=
  isLatinLetter c || ('0' ≤ c && c ≤ '9') || c == '.' || c == '-' || c == '_'

/-- Reads one setting, which is a name and a quoted value after at least one blank. Without a
setting only blanks are left. -/
def readSetting? (s : List Char) : Option (Option (List Char × List Char) × List Char) :=
  let body := skipSpace s
  if body.isEmpty then some (none, [])
  else if !startsWithSpace s then none
  else
    let isBreak (c : Char) : Bool := c == '=' || isSpace c
    let name := body.takeWhile fun c => !isBreak c
    match skipSpace (body.drop name.length) with
    | '=' :: r =>
      match skipSpace r with
      | q :: r =>
        let value := r.takeWhile isDeclarationChar
        if name.isEmpty || (q != '"' && q != '\x27') then none
        else
          match r.drop value.length with
          | c :: r => if c = q then some (some (name, value), r) else none
          | [] => none
      | [] => none
    | _ => none

/-- Reads the settings of a declaration: the version, then optionally the encoding, then
optionally whether the document stands alone. -/
def readSettings? (s : List Char) : Option Declaration := do
  let (version, r) ← readSetting? s
  let (name, _) ← version
  if name != "version".toList then failure
  let (second, r) ← readSetting? r
  match second with
  | none => return {}
  | some (name, value) =>
    if name = "encoding".toList then
      if !(value.head?.any isLatinLetter) then failure
      let (third, r) ← readSetting? r
      match third with
      | none => return { encoding := value }
      | some (name, answer) => return { encoding := value, standalone := ← alone name answer r }
    else return { standalone := ← alone name value r }
where
  /-- Whether the document stands alone, as the last setting says. -/
  alone (name answer rest : List Char) : Option Bool := do
    if name != "standalone".toList || !(skipSpace rest).isEmpty then failure
    if answer = "yes".toList then return true
    else if answer = "no".toList then return false
    else failure

/-- The text before the end of a processing instruction and the text after it. -/
def cutInstruction? : List Char → Option (List Char × List Char)
  | '?' :: '>' :: r => some ([], r)
  | c :: r => (cutInstruction? r).map fun (a, b) => (c :: a, b)
  | [] => none

/-- The end of a processing instruction takes at least one character. -/
theorem length_cutInstruction?_lt {s text r : List Char} (h : cutInstruction? s = some (text, r)) :
    r.length < s.length := by
  induction s using cutInstruction?.induct generalizing text r with
  | case1 r' =>
    cases h
    simp only [List.length_cons]
    omega
  | case2 c s hne ih =>
    rw [cutInstruction?] at h
    · obtain ⟨⟨a, b⟩, hab, he⟩ := Option.map_eq_some_iff.1 h
      cases he
      exact Nat.lt_succ_of_lt (ih hab)
    · exact hne
  | case3 => cases h

/-- Reads the declaration at the head of a document, if there is one. -/
def readDeclaration? (s : List Char) : Option (Declaration × List Char) :=
  match s with
  | '<' :: '?' :: 'x' :: 'm' :: 'l' :: r =>
    if startsWithSpace r then do
      let (settings, rest) ← cutInstruction? r
      return (← readSettings? settings, rest)
    else some ({}, s)
  | _ => some ({}, s)

/-! ## Encoding -/

/-- The encoding that the first bytes tell, and the bytes after a mark of the byte order. -/
def sniff (s : Bytes) : Encoding × Bytes :=
  match s with
  | 0xFE :: 0xFF :: r => (.utf16 true, r)
  | 0xFF :: 0xFE :: r => (.utf16 false, r)
  | 0xEF :: 0xBB :: 0xBF :: r => (.utf8, r)
  | 0 :: _ :: _ => (.utf16 true, s)
  | _ :: 0 :: _ => (.utf16 false, s)
  | _ => (.utf8, s)

/-- The text of a declaration in capitals. -/
def capitals (s : List Char) : String :=
  String.ofList <| s.map fun c =>
    if 'a' ≤ c && c ≤ 'z' then Char.ofNat (c.toNat - 0x20) else c

/-- Other names of the encodings with one byte for each character: some of those under which they
are known. Under the short names of UTF-8 no more than ASCII is read. -/
def otherNames : List (String × Encoding) :=
  ["LATIN-1", "LATIN1", "LATIN", "L1", "ISO8859-1", "ISO_8859-1", "ISO8859", "IBM819", "CP819"].map
      (·, .latin1) ++
    ["ASCII", "UTF8", "UTF_8", "UTF", "U8"].map (·, .ascii)

/-- The encoding that a declaration names, which must agree with the first bytes in the width of
its units. Only the four encodings that readers promise are known here, by their own names and by
`otherNames`. A reader may have further encodings of one byte for each character, such as
windows-1252, from the system that it runs on; a document in one of these is refused here. -/
def settle? (sniffed : Encoding) (name : Option (List Char)) : Option Encoding :=
  match name with
  | none => some sniffed
  | some n =>
    match sniffed, capitals n with
    | .utf16 b, "UTF-16" => some (.utf16 b)
    | .utf16 b, "UTF-16BE" => if b then some sniffed else none
    | .utf16 b, "UTF-16LE" => if b then none else some sniffed
    | .utf16 _, _ => none
    | _, "UTF-8" => some .utf8
    | _, "ISO-8859-1" => some .latin1
    | _, "US-ASCII" => some .ascii
    | _, other => otherNames.lookup other

/-- The letters of names in an encoding. The common encoding of Latin-1 has the signs among them
only under its own name. -/
def Encoding.letters (e : Encoding) (name : Option (List Char)) : Letters :=
  match e with
  | utf16 _ => .withSigns
  | latin1 => if name.map capitals = some "ISO-8859-1" then .withSigns else .listed
  | _ => .listed

/-- The 16-bit units of a text; a byte that is left over makes it unreadable. -/
def units? (bigEndian : Bool) : Bytes → Option (List Nat)
  | [] => some []
  | [_] => none
  | a :: b :: r =>
    (units? bigEndian r).map
      ((if bigEndian then 256 * a.toNat + b.toNat else 256 * b.toNat + a.toNat) :: ·)

/-- The characters of 16-bit units; both halves of a pair must be there. -/
def ofUnits? : List Nat → Option (List Char)
  | [] => some []
  | u :: r =>
    if u < 0xD800 || 0xDFFF < u then (ofUnits? r).map (Char.ofNat u :: ·)
    else
      match r with
      | v :: r =>
        if u < 0xDC00 && 0xDC00 ≤ v && v ≤ 0xDFFF then
          (ofUnits? r).map (Char.ofNat (0x10000 + 1024 * (u - 0xD800) + (v - 0xDC00)) :: ·)
        else none
      | [] => none

/-- The characters of bytes in an encoding. -/
def decodeAs? (e : Encoding) (s : Bytes) : Option (List Char) :=
  match e with
  | .utf8 => Utf8.decode? s
  | .latin1 => some (s.map fun b => Char.ofNat b.toNat)
  | .ascii => if s.all (· < 0x80) then some (s.map fun b => Char.ofNat b.toNat) else none
  | .utf16 bigEndian => (units? bigEndian s).bind ofUnits?

/-- The characters of a document as far as they are needed to read its declaration, which has only
ASCII. -/
def glance (e : Encoding) (s : Bytes) : List Char :=
  match e with
  | .utf16 bigEndian => ((units? bigEndian (s.take (s.length / 2 * 2))).getD []).map Char.ofNat
  | _ => s.map fun b => Char.ofNat b.toNat

/-! ## Characters -/

/-- The characters that XML allows. -/
def isXmlChar (c : Char) : Bool :=
  c == '\t' || c == '\n' || c == '\r' || (0x20 ≤ c.toNat && c.toNat != 0xFFFE && c.toNat != 0xFFFF)

/-- Every line end is a single line feed. -/
def unifyLines : List Char → List Char
  | '\r' :: '\n' :: r => '\n' :: unifyLines r
  | '\r' :: r => '\n' :: unifyLines r
  | c :: r => c :: unifyLines r
  | [] => []

/-- A document as characters: its declaration, the letters of its names, and the text after the
declaration. -/
structure Source where
  declaration : Declaration
  letters : Letters
  text : List Char
  deriving DecidableEq, Repr, Inhabited

/-- Reads a document as characters. -/
def readSource? (s : Bytes) : Option Source := do
  let (sniffed, s) := sniff s
  let (declaration, _) ← readDeclaration? (glance sniffed s)
  let encoding ← settle? sniffed declaration.encoding
  let cs ← decodeAs? encoding s
  if !cs.all isXmlChar then failure
  let letters := encoding.letters declaration.encoding
  let (declaration, text) ← readDeclaration? (unifyLines cs)
  return { declaration, letters, text }

/-- A text without carriage returns has its line ends unified already. -/
theorem unifyLines_of_no_return {s : List Char} (h : '\r' ∉ s) : unifyLines s = s := by
  induction s with
  | nil => rfl
  | cons c r ih =>
    have hc : c ≠ '\r' := fun e => h (e ▸ List.mem_cons_self)
    have hr : '\r' ∉ r := fun e => h (List.mem_cons_of_mem c e)
    rw [unifyLines, ih hr]
    · intro r' e; exact absurd e hc
    · intro e; exact absurd e hc

end CloudClient.Xml
