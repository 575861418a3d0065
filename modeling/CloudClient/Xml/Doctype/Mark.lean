import CloudClient.Xml.Token

/-!
# Marks of declarations

Declarations are made of names, literals and signs. A mark is read after any blanks; what may
follow it directly is part of its form.
-/

namespace CloudClient.Xml

/-- A piece of a declaration. -/
inductive Mark where
  /-- A name without a colon. -/
  | name (s : List Char)
  /-- A name with a colon inside. -/
  | qualified (s : List Char)
  /-- Characters of names that do not make a name. -/
  | word (s : List Char)
  /-- A name with a sign of repetition. -/
  | repeated (s : List Char)
  /-- A name after a number sign. -/
  | keyword (s : List Char)
  /-- A text in quotes. -/
  | literal (s : List Char)
  /-- A closing parenthesis, with a sign of repetition or without one. -/
  | close (sign : Option Char)
  /-- Any other sign that stands alone. -/
  | sign (c : Char)
  /-- A reference to an entity of declarations. -/
  | outside
  /-- The opening of a declaration. -/
  | declaration (kind : List Char)
  /-- A comment or a processing instruction. -/
  | silent
  deriving DecidableEq, Repr, Inhabited

namespace Mark

/-- A sign of repetition. -/
def isRepetition (c : Char) : Bool := c == '?' || c == '*' || c == '+'

/-- The text goes on with a character of a class. -/
def goesOn (p : Char → Bool) : List Char → Bool
  | [] => false
  | c :: _ => p c

/-- What may follow a name. -/
def endsName (c : Char) : Bool :=
  isSpace c || c == '>' || c == ')' || c == ',' || c == '|' || c == '[' || c == '%'

/-- What may follow a literal. -/
def endsLiteral (c : Char) : Bool := isSpace c || c == '>' || c == '%' || c == '['

/-- What may follow a keyword after a number sign. -/
def endsKeyword (c : Char) : Bool := isSpace c || c == ')' || c == '>' || c == '%' || c == '|'

/-- What may follow a closing parenthesis without a sign of repetition. -/
def endsGroup (c : Char) : Bool := isSpace c || c == '>' || c == ',' || c == '|' || c == ')'

/-- The kind of a run of name characters and colons. -/
def ofWord (letters : Letters) (s : List Char) : Mark :=
  if !(s.head?.any (isNameStart letters)) then word s
  else
    match s.dropWhile (isNameChar letters) with
    | [] => name s
    | _ :: base =>
      if !base.isEmpty && base.all (isNameChar letters) then qualified s else word s

/-- Reads a run of name characters and colons with what may follow it. -/
def readWord? (letters : Letters) (s : List Char) : Option (Mark × List Char) :=
  let isPart (c : Char) : Bool := isNameChar letters c || c == ':'
  let w := s.takeWhile isPart
  let mark := ofWord letters w
  if w.isEmpty then none
  else
    match s.dropWhile isPart with
    | c :: r =>
      if endsName c then some (mark, c :: r)
      else if isRepetition c then
        match mark with
        | word _ => none
        | _ => some (repeated w, r)
      else none
    | [] => none

/-- Reads a literal after its opening quote. -/
def readLiteral? (q : Char) (s : List Char) : Option (Mark × List Char) :=
  match cutQuote? q s with
  | some (text, r) => if goesOn endsLiteral r then some (literal text, r) else none
  | none => none

/-- Reads a closing parenthesis and a sign of repetition after it. -/
def readClose? : List Char → Option (Mark × List Char)
  | c :: r =>
    if isRepetition c then some (close (some c), r)
    else if endsGroup c then some (close none, c :: r)
    else none
  | [] => none

/-- Reads what begins with an angle bracket among declarations. -/
def readOpening? (letters : Letters) (s : List Char) : Option (Mark × List Char) :=
  match s with
  | '!' :: '-' :: '-' :: r => (skipComment? r).map fun r => (silent, r)
  | '!' :: r =>
    let isLetter (c : Char) : Bool := isLatinLetter c || c == '_'
    let kind := r.takeWhile isLetter
    let rest := r.dropWhile isLetter
    if !kind.isEmpty && startsWithSpace rest then some (declaration kind, rest) else none
  | '?' :: r => (skipInstruction? letters r).map fun r => (silent, r)
  | _ => none

/-- Reads the mark at the front of declarations, after blanks. -/
def read? (letters : Letters) (s : List Char) : Option (Mark × List Char) :=
  match skipSpace s with
  | [] => none
  | c :: r =>
    if c == '"' || c == '\x27' then readLiteral? c r
    else if c == '<' then readOpening? letters r
    else if c == ')' then readClose? r
    else if c == '(' || c == '[' || c == '>' || c == ',' || c == '|' then some (sign c, r)
    else if c == ']' then
      if [']', '>'].isPrefixOf r then none else some (sign c, r)
    else if c == '#' then
      match readName? letters r with
      | some (n, r) => if goesOn endsKeyword r then some (keyword n, r) else none
      | none => none
    else if c == '%' then
      match readName? letters r with
      | some (_, ';' :: r) => some (outside, r)
      | some _ => none
      | none => if goesOn (fun c => isSpace c || c == '%') r then some (sign c, r) else none
    else readWord? letters (c :: r)

end Mark

end CloudClient.Xml
