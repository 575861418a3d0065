import CloudClient.Dict
import CloudClient.Encoding.Binary
import CloudClient.Number.Reading
import CloudClient.Number.Shortest

/-!
# Values

Log fields, fault contexts and loosely typed arguments hold values: null, truth values, integers,
numbers, texts, lists and objects with their keys in order. A value has three texts: its JSON
line, its display inside a message, and its quoted form, which differs from the display for texts
alone. JSON is written in ASCII, and read back with objects in the order of their keys' first
occurrence.
-/

namespace CloudClient

/-- A value of a log field or of a loosely typed argument. -/
inductive Json where
  | null
  | bool (b : Bool)
  | int (n : Int)
  | float (x : Binary64)
  | text (s : String)
  | list (items : List Json)
  | object (fields : List (String × Json))
  deriving Repr, Inhabited

namespace Json

/-- A text when there is one, and null otherwise. -/
def ofText? : Option String → Json
  | some s => text s
  | none => null

/-- The object of a dictionary. -/
def ofDict (d : Dict Json) : Json := object d.entries

/-- The name of the kind of a value. -/
def kindName : Json → String
  | null => "NoneType"
  | bool _ => "bool"
  | int _ => "int"
  | float _ => "float"
  | text _ => "str"
  | list _ => "list"
  | object _ => "dict"

/-- Values that count as absent: null, false, zero and everything empty. -/
def isEmpty : Json → Bool
  | null => true
  | bool b => !b
  | int n => n == 0
  | float x => x.sameValue (.zero false)
  | text s => s.isEmpty
  | list xs => xs.isEmpty
  | object fs => fs.isEmpty

/-- The number a value denotes when it denotes an exact one: truth values count as zero and one. -/
def integer? : Json → Option Int
  | bool b => some (if b then 1 else 0)
  | int n => some n
  | _ => none

/-- Two values of the simple kinds are equal when they denote the same number, or are the same
text or both null. -/
def sameScalar (a b : Json) : Bool :=
  match a, b with
  | null, null => true
  | text s, text t => s == t
  | float x, float y => x.sameValue y
  | float x, b => match b.integer? with
    | some n => x.leInt n && !x.ltInt n
    | none => false
  | a, float y => match a.integer? with
    | some n => y.leInt n && !y.ltInt n
    | none => false
  | a, b => match a.integer?, b.integer? with
    | some m, some n => m == n
    | _, _ => false

mutual
/-- Equality of values: numbers by what they denote, lists item by item, objects key by key
whatever their order. -/
def same : Json → Json → Bool
  | list xs, b => match b with
    | list ys => sameList xs ys
    | _ => false
  | object fs, b => match b with
    | object gs => fs.length == gs.length && sameFields fs gs
    | _ => false
  | a, b => sameScalar a b

/-- Equality of lists, item by item. -/
def sameList : List Json → List Json → Bool
  | [], ys => ys.isEmpty
  | x :: xs, ys => match ys with
    | [] => false
    | y :: ys => same x y && sameList xs ys

/-- Every field stands in the other object with an equal value. -/
def sameFields : List (String × Json) → List (String × Json) → Bool
  | [], _ => true
  | (k, v) :: r, gs => (match gs.lookup k with
    | some w => same v w
    | none => false) && sameFields r gs
end

/-! ## JSON text -/

/-- A UTF-16 unit as an escape. -/
def unitEscape (n : Nat) : List Char := '\\' :: 'u' :: Text.hexDigits 4 n

/-- One character inside a JSON string, in ASCII; a character beyond the basic plane becomes two
surrogates. -/
def escapeChar (c : Char) : List Char :=
  let n := c.toNat
  if c = Text.doubleMark || c = '\\' then ['\\', c]
  else if c = '\n' then ['\\', 'n']
  else if c = '\r' then ['\\', 'r']
  else if c = '\t' then ['\\', 't']
  else if n = 0x8 then ['\\', 'b']
  else if n = 0xC then ['\\', 'f']
  else if 0x20 ≤ n && n < 0x7F then [c]
  else if n < 0x10000 then unitEscape n
  else unitEscape (0xD800 + (n - 0x10000) / 0x400) ++ unitEscape (0xDC00 + (n - 0x10000) % 0x400)

/-- A JSON string. -/
def encodeText (s : String) : List Char :=
  Text.doubleMark :: s.toList.flatMap escapeChar ++ [Text.doubleMark]

/-- The spelling of a number in JSON. -/
def floatText : Binary64 → String
  | .notANumber => "NaN"
  | .infinite negative => if negative then "-Infinity" else "Infinity"
  | x => x.shortestText

mutual
/-- The characters of a value's JSON text. -/
def encode : Json → List Char
  | null => "null".toList
  | bool b => (if b then "true" else "false").toList
  | int n => (toString n).toList
  | float x => (floatText x).toList
  | text s => encodeText s
  | list xs => '[' :: encodeItems true xs ++ [']']
  | object fs => '\x7b' :: encodeFields true fs ++ ['\x7d']

/-- The items of a list, with a comma and a space before all but the first. -/
def encodeItems (first : Bool) : List Json → List Char
  | [] => []
  | x :: xs => (if first then [] else [',', ' ']) ++ encode x ++ encodeItems false xs

/-- The fields of an object, with a comma and a space before all but the first. -/
def encodeFields (first : Bool) : List (String × Json) → List Char
  | [] => []
  | (k, v) :: r =>
    (if first then [] else [',', ' ']) ++ encodeText k ++ [':', ' '] ++ encode v
      ++ encodeFields false r
end

/-- The JSON text of a value, in ASCII. -/
def render (v : Json) : String := String.ofList (encode v)

/-! ## Display -/

mutual
/-- The characters of a value's quoted form. -/
def quote : Json → List Char
  | null => "None".toList
  | bool b => (if b then "True" else "False").toList
  | int n => (toString n).toList
  | float x => x.shortestText.toList
  | text s => Text.quote s.toList
  | list xs => '[' :: quoteItems true xs ++ [']']
  | object fs => '\x7b' :: quoteFields true fs ++ ['\x7d']

/-- The quoted items of a list. -/
def quoteItems (first : Bool) : List Json → List Char
  | [] => []
  | x :: xs => (if first then [] else [',', ' ']) ++ quote x ++ quoteItems false xs

/-- The quoted fields of an object. -/
def quoteFields (first : Bool) : List (String × Json) → List Char
  | [] => []
  | (k, v) :: r =>
    (if first then [] else [',', ' ']) ++ Text.quote k.toList ++ [':', ' '] ++ quote v
      ++ quoteFields false r
end

/-- The quoted form of a value: what a message shows of it inside a larger value. -/
def quoted (v : Json) : String := String.ofList (quote v)

/-- The display of a value: a text as it is, anything else as its quoted form. -/
def display : Json → String
  | text s => s
  | v => v.quoted

/-! ## Reading -/

/-- The value of four hexadecimal digits at the front. -/
def readUnit? : List Char → Option (Nat × List Char)
  | a :: b :: c :: d :: r => do
    let a ← Hex.digitValue? a
    let b ← Hex.digitValue? b
    let c ← Hex.digitValue? c
    let d ← Hex.digitValue? d
    some (((a * 16 + b) * 16 + c) * 16 + d, r)
  | _ => none

/-- The character that an escape letter stands for. -/
def unescape? (c : Char) : Option Char :=
  match c with
  | 'n' => some '\n'
  | 'r' => some '\r'
  | 't' => some '\t'
  | 'b' => some (Char.ofNat 0x8)
  | 'f' => some (Char.ofNat 0xC)
  | '/' => some '/'
  | '\\' => some '\\'
  | c => if c = Text.doubleMark then some c else none

/-- Reads the rest of a string up to its closing mark. -/
def readTextFrom (fuel : Nat) (acc : List Char) (s : List Char) :
    Option (List Char × List Char) :=
  match fuel with
  | 0 => none
  | fuel + 1 =>
    match s with
    | [] => none
    | '\\' :: 'u' :: r => do
      let (hi, r) ← readUnit? r
      if 0xD800 ≤ hi && hi < 0xDC00 then
        match r with
        | '\\' :: 'u' :: r' =>
          let (lo, r') ← readUnit? r'
          if 0xDC00 ≤ lo && lo < 0xE000 then
            readTextFrom fuel
              (Char.ofNat (0x10000 + (hi - 0xD800) * 0x400 + (lo - 0xDC00)) :: acc) r'
          else none
        | _ => none
      else readTextFrom fuel (Char.ofNat hi :: acc) r
    | '\\' :: c :: r => do
      let d ← unescape? c
      readTextFrom fuel (d :: acc) r
    | c :: r =>
      if c = Text.doubleMark then some (acc.reverse, r) else readTextFrom fuel (c :: acc) r

/-- The white space of JSON. -/
def isJsonBlank (c : Char) : Bool :=
  c == ' ' || c == '\t' || c == '\n' || c == '\r'

/-- Drops white space at the front. -/
def skip (s : List Char) : List Char := s.dropWhile isJsonBlank

/-- A character that a number may hold. -/
def isNumberChar (c : Char) : Bool :=
  Text.isAsciiDigit c || c == '-' || c == '+' || c == '.' || c == 'e' || c == 'E'

/-- The value of a number's characters: an integer when there is neither point nor exponent. -/
def readNumber? (s : List Char) : Option Json :=
  if s.all fun c => Text.isAsciiDigit c || c == '-' then
    let (negative, ds) := Number.cutSign s
    if ds.isEmpty || !ds.all Text.isAsciiDigit then none
    else
      let n := Number.ofDigits (Number.digitValues ds)
      some (int (if negative then -(n : Int) else n))
  else (Number.readNumber? s).map float

/-- Reads a word that stands for a value. -/
def readWord? (s : List Char) : Option (Json × List Char) :=
  [("null", null), ("true", bool true), ("false", bool false), ("NaN", float .notANumber),
    ("Infinity", float (.infinite false)), ("-Infinity", float (.infinite true))].findSome?
    fun w => (dropWord? w.1.toList s).map fun r => (w.2, r)
where
  /-- Drops the characters of a word from the front. -/
  dropWord? : List Char → List Char → Option (List Char)
    | [], s => some s
    | _ :: _, [] => none
    | a :: w, c :: r => if a = c then dropWord? w r else none

mutual
/-- Reads a value at the front. -/
def readValue (fuel : Nat) (s : List Char) : Option (Json × List Char) :=
  match fuel with
  | 0 => none
  | fuel + 1 =>
    match skip s with
    | '[' :: r =>
      match skip r with
      | ']' :: r => some (list [], r)
      | r => do
        let (xs, r) ← readItems fuel r
        some (list xs, r)
    | '\x7b' :: r =>
      match skip r with
      | '\x7d' :: r => some (object [], r)
      | r => do
        let (fs, r) ← readFields fuel r
        some (object (Dict.ofList fs).entries, r)
    | '\x22' :: r => do
      let (t, r) ← readTextFrom (r.length + 1) [] r
      some (text (String.ofList t), r)
    | s =>
      match readWord? s with
      | some found => some found
      | none =>
        (readNumber? (s.takeWhile isNumberChar)).map fun v => (v, s.dropWhile isNumberChar)

/-- Reads the items of a list and its closing bracket. -/
def readItems (fuel : Nat) (s : List Char) : Option (List Json × List Char) :=
  match fuel with
  | 0 => none
  | fuel + 1 => do
    let (x, r) ← readValue fuel s
    match skip r with
    | ',' :: r =>
      let (xs, r) ← readItems fuel r
      some (x :: xs, r)
    | ']' :: r => some ([x], r)
    | _ => none

/-- Reads the fields of an object and its closing brace. -/
def readFields (fuel : Nat) (s : List Char) : Option (List (String × Json) × List Char) :=
  match fuel with
  | 0 => none
  | fuel + 1 =>
    match skip s with
    | '\x22' :: r => do
      let (k, r) ← readTextFrom (r.length + 1) [] r
      match skip r with
      | ':' :: r =>
        let (v, r) ← readValue fuel r
        match skip r with
        | ',' :: r =>
          let (fs, r) ← readFields fuel r
          some ((String.ofList k, v) :: fs, r)
        | '\x7d' :: r => some ([(String.ofList k, v)], r)
        | _ => none
      | _ => none
    | _ => none
end

/-- The value that a whole JSON text denotes. -/
def read? (s : String) : Option Json := do
  let cs := s.toList
  let (v, r) ← readValue (2 * cs.length + 2) cs
  if (skip r).isEmpty then some v else none

/-! ## Fields of objects -/

/-- The value of a field of an object. -/
def field? (v : Json) (k : String) : Option Json :=
  match v with
  | object fs => fs.lookup k
  | _ => none

end Json

end CloudClient
