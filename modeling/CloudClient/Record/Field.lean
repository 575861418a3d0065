import CloudClient.Calendar.EpochTime
import CloudClient.Json

/-!
# Fields of a record

A record is an object under the names of its fields. A field that is missing counts as null, and
one that is null takes its default. Numbers that are not integers are recorded as texts with six
places, so that a record is the same wherever it is read.
-/

namespace CloudClient.Json

/-- The value of a field, or null. -/
def field (v : Json) (k : String) : Json := (v.field? k).getD null

/-- The value of a field that is there and not null. -/
def given? (v : Json) (k : String) : Option Json :=
  match v.field? k with
  | none | some null => none
  | some x => some x

/-- The text of a value that is one. -/
def text? : Json → Option String
  | text s => some s
  | _ => none

/-- The truth value of a value that is one. -/
def bool? : Json → Option Bool
  | bool b => some b
  | _ => none

/-- The number that a value denotes. -/
def float? : Json → Option Binary64
  | int n => some (.ofInt n)
  | float x => some x
  | bool b => some (.ofInt (if b then 1 else 0))
  | _ => none

/-- The items of a list; another value has none. -/
def items : Json → List Json
  | list l => l
  | _ => []

/-- The texts among the items of a list. -/
def texts (v : Json) : List String := v.items.filterMap text?

/-- The text of a field, if it has one. -/
def textAt? (v : Json) (k : String) : Option String := (v.given? k).bind text?

/-- The integer of a field, if it has one. -/
def intAt? (v : Json) (k : String) : Option Int := (v.given? k).bind integer?

/-- The text of a field. -/
def textAt (v : Json) (k : String) (default : String := "") : String := (v.textAt? k).getD default

/-- The integer of a field. -/
def intAt (v : Json) (k : String) (default : Int := 0) : Int := (v.intAt? k).getD default

/-- The item of a list at the index that a field has; an index below zero counts from the end. -/
def itemAt? {α : Type} (v : Json) (k : String) (l : List α) : Option α :=
  let i := v.intAt k
  let i := if i < 0 then i + l.length else i
  if i < 0 then none else l[i.toNat]?

/-- The truth value of a field. -/
def boolAt (v : Json) (k : String) (default : Bool := false) : Bool :=
  ((v.given? k).bind bool?).getD default

/-- The moment of a field in seconds since 1970, with whole seconds by default. -/
def momentAt (v : Json) (k : String) (default : Int) : EpochTime :=
  match v.given? k with
  | some (.float x) => .real x
  | some x => .whole (x.integer?.getD default)
  | none => .whole default

/-- The keys and values of a list of pairs. -/
def pairs (v : Json) : List (String × Json) :=
  v.items.filterMap fun p =>
    match p with
    | list [text k, x] => some (k, x)
    | _ => none

/-- The keys and texts of a list of pairs. -/
def textPairs (v : Json) : List (String × String) :=
  v.pairs.map fun (k, x) => (k, x.text?.getD "")

/-- The dictionary of an object or of a list of pairs. -/
def toDict : Json → Dict Json
  | object fields => .ofList fields
  | v => .ofList v.pairs

/-- The bytes of a field: a text, or hexadecimal digits under the field's name and `_hex`. -/
def bytesAt (v : Json) (k : String) : Except Hex.HexError Bytes :=
  match v.textAt? k with
  | some s => .ok (Utf8.ofString s)
  | none => Hex.decode (v.textAt (k ++ "_hex"))

/-- The bytes of a record with a field `text`, `text_hex` or `hex`. -/
def content (v : Json) : Except Hex.HexError Bytes :=
  match v.textAt? "hex" with
  | some s => Hex.decode s
  | none => v.bytesAt "text"

/-! ## Writing -/

/-- A number as a text with six places. -/
def ofFloat (x : Binary64) : Json := text (x.fixedText 6)

/-- An integer when there is one, and null otherwise. -/
def ofInt? : Option Int → Json
  | some n => int n
  | none => null

/-- The object of a dictionary of texts. -/
def ofTexts (d : Dict String) : Json := object (d.entries.map fun (k, v) => (k, text v))

/-- Bytes as hexadecimal digits. -/
def ofBytes (b : Bytes) : Json := text (Hex.ofBytes b)

mutual
/-- A value whose numbers, integers apart, are texts with six places. -/
def fixed : Json → Json
  | float x => ofFloat x
  | list xs => list (fixedItems xs)
  | object fs => object (fixedFields fs)
  | v => v

/-- The items of a list, each fixed. -/
def fixedItems : List Json → List Json
  | [] => []
  | x :: xs => fixed x :: fixedItems xs

/-- The fields of an object, each fixed. -/
def fixedFields : List (String × Json) → List (String × Json)
  | [] => []
  | (k, v) :: r => (k, fixed v) :: fixedFields r
end

end CloudClient.Json
