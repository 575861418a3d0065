import CloudClient.Encoding.Percent
import CloudClient.Request.Name
import CloudClient.Request

/-!
# Canonical forms

A signature covers a request in a form that does not depend on how the request is written down:
queries are sorted and encoded, header names are lowered, header values are folded. This module
holds the forms that the signature schemes share, and the two ways in which a query is written.
-/

namespace CloudClient

/-! ## Order -/

/-- Texts are ordered by their characters. -/
def textLE (a b : String) : Bool := decide (a ≤ b)

/-- Pairs of texts are ordered by their first parts, and equal first parts by the second ones. -/
def pairLE (a b : String × String) : Bool :=
  decide (a.1 < b.1) || (a.1 == b.1 && textLE a.2 b.2)

/-- Texts in ascending order. -/
def sortedTexts (l : List String) : List String := l.mergeSort textLE

/-- Pairs in ascending order. -/
def sortedPairs (l : List (String × String)) : List (String × String) := l.mergeSort pairLE

namespace Query

/-- One field of a query as it is written. -/
def field (p : String × String) : String := s!"{p.1}={p.2}"

/-- The query as it is signed: every field is encoded, a bare flag has an empty value, and the
fields are sorted in their encoded form. -/
def canonical (q : Query) : String :=
  let fields := q.entries.map fun (k, v) => (Percent.component k, Percent.component (v.getD ""))
  "&".intercalate ((sortedPairs fields).map field)

/-- One field of a query as it is sent: a bare flag is its key alone. -/
def wireField (key : String) : Option String → String
  | none => Percent.component key
  | some v => field (Percent.component key, Percent.component v)

/-- The query as it is sent, sorted by key. -/
def wire (q : Query) : String :=
  "&".intercalate ((sortedTexts q.keys).map fun k => wireField k ((q.get? k).getD none))

end Query

/-- A form as a query in which every key has a value. -/
def formQuery (form : Dict String) : Query := form.mapValues some

namespace Signature

/-- A path can be signed when it begins with a slash and has neither a NUL nor a segment that is
one dot or two. -/
def checkPath (path : String) : Except Fault Unit :=
  let refuse (reason : String) : Except Fault Unit := .error (.malformedPath path reason)
  match path.toList with
  | '/' :: rest =>
    if rest.contains '\x00' then refuse "contains NUL"
    else if (Text.pieces '/' rest).any fun p => p == ['.'] || p == ['.', '.'] then
      refuse "contains '.' or '..' segment"
    else .ok ()
  | _ => refuse "must start with '/'"

/-- Headers under their lowered names; of several names that differ in case alone, the last
value counts. -/
def lowered (h : Headers) : Headers :=
  .ofList <| h.entries.map fun (k, v) => (Text.lowered k, v)

/-- The names of headers that belong to the services. -/
def isServiceHeader (name : String) : Bool := "x-amz-".toList.isPrefixOf name.toList

/-- The line of a header in a canonical form. -/
def headerLine (name value : String) : String := s!"{name}:{Text.folded value}\n"

/-- Lines with line feeds between them. -/
def lines (l : List String) : String := "\n".intercalate l

end Signature

end CloudClient
