import CloudClient.Failure
import CloudClient.Text.Blank
import CloudClient.Text.Utf8

/-!
# Checks of names

Names are checked before a request is made of them. Each check accepts a name or makes the fault
that says what is wrong with it.
-/

namespace CloudClient.Name

/-- Refuses a name of a kind for a reason. -/
def refuse (kind name reason : String) : Except Fault Unit :=
  .error (.invalidName kind name reason)

/-- What ends the check of a name when it comes to a value that is no text. -/
def misuse (kind : String) (v : Json) : Cause :=
  match kind with
  | "bucket" => ⟨"TypeError", s!"argument of type '{v.kindName}' is not iterable"⟩
  | "key" => ⟨"AttributeError", s!"'{v.kindName}' object has no attribute 'encode'"⟩
  | "queue" => ⟨"TypeError", s!"object of type '{v.kindName}' has no len()"⟩
  | _ => ⟨"AttributeError", s!"'{v.kindName}' object has no attribute 'decode'"⟩

/-- The text of a name that has to be given; what counts as no name is refused as it displays. -/
def given (kind : String) (v : Json) : Except Failure String :=
  match v with
  | .text name => .ok name
  | v =>
    if v.isEmpty then
      .error (.fault (.invalidNameIn .construction kind v "must be non-empty"))
    else .error (.foreign (misuse kind v))

/-- The name of a bucket has 3 to 255 characters and no slash. -/
def checkBucket (name : String) : Except Fault Unit :=
  if name.isEmpty then refuse "bucket" name "must be non-empty"
  else if name.toList.contains '/' then refuse "bucket" name "must not contain '/'"
  else if name.length < 3 || 255 < name.length then
    refuse "bucket" name "length must be between 3 and 255"
  else .ok ()

/-- The key of an object has at most 1024 bytes. -/
def checkKey (key : String) : Except Fault Unit :=
  if key.isEmpty then refuse "key" key "must be non-empty"
  else if 1024 < (Utf8.ofString key).length then
    refuse "key" key "must be at most 1024 bytes in UTF-8"
  else .ok ()

/-- A character of the name of a queue. -/
def isQueueChar (c : Char) : Bool :=
  Uri.isAsciiLetter c || Text.isAsciiDigit c || c == '_' || c == '-'

/-- The body of the name of a queue: one or more of its characters. -/
def isQueueBase (s : List Char) : Bool :=
  !s.isEmpty && s.all isQueueChar

/-- The mark at the end of the name of a queue that keeps its order. -/
def orderedMark : List Char := ".fifo".toList

/-- A base, with or without the mark of an ordered queue. -/
def isQueueName (s : List Char) : Bool :=
  isQueueBase s ||
    (orderedMark.isSuffixOf s && isQueueBase (s.take (s.length - orderedMark.length)))

/-- A text without one line feed at its end. -/
def dropLineFeed (s : List Char) : List Char :=
  if s.getLast? = some '\n' then s.dropLast else s

/-- The name of a queue has at most 80 characters and the form of one; a line feed may follow. -/
def checkQueue (name : String) : Except Fault Unit :=
  if name.isEmpty then refuse "queue" name "must be non-empty"
  else if 80 < name.length then refuse "queue" name "must be at most 80 characters"
  else if isQueueName name.toList || isQueueName (dropLineFeed name.toList) then .ok ()
  else refuse "queue" name "only alphanumerics, '-' and '_' are allowed"

/-- A lower-case letter or a digit. -/
def isRegionChar (c : Char) : Bool := ('a' ≤ c && c ≤ 'z') || Text.isAsciiDigit c

/-- Runs of lower-case letters and digits with single hyphens between them. -/
def isRegion (s : List Char) : Bool :=
  (Text.pieces '-' s).all fun p => !p.isEmpty && p.all isRegionChar

/-- The name of a region. -/
def checkRegion (region : String) : Except Fault Unit :=
  if isRegion region.toList then .ok ()
  else
    .error (.invalidArgument "region" (.text region)
      "expected lower-case letters, digits and '-' (e.g. eu-west-1)")

/-- The path of the locator of a queue. -/
def queuePath (url : String) : Except Failure String := do
  if url.isEmpty then
    .error (.fault (.invalidName "queue URL" url "must be non-empty"))
  let u ← (Uri.read url).mapError .uri
  if u.scheme.isEmpty || u.authority.isEmpty || u.path == "" || u.path == "/" then
    .error (.fault (.invalidName "queue URL" url "expected scheme://host/account/queue"))
  return u.path

/-- An entity tag in quotes; one that has them, or is marked as weak, stays as it is. -/
def quotedTag (tag : String) : String :=
  let t := Text.trim tag.toList
  if t.head? = some '"' || ['W', '/'].isPrefixOf t then String.ofList t
  else String.ofList ('"' :: t ++ ['"'])

end CloudClient.Name
