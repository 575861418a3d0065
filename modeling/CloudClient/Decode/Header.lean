import CloudClient.Calendar.MailDate
import CloudClient.Failure
import CloudClient.Response
import CloudClient.Result
import CloudClient.Text.CharClass

/-!
# Values in headers

The properties of an object stand in the headers of a response.
-/

namespace CloudClient.Header

/-- The beginning of the names of headers with user metadata. -/
def metadataMark : List Char := "x-amz-meta-".toList

/-- The user metadata among headers, under lowered names without their mark. -/
def userMetadata (h : ResponseHeaders) : Dict String :=
  .ofList <| h.filterMap fun (name, value) =>
    (Text.dropFront? metadataMark (Text.lower name.toList)).map fun rest =>
      (String.ofList rest, value)

/-- The length that headers tell; a text that is not all digits is no length. -/
def contentLength (h : ResponseHeaders) : Except IntegerError (Option Int) :=
  match h.first? "Content-Length" with
  | none => .ok none
  | some t =>
    if t.isEmpty || !t.toList.all Text.isDigitLike then .ok none else (readInt t).map some

/-- The date of a header, if it can be read as one. -/
def date (text : Option String) : Except DateError (Option DateTime) :=
  match text with
  | none => .ok none
  | some t => if t.isEmpty then .ok none else MailDate.read t

/-- The properties of an object. -/
def objectInfo (h : ResponseHeaders) : Except Failure ObjectInfo := do
  let contentLength ← (contentLength h).mapError .integer
  let lastModified ← (date (h.first? "Last-Modified")).mapError .date
  return {
    contentLength
    contentType := h.first? "Content-Type"
    etag := h.first? "ETag"
    lastModified
    userMetadata := userMetadata h
    versionId := h.first? "x-amz-version-id" }

end CloudClient.Header
