import CloudClient.Body
import CloudClient.Dict

/-!
# Requests

A request is one operation in terms of HTTP, before it is signed: a method, a path that is not yet
encoded, a query, headers and a body. A request to the queue service carries a form, which becomes
its body when it is signed.
-/

namespace CloudClient

/-- The request methods that the services use. -/
inductive Method where
  | get
  | put
  | post
  | delete
  | head
  deriving DecidableEq, Repr, Inhabited

namespace Method

/-- The method as it is sent. -/
def name : Method → String
  | get => "GET"
  | put => "PUT"
  | post => "POST"
  | delete => "DELETE"
  | head => "HEAD"

/-- The method of a given name. -/
def ofName? (s : String) : Option Method :=
  [get, put, post, delete, head].find? fun m => m.name == s

/-- A method is found by its name. -/
theorem ofName?_name (m : Method) : ofName? m.name = some m := by cases m <;> decide

/-- Methods of one name are the same. -/
theorem name_injective {m n : Method} (h : m.name = n.name) : m = n := by
  cases m <;> cases n <;> first | rfl | (revert h; decide)

end Method

/-- A query; a key without a value is a bare flag. -/
abbrev Query := Dict (Option String)

/-- Headers; a name is written as it is to be sent. -/
abbrev Headers := Dict String

/-- An unsigned request. -/
structure Request where
  operation : String
  method : Method
  path : String
  resource : String
  query : Query := .empty
  headers : Headers := .empty
  body : Body := .empty
  form : Option (Dict String) := none
  isIdempotent : Bool := true
  deriving DecidableEq

end CloudClient
