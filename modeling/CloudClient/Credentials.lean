import CloudClient.Config
import CloudClient.Text.Quoted

/-!
# Credentials

A pair of keys signs every request of a connection. The secret half is never shown.
-/

namespace CloudClient

/-- The public id of a key, its secret, and a token when the key is temporary. -/
structure Credentials where
  keyId : String
  secret : String
  token : Option String := none
  deriving DecidableEq

/-- Why credentials cannot be used. -/
inductive CredentialsError where
  | emptyKeyId
  | emptySecret
  /-- The environment does not name both halves of a key. -/
  | notInEnvironment
  deriving DecidableEq, Repr

namespace CredentialsError

/-- The text of an error. -/
def message : CredentialsError → String
  | emptyKeyId => "access_key_id must be non-empty"
  | emptySecret => "secret_access_key must be non-empty"
  | notInEnvironment =>
    "Environment variables AWS_ACCESS_KEY_ID (or AWS_ACCESS_KEY) " ++
      "and AWS_SECRET_ACCESS_KEY must be set"

end CredentialsError

namespace Credentials

/-- Both halves of a key are given. -/
def validate (c : Credentials) : Except CredentialsError Unit :=
  if c.keyId.isEmpty then .error .emptyKeyId
  else if c.secret.isEmpty then .error .emptySecret
  else .ok ()

/-- A variable that is set and not empty. -/
def nonEmpty? (env : Environment) (name : String) : Option String :=
  (env.get? name).filter fun s => !s.isEmpty

/-- The credentials of the environment; the id of the key has an older second name. -/
def fromEnvironment (env : Environment) : Except CredentialsError Credentials :=
  let keyId := (nonEmpty? env "AWS_ACCESS_KEY_ID").or (nonEmpty? env "AWS_ACCESS_KEY")
  match keyId, nonEmpty? env "AWS_SECRET_ACCESS_KEY" with
  | some keyId, some secret =>
    .ok { keyId, secret, token := nonEmpty? env "AWS_SESSION_TOKEN" }
  | _, _ => .error .notInEnvironment

/-- The fields of credentials that may be shown. -/
def listing (c : Credentials) : String := s!"Credentials(access_key_id={Text.quoted c.keyId})"

/-- Credentials that differ only in what is secret are shown alike. -/
theorem listing_congr {c d : Credentials} (h : c.keyId = d.keyId) : c.listing = d.listing := by
  unfold listing; rw [h]

end Credentials

end CloudClient
