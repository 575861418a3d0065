import CloudClient.Proofs.Success
import CloudClient.Signature

/-!
# What signing keeps of a request

Whatever the scheme, a signed request says the same of its operation as the request it was made of,
and has its body or the bytes of its form. A request that is not signed is refused for its path, at
whatever time, or fails with something else than a fault.
-/

namespace CloudClient

namespace Signature

/-- A request that is put together has a locator, and its parts are those it is put together from.
-/
theorem finish_eq_ok {request : Request} {endpoint : Endpoint} {headers : Headers} {body : Body}
    {query : Query} {q : SignedRequest} (h : finish request endpoint headers body query = .ok q) :
    ∃ url, locator endpoint request.path query = .ok url ∧
      q =
        { method := request.method
          url
          headers := withLength request.method headers body
          body
          operation := request.operation
          resource := request.resource
          isIdempotent := request.isIdempotent } := by
  obtain ⟨url, hurl, hq⟩ := exists_of_bind_eq_ok h
  cases hq
  exact ⟨url, hurl, rfl⟩

end Signature

namespace Signer

variable {request : Request} {credentials : Credentials} {endpoint : Endpoint} {time : DateTime}
  {q : SignedRequest}

/-- What signing keeps of a request. -/
structure Keeps (request : Request) (q : SignedRequest) : Prop where
  method : q.method = request.method
  operation : q.operation = request.operation
  resource : q.resource = request.resource
  isIdempotent : q.isIdempotent = request.isIdempotent
  body : q.body = request.body ∨ ∃ data, q.body = .bytes data

/-- Every scheme puts a request together at its end: with the body that it has, or with the bytes
that its form is written as. -/
theorem exists_finish {signer : Signer}
    (h : signer.sign request credentials endpoint time = .ok q) :
    ∃ headers body query, Signature.finish request endpoint headers body query = .ok q ∧
      (body = request.body ∨ request.form ≠ none ∧ ∃ data, body = .bytes data) := by
  cases signer with
  | headerV2 =>
    obtain ⟨date, -, h⟩ := exists_of_bind_eq_ok h
    obtain ⟨text, -, h⟩ := exists_of_bind_eq_ok h
    exact ⟨_, _, _, h, .inl rfl⟩
  | queryV2 =>
    obtain ⟨identity, -, h⟩ := exists_of_bind_eq_ok h
    obtain ⟨host, -, h⟩ := exists_of_bind_eq_ok h
    obtain ⟨text, -, h⟩ := exists_of_bind_eq_ok h
    dsimp only at h
    split at h
    · rename_i form hform
      exact ⟨_, _, _, h, .inr ⟨by simp [hform], _, rfl⟩⟩
    · exact ⟨_, _, _, h, .inl rfl⟩
  | v4 =>
    obtain ⟨utc, -, h⟩ := exists_of_bind_eq_ok h
    obtain ⟨host, -, h⟩ := exists_of_bind_eq_ok h
    obtain ⟨canonical, -, h⟩ := exists_of_bind_eq_ok h
    refine ⟨_, _, _, h, ?_⟩
    rw [Signature.V4.sentBody]
    split
    · exact .inl rfl
    · rename_i form hform
      exact .inr ⟨by simp [hform], _, rfl⟩

/-- **Every scheme keeps what a request says of itself.** -/
theorem keeps_of_sign {signer : Signer}
    (h : signer.sign request credentials endpoint time = .ok q) : Keeps request q := by
  obtain ⟨headers, body, query, hfinish, hbody⟩ := exists_finish h
  obtain ⟨url, -, rfl⟩ := Signature.finish_eq_ok hfinish
  exact ⟨rfl, rfl, rfl, rfl, hbody.imp_right And.right⟩

/-- A request without a form is sent with its own body. -/
theorem body_of_sign {signer : Signer} (h : signer.sign request credentials endpoint time = .ok q)
    (hform : request.form = none) : q.body = request.body := by
  obtain ⟨headers, body, query, hfinish, hbody⟩ := exists_finish h
  obtain ⟨url, -, rfl⟩ := Signature.finish_eq_ok hfinish
  exact hbody.resolve_right fun hbytes => hbytes.1 hform

/-- A request that stores something announces the length of its body, under every scheme. -/
theorem get?_length_of_sign {signer : Signer}
    (h : signer.sign request credentials endpoint time = .ok q) (hmethod : request.method = .put) :
    q.headers.get? "Content-Length" = some (toString q.body.length) := by
  obtain ⟨headers, body, query, hfinish, -⟩ := exists_finish h
  obtain ⟨url, -, rfl⟩ := Signature.finish_eq_ok hfinish
  show (Signature.withLength request.method headers body).get? "Content-Length" = _
  rw [Signature.withLength, hmethod, if_pos (by simp)]
  exact Dict.get?_put_self _ _ _

/-! ## Paths that are refused -/

/-- A fault is that of the check of a path. -/
def IsOfPath (path : String) (e : Failure) : Prop :=
  ∀ f, e = .fault f → Signature.checkPath path = .error f

/-- A failure that is no fault is none of a path. -/
theorem isOfPath_of_ne {path : String} {e : Failure} (h : ∀ f, e ≠ .fault f) : IsOfPath path e :=
  fun f hf => absurd hf (h f)

/-- The check of a path fails with its fault. -/
theorem failsAs_checkPath (path : String) :
    FailsAs (IsOfPath path) ((Signature.checkPath path).mapError .fault) := by
  intro e he f hf
  obtain ⟨g, hg, rfl⟩ := exists_of_mapError_eq_error he
  rw [hg, Failure.fault.inj hf]

/-- A step that is taken for something else than a fault fails with none. -/
theorem failsAs_mapError {ε α : Type} {path : String} {g : ε → Failure} (x : Except ε α)
    (hg : ∀ e f, g e ≠ .fault f) : FailsAs (IsOfPath path) (x.mapError g) :=
  FailsAs.mapError (P := fun _ => True) (fun _ _ => trivial) fun e _ => isOfPath_of_ne (hg e)

/-- A request is put together without a fault. -/
theorem failsAs_finish {path : String} {headers : Headers} {body : Body} {query : Query} :
    FailsAs (IsOfPath path) (Signature.finish request endpoint headers body query) := by
  refine .bind (.bind (failsAs_mapError _ (by simp)) fun scheme => ?_) fun url => failsAs_ok
  exact .bind (failsAs_mapError _ (by simp)) fun host => failsAs_ok

/-- The text that is signed in a header is refused for its path alone. -/
theorem failsAs_stringToSign (method : Method) (headers : Headers) {path : String} {query : Query} :
    FailsAs (IsOfPath path)
      (Signature.HeaderV2.stringToSign method.name path headers time query) := by
  rw [Signature.HeaderV2.stringToSign, Method.ofName?_name]
  refine .bind (failsAs_checkPath path) fun _ => ?_
  dsimp only
  split
  · exact failsAs_ok
  · split
    · exact failsAs_ok
    · exact .bind (failsAs_mapError (g := .date) _ (by simp)) fun date => failsAs_ok

/-- **Whatever the scheme, no fault of signing is another than that of the path.** -/
theorem failsAs_sign (signer : Signer) :
    FailsAs (IsOfPath request.path) (signer.sign request credentials endpoint time) := by
  cases signer with
  | headerV2 =>
    exact .bind (failsAs_mapError _ (by simp)) fun date =>
      .bind (failsAs_stringToSign _ _) fun text => failsAs_finish
  | queryV2 =>
    refine .bind (failsAs_mapError _ (by simp)) fun identity => ?_
    refine .bind (failsAs_mapError _ (by simp)) fun host => .bind ?_ fun text => ?_
    · rw [Signature.QueryV2.stringToSign, Method.ofName?_name]
      exact .bind (failsAs_checkPath request.path) fun _ => failsAs_ok
    · dsimp only
      split
      · exact failsAs_finish
      · exact failsAs_finish
  | v4 =>
    refine .bind (failsAs_mapError _ (by simp)) fun utc => ?_
    refine .bind (failsAs_mapError _ (by simp)) fun host => .bind ?_ fun form => failsAs_finish
    rw [Signature.V4.canonicalRequest, Method.ofName?_name]
    exact .bind (failsAs_checkPath request.path) fun _ => failsAs_ok

/-- A request is signed only when its path can be. -/
theorem checkPath_of_sign {signer : Signer}
    (h : signer.sign request credentials endpoint time = .ok q) :
    Signature.checkPath request.path = .ok () := by
  cases signer with
  | headerV2 =>
    obtain ⟨date, -, h⟩ := exists_of_bind_eq_ok h
    obtain ⟨text, htext, -⟩ := exists_of_bind_eq_ok h
    obtain ⟨_, hpath, -⟩ := exists_of_bind_eq_ok htext
    exact eq_ok_of_mapError hpath
  | queryV2 =>
    obtain ⟨identity, -, h⟩ := exists_of_bind_eq_ok h
    obtain ⟨host, -, h⟩ := exists_of_bind_eq_ok h
    obtain ⟨text, htext, -⟩ := exists_of_bind_eq_ok h
    obtain ⟨_, hpath, -⟩ := exists_of_bind_eq_ok htext
    exact eq_ok_of_mapError hpath
  | v4 =>
    obtain ⟨utc, -, h⟩ := exists_of_bind_eq_ok h
    obtain ⟨host, -, h⟩ := exists_of_bind_eq_ok h
    obtain ⟨form, hform, -⟩ := exists_of_bind_eq_ok h
    obtain ⟨_, hpath, -⟩ := exists_of_bind_eq_ok hform
    exact eq_ok_of_mapError hpath

/-- A path is refused with a fault of construction. -/
theorem family_of_checkPath {path : String} {f : Fault} (h : Signature.checkPath path = .error f) :
    f.family = .construction := by
  unfold Signature.checkPath at h
  repeat' split at h
  all_goals cases h
  all_goals rfl

end Signer

end CloudClient
