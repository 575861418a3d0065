import CloudClient.Proofs.Request.Names
import CloudClient.Proofs.Signature.Covered

/-!
# The headers that a version 4 signature attaches

Signing writes the host, the date, the hash of the body, a token and the proof among the headers;
the host is sent as part of the locator alone. Main statement: with the host put back, the headers
that are sent have the same covered headers as those that were signed.
-/

namespace CloudClient.Signature.V4

/-! ## The headers that are written -/

/-- The names of the headers that signing writes. -/
def writtenNames : List String :=
  ["x-amz-date", "x-amz-content-sha256", "x-amz-security-token", "Authorization",
    "Content-Length", "Host"]

/-- In lower case these are the names that belong to signing. -/
theorem map_lowered_writtenNames : writtenNames.map Text.lowered = Request.signingNames := by decide

/-- The headers that signing adds besides the host. -/
def dated (date hash : String) (token : Option String) : List (String × String) :=
  ("x-amz-date", date) :: ("x-amz-content-sha256", hash) ::
    ((Fault.firstGiven [token]).map fun t => ("x-amz-security-token", t)).toList

/-- The header that announces the length of a body. -/
def announced (method : Method) (body : Body) : List (String × String) :=
  if body.length != 0 || method == .put || method == .post then
    [("Content-Length", toString body.length)]
  else []

/-- The headers that are sent besides those of the request. -/
def attached (date hash : String) (token : Option String) (proof : String) (method : Method)
    (body : Body) : List (String × String) :=
  dated date hash token ++ (("Authorization", proof) :: announced method body)

variable {request : Request}

section

variable (host date hash : String) (token : Option String) (proof : String) (method : Method)
  (body : Body)

/-- The headers that signing writes have the names that belong to it. -/
theorem map_lowered_sublist :
    ((attached date hash token proof method body ++ [("Host", host)]).map fun p =>
      Text.lowered p.1).Sublist Request.signingNames := by
  have hnames : ((attached date hash token proof method body ++ [("Host", host)]).map
      (·.1)).Sublist writtenNames := by
    rw [attached, dated, announced, writtenNames]
    cases Fault.firstGiven [token] with
    | none =>
      split
      · simp
      · simp
    | some t =>
      split
      · simp
      · simp
  -- Lowering the names one by one keeps their order, so the sublist is lowered as a whole.
  have hlowered := hnames.map Text.lowered
  rw [map_lowered_writtenNames, List.map_map] at hlowered
  exact hlowered

/-- Headers of a request have distinct names with those that are written. -/
theorem distinct_received (hr : request.HasPlainNames) :
    Distinct ((request.headers.entries ++ attached date hash token proof method body) ++
      [("Host", host)]) := by
  have hsub := map_lowered_sublist host date hash token proof method body
  have hown : Distinct request.headers.entries := by
    have h := hr.distinct
    rw [Dict.keys, List.map_map] at h
    exact h
  have hwritten : Distinct (attached date hash token proof method body ++ [("Host", host)]) :=
    List.Nodup.sublist hsub (by decide)
  rw [List.append_assoc]
  apply hown.append hwritten
  intro p hp hmem
  exact hr.free p.1 (List.mem_map_of_mem hp) (hsub.subset hmem)

/-- The headers that are sent have distinct names. -/
theorem distinct_sent (hr : request.HasPlainNames) :
    Distinct (request.headers.entries ++ attached date hash token proof method body) :=
  (distinct_received "" date hash token proof method body hr).sublist (List.sublist_append_left _ _)

/-- The same holds with the host in front of what is signed, and the proof after it. -/
theorem distinct_signed (hr : request.HasPlainNames) :
    Distinct ((request.headers.entries ++ ("Host", host) :: dated date hash token) ++
      [("Authorization", proof)]) := by
  have hall := distinct_received host date hash token proof .get .empty hr
  -- What is received has the host at its end; moving it to the front keeps the names distinct.
  have hhost : ((dated date hash token ++ [("Authorization", proof)]) ++ [("Host", host)]).Perm
      (("Host", host) :: (dated date hash token ++ [("Authorization", proof)])) :=
    List.perm_append_singleton _ _
  rw [List.append_assoc, List.cons_append]
  rw [List.append_assoc] at hall
  exact hall.perm (hhost.append_left _)

/-- The headers that are signed. -/
theorem entries_withIdentity (hr : request.HasPlainNames) :
    (withIdentity request.headers host date hash token).entries =
      request.headers.entries ++ ("Host", host) :: dated date hash token := by
  have hputs : withIdentity request.headers host date hash token =
      request.headers.putAll (("Host", host) :: dated date hash token) := by
    rw [withIdentity, dated]
    cases Fault.firstGiven [token] with
    | none => rfl
    | some t => rfl
  have hdistinct := (distinct_signed host date hash token "" hr).sublist
    (List.sublist_append_left _ _)
  rw [hputs]
  exact Dict.entries_putAll hdistinct.nodup

/-- The headers that are sent: the proof is added, the host is left to the locator, and the length
is announced. -/
theorem entries_sent (hr : request.HasPlainNames) :
    (withLength method
        (((withIdentity request.headers host date hash token).put "Authorization" proof).erase
          "Host") body).entries =
      request.headers.entries ++ attached date hash token proof method body := by
  have hsigned := entries_withIdentity host date hash token hr
  have hput : ((withIdentity request.headers host date hash token).put "Authorization"
      proof).entries =
        request.headers.entries ++ ("Host", host) ::
          (dated date hash token ++ [("Authorization", proof)]) := by
    have hdistinct := distinct_signed host date hash token proof hr
    rw [← hsigned] at hdistinct
    rw [entries_put hdistinct, hsigned, List.append_assoc, List.cons_append]
  -- The host goes, and the length comes after the proof.
  have herase := Dict.entries_erase hput
  have hdistinct := distinct_sent date hash token proof method body hr
  have hattached : attached date hash token proof method body =
      (dated date hash token ++ [("Authorization", proof)]) ++ announced method body := by
    rw [List.append_assoc]
    rfl
  rw [hattached, ← List.append_assoc, ← herase] at hdistinct ⊢
  rw [withLength]
  rw [announced] at hdistinct ⊢
  split
  · rename_i hlength
    rw [if_pos hlength] at hdistinct
    exact entries_put hdistinct
  · rw [List.append_nil]

end

/-! ## Reading what is sent -/

section

variable {host date hash : String} {token : Option String} {proof : String} {method : Method}
  {body : Body} {headers : Headers}

/-- Neither the proof nor the length is covered. -/
theorem coveredEntries_announced :
    coveredEntries (("Authorization", proof) :: announced method body) = [] := by
  have hproof : isCovered (Text.lowered "Authorization") = false := by decide
  have hlength : isCovered (Text.lowered "Content-Length") = false := by decide
  unfold announced
  split
  · simp [coveredEntries, loweredEntries, hproof, hlength]
  · simp [coveredEntries, loweredEntries, hproof]

/-- **With the host put back, the headers that are covered are those that were signed.** -/
theorem covered_received_perm (hr : request.HasPlainNames)
    (hheaders : headers.entries =
      request.headers.entries ++ attached date hash token proof method body) :
    (covered (headers.put "Host" host)).entries.Perm
      (covered (withIdentity request.headers host date hash token)).entries := by
  have hdistinct := distinct_received host date hash token proof method body hr
  rw [← hheaders] at hdistinct
  have hreceived := entries_put hdistinct
  have hsigned := entries_withIdentity host date hash token hr
  have hdistinctSigned : Distinct (withIdentity request.headers host date hash token).entries := by
    rw [hsigned]
    exact (distinct_signed host date hash token proof hr).sublist (List.sublist_append_left _ _)
  rw [← hreceived] at hdistinct
  rw [entries_covered hdistinct, entries_covered hdistinctSigned, hreceived, hsigned, hheaders,
    attached]
  -- The host has moved from the front of what is written to its end.
  have hwritten : (coveredEntries (dated date hash token) ++ coveredEntries [("Host", host)]).Perm
      (coveredEntries (("Host", host) :: dated date hash token)) := by
    rw [← coveredEntries_append]
    exact coveredEntries_perm (List.perm_append_singleton _ _)
  rw [coveredEntries_append, coveredEntries_append, coveredEntries_append, coveredEntries_append,
    coveredEntries_announced, List.append_nil, List.append_assoc]
  exact hwritten.append_left _

/-- The date and the hash of the body are read as they were signed, and the proof as it was made. -/
theorem header?_sent (hr : request.HasPlainNames)
    (hheaders : headers.entries =
      request.headers.entries ++ attached date hash token proof method body) :
    header? "x-amz-date" headers = some date ∧
      header? "x-amz-content-sha256" headers = some hash ∧
      header? "authorization" headers = some proof := by
  have hdistinct := distinct_sent date hash token proof method body hr
  rw [← hheaders] at hdistinct
  refine ⟨?_, ?_, ?_⟩
  · refine (header?_eq_some_iff hdistinct).2 ⟨"x-amz-date", ?_, by decide⟩
    simp [hheaders, attached, dated]
  · refine (header?_eq_some_iff hdistinct).2 ⟨"x-amz-content-sha256", ?_, by decide⟩
    simp [hheaders, attached, dated]
  · refine (header?_eq_some_iff hdistinct).2 ⟨"Authorization", ?_, by decide⟩
    simp [hheaders, attached]

/-- A length that is read is the one that is announced. -/
theorem eq_of_header?_length (hr : request.HasPlainNames)
    (hheaders : headers.entries =
      request.headers.entries ++ attached date hash token proof method body)
    {value : String} (h : header? "content-length" headers = some value) :
    value = toString body.length := by
  have hdistinct := distinct_sent date hash token proof method body hr
  rw [← hheaders] at hdistinct
  obtain ⟨k, hk, hname⟩ := (header?_eq_some_iff hdistinct).1 h
  rw [hheaders, List.mem_append] at hk
  rcases hk with hk | hk
  · -- a request does not announce a length of its own
    have hfree := hr.free k (List.mem_map_of_mem hk)
    rw [hname] at hfree
    exact absurd (by decide) hfree
  · simp only [attached, dated, List.cons_append, List.mem_cons, List.mem_append,
      Option.mem_toList, Option.map_eq_some_iff, Prod.mk.injEq] at hk
    rcases hk with ⟨rfl, -⟩ | ⟨rfl, -⟩ | ⟨t, -, rfl, -⟩ | ⟨rfl, -⟩ | hk
    · exact absurd hname (by decide)
    · exact absurd hname (by decide)
    · exact absurd hname (by decide)
    · exact absurd hname (by decide)
    · unfold announced at hk
      split at hk
      · cases List.mem_singleton.1 hk
        rfl
      · cases hk

end

end CloudClient.Signature.V4
