import CloudClient.Proofs.Signature.Canonical
import CloudClient.Proofs.Signature.Headers
import CloudClient.Proofs.Success
import CloudClient.Signature.V4

/-!
# What a version 4 signature covers

Main statement: the canonical request depends on the query and on the covered headers alone, and not
on the order of either.
-/

namespace CloudClient.Signature.V4

/-- The headers of a list that are covered, under their lowered names. -/
def coveredEntries (l : List (String × String)) : List (String × String) :=
  (loweredEntries l).filter fun p => isCovered p.1

/-- Headers are covered one by one. -/
theorem coveredEntries_append (l m : List (String × String)) :
    coveredEntries (l ++ m) = coveredEntries l ++ coveredEntries m := by
  rw [coveredEntries, loweredEntries, List.map_append, List.filter_append]
  rfl

/-- The order of headers is kept. -/
theorem coveredEntries_perm {l m : List (String × String)} (h : l.Perm m) :
    (coveredEntries l).Perm (coveredEntries m) :=
  (h.map _).filter _

/-- **All covered headers of distinct names are covered.** -/
theorem entries_covered {headers : Headers} (hd : Distinct headers.entries) :
    (covered headers).entries = coveredEntries headers.entries := by
  apply Dict.entries_ofList
  have hsub : (coveredEntries headers.entries).Sublist (loweredEntries headers.entries) :=
    List.filter_sublist
  have hnodup : ((loweredEntries headers.entries).map (·.1)).Nodup := by
    rw [loweredEntries, List.map_map]
    exact hd
  exact hnodup.sublist (hsub.map _)

/-- **The canonical request forgets the order of queries and covered headers.** -/
theorem canonicalRequest_congr {q r : Query} {headers others : Headers}
    (hq : q.entries.Perm r.entries)
    (hh : (covered headers).entries.Perm (covered others).entries) (method path hash : String) :
    canonicalRequest method path q headers hash = canonicalRequest method path r others hash := by
  have hnames : sortedTexts (covered headers).keys = sortedTexts (covered others).keys :=
    sortedTexts_congr (hh.map _)
  have hvalue : (covered headers).get? = (covered others).get? := funext (Dict.get?_of_perm hh)
  rw [canonicalRequest, canonicalRequest]
  dsimp only
  rw [hnames, hvalue, Query.canonical_congr hq]

/-- A canonical request is made of a path that can be signed. -/
theorem exists_path_of_canonicalRequest {method path hash : String} {q : Query}
    {headers : Headers} {form : String × String}
    (h : canonicalRequest method path q headers hash = .ok form) :
    ∃ rest, path.toList = '/' :: rest := by
  obtain ⟨_, hpath, -⟩ := exists_of_bind_eq_ok h
  exact exists_of_checkPath (eq_ok_of_mapError hpath)

end CloudClient.Signature.V4
