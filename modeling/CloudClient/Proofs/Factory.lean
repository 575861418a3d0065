import CloudClient.Factory
import CloudClient.Proofs.Success
import CloudClient.Proofs.Uri.Reading

/-!
# Configurations are reported

A configuration that is not valid is reported by a text. The one thing that no text tells is a
locator that cannot be taken apart: its failure passes through every check. Main statements: checks
and factories fail with such locators and with nothing else, a factory is made of exactly the valid
configurations, and an environment whose endpoints are written in plain characters is always
reported.
-/

namespace CloudClient

namespace Uri

/-- A character of a locator that needs no further look: no square bracket, and none that stands for
a separator. -/
def IsPlain (c : Char) : Prop := c ≠ '[' ∧ c ≠ ']' ∧ c.toNat ∉ foldedSeparators

instance : DecidablePred IsPlain := fun c =>
  inferInstanceAs (Decidable (c ≠ '[' ∧ c ≠ ']' ∧ c.toNat ∉ foldedSeparators))

/-- A check of all characters of a text. -/
theorem isPlain_of_all {s : List Char} (h : (s.all fun c => decide (IsPlain c)) = true) :
    ∀ c ∈ s, IsPlain c :=
  fun c hc => of_decide_eq_true (List.all_eq_true.1 h c hc)

/-- A locator in plain characters can be read. -/
theorem exists_read_of_isPlain {s : String} (h : ∀ c ∈ s.toList, IsPlain c) :
    ∃ u, read s = .ok u := by
  have hauthority : ∀ c ∈ (cutAuthority (cutScheme (tidy s.toList)).2).1, IsPlain c := fun c hc =>
    h c (mem_of_mem_tidy (mem_of_mem_cutScheme (mem_of_mem_cutAuthority hc)))
  have hbrackets := checkBrackets_of_not_mem (fun hmem => (hauthority _ hmem).1 rfl)
    fun hmem => (hauthority _ hmem).2.1 rfl
  have hfolded := checkFolded_of_forall fun c hc => (hauthority c hc).2.2
  rw [read]
  dsimp only
  rw [hbrackets, hfolded]
  exact ⟨_, rfl⟩

end Uri

/-! ## Checks -/

/-- A configuration is refused for a problem. -/
def ConfigError.IsRefusal (e : ConfigError) : Prop := ∃ p, e = .refused p

/-- What fails by refusals alone does not fail for a locator. -/
theorem FailsAs.ne_uri {α : Type} {x : Except ConfigError α} (h : FailsAs ConfigError.IsRefusal x)
    (u : UriError) : x ≠ .error (.uri u) := by
  intro hx
  obtain ⟨p, hp⟩ := h _ hx
  cases hp

/-- The check of an endpoint fails for its locator exactly when that cannot be taken apart. -/
theorem Endpoint.validate_eq_uri_iff {e : Endpoint} {u : UriError} :
    e.validate = .error (.uri u) ↔ Uri.read e.url = .error u := by
  cases hread : Uri.read e.url with
  | error u' =>
    have hfails : e.validate = .error (.uri u') := by
      rw [validate, hread]
      rfl
    rw [hfails, Except.error.injEq, Except.error.injEq, ConfigError.uri.injEq]
  | ok uri =>
    have hrefused : FailsAs ConfigError.IsRefusal e.validate := by
      rw [validate, hread]
      refine .guard ⟨_, rfl⟩ (.guard ⟨_, rfl⟩ (.guard ⟨_, rfl⟩ (.guard ⟨_, rfl⟩ ?_)))
      split
      · exact failsAs_error ⟨_, rfl⟩
      · exact failsAs_ok
    exact iff_of_false (hrefused.ne_uri u) (by rintro ⟨⟩)

namespace Config

variable {c : Config} {env : Environment} {u : UriError}

/-- The check of a configuration comes to a locator that cannot be taken apart: that of the storage
service is read first, and that of the queue service when nothing is wrong with the other endpoint.
-/
def IsUnreadable (c : Config) (u : UriError) : Prop :=
  Uri.read c.storage.url = .error u ∨ c.storage.validate = .ok () ∧ Uri.read c.queue.url = .error u

/-- What is checked of a configuration besides its endpoints refuses it for a problem. -/
theorem validate_of_endpoints (hstorage : c.storage.validate = .ok ())
    (hqueue : c.queue.validate = .ok ()) : FailsAs ConfigError.IsRefusal c.validate := by
  rw [validate, hstorage, hqueue]
  refine .guard ⟨_, rfl⟩ (.guard ⟨_, rfl⟩ (.guard ⟨_, rfl⟩ (.guard ⟨_, rfl⟩ ?_)))
  exact .ite (failsAs_error ⟨_, rfl⟩) failsAs_ok

/-- The check of a configuration fails for a locator exactly when it comes to one that cannot be
taken apart. -/
theorem validate_eq_uri_iff : c.validate = .error (.uri u) ↔ c.IsUnreadable u := by
  rw [IsUnreadable, ← Endpoint.validate_eq_uri_iff, ← Endpoint.validate_eq_uri_iff]
  cases hstorage : c.storage.validate with
  | error e =>
    have hfails : c.validate = .error e := by
      rw [validate, hstorage]
      rfl
    rw [hfails]
    simp
  | ok _ =>
    cases hqueue : c.queue.validate with
    | error e =>
      have hfails : c.validate = .error e := by
        rw [validate, hstorage, hqueue]
        rfl
      rw [hfails]
      simp
    | ok _ =>
      refine iff_of_false ((validate_of_endpoints hstorage hqueue).ne_uri u) ?_
      rintro (⟨⟨⟩⟩ | ⟨-, ⟨⟩⟩)

/-- A valid configuration allows a first attempt. -/
theorem maxRetries_of_validate (h : c.validate = .ok ()) : 0 ≤ c.retry.maxRetries := by
  obtain ⟨_, -, h⟩ := exists_of_bind_eq_ok h
  obtain ⟨_, -, h⟩ := exists_of_bind_eq_ok h
  obtain ⟨-, h⟩ := not_and_eq_ok_of_guard h
  obtain ⟨-, h⟩ := not_and_eq_ok_of_guard h
  obtain ⟨-, h⟩ := not_and_eq_ok_of_guard h
  obtain ⟨hretries, -⟩ := not_and_eq_ok_of_guard h
  omega

/-- Numbers of the environment that cannot be read are a problem. -/
theorem failsAs_read (env : Environment) : FailsAs ConfigError.IsRefusal (read env) := by
  have hnumber : ∀ name default, FailsAs ConfigError.IsRefusal (numberOr env name default) := by
    intro name default
    unfold numberOr
    split
    · exact failsAs_ok
    · exact FailsAs.mapError (P := fun _ => True) (fun _ _ => trivial) fun e _ => ⟨_, rfl⟩
  have hinteger : ∀ name default, FailsAs ConfigError.IsRefusal (integerOr env name default) := by
    intro name default
    unfold integerOr
    split
    · exact failsAs_ok
    · exact FailsAs.mapError (P := fun _ => True) (fun _ _ => trivial) fun e _ => ⟨_, rfl⟩
  exact .bind (hnumber _ _) fun _ => .bind (hnumber _ _) fun _ => .bind (hinteger _ _) fun _ =>
    .bind (hinteger _ _) fun _ => failsAs_ok

/-- Reading a configuration from the environment fails for a locator exactly when its check does. -/
theorem fromEnvironment_eq_uri_iff :
    fromEnvironment env = .error (.uri u) ↔ ∃ c, read env = .ok c ∧ c.IsUnreadable u := by
  cases hread : read env with
  | error e =>
    obtain ⟨p, rfl⟩ := failsAs_read env e hread
    rw [fromEnvironment, hread]
    refine iff_of_false ?_ ?_
    · rintro ⟨⟩
    · rintro ⟨c, ⟨⟩, -⟩
  | ok c =>
    have hcheck : fromEnvironment env = c.validate.map fun _ => c := by
      rw [fromEnvironment, hread]
      show (c.validate >>= fun _ => pure c) = _
      cases c.validate <;> rfl
    rw [hcheck]
    simp only [Except.ok.injEq, exists_eq_left', ← validate_eq_uri_iff]
    cases c.validate with
    | error e => simp [Except.map]
    | ok _ => simp [Except.map]

/-- The variables of an environment are written in plain characters. -/
def IsPlain (env : Environment) : Prop :=
  ∀ name value, env.get? name = some value → ∀ ch ∈ value.toList, Uri.IsPlain ch

/-- A locator of a plain environment is plain when its default is. -/
theorem IsPlain.urlOr (henv : IsPlain env) (name : String) {default : String}
    (hdefault : ∀ ch ∈ default.toList, Uri.IsPlain ch) :
    ∀ ch ∈ (urlOr env name default).toList, Uri.IsPlain ch := by
  intro ch hch
  rw [Config.urlOr, String.toList_ofList] at hch
  have hmem : ch ∈ ((env.get? name).getD default).toList := by
    rw [Text.dropEndWhile, List.mem_reverse] at hch
    exact List.mem_reverse.1 ((List.dropWhile_sublist _).subset hch)
  cases hget : env.get? name with
  | none =>
    rw [hget] at hmem
    exact hdefault ch hmem
  | some value =>
    rw [hget] at hmem
    exact henv name value hget ch hmem

/-- The endpoints of a plain environment are plain. -/
theorem IsPlain.read (henv : IsPlain env) (hread : read env = .ok c) :
    (∀ ch ∈ c.storage.url.toList, Uri.IsPlain ch) ∧ ∀ ch ∈ c.queue.url.toList, Uri.IsPlain ch := by
  have hregion : ∀ ch ∈ ((env.get? "AWSREST_REGION").getD defaultRegion).toList,
      Uri.IsPlain ch := by
    cases hget : env.get? "AWSREST_REGION" with
    | none => exact Uri.isPlain_of_all (by decide)
    | some value => exact henv _ value hget
  have hpublic : ∀ front back region : String, (∀ ch ∈ front.toList, Uri.IsPlain ch) →
      (∀ ch ∈ region.toList, Uri.IsPlain ch) → (∀ ch ∈ back.toList, Uri.IsPlain ch) →
        ∀ ch ∈ (front ++ region ++ back).toList, Uri.IsPlain ch := by
    intro front back region hfront hregion hback ch hch
    rw [String.toList_append, String.toList_append, List.mem_append, List.mem_append] at hch
    exact hch.elim (Or.elim · (hfront ch) (hregion ch)) (hback ch)
  rw [Config.read] at hread
  obtain ⟨_, -, hread⟩ := exists_of_bind_eq_ok hread
  obtain ⟨_, -, hread⟩ := exists_of_bind_eq_ok hread
  obtain ⟨_, -, hread⟩ := exists_of_bind_eq_ok hread
  obtain ⟨_, -, hread⟩ := exists_of_bind_eq_ok hread
  cases hread
  have hstorage : ∀ ch ∈ "https://s3.".toList, Uri.IsPlain ch := Uri.isPlain_of_all (by decide)
  have hqueue : ∀ ch ∈ "https://sqs.".toList, Uri.IsPlain ch := Uri.isPlain_of_all (by decide)
  have hback : ∀ ch ∈ ".amazonaws.com".toList, Uri.IsPlain ch := Uri.isPlain_of_all (by decide)
  exact ⟨henv.urlOr _ (hpublic _ _ _ hstorage hregion hback),
    henv.urlOr _ (hpublic _ _ _ hqueue hregion hback)⟩

end Config

/-- A factory that is made has a valid configuration, and is open. -/
theorem ConnectionFactory.of_make {c : Config} {f : ConnectionFactory} (h : make c = .ok f) :
    c.validate = .ok () ∧ f = { config := c } := by
  rw [make] at h
  split at h
  · cases h
    exact ⟨‹_›, rfl⟩
  · cases h
  · cases h

/-! ## Reports -/

section Reports

variable {c : Config} {env : Environment} {x : Failure}

/-- What is not reported of a check is a locator that cannot be taken apart. -/
theorem reported_eq_error_iff {α : Type} {o : Except ConfigError α} :
    reported o = .error x ↔ ∃ u, o = .error (.uri u) ∧ x = .uri u := by
  rcases o with (p | u) | a
  · simp [reported]
  · simp [reported, eq_comm]
  · simp [reported]

/-- A check that is reported to succeed has succeeded. -/
theorem eq_ok_of_reported {α : Type} {o : Except ConfigError α} {a : α}
    (h : reported o = .ok (.ok a)) : o = .ok a := by
  rcases o with (p | u) | b
  · cases h
  · cases h
  · cases h
    rfl

/-- What is reported of a configuration that is made into a factory. -/
theorem ConnectionFactory.create_eq (c : Config) :
    create c = (reported c.validate).map fun
      | .ok () => .ok { config := c }
      | .error problem => .error s!"Invalid argument 'config': {problem}" := by
  rw [create, make]
  rcases c.validate with (p | u) | _
  · rfl
  · rfl
  · rfl

/-- A factory is made of exactly the valid configurations. -/
theorem ConnectionFactory.create_eq_ok_iff :
    (∃ f, create c = .ok (.ok f)) ↔ c.validate = .ok () := by
  rw [create_eq]
  rcases c.validate with (p | u) | _
  · simp [reported, Except.map]
  · simp [reported, Except.map]
  · simp [reported, Except.map]

/-- What is not reported of a factory is not reported of its configuration. -/
theorem ConnectionFactory.create_eq_error_iff :
    create c = .error x ↔ reported c.validate = .error x := by
  rw [create_eq]
  cases reported c.validate with
  | error e => exact ⟨by rintro ⟨⟩; rfl, by rintro ⟨⟩; rfl⟩
  | ok o => exact iff_of_false (by rintro ⟨⟩) (by rintro ⟨⟩)

/-- What is not reported of the factory of an environment is not reported of the configuration that
the environment gives: one that is accepted makes a factory. -/
theorem ConnectionFactory.fromEnvironment_eq_error_iff :
    fromEnvironment env = .error x ↔ reported (Config.fromEnvironment env) = .error x := by
  rw [fromEnvironment]
  cases hreported : reported (Config.fromEnvironment env) with
  | error e => exact ⟨by rintro ⟨⟩; rfl, by rintro ⟨⟩; rfl⟩
  | ok o =>
    refine iff_of_false ?_ (by rintro ⟨⟩)
    cases o with
    | error message => rintro ⟨⟩
    | ok c =>
      have hvalid : c.validate = .ok () := by
        obtain ⟨c', hread, hc⟩ := exists_of_bind_eq_ok (eq_ok_of_reported hreported)
        obtain ⟨_, hvalid, hc⟩ := exists_of_bind_eq_ok hc
        cases hc
        exact hvalid
      obtain ⟨f, hf⟩ := create_eq_ok_iff.2 hvalid
      rw [show (Except.ok (Except.ok c) >>= _ : Except Failure (Except String ConnectionFactory)) =
        create c from rfl, hf]
      rintro ⟨⟩

/-- **Configurations are reported**, unless a locator in them cannot be taken apart. An endpoint, a
configuration, a factory, the configuration of an environment and its factory fail with the error of
such a locator, and with nothing else; and a factory is made of exactly the valid configurations.
Integers are written without a limit here: a setting of more than 4300 digits, which cannot be told
in a message and escapes as well, is outside the model. -/
theorem configuration_is_reported_or_escapes (e : Endpoint) (c : Config) (env : Environment)
    (x : Failure) :
    (reported e.validate = .error x ↔ ∃ u, Uri.read e.url = .error u ∧ x = .uri u) ∧
      (reported c.validate = .error x ↔ ∃ u, c.IsUnreadable u ∧ x = .uri u) ∧
      (ConnectionFactory.create c = .error x ↔ ∃ u, c.IsUnreadable u ∧ x = .uri u) ∧
      (reported (Config.fromEnvironment env) = .error x ↔
        ∃ u, (∃ c, Config.read env = .ok c ∧ c.IsUnreadable u) ∧ x = .uri u) ∧
      (ConnectionFactory.fromEnvironment env = .error x ↔
        ∃ u, (∃ c, Config.read env = .ok c ∧ c.IsUnreadable u) ∧ x = .uri u) ∧
      ((∃ f, ConnectionFactory.create c = .ok (.ok f)) ↔ c.validate = .ok ()) := by
  have hconfig : reported c.validate = .error x ↔ ∃ u, c.IsUnreadable u ∧ x = .uri u := by
    simp only [reported_eq_error_iff, Config.validate_eq_uri_iff]
  have henv : reported (Config.fromEnvironment env) = .error x ↔
      ∃ u, (∃ c, Config.read env = .ok c ∧ c.IsUnreadable u) ∧ x = .uri u := by
    simp only [reported_eq_error_iff, Config.fromEnvironment_eq_uri_iff]
  refine ⟨?_, hconfig, ConnectionFactory.create_eq_error_iff.trans hconfig, henv,
    ConnectionFactory.fromEnvironment_eq_error_iff.trans henv, ConnectionFactory.create_eq_ok_iff⟩
  simp only [reported_eq_error_iff, Endpoint.validate_eq_uri_iff]

/-- An open bracket in the variable of an endpoint escapes every report: of the endpoint, of the
configuration that the environment gives, and of the factory. -/
theorem bracketed_setting_escapes :
    reported (Config.fromEnvironment (.ofList [("AWSREST_S3_ENDPOINT", "http://[")])) =
        .error (.uri .unbalancedBrackets) ∧
      ConnectionFactory.fromEnvironment (.ofList [("AWSREST_S3_ENDPOINT", "http://[")]) =
        .error (.uri .unbalancedBrackets) ∧
      ConnectionFactory.create { storage := { url := "http://[" } } =
        .error (.uri .unbalancedBrackets) ∧
      reported (Endpoint.validate { url := "http://[" }) = .error (.uri .unbalancedBrackets) := by
  exact ⟨rfl, rfl, rfl, rfl⟩

/-- An environment in plain characters is reported, whatever its variables hold. -/
theorem exists_report_of_isPlain (henv : Config.IsPlain env) :
    ∃ report, ConnectionFactory.fromEnvironment env = .ok report := by
  cases hreport : ConnectionFactory.fromEnvironment env with
  | ok report => exact ⟨report, rfl⟩
  | error x =>
    obtain ⟨u, hu, -⟩ :=
      reported_eq_error_iff.1 (ConnectionFactory.fromEnvironment_eq_error_iff.1 hreport)
    obtain ⟨c, hread, hunreadable⟩ := Config.fromEnvironment_eq_uri_iff.1 hu
    obtain ⟨hstorage, hqueue⟩ := henv.read hread
    obtain ⟨_, hstorage⟩ := Uri.exists_read_of_isPlain hstorage
    obtain ⟨_, hqueue⟩ := Uri.exists_read_of_isPlain hqueue
    rw [Config.IsUnreadable, hstorage, hqueue] at hunreadable
    rcases hunreadable with ⟨⟨⟩⟩ | ⟨-, ⟨⟩⟩

end Reports

end CloudClient
