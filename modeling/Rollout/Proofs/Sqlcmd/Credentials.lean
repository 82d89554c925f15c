import Mathlib.Data.List.Forall2
import Rollout.Config
import Rollout.Proofs.First
import Rollout.Proofs.Listing

/-!
# Credentials are never left out

An instance whose settings name a user is reached as that user or not at all. Its endpoint needs a
variable that the settings name and that holds a password (`HasCredentials`), and without it there
are no endpoints at all: the first instance that lacks one is blamed (`endpointEntries_cases`).
Otherwise the endpoints are those of the instances one by one (`forall₂_of_endpointEntries`), and
only an instance without settings is reached by its name (`endpoints_keep_credentials`).
-/

namespace Rollout

/-- The settings of an instance name no user, or else a variable that holds a password. -/
def InstanceSettings.HasCredentials (lookup : String → Option String) (s : InstanceSettings) :
    Prop :=
  ∀ user, s.user = some user → ∃ v password, s.passwordVariable = some v ∧ lookup v = some password

/-- How an instance is authenticated: as the user that its settings name, with the password that the
variable holds, and with integrated security exactly if they name none. -/
inductive InstanceSettings.Authenticates (lookup : String → Option String) (s : InstanceSettings) :
    Sqlcmd.Auth → Prop
  | integrated (hu : s.user = none) : Authenticates lookup s .integrated
  | login {user v password : String} (hu : s.user = some user) (hv : s.passwordVariable = some v)
      (hp : lookup v = some password) : Authenticates lookup s (.login user password)

/-- An instance is authenticated with integrated security exactly if its settings name no user. -/
theorem InstanceSettings.Authenticates.eq_integrated_iff {lookup : String → Option String}
    {s : InstanceSettings} {a : Sqlcmd.Auth} (h : s.Authenticates lookup a) :
    a = .integrated ↔ s.user = none := by
  cases h with
  | integrated hu => exact iff_of_true rfl hu
  | login hu _ _ => exact iff_of_false nofun fun hnone => by cases hu.symm.trans hnone

/-- An instance with settings and its endpoint: the server is the one of the settings, or else the
name of the instance. -/
structure InstanceSettings.Reached (lookup : String → Option String)
    (i : String × InstanceSettings) (e : String × Sqlcmd.Endpoint) : Prop where
  name : e.1 = i.1
  server : e.2.server = i.2.server.getD i.1
  auth : i.2.Authenticates lookup e.2.auth
  trust : e.2.trustsCertificate = i.2.trustsCertificate

/-- What is said of an instance with a user but without a password: that no variable is named, or
that the variable is not set. -/
def InstanceSettings.complaint (i : String × InstanceSettings) : EndpointError :=
  match i.2.passwordVariable with
  | none => .noVariable i.1
  | some v => .unset i.1 v

namespace Config

open InstanceSettings

variable {lookup : String → Option String}

/-- An instance has an endpoint if it has credentials, and is blamed otherwise. -/
theorem endpoint_cases (lookup : String → Option String) (name : String) (s : InstanceSettings) :
    (s.HasCredentials lookup ∧
        ∃ e, endpoint lookup name s = .ok e ∧ Reached lookup (name, s) (name, e)) ∨
      ¬ s.HasCredentials lookup ∧ endpoint lookup name s = .error (complaint (name, s)) := by
  cases hu : s.user with
  | none =>
    have hnone : s.HasCredentials lookup := fun user h => by cases hu.symm.trans h
    exact .inl ⟨hnone, _, by simp only [endpoint, hu]; rfl, rfl, rfl, .integrated hu, rfl⟩
  | some user =>
    cases hv : s.passwordVariable with
    | none =>
      refine .inr ⟨fun h => ?_, by simp only [endpoint, hu, hv, complaint]⟩
      obtain ⟨v, -, h, -⟩ := h user hu
      cases hv.symm.trans h
    | some v =>
      cases hp : lookup v with
      | none =>
        refine .inr ⟨fun h => ?_, by simp only [endpoint, hu, hv, hp, complaint]⟩
        obtain ⟨v', password, h, h'⟩ := h user hu
        cases hv.symm.trans h
        cases hp.symm.trans h'
      | some password =>
        exact .inl ⟨fun _ _ => ⟨v, password, hv, hp⟩, _,
          by simp only [endpoint, hu, hv, hp]; rfl, rfl, rfl, .login hu hv hp, rfl⟩

/-- Instances have endpoints if all have credentials, and otherwise the first that has none is
blamed. -/
theorem endpointEntries_cases (lookup : String → Option String)
    (l : List (String × InstanceSettings)) :
    ((∃ es, endpointEntries lookup l = .ok es) ∧ ∀ i ∈ l, i.2.HasCredentials lookup) ∨
      ∃ i, First (·.2.HasCredentials lookup) l i ∧
        endpointEntries lookup l = .error (complaint i) := by
  induction l with
  | nil => exact .inl ⟨⟨[], rfl⟩, nofun⟩
  | cons i r ih =>
    obtain ⟨name, s⟩ := i
    rw [endpointEntries]
    rcases endpoint_cases lookup name s with ⟨hs, e, he, -⟩ | ⟨hs, he⟩
    · rw [he]
      refine First.outcome_cons hs (ih.imp ?_ ?_)
      · exact fun ⟨⟨es, hes⟩, hall⟩ => ⟨⟨(name, e) :: es, by rw [hes]; rfl⟩, hall⟩
      · exact fun ⟨i, hi, he⟩ => ⟨i, hi, by rw [he]; rfl⟩
    · rw [he]
      exact .inr ⟨(name, s), .here hs, rfl⟩

/-- Each endpoint is that of the instance in its place. -/
theorem forall₂_of_endpointEntries {l : List (String × InstanceSettings)}
    {es : List (String × Sqlcmd.Endpoint)} (h : endpointEntries lookup l = .ok es) :
    List.Forall₂ (Reached lookup) l es := by
  induction l generalizing es with
  | nil =>
    cases h
    exact .nil
  | cons i r ih =>
    obtain ⟨name, s⟩ := i
    rw [endpointEntries] at h
    rcases endpoint_cases lookup name s with ⟨-, e, he, hreached⟩ | ⟨-, he⟩
    · rw [he] at h
      cases hr : endpointEntries lookup r with
      | error e' =>
        rw [hr] at h
        cases h
      | ok rest =>
        rw [hr] at h
        cases h
        exact .cons hreached (ih hr)
    · rw [he] at h
      cases h

variable {c : Config} {endpoints : Listing Sqlcmd.Endpoint} {k : Sqlcmd.Connector}

/-- Instances are listed with their endpoints, or the first that has no credentials is blamed. -/
theorem endpoints_cases (c : Config) (lookup : String → Option String) :
    ((∃ endpoints, c.endpoints lookup = .ok endpoints) ∧
        ∀ i ∈ c.instances.entries, i.2.HasCredentials lookup) ∨
      ∃ i, First (·.2.HasCredentials lookup) c.instances.entries i ∧
        c.endpoints lookup = .error (complaint i) := by
  unfold endpoints
  refine (endpointEntries_cases lookup c.instances.entries).imp ?_ ?_
  · exact fun ⟨⟨es, hes⟩, hall⟩ => ⟨⟨.ofList es, by rw [hes]; rfl⟩, hall⟩
  · exact fun ⟨i, hi, he⟩ => ⟨i, hi, by rw [he]; rfl⟩

/-- The listed endpoints are those of the instances, in their order. -/
theorem forall₂_of_endpoints (h : c.endpoints lookup = .ok endpoints) :
    List.Forall₂ (Reached lookup) c.instances.entries endpoints.entries := by
  unfold Config.endpoints at h
  cases hes : endpointEntries lookup c.instances.entries with
  | error e =>
    rw [hes] at h
    cases h
  | ok es =>
    rw [hes] at h
    cases h
    have hforall := forall₂_of_endpointEntries hes
    -- the names are those of the instances, so they are distinct and their listing is the pairs
    have hnames : List.Forall₂ Eq (c.instances.entries.map Prod.fst) (es.map Prod.fst) := by
      rw [List.forall₂_map_left_iff, List.forall₂_map_right_iff]
      exact hforall.imp fun i e hie => hie.name.symm
    rw [List.forall₂_eq_eq_eq] at hnames
    rw [Listing.entries_ofList (hnames ▸ c.instances.distinct)]
    exact hforall

/-- A name has an endpoint exactly if it has settings, and then the endpoint is that of the
instance. -/
theorem rel_lookPair {l : List (String × InstanceSettings)} {es : List (String × Sqlcmd.Endpoint)}
    (h : List.Forall₂ (Reached lookup) l es) (name : String) :
    Option.Rel (fun s e => Reached lookup (name, s) (name, e)) (lookPair name l)
      (lookPair name es) := by
  induction h with
  | nil => exact .none
  | @cons i e l es hie _ ih =>
    obtain ⟨n, s⟩ := i
    obtain ⟨n', e⟩ := e
    obtain rfl : n' = n := hie.name
    by_cases hn : n' = name
    · subst hn
      simpa [lookPair] using Option.Rel.some hie
    · simpa [lookPair, hn] using ih

/-- There is a connector exactly if there are endpoints, which it uses. -/
theorem connector_eq_ok_iff :
    c.connector lookup = .ok k ↔
      ∃ endpoints, c.endpoints lookup = .ok endpoints ∧ k = ⟨c.sqlcmd, endpoints⟩ := by
  unfold connector
  cases c.endpoints lookup with
  | error e => simp [Except.map]
  | ok endpoints => simp [Except.map, eq_comm]

theorem connector_eq_error_iff {e : EndpointError} :
    c.connector lookup = .error e ↔ c.endpoints lookup = .error e := by
  unfold connector
  cases c.endpoints lookup with
  | error e => simp [Except.map]
  | ok endpoints => simp [Except.map]

/-- No instance is reached with other credentials than its settings name. There are endpoints if and
only if each instance with a user has a variable that holds a password, and otherwise the first
instance that lacks one is blamed. The endpoints are those of the instances in their order. A
connector reaches an instance with settings by its endpoint, any other by its name with integrated
security, and so with integrated security exactly those whose settings name no user. -/
theorem endpoints_keep_credentials (c : Config) (lookup : String → Option String) :
    ((∃ endpoints, c.endpoints lookup = .ok endpoints) ↔
      ∀ i ∈ c.instances.entries, i.2.HasCredentials lookup) ∧
    (∀ e, c.endpoints lookup = .error e ↔
      ∃ i, First (·.2.HasCredentials lookup) c.instances.entries i ∧ e = complaint i) ∧
    (∀ endpoints, c.endpoints lookup = .ok endpoints →
      List.Forall₂ (Reached lookup) c.instances.entries endpoints.entries) ∧
    (∀ e, c.connector lookup = .error e ↔ c.endpoints lookup = .error e) ∧
    ∀ k, c.connector lookup = .ok k →
      c.endpoints lookup = .ok k.endpoints ∧ ∀ name,
        (∀ s, c.instances.get? name = some s → ∃ e, k.endpoints.get? name = some e ∧
          k.endpoint name = e ∧ Reached lookup (name, s) (name, e)) ∧
        (c.instances.get? name = none → k.endpoint name = ⟨name, .integrated, false⟩) ∧
        ((k.endpoint name).auth = .integrated ↔
          ∀ s, c.instances.get? name = some s → s.user = none) := by
  refine ⟨First.exists_ok_iff (endpoints_cases c lookup),
    fun e => First.eq_error_iff (endpoints_cases c lookup), fun endpoints => forall₂_of_endpoints,
    fun e => connector_eq_error_iff, fun k hk => ?_⟩
  obtain ⟨endpoints, h, rfl⟩ := connector_eq_ok_iff.1 hk
  refine ⟨h, fun name => ?_⟩
  have hrel : Option.Rel (fun s e => Reached lookup (name, s) (name, e))
      (c.instances.get? name) (endpoints.get? name) := rel_lookPair (forall₂_of_endpoints h) name
  unfold Sqlcmd.Connector.endpoint
  dsimp only
  revert hrel
  generalize c.instances.get? name = settings
  generalize endpoints.get? name = found
  intro hrel
  cases hrel with
  | none => simp
  | @some s e hse =>
    refine ⟨fun s' hs => ?_, nofun, ?_⟩
    · cases hs
      exact ⟨e, rfl, rfl, hse⟩
    · simp only [Option.getD_some, Option.some.injEq, forall_eq']
      exact hse.auth.eq_integrated_iff

/-- A configuration with a user for one instance and another server for the next one. -/
def Sample.config : Config :=
  ⟨2, .default, .ofList
    [("SQL01", ⟨none, some "deploy", some "SQL01_PASSWORD", true⟩),
      ("SQL02", ⟨some "sql02.corp,1433", none, some "SQL02_PASSWORD", false⟩)]⟩

/-- An environment in which one variable is set. -/
def Sample.environment (name : String) : Option String :=
  if name = "SQL01_PASSWORD" then some "hunter2" else none

/-- The endpoints of the sample. -/
def Sample.addresses : Listing Sqlcmd.Endpoint :=
  .ofList
    [("SQL01", ⟨"SQL01", .login "deploy" "hunter2", true⟩),
      ("SQL02", ⟨"sql02.corp,1433", .integrated, false⟩)]

/-- Of the sample the first instance is reached as its user only, the second with integrated
security, as is one without settings by its name; and where no variable is set, the first instance
is blamed. -/
theorem endpoints_keep_credentials_sample :
    Sample.config.connector Sample.environment = .ok ⟨.default, Sample.addresses⟩ ∧
    List.Forall₂ (Reached Sample.environment) Sample.config.instances.entries
      Sample.addresses.entries ∧
    (Sqlcmd.Connector.endpoint ⟨.default, Sample.addresses⟩ "SQL01").auth ≠ .integrated ∧
    Sqlcmd.Connector.endpoint ⟨.default, Sample.addresses⟩ "SQL03" =
      ⟨"SQL03", .integrated, false⟩ ∧
    Sample.config.endpoints (fun _ => none) = .error (.unset "SQL01" "SQL01_PASSWORD") ∧
    ∃ i, First (·.2.HasCredentials fun _ => none) Sample.config.instances.entries i ∧
      .unset "SQL01" "SQL01_PASSWORD" = complaint i := by
  have hk : Sample.config.connector Sample.environment = .ok ⟨.default, Sample.addresses⟩ := rfl
  have hunset : Sample.config.endpoints (fun _ => none) =
      .error (.unset "SQL01" "SQL01_PASSWORD") := rfl
  obtain ⟨-, -, hreached, -, hconnector⟩ :=
    endpoints_keep_credentials Sample.config Sample.environment
  obtain ⟨h, hnames⟩ := hconnector _ hk
  obtain ⟨-, hblamed, -⟩ := endpoints_keep_credentials Sample.config fun _ => none
  refine ⟨hk, hreached _ h, fun hauth => ?_, (hnames "SQL03").2.1 (by decide), hunset,
    (hblamed _).1 hunset⟩
  cases (hnames "SQL01").2.2.1 hauth _ rfl

end Config

end Rollout
