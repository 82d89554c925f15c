import Rollout.Proofs.First
import Rollout.Proofs.Run.Trace
import Rollout.Step.Activity

/-!
# The course of a step

The full sequence of the round trips of a step is known in advance, but for the articles that a
subscription lacks, which depend on the rows of a query (`Step.legs`). Some round trips are
required, the others are attempts. A step goes along its sequence up to the first required round
trip that fails, and comes to that failure; without one it goes to the end and succeeds (`Course`).
That an activity does so is put together from its parts (`Takes.bind`, `TakesBy.bind`).
-/

namespace Rollout

/-- A round trip of a step, and whether the step fails with it. -/
structure Leg where
  trip : Trip
  required : Bool

namespace Leg

/-- Opening a session is required. -/
def connect (instanceName : String) : Leg :=
  ⟨.connect instanceName, true⟩

/-- A batch in a database that is required. -/
def batch (instanceName : String) (database : Option String) (sql : String) : Leg :=
  ⟨.execute instanceName database sql, true⟩

/-- A batch in a database whose failure does not matter. -/
def attempt (instanceName : String) (database : Option String) (sql : String) : Leg :=
  ⟨.execute instanceName database sql, false⟩

/-- A query in a database that is required. -/
def query (instanceName : String) (database : Option String) (sql : String) : Leg :=
  ⟨.query instanceName database sql, true⟩

end Leg

namespace Step

/-- The files of scripts of a step. -/
def scriptPaths : Step → List String
  | database s => s.scripts
  | _ => []

/-- The full sequence of the round trips of a step, given the texts of its scripts and the rows that
its query brings. -/
def legs (texts : List String) (rows : List Row) : Step → List Leg
  | login s =>
    .connect s.instanceName ::
      (s.createScript :: s.serverRoles.map s.roleScript).map (.batch s.instanceName none)
  | database s =>
    .connect s.instanceName ::
      .batch s.instanceName none s.createScript ::
      (s.recoveryModel.map fun model =>
        .batch s.instanceName none (s.recoveryScript model)).toList ++
      (s.owner.map fun owner => .batch s.instanceName none (s.ownerScript owner)).toList ++
      texts.map (.batch s.instanceName s.name)
  | distributor s =>
    [.connect s.instanceName,
      .attempt s.instanceName none Distributor.startAgentScript,
      .batch s.instanceName none s.addDistributorScript,
      .batch s.instanceName none s.addDatabaseScript,
      .batch s.instanceName none s.addPublisherScript]
  | publication s =>
    .connect s.instanceName ::
      s.remoteDistributorScript?.toList.map (.batch s.instanceName none) ++
      .batch s.instanceName none s.enablePublishingScript ::
      .batch s.instanceName s.databaseName s.addPublicationScript ::
      .batch s.instanceName s.databaseName s.addSnapshotAgentScript ::
      (s.articles.map s.addArticleScript).map (.batch s.instanceName s.databaseName) ++
      [.attempt s.instanceName s.databaseName (startSnapshotScript s.name)]
  | pullSubscription s =>
    .connect s.instanceName ::
      .connect s.publisherInstance ::
      .batch s.publisherInstance s.publisherDatabaseName s.addSubscriptionScript ::
      .query s.publisherInstance s.publisherDatabaseName s.articlesQuery ::
      ((missingArticles rows).map s.addArticleScript).map
        (.batch s.publisherInstance s.publisherDatabaseName) ++
      [.batch s.instanceName s.databaseName s.addPullSubscriptionScript,
        .attempt s.instanceName s.databaseName s.addAgentScript,
        .attempt s.publisherInstance s.publisherDatabaseName
          (startSnapshotScript s.publicationName)]
  | backup s => [.connect s.instanceName, .batch s.instanceName none s.backupScript]
  | restore s => [.connect s.instanceName, .batch s.instanceName none s.restoreScript]
  | mirroringEndpoint s => [.connect s.instanceName, .batch s.instanceName none s.endpointScript]
  | mirroringPartner s => [.connect s.instanceName, .batch s.instanceName none s.partnerScript]

end Step

/-- A leg that was sent, as a round trip with its answer. -/
def Leg.asSent (p : Leg × Answer) : Trip × Answer :=
  (p.1.trip, p.2)

/-- Whether a step goes on after a leg: it does unless the leg is required and has failed. -/
def Leg.Passes (p : Leg × Answer) : Prop :=
  p.1.required = true → ∃ rows, p.2 = .ok rows

/-- What was sent of a full sequence, and what it has come to. -/
structure Course (rows : List Row) (legs : List Leg) (sent : List (Leg × Answer))
    (result : Except StepError Unit) : Prop where
  /-- What was sent is a front of the full sequence. -/
  along : sent.map Prod.fst <+: legs
  /-- The rows are those that a query has brought. -/
  brings : ∀ p ∈ sent, ∀ instanceName database sql, p.1.trip = .query instanceName database sql →
    ∀ brought, p.2 = .ok brought → brought = rows
  /-- Every leg was sent and has passed, or the last that was sent is a required one, and the first
  to fail, and the result is its failure. -/
  ends : (result = .ok () ∧ sent.map Prod.fst = legs ∧ ∀ p ∈ sent, Leg.Passes p) ∨
    ∃ before leg e, sent = before ++ [(leg, .error e)] ∧ leg.required = true ∧
      (∀ p ∈ before, Leg.Passes p) ∧ result = .error e

namespace Course

variable {rows : List Row} {legs legs' : List Leg} {sent sent' : List (Leg × Answer)}
  {result : Except StepError Unit} {leg : Leg} {e : StepError}

theorem nil (rows : List Row) : Course rows [] [] (.ok ()) where
  along := List.nil_prefix
  brings _ hp := absurd hp List.not_mem_nil
  ends := .inl ⟨rfl, rfl, fun _ hp => absurd hp List.not_mem_nil⟩

/-- A leg that has passed, and that brings the rows if it is a query. -/
theorem passed {answer : Answer} (h : Leg.Passes (leg, answer))
    (hrows : ∀ i db sql, leg.trip = .query i db sql → ∀ brought, answer = .ok brought →
      brought = rows) : Course rows [leg] [(leg, answer)] (.ok ()) where
  along := List.prefix_rfl
  brings p hp := by
    obtain rfl := List.mem_singleton.1 hp
    exact hrows
  ends := by
    refine .inl ⟨rfl, rfl, fun p hp => ?_⟩
    obtain rfl := List.mem_singleton.1 hp
    exact h

/-- A required leg that has failed. -/
theorem failed (h : leg.required = true) (rows : List Row) (e : StepError) :
    Course rows [leg] [(leg, .error e)] (.error e) where
  along := List.prefix_rfl
  brings p hp i db sql _ brought hb := by
    obtain rfl := List.mem_singleton.1 hp
    cases hb
  ends := .inr ⟨[], leg, e, rfl, h, fun _ hp => absurd hp List.not_mem_nil, rfl⟩

/-- A course that has come to an end goes on with another one. -/
theorem append (h : Course rows legs sent (.ok ())) (h' : Course rows legs' sent' result) :
    Course rows (legs ++ legs') (sent ++ sent') result := by
  rcases h.ends with ⟨-, hall, hpass⟩ | ⟨_, _, _, _, _, _, hresult⟩
  · refine ⟨?_, ?_, ?_⟩
    · rw [List.map_append, hall]
      exact List.prefix_append_right_inj legs |>.2 h'.along
    · intro p hp
      exact (List.mem_append.1 hp).elim (h.brings p) (h'.brings p)
    · rcases h'.ends with ⟨hresult, hall', hpass'⟩ | ⟨before, leg, e, hsent, hreq, hpass', hresult⟩
      · exact .inl ⟨hresult, by rw [List.map_append, hall, hall'],
          List.forall_mem_append.2 ⟨hpass, hpass'⟩⟩
      · exact .inr ⟨sent ++ before, leg, e, by rw [hsent, List.append_assoc], hreq,
          List.forall_mem_append.2 ⟨hpass, hpass'⟩, hresult⟩
  · cases hresult

/-- A course that has failed does not go on. -/
theorem append_error (h : Course rows legs sent (.error e)) (legs' : List Leg) :
    Course rows (legs ++ legs') sent (.error e) where
  along := h.along.trans (List.prefix_append legs legs')
  brings := h.brings
  ends := by
    rcases h.ends with ⟨hresult, -, -⟩ | hfail
    · cases hresult
    · exact .inr hfail

end Course

namespace Activity

variable {α β : Type}

/-- An activity without queries whose full sequence consists of some legs. -/
def Takes (a : Activity StepError α) (legs : List Leg) : Prop :=
  ∀ ⦃l r⦄, a.Trace l r → ∃ sent : List (Leg × Answer), sent.map Leg.asSent = l ∧
    ∀ rows, Course rows legs sent (r.map fun _ => ())

/-- An activity whose full sequence depends on the rows that a query brings. -/
def TakesBy (a : Activity StepError α) (legs : List Row → List Leg) : Prop :=
  ∀ ⦃l r⦄, a.Trace l r → ∃ (sent : List (Leg × Answer)) (rows : List Row),
    sent.map Leg.asSent = l ∧ Course rows (legs rows) sent (r.map fun _ => ())

theorem Takes.takesBy {a : Activity StepError α} {legs : List Leg} (h : a.Takes legs) :
    a.TakesBy fun _ => legs := by
  intro l r ht
  obtain ⟨sent, hl, hc⟩ := h ht
  exact ⟨sent, [], hl, hc []⟩

theorem Takes.done (v : α) : (Activity.done v : Activity StepError α).Takes [] := by
  intro l r ht
  cases ht
  exact ⟨[], rfl, Course.nil⟩

/-- One activity after the other takes the legs of the one, then those of the other. -/
theorem Takes.bind {a : Activity StepError α} {f : α → Activity StepError β}
    {legs legs' : List Leg} (ha : a.Takes legs) (hf : ∀ v, (f v).Takes legs') :
    (a >>= f).Takes (legs ++ legs') := by
  intro l r ht
  rcases ht.of_bind with ⟨e, rfl, he⟩ | ⟨v, before, after, rfl, hv, hafter⟩
  · obtain ⟨sent, rfl, hc⟩ := ha he
    exact ⟨sent, rfl, fun rows => (hc rows).append_error legs'⟩
  · obtain ⟨sent, rfl, hc⟩ := ha hv
    obtain ⟨sent', rfl, hc'⟩ := hf v hafter
    exact ⟨sent ++ sent', List.map_append, fun rows => (hc rows).append (hc' rows)⟩

/-- After an activity that takes some legs, one may go on as its value tells. -/
theorem TakesBy.bind {a : Activity StepError α} {f : α → Activity StepError β}
    {legs : List Leg} {legs' : List Row → List Leg} (ha : a.Takes legs)
    (hf : ∀ {l v}, a.Trace l (.ok v) → (f v).TakesBy legs') :
    (a >>= f).TakesBy fun rows => legs ++ legs' rows := by
  intro l r ht
  rcases ht.of_bind with ⟨e, rfl, he⟩ | ⟨v, before, after, rfl, hv, hafter⟩
  · obtain ⟨sent, rfl, hc⟩ := ha he
    exact ⟨sent, [], rfl, (hc []).append_error (legs' [])⟩
  · obtain ⟨sent, rfl, hc⟩ := ha hv
    obtain ⟨sent', rows, rfl, hc'⟩ := hf hv hafter
    exact ⟨sent ++ sent', rows, List.map_append, (hc rows).append hc'⟩

/-- A round trip other than a query, with whose failure the activity fails. -/
theorem takes_ask (trip : Trip) (hquery : ∀ i db sql, trip ≠ .query i db sql)
    (f : List Row → α) :
    (ask trip fun answer => .ofResult (answer.map f)).Takes [⟨trip, true⟩] := by
  intro l r ht
  obtain ⟨answer, -, rfl, rfl⟩ := Trace.of_ask_ofResult ht
  refine ⟨[(⟨trip, true⟩, answer)], rfl, fun rows => ?_⟩
  cases answer with
  | ok brought =>
    exact .passed (fun _ => ⟨brought, rfl⟩) fun i db sql h => absurd h (hquery i db sql)
  | error e => exact .failed rfl rows e

end Activity

open Activity

namespace Session

variable {α : Type}

/-- A session takes one leg to open. -/
theorem takes_connect (instanceName : String) :
    (connect instanceName).Takes [.connect instanceName] :=
  takes_ask (.connect instanceName) (fun _ _ _ h => nomatch h) fun _ =>
    Session.mk instanceName none

/-- A session is opened, and is used from then on without a database. -/
theorem takesBy_connect {instanceName : String} {f : Session → Activity StepError α}
    {legs : List Row → List Leg} (hf : (f ⟨instanceName, none⟩).TakesBy legs) :
    (connect instanceName >>= f).TakesBy fun rows => .connect instanceName :: legs rows := by
  refine TakesBy.bind (takes_connect instanceName) fun {l v} hv => ?_
  obtain ⟨answer, -, -, hv⟩ := Trace.of_ask_ofResult hv
  cases answer with
  | ok rows =>
    cases hv
    exact hf
  | error e => cases hv

/-- A query brings the rows by which the sequence goes on. -/
theorem takesBy_query (s : Session) (sql : String) {f : List Row → Activity StepError α}
    {legs : List Row → List Leg} (hf : ∀ rows, (f rows).Takes (legs rows)) :
    (s.query sql >>= f).TakesBy fun rows =>
      .query s.instanceName s.database sql :: legs rows := by
  intro l r ht
  rcases ht.of_bind with ⟨e, rfl, he⟩ | ⟨rows, before, after, rfl, hv, hafter⟩
  · obtain ⟨answer, -, rfl, rfl⟩ := Trace.of_ask_ofResult he
    exact ⟨[(.query s.instanceName s.database sql, .error e)], [], rfl,
      (Course.failed rfl [] e).append_error (legs [])⟩
  · obtain ⟨answer, -, rfl, rfl⟩ := Trace.of_ask_ofResult hv
    obtain ⟨sent, rfl, hc⟩ := hf rows hafter
    have hpass : Course rows [.query s.instanceName s.database sql]
        [(.query s.instanceName s.database sql, .ok rows)] (.ok ()) :=
      .passed (fun _ => ⟨rows, rfl⟩) fun _ _ _ _ brought hb => (Except.ok.inj hb).symm
    exact ⟨(.query s.instanceName s.database sql, .ok rows) :: sent, rows, rfl,
      hpass.append (hc rows)⟩

/-- A batch takes one leg, in the database of its session. -/
theorem takes_execute (s : Session) (sql : String) :
    (s.execute sql).Takes [.batch s.instanceName s.database sql] :=
  takes_ask (.execute s.instanceName s.database sql) (fun _ _ _ h => nomatch h) fun _ => ()

/-- A batch whose failure is tolerated is an attempt. -/
theorem takes_attempt (s : Session) (sql : String) :
    (s.execute sql).tolerant.Takes [.attempt s.instanceName s.database sql] := by
  intro l r ht
  obtain ⟨r', ht', rfl⟩ := ht.of_mapResult
  obtain ⟨answer, ha, rfl, rfl⟩ := Trace.of_ask_ofResult ht'
  -- only a cancellation would not be tolerated
  have hr : (bestEffort (answer.map fun _ => ())).map (fun _ => ()) = .ok () := by
    cases answer with
    | ok rows => rfl
    | error e =>
      cases e with
      | cancelled => exact absurd rfl ha
      | io path message => rfl
      | transport e => rfl
  refine ⟨[(.attempt s.instanceName s.database sql, answer)], rfl, fun rows => ?_⟩
  rw [hr]
  exact .passed (fun h => nomatch h) fun _ _ _ h => nomatch h

/-- Batches take one leg each, in their order. -/
theorem takes_executeAll (s : Session) (batches : List String) :
    (s.executeAll batches).Takes (batches.map (.batch s.instanceName s.database)) := by
  induction batches with
  | nil => exact .done ()
  | cons sql r ih => exact (s.takes_execute sql).bind fun _ => ih

/-- A batch that is made of a value is sent if the value is given. -/
theorem takes_executeGiven (s : Session) (given : Option α) (sql : α → String) :
    (s.executeAll (given.map sql).toList).Takes
      (given.map fun value => .batch s.instanceName s.database (sql value)).toList := by
  cases given with
  | none => exact .done ()
  | some value => exact s.takes_executeAll [sql value]

end Session

open Session

namespace Step

/-- Files are read up to the first that cannot be read. -/
theorem readAll_cases (files : Files) (paths : List String) :
    (∃ texts, readAll files paths = .ok texts ∧ paths.map files = texts.map .ok) ∨
      ∃ path message, First (fun p => ∃ text, files p = .ok text) paths path ∧
        files path = .error message ∧ readAll files paths = .error (.io path message) := by
  induction paths with
  | nil => exact .inl ⟨[], rfl, rfl⟩
  | cons p r ih =>
    rw [readAll]
    cases hp : files p with
    | error message => exact .inr ⟨p, message, .here (by simp [hp]), hp, rfl⟩
    | ok text =>
      rcases ih with ⟨texts, hread, htexts⟩ | ⟨path, message, hfirst, hpath, hread⟩
      · exact .inl ⟨text :: texts, by rw [hread]; rfl, by rw [List.map_cons, hp, htexts]; rfl⟩
      · exact .inr ⟨path, message, .there ⟨text, hp⟩ hfirst, hpath, by rw [hread]; rfl⟩

variable (texts : List String)

/-- A step of one statement takes its session and the statement. -/
theorem takesBy_single (instanceName sql : String) : (single instanceName sql).TakesBy
    fun _ => [.connect instanceName, .batch instanceName none sql] :=
  takesBy_connect (takes_execute ⟨instanceName, none⟩ sql).takesBy

/-- A login takes its session, its creation and its roles. -/
theorem Login.takesBy_activity (s : Login) :
    s.activity.TakesBy fun rows => (login s).legs texts rows :=
  takesBy_connect (Takes.takesBy
    ((takes_execute _ _).bind fun _ => takes_executeAll ⟨s.instanceName, none⟩ _))

/-- A distributor takes its session, the start of the agent and its three statements. -/
theorem Distributor.takesBy_activity (s : Distributor) :
    s.activity.TakesBy fun rows => (distributor s).legs texts rows :=
  takesBy_connect (Takes.takesBy
    ((takes_attempt _ _).bind fun _ => takes_executeAll ⟨s.instanceName, none⟩ _))

/-- A database takes its creation, the settings that are given and the texts of its scripts, the
last in the database itself. -/
theorem Database.takesBy_activity (s : Database) {files : Files} {texts : List String}
    (h : readAll files s.scripts = .ok texts) :
    (s.activity files).TakesBy fun rows => (database s).legs texts rows := by
  have hread : s.activity files = Session.connect s.instanceName >>= fun session =>
      session.execute s.createScript >>= fun _ =>
      session.executeAll (s.recoveryModel.map s.recoveryScript).toList >>= fun _ =>
      session.executeAll (s.owner.map s.ownerScript).toList >>= fun _ =>
        (session.use s.name).executeAll texts := by
    rw [activity, h]
    rfl
  rw [hread]
  simp only [legs, List.cons_append, List.append_assoc]
  exact takesBy_connect (Takes.takesBy
    ((takes_execute ⟨s.instanceName, none⟩ _).bind fun _ =>
      (takes_executeGiven ⟨s.instanceName, none⟩ _ _).bind fun _ =>
      (takes_executeGiven ⟨s.instanceName, none⟩ _ _).bind fun _ =>
      takes_executeAll ⟨s.instanceName, some s.name⟩ _))

/-- A publication takes its statements, among them one for each of its articles. -/
theorem Publication.takesBy_activity (s : Publication) :
    s.activity.TakesBy fun rows => (publication s).legs texts rows := by
  have h : s.activity.TakesBy _ := takesBy_connect (Takes.takesBy
    ((takes_executeAll ⟨s.instanceName, none⟩ _).bind fun _ =>
      (takes_execute ⟨s.instanceName, none⟩ _).bind fun _ =>
      (takes_execute ⟨s.instanceName, s.databaseName⟩ _).bind fun _ =>
      (takes_execute _ _).bind fun _ => (takes_executeAll _ _).bind fun _ =>
      (takes_attempt _ _).bind fun _ => Takes.done ()))
  simpa [legs, Session.use] using h

/-- A subscription takes one leg for each article that its query brings without a subscriber. -/
theorem PullSubscription.takesBy_activity (s : PullSubscription) :
    s.activity.TakesBy fun rows => (pullSubscription s).legs texts rows := by
  have h : s.activity.TakesBy _ := takesBy_connect (takesBy_connect (TakesBy.bind
    (takes_execute ⟨s.publisherInstance, s.publisherDatabaseName⟩ _) fun _ =>
      takesBy_query ⟨s.publisherInstance, s.publisherDatabaseName⟩ _ fun _ =>
      (takes_executeAll ⟨s.publisherInstance, s.publisherDatabaseName⟩ _).bind fun _ =>
      (takes_execute ⟨s.instanceName, s.databaseName⟩ _).bind fun _ =>
      (takes_attempt ⟨s.instanceName, s.databaseName⟩ _).bind fun _ =>
      (takes_attempt ⟨s.publisherInstance, s.publisherDatabaseName⟩ _).bind fun _ =>
      Takes.done ()))
  simpa [legs] using h

/-- A step whose scripts can be read goes along its full sequence. -/
theorem takesBy_activity {files : Files} {texts : List String} {s : Step}
    (h : readAll files s.scriptPaths = .ok texts) :
    (s.activity files).TakesBy fun rows => s.legs texts rows := by
  cases s with
  | login s => exact s.takesBy_activity texts
  | database s => exact s.takesBy_activity h
  | distributor s => exact s.takesBy_activity texts
  | publication s => exact s.takesBy_activity texts
  | pullSubscription s => exact s.takesBy_activity texts
  | backup s => exact takesBy_single _ _
  | restore s => exact takesBy_single _ _
  | mirroringEndpoint s => exact takesBy_single _ _
  | mirroringPartner s => exact takesBy_single _ _

/-- A step with a script that cannot be read fails at once. -/
theorem activity_of_readAll {files : Files} {s : Step} {e : StepError}
    (h : readAll files s.scriptPaths = .error e) : s.activity files = .fail e := by
  cases s with
  | database s =>
    have hread : readAll files s.scripts = .error e := h
    rw [activity, Database.activity, hread]
    rfl
  | _ => cases h

/-- The course of a step where nothing is cancelled. If a script cannot be read, nothing is sent and
the failure tells the first such script. Otherwise what is sent is a front of the full sequence,
answered by the world; it ends right after the first required round trip that fails, whose failure
is that of the step, and if none fails the whole sequence is sent and the step succeeds. -/
theorem finish_course (s : Step) (files : Files) {world : World} (hw : world.Undisturbed)
    (target : String) {j : Journal} (hj : j.cancelled = false) :
    (∃ path message, First (fun p => ∃ text, files p = .ok text) s.scriptPaths path ∧
      files path = .error message ∧
      (s.activity files).finish world target j = (j, .error (.io path message))) ∨
    ∃ (texts : List String) (rows : List Row) (sent : List (Leg × Answer))
      (result : Except StepError Unit),
      s.scriptPaths.map files = texts.map .ok ∧
      Course rows (s.legs texts rows) sent result ∧
      world.Answers target j.entries (sent.map Leg.asSent) ∧
      (s.activity files).finish world target j =
        (⟨entriesOf target (sent.map Leg.asSent) ++ j.entries, false⟩, result) := by
  rcases readAll_cases files s.scriptPaths with
    ⟨texts, hread, htexts⟩ | ⟨path, message, hfirst, hpath, hread⟩
  · obtain ⟨es, cancelled⟩ := j
    obtain rfl : cancelled = false := hj
    obtain ⟨l, r, htrace, hanswers, hfinish⟩ := exists_trace hw target (s.activity files) es
    obtain ⟨sent, rows, rfl, hcourse⟩ := takesBy_activity hread htrace
    have hr : (r.map fun _ => ()) = r := by cases r <;> rfl
    exact .inr ⟨texts, rows, sent, r, htexts, hr ▸ hcourse, hanswers, hfinish⟩
  · exact .inl ⟨path, message, hfirst, hpath, by rw [activity_of_readAll hread, finish]⟩

end Step

namespace Sample

/-- A subscription to a publication of another instance. -/
def subscription : Step.PullSubscription :=
  ⟨"SQL02", "Sales", "SQL01", "Sales", "Orders"⟩

/-- The answers of a publisher that knows of one article that the subscriber lacks, and of a
subscriber that refuses the agent. -/
def refusesAgent (trip : Trip) : Answer :=
  match trip with
  | .query _ _ _ => .ok [["Heads", "SQL02"], ["Lines", ""]]
  | .execute _ _ sql =>
    if sql = subscription.addAgentScript then
      .error (.transport (.command "SQL02" 1 "the agent exists"))
    else .ok []
  | .connect _ => .ok []

/-- The world with these answers, each of which comes after a pause. -/
def withoutAgent : World :=
  ⟨fun _ e => ⟨refusesAgent e.trip, false, [false]⟩⟩

/-- An agent that is refused is no cancellation, so the world disturbs no step. -/
theorem undisturbed_withoutAgent : withoutAgent.Undisturbed where
  cancels _ _ := rfl
  pauses _ _ _ h := List.mem_singleton.1 h
  answer _ e := by
    show refusesAgent e.trip ≠ .error .cancelled
    unfold refusesAgent
    split
    · exact nofun
    · split <;> exact nofun
    · exact nofun

/-- A database with a recovery model, an owner and a script. -/
def ownedDatabase : Step.Database :=
  ⟨"SQL01", "Sales", some .simple, some "sa", ["/srv/sql/init.sql"]⟩

/-- The file of the script. -/
def initFile : Files := fun path =>
  if path = "/srv/sql/init.sql" then .ok "CREATE TABLE Orders (Id int)" else .error "no such file"

/-- What a step comes to in this world. -/
def run (s : Step) : Journal × Except StepError Unit :=
  (s.activity initFile).finish withoutAgent "a" (Journal.fresh false)

end Sample

/-- The subscription goes along all of its eight legs, though it is refused the agent, and the
database along all of its five, the last of them in the database. -/
theorem Step.finish_course_sample :
    Sample.withoutAgent.Undisturbed ∧ (Journal.fresh false).cancelled = false ∧
    (∃ rows sent, sent.length = 8 ∧
      Course rows ((Step.pullSubscription Sample.subscription).legs [] rows) sent (.ok ())) ∧
    ∃ rows sent, sent.map Prod.fst =
        [.connect "SQL01", .batch "SQL01" none Sample.ownedDatabase.createScript,
          .batch "SQL01" none (Sample.ownedDatabase.recoveryScript .simple),
          .batch "SQL01" none (Sample.ownedDatabase.ownerScript "sa"),
          .batch "SQL01" "Sales" "CREATE TABLE Orders (Id int)"] ∧
      Course rows ((Step.database Sample.ownedDatabase).legs ["CREATE TABLE Orders (Id int)"] rows)
        sent (.ok ()) := by
  have hw := Sample.undisturbed_withoutAgent
  refine ⟨hw, rfl, ?_, ?_⟩
  · have hresult : (Sample.run (.pullSubscription Sample.subscription)).2.toOption = some () := by
      decide +kernel
    have hlength : (Sample.run (.pullSubscription Sample.subscription)).1.entries.length = 8 := by
      decide +kernel
    rcases Step.finish_course (.pullSubscription Sample.subscription) Sample.initFile hw "a"
      (j := Journal.fresh false) rfl with
      ⟨_, _, hfirst, -⟩ | ⟨texts, rows, sent, result, htexts, hcourse, -, hrun⟩
    · cases hfirst
    · obtain rfl : texts = [] := by simpa [scriptPaths] using htexts.symm
      change Sample.run _ = _ at hrun
      rw [hrun] at hresult hlength
      refine ⟨rows, sent, by simpa [entriesOf, Journal.fresh] using hlength, ?_⟩
      cases result with
      | ok _ => exact hcourse
      | error _ => cases hresult
  · have hresult : (Sample.run (.database Sample.ownedDatabase)).2.toOption = some () := by
      decide +kernel
    rcases Step.finish_course (.database Sample.ownedDatabase) Sample.initFile hw "a"
      (j := Journal.fresh false) rfl with
      ⟨_, _, -, -, hrun⟩ | ⟨texts, rows, sent, result, htexts, hcourse, -, hrun⟩
    · change Sample.run _ = _ at hrun
      rw [hrun] at hresult
      cases hresult
    · have hfiles : (Step.database Sample.ownedDatabase).scriptPaths.map Sample.initFile =
          [.ok "CREATE TABLE Orders (Id int)"] := rfl
      obtain rfl : texts = ["CREATE TABLE Orders (Id int)"] := by
        simpa [eq_comm] using hfiles.symm.trans htexts
      change Sample.run _ = _ at hrun
      rw [hrun] at hresult
      rcases hcourse.ends with ⟨rfl, hall, -⟩ | ⟨_, _, _, -, -, -, rfl⟩
      · exact ⟨rows, sent, hall, hcourse⟩
      · cases hresult

end Rollout
