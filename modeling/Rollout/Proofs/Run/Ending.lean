import Mathlib.Data.List.Permutation
import Rollout.Proofs.Run.Invariant

/-!
# How a run ends

A run is over when no pass is due and nothing is in flight. By then every target of its order has
ended (`terminal_of_isOver`): a pending target would have been skipped by the last pass if one of
its dependencies failed or was skipped, and launched if all of them completed. So the execution of a
request of a compiled plan is refused at once (`executeIn_of_error`), or ends with a report that
tells of each wanted target how it ended (`executeIn_of_ok`, `terminal_ended`).
-/

namespace Rollout

variable {x : Runner} {order : List String} {i : Interleaving} {cancelled : Bool}

/-- A target that has ended has completed, or blocks the targets that depend on it. -/
theorem Status.completed_or_blocks {s : Status} (h : s.isTerminal = true) :
    s = .completed ∨ Status.blocks (some s) = true := by
  cases s with
  | pending => cases h
  | running => cases h
  | completed => exact .inl rfl
  | failed _ => exact .inr rfl
  | skipped _ => exact .inr rfl

/-- A report is a success if every target that it tells of has completed. -/
theorem Report.isSuccess_iff {report : Report} (hn : report.statuses.names = order) :
    report.isSuccess = true ↔ ∀ t ∈ order, report.statuses.get? t = some .completed := by
  have hentries : report.isSuccess = true ↔ ∀ e ∈ report.statuses.entries, e.2 = .completed := by
    simp [isSuccess]
  rw [hentries]
  refine ⟨fun h t ht => ?_, fun h e he => ?_⟩
  · obtain ⟨s, hs⟩ := Option.isSome_iff_exists.1 ((report.statuses.isSome_get? t).2 (hn ▸ ht))
    have hdone : s = .completed := h _ ((Listing.get?_eq_some_iff _ _ _).1 hs)
    rw [hs, hdone]
  · have ht : e.1 ∈ order := hn ▸ List.mem_map.2 ⟨e, he, rfl⟩
    have hs := (Listing.get?_eq_some_iff _ _ _).2 he
    exact Option.some.inj (hs.symm.trans (h _ ht))

namespace Run

/-- No target is left behind by a run that is over: every target of its order has ended. -/
theorem terminal_of_isOver {r : Run} (ho : x.plan.Runnable order) (hv : r.Valid x order)
    (hs : r.Settled x) (h : r.isOver = true) :
    ∀ t ∈ order, ∃ s, r.status t = some s ∧ s.isTerminal = true := by
  obtain ⟨hdue, hempty⟩ : r.isDue = false ∧ r.inFlight = [] := by simpa [isOver] using h
  have hstale : r.stale = false := by
    cases hst : r.stale with
    | false => rfl
    | true => simp [isDue, hst] at hdue
  have hroom : r.inFlight.length < x.limit := by
    rw [hempty]
    exact Nat.lt_of_lt_of_le Nat.one_pos (Nat.le_max_left _ _)
  -- along the order: the dependencies of a target have ended before it
  refine ho.induction fun t ht hdeps => ?_
  obtain ⟨s, hstatus⟩ := Option.isSome_iff_exists.1 ((hv.isSome_status t).2 ht)
  cases s with
  | pending =>
    -- no dependency blocks the target, so all of them have completed and it is ready
    have hready : x.isReady r t = true := by
      refine (x.isReady_iff r t).2 ⟨hstatus, fun d hd => ?_⟩
      obtain ⟨s, hds, hterm⟩ := hdeps d hd
      rcases Status.completed_or_blocks hterm with rfl | hb
      · exact hds
      · have hnb := hs.unblocked hstale t hstatus d hd
        rw [hds, hb] at hnb
        cases hnb
    rw [hs.saturated hstale hroom t] at hready
    cases hready
  | running =>
    have hfly := (hv.flying t).1 hstatus
    rw [hempty] at hfly
    cases hfly
  | completed => exact ⟨_, hstatus, rfl⟩
  | failed e => exact ⟨_, hstatus, rfl⟩
  | skipped reason => exact ⟨_, hstatus, rfl⟩

end Run

namespace Runner

/-- A request that has no order of execution is refused, and nothing is sent. -/
theorem executeIn_of_error {requested : List String} {e : PlanError}
    (h : x.plan.schedule requested = .error e) (i : Interleaving) (cancelled : Bool) :
    x.executeIn i requested cancelled = (Journal.fresh cancelled, .error (.plan e)) := by
  rw [executeIn, h]

/-- The outcome of a request that has an order of execution is that of the run that comes of it. -/
theorem executeIn_of_ok {requested : List String} (h : x.plan.schedule requested = .ok order)
    (i : Interleaving) (cancelled : Bool) :
    x.executeIn i requested cancelled =
      ((x.ended i order cancelled).journal,
        if (Report.mk (x.ended i order cancelled).statuses).isSuccess then
          .ok ⟨(x.ended i order cancelled).statuses⟩
        else .error (.incomplete ⟨(x.ended i order cancelled).statuses⟩)) := by
  rw [executeIn, h]

/-- A closed plan has no dependency for which a request could be refused. -/
theorem ne_unknownDependency_executeIn (hp : x.plan.Closed) (i : Interleaving)
    (requested : List String) (cancelled : Bool) (t d : String) :
    (x.executeIn i requested cancelled).2 ≠ .error (.plan (.unknownDependency t d)) := by
  cases hs : x.plan.schedule requested with
  | ok order =>
    rw [executeIn_of_ok hs]
    split <;> simp
  | error e =>
    rw [executeIn_of_error hs]
    rintro ⟨⟩
    exact Plan.schedule_ne_unknownDependency hp hs

/-- Every target of an order has ended when the run is over. -/
theorem terminal_ended (ho : x.plan.Runnable order) :
    ∀ t ∈ order, ∃ s, (x.ended i order cancelled).status t = some s ∧ s.isTerminal = true := by
  obtain ⟨-, -, hover⟩ := exists_moment_loop x i order cancelled
  obtain ⟨hv, hs⟩ := valid_ended ho.toOrdered
  exact Run.terminal_of_isOver ho hv hs hover

/-- How the execution of a request of a compiled plan ends, whatever the world answers, in whichever
order targets go on and whenever the run is cancelled. It is refused for the first requested name
that is no target, or for a circle among the wanted targets, and nothing is sent then. Otherwise it
comes to a moment at which the run is over, with a report that lists exactly the wanted targets in
the order of execution, each of which has ended, and it is a success if and only if all of them have
completed. It is never refused for a dependency that is no target. -/
theorem execute_ends {m : Manifest} {supplied : Params} {base? : Option String}
    (h : m.compile supplied base? = .ok x.plan) (i : Interleaving) (requested : List String)
    (cancelled : Bool) :
    (∀ name, requested.find? (!x.plan.has ·) = some name →
      x.executeIn i requested cancelled =
        (Journal.fresh cancelled, .error (.plan (.unknownTarget name)))) ∧
    ((∀ name ∈ requested, x.plan.has name = true) →
      (∃ t, x.plan.Wanted requested t ∧ x.plan.Upstream t t) →
      ∃ targets, x.executeIn i requested cancelled =
        (Journal.fresh cancelled, .error (.plan (.cycle targets)))) ∧
    ((∀ name ∈ requested, x.plan.has name = true) →
      (∀ t, x.plan.Wanted requested t → ¬ x.plan.Upstream t t) →
      ∃ order n report, x.plan.schedule requested = .ok order ∧
        (∀ name, name ∈ order ↔ x.plan.Wanted requested name) ∧
        (x.moment i order cancelled n).isOver = true ∧
        report = ⟨(x.moment i order cancelled n).statuses⟩ ∧
        report.statuses.names = order ∧
        (∀ t ∈ order, ∃ s, report.statuses.get? t = some s ∧ s.isTerminal = true) ∧
        x.executeIn i requested cancelled =
          ((x.moment i order cancelled n).journal,
            if ∀ t ∈ order, report.statuses.get? t = some .completed then .ok report
            else .error (.incomplete report))) ∧
    ∀ target dependency, (x.executeIn i requested cancelled).2 ≠
      .error (.plan (.unknownDependency target dependency)) := by
  have hp := Manifest.closed_of_compile h
  refine ⟨fun name hname => ?_, fun hr ⟨t, ht, hc⟩ => ?_, fun hr hc => ?_, fun t d => ?_⟩
  · -- a requested name that is no target
    exact executeIn_of_error (Plan.schedule_eq_error_unknown hname) i cancelled
  · -- a circle among the wanted targets
    obtain ⟨targets, hs⟩ := Plan.schedule_eq_error_cycle hp hr ht hc
    exact ⟨targets, executeIn_of_error hs i cancelled⟩
  · -- a run
    obtain ⟨order, hs⟩ := Plan.schedule_eq_ok hp hr hc
    obtain ⟨ho, hmem⟩ := Plan.runnable_of_schedule hp hs
    obtain ⟨n, hn, hover⟩ := exists_moment_loop x i order cancelled
    have hv : (x.ended i order cancelled).Valid x order := (valid_ended ho.toOrdered).1
    refine ⟨order, n, _, hs, hmem, hn ▸ hover, rfl, hn ▸ hv.names, ?_, ?_⟩
    · exact hn ▸ terminal_ended ho
    · have hsucc : (Report.mk (x.ended i order cancelled).statuses).isSuccess = true ↔ _ :=
        Report.isSuccess_iff hv.names
      rw [executeIn_of_ok hs, hn]
      simp only [hsucc]
  · exact ne_unknownDependency_executeIn hp i requested cancelled t d

end Runner

/-! ## A sample -/

namespace Sample

/-- A block that ensures a login on an instance. -/
def block (instanceName login : String) : Block :=
  ⟨⟨instanceName⟩, [.login ⟨⟨login⟩, none, none, []⟩]⟩

/-- A manifest of two targets, of which the second depends on the first. -/
def manifest : Manifest where
  name := "sample"
  description := none
  parameters := .empty
  targets := .ofList [("base", ⟨[], none, [block "SQL01" "reader"]⟩),
    ("app", ⟨["base"], none, [block "SQL02" "writer"]⟩)]
  source := none

/-- The plan of the manifest. -/
def plan : Plan :=
  ⟨.ofList [("base", ⟨[], [.login ⟨"SQL01", "reader", none, none, []⟩]⟩),
    ("app", ⟨["base"], [.login ⟨"SQL02", "writer", none, none, []⟩]⟩)]⟩

/-- The answers where the instance of the first target refuses connections. -/
def refusal (trip : Trip) : Answer :=
  if trip = .connect "SQL01" then .error (.transport (.connect "SQL01" "refused")) else .ok []

/-- The world with these answers, each of which comes after some pauses. -/
def refusing (pauses : List Bool) : World :=
  ⟨fun _ e => ⟨refusal e.trip, false, pauses⟩⟩

/-- The world in which the run is cancelled as the first round trip is sent. -/
def cancelling : World :=
  ⟨fun _ _ => ⟨.ok [], true, []⟩⟩

/-- A runner of the plan in a world, with room for some targets in flight. -/
def runner (room : Nat) (world : World) : Runner :=
  ⟨plan, fun _ => .error "no such file", world, room⟩

theorem compile_manifest (room : Nat) (world : World) :
    manifest.compile .empty none = .ok (runner room world).plan := by
  show manifest.compile .empty none = .ok plan
  cbv

theorem schedule_plan (room : Nat) (world : World) :
    (runner room world).plan.schedule ["app"] = .ok ["base", "app"] := by
  show plan.schedule ["app"] = .ok ["base", "app"]
  cbv

end Sample

/-- The sample is refused for a name that is none of its targets, and comes to an end for one that
is. -/
theorem Runner.execute_ends_sample :
    Sample.manifest.compile .empty none = .ok (Sample.runner 2 .obliging).plan ∧
    (Sample.runner 2 .obliging).executeIn .fromFront ["app", "db"] false =
      (Journal.fresh false, .error (.plan (.unknownTarget "db"))) ∧
    ∃ order n, (Sample.runner 2 .obliging).plan.schedule ["app"] = .ok order ∧
      ((Sample.runner 2 .obliging).moment .fromFront order false n).isOver = true := by
  have h := Sample.compile_manifest 2 .obliging
  have hs := Sample.schedule_plan 2 .obliging
  have hp := Manifest.closed_of_compile h
  obtain ⟨-, -, hends, -⟩ := Runner.execute_ends h .fromFront ["app"] false
  obtain ⟨order, n, report, horder, -, hover, -⟩ :=
    hends (Plan.has_of_schedule hs) (Plan.acyclic_of_schedule hp hs)
  have hdb : ["app", "db"].find? (!(Sample.runner 2 .obliging).plan.has ·) = some "db" := by rfl
  exact ⟨h, (Runner.execute_ends h .fromFront ["app", "db"] false).1 "db" hdb, order, n, horder,
    hover⟩

end Rollout
