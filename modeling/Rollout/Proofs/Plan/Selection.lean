import Mathlib.Data.List.Permutation
import Rollout.Plan.Select
import Rollout.Proofs.First
import Rollout.Proofs.Plan.Dependencies

/-!
# Selection

A search in depth finds exactly what can be reached (`mem_reach_iff`). In any plan a request for
targets therefore selects what it reaches, unless a dependency of that is no target (`select_cases`,
and `select_upstream_closure` for all requests). In a closed plan it selects exactly the targets
that it wants: those that it names and all that these depend on (`select_eq_ok`).
-/

namespace Rollout

/-- What can be reached from some nodes, within others. -/
inductive Reached (nodes : List String) (next : String → List String) (starts : List String) :
    String → Prop where
  | start {name : String} (h : name ∈ starts) (hn : name ∈ nodes) : Reached nodes next starts name
  | next {name other : String} (h : Reached nodes next starts name) (ho : other ∈ next name)
    (hn : other ∈ nodes) : Reached nodes next starts other

variable {nodes : List String} {next : String → List String} {starts : List String}

/-- A search finds only what can be reached if the stack and the visited nodes can be. -/
theorem reached_of_mem_search {seen stack : List String}
    (hseen : ∀ name ∈ seen, Reached nodes next starts name)
    (hstack : ∀ name ∈ stack, name ∈ nodes → Reached nodes next starts name) :
    ∀ name ∈ search nodes next seen stack, Reached nodes next starts name := by
  fun_induction search nodes next seen stack with
  | case1 seen => simpa using hseen
  | case2 seen name stack h ih =>
    -- the node on top is visited, and its neighbours come onto the stack
    have hname := hstack name List.mem_cons_self h.1
    refine ih (fun n hn => ?_) fun n hn hin => ?_
    · rcases List.mem_cons.1 hn with rfl | hn
      · exact hname
      · exact hseen n hn
    · rcases List.mem_append.1 hn with hn | hn
      · exact .next hname (List.mem_reverse.1 hn) hin
      · exact hstack n (List.mem_cons_of_mem _ hn) hin
  | case3 seen name stack h ih =>
    exact ih hseen fun n hn => hstack n (List.mem_cons_of_mem _ hn)

/-- A search finds the visited nodes, the nodes on its stack, and all neighbours of what it finds,
if every neighbour of a visited node is visited or on the stack. -/
theorem search_closed {seen stack : List String}
    (h : ∀ name ∈ seen, ∀ other ∈ next name, other ∈ nodes → other ∈ seen ∨ other ∈ stack) :
    (∀ name ∈ seen, name ∈ search nodes next seen stack) ∧
      (∀ name ∈ stack, name ∈ nodes → name ∈ search nodes next seen stack) ∧
      ∀ name ∈ search nodes next seen stack, ∀ other ∈ next name, other ∈ nodes →
        other ∈ search nodes next seen stack := by
  fun_induction search nodes next seen stack with
  | case1 seen => simpa using h
  | case2 seen name stack hname ih =>
    obtain ⟨hs, hst, hc⟩ := ih (by
      intro n hn o ho hin
      rcases List.mem_cons.1 hn with rfl | hn
      · exact .inr (List.mem_append_left _ (List.mem_reverse.2 ho))
      · rcases h n hn o ho hin with hseen | hstack
        · exact .inl (List.mem_cons_of_mem _ hseen)
        · rcases List.mem_cons.1 hstack with rfl | hstack
          · exact .inl List.mem_cons_self
          · exact .inr (List.mem_append_right _ hstack))
    refine ⟨fun n hn => hs n (List.mem_cons_of_mem _ hn), fun n hn hin => ?_, hc⟩
    rcases List.mem_cons.1 hn with rfl | hn
    · exact hs _ List.mem_cons_self
    · exact hst n (List.mem_append_right _ hn) hin
  | case3 seen name stack hname ih =>
    -- the node is no node of the graph, or was visited before
    have hskip : name ∈ nodes → name ∈ seen := fun hin =>
      Decidable.byContradiction fun hns => hname ⟨hin, hns⟩
    obtain ⟨hs, hst, hc⟩ := ih (by
      intro n hn o ho hin
      rcases h n hn o ho hin with hseen | hstack
      · exact .inl hseen
      · rcases List.mem_cons.1 hstack with rfl | hstack
        · exact .inl (hskip hin)
        · exact .inr hstack)
    refine ⟨hs, fun n hn hin => ?_, hc⟩
    rcases List.mem_cons.1 hn with rfl | hn
    · exact hs _ (hskip hin)
    · exact hst n hn hin

/-- A search finds exactly what can be reached. -/
theorem mem_reach_iff {name : String} :
    name ∈ reach nodes next starts ↔ Reached nodes next starts name := by
  constructor
  · exact reached_of_mem_search (by simp) (fun n hn hin => .start (List.mem_reverse.1 hn) hin) name
  · intro h
    have hinit : ∀ name ∈ ([] : List String), ∀ other ∈ next name, other ∈ nodes →
        other ∈ [] ∨ other ∈ starts.reverse := by simp
    obtain ⟨-, hst, hc⟩ := search_closed hinit
    induction h with
    | start h hn => exact hst _ (List.mem_reverse.2 h) hn
    | next h ho hn ih => exact hc _ ih _ ho hn

namespace Plan

/-- What a request wants: the targets that it names, or all targets if it names none, and whatever
these depend on. -/
inductive Wanted (p : Plan) (requested : List String) : String → Prop where
  | all {name : String} (h : requested = []) (hp : p.has name = true) : Wanted p requested name
  | named {name : String} (h : name ∈ requested) : Wanted p requested name
  | upstream {name d : String} (h : Wanted p requested name) (hd : d ∈ p.dependencies name) :
    Wanted p requested d

variable {p : Plan} {requested : List String}

theorem has_iff (p : Plan) (name : String) : p.has name = true ↔ name ∈ p.names :=
  p.targets.has_iff name

/-- What a request for targets of a closed plan wants are targets. -/
theorem Wanted.has (hp : p.Closed) (hr : ∀ name ∈ requested, p.has name = true) {name : String}
    (h : p.Wanted requested name) : p.has name = true := by
  cases h with
  | all _ hp => exact hp
  | named h => exact hr _ h
  | upstream _ hd => exact hp.has_dependency hd

/-- Whatever a wanted target depends on is wanted. -/
theorem Wanted.of_upstream {t d : String} (h : p.Wanted requested t) (hd : p.Upstream t d) :
    p.Wanted requested d := by
  induction hd with
  | single hd => exact h.upstream hd
  | tail _ hd ih => exact ih.upstream hd

/-- What a request reaches: the targets that it names and whatever these depend on, directly or
not. -/
def Reaches (p : Plan) (requested : List String) (t : String) : Prop :=
  ∃ r ∈ requested, Relation.ReflTransGen (fun t d => d ∈ p.dependencies t) r t

/-- A request that names a target wants exactly what it reaches. -/
theorem wanted_iff_reaches (hne : requested ≠ []) {name : String} :
    p.Wanted requested name ↔ p.Reaches requested name := by
  constructor
  · intro h
    induction h with
    | all h _ => exact absurd h hne
    | named h => exact ⟨_, h, .refl⟩
    | upstream _ hd ih =>
      obtain ⟨r, hr, hpath⟩ := ih
      exact ⟨r, hr, hpath.tail hd⟩
  · rintro ⟨r, hr, hpath⟩
    induction hpath with
    | refl => exact .named hr
    | tail _ hd ih => exact ih.upstream hd

/-- A request is sound if every dependency of whatever it reaches is a target. -/
def Sound (p : Plan) (requested : List String) : Prop :=
  ∀ t d, p.Reaches requested t → d ∈ p.dependencies t → p.has d = true

/-- What is found within the plan is reached. -/
theorem reaches_of_reached {name : String} (h : Reached p.names p.dependencies requested name) :
    p.Reaches requested name := by
  induction h with
  | start h _ => exact ⟨_, h, .refl⟩
  | next _ hd _ ih =>
    obtain ⟨r, hr, hpath⟩ := ih
    exact ⟨r, hr, hpath.tail hd⟩

/-- Whatever is reached is found within the plan if the requested targets are in the plan, and so
are the dependencies of what is found. -/
theorem reached_of_reaches (hr : ∀ name ∈ requested, p.has name = true)
    (hd : ∀ t, Reached p.names p.dependencies requested t → ∀ d ∈ p.dependencies t, p.has d = true)
    {name : String} (h : p.Reaches requested name) :
    Reached p.names p.dependencies requested name := by
  obtain ⟨r, hmem, hpath⟩ := h
  induction hpath with
  | refl => exact .start hmem ((p.has_iff r).1 (hr r hmem))
  | tail _ hdep ih => exact .next ih hdep ((p.has_iff _).1 (hd _ ih _ hdep))

/-- A target has a stray dependency exactly if one of its dependencies is no target. -/
theorem strayDependency?_eq_none_iff {t : String} :
    p.strayDependency? t = none ↔ ∀ d ∈ p.dependencies t, p.has d = true := by
  simp [strayDependency?]

/-- The stray dependency of a target is one of its dependencies and no target. -/
theorem exists_of_strayDependency? {t : String} {e : PlanError}
    (h : p.strayDependency? t = some e) :
    ∃ d ∈ p.dependencies t, p.has d = false ∧ e = .unknownDependency t d := by
  obtain ⟨d, hfind, rfl⟩ := Option.map_eq_some_iff.1 h
  exact ⟨d, List.mem_of_find?_eq_some hfind, by simpa using List.find?_some hfind, rfl⟩

/-- A request with a name that is no target is refused for the first such name. -/
theorem select_eq_error {name : String} (h : requested.find? (!p.has ·) = some name) :
    p.select requested = .error (.unknownTarget name) := by
  have hne : requested.isEmpty = false := by
    cases requested with
    | nil => cases h
    | cons _ _ => rfl
  simp [select, hne, h]

/-- A request for targets selects what it reaches, in the order of the plan; but if it reaches a
target with a dependency that is no target, it is refused for such a dependency. -/
theorem select_cases (hne : requested ≠ []) (hr : ∀ name ∈ requested, p.has name = true) :
    (p.Sound requested ∧
        p.select requested =
          .ok (p.names.filter (· ∈ reach p.names p.dependencies requested)) ∧
        ∀ t, t ∈ p.names.filter (· ∈ reach p.names p.dependencies requested) ↔
          p.Reaches requested t) ∨
      ∃ t d, p.Reaches requested t ∧ d ∈ p.dependencies t ∧ p.has d = false ∧
        p.select requested = .error (.unknownDependency t d) := by
  have hfind : requested.find? (!p.has ·) = none :=
    List.find?_eq_none.2 fun n hn => by simp [hr n hn]
  cases hstray : (reach p.names p.dependencies requested).findSome? p.strayDependency? with
  | some e =>
    obtain ⟨t, ht, he⟩ := List.exists_of_findSome?_eq_some hstray
    obtain ⟨d, hd, hhas, rfl⟩ := exists_of_strayDependency? he
    exact .inr ⟨t, d, reaches_of_reached (mem_reach_iff.1 ht), hd, hhas,
      by simp [select, hne, hfind, hstray]⟩
  | none =>
    -- nothing that was found has a stray dependency, so everything that is reached was found
    have hdeps : ∀ t, Reached p.names p.dependencies requested t →
        ∀ d ∈ p.dependencies t, p.has d = true := fun t ht =>
      strayDependency?_eq_none_iff.1 (List.findSome?_eq_none_iff.1 hstray t (mem_reach_iff.2 ht))
    have hmem (t : String) : t ∈ reach p.names p.dependencies requested ↔
        p.Reaches requested t :=
      mem_reach_iff.trans ⟨reaches_of_reached, reached_of_reaches hr hdeps⟩
    have hhas : ∀ t, p.Reaches requested t → p.has t = true := by
      rintro t ⟨r, hmem, hpath⟩
      induction hpath with
      | refl => exact hr r hmem
      | tail hpath hd _ => exact hdeps _ (reached_of_reaches hr hdeps ⟨r, hmem, hpath⟩) _ hd
    refine .inl ⟨fun t d ht hd => hdeps t (reached_of_reaches hr hdeps ht) d hd, ?_, fun t => ?_⟩
    · simp [select, hne, hfind, hstray]
    · rw [List.mem_filter, decide_eq_true_eq, hmem]
      exact ⟨And.right, fun h => ⟨(p.has_iff t).1 (hhas t h), h⟩⟩

/-- A request for the same targets, in another order or with repetitions, selects the same. -/
theorem select_congr (hne : requested ≠ []) (hr : ∀ name ∈ requested, p.has name = true)
    {other selected : List String} (hother : ∀ name, name ∈ other ↔ name ∈ requested)
    (hs : p.select requested = .ok selected) : p.select other = .ok selected := by
  have hsame (t : String) : p.Reaches other t ↔ p.Reaches requested t := by
    simp only [Reaches, hother]
  have hne' : other ≠ [] := by
    obtain ⟨name, hname⟩ := List.exists_mem_of_ne_nil _ hne
    exact List.ne_nil_of_mem ((hother name).2 hname)
  rcases select_cases hne hr with ⟨hsound, hs', hmem⟩ | ⟨t, d, -, -, -, hs'⟩
  · cases hs'.symm.trans hs
    rcases select_cases hne' fun name h => hr name ((hother name).1 h) with
      ⟨-, ho, hmem'⟩ | ⟨t, d, ht, hd, hhas, -⟩
    · rw [ho]
      refine congrArg _ (List.filter_congr fun t ht => ?_)
      -- a target of the plan is found for the one request if and only if it is for the other
      have hiff := (hmem' t).trans ((hsame t).trans (hmem t).symm)
      simpa [List.mem_filter, ht] using hiff
    · simp [hsound t d ((hsame t).1 ht) hd] at hhas
  · cases hs'.symm.trans hs

/-- A request for targets of a closed plan selects what it wants, in the order of the plan. -/
theorem select_eq_ok (hp : p.Closed) (hr : ∀ name ∈ requested, p.has name = true) :
    ∃ selected, p.select requested = .ok selected ∧ selected.Sublist p.names ∧
      ∀ name, name ∈ selected ↔ p.Wanted requested name := by
  by_cases hne : requested = []
  · -- the empty request selects all targets of the plan
    subst hne
    refine ⟨p.names, rfl, .refl _, fun name => ?_⟩
    rw [← p.has_iff]
    exact ⟨.all rfl, Wanted.has hp (by simp)⟩
  · rcases select_cases hne hr with ⟨-, hs, hmem⟩ | ⟨t, d, -, hd, hhas, -⟩
    · exact ⟨_, hs, List.filter_sublist, fun name =>
        (hmem name).trans (wanted_iff_reaches hne).symm⟩
    · simp [hp.has_dependency hd] at hhas

/-- What a request selects in any plan, be it closed or not and with or without circles. The empty
request selects all targets. Any other is refused for the first name that is no target; and if there
is none, it selects what it reaches unless that includes a target with a dependency that is no
target, which is then what the refusal names. The selected targets stand in the order of the plan,
each once, in whatever order and however often they are requested. -/
theorem select_upstream_closure (p : Plan) :
    p.select [] = .ok p.names ∧
    ∀ requested, requested ≠ [] →
      (∀ name, First (p.has · = true) requested name →
        p.select requested = .error (.unknownTarget name)) ∧
      ((∀ name ∈ requested, p.has name = true) →
        ((∃ selected, p.select requested = .ok selected) ↔ p.Sound requested) ∧
        (∀ e, p.select requested = .error e →
          ∃ t d, p.Reaches requested t ∧ d ∈ p.dependencies t ∧ p.has d = false ∧
            e = .unknownDependency t d) ∧
        ∀ selected, p.select requested = .ok selected →
          selected.Sublist p.names ∧ selected.Nodup ∧
          (∀ t, t ∈ selected ↔ p.Reaches requested t) ∧
          ∀ other, (∀ name, name ∈ other ↔ name ∈ requested) →
            p.select other = .ok selected) := by
  refine ⟨rfl, fun requested hne => ⟨fun name h => select_eq_error h.find?_eq_some, fun hr => ?_⟩⟩
  rcases select_cases hne hr with ⟨hsound, hs, hmem⟩ | ⟨t, d, ht, hd, hhas, hs⟩
  · refine ⟨⟨fun _ => hsound, fun _ => ⟨_, hs⟩⟩, fun e he => ?_, fun selected hok => ?_⟩
    · cases hs.symm.trans he
    · cases hs.symm.trans hok
      exact ⟨List.filter_sublist, p.targets.distinct.filter _, hmem, fun other hother =>
        select_congr hne hr hother hs⟩
  · refine ⟨⟨fun ⟨_, hok⟩ => ?_, fun hsound => ?_⟩, fun e he => ?_, fun _ hok => ?_⟩
    · cases hs.symm.trans hok
    · simp [hsound t d ht hd] at hhas
    · cases hs.symm.trans he
      exact ⟨t, d, ht, hd, hhas, rfl⟩
    · cases hs.symm.trans hok

/-- A circle that leads on to a target, a target that stands apart, and a target with a dependency
that is none. -/
def Sample.tangle : Plan :=
  ⟨.ofList
    [("left", ⟨["right", "end", "right"], []⟩), ("apart", ⟨["left"], []⟩),
      ("stray", ⟨["end", "ghost"], []⟩), ("right", ⟨["left"], []⟩), ("end", ⟨[], []⟩)]⟩

/-- Of the sample the circle selects what it leads to and not what depends on it; the target with
the dependency that is none is refused, and so is a name that is no target. -/
theorem select_upstream_closure_sample :
    ["right", "end", "right"] ≠ [] ∧
    (∀ name ∈ ["right", "end", "right"], Sample.tangle.has name = true) ∧
    Sample.tangle.select ["right", "end", "right"] = .ok ["left", "right", "end"] ∧
    (∀ t, t ∈ ["left", "right", "end"] ↔ Sample.tangle.Reaches ["right", "end", "right"] t) ∧
    Sample.tangle.select ["end", "right"] = .ok ["left", "right", "end"] ∧
    ¬ Sample.tangle.Sound ["apart", "stray"] ∧
    First (Sample.tangle.has · = true) ["apart", "ghost", "none"] "ghost" ∧
    Sample.tangle.select ["apart", "ghost", "none"] = .error (.unknownTarget "ghost") := by
  have hs : Sample.tangle.select ["right", "end", "right"] = .ok ["left", "right", "end"] := by cbv
  have hr : ∀ name ∈ ["right", "end", "right"], Sample.tangle.has name = true := by decide
  have hstray : Sample.tangle.select ["apart", "stray"] =
      .error (.unknownDependency "stray" "ghost") := by cbv
  have hfirst : First (Sample.tangle.has · = true) ["apart", "ghost", "none"] "ghost" :=
    .there (by decide) (.here (by decide))
  have key := (select_upstream_closure Sample.tangle).2
  obtain ⟨-, -, hmem, hother⟩ := ((key _ (by simp)).2 hr).2.2 _ hs
  refine ⟨by simp, hr, hs, hmem, hother _ (by simp [or_comm]), fun hsound => ?_, hfirst,
    (key _ (by simp)).1 _ hfirst⟩
  obtain ⟨selected, hok⟩ := ((key ["apart", "stray"] (by simp)).2 (by decide)).1.2 hsound
  cases hstray.symm.trans hok

end Plan

end Rollout
