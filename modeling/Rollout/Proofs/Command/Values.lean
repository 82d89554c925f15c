import Rollout.Command.Argument
import Rollout.Proofs.Plan.Completion
import Rollout.Proofs.Text.Blank
import Rollout.Proofs.Text.Cut

/-!
# The values that arguments give

What an argument of the command line means is stated by its parts (`Assigns`), and an argument is
read as exactly that (`parseArgument_eq_ok_iff`). Arguments are read exactly if each of them assigns
something, and otherwise the first one that does not is blamed (`parseArguments_eq_error_iff`). Of
the arguments that assign to one name the last one counts (`get?_parseArguments`), and it counts
before the default of the parameter (`arguments_resolve`).
-/

namespace Rollout.Command

open Rollout.Text

variable {raw name value : String} {raws : List String} {values values' : Params}

/-- An argument assigns a value to a name: in front of its first equals sign stands the name, which
is not empty and may have blanks around it, and all that stands behind the sign is the value. -/
def Assigns (raw name value : String) : Prop :=
  name ≠ "" ∧ ∃ front, '=' ∉ front ∧ raw.toList = front ++ '=' :: value.toList ∧
    Stripped front name.toList

/-- An argument has an equals sign, and in front of the first one something that is not blank. -/
def IsAssignment (raw : String) : Prop :=
  ∃ front back, '=' ∉ front ∧ raw.toList = front ++ '=' :: back ∧ ∃ c ∈ front, isBlank c = false

/-- What is wrong with an argument that assigns nothing: it has no equals sign, or else no name. -/
def fault (raw : String) : ArgumentError :=
  if '=' ∈ raw.toList then .nameless raw else .unassigned raw

/-- Some argument assigns a value to a name. -/
def Supplies (raws : List String) (name : String) : Prop :=
  ∃ raw ∈ raws, ∃ value, Assigns raw name value

/-- The last of the arguments that assign to a name assigns a value to it. -/
def AssignsLast (raws : List String) (name value : String) : Prop :=
  ∃ before raw after, raws = before ++ raw :: after ∧ Assigns raw name value ∧
    ¬ Supplies after name

/-! ## One argument -/

/-- What an argument assigns is read off where it is cut. -/
theorem assigns_iff {front back : List Char} (hf : '=' ∉ front)
    (hraw : raw.toList = front ++ '=' :: back) :
    Assigns raw name value ↔
      trimChars front ≠ [] ∧ name.toList = trimChars front ∧ value.toList = back := by
  have hcut := cutAt_eq_some_iff.2 ⟨hf, hraw⟩
  have hname : name.toList = trimChars front → (name ≠ "" ↔ trimChars front ≠ []) := fun h => by
    rw [← h, ne_eq, ne_eq, String.toList_eq_nil_iff]
  constructor
  · rintro ⟨hne, front', hf', hraw', hstripped⟩
    -- there is but one first equals sign
    cases hcut.symm.trans (cutAt_eq_some_iff.2 ⟨hf', hraw'⟩)
    have heq := stripped_iff.1 hstripped
    exact ⟨(hname heq).1 hne, heq, rfl⟩
  · rintro ⟨hne, heq, rfl⟩
    exact ⟨(hname heq).2 hne, front, hf, hraw, stripped_iff.2 heq⟩

/-- An argument is read as what it assigns. -/
theorem parseArgument_eq_ok_iff :
    parseArgument raw = .ok (name, value) ↔ Assigns raw name value := by
  unfold parseArgument
  cases hcut : cutAt '=' raw.toList with
  | none =>
    have hnone := cutAt_eq_none_iff.1 hcut
    refine iff_of_false nofun ?_
    rintro ⟨-, front, -, hraw, -⟩
    exact hnone (by simp [hraw])
  | some cut =>
    obtain ⟨front, back⟩ := cut
    obtain ⟨hf, hraw⟩ := cutAt_eq_some_iff.1 hcut
    rw [assigns_iff hf hraw]
    have hofList (l : List Char) (s : String) : String.ofList l = s ↔ s.toList = l := by
      rw [← String.toList_inj, String.toList_ofList, eq_comm]
    dsimp only
    split
    · next hnil => simp [hnil]
    · next hne =>
      rw [Except.ok.injEq, Prod.mk.injEq, hofList, hofList]
      exact (and_iff_right hne).symm

/-- An argument assigns something if and only if it is an assignment. -/
theorem exists_assigns_iff : (∃ name value, Assigns raw name value) ↔ IsAssignment raw := by
  have hblank (front : List Char) : trimChars front ≠ [] ↔ ∃ c ∈ front, isBlank c = false := by
    rw [ne_eq, trimChars_eq_nil_iff]
    simp
  constructor
  · rintro ⟨name, value, h⟩
    obtain ⟨-, front, hf, hraw, -⟩ := id h
    exact ⟨front, _, hf, hraw, (hblank front).1 ((assigns_iff hf hraw).1 h).1⟩
  · rintro ⟨front, back, hf, hraw, hne⟩
    refine ⟨String.ofList (trimChars front), String.ofList back, (assigns_iff hf hraw).2 ?_⟩
    exact ⟨(hblank front).2 hne, String.toList_ofList, String.toList_ofList⟩

/-- An argument that assigns nothing is refused for its fault. -/
theorem parseArgument_of_not (h : ¬ IsAssignment raw) : parseArgument raw = .error (fault raw) := by
  cases hread : parseArgument raw with
  | ok pair =>
    exact absurd (exists_assigns_iff.1 ⟨_, _, parseArgument_eq_ok_iff.1 hread⟩) h
  | error e =>
    unfold parseArgument at hread
    split at hread
    · next hcut =>
      cases hread
      rw [fault, if_neg (cutAt_eq_none_iff.1 hcut)]
    · next front back hcut =>
      have hmem : '=' ∈ raw.toList := by simp [(cutAt_eq_some_iff.1 hcut).2]
      split at hread
      · cases hread
        rw [fault, if_pos hmem]
      · cases hread

/-! ## Several arguments -/

/-- Arguments are read if each assigns something, and otherwise the first that does not is
blamed. -/
theorem parseArgumentsOnto_cases (values : Params) (raws : List String) :
    ((∃ values', parseArgumentsOnto values raws = .ok values') ∧ ∀ raw ∈ raws, IsAssignment raw) ∨
      ∃ raw, First IsAssignment raws raw ∧
        parseArgumentsOnto values raws = .error (fault raw) := by
  induction raws generalizing values with
  | nil => exact .inl ⟨⟨values, rfl⟩, nofun⟩
  | cons raw r ih =>
    rw [parseArgumentsOnto]
    by_cases h : IsAssignment raw
    · obtain ⟨name, value, hassigns⟩ := exists_assigns_iff.2 h
      rw [parseArgument_eq_ok_iff.2 hassigns]
      exact First.outcome_cons h (ih (values.put name value))
    · rw [parseArgument_of_not h]
      exact .inr ⟨raw, .here h, rfl⟩

/-- Arguments are read exactly if each assigns something. -/
theorem exists_parseArguments_iff :
    (∃ values, parseArguments raws = .ok values) ↔ ∀ raw ∈ raws, IsAssignment raw :=
  First.exists_ok_iff (parseArgumentsOnto_cases .empty raws)

/-- The first argument that assigns nothing is blamed. -/
theorem parseArguments_eq_error_iff {e : ArgumentError} :
    parseArguments raws = .error e ↔ ∃ raw, First IsAssignment raws raw ∧ e = fault raw :=
  First.eq_error_iff (parseArgumentsOnto_cases .empty raws)

theorem not_supplies_cons :
    ¬ Supplies (raw :: raws) name ↔ (∀ value, ¬ Assigns raw name value) ∧ ¬ Supplies raws name := by
  simp [Supplies]

/-- Among the arguments that assign to a name there is a last one. -/
theorem exists_assignsLast (h : Supplies raws name) : ∃ value, AssignsLast raws name value := by
  induction raws with
  | nil => simp [Supplies] at h
  | cons raw r ih =>
    by_cases hr : Supplies r name
    · obtain ⟨value, before, raw', after, rfl, hlast⟩ := ih hr
      exact ⟨value, raw :: before, raw', after, rfl, hlast⟩
    · -- no later argument assigns to the name, so the first one does
      obtain ⟨raw', hmem, value, hassigns⟩ := h
      rcases List.mem_cons.1 hmem with rfl | hmem
      · exact ⟨value, [], raw', r, rfl, hassigns, hr⟩
      · exact absurd ⟨raw', hmem, value, hassigns⟩ hr

/-- A name has the value that the last argument assigns to it, or else the one that it had. -/
theorem get?_parseArgumentsOnto (h : parseArgumentsOnto values raws = .ok values') (name : String) :
    (∀ value, AssignsLast raws name value → values'.get? name = some value) ∧
      (¬ Supplies raws name → values'.get? name = values.get? name) := by
  induction raws generalizing values with
  | nil =>
    cases h
    refine ⟨fun value ⟨before, raw, after, hnil, _⟩ => ?_, fun _ => rfl⟩
    simp at hnil
  | cons raw r ih =>
    rw [parseArgumentsOnto] at h
    split at h
    · cases h
    · next n v hread =>
      have hassigns := parseArgument_eq_ok_iff.1 hread
      obtain ⟨hlast, hkeep⟩ := ih h
      refine ⟨fun value hl => ?_, fun hno => ?_⟩
      · obtain ⟨before, raw', after, hsplit, hassigns', hafter⟩ := hl
        cases before with
        | nil =>
          -- the argument is the last one, so what it puts under its name stays
          obtain ⟨rfl, rfl⟩ := List.cons.inj hsplit
          cases hread.symm.trans (parseArgument_eq_ok_iff.2 hassigns')
          rw [hkeep hafter, Listing.get?_put, if_pos rfl]
        | cons first before =>
          obtain ⟨-, rfl⟩ := List.cons.inj hsplit
          exact hlast value ⟨before, raw', after, rfl, hassigns', hafter⟩
      · obtain ⟨hraw, hr⟩ := not_supplies_cons.1 hno
        have hne : n ≠ name := fun e => hraw v (e ▸ hassigns)
        rw [hkeep hr, Listing.get?_put, if_neg hne]

/-- The values that arguments give are those that the last argument for each name assigns. -/
theorem get?_parseArguments (h : parseArguments raws = .ok values) {value : String} :
    values.get? name = some value ↔ AssignsLast raws name value := by
  obtain ⟨hlast, hkeep⟩ := get?_parseArgumentsOnto h name
  refine ⟨fun hvalue => ?_, hlast value⟩
  by_cases hs : Supplies raws name
  · obtain ⟨value', hlast'⟩ := exists_assignsLast hs
    cases hvalue.symm.trans (hlast value' hlast')
    exact hlast'
  · rw [hkeep hs] at hvalue
    cases hvalue

/-- Arguments give no value to the names to which none of them assigns one. -/
theorem get?_parseArguments_eq_none_iff (h : parseArguments raws = .ok values) :
    values.get? name = none ↔ ¬ Supplies raws name := by
  refine ⟨fun hnone hs => ?_, (get?_parseArgumentsOnto h name).2⟩
  obtain ⟨value, hlast⟩ := exists_assignsLast hs
  cases hnone.symm.trans ((get?_parseArguments h).2 hlast)

/-! ## Arguments and defaults -/

/-- A parameter has a value: some argument assigns one to it, or it has a default other than
null. -/
def HasValue (raws : List String) (p : String × Parameter) : Prop :=
  Supplies raws p.1 ∨ ∃ v, p.2.defaultValue = some v ∧ v ≠ .null

/-- A text is that of the default, other than null, of the parameter that is declared under a
name. -/
def Defaults (declared : Listing Parameter) (name value : String) : Prop :=
  ∃ p v, declared.get? name = some p ∧ p.defaultValue = some v ∧ v ≠ .null ∧ value = v.toText

theorem gives_iff_hasValue (h : parseArguments raws = .ok values) (p : String × Parameter) :
    values.Gives p ↔ HasValue raws p := by
  refine or_congr_left ?_
  rw [Listing.has, Option.isSome_iff_ne_none, ne_eq, get?_parseArguments_eq_none_iff h, not_not]

section Resolved

variable {declared : Listing Parameter} {params : Params}

theorem bind_defaultText?_eq_some_iff :
    (declared.get? name).bind Parameter.defaultText? = some value ↔
      Defaults declared name value := by
  have htext (p : Parameter) : p.defaultText? = some value ↔
      ∃ v, p.defaultValue = some v ∧ v ≠ .null ∧ value = v.toText := by
    unfold Parameter.defaultText?
    split <;> simp_all [eq_comm]
  simp only [Option.bind_eq_some_iff, htext, Defaults, exists_and_left]

variable (h : parseArguments raws = .ok values)
  (hparams : resolveParams declared values = .ok params)

include h hparams

/-- A name has the value that is supplied for it last, and its default if none is supplied. -/
theorem get?_eq_some_iff_of_arguments :
    params.get? name = some value ↔
      AssignsLast raws name value ∨ ¬ Supplies raws name ∧ Defaults declared name value := by
  have hget := get?_of_completeParams hparams name
  rw [hget, Option.or_eq_some_iff, get?_parseArguments h, get?_parseArguments_eq_none_iff h]
  exact or_congr_right (and_congr_right fun _ => bind_defaultText?_eq_some_iff)

/-- A name has no value if it is neither supplied nor declared. -/
theorem get?_eq_none_iff_of_arguments :
    params.get? name = none ↔ ¬ Supplies raws name ∧ name ∉ declared.names := by
  have hget := get?_of_completeParams hparams name
  rw [hget, Option.or_eq_none_iff, get?_parseArguments_eq_none_iff h]
  refine and_congr_right fun hs => ⟨fun hnone hname => ?_, fun hname => ?_⟩
  · -- a declared parameter for which nothing is supplied has a default
    obtain ⟨p, hp⟩ := Option.isSome_iff_exists.1 ((declared.isSome_get? name).2 hname)
    have hvalue := (gives_iff_hasValue h _).1
      (exists_resolveParams_iff.1 ⟨params, hparams⟩ _ ((declared.get?_eq_some_iff name p).1 hp))
    obtain ⟨v, hv, hne⟩ := hvalue.resolve_left hs
    cases hnone.symm.trans (bind_defaultText?_eq_some_iff.2 ⟨p, v, hp, hv, hne, rfl⟩)
  · have hget : declared.get? name = none := by
      rwa [← Option.not_isSome_iff_eq_none, declared.isSome_get? name]
    exact congrArg (Option.bind · Parameter.defaultText?) hget

end Resolved

/-- Arguments resolve to values. They are read if and only if each has an equals sign and a name in
front of it, and otherwise the first that does not is blamed. The declared parameters are resolved
with them if and only if each is supplied or has a default other than null, and otherwise the first
declared one that has neither is blamed. Then a name has the value that the last argument for it
assigns, or else the default of the parameter of that name, and a name that is neither supplied nor
declared has none. -/
theorem arguments_resolve (raws : List String) (declared : Listing Parameter) :
    ((∃ values, parseArguments raws = .ok values) ↔ ∀ raw ∈ raws, IsAssignment raw) ∧
    (∀ e, parseArguments raws = .error e ↔
      ∃ raw, First IsAssignment raws raw ∧ e = fault raw) ∧
    ∀ values, parseArguments raws = .ok values →
      ((∃ params, resolveParams declared values = .ok params) ↔
        ∀ p ∈ declared.entries, HasValue raws p) ∧
      (∀ e, resolveParams declared values = .error e ↔
        ∃ p, First (HasValue raws) declared.entries p ∧ e = .missingParameter p.1) ∧
      ∀ params, resolveParams declared values = .ok params → ∀ name,
        (∀ value, params.get? name = some value ↔
          AssignsLast raws name value ∨ ¬ Supplies raws name ∧ Defaults declared name value) ∧
        (params.get? name = none ↔ ¬ Supplies raws name ∧ name ∉ declared.names) := by
  refine ⟨exists_parseArguments_iff, fun e => parseArguments_eq_error_iff, fun values h => ?_⟩
  have hgives := gives_iff_hasValue h
  refine ⟨?_, fun e => ?_, fun params hparams name => ⟨fun value => ?_, ?_⟩⟩
  · rw [exists_resolveParams_iff]
    exact forall₂_congr fun p _ => hgives p
  · rw [resolveParams_eq_error_iff]
    refine exists_congr fun p => and_congr_left fun _ => ⟨fun hp => ?_, fun hp => ?_⟩
    · exact hp.congr fun p _ => hgives p
    · exact hp.congr fun p _ => (hgives p).symm
  · exact get?_eq_some_iff_of_arguments h hparams
  · exact get?_eq_none_iff_of_arguments h hparams

/-- Arguments of which two name the server, with blanks around names and equals signs in values. -/
def Sample.arguments : List String :=
  ["server=one", " port =1=2", "server\t= two "]

/-- Declared parameters of which one has the default null and is supplied, and one is not. -/
def Sample.parameters : Listing Parameter :=
  .ofList
    [("mode", ⟨some (.integer 5), none⟩), ("server", ⟨some (.text "local"), none⟩),
      ("port", ⟨some .null, none⟩)]

/-- Of the sample the server has the value that is given last, the mode its default, and nothing
else has a value but the port. -/
theorem arguments_resolve_sample :
    parseArguments Sample.arguments = .ok (.ofList [("server", " two "), ("port", "1=2")]) ∧
    resolveParams Sample.parameters (.ofList [("server", " two "), ("port", "1=2")]) =
      .ok (.ofList [("server", " two "), ("port", "1=2"), ("mode", "5")]) ∧
    AssignsLast Sample.arguments "server" " two " ∧
    ¬ Supplies Sample.arguments "mode" ∧ Defaults Sample.parameters "mode" "5" ∧
    ¬ Supplies Sample.arguments "host" ∧ "host" ∉ Sample.parameters.names := by
  have h : parseArguments Sample.arguments =
      .ok (.ofList [("server", " two "), ("port", "1=2")]) := by
    rfl
  have hparams : resolveParams Sample.parameters (.ofList [("server", " two "), ("port", "1=2")]) =
      .ok (.ofList [("server", " two "), ("port", "1=2"), ("mode", "5")]) := by
    rfl
  have hnames := ((arguments_resolve Sample.arguments Sample.parameters).2.2 _ h).2.2 _ hparams
  have hmode : ¬ Supplies Sample.arguments "mode" :=
    (get?_parseArguments_eq_none_iff h).1 (by decide)
  refine ⟨h, hparams, ?_, hmode, ?_, (hnames "host").2.1 (by decide)⟩
  · -- the server is supplied, so its default does not count
    have hserver : ¬ ¬ Supplies Sample.arguments "server" :=
      (get?_parseArguments_eq_none_iff h).not.1 (by decide)
    exact (((hnames "server").1 " two ").1 (by decide)).resolve_right fun hd => hserver hd.1
  · refine (((hnames "mode").1 "5").1 (by decide)).elim (fun hlast => ?_) And.right
    obtain ⟨before, raw, after, hsplit, hassigns, -⟩ := hlast
    exact absurd ⟨raw, by simp [hsplit], "5", hassigns⟩ hmode

end Rollout.Command
