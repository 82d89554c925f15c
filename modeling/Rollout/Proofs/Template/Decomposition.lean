import Mathlib.Data.List.Forall2
import Rollout.Proofs.Template

/-!
# Expansion is substitution

A text is decomposed from the left: a reference opens at the first pair of opening braces behind the
reference before it, and closes at the first pair of closing braces behind that. `Leftmost` states
this without a scanner. A text has only one decomposition from the left with a given number of
references, and only one that takes all references it can (`Leftmost.unique`); the layout of a
template is the latter (`leftmost_layoutFrom`). So expansion puts values in the places of the
references of this decomposition, and leaves everything else as it is (`expand_single_pass`).
-/

namespace Rollout.Text

/-- The first pair of marks in a text stands between `before` and `after`. -/
structure FirstPair (mark : Char) (cs before after : List Char) : Prop where
  eq : cs = before ++ mark :: mark :: after
  first : ∀ b a, cs = b ++ mark :: mark :: a → before.length ≤ b.length

variable {mark : Char} {cs : List Char}

/-- A text has only one first pair of marks. -/
theorem FirstPair.unique {p q p' q' : List Char} (h : FirstPair mark cs p q)
    (h' : FirstPair mark cs p' q') : p = p' ∧ q = q' := by
  have hlen : p.length = p'.length :=
    Nat.le_antisymm (h.first _ _ h'.eq) (h'.first _ _ h.eq)
  obtain ⟨hp, hq⟩ := List.append_inj (h.eq.symm.trans h'.eq) hlen
  exact ⟨hp, by simpa using hq⟩

theorem FirstPair.isInfix {p q : List Char} (h : FirstPair mark cs p q) : [mark, mark] <:+: cs :=
  ⟨p, q, by simp [h.eq]⟩

/-- A text cannot be cut exactly if it has no pair of marks. -/
theorem cutAtPair_eq_none_iff : cutAtPair mark cs = none ↔ ¬ [mark, mark] <:+: cs := by
  fun_induction cutAtPair mark cs with
  | case1 => simp
  | case2 c => simp [List.infix_cons_iff]
  | case3 c d r hcd =>
    obtain ⟨rfl, rfl⟩ := hcd
    simpa using (List.prefix_append [d, d] r).isInfix
  | case4 c d r hcd ih =>
    have hsplit : [mark, mark] <:+: c :: d :: r ↔
        [mark, mark] <+: c :: d :: r ∨ [mark, mark] <:+: d :: r := List.infix_cons_iff
    have hfront : ¬ [mark, mark] <+: c :: d :: r := by
      rintro ⟨s, hs⟩
      cases hs
      exact hcd ⟨rfl, rfl⟩
    simp [Option.map_eq_none_iff, ih, hsplit, hfront]

/-- A text is cut at its first pair of marks. -/
theorem firstPair_of_cutAtPair {p q : List Char} (h : cutAtPair mark cs = some (p, q)) :
    FirstPair mark cs p q := by
  refine ⟨cutAtPair_eq_some h, fun b a hab => ?_⟩
  fun_induction cutAtPair mark cs generalizing p b with
  | case1 => cases h
  | case2 => cases h
  | case3 c d r hcd =>
    cases h
    exact Nat.zero_le _
  | case4 c d r hcd ih =>
    simp only [Option.map_eq_some_iff, Prod.exists, Prod.mk.injEq] at h
    obtain ⟨p', q', hcut, rfl, rfl⟩ := h
    cases b with
    | nil =>
      cases hab
      exact absurd ⟨rfl, rfl⟩ hcd
    | cons x b =>
      have := ih hcut b (List.cons.inj hab).2
      simpa using this

theorem cutAtPair_eq_some_iff {p q : List Char} :
    cutAtPair mark cs = some (p, q) ↔ FirstPair mark cs p q := by
  refine ⟨firstPair_of_cutAtPair, fun h => ?_⟩
  cases hcut : cutAtPair mark cs with
  | none => exact absurd h.isInfix (cutAtPair_eq_none_iff.1 hcut)
  | some found =>
    obtain ⟨rfl, rfl⟩ := (firstPair_of_cutAtPair hcut).unique h
    rfl

end Rollout.Text

namespace Rollout.Template

open Rollout.Text

/-! ## Decompositions from the left -/

/-- `Leftmost cs refs tail` says that `cs` is made up of references, each with the literal text in
front of it, and a tail, where each reference opens at the first pair of opening braces behind the
one before and closes at the first pair of closing braces behind its opening. -/
inductive Leftmost : List Char → List (List Char × List Char) → List Char → Prop
  | stop (cs : List Char) : Leftmost cs [] cs
  | reference {cs before inner key rest tail : List Char} {refs : List (List Char × List Char)}
    (hopen : FirstPair '\x7b' cs before inner) (hclose : FirstPair '\x7d' inner key rest)
    (h : Leftmost rest refs tail) : Leftmost cs ((before, key) :: refs) tail

/-- No reference can be taken from a text that never closes its first pair of opening braces, if it
has one. -/
def Exhausted (cs : List Char) : Prop :=
  ∀ before inner, FirstPair '\x7b' cs before inner → ¬ ['\x7d', '\x7d'] <:+: inner

namespace Leftmost

variable {cs tail tail' : List Char} {refs refs' : List (List Char × List Char)}

/-- Of two decompositions the one with more references goes on from the other. -/
theorem continues (h : Leftmost cs refs tail) (h' : Leftmost cs refs' tail')
    (hlen : refs.length ≤ refs'.length) :
    ∃ more, refs' = refs ++ more ∧ Leftmost tail more tail' := by
  induction h generalizing refs' with
  | stop cs => exact ⟨refs', rfl, h'⟩
  | reference hopen hclose _ ih =>
    cases h' with
    | stop => simp at hlen
    | reference hopen' hclose' h' =>
      obtain ⟨rfl, rfl⟩ := hopen.unique hopen'
      obtain ⟨rfl, rfl⟩ := hclose.unique hclose'
      obtain ⟨more, rfl, hmore⟩ := ih h' (Nat.le_of_succ_le_succ hlen)
      exact ⟨more, rfl, hmore⟩

/-- No decomposition takes a reference from an exhausted text. -/
theorem eq_nil (h : Leftmost cs refs tail) (he : Exhausted cs) : refs = [] := by
  cases h with
  | stop => rfl
  | reference hopen hclose _ => exact absurd hclose.isInfix (he _ _ hopen)

/-- Decompositions with the same number of references are the same. -/
theorem unique_of_length (h : Leftmost cs refs tail) (h' : Leftmost cs refs' tail')
    (hlen : refs.length = refs'.length) : refs = refs' ∧ tail = tail' := by
  obtain ⟨more, rfl, hmore⟩ := h.continues h' (Nat.le_of_eq hlen)
  have hnil : more = [] := by simpa using hlen
  subst hnil
  cases hmore
  simp

/-- Decompositions that take all references they can are the same. -/
theorem unique (h : Leftmost cs refs tail) (he : Exhausted tail) (h' : Leftmost cs refs' tail')
    (he' : Exhausted tail') : refs = refs' ∧ tail = tail' := by
  apply h.unique_of_length h'
  rcases Nat.le_total refs.length refs'.length with hlen | hlen
  · obtain ⟨more, rfl, hmore⟩ := h.continues h' hlen
    simp [hmore.eq_nil he]
  · obtain ⟨more, rfl, hmore⟩ := h'.continues h hlen
    simp [hmore.eq_nil he']

end Leftmost

/-! ## The layout of a template -/

/-- A layout is a decomposition from the left. -/
theorem leftmost_layoutFrom (offset : Nat) (cs : List Char) :
    Leftmost cs (layoutFrom offset cs).references (layoutFrom offset cs).tail := by
  fun_induction layoutFrom offset cs with
  | case1 => exact .stop _
  | case2 => exact .stop _
  | case3 offset cs before inner hopen key rest hclose more ih =>
    exact .reference (firstPair_of_cutAtPair hopen) (firstPair_of_cutAtPair hclose) ih

/-- A layout takes all references there are. -/
theorem exhausted_layoutFrom (offset : Nat) (cs : List Char) :
    Exhausted (layoutFrom offset cs).tail := by
  fun_induction layoutFrom offset cs with
  | case1 offset cs hopen =>
    intro before inner h
    cases hopen.symm.trans (cutAtPair_eq_some_iff.2 h)
  | case2 offset cs before inner hopen hclose =>
    intro before' inner' h
    cases hopen.symm.trans (cutAtPair_eq_some_iff.2 h)
    exact cutAtPair_eq_none_iff.1 hclose
  | case3 offset cs before inner hopen key rest hclose more ih => exact ih

/-- No opening is left unclosed exactly if the tail has no pair of opening braces. -/
theorem unclosed_layoutFrom_eq_none_iff (offset : Nat) (cs : List Char) :
    (layoutFrom offset cs).unclosed = none ↔
      ¬ ['\x7b', '\x7b'] <:+: (layoutFrom offset cs).tail := by
  fun_induction layoutFrom offset cs with
  | case1 offset cs hopen => simpa using cutAtPair_eq_none_iff.1 hopen
  | case2 offset cs before inner hopen hclose => simp [← cutAtPair_eq_none_iff, hopen]
  | case3 offset cs before inner hopen key rest hclose more ih => exact ih

/-! ## Names and values -/

/-- A key names what follows `params.` in it, as it stands, once blank characters are trimmed off
the key; and this must not be empty. -/
def Names (key : List Char) (name : String) : Prop :=
  name ≠ "" ∧ trimChars key = "params.".toList ++ name.toList

/-- The keys of references name parameters, in the same order. -/
abbrev AllName (refs : List (List Char × List Char)) (names : List String) : Prop :=
  List.Forall₂ (fun ref name => Names ref.2 name) refs names

/-- What stands behind a front is the text without the front. -/
theorem afterFront_eq_some_iff {front cs r : List Char} :
    afterFront front cs = some r ↔ cs = front ++ r := by
  induction front generalizing cs with
  | nil => simp [afterFront]
  | cons f fs ih =>
    cases cs with
    | nil => simp [afterFront]
    | cons c cs =>
      by_cases h : f = c
      · simp [afterFront, h, ih]
      · simp [afterFront, h, Ne.symm h]

theorem nameOfKey_eq_ok_iff {key : List Char} {name : String} :
    nameOfKey key = .ok name ↔ Names key name := by
  have hfront : "params.".toList = keyFront := by decide
  unfold nameOfKey Names
  rw [hfront, ← afterFront_eq_some_iff]
  split
  · rename_i c r h
    rw [h, Except.ok.injEq, Option.some.injEq, ← String.toList_inj, String.toList_ofList]
    constructor
    · intro hname
      refine ⟨fun he => ?_, hname⟩
      simp [he] at hname
    · exact And.right
  · rename_i h
    constructor
    · intro h'
      cases h'
    · rintro ⟨hne, hname⟩
      obtain ⟨c, r, hcr⟩ := List.exists_cons_of_ne_nil (mt String.toList_eq_nil_iff.1 hne)
      exact absurd (hcr ▸ hname) (h c r)

/-- Substitution puts the value of its name in the place of each reference. -/
theorem substitute_eq_ok_iff (t : Template) {v : String → Option String}
    {refs : List (List Char × List Char)} {body : List Char} :
    t.substitute v refs = .ok body ↔
      ∃ names values, AllName refs names ∧
        List.Forall₂ (fun name value => v name = some value) names values ∧
        body = (List.zipWith (fun ref value => ref.1 ++ value.toList) refs values).flatten := by
  induction refs generalizing body with
  | nil =>
    constructor
    · rintro ⟨⟩
      exact ⟨[], [], .nil, .nil, rfl⟩
    · rintro ⟨names, values, hnames, -, rfl⟩
      rfl
  | cons ref more ih =>
    obtain ⟨before, key⟩ := ref
    constructor
    · intro h
      obtain ⟨name, value, rest, hkey, hv, hrest, rfl⟩ := t.ok_of_substitute_cons h
      obtain ⟨names, values, hnames, hvalues, rfl⟩ := ih.1 hrest
      exact ⟨name :: names, value :: values, .cons (nameOfKey_eq_ok_iff.1 hkey) hnames,
        .cons hv hvalues, by simp⟩
    · rintro ⟨_, _, hnames, hvalues, rfl⟩
      cases hnames with
      | cons hname hnames =>
        cases hvalues with
        | cons hv hvalues =>
          have hmore := ih.2 ⟨_, _, hnames, hvalues, rfl⟩
          simp [substitute, nameOfKey_eq_ok_iff.2 hname, hv, hmore]

/-- Expansion is the substitution of values for the references of the one decomposition of a
template from the left that takes all references it can. It succeeds if and only if no pair of
opening braces is left in the tail of that decomposition, every key names a parameter, and every
name has a value. The result is then the literal texts as they stand, with the values between them
as they are, whatever braces they hold. -/
theorem expand_single_pass (t : Template) :
    (∀ refs tail refs' tail', Leftmost t.text.toList refs tail →
      Leftmost t.text.toList refs' tail' → refs.length = refs'.length →
        refs = refs' ∧ tail = tail') ∧
    ∃ refs tail, (Leftmost t.text.toList refs tail ∧ Exhausted tail) ∧
      (∀ refs' tail', Leftmost t.text.toList refs' tail' → Exhausted tail' →
        refs' = refs ∧ tail' = tail) ∧
      ∀ (params : Params) (s : String), t.expand params = .ok s ↔
        ¬ ['\x7b', '\x7b'] <:+: tail ∧
        ∃ names values, AllName refs names ∧
          List.Forall₂ (fun name value => params.get? name = some value) names values ∧
          s = String.ofList ((List.zipWith (fun ref value => ref.1 ++ value.toList)
            refs values).flatten ++ tail) := by
  have hleft := leftmost_layoutFrom 0 t.text.toList
  have hall := exhausted_layoutFrom 0 t.text.toList
  refine ⟨fun _ _ _ _ h h' => h.unique_of_length h', _, _, ⟨hleft, hall⟩,
    fun _ _ h he => h.unique he hleft hall, fun params s => ?_⟩
  rw [← unclosed_layoutFrom_eq_none_iff, expand, expandWith_eq_ok_iff]
  refine and_congr_right fun _ => ⟨?_, ?_⟩
  · rintro ⟨body, hbody, rfl⟩
    obtain ⟨names, values, hnames, hvalues, rfl⟩ := t.substitute_eq_ok_iff.1 hbody
    exact ⟨names, values, hnames, hvalues, rfl⟩
  · rintro ⟨names, values, hnames, hvalues, rfl⟩
    exact ⟨_, t.substitute_eq_ok_iff.2 ⟨names, values, hnames, hvalues, rfl⟩, rfl⟩

/-- Two references side by side, the second to a name with a blank in it, between other braces. -/
def Sample.spliced : Template :=
  ⟨"<\x7b\x7b params.a \x7d\x7d\x7b\x7bparams.B b\x7d\x7d\x7d>"⟩

/-- Values that make up another reference where they meet. -/
def Sample.splices : Params :=
  .ofList [("a", "\x7b\x7bparams."), ("B b", "a\x7d\x7d")]

/-- The reference that the values of the sample make up is not expanded again. -/
theorem expand_single_pass_sample :
    Leftmost Sample.spliced.text.toList
      [("<".toList, " params.a ".toList), ([], "params.B b".toList)] "\x7d>".toList ∧
    Sample.spliced.expand Sample.splices =
      .ok "<\x7b\x7bparams.a\x7d\x7d\x7d>" := by
  obtain ⟨-, refs, tail, -, hunique, hexpand⟩ := expand_single_pass Sample.spliced
  have hleft : Leftmost Sample.spliced.text.toList
      [("<".toList, " params.a ".toList), ([], "params.B b".toList)] "\x7d>".toList :=
    .reference (firstPair_of_cutAtPair rfl) (firstPair_of_cutAtPair rfl)
      (.reference (firstPair_of_cutAtPair rfl) (firstPair_of_cutAtPair rfl) (.stop _))
  have hnone : ¬ ['\x7b', '\x7b'] <:+: "\x7d>".toList := cutAtPair_eq_none_iff.1 (by decide)
  obtain ⟨rfl, rfl⟩ := hunique _ _ hleft fun _ _ h => absurd h.isInfix hnone
  refine ⟨hleft, (hexpand _ _).2 ⟨hnone, ["a", "B b"], ["\x7b\x7bparams.", "a\x7d\x7d"],
    ?_, ?_, by decide⟩⟩
  · exact .cons ⟨by decide, by decide⟩ (.cons ⟨by decide, by decide⟩ .nil)
  · exact .cons (by decide) (.cons (by decide) .nil)

end Rollout.Template
