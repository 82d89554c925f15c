import Rollout.Proofs.Template.Decomposition

/-!
# The faults of templates

A template is well formed, or its decomposition from the left stops at a malformed reference: one
that is never closed, or one whose key names no parameter (`check_cases`). The check finds the fault
of that reference. Expansion looks up the names in front of it, one after the other, so it fails by
the first of them without a value, or else as the check does (`expand_fails_leftmost`). The place of
an unclosed reference is the number of bytes in front of it in the whole template.
-/

namespace Rollout.Template

open Rollout.Text

/-! ## Places in a text -/

theorem byteLength_append (cs ds : List Char) :
    byteLength (cs ++ ds) = byteLength cs + byteLength ds := by
  induction cs with
  | nil => simp [byteLength]
  | cons c cs ih => simp [byteLength, ih, Nat.add_assoc]

/-- The length of a text in bytes is that of its encoding in UTF-8. -/
theorem byteLength_eq (cs : List Char) : byteLength cs = (String.ofList cs).utf8ByteSize := by
  induction cs with
  | nil => simp [byteLength]
  | cons c cs ih =>
    calc byteLength (c :: cs) = c.utf8Size + (String.ofList cs).utf8ByteSize := by
          rw [byteLength, ih]
      _ = (String.ofList (c :: cs)).utf8ByteSize := by
          rw [String.ofList_cons, String.utf8ByteSize_append, String.utf8ByteSize_singleton]

/-- An opening that is never closed is the first one behind the references, and it stands where the
layout says. -/
theorem exists_of_unclosed_layoutFrom {offset position : Nat} {cs : List Char}
    (h : (layoutFrom offset cs).unclosed = some position) :
    ∃ before inner front, FirstPair '\x7b' (layoutFrom offset cs).tail before inner ∧
      ¬ ['\x7d', '\x7d'] <:+: inner ∧ cs = front ++ '\x7b' :: '\x7b' :: inner ∧
      position = offset + byteLength front := by
  fun_induction layoutFrom offset cs with
  | case1 => cases h
  | case2 offset cs before inner hopen hclose =>
    cases h
    exact ⟨before, inner, before, firstPair_of_cutAtPair hopen, cutAtPair_eq_none_iff.1 hclose,
      cutAtPair_eq_some hopen, rfl⟩
  | case3 offset cs before inner hopen key rest hclose more ih =>
    obtain ⟨before', inner', front, hfirst, hnone, rfl, rfl⟩ := ih h
    refine ⟨before', inner', before ++ '\x7b' :: '\x7b' :: (key ++ '\x7d' :: '\x7d' :: front),
      hfirst, hnone, ?_, ?_⟩
    · rw [cutAtPair_eq_some hopen, cutAtPair_eq_some hclose]
      simp
    · -- each brace takes one byte
      have hbrace : '\x7b'.utf8Size = 1 ∧ '\x7d'.utf8Size = 1 := by decide
      simp only [byteLength_append, byteLength, hbrace]
      omega

/-! ## Well-formed and malformed texts -/

/-- `Formed cs names` says that every reference of a text is closed and names a parameter, and gives
the names from the left to the right. -/
inductive Formed (cs : List Char) (names : List String) : Prop
  | intro {refs : List (List Char × List Char)} {tail : List Char} (h : Leftmost cs refs tail)
    (hnames : AllName refs names)
    (hend : ¬ ['\x7b', '\x7b'] <:+: tail)

/-- `Malformed cs names fault` says that the references of a text are closed and name parameters, up
to one that does not, and gives the names in front of that one and what is wrong with it. -/
inductive Malformed (cs : List Char) (names : List String) : TemplateFault → Prop
  /-- Behind the references the first pair of opening braces has no pair of closing braces behind
  it; the fault tells how many bytes stand in front of it in the text. -/
  | unclosed {refs : List (List Char × List Char)} {rest before inner front : List Char}
    (h : Leftmost cs refs rest)
    (hnames : AllName refs names)
    (hopen : FirstPair '\x7b' rest before inner) (hclose : ¬ ['\x7d', '\x7d'] <:+: inner)
    (hfront : cs = front ++ '\x7b' :: '\x7b' :: inner) :
    Malformed cs names (.unclosed (String.ofList front).utf8ByteSize)
  /-- Behind the references comes one that is closed and names no parameter; the fault tells its
  trimmed key. -/
  | unknownReference {refs : List (List Char × List Char)}
    {rest before inner key more : List Char} (h : Leftmost cs refs rest)
    (hnames : AllName refs names)
    (hopen : FirstPair '\x7b' rest before inner) (hclose : FirstPair '\x7d' inner key more)
    (hkey : ∀ name, ¬ Names key name) :
    Malformed cs names (.unknownReference (String.ofList (trimChars key)))

/-- A decomposition can be stopped in front of any of its references. -/
theorem Leftmost.split {cs before key tail : List Char} {left right : List (List Char × List Char)}
    (h : Leftmost cs (left ++ (before, key) :: right) tail) :
    ∃ rest inner more, Leftmost cs left rest ∧ FirstPair '\x7b' rest before inner ∧
      FirstPair '\x7d' inner key more := by
  induction left generalizing cs with
  | nil =>
    cases h with
    | reference hopen hclose _ => exact ⟨_, _, _, .stop _, hopen, hclose⟩
  | cons ref left ih =>
    cases h with
    | reference hopen hclose h =>
      obtain ⟨rest, inner, more, hleft, hopen', hclose'⟩ := ih h
      exact ⟨rest, inner, more, .reference hopen hclose hleft, hopen', hclose'⟩

/-- Either all keys name parameters, or the first one that does not is at fault; the names are those
that are looked up. -/
theorem namesOfKeys_cases (refs : List (List Char × List Char)) :
    (namesOfKeys refs = .ok (lookupsIn refs) ∧
      AllName refs (lookupsIn refs)) ∨
    ∃ left before key right, refs = left ++ (before, key) :: right ∧
      AllName left (lookupsIn refs) ∧
      (∀ name, ¬ Names key name) ∧
      namesOfKeys refs = .error (.unknownReference (String.ofList (trimChars key))) := by
  induction refs with
  | nil => exact .inl ⟨rfl, .nil⟩
  | cons ref more ih =>
    obtain ⟨before, key⟩ := ref
    cases hkey : nameOfKey key with
    | error fault =>
      have hfault : fault = .unknownReference (String.ofList (trimChars key)) := by
        unfold nameOfKey at hkey
        split at hkey
        · cases hkey
        · cases hkey
          rfl
      refine .inr ⟨[], before, key, more, rfl, by simp [lookupsIn, hkey], fun name h => ?_,
        by simp [namesOfKeys, hkey, hfault]⟩
      cases hkey.symm.trans (nameOfKey_eq_ok_iff.2 h)
    | ok name =>
      have hname := nameOfKey_eq_ok_iff.1 hkey
      rcases ih with ⟨hnames, hall⟩ | ⟨left, before', key', right, rfl, hleft, hnone, hnames⟩
      · refine .inl ⟨by simp [namesOfKeys, lookupsIn, hkey, hnames], ?_⟩
        simpa [lookupsIn, hkey] using And.intro hname hall
      · refine .inr ⟨(before, key) :: left, before', key', right, rfl, ?_, hnone,
          by simp [namesOfKeys, hkey, hnames]⟩
        simpa [lookupsIn, hkey] using And.intro hname hleft

/-- A template is well formed, or the check finds the fault of its first malformed reference; and
the names up to there are those that are looked up. -/
theorem check_cases (t : Template) :
    (t.check = .ok () ∧ Formed t.text.toList t.lookups) ∨
      ∃ fault, t.check = .error (.malformed t.text fault) ∧
        Malformed t.text.toList t.lookups fault := by
  have hleft : Leftmost t.text.toList t.layout.references t.layout.tail :=
    leftmost_layoutFrom 0 t.text.toList
  rcases namesOfKeys_cases t.layout.references with
    ⟨hnames, hall⟩ | ⟨left, before, key, right, hrefs, hall, hkey, hnames⟩
  · cases hopen : t.layout.unclosed with
    | none =>
      exact .inl ⟨by simp only [check, names, hnames, hopen],
        .intro hleft hall ((unclosed_layoutFrom_eq_none_iff 0 _).1 hopen)⟩
    | some position =>
      obtain ⟨before, inner, front, hfirst, hclose, hfront, hposition⟩ :=
        exists_of_unclosed_layoutFrom hopen
      rw [Nat.zero_add, byteLength_eq] at hposition
      subst hposition
      exact .inr ⟨_, by simp only [check, names, hnames, hopen],
        .unclosed hleft hall hfirst hclose hfront⟩
  · rw [hrefs] at hleft
    obtain ⟨rest, inner, more, hstop, hopen, hclose⟩ := hleft.split
    exact .inr ⟨_, by simp only [check, names, hnames],
      .unknownReference hstop hall hopen hclose hkey⟩

/-- How expansion fails. In a well-formed template it fails only by the first reference, from the
left, to a name without a value. In any other the check fails by the first malformed reference;
expansion then fails by the first name without a value in front of that reference, and with the
error of the check if all names in front of it have values. -/
theorem expand_fails_leftmost (t : Template) :
    (t.check = .ok () → ∃ names, Formed t.text.toList names ∧ ∀ params : Params,
      ((∀ name ∈ names, (params.get? name).isSome = true) ∧ ∃ s, t.expand params = .ok s) ∨
      ∃ name, First (fun n => (params.get? n).isSome = true) names name ∧
        t.expand params = .error (.missingReference t.text name)) ∧
    ∀ e, t.check = .error e → ∃ names fault, Malformed t.text.toList names fault ∧
      e = .malformed t.text fault ∧ ∀ params : Params,
        ((∀ name ∈ names, (params.get? name).isSome = true) ∧ t.expand params = .error e) ∨
        ∃ name, First (fun n => (params.get? n).isSome = true) names name ∧
          t.expand params = .error (.missingReference t.text name) := by
  rcases t.check_cases with ⟨hc, hformed⟩ | ⟨fault, hc, hmalformed⟩
  · refine ⟨fun _ => ⟨t.lookups, hformed, fun params => ?_⟩, fun e he => ?_⟩
    · rcases First.forall_or_exists (fun n => (params.get? n).isSome = true) t.lookups with
        hall | ⟨name, hfirst⟩
      · exact .inl ⟨hall, t.exists_expandWith_eq_ok_iff.2 ⟨hc, hall⟩⟩
      · exact .inr ⟨name, hfirst, t.expandWith_of_first hfirst⟩
    · cases hc.symm.trans he
  · refine ⟨fun hok => ?_, fun e he => ?_⟩
    · cases hc.symm.trans hok
    · cases hc.symm.trans he
      refine ⟨t.lookups, fault, hmalformed, rfl, fun params => ?_⟩
      rcases First.forall_or_exists (fun n => (params.get? n).isSome = true) t.lookups with
        hall | ⟨name, hfirst⟩
      · exact .inl ⟨hall, t.expandWith_of_check hc hall⟩
      · exact .inr ⟨name, hfirst, t.expandWith_of_first hfirst⟩

/-- A reference, and an opening that is never closed behind characters of two bytes each. -/
def Sample.opened : Template :=
  ⟨"ä\x7b\x7b params.b \x7d\x7dö\x7b\x7bparams.b"⟩

/-- The sample is at fault for its last opening, with eighteen bytes and sixteen characters in front
of it; without a value for the reference there it is the value that is missed. -/
theorem expand_fails_leftmost_sample :
    Sample.opened.check = .error (.malformed Sample.opened.text (.unclosed 18)) ∧
    (∃ names, Malformed Sample.opened.text.toList names (.unclosed 18)) ∧
    Sample.opened.expand .empty = .error (.missingReference Sample.opened.text "b") ∧
    Sample.opened.expand (.ofList [("b", "x")]) =
      .error (.malformed Sample.opened.text (.unclosed 18)) := by
  have hc : Sample.opened.check = .error (.malformed Sample.opened.text (.unclosed 18)) := by
    decide +kernel
  obtain ⟨names, fault, hmalformed, hfault, hexpand⟩ :=
    (expand_fails_leftmost Sample.opened).2 _ hc
  cases hfault
  exact ⟨hc, ⟨names, hmalformed⟩, by decide +kernel, by decide +kernel⟩

end Rollout.Template
