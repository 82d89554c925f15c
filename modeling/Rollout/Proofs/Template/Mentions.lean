import Rollout.Proofs.Template.Decomposition

/-!
# The references that are found and those that are looked up

The references of a template are found in two ways. Expansion cuts the text at its braces, and looks
up whatever stands behind `params.`. The search for mentions looks for whole references to
identifiers, wherever they begin. In a well-formed template the two go along the text side by side
(`sees`): they see the same references as long as names are identifiers, and where a looked-up name
is no identifier the search finds nothing, or another name inside that one.
-/

namespace Rollout.Template

open Rollout.Text

/-! ## The parts of a reference -/

/-- The characters of words lie between the digits and the letters. -/
theorem toNat_of_isWordChar {c : Char} (h : isWordChar c = true) :
    48 ≤ c.toNat ∧ c.toNat ≤ 122 := by
  -- the three classes of characters written out as ranges
  change ((decide ('A'.val ≤ c.val ∧ c.val ≤ 'Z'.val) || decide ('a'.val ≤ c.val) &&
    decide (c.val ≤ 'z'.val)) || decide ('0'.val ≤ c.val) && decide (c.val ≤ '9'.val) ||
    c == '_') = true at h
  simp only [Bool.or_eq_true, Bool.and_eq_true, decide_eq_true_eq, beq_iff_eq,
    UInt32.le_iff_toNat_le] at h
  rcases h with ((⟨h, h'⟩ | ⟨h, h'⟩) | ⟨h, h'⟩) | rfl
  · exact ⟨Nat.le_trans (by decide) h, Nat.le_trans h' (by decide)⟩
  · exact ⟨Nat.le_trans (by decide) h, Nat.le_trans h' (by decide)⟩
  · exact ⟨Nat.le_trans (by decide) h, Nat.le_trans h' (by decide)⟩
  · decide

/-- No character of a word is blank. -/
theorem isBlank_of_isWordChar {c : Char} (h : isWordChar c = true) : isBlank c = false := by
  have hc := toNat_of_isWordChar h
  cases hb : isBlank c with
  | false => rfl
  | true =>
    simp only [isBlank, Bool.or_eq_true, Bool.and_eq_true, decide_eq_true_eq, beq_iff_eq] at hb
    omega

theorem isWordChar_of_isBlank {c : Char} (h : isBlank c = true) : isWordChar c = false := by
  cases hw : isWordChar c with
  | false => rfl
  | true => simp [isBlank_of_isWordChar hw] at h

/-- An identifier holds characters of words only, and at least one. -/
theorem isWordChar_of_isIdentifier {name : List Char} (h : isIdentifier name = true) :
    name ≠ [] ∧ ∀ c ∈ name, isWordChar c = true := by
  cases name with
  | nil => cases h
  | cons c r =>
    simp only [isIdentifier, Bool.and_eq_true, List.all_eq_true] at h
    exact ⟨by simp, List.forall_mem_cons.2 ⟨h.1.1, h.2⟩⟩

/-- A key that is `params.` and a name, with blank characters around it. -/
def Refers (key name : List Char) : Prop :=
  ∃ front back, (∀ c ∈ front, isBlank c = true) ∧ (∀ c ∈ back, isBlank c = true) ∧
    key = front ++ (keyFront ++ name) ++ back

/-- A key that has a name refers to it. -/
theorem refers_of_nameOfKey {key : List Char} {name : String} (h : nameOfKey key = .ok name) :
    Refers key name.toList := by
  obtain ⟨front, back, hf, hb, hkey⟩ := exists_eq_append_trimChars key
  rw [(nameOfKey_eq_ok_iff.1 h).2] at hkey
  exact ⟨front, back, hf, hb, hkey⟩

/-- A key that refers to an identifier holds no brace. -/
theorem notMem_of_refers {key name : List Char} (h : Refers key name)
    (hname : isIdentifier name = true) : '\x7b' ∉ key ∧ '\x7d' ∉ key := by
  obtain ⟨front, back, hf, hb, rfl⟩ := h
  have hword := (isWordChar_of_isIdentifier hname).2
  have key (c : Char) (hblank : isBlank c = false) (hw : isWordChar c = false)
      (hfront : c ∉ keyFront) : c ∉ front ++ (keyFront ++ name) ++ back := by
    simp only [List.mem_append, not_or]
    refine ⟨⟨fun hc => ?_, hfront, fun hc => ?_⟩, fun hc => ?_⟩
    · exact absurd (hf c hc) (by simp [hblank])
    · exact absurd (hword c hc) (by simp [hw])
    · exact absurd (hb c hc) (by simp [hblank])
  exact ⟨key _ (by decide) (by decide) (by decide), key _ (by decide) (by decide) (by decide)⟩

/-- A mention is a whole reference whose key refers to an identifier. -/
theorem mention?_eq_some_iff {cs name rest : List Char} :
    mention? cs = some (name, rest) ↔ isIdentifier name = true ∧
      ∃ key, Refers key name ∧ cs = '\x7b' :: '\x7b' :: (key ++ '\x7d' :: '\x7d' :: rest) := by
  constructor
  · intro h
    unfold mention? at h
    split at h
    · rename_i r
      split at h
      · cases h
      · rename_i r' hfront
        simp only at h
        split at h
        · rename_i rest' hclose
          split at h
          · rename_i hname
            cases h
            refine ⟨hname, _, ⟨r.takeWhile isBlank, (r'.dropWhile isWordChar).takeWhile isBlank,
              List.all_eq_true.1 List.all_takeWhile, List.all_eq_true.1 List.all_takeWhile, rfl⟩,
              ?_⟩
            -- what was skipped and what is left make up the text again
            have h1 : r'.takeWhile isWordChar ++ ((r'.dropWhile isWordChar).takeWhile isBlank ++
                '\x7d' :: '\x7d' :: rest) = r' := by
              rw [← hclose, List.takeWhile_append_dropWhile, List.takeWhile_append_dropWhile]
            have h2 : r.takeWhile isBlank ++ (keyFront ++ r') = r := by
              rw [← afterFront_eq_some_iff.1 hfront, List.takeWhile_append_dropWhile]
            simp only [List.append_assoc, h1, h2]
          · cases h
        · cases h
    · cases h
  · rintro ⟨hname, _, ⟨front, back, hf, hb, rfl⟩, rfl⟩
    have hword := (isWordChar_of_isIdentifier hname).2
    have hblank : (front ++ (keyFront ++ name) ++ back ++ '\x7d' :: '\x7d' :: rest).dropWhile
        isBlank = keyFront ++ (name ++ (back ++ '\x7d' :: '\x7d' :: rest)) := by
      simp only [List.append_assoc, List.dropWhile_append_of_pos hf]
      rfl
    -- the word ends where the blank characters or the closing braces begin
    have hend : (back ++ '\x7d' :: '\x7d' :: rest).takeWhile isWordChar = [] ∧
        (back ++ '\x7d' :: '\x7d' :: rest).dropWhile isWordChar =
          back ++ '\x7d' :: '\x7d' :: rest := by
      cases back with
      | nil => exact ⟨rfl, rfl⟩
      | cons b back =>
        have hb' : isWordChar b = false := isWordChar_of_isBlank (hb b List.mem_cons_self)
        exact ⟨List.takeWhile_cons_of_neg (by simp [hb']),
          List.dropWhile_cons_of_neg (by simp [hb'])⟩
    unfold mention?
    simp only [hblank, afterFront_eq_some_iff.2 rfl, List.takeWhile_append_of_pos hword,
      List.dropWhile_append_of_pos hword, hend, List.append_nil,
      List.dropWhile_append_of_pos hb, hname, if_true]
    rfl

/-! ## Mentions along a text -/

theorem mentionsIn_of_mention {cs name rest : List Char} (h : mention? cs = some (name, rest)) :
    mentionsIn cs = String.ofList name :: mentionsIn rest := by
  rw [mentionsIn]
  split
  · rename_i heq
    cases h.symm.trans heq
    rfl
  · rename_i heq
    cases h.symm.trans heq

theorem mentionsIn_cons {c : Char} {cs : List Char} (h : mention? (c :: cs) = none) :
    mentionsIn (c :: cs) = mentionsIn cs := by
  rw [mentionsIn]
  split
  · rename_i heq
    cases h.symm.trans heq
  · rfl

theorem mentionsIn_nil : mentionsIn [] = [] := by
  rw [mentionsIn]
  rfl

/-- Only a pair of opening braces begins a mention. -/
theorem mention?_of_ne {c : Char} (h : c ≠ '\x7b') (cs : List Char) :
    mention? (c :: cs) = none := by
  unfold mention?
  split
  · rename_i heq
    cases heq
    exact absurd rfl h
  · rfl

theorem mention?_of_ne_next {c d : Char} (h : ¬ (c = '\x7b' ∧ d = '\x7b')) (cs : List Char) :
    mention? (c :: d :: cs) = none := by
  unfold mention?
  split
  · rename_i heq
    cases heq
    exact absurd ⟨rfl, rfl⟩ h
  · rfl

/-- Without a pair of opening braces there are no mentions. -/
theorem mentionsIn_of_cutAtPair_eq_none {cs : List Char} (h : cutAtPair '\x7b' cs = none) :
    mentionsIn cs = [] := by
  fun_induction cutAtPair '\x7b' cs with
  | case1 => exact mentionsIn_nil
  | case2 c =>
    have hnone : mention? [c] = none := by
      unfold mention?
      split
      · rename_i heq
        cases heq
      · rfl
    rw [mentionsIn_cons hnone, mentionsIn_nil]
  | case3 => cases h
  | case4 c d r hcd ih =>
    rw [mentionsIn_cons (mention?_of_ne_next hcd r)]
    exact ih (Option.map_eq_none_iff.1 h)

/-- The mentions of a text begin at its first pair of opening braces. -/
theorem mentionsIn_of_cutAtPair {cs before inner : List Char}
    (h : cutAtPair '\x7b' cs = some (before, inner)) :
    mentionsIn cs = mentionsIn ('\x7b' :: '\x7b' :: inner) := by
  fun_induction cutAtPair '\x7b' cs generalizing before with
  | case1 => cases h
  | case2 => cases h
  | case3 c d r hcd =>
    obtain ⟨rfl, rfl⟩ := hcd
    cases h
    rfl
  | case4 c d r hcd ih =>
    simp only [Option.map_eq_some_iff, Prod.exists, Prod.mk.injEq] at h
    obtain ⟨before', inner', hcut, -, rfl⟩ := h
    rw [mentionsIn_cons (mention?_of_ne_next hcd r), ih hcut]

/-- Another character in front of a text does not move its first pair of marks. -/
theorem cutAtPair_cons {mark c : Char} {cs p q : List Char} (hc : c ≠ mark)
    (h : cutAtPair mark cs = some (p, q)) : cutAtPair mark (c :: cs) = some (c :: p, q) := by
  cases cs with
  | nil => cases h
  | cons d r => rw [cutAtPair, if_neg fun hm => hc hm.1, h, Option.map_some]

/-- The first pair of marks stands behind characters that are no marks. -/
theorem cutAtPair_append {mark : Char} {p : List Char} (h : mark ∉ p) (q : List Char) :
    cutAtPair mark (p ++ mark :: mark :: q) = some (p, q) := by
  induction p with
  | nil => simp [cutAtPair]
  | cons c r ih =>
    simp only [List.mem_cons, not_or] at h
    exact cutAtPair_cons (Ne.symm h.1) (ih h.2)

/-- A mention ends at the first pair of closing braces behind its opening. -/
theorem cutAtPair_of_mention {cs name rest : List Char} (h : mention? cs = some (name, rest)) :
    ∃ key, Refers key name ∧ cutAtPair '\x7d' cs = some ('\x7b' :: '\x7b' :: key, rest) := by
  obtain ⟨hname, key, hkey, rfl⟩ := mention?_eq_some_iff.1 h
  refine ⟨key, hkey, cutAtPair_append (p := '\x7b' :: '\x7b' :: key) ?_ rest⟩
  simpa using (notMem_of_refers hkey hname).2

/-- At most one mention begins in front of a pair of closing braces and ends there. -/
theorem mentionsIn_of_cutAtPair_close {cs key rest : List Char}
    (h : cutAtPair '\x7d' cs = some (key, rest)) :
    mentionsIn cs = mentionsIn rest ∨ ∃ name, mentionsIn cs = name :: mentionsIn rest := by
  fun_induction cutAtPair '\x7d' cs generalizing key with
  | case1 => cases h
  | case2 => cases h
  | case3 c d r hcd =>
    obtain ⟨rfl, rfl⟩ := hcd
    cases h
    rw [mentionsIn_cons (mention?_of_ne (by decide) _),
      mentionsIn_cons (mention?_of_ne (by decide) _)]
    exact .inl rfl
  | case4 c d r hcd ih =>
    cases hmention : mention? (c :: d :: r) with
    | none =>
      simp only [Option.map_eq_some_iff, Prod.exists, Prod.mk.injEq] at h
      obtain ⟨key', rest', hcut, -, rfl⟩ := h
      rw [mentionsIn_cons hmention]
      exact ih hcut
    | some found =>
      obtain ⟨name, rest'⟩ := found
      obtain ⟨key', -, hcut⟩ := cutAtPair_of_mention hmention
      rw [cutAtPair, if_neg hcd] at hcut
      cases h.symm.trans hcut
      exact .inr ⟨_, mentionsIn_of_mention hmention⟩

/-! ## Two ways along a template -/

/-- What the search for mentions makes of the names that are looked up: it finds those that are
identifiers, and in the place of any other it finds nothing or some other name. -/
inductive Sees : List String → List String → Prop
  | nil : Sees [] []
  | found {name : String} {looked mentioned : List String}
    (h : isIdentifier name.toList = true) (r : Sees looked mentioned) :
    Sees (name :: looked) (name :: mentioned)
  | passed {name : String} {looked mentioned : List String}
    (h : isIdentifier name.toList = false) (r : Sees looked mentioned) :
    Sees (name :: looked) mentioned
  | mistaken {name : String} {looked mentioned : List String}
    (h : isIdentifier name.toList = false) (other : String) (r : Sees looked mentioned) :
    Sees (name :: looked) (other :: mentioned)

namespace Sees

variable {looked mentioned : List String} {name : String}

/-- A name that is looked up is mentioned if it is an identifier. -/
theorem mem_mentioned (h : Sees looked mentioned) (hmem : name ∈ looked)
    (hname : isIdentifier name.toList = true) : name ∈ mentioned := by
  induction h with
  | nil => exact hmem
  | found _ _ ih =>
    rcases List.mem_cons.1 hmem with rfl | hmem
    · exact List.mem_cons_self
    · exact List.mem_cons_of_mem _ (ih hmem)
  | passed hn _ ih =>
    rcases List.mem_cons.1 hmem with rfl | hmem
    · simp [hname] at hn
    · exact ih hmem
  | mistaken hn _ _ ih =>
    rcases List.mem_cons.1 hmem with rfl | hmem
    · simp [hname] at hn
    · exact List.mem_cons_of_mem _ (ih hmem)

/-- A name that is mentioned is looked up, unless some name that is looked up is no identifier. -/
theorem mem_looked (h : Sees looked mentioned) (hmem : name ∈ mentioned) :
    name ∈ looked ∨ ∃ other ∈ looked, isIdentifier other.toList = false := by
  have hmore {name' : String} {looked' : List String}
      (h' : name ∈ looked' ∨ ∃ other ∈ looked', isIdentifier other.toList = false) :
      name ∈ name' :: looked' ∨ ∃ other ∈ name' :: looked', isIdentifier other.toList = false :=
    h'.imp (List.mem_cons_of_mem _) fun ⟨other, ho, hid⟩ =>
      ⟨other, List.mem_cons_of_mem _ ho, hid⟩
  induction h with
  | nil => exact .inl hmem
  | found _ _ ih =>
    rcases List.mem_cons.1 hmem with rfl | hmem
    · exact .inl List.mem_cons_self
    · exact hmore (ih hmem)
  | passed hn _ _ => exact .inr ⟨_, List.mem_cons_self, hn⟩
  | mistaken hn _ _ _ => exact .inr ⟨_, List.mem_cons_self, hn⟩

end Sees

/-- Along a text whose references are closed and have names. -/
theorem sees_layoutFrom {offset : Nat} {cs : List Char}
    (hnames : ∃ names, namesOfKeys (layoutFrom offset cs).references = .ok names)
    (hclosed : (layoutFrom offset cs).unclosed = none) :
    Sees (lookupsIn (layoutFrom offset cs).references) (mentionsIn cs) := by
  fun_induction layoutFrom offset cs with
  | case1 offset cs hcut =>
    rw [mentionsIn_of_cutAtPair_eq_none hcut]
    exact .nil
  | case2 => cases hclosed
  | case3 offset cs before inner hopen key rest hclose more ih =>
    obtain ⟨names, hnames⟩ := hnames
    cases hkey : nameOfKey key with
    | error fault => simp [namesOfKeys, hkey] at hnames
    | ok name =>
      have hmore : ∃ names, namesOfKeys more.references = .ok names := by
        cases hm : namesOfKeys more.references with
        | error fault => simp [namesOfKeys, hkey, hm] at hnames
        | ok names => exact ⟨names, rfl⟩
      have ih := ih hmore hclosed
      rw [mentionsIn_of_cutAtPair hopen]
      simp only [lookupsIn, hkey]
      cases hid : isIdentifier name.toList with
      | true =>
        -- the reference at which expansion stands is a mention, and both go on behind it
        have hmention : mention? ('\x7b' :: '\x7b' :: inner) = some (name.toList, rest) :=
          mention?_eq_some_iff.2 ⟨hid, key, refers_of_nameOfKey hkey,
            by rw [cutAtPair_eq_some hclose]⟩
        rw [mentionsIn_of_mention hmention, String.ofList_toList]
        exact .found hid ih
      | false =>
        have hclose' : cutAtPair '\x7d' ('\x7b' :: '\x7b' :: inner) =
            some ('\x7b' :: '\x7b' :: key, rest) :=
          cutAtPair_cons (by decide) (cutAtPair_cons (by decide) hclose)
        rcases mentionsIn_of_cutAtPair_close hclose' with h | ⟨other, h⟩
        · rw [h]
          exact .passed hid ih
        · rw [h]
          exact .mistaken hid other ih

/-- In a well-formed template the search for mentions sees what expansion looks up. -/
theorem sees {t : Template} (h : t.check = .ok ()) : Sees t.lookups t.mentions := by
  unfold check names at h
  cases hnames : namesOfKeys t.layout.references with
  | error fault => simp [hnames] at h
  | ok names =>
    cases hopen : t.layout.unclosed with
    | some position => simp [hnames, hopen] at h
    | none => exact sees_layoutFrom ⟨names, hnames⟩ hopen

end Rollout.Template
