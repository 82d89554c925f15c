import Mathlib.Data.List.Basic
import Rollout.Path
import Rollout.Proofs.Text.Cut

/-!
# Paths in normal form

A reference to a file is read part by part onto the parts that are kept (`Reads`): an empty part and
`.` are dropped, a name is kept, and `..` takes back a name, is dropped at the root, and is kept
where there is nothing to take back. What is kept is a run of `..`, which is empty below the root,
and then names (`Tidy`). Its text is read as the very parts that it was made of
(`foldl_parts_ofParts`), so one reference after the other leads to where both in one lead
(`resolve_normal`).
-/

namespace Rollout.Path

open Rollout.Text

/-- A path that is kept as it is written: one that begins with a slash, with two backslashes, or
with a letter of ASCII, a colon and a separator. -/
inductive Rooted : List Char → Prop
  | absolute (r : List Char) : Rooted ('/' :: r)
  | share (r : List Char) : Rooted ('\\' :: '\\' :: r)
  | drive {c s : Char} (r : List Char) (hc : ('a' ≤ c ∧ c ≤ 'z') ∨ ('A' ≤ c ∧ c ≤ 'Z'))
    (hs : s = '\\' ∨ s = '/') : Rooted (c :: ':' :: s :: r)

/-- A part that names a file or a folder. -/
def IsName (part : String) : Prop :=
  part ≠ "" ∧ part ≠ "." ∧ part ≠ ".."

/-- How a part is read onto the parts that are kept, the outermost first. -/
inductive Reads (absolute : Bool) : List String → String → List String → Prop
  | idle {kept : List String} {part : String} (h : part = "" ∨ part = ".") :
    Reads absolute kept part kept
  | name {kept : List String} {part : String} (h : IsName part) :
    Reads absolute kept part (kept ++ [part])
  /-- `..` takes back a name. -/
  | back {kept : List String} {name : String} (h : name ≠ "..") :
    Reads absolute (kept ++ [name]) ".." kept
  /-- `..` is dropped at the root. -/
  | root (h : absolute = true) : Reads absolute [] ".." []
  /-- `..` is kept where there is no name to take back. -/
  | keep {kept : List String} (h : kept = [] ∧ absolute = false ∨ kept.getLast? = some "..") :
    Reads absolute kept ".." (kept ++ [".."])

/-- How parts are read from the left. -/
inductive ReadsAll (absolute : Bool) : List String → List String → List String → Prop
  | nil (kept : List String) : ReadsAll absolute kept [] kept
  | cons {kept kept' kept'' : List String} {part : String} {parts : List String}
    (h : Reads absolute kept part kept') (hr : ReadsAll absolute kept' parts kept'') :
    ReadsAll absolute kept (part :: parts) kept''

/-- A path in normal form. -/
structure Normal (absolute : Bool) (path : String) : Prop where
  isAbsolute_eq : isAbsolute path = absolute
  /-- There is no `.` in it but the path that is nothing else. -/
  here : "." ∈ parts path → path = "."
  /-- No `..` stands below the root. -/
  below : absolute = true → ".." ∉ parts path
  /-- All `..` stand in front. -/
  front : ∃ k names, parts path = List.replicate k ".." ++ names ∧ ".." ∉ names

/-! ## Parts -/

/-- The three kinds of paths that are kept as written are the ones that are told by their first
letters. -/
theorem isRooted_iff (path : String) : isRooted path = true ↔ Rooted path.toList := by
  have halpha (c : Char) :
      c.isAlpha = true ↔ ('a' ≤ c ∧ c ≤ 'z') ∨ ('A' ≤ c ∧ c ≤ 'Z') := by
    -- the two classes of letters written out as ranges
    change (decide ('A'.val ≤ c.val ∧ c.val ≤ 'Z'.val) ||
      decide ('a'.val ≤ c.val) && decide (c.val ≤ 'z'.val)) = true ↔ _
    simp only [Bool.or_eq_true, Bool.and_eq_true, decide_eq_true_eq]
    exact or_comm
  unfold isRooted
  constructor
  · intro h
    split at h
    · rename_i r he
      exact he ▸ .absolute r
    · rename_i r he
      exact he ▸ .share r
    · rename_i c s r _ he
      simp only [Bool.and_eq_true, Bool.or_eq_true, beq_iff_eq, halpha] at h
      exact he ▸ .drive r h.1 h.2
    · cases h
  · generalize path.toList = cs
    intro h
    cases h with
    | absolute r => rfl
    | share r => rfl
    | drive r hc hs =>
      split
      · rfl
      · rfl
      · rename_i he
        simp_all
      · rename_i hno
        exact absurd rfl (hno _ _ _)

/-- A slash between two texts ends a part. -/
theorem parts_append (path next : String) :
    parts (path ++ "/" ++ next) = parts path ++ parts next := by
  have htext : (path ++ "/" ++ next).toList = path.toList ++ '/' :: next.toList := by
    simp [String.toList_append]
  rw [parts, htext, fields_append, List.map_append]
  rfl

/-- No part has a slash in it. -/
theorem notMem_of_mem_parts {path part : String} (h : part ∈ parts path) :
    '/' ∉ part.toList := by
  obtain ⟨f, hf, rfl⟩ := List.mem_map.1 h
  rw [String.toList_ofList]
  exact notMem_of_mem_fields hf

/-- Parts without slashes, put together by slashes, are found again. -/
theorem parts_intercalate {l : List String} (hne : l ≠ []) (h : ∀ part ∈ l, '/' ∉ part.toList) :
    parts ("/".intercalate l) = l := by
  have hslash : "/".toList = ['/'] := rfl
  have hparts : ∀ f ∈ l.map String.toList, '/' ∉ f := by simpa using h
  rw [parts, String.toList_intercalate, hslash, fields_intercalate (by simpa using hne) hparts]
  simp [Function.comp_def]

/-! ## Reading -/

variable {absolute : Bool} {kept kept' ps : List String} {part : String}

/-- An empty part and `.` leave what is kept as it is. -/
theorem readPart_of_idle (h : part = "" ∨ part = ".") : readPart absolute kept part = kept := by
  unfold readPart
  rw [if_pos h]

/-- A name is put on top of what is kept. -/
theorem readPart_of_isName (h : IsName part) : readPart absolute kept part = part :: kept := by
  unfold readPart
  rw [if_neg (not_or.2 ⟨h.1, h.2.1⟩), if_neg h.2.2]

/-- What `..` does depends on the top of what is kept, and at the bottom on the root. -/
theorem readPart_up : readPart absolute kept ".." =
    match kept with
    | [] => if absolute then [] else [".."]
    | last :: before => if last = ".." then ".." :: last :: before else before := by
  unfold readPart
  exact (if_neg (by decide)).trans (if_pos rfl)

/-- Parts are read onto a stack, the innermost on top. -/
theorem reads_iff : Reads absolute kept part kept' ↔
    kept'.reverse = readPart absolute kept.reverse part := by
  constructor
  · intro h
    cases h with
    | idle h => rw [readPart_of_idle h]
    | name h => rw [readPart_of_isName h, List.reverse_concat]
    | back h => simp [readPart_up, h]
    | root h => simp [readPart_up, h]
    | keep h =>
      rcases h with ⟨rfl, rfl⟩ | h
      · simp [readPart_up]
      · obtain ⟨before, rfl⟩ := List.getLast?_eq_some_iff.1 h
        simp [readPart_up]
  · intro h
    by_cases hidle : part = "" ∨ part = "."
    · rw [readPart_of_idle hidle, List.reverse_inj] at h
      exact h ▸ .idle hidle
    · obtain ⟨hempty, hdot⟩ := not_or.1 hidle
      by_cases hup : part = ".."
      · subst hup
        rw [readPart_up] at h
        obtain rfl | ⟨before, last, rfl⟩ := List.eq_nil_or_concat' kept
        · cases absolute with
          | true =>
            obtain rfl : kept' = [] := by simpa using h
            exact .root rfl
          | false =>
            obtain rfl : kept' = [".."] := by simpa using h
            exact .keep (.inl ⟨rfl, rfl⟩)
        · by_cases hlast : last = ".."
          · subst hlast
            obtain rfl : kept' = before ++ [".."] ++ [".."] := by
              rw [← List.reverse_inj, h]
              simp
            exact .keep (.inr (by simp))
          · obtain rfl : kept' = before := by
              rw [← List.reverse_inj, h]
              simp [hlast]
            exact .back hlast
      · have hname : IsName part := ⟨hempty, hdot, hup⟩
        rw [readPart_of_isName hname] at h
        obtain rfl : kept' = kept ++ [part] := by
          rw [← List.reverse_inj, h, List.reverse_concat]
        exact .name hname

/-- Reading from the left is a fold over the parts. -/
theorem readsAll_iff : ReadsAll absolute kept ps kept' ↔
    kept'.reverse = ps.foldl (readPart absolute) kept.reverse := by
  induction ps generalizing kept with
  | nil =>
    rw [List.foldl_nil, List.reverse_inj]
    exact ⟨fun h => by cases h; rfl, fun h => h ▸ .nil _⟩
  | cons part r ih =>
    constructor
    · intro h
      cases h with
      | cons h hr => rw [List.foldl_cons, ← reads_iff.1 h, ih.1 hr]
    · intro h
      have hstep : Reads absolute kept part (readPart absolute kept.reverse part).reverse :=
        reads_iff.2 (List.reverse_reverse _)
      refine .cons hstep (ih.2 ?_)
      rw [List.reverse_reverse, h, List.foldl_cons]

/-! ## What is kept -/

/-- A stack of names upon a run of `..`, which is empty below the root. -/
def Tidy (absolute : Bool) (stack : List String) : Prop :=
  ∃ names k, stack = names ++ List.replicate k ".." ∧
    (∀ name ∈ names, IsName name ∧ '/' ∉ name.toList) ∧ (absolute = true → k = 0)

variable {stack : List String}

theorem Tidy.nil (absolute : Bool) : Tidy absolute [] :=
  ⟨[], 0, rfl, by simp, fun _ => rfl⟩

/-- A part without slashes keeps the stack tidy, whatever it is. -/
theorem Tidy.readPart (h : Tidy absolute stack) (hpart : '/' ∉ part.toList) :
    Tidy absolute (readPart absolute stack part) := by
  obtain ⟨names, k, rfl, hnames, hk⟩ := h
  by_cases hidle : part = "" ∨ part = "."
  · rw [readPart_of_idle hidle]
    exact ⟨names, k, rfl, hnames, hk⟩
  · obtain ⟨hempty, hdot⟩ := not_or.1 hidle
    by_cases hup : part = ".."
    · subst hup
      rw [readPart_up]
      cases names with
      | cons name r =>
        obtain ⟨hname, hr⟩ := List.forall_mem_cons.1 hnames
        simp only [List.cons_append, if_neg hname.1.2.2]
        exact ⟨r, k, rfl, hr, hk⟩
      | nil =>
        cases k with
        | zero =>
          cases absolute with
          | true => exact .nil true
          | false => exact ⟨[], 1, rfl, by simp, by simp⟩
        | succ k => exact ⟨[], k + 2, rfl, by simp, fun h => by cases hk h⟩
    · have hname : IsName part := ⟨hempty, hdot, hup⟩
      rw [readPart_of_isName hname]
      exact ⟨part :: names, k, rfl, List.forall_mem_cons.2 ⟨⟨hname, hpart⟩, hnames⟩, hk⟩

/-- Whatever parts are read, the stack stays tidy. -/
theorem Tidy.foldl (h : Tidy absolute stack) (hps : ∀ part ∈ ps, '/' ∉ part.toList) :
    Tidy absolute (ps.foldl (Path.readPart absolute) stack) := by
  induction ps generalizing stack with
  | nil => exact h
  | cons part r ih =>
    obtain ⟨hpart, hr⟩ := List.forall_mem_cons.1 hps
    exact ih (h.readPart hpart) hr

/-- What is kept is read as itself. -/
theorem Tidy.foldl_reverse (h : Tidy absolute stack) :
    stack.reverse.foldl (Path.readPart absolute) [] = stack := by
  obtain ⟨names, k, rfl, hnames, hk⟩ := h
  -- below the root there is no run, elsewhere each `..` of it is kept upon the one before
  have hrun : (List.replicate k "..").foldl (Path.readPart absolute) [] =
      List.replicate k ".." := by
    cases absolute with
    | true => rw [hk rfl]; rfl
    | false =>
      clear hk
      induction k with
      | zero => rfl
      | succ k ih =>
        rw [List.replicate_succ', List.foldl_concat, ih, ← List.replicate_succ', readPart_up]
        cases k with
        | zero => rfl
        | succ k => simp [List.replicate_succ]
  rw [List.reverse_append, List.foldl_append, List.reverse_replicate, hrun]
  induction names with
  | nil => rfl
  | cons name r ih =>
    obtain ⟨hname, hr⟩ := List.forall_mem_cons.1 hnames
    rw [List.reverse_cons, List.foldl_concat, ih hr, readPart_of_isName hname.1]
    rfl

/-- No part that is kept has a slash in it. -/
theorem Tidy.notMem (h : Tidy absolute stack) : ∀ part ∈ stack, '/' ∉ part.toList := by
  obtain ⟨names, k, rfl, hnames, -⟩ := h
  intro part hpart
  rcases List.mem_append.1 hpart with hpart | hpart
  · exact (hnames part hpart).2
  · rw [List.eq_of_mem_replicate hpart]
    decide

/-- Nothing is kept that would be dropped when it is read again. -/
theorem Tidy.ne_idle (h : Tidy absolute stack) : ∀ part ∈ stack, part ≠ "" ∧ part ≠ "." := by
  obtain ⟨names, k, rfl, hnames, -⟩ := h
  intro part hpart
  rcases List.mem_append.1 hpart with hpart | hpart
  · exact ⟨(hnames part hpart).1.1, (hnames part hpart).1.2.1⟩
  · rw [List.eq_of_mem_replicate hpart]
    decide

/-! ## The text of what is kept -/

/-- A slash in front of a text is an empty first part. -/
theorem parts_slash (path : String) : parts ("/" ++ path) = "" :: parts path := by
  rw [← String.empty_append (s := "/"), parts_append]
  rfl

/-- The parts of a text are the ones that it was made of, but for an empty one in front of the root
and a `.` in the place of none. -/
theorem parts_ofParts (h : Tidy absolute stack) : parts (ofParts absolute stack.reverse) =
    if absolute then "" :: (if stack = [] then [""] else stack.reverse)
    else if stack = [] then ["."] else stack.reverse := by
  have hkept : stack ≠ [] → parts ("/".intercalate stack.reverse) = stack.reverse := fun hne =>
    parts_intercalate (by simpa using hne) fun part hpart =>
      h.notMem part (List.mem_reverse.1 hpart)
  unfold ofParts
  cases absolute with
  | true =>
    rw [if_pos rfl, if_pos rfl, parts_slash]
    split
    · subst stack
      rfl
    · rw [hkept ‹_›]
  | false =>
    rw [if_neg Bool.false_ne_true, if_neg Bool.false_ne_true]
    split
    · rename_i hnil
      obtain rfl : stack = [] := by simpa using hnil
      rfl
    · rename_i hne
      have hne : stack ≠ [] := by simpa using hne
      rw [if_neg hne, hkept hne]

/-- The text of what is kept is read as what was kept. -/
theorem foldl_parts_ofParts (h : Tidy absolute stack) :
    (parts (ofParts absolute stack.reverse)).foldl (readPart absolute) [] = stack := by
  have hread := h.foldl_reverse
  rw [parts_ofParts h]
  by_cases hnil : stack = []
  · subst hnil
    cases absolute <;> simp [readPart_of_idle]
  · cases absolute <;> simpa [hnil, readPart_of_idle] using hread

/-- A path is absolute if its first part is empty and not the only one. -/
theorem isAbsolute_iff (path : String) :
    isAbsolute path = true ↔ ∃ r, parts path = "" :: r ∧ r ≠ [] := by
  unfold isAbsolute parts
  rw [decide_eq_true_iff]
  cases path.toList with
  | nil => simp [fields]
  | cons c r =>
    by_cases hc : c = '/'
    · simp [fields, hc, fields_ne_nil]
    · cases hf : fields '/' r with
      | nil => exact absurd hf (fields_ne_nil '/' r)
      | cons f fs => simp [fields, hc, hf, ← String.toList_inj]

/-- The text of what is kept is absolute if it was put together at the root. -/
theorem isAbsolute_ofParts (h : Tidy absolute stack) :
    isAbsolute (ofParts absolute stack.reverse) = absolute := by
  have hparts := parts_ofParts h
  cases absolute with
  | true =>
    refine (isAbsolute_iff _).2 ⟨_, hparts, ?_⟩
    split
    · simp
    · simpa using ‹_›
  | false =>
    rw [← Bool.not_eq_true, isAbsolute_iff]
    rintro ⟨r, hr, hne⟩
    rw [hparts, if_neg Bool.false_ne_true] at hr
    split at hr
    · exact absurd (List.cons.inj hr).1 (by decide)
    · have hmem : "" ∈ stack := by
        rw [← List.mem_reverse, hr]
        exact List.mem_cons_self
      exact (h.ne_idle "" hmem).1 rfl

/-- The text of what is kept is in normal form. -/
theorem Tidy.normal (h : Tidy absolute stack) :
    Normal absolute (ofParts absolute stack.reverse) := by
  have hparts := parts_ofParts h
  have hidle := h.ne_idle
  obtain ⟨names, k, hstack, hnames, hk⟩ := id h
  have hup : ".." ∉ names := fun hmem => (hnames ".." hmem).1.2.2 rfl
  refine ⟨isAbsolute_ofParts h, fun hmem => ?_, fun habs => ?_, ?_⟩
  · rw [hparts] at hmem
    split at hmem
    · rcases List.mem_cons.1 hmem with hmem | hmem
      · exact absurd hmem (by decide)
      · split at hmem
        · simp at hmem
        · exact absurd rfl (hidle "." (List.mem_reverse.1 hmem)).2
    · rename_i habs
      split at hmem
      · rename_i hnil
        rw [Bool.eq_false_iff.2 habs, hnil]
        rfl
      · exact absurd rfl (hidle "." (List.mem_reverse.1 hmem)).2
  · obtain rfl := hk habs
    rw [hparts, if_pos habs, hstack]
    split <;> simp [hup]
  · rw [hparts]
    cases absolute with
    | true =>
      obtain rfl := hk rfl
      refine ⟨0, _, rfl, ?_⟩
      rw [hstack]
      split <;> simp [hup]
    | false =>
      rw [if_neg Bool.false_ne_true, hstack]
      split
      · exact ⟨0, ["."], rfl, by decide⟩
      · exact ⟨k, names.reverse, by simp, by simpa using hup⟩

/-! ## References -/

variable {base path next : String}

/-- An absolute path is rooted. -/
theorem isAbsolute_of_not_rooted (h : ¬ Rooted path.toList) : isAbsolute path = false := by
  rw [← Bool.not_eq_true, isAbsolute, decide_eq_true_iff]
  intro hhead
  obtain ⟨r, hr⟩ := List.head?_eq_some_iff.1 hhead
  exact h (hr ▸ .absolute r)

/-- A path that is empty or ends in a slash has an empty last part. -/
theorem parts_append_of_slash (path : String)
    (h : base = "" ∨ base.toList.getLast? = some '/') :
    ∃ l, parts base = l ++ [""] ∧ parts (base ++ path) = l ++ parts path := by
  rcases h with rfl | h
  · exact ⟨[], rfl, by rw [String.empty_append, List.nil_append]⟩
  · obtain ⟨cs, hcs⟩ := List.getLast?_eq_some_iff.1 h
    refine ⟨(fields '/' cs).map String.ofList, ?_, ?_⟩
    · rw [parts, hcs, fields_append, List.map_append]
      rfl
    · rw [parts, String.toList_append, hcs, List.append_assoc, List.singleton_append,
        fields_append, List.map_append]
      rfl

/-- A path that is not absolute is appended as it is or behind a slash that was missing. -/
theorem join_cases (base : String) (h : isAbsolute path = false) :
    ((base = "" ∨ base.toList.getLast? = some '/') ∧ join base path = base ++ path) ∨
      (base ≠ "" ∧ join base path = base ++ "/" ++ path) := by
  unfold join
  simp only [h, Bool.false_or, String.isEmpty_iff]
  split
  · subst base
    exact .inl ⟨.inl rfl, String.empty_append.symm⟩
  · rename_i hne
    split
    · exact .inl ⟨.inr ‹_›, rfl⟩
    · exact .inr ⟨hne, rfl⟩

/-- What is appended to a path does not change whether it is absolute. -/
theorem isAbsolute_append (h : base ≠ "") : isAbsolute (base ++ path) = isAbsolute base := by
  rw [Ne, ← String.toList_inj] at h
  obtain ⟨c, r, hcr⟩ := List.exists_cons_of_ne_nil h
  simp [isAbsolute, hcr]

/-- A path joined with one that is not absolute is absolute if it was before. -/
theorem isAbsolute_join (h : isAbsolute path = false) :
    isAbsolute (join base path) = isAbsolute base := by
  rcases join_cases base h with ⟨-, hjoin⟩ | ⟨hne, hjoin⟩
  · rw [hjoin]
    by_cases hne : base = ""
    · rw [hne, String.empty_append, h]
      rfl
    · exact isAbsolute_append hne
  · rw [hjoin, String.append_assoc, isAbsolute_append hne]

/-- Joining paths is reading the parts of the one after the parts of the other. -/
theorem foldl_parts_join (h : isAbsolute path = false) :
    (parts (join base path)).foldl (readPart absolute) [] =
      (parts base ++ parts path).foldl (readPart absolute) [] := by
  rcases join_cases base h with ⟨hbase, hjoin⟩ | ⟨-, hjoin⟩
  · obtain ⟨l, hl, happend⟩ := parts_append_of_slash path hbase
    rw [hjoin, happend, hl, List.foldl_append, List.foldl_append, List.foldl_append,
      List.foldl_cons, readPart_of_idle (.inl rfl), List.foldl_nil]
  · rw [hjoin, parts_append]

/-- What is kept of a reference from a base path, the innermost on top. -/
def stackOf (base path : String) : List String :=
  (parts base ++ parts path).foldl (readPart (isAbsolute base)) []

/-- What is kept of a reference is tidy. -/
theorem tidy_stackOf (base path : String) : Tidy (isAbsolute base) (stackOf base path) := by
  refine (Tidy.nil _).foldl fun part hpart => ?_
  rcases List.mem_append.1 hpart with hpart | hpart
  · exact notMem_of_mem_parts hpart
  · exact notMem_of_mem_parts hpart

/-- A rooted reference does not look at the base path. -/
theorem resolve_of_rooted (h : Rooted path.toList) : resolve base path = path := by
  rw [resolve, if_pos ((isRooted_iff path).2 h)]

/-- Any other reference is the text of what is kept of the parts of both. -/
theorem resolve_of_not_rooted (h : ¬ Rooted path.toList) :
    resolve base path = ofParts (isAbsolute base) (stackOf base path).reverse := by
  have habs := isAbsolute_of_not_rooted h
  rw [resolve, if_neg (mt (isRooted_iff path).1 h), normalize, normalParts, isAbsolute_join habs,
    foldl_parts_join habs, stackOf]

/-- One reference after the other leads to where both in one lead. -/
theorem resolve_slash (hpath : ¬ Rooted path.toList) (hnext : ¬ Rooted next.toList)
    (hboth : ¬ Rooted (path ++ "/" ++ next).toList) :
    resolve base (path ++ "/" ++ next) = resolve (resolve base path) next := by
  have htidy := tidy_stackOf base path
  rw [resolve_of_not_rooted hboth, resolve_of_not_rooted hnext, resolve_of_not_rooted hpath,
    isAbsolute_ofParts htidy]
  congr 2
  -- both read `next` onto what is kept of the first reference, which its text gives back
  calc stackOf base (path ++ "/" ++ next)
      = (parts next).foldl (readPart (isAbsolute base)) (stackOf base path) := by
        rw [stackOf, parts_append, ← List.append_assoc, List.foldl_append, stackOf]
    _ = stackOf (ofParts (isAbsolute base) (stackOf base path).reverse) next := by
        conv_rhs => rw [stackOf, List.foldl_append, isAbsolute_ofParts htidy,
          foldl_parts_ofParts htidy]

/-- A rooted reference is kept as it is written. Any other is the normal form of the base path and
the reference: what is kept of their parts when they are read from the left. It is absolute if the
base path is, and a reference below it is the reference from it. -/
theorem resolve_normal (base path : String) :
    (Rooted path.toList → resolve base path = path) ∧
    (¬ Rooted path.toList →
      Normal (isAbsolute base) (resolve base path) ∧
      (∃ kept, (∀ kept', ReadsAll (isAbsolute base) [] (parts base ++ parts path) kept' ↔
          kept' = kept) ∧
        resolve base path = ofParts (isAbsolute base) kept) ∧
      ∀ next, ¬ Rooted next.toList → ¬ Rooted (path ++ "/" ++ next).toList →
        resolve base (path ++ "/" ++ next) = resolve (resolve base path) next) := by
  refine ⟨resolve_of_rooted, fun hpath => ⟨?_, ⟨(stackOf base path).reverse, ?_, ?_⟩, ?_⟩⟩
  · rw [resolve_of_not_rooted hpath]
    exact (tidy_stackOf base path).normal
  · intro kept'
    rw [readsAll_iff, ← List.reverse_eq_iff]
    rfl
  · exact resolve_of_not_rooted hpath
  · exact fun next => resolve_slash hpath

/-- A path with a drive is kept as it is written. A reference with `..` in front leaves the last
folder of the base path and loses its empty part, and one below it leads on from there. -/
theorem resolve_normal_sample :
    Rooted "C:/data".toList ∧ resolve "/deploy" "C:/data" = "C:/data" ∧
    ¬ Rooted "../sql//x".toList ∧ resolve "/deploy" "../sql//x" = "/sql/x" ∧
    Normal true (resolve "/deploy" "../sql//x") ∧
    ¬ Rooted "./../y".toList ∧ ¬ Rooted ("../sql//x" ++ "/" ++ "./../y").toList ∧
    resolve "/deploy" ("../sql//x" ++ "/" ++ "./../y") = resolve "/sql/x" "./../y" := by
  have hrooted : Rooted "C:/data".toList := (isRooted_iff _).1 (by decide)
  have hpath : ¬ Rooted "../sql//x".toList := mt (isRooted_iff _).2 (by decide)
  have hnext : ¬ Rooted "./../y".toList := mt (isRooted_iff _).2 (by decide)
  have hboth : ¬ Rooted ("../sql//x" ++ "/" ++ "./../y").toList :=
    mt (isRooted_iff _).2 (by decide)
  have hresolve : resolve "/deploy" "../sql//x" = "/sql/x" := by decide
  obtain ⟨hnormal, -, hslash⟩ := (resolve_normal "/deploy" "../sql//x").2 hpath
  exact ⟨hrooted, (resolve_normal "/deploy" "C:/data").1 hrooted, hpath, hresolve, hnormal, hnext,
    hboth, hresolve ▸ hslash "./../y" hnext hboth⟩

end Rollout.Path
