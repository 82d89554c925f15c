import Rollout.Proofs.Manifest.Fields

/-!
# Manifests have no other keys

In a document that is a manifest every key of every mapping at a level gives a field, and none is
given twice; a mapping with any other key makes the document no manifest (`ofDocument_heeds`).
Operations are the level at which this needs an argument: their kind is one of their own entries, at
any place, and the fields of the kind are looked at only when all entries have been read
(`keys_of_readEntries`, `names_of_giveEntries`).

Only in operations a key need not be the name of a field. There a natural number is the place of a
field among the fields of the kind, so that a key may give a field that it does not name
(`accepts_key_without_name`).
-/

namespace Rollout.Manifest

open Rollout.Yaml (Document Node Read Scalar Value)
open Rollout.Yaml.Document (Accepts)

variable {d : Document}

/-! ## Operations -/

/-- What a key of an operation is read as. -/
def keyOf (d : Document) (n : Node) : Key :=
  match scalar? d n with
  | some (.text w) => if w = "type" then .type else .named w
  | some (.natural i) => .placed i
  | _ => .other

theorem keyOf_of_readKey {depth : Nat} {n : Node} {key : Key} {s s' : Nat}
    (h : readKey d depth n s = .ok (key, s')) : keyOf d n = key := by
  obtain ⟨n', s₁, ht, h⟩ := Read.ok_of_bind h
  rw [keyOf, scalar?, Document.standsFor?_of_target ht]
  match n', h with
  | .scalar tag text plain, h =>
    cases htag : (Document.ownTag? tag).isSome with
    | true => simp only [htag, if_true] at h; cases h
    | false =>
      simp only [htag, Bool.false_eq_true, if_false] at h ⊢
      obtain ⟨v, s₂, hv, h⟩ := Read.ok_of_bind h
      rw [Document.resolve_of_scalar hv]
      cases v <;> cases h <;> rfl
  | .sequence .., h => obtain ⟨_, _, _, h⟩ := Read.ok_of_bind h; cases h; rfl
  | .mapping .., h => obtain ⟨_, _, _, h⟩ := Read.ok_of_bind h; cases h; rfl
  | .alias .., h => obtain ⟨_, _, _, h⟩ := Read.ok_of_bind h; cases h; rfl
  | .broken, h => obtain ⟨_, _, _, h⟩ := Read.ok_of_bind h; cases h; rfl

/-- The word for the kind is the only key that is read as such. -/
theorem isTypeKey_iff {n : Node} : isTypeKey d n = true ↔ keyOf d n = .type := by
  unfold isTypeKey keyOf
  cases scalar? d n with
  | none => simp
  | some v =>
    cases v with
    | text w => by_cases hw : w = "type" <;> simp [hw]
    | null | flag _ | natural _ | integer _ | float _ => simp

theorem kindOf?_of_readKind {e : Node × Node} {kind : Kind} {s s' : Nat}
    (h : readKind d e.2 s = .ok (kind, s')) : kindOf? d e = some kind := by
  obtain ⟨w, s₁, hw, h⟩ := Read.ok_of_bind h
  rw [kindOf?, Document.word?_of_text hw, Option.bind_some]
  cases hk : Kind.ofWord? w with
  | none => simp only [hk] at h; cases h
  | some k => simp only [hk] at h; cases h; rfl

/-- The entries of an operation are read as their keys are, and its kind is what the one entry
names whose key is the word for the kind. -/
theorem keys_of_readEntries {depth : Nat} {es : List (Node × Node)} {named : Option Kind}
    {before entries : List (Key × Value)} {kind : Kind} {s s' : Nat}
    (h : readEntries d depth es named before s = .ok ((kind, entries), s')) :
    entries.map Prod.fst = (before.map Prod.fst).reverse ++
      (es.filter fun e => !isTypeKey d e.1).map (fun e => keyOf d e.1) ∧
    named.toList.map some ++ (es.filter fun e => isTypeKey d e.1).map (kindOf? d) =
      [some kind] := by
  induction es generalizing named before s with
  | nil =>
    cases named with
    | none => cases h
    | some k => cases h; simp
  | cons e more ih =>
    obtain ⟨key, s₁, hkey, h⟩ := Read.ok_of_bind h
    have hkey := keyOf_of_readKey hkey
    cases htype : isTypeKey d e.1 with
    | true =>
      rw [isTypeKey_iff, hkey] at htype
      subst htype
      cases named with
      | some k => cases h -- the kind has been named before
      | none =>
        obtain ⟨k, s₂, hk, h⟩ := Read.ok_of_bind h
        obtain ⟨hentries, hkind⟩ := ih h
        simp [isTypeKey_iff, hkey, hentries, ← hkind, kindOf?_of_readKind hk]
    | false =>
      -- any other key is kept with its value, whatever it may mean
      have hne : key ≠ .type := fun hk => by simp [isTypeKey_iff.2 (hkey.trans hk)] at htype
      have ⟨v, s₂, hv, h⟩ : ∃ v s₂, d.value .buffered depth e.2 s₁ = .ok (v, s₂) ∧
          readEntries d depth more named ((key, v) :: before) s₂ = .ok ((kind, entries), s') := by
        cases key with
        | type => exact absurd rfl hne
        | named w => exact Read.ok_of_bind h
        | placed i => exact Read.ok_of_bind h
        | other => exact Read.ok_of_bind h
      obtain ⟨hentries, hkind⟩ := ih h
      simp [htype, hkey, hentries, ← hkind]

/-- The name of the field of a kind that a key means. -/
def nameOf? (kind : Kind) (key : Key) : Option String :=
  (fieldOf kind key).toOption.map Prod.fst

/-- The fields that entries give are those that their keys mean, none of them twice. -/
theorem names_of_giveEntries {kind : Kind} {entries : List (Key × Value)} {given g : Given}
    (h : giveEntries kind entries given = .ok g) :
    ∃ names : List String, (entries.map Prod.fst).map (nameOf? kind) = names.map some ∧
      g.map Prod.fst = names.reverse ++ given.map Prod.fst ∧
      ((given.map Prod.fst).Nodup → (g.map Prod.fst).Nodup) := by
  induction entries generalizing given with
  | nil => cases h; exact ⟨[], rfl, rfl, id⟩
  | cons e more ih =>
    obtain ⟨f, hf, h⟩ := ok_of_bind h
    by_cases hfresh : f.1 ∈ given.map Prod.fst
    · simp only [(isSome_lookPair _ _).2 hfresh, if_true] at h
      cases h
    · have hnew : (lookPair f.1 given).isSome = false := by
        rw [Bool.eq_false_iff]
        exact fun hs => hfresh ((isSome_lookPair _ _).1 hs)
      simp only [hnew, Bool.false_eq_true, if_false] at h
      obtain ⟨ts, -, h⟩ := ok_of_bind h
      obtain ⟨names, hnames, hg, hnodup⟩ := ih h
      refine ⟨f.1 :: names, ?_, by simp [hg], fun hd => hnodup (List.nodup_cons.2 ⟨hfresh, hd⟩)⟩
      rw [List.map_cons, List.map_cons, hnames, nameOf?, hf]
      rfl

/-- No kind has a field that is called as the word for the kind. -/
theorem Kind.ne_type_of_mem {kind : Kind} {f : String × Arity} (hf : f ∈ kind.fields) :
    f.1 ≠ "type" := by
  have h : ∀ f ∈ kind.fields, f.1 ≠ "type" := by cases kind <;> decide
  exact h f hf

theorem mem_fields_of_nameOf? {kind : Kind} {key : Key} {name : String}
    (h : nameOf? kind key = some name) : ∃ f ∈ kind.fields, f.1 = name := by
  unfold nameOf? fieldOf at h
  cases key with
  | type | other => simp [Except.toOption] at h
  | named w =>
    cases hf : kind.fields.find? (fun f => f.1 == w) with
    | none => simp [hf, Except.toOption] at h
    | some f =>
      simp only [hf, Except.toOption, Option.map_some, Option.some.injEq] at h
      exact ⟨f, List.mem_of_find?_eq_some hf, h⟩
  | placed i =>
    cases hf : kind.fields[i]? with
    | none => simp [hf, Except.toOption] at h
    | some f =>
      simp only [hf, Except.toOption, Option.map_some, Option.some.injEq] at h
      exact ⟨f, List.mem_of_getElem? hf, h⟩

section Operation

variable {es : List (Node × Node)} {key : Node}

/-- The word for the kind is a field of every operation. -/
theorem field?_of_type (h : isTypeKey d key = true) : field? d .operation es key = some "type" := by
  unfold isTypeKey at h
  split at h
  · next w hw =>
    rw [beq_iff_eq] at h
    simp [field?, named?, keyWord?, hw, h, fieldNames]
  · cases h

/-- Any other key of an operation gives the field that it means for the kind of the operation. -/
theorem field?_of_not_type {kind : Kind} (hkind : kind? d es = some kind)
    (h : isTypeKey d key = false) : field? d .operation es key = nameOf? kind (keyOf d key) := by
  unfold field? named? keyWord? placed? keyOf nameOf?
  cases hv : scalar? d key with
  | none => rfl
  | some v =>
    cases v with
    | text w =>
      have hw : w ≠ "type" := by simpa [isTypeKey, hv] using h
      have hname : (fieldNames d .operation es).find? (fun f => f.1 == w || f.2.contains w) =
          (kind.fields.find? fun f => f.1 == w).map fun f => (f.1, []) := by
        simp only [fieldNames, hkind, Option.toList_some, List.flatMap_singleton, List.find?_cons,
          beq_eq_false_iff_ne.2 hw.symm, List.contains_nil, Bool.or_self, List.find?_map,
          Function.comp_def, Bool.or_false]
      simp only [Option.bind_some, hname, hw, if_false, Option.or_none, fieldOf]
      cases kind.fields.find? fun f => f.1 == w <;> rfl
    | natural i =>
      simp only [hkind, Option.bind_none, Option.none_or, Option.bind_some, fieldOf]
      cases kind.fields[i]? <;> rfl
    | null | flag _ | integer _ | float _ => rfl

end Operation

/-- The entries that an operation is read from have one key that is the word for the kind, and the
others give fields of that kind. -/
theorem heeds_of_entries {kind : Kind} {es : List (Node × Node)} {names : List String}
    (hkind : (es.filter fun e => isTypeKey d e.1).map (kindOf? d) = [some kind])
    (hnames : ((es.filter fun e => !isTypeKey d e.1).map fun e => keyOf d e.1).map (nameOf? kind) =
      names.map some) (hnodup : names.Nodup) : Heeds d .operation es := by
  obtain ⟨e, he, hek⟩ := List.map_eq_singleton_iff.1 hkind
  have hkind : kind? d es = some kind := by
    rw [kind?, ← List.head?_filter, he]
    exact hek
  -- the fields given are the kind and those of the other keys, up to their order
  have htypes : (es.filter fun e => isTypeKey d e.1).map
      (fun e => field? d .operation es e.1) = [some "type"] := by
    have hmem : e ∈ es.filter fun e => isTypeKey d e.1 := he ▸ List.mem_singleton_self e
    rw [he, List.map_singleton, field?_of_type (List.mem_filter.1 hmem).2]
  have hothers : (es.filter fun e => !isTypeKey d e.1).map
      (fun e => field? d .operation es e.1) = names.map some := by
    rw [← hnames, List.map_map]
    refine List.map_congr_left fun e he => field?_of_not_type hkind ?_
    simpa using (List.mem_filter.1 he).2
  have hperm : (es.map fun e => field? d .operation es e.1).Perm
      (("type" :: names).map some) := by
    rw [List.map_cons, ← hothers, ← List.singleton_append, ← htypes, ← List.map_append]
    exact ((List.filter_append_perm _ es).map _).symm
  have htype : "type" ∉ names := by
    intro hm
    have hm := List.mem_map_of_mem (f := some) hm
    rw [← hnames] at hm
    obtain ⟨e, -, he⟩ := List.mem_map.1 hm
    obtain ⟨f, hf, hname⟩ := mem_fields_of_nameOf? he
    exact Kind.ne_type_of_mem hf hname
  exact .of_perm hperm (List.nodup_cons.2 ⟨htype, hnodup⟩)

/-- What is checked on its own succeeds where the reading of it does. -/
theorem ok_of_checked {α : Type} {x : Except Yaml.Complaint α} {s : Nat} {r : α × Nat}
    (h : checked x s = .ok r) : x = .ok r.1 := by
  cases x <;> cases h
  rfl

/-- An operation is accepted only with keys that give fields of its kind. -/
theorem heeds_of_readOperation {depth : Nat} {n : Node} (h : Accepts (readOperation d depth) n) :
    Heeds d .operation (d.entriesOf n) := by
  obtain ⟨s, r, h⟩ := h
  obtain ⟨n', s₁, ht, h⟩ := Read.ok_of_bind h
  rw [Document.entriesOf, Document.standsFor?_of_target ht]
  cases n'
  case mapping tag es =>
    cases depth with
    | zero => cases h
    | succ depth =>
      cases htag : (Document.ownTag? tag).isSome with
      | true => simp only [htag, if_true] at h; cases h
      | false =>
        simp only [htag, Bool.false_eq_true, if_false] at h
        obtain ⟨⟨kind, entries⟩, s₂, hentries, h⟩ := Read.ok_of_bind h
        obtain ⟨g, hg, -⟩ := ok_of_bind (ok_of_checked h)
        obtain ⟨hkeys, hkind⟩ := keys_of_readEntries hentries
        obtain ⟨names, hnames, hgiven, hnodup⟩ := names_of_giveEntries hg
        rw [hkeys] at hnames
        exact heeds_of_entries hkind hnames (by simpa [hgiven] using hnodup)
  -- whatever else is read as an operation has no entries
  all_goals exact .nil

/-! ## Manifests -/

/-- In a document that is a manifest the keys of the mappings at its levels give fields. -/
theorem heeds_of_at {m : Manifest} (hm : ofDocument d = .ok m) {level : Level} {n : Node}
    (h : At d level n) : Heeds d level (d.entriesOf n) := by
  have hreads := reads_of_at hm h
  cases level with
  | manifest => exact heeds_of_record lists_manifest hreads.choose_spec
  | parameter => exact heeds_of_record lists_parameter hreads.choose_spec
  | target => exact heeds_of_record lists_target hreads.choose_spec
  | block => exact heeds_of_record lists_block (accepts_record_of_readBlock hreads.choose_spec)
  | operation => exact heeds_of_readOperation hreads.choose_spec

/-- A key that gives no field beside other entries does not become the word for the kind among
them. -/
theorem field?_insert {level : Level} {before after : List (Node × Node)} {e : Node × Node}
    (h : field? d level (before ++ after) e.1 = none) :
    field? d level (before ++ e :: after) e.1 = none := by
  cases level with
  | manifest | parameter | target | block => exact h
  | operation =>
    have htype : isTypeKey d e.1 = false := by
      rw [Bool.eq_false_iff]
      intro ht
      rw [field?_of_type ht] at h
      cases h
    have hkind : kind? d (before ++ e :: after) = kind? d (before ++ after) := by
      simp [kind?, List.find?_append, htype]
    simpa only [field?, named?, placed?, fieldNames, hkind] using h

/-- In a document that is a manifest every key of every mapping at a level gives a field, and no
field is given twice; a document with a mapping at a level that has, beside other entries, an entry
whose key gives no field is no manifest. -/
theorem ofDocument_heeds (d : Document) :
    (∀ m, ofDocument d = .ok m → ∀ level n, At d level n → Heeds d level (d.entriesOf n)) ∧
    ∀ level n before e after, At d level n → d.entriesOf n = before ++ e :: after →
      field? d level (before ++ after) e.1 = none → ∃ c, ofDocument d = .error c := by
  refine ⟨fun m hm level n h => heeds_of_at hm h, fun level n before e after h hes hnone => ?_⟩
  cases hd : ofDocument d with
  | error c => exact ⟨c, rfl⟩
  | ok m =>
    have hfield := (heeds_of_at hd h).fields e (by simp [hes])
    rw [hes, field?_insert hnone] at hfield
    cases hfield

namespace Sample

/-- A plain word. -/
def word (w : String) : Node :=
  .scalar none w true

/-- A document with one operation that has some entries. -/
def document (es : List (Node × Node)) : Document :=
  let block : Node := .mapping none
    [(word "name", word "SQL01"), (word "operations", .sequence none [.mapping none es])]
  let target : Node := .mapping none [(word "instances", .sequence none [block])]
  ⟨.mapping none [(word "targets", .mapping none [(word "a", target)])], [], 30, true⟩

/-- The operation of the document stands at the level of operations. -/
theorem at_operation (es : List (Node × Node)) :
    At (document es) .operation (.mapping none es) := by
  have htarget := At.target (.manifest (d := document es)) ⟨word "targets", .head _, rfl⟩
    (.head _)
  have hblock := At.block htarget ⟨word "instances", .head _, rfl⟩ (.head _)
  exact At.operation hblock ⟨word "operations", .tail _ (.head _), rfl⟩ (.head _)

/-- The entries of an operation that makes a login, with further ones behind them. -/
def login (es : List (Node × Node)) : List (Node × Node) :=
  (word "type", word "login") :: (word "name", word "bob") :: es

/-- The passwords of the logins that a document makes. -/
def passwords? (d : Document) : Option (List (Option String)) :=
  (ofDocument d).toOption.map fun m => m.targets.entries.flatMap fun t =>
    t.2.operations.filterMap fun
      | .login op => some (op.password.map Template.text)
      | _ => none

/-- A document of which the passwords are known is a manifest. -/
theorem exists_of_passwords? {d : Document} (h : (passwords? d).isSome = true) :
    ∃ m, ofDocument d = .ok m := by
  unfold passwords? at h
  cases hd : ofDocument d with
  | error c => rw [hd] at h; cases h
  | ok m => exact ⟨m, rfl⟩

end Sample

/-- A login with a password heeds its fields, and one whose password is misspelled is refused. -/
theorem ofDocument_heeds_sample :
    let right := Sample.login [(Sample.word "password", Sample.word "hunter2")]
    let wrong := Sample.login [(Sample.word "pasword", Sample.word "hunter2")]
    (∃ m, ofDocument (Sample.document right) = .ok m) ∧
    Heeds (Sample.document right) .operation right ∧
    ∃ c, ofDocument (Sample.document wrong) = .error c := by
  intro right wrong
  obtain ⟨m, hm⟩ := Sample.exists_of_passwords? (d := Sample.document right) (by decide +kernel)
  exact ⟨⟨m, hm⟩, (ofDocument_heeds _).1 m hm _ _ (Sample.at_operation right),
    (ofDocument_heeds _).2 _ _ (Sample.login []) (Sample.word "pasword", Sample.word "hunter2") []
      (Sample.at_operation wrong) rfl (by decide +kernel)⟩

/-- A key of an operation that names no field is not refused where it is the place of a field: the
key `1`, added to a login without a password, gives it one. -/
theorem accepts_key_without_name :
    let placed := Sample.login [(Sample.word "1", Sample.word "hunter2")]
    Sample.passwords? (Sample.document (Sample.login [])) = some [none] ∧
    Sample.passwords? (Sample.document placed) = some [some "hunter2"] ∧
    At (Sample.document placed) .operation (.mapping none placed) ∧
    named? (Sample.document placed) .operation placed (Sample.word "1") = none :=
  ⟨by decide +kernel, by decide +kernel, Sample.at_operation _, by decide +kernel⟩

end Rollout.Manifest
