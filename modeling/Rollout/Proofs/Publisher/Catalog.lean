import Rollout.Proofs.First
import Rollout.Proofs.Sql.Quote

/-!
# The catalogue of a publisher

What the guarded statements for articles and subscriptions do to the tables of a publisher. A
statement is a condition, written as a query that brings a row if it holds, and a call that is made
unless it does. The text of a statement tells its condition and its call
(`Guarded.sql_injective`), so a list of texts has one run (`runs_map_iff`). Where every call of a
list meets just the conditions of its own key, the first statement of each key makes its call and
the others are passed over (`Keyed.mem_foldl`).

Which texts a server takes for one name is left open: those that are the same after `fold`.
-/

namespace Rollout.Publisher

open Rollout.Sql (literal literal_inj literal_append_inj literal_code_append_inj)

/-- An article: a table, under the name that it has in its publication. -/
structure ArticleRow where
  publication : String
  name : String
  owner : String
  object : String
  deriving DecidableEq

/-- A subscription of a database at a subscriber to an article. -/
structure SubscriptionRow where
  article : ArticleRow
  subscriber : String
  database : String
  deriving DecidableEq

/-- The articles and the subscriptions of a publisher's database. -/
structure Catalog where
  articles : List ArticleRow
  subscriptions : List SubscriptionRow
  deriving DecidableEq

variable (fold : String → String) {c d : Catalog}

/-! ## Texts told from one another -/

/-- Lists of characters differ if they do at one place of their fronts. -/
theorem chars_append_ne {cs ds : List Char} (h : (cs.zip ds).any (fun p => p.1 != p.2) = true)
    (r r' : List Char) : cs ++ r ≠ ds ++ r' := by
  induction cs generalizing ds with
  | nil => simp at h
  | cons x cs ih =>
    cases ds with
    | nil => simp at h
    | cons y ds =>
      intro heq
      obtain ⟨rfl, htail⟩ := List.cons.inj heq
      exact ih (by simpa using h) htail

/-- Texts differ whose fronts do. -/
theorem append_ne_append {a b : String} {cs ds : List Char} (ha : a = String.ofList cs)
    (hb : b = String.ofList ds) (h : (cs.zip ds).any (fun p => p.1 != p.2) = true) (r r' : String) :
    a ++ r ≠ b ++ r' := fun heq =>
  chars_append_ne h r.toList r'.toList (by simpa [ha, hb, ← String.toList_inj] using heq)

/-- Two texts between pieces of the same code are told, and so is what follows them. -/
theorem eq_of_code_literals {front code t u t' u' r r' : String} {x : Char} {cs : List Char}
    (hcode : code = String.ofList (x :: cs)) (hx : x ≠ '\'') (hr : r.toList.head? ≠ some '\'')
    (hr' : r'.toList.head? ≠ some '\'')
    (h : front ++ (literal t ++ (code ++ (literal u ++ r))) =
      front ++ (literal t' ++ (code ++ (literal u' ++ r')))) : t = t' ∧ u = u' ∧ r = r' := by
  rwa [String.append_right_inj, literal_code_append_inj hcode hx, literal_append_inj hr hr'] at h

/-! ## Statements -/

/-- A condition under which a call is not made. -/
inductive Condition where
  | article (publication name : String)
  | subscription (subscriber database : String)
  | subscribedArticle (subscriber name : String)
  deriving DecidableEq

namespace Condition

/-- The query that brings a row if a condition holds. -/
def sql : Condition → String
  | article publication name =>
    "SELECT 1 FROM sysarticles a JOIN syspublications p ON p.pubid = a.pubid WHERE p.name = " ++
      literal publication ++ " AND a.name = " ++ literal name
  | subscription subscriber database =>
    "SELECT 1 FROM syssubscriptions WHERE srvname = " ++ literal subscriber ++ " AND dest_db = " ++
      literal database
  | subscribedArticle subscriber name =>
    "SELECT 1 FROM syssubscriptions u JOIN sysarticles a ON a.artid = u.artid WHERE u.srvname = " ++
      literal subscriber ++ " AND a.name = " ++ literal name

theorem sql_article (publication name : String) : (article publication name).sql =
    "SELECT 1 FROM sysarticles a JOIN syspublications p ON p.pubid = a.pubid WHERE p.name = " ++
      literal publication ++ " AND a.name = " ++ literal name :=
  rfl

theorem sql_subscription (subscriber database : String) : (subscription subscriber database).sql =
    "SELECT 1 FROM syssubscriptions WHERE srvname = " ++ literal subscriber ++ " AND dest_db = " ++
      literal database :=
  rfl

theorem sql_subscribedArticle (subscriber name : String) : (subscribedArticle subscriber name).sql =
    "SELECT 1 FROM syssubscriptions u JOIN sysarticles a ON a.artid = u.artid WHERE u.srvname = " ++
      literal subscriber ++ " AND a.name = " ++ literal name :=
  rfl

/-- Whether the query of a condition brings a row. -/
def Holds (c : Catalog) : Condition → Prop
  | article publication name =>
    ∃ x ∈ c.articles, fold x.publication = fold publication ∧ fold x.name = fold name
  | subscription subscriber database =>
    ∃ u ∈ c.subscriptions, fold u.subscriber = fold subscriber ∧ fold u.database = fold database
  | subscribedArticle subscriber name =>
    ∃ u ∈ c.subscriptions, fold u.subscriber = fold subscriber ∧ fold u.article.name = fold name

instance (c : Catalog) : (k : Condition) → Decidable (k.Holds fold c)
  | article publication name => inferInstanceAs (Decidable
      (∃ x ∈ c.articles, fold x.publication = fold publication ∧ fold x.name = fold name))
  | subscription subscriber database => inferInstanceAs (Decidable
      (∃ u ∈ c.subscriptions, fold u.subscriber = fold subscriber ∧
        fold u.database = fold database))
  | subscribedArticle subscriber name => inferInstanceAs (Decidable
      (∃ u ∈ c.subscriptions, fold u.subscriber = fold subscriber ∧
        fold u.article.name = fold name))

/-- A condition is told from what follows it, unless that begins with a quote. -/
theorem sql_append_inj {k l : Condition} {r r' : String} (hr : r.toList.head? ≠ some '\'')
    (hr' : r'.toList.head? ≠ some '\'') (h : k.sql ++ r = l.sql ++ r') : k = l ∧ r = r' := by
  cases k <;> cases l <;>
    simp only [sql_article, sql_subscription, sql_subscribedArticle, String.append_assoc] at h
  -- two conditions of one kind are told by their texts, two kinds by their code
  case article.article =>
    obtain ⟨rfl, rfl, rfl⟩ := eq_of_code_literals rfl (by decide) hr hr' h
    exact ⟨rfl, rfl⟩
  case subscription.subscription =>
    obtain ⟨rfl, rfl, rfl⟩ := eq_of_code_literals rfl (by decide) hr hr' h
    exact ⟨rfl, rfl⟩
  case subscribedArticle.subscribedArticle =>
    obtain ⟨rfl, rfl, rfl⟩ := eq_of_code_literals rfl (by decide) hr hr' h
    exact ⟨rfl, rfl⟩
  all_goals exact absurd h (append_ne_append rfl rfl (by decide) _ _)

end Condition

/-- A call that adds to the catalogue. -/
inductive Call where
  | addArticle (publication name owner object : String)
  | addSubscription (publication subscriber database article : String)
  deriving DecidableEq

namespace Call

/-- The text of a call. -/
def sql : Call → String
  | addArticle publication name owner object =>
    "EXEC sp_addarticle @publication = " ++ literal publication ++ ", @article = " ++
      literal name ++ ", @source_owner = " ++ literal owner ++ ", @source_object = " ++
      literal object
  | addSubscription publication subscriber database article =>
    "EXEC sp_addsubscription @publication = " ++ literal publication ++ ", @subscriber = " ++
      literal subscriber ++ ", @destination_db = " ++ literal database ++
      ", @subscription_type = N'Pull', @sync_type = N'automatic', @article = " ++
      literal article ++ ", @update_mode = N'read only', @subscriber_type = 0"

theorem sql_addArticle (publication name owner object : String) :
    (addArticle publication name owner object).sql =
      "EXEC sp_addarticle @publication = " ++ literal publication ++ ", @article = " ++
        literal name ++ ", @source_owner = " ++ literal owner ++ ", @source_object = " ++
        literal object :=
  rfl

theorem sql_addSubscription (publication subscriber database article : String) :
    (addSubscription publication subscriber database article).sql =
      "EXEC sp_addsubscription @publication = " ++ literal publication ++ ", @subscriber = " ++
        literal subscriber ++ ", @destination_db = " ++ literal database ++
        ", @subscription_type = N'Pull', @sync_type = N'automatic', @article = " ++
        literal article ++ ", @update_mode = N'read only', @subscriber_type = 0" :=
  rfl

/-- The articles that a publication has under a name, or all it has for the word `all`. -/
def articlesNamed (as : List ArticleRow) (publication name : String) : List ArticleRow :=
  as.filter fun x => fold x.publication = fold publication ∧
    (fold name = fold "all" ∨ fold x.name = fold name)

/-- An article is named by its publication and by its own name, or by `all`. -/
theorem mem_articlesNamed {as : List ArticleRow} {publication name : String} {x : ArticleRow} :
    x ∈ articlesNamed fold as publication name ↔ x ∈ as ∧ fold x.publication = fold publication ∧
      (fold name = fold "all" ∨ fold x.name = fold name) := by
  simp [articlesNamed]

/-- What a call adds to the catalogue. -/
def run (c : Catalog) : Call → Catalog
  | addArticle publication name owner object =>
    { c with articles := c.articles ++ [⟨publication, name, owner, object⟩] }
  | addSubscription publication subscriber database article =>
    { c with subscriptions := c.subscriptions ++
        (articlesNamed fold c.articles publication article).map fun x =>
          ⟨x, subscriber, database⟩ }

/-- The text of a call tells all of its arguments. -/
theorem sql_injective : Function.Injective sql := by
  intro k l h
  cases k <;> cases l <;>
    simp only [sql_addArticle, sql_addSubscription, String.append_assoc] at h
  case addArticle.addArticle =>
    rw [String.append_right_inj, literal_code_append_inj rfl (by decide),
      literal_code_append_inj rfl (by decide), literal_code_append_inj rfl (by decide),
      literal_inj] at h
    obtain ⟨rfl, rfl, rfl, rfl⟩ := h
    rfl
  case addSubscription.addSubscription =>
    rw [String.append_right_inj, literal_code_append_inj rfl (by decide),
      literal_code_append_inj rfl (by decide), literal_code_append_inj rfl (by decide),
      String.append_left_inj, literal_inj] at h
    obtain ⟨rfl, rfl, rfl, rfl⟩ := h
    rfl
  all_goals exact absurd h (append_ne_append rfl rfl (by decide) _ _)

end Call

/-- A call that is made unless a condition holds. -/
structure Guarded where
  condition : Condition
  call : Call
  deriving DecidableEq

namespace Guarded

/-- The text of a guarded statement. -/
def sql (g : Guarded) : String :=
  "IF NOT EXISTS (" ++ g.condition.sql ++ ")\n    " ++ g.call.sql

/-- What a guarded statement makes of the catalogue. -/
def run (c : Catalog) (g : Guarded) : Catalog :=
  if g.condition.Holds fold c then c else g.call.run fold c

theorem sql_eq (g : Guarded) :
    g.sql = "IF NOT EXISTS (" ++ g.condition.sql ++ ")\n    " ++ g.call.sql :=
  rfl

/-- The text of a guarded statement tells its condition and its call. -/
theorem sql_injective : Function.Injective sql := by
  intro g h heq
  have hclose (r : String) : (")\n    " ++ r).toList.head? ≠ some '\'' := by simp
  simp only [sql_eq, String.append_assoc, String.append_right_inj] at heq
  obtain ⟨hcondition, hcall⟩ := Condition.sql_append_inj (hclose _) (hclose _) heq
  have hcall := Call.sql_injective ((String.append_right_inj _).1 hcall)
  cases g
  cases h
  cases hcondition
  cases hcall
  rfl

end Guarded

/-- `Runs fold texts c d` says that the texts are guarded statements, and that one after the other
they make `d` of the catalogue `c`. -/
def Runs (texts : List String) (c d : Catalog) : Prop :=
  ∃ gs : List Guarded, gs.map Guarded.sql = texts ∧ gs.foldl (Guarded.run fold) c = d

/-- The texts of guarded statements have one run. -/
theorem runs_map_iff {gs : List Guarded} :
    Runs fold (gs.map Guarded.sql) c d ↔ d = gs.foldl (Guarded.run fold) c := by
  refine ⟨fun ⟨gs', htexts, hrun⟩ => ?_, fun h => ⟨gs, rfl, h.symm⟩⟩
  rw [← Guarded.sql_injective.list_map htexts, hrun]

/-- So have the texts of a family of statements. -/
theorem runs_texts_iff {ι : Type*} {statement : ι → Guarded} {text : ι → String}
    (htext : ∀ i, (statement i).sql = text i) {l : List ι} :
    Runs fold (l.map text) c d ↔ d = (l.map statement).foldl (Guarded.run fold) c := by
  have hsql : (l.map statement).map Guarded.sql = l.map text := by simp [htext]
  rw [← hsql, runs_map_iff]

/-! ## Statements with keys -/

/-- A list of statements with keys. While the catalogue is as `Inv` says, the call of one makes the
conditions of its own key hold and no others, and adds its own rows. -/
structure Keyed {ι κ ρ : Type*} (statement : ι → Guarded) (key : ι → κ) (Inv : Catalog → Prop)
    (rows : Catalog → List ρ) (added : ι → List ρ) (l : List ι) : Prop where
  respects : ∀ {c i j}, key i = key j →
    ((statement i).condition.Holds fold c ↔ (statement j).condition.Holds fold c)
  keeps : ∀ i ∈ l, ∀ c, Inv c → Inv ((statement i).call.run fold c)
  meets : ∀ i ∈ l, ∀ c j, Inv c →
    ((statement j).condition.Holds fold ((statement i).call.run fold c) ↔
      (statement j).condition.Holds fold c ∨ key i = key j)
  adds : ∀ i ∈ l, ∀ c, Inv c → rows ((statement i).call.run fold c) = rows c ++ added i

namespace Keyed

variable {fold} {ι κ ρ : Type*} {statement : ι → Guarded} {key : ι → κ} {Inv : Catalog → Prop}
  {rows : Catalog → List ρ} {added : ι → List ρ} {i : ι} {l : List ι} {x : ρ}

/-- What holds of statements with keys holds of those behind the first. -/
theorem tail (h : Keyed fold statement key Inv rows added (i :: l)) :
    Keyed fold statement key Inv rows added l where
  respects := h.respects
  keeps j hj := h.keeps j (List.mem_cons_of_mem _ hj)
  meets j hj := h.meets j (List.mem_cons_of_mem _ hj)
  adds j hj := h.adds j (List.mem_cons_of_mem _ hj)

/-- A statement keeps what is known of the catalogue, whether its call is made or not. -/
theorem inv_run (h : Keyed fold statement key Inv rows added (i :: l)) (hc : Inv c) :
    Inv ((statement i).run fold c) := by
  unfold Guarded.run
  split
  · exact hc
  · exact h.keeps i List.mem_cons_self c hc

/-- Statements one after the other keep what is known of the catalogue. -/
theorem inv_foldl (h : Keyed fold statement key Inv rows added l) (hc : Inv c) :
    Inv ((l.map statement).foldl (Guarded.run fold) c) := by
  induction l generalizing c with
  | nil => exact hc
  | cons i r ih => exact ih h.tail (h.inv_run hc)

/-- A statement leaves the conditions of its own key met, whether its call is made or not. -/
theorem holds_run (h : Keyed fold statement key Inv rows added (i :: l)) (hc : Inv c) (j : ι) :
    (statement j).condition.Holds fold ((statement i).run fold c) ↔
      (statement j).condition.Holds fold c ∨ key i = key j := by
  unfold Guarded.run
  split
  · rename_i hholds
    refine ⟨.inl, ?_⟩
    rintro (hj | hkey)
    · exact hj
    · exact (h.respects hkey).1 hholds
  · exact h.meets i List.mem_cons_self c j hc

/-- A statement adds its rows unless its condition holds. -/
theorem mem_run (h : Keyed fold statement key Inv rows added (i :: l)) (hc : Inv c) :
    x ∈ rows ((statement i).run fold c) ↔
      x ∈ rows c ∨ ¬ (statement i).condition.Holds fold c ∧ x ∈ added i := by
  unfold Guarded.run
  split
  · rename_i hholds
    simp [hholds]
  · rename_i hnot
    simp [hnot, h.adds i List.mem_cons_self c hc]

/-- Of the statements of one key just the first makes its call, and that only if its condition does
not hold at the start. -/
theorem mem_foldl (h : Keyed fold statement key Inv rows added l) (hc : Inv c) :
    x ∈ rows ((l.map statement).foldl (Guarded.run fold) c) ↔ x ∈ rows c ∨
      ∃ i, First (key · ≠ key i) l i ∧ ¬ (statement i).condition.Holds fold c ∧ x ∈ added i := by
  induction l generalizing c with
  | nil => simp [First.not_nil]
  | cons i r ih =>
    have hfirst (j : ι) : First (key · ≠ key j) (i :: r) j ↔
        j = i ∨ key i ≠ key j ∧ First (key · ≠ key j) r j := by
      rw [First.cons_iff, and_iff_right_of_imp]
      rintro rfl
      exact not_not_intro rfl
    rw [List.map_cons, List.foldl_cons, ih h.tail (h.inv_run hc), h.mem_run hc, or_assoc]
    simp only [h.holds_run hc, hfirst, not_or]
    refine or_congr_right ⟨?_, ?_⟩
    · rintro (⟨hnot, hx⟩ | ⟨j, hj, ⟨hnot, hne⟩, hx⟩)
      · exact ⟨i, .inl rfl, hnot, hx⟩
      · exact ⟨j, .inr ⟨hne, hj⟩, hnot, hx⟩
    · rintro ⟨j, rfl | ⟨hne, hj⟩, hnot, hx⟩
      · exact .inl ⟨hnot, hx⟩
      · exact .inr ⟨j, hj, ⟨hnot, hne⟩, hx⟩

end Keyed

end Rollout.Publisher
