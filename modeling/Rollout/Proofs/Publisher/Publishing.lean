import Rollout.Proofs.Publisher.Catalog
import Rollout.Step.Script

/-!
# Published tables

The condition of an article statement names the publication and the table, not the schema, though
the call that it guards names all three. So of the listed tables that differ in nothing but the
schema just the first is published (`publishes_first_of_each_table`).
-/

namespace Rollout

open Publisher

/-- A publication has a table, given by its schema and its name. -/
def Publisher.Catalog.Publishes (fold : String → String) (c : Catalog) (publication : String)
    (a : Article) : Prop :=
  ∃ x ∈ c.articles, fold x.publication = fold publication ∧ fold x.owner = fold a.schema ∧
    fold x.object = fold a.table

namespace Step.Publication

open Rollout.Sql (literal_inj)

variable {fold : String → String} {s : Publication} {a b : Article} {c d : Catalog}

/-- The row that an article gets in the catalogue. -/
def articleRow (s : Publication) (a : Article) : ArticleRow :=
  ⟨s.name, a.table, a.schema, a.table⟩

/-- The statement that adds an article, as a call and the condition under which it is not made. -/
def articleStatement (s : Publication) (a : Article) : Guarded :=
  ⟨.article s.name a.table, .addArticle s.name a.table a.schema a.table⟩

theorem sql_articleStatement (s : Publication) (a : Article) :
    (s.articleStatement a).sql = s.addArticleScript a := by
  have hcode (r : String) : ")\n    EXEC sp_addarticle @publication = " ++ r =
      ")\n    " ++ ("EXEC sp_addarticle @publication = " ++ r) := by
    rw [← String.append_assoc]
    rfl
  unfold articleStatement addArticleScript articleGuard
  simp only [Guarded.sql_eq, Condition.sql_article, Call.sql_addArticle, String.append_assoc, hcode]

/-- Two articles have the same guard if they have the same table, in whatever schemas. -/
theorem articleGuard_eq_iff : s.articleGuard a = s.articleGuard b ↔ a.table = b.table := by
  unfold articleGuard
  rw [String.append_right_inj, literal_inj]

/-- The statements of articles are keyed by their tables. -/
theorem keyed_articleStatement (s : Publication) (l : List Article) :
    Keyed fold s.articleStatement (fun a => fold a.table) (·.subscriptions = c.subscriptions)
      Catalog.articles (fun a => [s.articleRow a]) l where
  respects h := by simp only [articleStatement, Condition.Holds, h]
  keeps _ _ _ h := h
  meets _ _ _ _ _ := by simp [articleStatement, Condition.Holds, Call.run, or_and_right, exists_or]
  adds _ _ _ _ := rfl

/-- The article statements of a list have one run. -/
theorem runs_addArticleScript_iff {l : List Article} : Runs fold (l.map s.addArticleScript) c d ↔
    d = (l.map s.articleStatement).foldl (Guarded.run fold) c :=
  runs_texts_iff fold s.sql_articleStatement

/-- An article statement changes nothing exactly if its condition holds. -/
theorem runs_self_iff : Runs fold [s.addArticleScript a] d d ↔
    (s.articleStatement a).condition.Holds fold d := by
  rw [← List.map_singleton, runs_addArticleScript_iff, List.map_singleton, List.foldl_cons,
    List.foldl_nil, Guarded.run]
  split
  · simp_all
  · rename_i hnot
    refine iff_of_false (fun h => ?_) hnot
    have hlength := congrArg (·.articles.length) h
    simp [articleStatement, Call.run] at hlength

/-- Behind the statement of an article, that of another is passed over if it was so before or has
the same table. -/
theorem runs_self_iff_of_runs (h : Runs fold [s.addArticleScript a] c d) :
    Runs fold [s.addArticleScript b] d d ↔
      Runs fold [s.addArticleScript b] c c ∨ fold a.table = fold b.table := by
  rw [← List.map_singleton, runs_addArticleScript_iff] at h
  rw [runs_self_iff, runs_self_iff, h]
  exact (s.keyed_articleStatement [a]).holds_run rfl b

/-- The articles after the statements of a list: one for the first of every table. -/
theorem mem_articles_foldl {l : List Article} {x : ArticleRow}
    (hempty : ∀ x ∈ c.articles, fold x.publication ≠ fold s.name) :
    x ∈ ((l.map s.articleStatement).foldl (Guarded.run fold) c).articles ↔ x ∈ c.articles ∨
      ∃ a, First (fun b => fold b.table ≠ fold a.table) l a ∧ x = s.articleRow a := by
  have hnot (a : Article) : ¬ (s.articleStatement a).condition.Holds fold c := fun ⟨x, hx, hp, _⟩ =>
    hempty x hx hp
  rw [(s.keyed_articleStatement l).mem_foldl rfl]
  simp only [hnot, not_false_iff, true_and, List.mem_singleton]

/-- A table is published if the first one listed of its name has its schema. -/
theorem publishes_foldl_iff {l : List Article}
    (hempty : ∀ x ∈ c.articles, fold x.publication ≠ fold s.name) :
    ((l.map s.articleStatement).foldl (Guarded.run fold) c).Publishes fold s.name a ↔
      ∃ b, First (fun b => fold b.table ≠ fold a.table) l b ∧ fold b.schema = fold a.schema := by
  simp only [Catalog.Publishes, mem_articles_foldl hempty]
  constructor
  · rintro ⟨x, hx | ⟨b, hb, rfl⟩, hpublication, hschema, htable⟩
    · exact absurd hpublication (hempty x hx)
    · have htable : fold b.table = fold a.table := htable
      exact ⟨b, htable ▸ hb, hschema⟩
  · rintro ⟨b, hb, hschema⟩
    have htable : fold b.table = fold a.table := not_not.1 hb.not_of
    exact ⟨s.articleRow b, .inr ⟨b, htable ▸ hb, rfl⟩, rfl, hschema, htable⟩

/-- The guard of an article statement tells the table and not the schema. Behind the statement of
one article that of another is passed over if both have the same table. So in a publication without
articles the statements of a step publish the first one listed of each table; they publish all
exactly if no two that are listed have the same table in different schemas. -/
theorem publishes_first_of_each_table (fold : String → String) (s : Publication) (c : Catalog)
    (hempty : ∀ x ∈ c.articles, fold x.publication ≠ fold s.name) :
    (∀ a b, s.articleGuard a = s.articleGuard b ↔ a.table = b.table) ∧
      (∀ a b d e, Runs fold [s.addArticleScript a] d e → (Runs fold [s.addArticleScript b] e e ↔
        Runs fold [s.addArticleScript b] d d ∨ fold a.table = fold b.table)) ∧
      ∃ d, (∀ e, Runs fold (s.articles.map s.addArticleScript) c e ↔ e = d) ∧
        d.subscriptions = c.subscriptions ∧
        (∀ a, d.Publishes fold s.name a ↔ ∃ b, First (fun b => fold b.table ≠ fold a.table)
          s.articles b ∧ fold b.schema = fold a.schema) ∧
        ((∀ a ∈ s.articles, d.Publishes fold s.name a) ↔ ∀ a ∈ s.articles, ∀ b ∈ s.articles,
          fold a.table = fold b.table → fold a.schema = fold b.schema) := by
  refine ⟨fun a b => articleGuard_eq_iff, fun a b d e h => runs_self_iff_of_runs h,
    (s.articles.map s.articleStatement).foldl (Guarded.run fold) c,
    fun e => runs_addArticleScript_iff, ?_, fun a => publishes_foldl_iff hempty, ?_⟩
  · exact (s.keyed_articleStatement s.articles).inv_foldl rfl
  · simp only [publishes_foldl_iff hempty]
    constructor
    · intro hall a ha b hb htable
      obtain ⟨x, hx, hschema⟩ := hall a ha
      obtain ⟨y, hy, hschema'⟩ := hall b hb
      obtain rfl := hx.unique (htable ▸ hy)
      rw [← hschema, hschema']
    · intro hall a ha
      rcases First.forall_or_exists (fun b => fold b.table ≠ fold a.table) s.articles with
        hnone | ⟨b, hb⟩
      · exact absurd rfl (hnone a ha)
      · exact ⟨b, hb, hall b hb.mem a ha (not_not.1 hb.not_of)⟩

namespace Sample

/-- A publication of three tables, two of them of one name up to case. -/
def publication : Publication :=
  ⟨"SQL01", "Sales", "SalesPub", none, none,
    [⟨"dbo", "Orders"⟩, ⟨"dbo", "Customers"⟩, ⟨"crm", "orders"⟩]⟩

/-- A catalogue with an article of another publication. -/
def catalog : Catalog :=
  ⟨[⟨"CrmPub", "Orders", "crm", "Orders"⟩], []⟩

end Sample

/-- On a server that does not tell case, two of the three tables are published. -/
theorem publishes_first_of_each_table_sample :
    (∀ x ∈ Sample.catalog.articles,
        Text.lowered x.publication ≠ Text.lowered Sample.publication.name) ∧
      ∃ d, Runs Text.lowered (Sample.publication.articles.map Sample.publication.addArticleScript)
          Sample.catalog d ∧
        d.Publishes Text.lowered "SalesPub" ⟨"dbo", "Orders"⟩ ∧
        d.Publishes Text.lowered "SalesPub" ⟨"dbo", "Customers"⟩ ∧
        ¬ d.Publishes Text.lowered "SalesPub" ⟨"crm", "orders"⟩ := by
  have hempty : ∀ x ∈ Sample.catalog.articles,
      Text.lowered x.publication ≠ Text.lowered Sample.publication.name := by decide
  obtain ⟨-, -, d, hruns, -, hpublishes, -⟩ :=
    publishes_first_of_each_table Text.lowered Sample.publication Sample.catalog hempty
  have horders : Text.lowered "Orders" = Text.lowered "orders" := by decide
  have hcustomers : Text.lowered "Customers" ≠ Text.lowered "orders" := by decide
  have hschemas : Text.lowered "dbo" ≠ Text.lowered "crm" := by decide
  have hpublishes (a : Article) : d.Publishes Text.lowered "SalesPub" a ↔ _ := hpublishes a
  refine ⟨hempty, d, (hruns d).2 rfl, ?_, ?_, ?_⟩ <;>
    simp [hpublishes, Sample.publication, First.cons_iff, First.not_nil, horders, hcustomers,
      hcustomers.symm, hschemas]

/-- Two tables that differ in their schemas have one guard, and the second is not published. -/
theorem articleGuard_ignores_schema :
    let s : Publication := ⟨"SQL01", "Sales", "SalesPub", none, none,
      [⟨"dbo", "Orders"⟩, ⟨"crm", "Orders"⟩]⟩
    ((⟨"dbo", "Orders"⟩ : Article) ≠ ⟨"crm", "Orders"⟩ ∧
        s.articleGuard ⟨"dbo", "Orders"⟩ = s.articleGuard ⟨"crm", "Orders"⟩) ∧
      ∀ d, Runs id (s.articles.map s.addArticleScript) ⟨[], []⟩ d →
        ¬ d.Publishes id s.name ⟨"crm", "Orders"⟩ := by
  refine ⟨⟨by decide, articleGuard_eq_iff.2 rfl⟩, fun d h => ?_⟩
  rw [runs_addArticleScript_iff] at h
  rw [h, publishes_foldl_iff (by simp)]
  simp [First.cons_iff]

end Step.Publication

end Rollout
