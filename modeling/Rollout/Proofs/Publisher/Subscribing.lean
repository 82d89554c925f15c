import Rollout.Proofs.Publisher.Catalog
import Rollout.Step.Activity

/-!
# Subscribed articles

The query for articles names the publication, but the conditions of the statements that subscribe to
them do not. So a subscription of the same database to any publication stops the first statement,
and a subscription to an article of the same name in any publication stops the statement of a
missing article, which is left without a subscription (`subscribes_unless_any_publication`).
-/

namespace Rollout

namespace Publisher

open Rollout.Sql (literal literal_inj literal_code_append_inj)

variable (fold : String → String)

/-- A subscriber has an article. -/
def Catalog.Subscribed (c : Catalog) (subscriber : String) (x : ArticleRow) : Prop :=
  ∃ u ∈ c.subscriptions, u.article = x ∧ fold u.subscriber = fold subscriber

instance (c : Catalog) (subscriber : String) (x : ArticleRow) :
    Decidable (c.Subscribed fold subscriber x) :=
  inferInstanceAs (Decidable
    (∃ u ∈ c.subscriptions, u.article = x ∧ fold u.subscriber = fold subscriber))

/-- A query for the articles of a publication and whether a subscriber has them. -/
structure ArticlesQuery where
  subscriber : String
  publication : String

namespace ArticlesQuery

/-- The text of a query. -/
def sql (q : ArticlesQuery) : String :=
  "SELECT DISTINCT a.name, COALESCE(u.srvname, N'')\nFROM syspublications p\n" ++
    "JOIN sysarticles a ON a.pubid = p.pubid\n" ++
    "LEFT JOIN syssubscriptions u ON u.artid = a.artid AND u.srvname = " ++
    literal q.subscriber ++ "\nWHERE p.name = " ++ literal q.publication

/-- The subscriptions of the subscriber to an article. -/
def matched (c : Catalog) (q : ArticlesQuery) (x : ArticleRow) : List SubscriptionRow :=
  c.subscriptions.filter fun u => u.article = x ∧ fold u.subscriber = fold q.subscriber

/-- What a query brings: every article of the publication with the subscriber, or with an empty text
if it has no subscription to the article. -/
def rows (c : Catalog) (q : ArticlesQuery) : List Row :=
  (c.articles.filter fun x => fold x.publication = fold q.publication).flatMap fun x =>
    match q.matched fold c x with
    | [] => [[x.name, ""]]
    | us => us.map fun u => [x.name, u.subscriber]

/-- No row matches an article exactly if the subscriber does not have it. -/
theorem matched_eq_nil_iff {c : Catalog} {q : ArticlesQuery} {x : ArticleRow} :
    q.matched fold c x = [] ↔ ¬ c.Subscribed fold q.subscriber x := by
  simp [matched, Catalog.Subscribed]

/-- Every row is of an article of the publication, and the subscriber has the article unless the
second column is empty. -/
theorem mem_rows {c : Catalog} {q : ArticlesQuery} {row : Row} : row ∈ q.rows fold c ↔
    ∃ x ∈ c.articles, fold x.publication = fold q.publication ∧
      ((∃ u ∈ q.matched fold c x, [x.name, u.subscriber] = row) ∨
        ¬ c.Subscribed fold q.subscriber x ∧ [x.name, ""] = row) := by
  simp only [rows, List.mem_flatMap, List.mem_filter, decide_eq_true_eq, and_assoc,
    ← matched_eq_nil_iff]
  refine exists_congr fun x => and_congr_right fun _ => and_congr_right fun _ => ?_
  cases q.matched fold c x <;> simp [eq_comm]

/-- The text of the query tells the subscriber and the publication. -/
theorem sql_injective : Function.Injective sql := by
  intro q r h
  unfold sql at h
  simp only [String.append_assoc, String.append_right_inj] at h
  rw [literal_code_append_inj rfl (by decide), literal_inj] at h
  cases q
  cases r
  simp_all

end ArticlesQuery

/-- `Answers fold c sql rows` says that the text is a query for articles and that the rows, in
whatever order and however often, are what it brings. -/
def Answers (c : Catalog) (sql : String) (rows : List Row) : Prop :=
  ∃ q : ArticlesQuery, q.sql = sql ∧ ∀ row, row ∈ rows ↔ row ∈ q.rows fold c

end Publisher

open Publisher

namespace Step.PullSubscription

open Rollout.Sql (literal_inj literal_code_append_inj)

variable {fold : String → String} {s t : PullSubscription} {c d : Catalog} {x : ArticleRow}
  {rows : List Row} {n : String}

/-! ## What guards tell -/

/-- Two guards of subscriptions are the same if the databases subscribed are, whatever the
publications. -/
theorem subscriptionGuard_eq_iff : s.subscriptionGuard = t.subscriptionGuard ↔
    s.instanceName = t.instanceName ∧ s.databaseName = t.databaseName := by
  unfold subscriptionGuard
  simp only [String.append_assoc, String.append_right_inj]
  rw [literal_code_append_inj rfl (by decide), literal_inj]

/-- Two guards of articles are the same if the subscribers and the names of the articles are,
whatever the publications. -/
theorem articleGuard_eq_iff {article article' : String} :
    s.articleGuard article = t.articleGuard article' ↔
      s.instanceName = t.instanceName ∧ article = article' := by
  unfold articleGuard
  simp only [String.append_assoc, String.append_right_inj]
  rw [literal_code_append_inj rfl (by decide), literal_inj]

/-- The query for the articles that the subscriber may lack. -/
def articlesOf (s : PullSubscription) : ArticlesQuery :=
  ⟨s.instanceName, s.publicationName⟩

/-- The query that a subscription makes is the query for its articles. -/
theorem sql_articlesOf (s : PullSubscription) : s.articlesOf.sql = s.articlesQuery := by
  unfold articlesOf ArticlesQuery.sql articlesQuery
  rfl

/-- The query for articles tells the publication. -/
theorem articlesQuery_eq_iff : s.articlesQuery = t.articlesQuery ↔
    s.instanceName = t.instanceName ∧ s.publicationName = t.publicationName := by
  rw [← sql_articlesOf, ← sql_articlesOf, ArticlesQuery.sql_injective.eq_iff]
  unfold articlesOf
  rw [ArticlesQuery.mk.injEq]

/-! ## The statements at the publisher -/

/-- The statement that subscribes to all articles. -/
def subscriptionStatement (s : PullSubscription) : Guarded :=
  ⟨.subscription s.instanceName s.databaseName,
    .addSubscription s.publicationName s.instanceName s.databaseName "all"⟩

/-- The statement that subscribes to a missing article. -/
def articleStatement (s : PullSubscription) (article : String) : Guarded :=
  ⟨.subscribedArticle s.instanceName article,
    .addSubscription s.publicationName s.instanceName s.databaseName article⟩

/-- The statement that a subscription makes is a guarded call for all articles. -/
theorem sql_subscriptionStatement (s : PullSubscription) :
    s.subscriptionStatement.sql = s.addSubscriptionScript := by
  unfold subscriptionStatement addSubscriptionScript subscriptionGuard addSubscriptionCall
  rw [Guarded.sql_eq, Condition.sql_subscription, Call.sql_addSubscription]

/-- The statement for a missing article is a guarded call for that article. -/
theorem sql_articleStatement (s : PullSubscription) (article : String) :
    (s.articleStatement article).sql = s.addArticleScript article := by
  unfold articleStatement addArticleScript articleGuard addSubscriptionCall
  rw [Guarded.sql_eq, Condition.sql_subscribedArticle, Call.sql_addSubscription]

/-- The statement that subscribes to all articles has one run. -/
theorem runs_addSubscriptionScript_iff : Runs fold [s.addSubscriptionScript] c d ↔
    d = s.subscriptionStatement.run fold c := by
  rw [← sql_subscriptionStatement, ← List.map_singleton, runs_map_iff]
  rfl

/-- The statements that subscribe to missing articles have one run. -/
theorem runs_addArticleScript_iff {l : List String} : Runs fold (l.map s.addArticleScript) c d ↔
    d = (l.map s.articleStatement).foldl (Guarded.run fold) c :=
  runs_texts_iff fold s.sql_articleStatement

/-- The statements of missing articles are keyed by the names of the articles. -/
theorem keyed_articleStatement {as : List ArticleRow} {l : List String}
    (hl : ∀ n ∈ l, ∃ x ∈ as, fold x.publication = fold s.publicationName ∧ fold x.name = fold n)
    (hall : ∀ n ∈ l, fold n ≠ fold "all") :
    Keyed fold s.articleStatement fold (·.articles = as) Catalog.subscriptions
      (fun n => (Call.articlesNamed fold as s.publicationName n).map
        (⟨·, s.instanceName, s.databaseName⟩)) l where
  respects h := by simp only [articleStatement, Condition.Holds, h]
  keeps _ _ _ h := h
  adds _ _ _ h := by simp only [articleStatement, Call.run, h]
  meets n hn c m h := by
    obtain ⟨x, hx, hpublication, hname⟩ := hl n hn
    simp only [articleStatement, Condition.Holds, Call.run, h, List.mem_append, or_and_right,
      exists_or, List.mem_map, Call.mem_articlesNamed, hall n hn, false_or]
    refine or_congr_right ⟨?_, fun hm => ?_⟩
    · rintro ⟨_, ⟨y, ⟨-, -, hy⟩, rfl⟩, -, hm⟩
      rw [← hy, hm]
    · exact ⟨_, ⟨x, ⟨hx, hpublication, hname⟩, rfl⟩, rfl, hname.trans hm⟩

/-! ## What the query tells -/

/-- A missing article is the first of a row whose second is empty or not there. -/
theorem mem_missingArticles : n ∈ missingArticles rows ↔
    n ≠ "" ∧ ∃ row ∈ rows, row.head?.getD "" = n ∧ row[1]?.getD "" = "" := by
  simp only [missingArticles, List.mem_filterMap, Option.ite_none_right_eq_some, Bool.and_eq_true,
    Bool.not_eq_true', String.isEmpty_eq_false_iff, String.isEmpty_iff, Option.some.injEq]
  constructor
  · rintro ⟨row, hrow, ⟨hne, hempty⟩, rfl⟩
    exact ⟨hne, row, hrow, rfl, hempty⟩
  · rintro ⟨hne, row, hrow, rfl, hempty⟩
    exact ⟨row, hrow, ⟨hne, hempty⟩, rfl⟩

theorem mem_iff_of_answers (hrows : Answers fold c s.articlesQuery rows) (row : Row) :
    row ∈ rows ↔ row ∈ s.articlesOf.rows fold c := by
  obtain ⟨q, hsql, hrows⟩ := hrows
  rw [← sql_articlesOf] at hsql
  rw [hrows, ArticlesQuery.sql_injective hsql]

/-- What the query names is an article of the publication. -/
theorem exists_of_mem_missing (hrows : Answers fold c s.articlesQuery rows)
    (hn : n ∈ missingArticles rows) :
    ∃ x ∈ c.articles, fold x.publication = fold s.publicationName ∧ x.name = n := by
  obtain ⟨-, row, hrow, rfl, -⟩ := mem_missingArticles.1 hn
  obtain ⟨x, hx, hpublication, ⟨u, -, -, rfl⟩ | ⟨-, rfl⟩⟩ :=
    (ArticlesQuery.mem_rows fold).1 ((mem_iff_of_answers hrows row).1 hrow)
  · exact ⟨x, hx, hpublication, rfl⟩
  · exact ⟨x, hx, hpublication, rfl⟩

/-- An article that the subscriber lacks is missing. -/
theorem mem_missing (hrows : Answers fold c s.articlesQuery rows) (hx : x ∈ c.articles)
    (hpublication : fold x.publication = fold s.publicationName) (hname : x.name ≠ "")
    (hnot : ¬ c.Subscribed fold s.instanceName x) : x.name ∈ missingArticles rows := by
  refine mem_missingArticles.2 ⟨hname, [x.name, ""], ?_, rfl, rfl⟩
  rw [mem_iff_of_answers hrows, ArticlesQuery.mem_rows]
  exact ⟨x, hx, hpublication, .inr ⟨hnot, rfl⟩⟩

/-! ## What a subscriber gets -/

/-- Behind the statements of the missing articles an article is subscribed to if it was so before,
or if no article of its name was. -/
theorem subscribed_foldl_iff (hrows : Answers fold c s.articlesQuery rows)
    (hall : ∀ x ∈ c.articles, fold x.publication = fold s.publicationName →
      fold x.name ≠ fold "all")
    (hx : x ∈ c.articles) (hpublication : fold x.publication = fold s.publicationName)
    (hname : x.name ≠ "") :
    (((missingArticles rows).map s.articleStatement).foldl (Guarded.run fold) c).Subscribed fold
        s.instanceName x ↔
      c.Subscribed fold s.instanceName x ∨
        ¬ (s.articleStatement x.name).condition.Holds fold c := by
  have hexists : ∀ n ∈ missingArticles rows, ∃ y ∈ c.articles,
      fold y.publication = fold s.publicationName ∧ fold y.name = fold n := fun n hn =>
    let ⟨y, hy, hypublication, hyname⟩ := exists_of_mem_missing hrows hn
    ⟨y, hy, hypublication, by rw [hyname]⟩
  have hnames : ∀ n ∈ missingArticles rows, fold n ≠ fold "all" := fun n hn =>
    let ⟨y, hy, hypublication, hyname⟩ := hexists n hn
    hyname ▸ hall y hy hypublication
  have hkeyed := keyed_articleStatement hexists hnames
  simp only [Catalog.Subscribed, hkeyed.mem_foldl rfl, List.mem_map, Call.mem_articlesNamed]
  constructor
  · rintro ⟨u, hu | ⟨n, hn, hnot, y, ⟨-, -, hyname⟩, rfl⟩, rfl, hsubscriber⟩
    · exact .inl ⟨u, hu, rfl, hsubscriber⟩
    · have hkey : fold y.name = fold n := hyname.resolve_left (hnames n hn.mem)
      exact .inr fun h => hnot ((hkeyed.respects hkey).1 h)
  · rintro (⟨u, hu, harticle, hsubscriber⟩ | hnot)
    · exact ⟨u, .inl hu, harticle, hsubscriber⟩
    · have hlacks : ¬ c.Subscribed fold s.instanceName x := fun ⟨u, hu, harticle, hsubscriber⟩ =>
        hnot ⟨u, hu, hsubscriber, by rw [harticle]⟩
      have hmissing := mem_missing hrows hx hpublication hname hlacks
      rcases First.forall_or_exists (fold · ≠ fold x.name) (missingArticles rows) with
        hnone | ⟨n, hn⟩
      · exact absurd rfl (hnone _ hmissing)
      · have hkey : fold n = fold x.name := not_not.1 hn.not_of
        exact ⟨⟨x, s.instanceName, s.databaseName⟩,
          .inr ⟨n, hkey ▸ hn, fun h => hnot ((hkeyed.respects hkey).1 h), x,
            ⟨hx, hpublication, .inr hkey.symm⟩, rfl⟩, rfl, rfl⟩

/-- Where the database has no subscription, it gets one to every article of the publication. -/
theorem subscribed_run (hnone : ¬ s.subscriptionStatement.condition.Holds fold c)
    (hx : x ∈ c.articles) (hpublication : fold x.publication = fold s.publicationName) :
    (s.subscriptionStatement.run fold c).Subscribed fold s.instanceName x := by
  refine ⟨⟨x, s.instanceName, s.databaseName⟩, ?_, rfl, rfl⟩
  rw [Guarded.run, if_neg hnone]
  refine List.mem_append_right _ (List.mem_map_of_mem ?_)
  exact (Call.mem_articlesNamed fold).2 ⟨hx, hpublication, .inl rfl⟩

theorem articles_run : (s.subscriptionStatement.run fold c).articles = c.articles := by
  unfold Guarded.run
  split <;> rfl

/-- The guard of a subscription tells the database, the guard of an article the subscriber and the
name of the article, and neither tells the publication, as the query for articles does. So a
subscription of the database to any publication stops the first statement, and then an article of
the publication gets a subscription if the subscriber has no article of its name in any
publication. -/
theorem subscribes_unless_any_publication (fold : String → String) (s : PullSubscription)
    (c : Catalog)
    (hall : ∀ x ∈ c.articles, fold x.publication = fold s.publicationName →
      fold x.name ≠ fold "all") :
    (∀ t : PullSubscription, s.subscriptionGuard = t.subscriptionGuard ↔
        s.instanceName = t.instanceName ∧ s.databaseName = t.databaseName) ∧
      (∀ (t : PullSubscription) (article article' : String),
        s.articleGuard article = t.articleGuard article' ↔
          s.instanceName = t.instanceName ∧ article = article') ∧
      (∀ t : PullSubscription, s.articlesQuery = t.articlesQuery ↔
        s.instanceName = t.instanceName ∧ s.publicationName = t.publicationName) ∧
      ∃ d, (∀ e, Runs fold [s.addSubscriptionScript] c e ↔ e = d) ∧
        ((∃ u ∈ c.subscriptions, fold u.subscriber = fold s.instanceName ∧
          fold u.database = fold s.databaseName) → d = c) ∧
        ∀ rows, Answers fold d s.articlesQuery rows →
          ∃ e, (∀ e', Runs fold ((missingArticles rows).map s.addArticleScript) d e' ↔ e' = e) ∧
            ∀ x ∈ c.articles, fold x.publication = fold s.publicationName → x.name ≠ "" →
              (e.Subscribed fold s.instanceName x ↔ c.Subscribed fold s.instanceName x ∨
                (∀ u ∈ c.subscriptions, fold u.subscriber = fold s.instanceName →
                  fold u.database ≠ fold s.databaseName) ∨
                ∀ u ∈ c.subscriptions, fold u.subscriber = fold s.instanceName →
                  fold u.article.name ≠ fold x.name) := by
  refine ⟨fun t => subscriptionGuard_eq_iff, fun t _ _ => articleGuard_eq_iff,
    fun t => articlesQuery_eq_iff, s.subscriptionStatement.run fold c,
    fun e => runs_addSubscriptionScript_iff, fun h => if_pos h, fun rows hrows =>
    ⟨_, fun e => runs_addArticleScript_iff, fun x hx hpublication hname => ?_⟩⟩
  have harticles : (s.subscriptionStatement.run fold c).articles = c.articles := articles_run
  rw [subscribed_foldl_iff hrows (harticles ▸ hall) (harticles ▸ hx) hpublication hname]
  have hdatabase : (∀ u ∈ c.subscriptions, fold u.subscriber = fold s.instanceName →
      fold u.database ≠ fold s.databaseName) ↔
        ¬ s.subscriptionStatement.condition.Holds fold c := by
    simp [subscriptionStatement, Condition.Holds]
  have hnamed : (∀ u ∈ c.subscriptions, fold u.subscriber = fold s.instanceName →
      fold u.article.name ≠ fold x.name) ↔
        ¬ (s.articleStatement x.name).condition.Holds fold c := by
    simp [articleStatement, Condition.Holds]
  rw [hdatabase, hnamed]
  by_cases hholds : s.subscriptionStatement.condition.Holds fold c
  · -- the first statement changes nothing, and only missing articles are left
    have hrun : s.subscriptionStatement.run fold c = c := if_pos hholds
    rw [hrun, iff_false_intro (not_not_intro hholds), false_or]
  · exact iff_of_true (.inl (subscribed_run hholds hx hpublication)) (.inr (.inl hholds))

namespace Sample

/-- A subscription to one of two publications of a database. -/
def sales : PullSubscription :=
  ⟨"SQL02", "Reports", "SQL01", "Sales", "SalesPub"⟩

/-- The articles of both publications, of which the subscriber has one of the other. -/
def catalog : Catalog :=
  ⟨[⟨"SalesPub", "Orders", "dbo", "Orders"⟩, ⟨"SalesPub", "Customers", "dbo", "Customers"⟩,
      ⟨"CrmPub", "Orders", "crm", "Orders"⟩],
    [⟨⟨"CrmPub", "Orders", "crm", "Orders"⟩, "SQL02", "Reports"⟩]⟩

end Sample

/-- The subscriber gets the customers but not the orders, of which it has others. -/
theorem subscribes_unless_any_publication_sample :
    (∀ x ∈ Sample.catalog.articles, id x.publication = id Sample.sales.publicationName →
        id x.name ≠ id "all") ∧
      Answers id Sample.catalog Sample.sales.articlesQuery
        [["Customers", ""], ["Orders", ""]] ∧
      ∃ e, Runs id (["Customers", "Orders"].map Sample.sales.addArticleScript) Sample.catalog e ∧
        e.Subscribed id "SQL02" ⟨"SalesPub", "Customers", "dbo", "Customers"⟩ ∧
        ¬ e.Subscribed id "SQL02" ⟨"SalesPub", "Orders", "dbo", "Orders"⟩ := by
  have hall : ∀ x ∈ Sample.catalog.articles, id x.publication = id Sample.sales.publicationName →
      id x.name ≠ id "all" := by decide
  have hrows : Answers id Sample.catalog Sample.sales.articlesQuery
      [["Customers", ""], ["Orders", ""]] := by
    have hbrought : Sample.sales.articlesOf.rows id Sample.catalog =
        [["Orders", ""], ["Customers", ""]] := by decide
    exact ⟨Sample.sales.articlesOf, sql_articlesOf _, fun row => by simp [hbrought, or_comm]⟩
  obtain ⟨-, -, -, d, -, hstopped, hsubscribes⟩ :=
    subscribes_unless_any_publication id Sample.sales Sample.catalog hall
  obtain rfl := hstopped (by decide)
  obtain ⟨e, hruns, hsubscribed⟩ := hsubscribes _ hrows
  refine ⟨hall, hrows, e, (hruns e).2 rfl, ?_, ?_⟩
  · exact (hsubscribed _ (by decide) rfl (by decide)).2 (by decide)
  · exact mt (hsubscribed _ (by decide) rfl (by decide)).1 (by decide)

/-- Two subscriptions that differ in their publications have the same guards, and an article of one
publication stops the statement for the other. -/
theorem guards_ignore_publication :
    let s : PullSubscription := ⟨"SQL02", "Reports", "SQL01", "Sales", "SalesPub"⟩
    let t : PullSubscription := ⟨"SQL02", "Reports", "SQL01", "Sales", "CrmPub"⟩
    let x : ArticleRow := ⟨"CrmPub", "Orders", "crm", "Orders"⟩
    let c : Catalog := ⟨[⟨"SalesPub", "Orders", "dbo", "Orders"⟩, x], [⟨x, "SQL02", "Reports"⟩]⟩
    (s.publicationName ≠ t.publicationName ∧ s.articleGuard "Orders" = t.articleGuard "Orders" ∧
        s.subscriptionGuard = t.subscriptionGuard) ∧
      Runs id [s.addSubscriptionScript] c c ∧ Runs id [s.addArticleScript "Orders"] c c := by
  refine ⟨⟨by decide, articleGuard_eq_iff.2 ⟨rfl, rfl⟩, subscriptionGuard_eq_iff.2 ⟨rfl, rfl⟩⟩,
    runs_addSubscriptionScript_iff.2 ?_, ?_⟩
  · decide
  · rw [← List.map_singleton, runs_addArticleScript_iff]
    decide

end Step.PullSubscription

end Rollout
