import PostSearch.Proofs.Except
import PostSearch.Search.Run

/-! # What a compiled query has gone through

A query is compiled only if all steps succeed. `Assembly` holds what they came to: the tokens with
the viewer's name written out, the feeds that were looked up, the clauses, and the parts that the
statement was put together from.

Main statements: a compiled query has an assembly, for options (`compile_ok`), for choices of any
kind (`Choices.compile_ok`) and for requests (`compileRequest_ok`). -/

namespace PostSearch.Search

open Query Sql Clause

variable {site : Site} {options : Options} {tokens : List Token} {compiled : Compiled}

/-! ### The steps -/

/-- What the steps of compiling came to. -/
structure Assembly (site : Site) (options : Options) (tokens : List Token)
    (compiled : Compiled) where
  sort : SortKey
  /-- The tokens with the viewer's name written out. -/
  named : List Token
  feeds : List (Condition × OpenList Int)
  clauses : Clauses
  parts : Parts Placeholder
  checked : check options tokens = .ok sort
  naming : nameViewerIn (options.viewer.bind site.accountById?) tokens = .ok named
  building : Search.clauses named (accountsOf site (options.viewer.bind site.accountById?)
    (accountNames named)) feeds = .ok clauses
  binding : (bindParts site options named clauses).run (Params.empty Params.defaultStem) =
    (parts, compiled.params)
  statement : compiled.statement = parts.statement sort
    (touches Scope.coversPosts named || !touches Scope.coversComments named)

/-- A compiled query has gone through all steps, and its feeds are those that were looked up. -/
theorem compile_ok_feeds (h : (compile site options tokens).result = .ok compiled) :
    ∃ a : Assembly site options tokens compiled,
      feedSets site (accountsOf site (options.viewer.bind site.accountById?) (accountNames a.named))
        (feedConditions a.named) = .ok a.feeds := by
  unfold compile at h
  cases hcheck : check options tokens with
  | error e =>
      rw [hcheck] at h
      cases h
  | ok sort =>
      rw [hcheck] at h
      dsimp only at h
      cases hname : nameViewerIn (options.viewer.bind site.accountById?) tokens with
      | error e =>
          rw [hname] at h
          cases h
      | ok named =>
          rw [hname] at h
          obtain ⟨feeds, hfeeds, h⟩ := bind_eq_ok.1 h
          obtain ⟨clauses, hclauses, h⟩ := bind_eq_ok.1 h
          cases h
          exact ⟨⟨sort, named, feeds, clauses, _, hcheck, hname, hclauses, rfl, rfl⟩,
            mapError_eq_ok.1 hfeeds⟩

/-- A compiled query has gone through all steps. -/
theorem compile_ok (h : (compile site options tokens).result = .ok compiled) :
    Nonempty (Assembly site options tokens compiled) :=
  let ⟨a, _⟩ := compile_ok_feeds h
  ⟨a⟩

/-- The clauses are what is built from the tokens, the accounts and the numbers of feeds. -/
structure Clauses.Built (tokens : List Token) (accounts : Accounts)
    (sets : List (Condition × OpenList Int)) (c : Clauses) : Prop where
  feeds : c.feeds = .all (sets.map fun (condition, numbers) =>
    feedRestriction ((accounts.find? viewerName).map Account.id) condition numbers)
  postDays : contentDates tokens "p.created_at" .all = .ok c.postDays
  postOnlyDays : contentDates tokens "p.created_at" .posts = .ok c.postOnlyDays
  commentDays : contentDates tokens "c.created_at" .all = .ok c.commentDays
  commentOnlyDays : contentDates tokens "c.created_at" .comments = .ok c.commentOnlyDays
  publishedDays : postDates tokens "p.created_at" = .ok c.publishedDays
  attachments : c.attachments = Clause.attachments tokens "a"
  privacy : c.privacy = Clause.privacy tokens "p"
  postCounters : ∃ comments likes,
    counters tokens .commentCount "pc.comments_count" = .ok comments ∧
    counters tokens .likeCount "pc.likes_count" = .ok likes ∧ c.postCounters = [comments, likes]
  commentCounters : counters tokens .commentLikeCount "cc.likes_count" = .ok c.commentCounters
  commentLikes : c.commentLikes = Clause.commentLikes tokens "cl.user_id" accounts
  postAuthors : c.postAuthors = restrictAuthors ((accounts.find? viewerName).map Account.id)
    (idsOf (Clause.postAuthors tokens) accounts) (sets.map Prod.fst)
  textAuthors : c.textAuthors = idsOf (Clause.textAuthors tokens .all) accounts
  postTextAuthors : c.postTextAuthors = idsOf (Clause.textAuthors tokens .posts) accounts
  commentTextAuthors : c.commentTextAuthors = idsOf (Clause.textAuthors tokens .comments) accounts

theorem clauses_ok {tokens : List Token} {accounts : Accounts}
    {feeds : List (Condition × OpenList Int)} {c : Clauses}
    (h : clauses tokens accounts feeds = .ok c) : c.Built tokens accounts feeds := by
  obtain ⟨postDays, h₁, h⟩ := bind_eq_ok.1 h
  obtain ⟨postOnlyDays, h₂, h⟩ := bind_eq_ok.1 h
  obtain ⟨commentDays, h₃, h⟩ := bind_eq_ok.1 h
  obtain ⟨commentOnlyDays, h₄, h⟩ := bind_eq_ok.1 h
  obtain ⟨publishedDays, h₅, h⟩ := bind_eq_ok.1 h
  obtain ⟨commentCounts, h₆, h⟩ := bind_eq_ok.1 h
  obtain ⟨likeCounts, h₇, h⟩ := bind_eq_ok.1 h
  obtain ⟨commentLikeCounts, h₈, h⟩ := bind_eq_ok.1 h
  cases h
  exact ⟨rfl, mapError_eq_ok.1 h₁, mapError_eq_ok.1 h₂, mapError_eq_ok.1 h₃, mapError_eq_ok.1 h₄,
    mapError_eq_ok.1 h₅, rfl, rfl, ⟨_, _, mapError_eq_ok.1 h₆, mapError_eq_ok.1 h₇, rfl⟩,
    mapError_eq_ok.1 h₈, rfl, rfl, rfl, rfl, rfl⟩

/-! ### Choices of any kind -/

/-- The choices amount to the options. -/
structure Choices.Reads (c : Choices) (o : Options) : Prop where
  viewer : o.viewer = c.viewer
  limit : c.limit.toInt = .ok o.limit
  offset : c.offset.toInt = .ok o.offset
  sort : c.sort.plain = .ok o.sort
  maxComplexity : c.maxComplexity.number? = some o.maxComplexity
  config : o.textSearchConfig = c.textSearchConfig

theorem spoil_ne_ok {o : Outcome} {e : Error} : (o.spoil e).result ≠ .ok compiled := by
  intro h
  cases ho : o.result <;> simp [Outcome.spoil, ho, Except.bind] at h

/-- Choices are compiled only as options they amount to. -/
theorem Choices.compile_ok {c : Choices} (h : (c.compile site tokens).result = .ok compiled) :
    ∃ o, c.Reads o ∧ Nonempty (Assembly site o tokens compiled) := by
  unfold Choices.compile at h
  dsimp only at h
  split at h
  · cases h
  · rename_i maxComplexity hmax
    split at h
    · cases h
    · cases h
    · rename_i sort hcheck hsort
      split at h
      · rename_i limit offset hlimit hoffset
        exact ⟨c.toOptions limit offset sort maxComplexity,
          ⟨rfl, hlimit, hoffset, hsort, hmax, rfl⟩, Search.compile_ok h⟩
      · exact absurd h spoil_ne_ok
      · exact absurd h spoil_ne_ok

/-! ### Requests -/

/-- A request is compiled only if its query is parsed. -/
theorem compileRequest_ok {d : Defaults} {r : Request}
    (h : (compileRequest site d r).result = .ok compiled) :
    ∃ tokens, parseWith r.query d.minStem = .ok tokens ∧
      ((r.choices d).compile site tokens).result = .ok compiled := by
  unfold compileRequest at h
  split at h
  · cases h
  · rename_i tokens htokens
    exact ⟨tokens, htokens, h⟩

end PostSearch.Search
