import Mathlib.Data.List.Nodup
import PostSearch.Proofs.Search.Refusals

/-! # Resolving account names

Before anything else is looked up, the names of a query become accounts: the viewer's username is
written where the query says `me`, and the site is asked for all names at once. What comes after
finds accounts by these names only, so a name that is left out here would count as nobody's.

Main statement: `names_resolved_once`. The site is asked for the names that the query uses, each
once; the accounts are told for all of them; and a query in which the viewer's username is spelled
out from the start is compiled the same way. -/

namespace PostSearch

open Query Clause

namespace Query

variable {c : Condition} {username arg : String}

/-! ### The viewer's name written out -/

def accountOperators : List Operator :=
  [.inFeed, .commentedBy, .likedBy, .commentLikedBy, .postBy, .textBy, .sentTo]

theorem takesAccounts_iff {o : Operator} : o.takesAccounts = true ↔ o ∈ accountOperators := by
  cases o <;> simp [Operator.takesAccounts, accountOperators]

/-- An argument with the username in place of the viewer's name. -/
def written (username arg : String) : String :=
  if arg = viewerName then username else arg

/-- A condition with the username in place of the viewer's name, if it is on accounts. -/
def Condition.written (username : String) (c : Condition) : Condition :=
  if c.operator ∈ accountOperators then { c with args := c.args.map (Query.written username) } else c

def Token.written (username : String) : Token → Token
  | .condition c => .condition (c.written username)
  | t => t

theorem written_of_ne (h : arg ≠ viewerName) : written username arg = arg :=
  if_neg h

theorem written_viewerName : written viewerName arg = arg := by
  unfold written
  split
  · rename_i h
    exact h.symm
  · rfl

theorem written_written : written username (written username arg) = written username arg := by
  by_cases h : arg = viewerName
  · rw [h, written, written, if_pos rfl, ite_self]
  · rw [written_of_ne h, written_of_ne h]

namespace Condition

@[simp] theorem written_operator : (c.written username).operator = c.operator := by
  unfold written
  split <;> rfl

theorem written_args (h : c.operator ∈ accountOperators) :
    (c.written username).args = c.args.map (Query.written username) := by
  rw [written, if_pos h]

theorem written_of_notMem (h : viewerName ∉ c.args) : c.written username = c := by
  have hargs : c.args.map (Query.written username) = c.args := by
    have hall : ∀ arg ∈ c.args, Query.written username arg = arg :=
      fun arg harg => written_of_ne fun e => h (e ▸ harg)
    rw [List.map_congr_left hall, List.map_id']
  unfold written
  rw [hargs, ite_self]

theorem written_written : (c.written username).written username = c.written username := by
  by_cases h : c.operator ∈ accountOperators
  · have hargs : (c.args.map (Query.written username)).map (Query.written username) =
        c.args.map (Query.written username) := by
      rw [List.map_map]
      exact List.map_congr_left fun arg _ => Query.written_written
    simp only [written, if_pos h, hargs]
  · simp only [written, if_neg h]

theorem complexity_written : (c.written username).complexity = c.complexity := by
  by_cases h : c.operator ∈ accountOperators
  · rw [complexity, complexity, written_operator, written_args h, List.length_map]
  · rw [written, if_neg h]

end Condition

theorem complexity_map_written (username : String) (tokens : List Token) :
    complexity (tokens.map (Token.written username)) = complexity tokens := by
  induction tokens with
  | nil => rfl
  | cons t ts ih =>
      have ht : (t.written username).complexity = t.complexity := by
        cases t with
        | condition c => exact c.complexity_written
        | _ => rfl
      rw [List.map_cons, complexity, complexity, ht, ih]

theorem map_written_written (username : String) (tokens : List Token) :
    (tokens.map (Token.written username)).map (Token.written username) =
      tokens.map (Token.written username) := by
  rw [List.map_map]
  refine List.map_congr_left fun t _ => ?_
  cases t with
  | condition c => exact congrArg Token.condition c.written_written
  | _ => rfl

theorem isCondition_written {o : Operator} (t : Token) :
    (t.written username).isCondition o = t.isCondition o := by
  cases t with
  | condition c => simp only [Token.written, Token.isCondition, Condition.written_operator]
  | _ => rfl

end Query

namespace Search

variable {site : Site} {options : Options} {viewer : Option Account} {me : Account}
  {tokens named : List Token} {c d : Condition} {names : List String} {name : String}

/-! ### Named tokens -/

/-- What is written for the viewer's name, which stays if there is no viewer. -/
def usernameOf (viewer : Option Account) : String :=
  viewer.elim viewerName Account.username

theorem nameViewer_some (me : Account) (c : Condition) :
    nameViewer (some me) c = .ok (c.written me.username) := by
  unfold nameViewer
  split
  · rename_i h
    have ho := takesAccounts_iff.1 (Bool.and_eq_true_iff.1 h).1
    rw [Condition.written, if_pos ho]
    rfl
  · rename_i h
    rw [Bool.and_eq_true, List.contains_iff_mem, takesAccounts_iff] at h
    by_cases ho : c.operator ∈ accountOperators
    · rw [Condition.written_of_notMem fun hme => h ⟨ho, hme⟩]
    · rw [Condition.written, if_neg ho]

/-- Without a viewer nothing is written, and nothing has to be. -/
theorem nameViewer_none_ok (h : nameViewer none c = .ok d) :
    d = c ∧ ¬(c.operator ∈ accountOperators ∧ viewerName ∈ c.args) := by
  unfold nameViewer at h
  split at h
  · cases h
  · rename_i hc
    rw [Bool.and_eq_true, List.contains_iff_mem, takesAccounts_iff] at hc
    exact ⟨(Except.ok.inj h).symm, hc⟩

theorem nameViewerIn_some (me : Account) (tokens : List Token) :
    nameViewerIn (some me) tokens = .ok (tokens.map (Token.written me.username)) := by
  refine mapM_eq_map fun t _ => ?_
  split
  · rename_i c
    rw [nameViewer_some]
    rfl
  · rename_i hother
    cases t with
    | condition c => exact absurd rfl (hother c)
    | _ => rfl

theorem nameViewerIn_none_ok (h : nameViewerIn none tokens = .ok named) : named = tokens := by
  have hsame : List.Forall₂ (· = ·) tokens named := by
    refine (nameViewerIn_namedBy h).imp fun t u htu => ?_
    cases htu with
    | condition hd => rw [(nameViewer_none_ok hd).1]
    | other => rfl
  rw [List.forall₂_eq_eq_eq] at hsame
  exact hsame.symm

theorem nameViewerIn_asFirst (tokens : List Token) :
    nameViewerIn (asFirst.viewer.bind Site.small.accountById?) tokens =
      .ok (tokens.map (Token.written "alice")) := by
  rw [asFirst_viewer]
  exact nameViewerIn_some _ _

theorem nameViewerIn_eq_map (h : nameViewerIn viewer tokens = .ok named) :
    named = tokens.map (Token.written (usernameOf viewer)) := by
  cases viewer with
  | some me => exact (Except.ok.inj ((nameViewerIn_some me tokens).symm.trans h)).symm
  | none =>
      have hkept : tokens.map (Token.written viewerName) = tokens := by
        refine (List.map_congr_left fun t _ => ?_).trans (List.map_id _)
        cases t with
        | condition c =>
            have hargs : Query.written viewerName = id := funext fun arg => written_viewerName
            simp only [Token.written, Condition.written, hargs, List.map_id, ite_self, id]
        | _ => rfl
      rw [nameViewerIn_none_ok h]
      exact hkept.symm

/-! ### Names and accounts -/

theorem mem_accountNames : name ∈ accountNames tokens ↔
    ∃ c, .condition c ∈ tokens ∧ c.operator ∈ accountOperators ∧ name ∈ c.args := by
  unfold accountNames
  rw [mem_distinct, List.mem_flatMap]
  constructor
  · rintro ⟨t, ht, hname⟩
    split at hname
    · rename_i c
      split at hname
      · rename_i ho
        exact ⟨c, ht, takesAccounts_iff.1 ho, hname⟩
      · cases hname
    · cases hname
  · rintro ⟨c, hc, ho, hname⟩
    refine ⟨_, hc, ?_⟩
    dsimp only
    rwa [if_pos (takesAccounts_iff.2 ho)]

theorem mem_accountNames_named (h : nameViewerIn viewer tokens = .ok named) :
    name ∈ accountNames named ↔ ∃ c, .condition c ∈ tokens ∧ c.operator ∈ accountOperators ∧
      ∃ arg ∈ c.args, name = written (usernameOf viewer) arg := by
  rw [nameViewerIn_eq_map h, mem_accountNames]
  constructor
  · rintro ⟨d, hd, ho, hname⟩
    obtain ⟨t, ht, htd⟩ := List.mem_map.1 hd
    cases t with
    | condition c =>
        obtain rfl := Token.condition.inj htd
        rw [Condition.written_operator] at ho
        rw [Condition.written_args ho] at hname
        obtain ⟨arg, harg, rfl⟩ := List.mem_map.1 hname
        exact ⟨c, ht, ho, arg, harg, rfl⟩
    | _ => cases htd
  · rintro ⟨c, hc, ho, arg, harg, rfl⟩
    refine ⟨c.written (usernameOf viewer), List.mem_map_of_mem hc, ?_, ?_⟩
    · rwa [Condition.written_operator]
    · rw [Condition.written_args ho]
      exact List.mem_map_of_mem harg

/-- Where the viewer's name is among the names, it is also the viewer's username. -/
theorem viewer_of_mem_names (h : nameViewerIn viewer tokens = .ok named)
    (hme : viewerName ∈ accountNames named) :
    ∃ me, viewer = some me ∧ me.username = viewerName := by
  obtain ⟨c, hc, ho, arg, harg, hwritten⟩ := (mem_accountNames_named h).1 hme
  cases viewer with
  | some me =>
      refine ⟨me, rfl, ?_⟩
      by_cases hviewer : arg = viewerName
      · rw [hviewer, written, if_pos rfl] at hwritten
        exact hwritten.symm
      · rw [written_of_ne hviewer] at hwritten
        exact absurd hwritten.symm hviewer
  | none =>
      obtain rfl : viewerName = arg := hwritten.trans written_viewerName
      obtain ⟨u, -, hu⟩ := exists_of_mem_right (nameViewerIn_namedBy h).flip hc
      cases hu with
      | condition hd => exact absurd ⟨ho, harg⟩ (nameViewer_none_ok hd).2
      | other hother => exact absurd rfl (hother c)

theorem lookup_accountsByName (site : Site) (h : name ∈ names) :
    (site.accountsByName names).lookup name = some (site.accountByName? name) :=
  List.lookup_graph _ (mem_distinct.2 h)

theorem lookup_viewerName : (accountsOf site viewer names).lookup viewerName = some viewer := by
  rw [accountsOf, List.lookup_cons, beq_self_eq_true]

theorem lookup_accountsOf (h : name ∈ names) : (accountsOf site viewer names).lookup name =
    some (if name = viewerName then viewer else site.accountByName? name) := by
  by_cases hme : name = viewerName
  · rw [if_pos hme, hme, lookup_viewerName]
  · rw [if_neg hme, accountsOf, List.lookup_cons, beq_false_of_ne hme]
    exact lookup_accountsByName site h

/-- What is found under a name: the viewer under the viewer's name, an account under its username,
and nothing under names that were not looked up. -/
theorem find?_accountsOf (name : String) :
    (accountsOf site viewer names).find? name =
      if name = viewerName then viewer
      else if name ∈ names then site.accountByName? name else none := by
  unfold Accounts.find?
  by_cases hme : name = viewerName
  · rw [if_pos hme, hme, lookup_viewerName]
    rfl
  · by_cases hname : name ∈ names
    · rw [lookup_accountsOf hname, if_neg hme, if_neg hme, if_pos hname]
      rfl
    · have hnone : (accountsOf site viewer names).lookup name = none := by
        rw [List.lookup_eq_none_iff]
        rintro p (- | ⟨-, hp⟩)
        · exact bne_iff_ne.2 hme
        · obtain ⟨n, hn, rfl⟩ := List.mem_map.1 hp
          rw [bne_iff_ne]
          rintro rfl
          exact hname (mem_distinct.1 hn)
      rw [hnone, if_neg hme, if_neg hname]
      rfl

theorem mem_accounts_of_found {id : String} {me : Account} (h : site.accountById? id = some me) :
    me ∈ site.accounts := by
  unfold Site.accountById? at h
  split at h
  · exact List.mem_of_find?_eq_some h
  · cases h

theorem mem_viewerAccount (h : options.viewer.bind site.accountById? = some me) :
    me ∈ site.accounts := by
  obtain ⟨id, -, hfound⟩ := Option.bind_eq_some_iff.1 h
  exact mem_accounts_of_found hfound

theorem accountByName?_spec {a : Account} (h : site.accountByName? name = some a) :
    a ∈ site.accounts ∧ a.username = name := by
  have husername := List.find?_some (p := fun a : Account => a.username == name) h
  exact ⟨List.mem_reverse.1 (List.mem_of_find?_eq_some h), beq_iff_eq.1 husername⟩

theorem accountByName?_isSome {a : Account} (ha : a ∈ site.accounts) :
    (site.accountByName? a.username).isSome := by
  rw [Site.accountByName?, List.find?_isSome]
  exact ⟨a, List.mem_reverse.2 ha, beq_self_eq_true _⟩

/-- An account that is found by one of the names is an account of the site, and the name is its
username. -/
theorem find?_spec {a : Account}
    (h : nameViewerIn (options.viewer.bind site.accountById?) tokens = .ok named)
    (hname : name ∈ accountNames named)
    (ha : (accountsOf site (options.viewer.bind site.accountById?) (accountNames named)).find? name =
      some a) : a ∈ site.accounts ∧ a.username = name := by
  rw [find?_accountsOf] at ha
  by_cases hme : name = viewerName
  · rw [if_pos hme] at ha
    rw [hme] at hname
    obtain ⟨me, hviewer, husername⟩ := viewer_of_mem_names h hname
    obtain rfl := Option.some.inj (hviewer.symm.trans ha)
    exact ⟨mem_viewerAccount ha, husername.trans hme.symm⟩
  · rw [if_neg hme, if_pos hname] at ha
    exact accountByName?_spec ha

theorem find?_username {a : Account} (husernames : (site.accounts.map Account.username).Nodup)
    (h : nameViewerIn (options.viewer.bind site.accountById?) tokens = .ok named)
    (ha : a ∈ site.accounts) (hname : a.username ∈ accountNames named) :
    (accountsOf site (options.viewer.bind site.accountById?) (accountNames named)).find? a.username =
      some a := by
  have hunique : ∀ b ∈ site.accounts, b.username = a.username → b = a :=
    fun b hb hsame => List.inj_on_of_nodup_map husernames hb ha hsame
  obtain ⟨b, hb⟩ : ∃ b, (accountsOf site (options.viewer.bind site.accountById?)
      (accountNames named)).find? a.username = some b := by
    rw [find?_accountsOf, if_pos hname]
    split
    · rename_i hme
      obtain ⟨me, hviewer, -⟩ := viewer_of_mem_names h (hme ▸ hname)
      exact ⟨me, hviewer⟩
    · exact Option.isSome_iff_exists.1 (accountByName?_isSome ha)
  obtain ⟨hmem, hsame⟩ := find?_spec h hname hb
  rw [hb, hunique b hmem hsame]

/-! ### Questions by name -/

def isByName : Lookup → Bool
  | .accountsByName _ => true
  | _ => false

def Outcome.lookups (o : Outcome) : List Lookup :=
  o.accountLookups ++ o.feedLookups

theorem isByName_feedLookups (accounts : Accounts) (conditions : List Condition) :
    (feedLookups accounts conditions).filter isByName = [] := by
  rw [List.filter_eq_nil_iff]
  intro q hq
  obtain ⟨c, -, hq⟩ := List.mem_flatMap.1 hq
  split at hq
  · obtain ⟨source, -, hsource⟩ := List.mem_filterMap.1 hq
    unfold FeedSource.lookup? at hsource
    split at hsource <;> cases hsource <;> exact Bool.false_ne_true
  · cases hq

/-- The questions of a query whose checks pass and whose names are resolved. -/
theorem compile_lookups {key : Sql.SortKey} (hcheck : check options tokens = .ok key)
    (h : nameViewerIn (options.viewer.bind site.accountById?) tokens = .ok named) :
    (compile site options tokens).lookups = (options.viewer.map Lookup.accountById).toList ++
      nameLookups (accountNames named) ++
      feedLookups (accountsOf site (options.viewer.bind site.accountById?) (accountNames named))
        (feedConditions named) := by
  unfold compile
  rw [hcheck]
  dsimp only
  rw [h]
  rfl

/-- A query is asked by name once for what it names, and not at all if it names nobody or is refused
before. -/
theorem filter_isByName (h : nameViewerIn (options.viewer.bind site.accountById?) tokens = .ok named) :
    (compile site options tokens).lookups.filter isByName =
      if (check options tokens).isOk ∧ accountNames named ≠ [] then
        [.accountsByName (accountNames named)]
      else [] := by
  cases hcheck : check options tokens with
  | error e =>
      unfold compile
      rw [hcheck]
      rfl
  | ok key =>
      have hviewer : (options.viewer.map Lookup.accountById).toList.filter isByName = [] := by
        cases options.viewer <;> rfl
      rw [compile_lookups hcheck h, List.filter_append, List.filter_append, hviewer,
        isByName_feedLookups, List.append_nil, List.nil_append, nameLookups]
      by_cases hnames : accountNames named = []
      · rw [if_pos hnames, if_neg fun h => h.2 hnames]
        rfl
      · rw [if_neg hnames, if_pos ⟨rfl, hnames⟩]
        rfl

theorem check_written (username : String) (tokens : List Token) :
    check options (tokens.map (Token.written username)) = check options tokens := by
  have hany : (tokens.map (Token.written username)).any (·.isCondition .inMy) =
      tokens.any (·.isCondition .inMy) := by
    rw [List.any_map]
    exact congrArg tokens.any (funext isCondition_written)
  unfold check
  rw [complexity_map_written, hany]

/-- Writing out the viewer's username beforehand makes no difference. -/
theorem compile_written (hviewer : options.viewer.bind site.accountById? = some me)
    (tokens : List Token) :
    compile site options (tokens.map (Token.written me.username)) = compile site options tokens := by
  unfold compile
  rw [check_written, hviewer, complexity_map_written]
  cases check options tokens with
  | error e => rfl
  | ok key =>
      dsimp only
      rw [nameViewerIn_some, nameViewerIn_some, map_written_written]

/-! ### Resolution -/

/-- The site is asked for the accounts of a query at most once, and for all names that the query
uses, each once; it is told who these are, and who the viewer is. The viewer's username is written
for the viewer in conditions on accounts, and nowhere else; to have written it beforehand makes no
difference. -/
theorem names_resolved_once
    (h : nameViewerIn (options.viewer.bind site.accountById?) tokens = .ok named) :
    let viewer := options.viewer.bind site.accountById?
    let names := accountNames named
    let accounts := accountsOf site viewer names
    ((compile site options tokens).lookups.filter isByName =
      if (check options tokens).isOk ∧ names ≠ [] then [.accountsByName names] else []) ∧
    names.Nodup ∧
    (∀ name, name ∈ names ↔ ∃ c, .condition c ∈ tokens ∧ c.operator ∈ accountOperators ∧
      ∃ arg ∈ c.args, name = written (usernameOf viewer) arg) ∧
    (viewerName ∈ names → ∃ me, viewer = some me ∧ me.username = viewerName) ∧
    (∀ name ∈ names, accounts.lookup name =
      some (if name = viewerName then viewer else site.accountByName? name)) ∧
    accounts.lookup viewerName = some viewer ∧
    named = tokens.map (Token.written (usernameOf viewer)) ∧
    ∀ me, viewer = some me →
      compile site options (tokens.map (Token.written me.username)) = compile site options tokens :=
  ⟨filter_isByName h, nodup_distinct _, fun _ => mem_accountNames_named h, viewer_of_mem_names h,
    fun _ => lookup_accountsOf, lookup_viewerName, nameViewerIn_eq_map h,
    fun _ hviewer => compile_written hviewer tokens⟩

/-- Posts by the viewer that neither the viewer nor somebody else likes. -/
def unliked : List Token :=
  [.condition ⟨false, .postBy, ["me"]⟩, .condition ⟨true, .likedBy, ["bob", "me", "bob"]⟩,
    .condition ⟨true, .privacy, ["me"]⟩]

theorem names_of_unliked :
    nameViewerIn (asFirst.viewer.bind Site.small.accountById?) unliked =
      .ok (unliked.map (Token.written "alice")) ∧
    (compile Site.small asFirst unliked).lookups.filter isByName =
      [.accountsByName ["alice", "bob"]] ∧
    compile Site.small asFirst (unliked.map (Token.written "alice")) =
      compile Site.small asFirst unliked := by
  have hnamed := nameViewerIn_asFirst unliked
  have hnames : accountNames (unliked.map (Token.written "alice")) = ["alice", "bob"] := by
    decide
  have hcheck : (check asFirst unliked).isOk = true := by decide
  obtain ⟨hasked, -, -, -, -, -, -, hsame⟩ := names_resolved_once hnamed
  rw [hnames, if_pos ⟨hcheck, List.cons_ne_nil _ _⟩] at hasked
  exact ⟨hnamed, hasked, hsame _ asFirst_viewer⟩

end Search

end PostSearch
