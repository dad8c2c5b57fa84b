import PostSearch.Main
import PostSearch.Proofs.Interval.DateExpressions
import PostSearch.Proofs.OpenList
import PostSearch.Proofs.Query.Blanks
import PostSearch.Proofs.Query.Capitals
import PostSearch.Proofs.Query.CommentScope
import PostSearch.Proofs.Query.Failures
import PostSearch.Proofs.Query.Grammar
import PostSearch.Proofs.Query.Normalization
import PostSearch.Proofs.Query.Roundtrip
import PostSearch.Proofs.Search.Aliases
import PostSearch.Proofs.Search.Authors
import PostSearch.Proofs.Search.Blind
import PostSearch.Proofs.Search.Closed
import PostSearch.Proofs.Search.NamedFeeds
import PostSearch.Proofs.Search.OwnFeeds
import PostSearch.Proofs.Search.Refusals
import PostSearch.Proofs.Search.Scoping
import PostSearch.Proofs.Search.Size
import PostSearch.Proofs.Search.Texts
import PostSearch.Proofs.Search.UnknownNames
import PostSearch.Proofs.Clause.CountFilters
import PostSearch.Proofs.Sql.Formula
import PostSearch.Proofs.Sql.Simplification
import PostSearch.Proofs.Query.Trimming
import PostSearch.Proofs.Search.DistinctTexts
import PostSearch.Proofs.Query.Uuids
import PostSearch.Proofs.Query.Separation
import PostSearch.Proofs.Settings.Unknown
import PostSearch.Proofs.Settings.Runs
import PostSearch.Proofs.Query.Coverage
