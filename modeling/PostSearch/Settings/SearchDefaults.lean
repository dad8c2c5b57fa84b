import PostSearch.Search.Run
import PostSearch.Settings.Basic

/-! # Settings of searches

Searches take their defaults from the settings, of whatever kind these are. -/

namespace PostSearch.Settings

/-- What was settled for searches. -/
def searchDefaults [Toml.Library Datum] (s : Settings) : Search.Defaults where
  minStem := s.value .minStem
  maxComplexity := s.value .maxComplexity
  textSearchConfig := s.value .textSearchConfig
  limit := s.value .limit
  sort := s.value .sort

end PostSearch.Settings
