import PostSearch.Settings.Sources

/-! # The console

Messages for the user are styled by marks in brackets, and a library puts them out on the console. -/

namespace PostSearch.Cli

/-- Why a message is not put out. -/
inductive Console.Error where
  /-- A mark ends what is not in force. -/
  | unopened
  /-- What is passed to an action is no literal. -/
  | badAction
  /-- A colour is mixed from something else than numbers, or the terminal is too wide for a number. -/
  | numeral (e : NumeralError)
deriving DecidableEq, Repr

/-- A library for the console. -/
class Console where
  /-- What appears of a styled message. The environment tells how wide the terminal is. -/
  render : Settings.Environment → String → Except Console.Error String

end PostSearch.Cli
