import PostSearch.Cli.Commands
import PostSearch.Libraries.Database.Engine
import PostSearch.Libraries.Terminal.Paragraph
import PostSearch.Libraries.Toml.Document

/-! # Running command lines

`run` reads a command line and carries it out with the libraries of the program. A command line that
makes no sense gives exit code 2. -/

namespace PostSearch.Cli

def run (source : Source) (files : Files) (environment : Settings.Environment)
    (words : List String) : Except Error Outcome :=
  match Arguments.parse words with
  | .error .misuse => .ok ⟨2, "", 0, files⟩
  | .error .help => .ok ⟨0, "", 0, files⟩
  | .ok arguments => arguments.carryOut source files environment

end PostSearch.Cli
