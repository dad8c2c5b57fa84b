import PostSearch.Cli.Run

/-! # The program

Reads the settings files and the environment, runs the command line on the small site, writes the
files that the command changed, and prints what it answers. -/

namespace PostSearch.Program

/-- How the program is called. -/
def usage : String :=
  "usage: feedsearch [-h] [--db DB] [--config CONFIG] [-o FORMAT] [-v] COMMAND ...\n" ++
  "commands: parse QUERY, sql QUERY, search QUERY, db info, db init, config show,\n" ++
  "          config save [PATH]\n"

/-- Where a path leads to on this machine. -/
def located (path : Path) : IO String := do
  match path.anchor with
  | .home => return (← IO.getEnv "HOME").getD "." ++ "/" ++ (Path.mk .working path.names).text
  | _ => return path.text

/-- The files of the given paths that can be read. -/
def readFiles (paths : List Path) : IO Files := do
  let mut files := Files.empty
  for path in paths do
    let text : Option String ←
      try some <$> IO.FS.readFile (← located path) catch _ => pure none
    if let some t := text then files := files.put path t
  return files

/-- Write the files of the paths that are new or changed, with the directories they lie in. -/
def writeFiles (before after : Files) (paths : List Path) : IO Unit := do
  for path in paths do
    if let some text := after.textAt? path.place then
      if before.textAt? path.place ≠ some text then
        IO.FS.createDirAll (← located path.parent)
        IO.FS.writeFile (← located path) text

/-- Variables that matter: those for settings, and the width of the terminal. -/
def readVariables : IO Settings.Environment := do
  let marked := Settings.Field.all.map fun f =>
    String.ofList Settings.variableMark ++ f.name.toUpper
  let mut environment : Settings.Environment := []
  for name in marked ++ [Terminal.Paragraph.widthVariable] do
    if let some value ← IO.getEnv name then environment := environment ++ [(name, value)]
  return environment

/-- Files that a command line names. -/
def namedFiles (a : Cli.Arguments) : List Path :=
  let saved := match a.command with
    | .configSave path => path.toList
    | _ => []
  (a.globals.configFile.toList ++ saved).map Path.ofText

/-- Why the program breaks off, for the user. -/
def complaint : Cli.Error → String
  | .settings e => e.message
  | .logLevel kind => "The log level is a text, not '" ++ kind ++ "'"
  | .style .unopened => "A message ends a style that is not in force"
  | .style .badAction => "A message holds an action that makes no sense"
  | .style (.numeral e) | .numeral e => e.message

def run (words : List String) (a : Cli.Arguments) : IO UInt32 := do
  let paths := [Settings.userFile, Settings.localFile, Settings.fallbackFile] ++ namedFiles a
  let files ← readFiles paths
  match Cli.run (.site Site.small) files (← readVariables) words with
  | .error e =>
    IO.eprintln (complaint e)
    return 1
  | .ok outcome =>
    writeFiles files outcome.files paths
    IO.print outcome.output
    return UInt32.ofNat outcome.exit

end PostSearch.Program

open PostSearch in
/-- The command line of the program. -/
def main (words : List String) : IO UInt32 := do
  match Cli.Arguments.parse words with
  | .error .help =>
    IO.print Program.usage
    return 0
  | .error .misuse =>
    IO.eprint Program.usage
    return 2
  | .ok arguments => Program.run words arguments
