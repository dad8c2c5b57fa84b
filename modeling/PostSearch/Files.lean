import PostSearch.Path

/-! # Files

The text files and the directories that a command may read and write. Anchors are directories, and
so is all that files lie in. `locate` follows a path step by step and says what is there;
`makeDirectories` and `openFile` change the files as far as they get, which matters since a later
step may fail. -/

namespace PostSearch

/-- Texts by place, each place once, and directories. -/
structure Files where
  entries : List (Place × String)
  /-- Directories that were made. -/
  directories : List Place
deriving DecidableEq, Repr

namespace Files

/-- Why a file or a directory is not made or not read. -/
inductive Error where
  | isDirectory (path : Path)
  /-- The directory cannot be made, since a file of its name exists. -/
  | exists (path : Path)
  /-- The path leads through a file. -/
  | notDirectory (path : Path)
  /-- The path leads through a directory that does not exist. -/
  | missing (path : Path)
  | nameTooLong (path : Path)
  /-- The path holds the character that ends texts for the system. -/
  | nullByte
deriving DecidableEq, Repr

def Error.message : Error → String
  | .missing path => "[Errno 2] No such file or directory: " ++ path.literal
  | .exists path => "[Errno 17] File exists: " ++ path.literal
  | .notDirectory path => "[Errno 20] Not a directory: " ++ path.literal
  | .isDirectory path => "[Errno 21] Is a directory: " ++ path.literal
  | .nameTooLong path => "[Errno 36] File name too long: " ++ path.literal
  | .nullByte => "embedded null byte"

/-! ### Texts -/

def empty : Files :=
  ⟨[], []⟩

def textAt? (fs : Files) (p : Place) : Option String :=
  fs.entries.lookup p

def removeAt (fs : Files) (p : Place) : Files :=
  { fs with entries := fs.entries.filter fun e => e.1 ≠ p }

/-- The files with the text at the place. -/
def putAt (fs : Files) (p : Place) (text : String) : Files :=
  { fs with entries := (p, text) :: (fs.removeAt p).entries }

/-- The files with the text under the path, the directories on the way to it included. -/
def put (fs : Files) (p : Path) (text : String) : Files :=
  fs.putAt p.place text

/-- The files without the one of the path, if it is there. -/
def erase? (fs : Files) (p : Path) : Option Files :=
  if (fs.textAt? p.place).isSome then some (fs.removeAt p.place) else none

/-- The files of a list; of two with one path the later counts. -/
def ofList (entries : List (Path × String)) : Files :=
  entries.foldl (fun fs (p, text) => fs.put p text) empty

/-! ### Following paths -/

/-- Directories of the root that are always there. -/
def standardNames : List String :=
  ["bin", "boot", "dev", "etc", "home", "lib", "media", "mnt", "opt", "proc", "root", "run", "sbin",
    "srv", "sys", "tmp", "usr", "var"]

/-- There is a directory at the place. -/
def isDirectoryAt (fs : Files) (p : Place) : Bool :=
  p.names.isEmpty || fs.directories.contains p || fs.entries.any (·.1.isBelow p) ||
    (p.anchor == .root && standardNames.any fun name => p.names == [name])

/-- What is found at the end of a path. -/
inductive Location where
  | directory (p : Place)
  | file (p : Place) (text : String)
  /-- Nothing, but there is a directory to put something in. -/
  | vacant (p : Place)
  /-- The way leads through something that is not there. -/
  | lost
  /-- The way leads through a file. -/
  | blocked
  /-- Some name, or the whole path, is too long. -/
  | tooLong
deriving DecidableEq, Repr

/-- Most bytes of a name. -/
def nameLimit : Nat := 255

/-- Most bytes of a path. -/
def pathLimit : Nat := 4095

/-- Follow names from a place. -/
def follow (fs : Files) (p : Place) : List String → Location
  | [] =>
    match fs.textAt? p with
    | some text => .file p text
    | none => if fs.isDirectoryAt p then .directory p else .vacant p
  | name :: names =>
    if (fs.textAt? p).isSome then .blocked
    else if !fs.isDirectoryAt p then .lost
    else if nameLimit < name.utf8ByteSize then .tooLong
    else follow fs (p.child name) names

/-- What is found at the end of the path. -/
def locate (fs : Files) (path : Path) : Location :=
  if pathLimit < path.text.utf8ByteSize then .tooLong
  else fs.follow (.ofAnchor path.anchor) path.names

/-- The system takes no such path. -/
def hasNull (path : Path) : Bool :=
  path.names.any fun name => name.toList.contains '\x00'

/-! ### Reading -/

/-- The text of the file, none if there is no such file. -/
def read? (fs : Files) (path : Path) : Except Error (Option String) :=
  if hasNull path then .ok none
  else match fs.locate path with
    | .directory _ => .error (.isDirectory path)
    | .file _ text => .ok (some text)
    | .tooLong => .error (.nameTooLong path)
    | .vacant _ | .lost | .blocked => .ok none

/-! ### Writing -/

/-- Make a directory where nothing is; one that is there already does no harm. -/
def makeDirectory (fs : Files) (path : Path) : Files × Option Error :=
  match fs.locate path with
  | .directory _ => (fs, none)
  | .file _ _ => (fs, some (.exists path))
  | .vacant p => ({ fs with directories := p :: fs.directories }, none)
  | .lost => (fs, some (.missing path))
  | .blocked => (fs, some (.notDirectory path))
  | .tooLong => (fs, some (.nameTooLong path))

/-- Make a directory, and those on the way to it if they are missing. The names come in reverse. -/
def makeDirectoriesBack (anchor : Anchor) : List String → Files → Files × Option Error
  | [], fs => (fs, none)
  | name :: up, fs =>
    let path : Path := ⟨anchor, (name :: up).reverse⟩
    match fs.locate path with
    | .lost =>
      match makeDirectoriesBack anchor up fs with
      | (fs, none) => fs.makeDirectory path
      | failed => failed
    | _ => fs.makeDirectory path

/-- Make a directory, and those on the way to it if they are missing. -/
def makeDirectories (fs : Files) (path : Path) : Files × Option Error :=
  if hasNull path then (fs, some .nullByte)
  else makeDirectoriesBack path.anchor path.names.reverse fs

/-- The place of a file that can be written in an existing directory. -/
def openFile (fs : Files) (path : Path) : Except Error Place :=
  if hasNull path then .error .nullByte
  else match fs.locate path with
    | .directory _ => .error (.isDirectory path)
    | .file p _ | .vacant p => .ok p
    | .lost => .error (.missing path)
    | .blocked => .error (.notDirectory path)
    | .tooLong => .error (.nameTooLong path)

end Files

end PostSearch
