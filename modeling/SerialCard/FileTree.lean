import SerialCard.Fault

/-!
# File trees

A `FileTree` is a tree of directories and files in memory, with the rules by which paths are looked
up in it, from its root or from a working directory. `Files` is what a program needs of a file
system: the contents of a file, whether a file can be opened for appending, which makes it if it is
not there, and how a path is made of a directory and a file in it. Systems differ in the last, so
`joinPath` is the rule of one kind of system only.
-/

namespace SerialCard

/-- The files a program can get at. -/
structure Files where
  /-- The contents of the file of a path. -/
  read : String → Except OsError ByteArray
  /-- Whether the file of a path can be appended to. It is made if it is not there. -/
  append : String → Except OsError Unit
  /-- The path of a file as seen from a directory. -/
  join : String → String → String

/-- How paths are joined on a system that separates their parts by slashes. A path that starts with
a slash is absolute and stands for itself. -/
def joinPath (directory file : String) : String :=
  if file.startsWith "/" then file
  else if directory.isEmpty || directory.endsWith "/" then directory ++ file
  else directory ++ "/" ++ file

/-- Why a path leads nowhere. -/
inductive FileError where
  | noSuchFile
  | notDirectory
  | isDirectory
  | nameTooLong
  /-- The path holds a zero character, so the system is not even asked. -/
  | zeroInName
  deriving DecidableEq, Repr

namespace FileError

/-- The number the system has for an error. -/
def number? : FileError → Option Int32
  | noSuchFile => some 2
  | notDirectory => some 20
  | isDirectory => some 21
  | nameTooLong => some 36
  | zeroInName => none

/-- What an error says. -/
def text : FileError → String
  | noSuchFile => "No such file or directory"
  | notDirectory => "Not a directory"
  | isDirectory => "Is a directory"
  | nameTooLong => "File name too long"
  | zeroInName => "file name contained an unexpected NUL byte"

/-- What an error says, with its number. -/
def wording (e : FileError) : String :=
  match e.number? with
  | some n => e.text ++ " (os error " ++ toString n.toInt ++ ")"
  | none => e.text

/-- The error as one of the system, with numbers put into words by `describe`. -/
def toOsError (describe : FileError → String) (e : FileError) : OsError :=
  ⟨e.number?, describe e⟩

end FileError

/-- What a name stands for. -/
inductive FileTree.Entry where
  | file (contents : ByteArray)
  | directory

/-- Directories and files, each under the names that lead to it from the root. -/
structure FileTree where
  entries : List (List String × FileTree.Entry)
  /-- The names of the working directory, in which a path that does not start with a slash is looked
  up. -/
  workingDirectory : List String := []

namespace FileTree

variable (tree : FileTree)

/-- What names lead to. No names lead to the root, which is a directory. -/
def find? (names : List String) : Option Entry :=
  if names.isEmpty then some .directory else tree.entries.lookup names

/-- Goes one part of a path further, from where `here` leads. -/
def enter (here : List String) (part : String) : Except FileError (List String) :=
  match tree.find? here with
  | some .directory =>
    if part = "" ∨ part = "." then .ok here
    else if part = ".." then .ok here.dropLast
    else if part.utf8ByteSize > 255 then .error .nameTooLong
    else
      match tree.find? (here ++ [part]) with
      | some _ => .ok (here ++ [part])
      | none => .error .noSuchFile
  | some (.file _) => .error .notDirectory
  | none => .error .noSuchFile

/-- The parts of a path that may be looked up. -/
def partsOf (path : String) : Except FileError (List String) :=
  if path.contains '\x00' then .error .zeroInName
  else if path.isEmpty then .error .noSuchFile
  else if path.utf8ByteSize > 4095 then .error .nameTooLong
  else .ok (path.splitOn "/")

/-- Where the look-up of a path starts: at the root, or in the working directory. -/
def origin (path : String) : List String :=
  if path.startsWith "/" then [] else tree.workingDirectory

/-- The contents of a file. -/
def read (path : String) : Except FileError ByteArray := do
  let names ← (← partsOf path).foldlM tree.enter (tree.origin path)
  match tree.find? names with
  | some (.file contents) => .ok contents
  | some .directory => .error .isDirectory
  | none => .error .noSuchFile

/-- The names that lead to a file that can be appended to, whether or not it is there. What comes
before the last name has to be a directory. A last name with a slash behind it is not looked up at
all: it could only be that of a directory. -/
def locate (path : String) : Except FileError (List String) := do
  let parts ← partsOf path
  match parts.reverse.dropWhile (· == "") with
  | [] => .error .isDirectory
  | last :: before =>
    let here ← before.reverse.foldlM tree.enter (tree.origin path)
    match tree.find? here with
    | some .directory =>
      if last = "." ∨ last = ".." ∨ path.endsWith "/" then .error .isDirectory
      else if last.utf8ByteSize > 255 then .error .nameTooLong
      else
        match tree.find? (here ++ [last]) with
        | some .directory => .error .isDirectory
        | _ => .ok (here ++ [last])
    | some (.file _) => .error .notDirectory
    | none => .error .noSuchFile

/-- The tree as a program sees it, with errors put into words by `describe`. -/
def files (describe : FileError → String) : Files where
  read path := (tree.read path).mapError (FileError.toOsError describe)
  append path := ((tree.locate path).map fun _ => ()).mapError (FileError.toOsError describe)
  join := joinPath

end FileTree

end SerialCard
