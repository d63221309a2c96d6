/-!
# Files and folders

What the commands see of a disk: files with their bytes, and folders with their entries, in the
order in which a folder happens to list them.

* `FileTree.find?`: the file or folder at a path.
* `FileTree.files`: every file below a folder.
* `extension?`: the ending of a file name.
-/

namespace StoryBlanks

/-- A file or a folder. -/
inductive FileTree
  | file (bytes : ByteArray)
  | folder (entries : List (String × FileTree))

/-- Why a file cannot be read as text. -/
inductive FileError
  | missing
  | isFolder
  | notText
  deriving DecidableEq

/-- The error in words. -/
def FileError.message : FileError → String
  | missing => "No such file or directory (os error 2)"
  | isFolder => "Is a directory (os error 21)"
  | notText => "stream did not contain valid UTF-8"

/-- What stands at each path. -/
abbrev Disk := String → Option FileTree

/-- The text that bytes hold. -/
def textOf (bytes : ByteArray) : Except FileError String :=
  match String.fromUTF8? bytes with
  | some text => .ok text
  | none => .error .notText

/-- The bytes of the file at a path. -/
def Disk.read (disk : Disk) (path : String) : Except FileError ByteArray :=
  match disk path with
  | none => .error .missing
  | some (.folder _) => .error .isFolder
  | some (.file bytes) => .ok bytes

/-! ## Paths -/

/-- The path of an entry of a folder. -/
def entryPath (folder name : String) : String :=
  if folder.endsWith "/" then folder ++ name else folder ++ "/" ++ name

/-- What follows the last dot of a file name, unless nothing stands before that dot. -/
def extension? (name : String) : Option String :=
  let reversed := name.toList.reverse
  match reversed.dropWhile (· ≠ '.') with
  | [] | [_] => none
  | _ :: _ => some (String.ofList (reversed.takeWhile (· ≠ '.')).reverse)

/-- A file below a folder. -/
structure FoundFile where
  path : String
  name : String
  bytes : ByteArray

namespace FileTree

/-! ## Below a folder -/

mutual

/-- The file at a path, or every file below it. -/
def files (path name : String) : FileTree → List FoundFile
  | file bytes => [⟨path, name, bytes⟩]
  | folder entries => filesOf path entries

/-- Every file below a folder with these entries, in their order. -/
def filesOf (path : String) : List (String × FileTree) → List FoundFile
  | [] => []
  | (name, tree) :: entries => tree.files (entryPath path name) name ++ filesOf path entries

end

/-! ## At a path -/

/-- The entry of that name. -/
def entry? : FileTree → String → Option FileTree
  | file _, _ => none
  | folder entries, name => entries.lookup name

/-- Follow the parts of a path, from a folder whose parents are `parents`, nearest first. -/
def follow (parents : List FileTree) (here : FileTree) : List String → Option FileTree
  | [] => some here
  | part :: parts =>
    match here with
    | file _ => none
    | folder _ =>
      if part = "" ∨ part = "." then follow parents here parts
      else if part = ".." then
        match parents with
        | [] => none
        | parent :: above => follow above parent parts
      else
        match here.entry? part with
        | none => none
        | some next => follow (here :: parents) next parts

/-- The file or folder at a path from this folder. A path that ends in a slash leads to a folder;
the empty path leads nowhere, and one that begins with a slash does not start from this folder. -/
def find? (root : FileTree) (path : String) : Option FileTree :=
  match path.splitOn "/" with
  | "" :: _ => none
  | parts => follow [] root parts

/-! ## Building -/

mutual

/-- The tree with a file at a place, given by the names that lead to it. -/
def insert (bytes : ByteArray) : List String → FileTree → FileTree
  | [], _ => file bytes
  | name :: names, folder entries => folder (insertEntry bytes name names entries)
  | name :: names, file _ => folder (insertEntry bytes name names [])
termination_by names _ => (names.length, 0)

/-- The entries with a file at a place below the entry of that name. -/
def insertEntry (bytes : ByteArray) (name : String) (names : List String) :
    List (String × FileTree) → List (String × FileTree)
  | [] => [(name, insert bytes names (folder []))]
  | (n, tree) :: entries =>
    if n = name then (n, insert bytes names tree) :: entries
    else (n, tree) :: insertEntry bytes name names entries
termination_by entries => (names.length, entries.length + 1)

end

end FileTree

end StoryBlanks
