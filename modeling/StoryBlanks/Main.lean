import StoryBlanks.Lint.Command
import StoryBlanks.Preview.Command

/-!
# The command line

`preview …` plays scenes and `template_linter …` looks for faults in templates. This module reads
files and the terminal and prints; what is printed is decided elsewhere.

A folder cannot be listed from here. When the linter is given one, the paths of the files below it
are taken from the input, one a line.
-/

namespace StoryBlanks.CommandLine

/-- The file at a path, if it can be read. -/
def readFile? (path : String) : IO (Option FileTree) := do
  match ← (IO.FS.readBinFile path).toBaseIO with
  | .ok bytes => return some (.file bytes)
  | .error _ => return none

/-- The files that the arguments name. -/
def readDisk (args : List String) : IO Disk := do
  let mut found := []
  for path in args do
    if let some file ← readFile? path then
      found := (path, file) :: found
  let files := found
  return fun path => files.lookup path

/-- Print what a command leaves behind. -/
def finish (outcome : Outcome) : IO UInt32 := do
  IO.print outcome.output
  IO.eprint outcome.complaints
  return UInt32.ofNat outcome.exit

/-- The lines of the input. -/
partial def inputLines (input : IO.FS.Stream) : IO (List String) := do
  let line ← input.getLine
  if line.isEmpty then return []
  return String.ofList (line.toList.filter (· ≠ '\n')) :: (← inputLines input)

/-- The folder at a path, with the files that the input lists. -/
def listedFolder (folder : String) : IO FileTree := do
  let start := (entryPath folder "").toList
  let mut tree := FileTree.folder []
  for path in ← inputLines (← IO.getStdin) do
    if start.isPrefixOf path.toList then
      if let some (.file bytes) ← readFile? path then
        tree := tree.insert bytes ((String.ofList (path.toList.drop start.length)).splitOn "/")
  return tree

/-- Run the linter. -/
def lint (args : List String) : IO UInt32 := do
  let disk ← readDisk args
  match args with
  | target :: _ :: _ | [target] =>
    if target = "-h" ∨ target = "--help" ∨ (disk target).isSome then finish (Lint.run disk args)
    else
      match ← listedFolder target with
      | .folder [] => finish (Lint.run disk args)
      | tree => finish (Lint.run (fun path => if path = target then some tree else disk path) args)
  | [] => finish (Lint.run disk args)

/-- Play the lines of the input. -/
partial def converse (session : Preview.Session) : IO UInt32 := do
  let output ← IO.getStdout
  output.putStr session.prompt
  output.flush
  let line ← (← IO.getStdin).getLine
  if line.isEmpty then return 0
  let reply := session.stepLine line
  output.putStr reply.output
  match reply.next with
  | none => return 0
  | some session => converse session

/-- Run the preview. -/
def preview (args : List String) : IO UInt32 := do
  match Preview.begin (← readDisk args) args with
  | .error outcome => finish outcome
  | .ok session =>
    IO.print session.greeting
    converse session

end StoryBlanks.CommandLine

/-- Run the command that the first argument names. -/
def main (args : List String) : IO UInt32 :=
  match args with
  | "preview" :: args => StoryBlanks.CommandLine.preview args
  | "template_linter" :: args => StoryBlanks.CommandLine.lint args
  | _ => do
    IO.eprintln "The first argument is preview or template_linter."
    return 2
