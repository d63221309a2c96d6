import StoryBlanks.Preview.Session
import StoryBlanks.RecordText.Load

/-!
# The preview command

`run` opens a session on the files that its arguments name and plays the lines of its input.
-/

namespace StoryBlanks.Preview

/-- How the command is called. -/
def usage : String := asLines [
  "Usage: preview --templates <path> --catalog <path> [--config <path>] [--seed <n>]",
  "",
  "Options:",
  "  --templates <path>  Template library RON file",
  "  --catalog <path>    Entity catalog RON file",
  "  --config <path>     Scene config RON file",
  "  --seed <n>          RNG seed for 'fill' (default: 42)"]

/-- What the arguments ask for. -/
structure Arguments where
  templates : Option String := none
  catalog : Option String := none
  settings : Option String := none
  seed : Nat := 42

/-- The arguments read so far, and those to come; an argument that has no meaning is given
instead. A seed that is no number counts as the usual one. -/
def Arguments.read (a : Arguments) : List String → Except String Arguments
  | [] => .ok a
  | "--templates" :: path :: args => { a with templates := some path }.read args
  | "--catalog" :: path :: args => { a with catalog := some path }.read args
  | "--config" :: path :: args => { a with settings := some path }.read args
  | "--seed" :: n :: args => { a with seed := (Text.readWord? n).getD 42 }.read args
  | arg :: _ => .error arg

/-- Nothing but a complaint. -/
def failure (complaint : String) : Outcome := { output := "", complaints := complaint, exit := 1 }

/-- The settings that the arguments ask for. -/
def Arguments.loadSettings (a : Arguments) (disk : Disk) : Except String Settings :=
  match a.settings with
  | none => .ok {}
  | some path =>
    match Settings.load disk path with
    | .ok settings => .ok settings
    | .error e => .error s!"ERROR loading {path}: {e.message}\n"

/-- A session on the files at these paths. -/
def Arguments.session (a : Arguments) (disk : Disk) (templates catalog : String) :
    Except String Session :=
  match Library.load disk templates with
  | .error e => .error s!"ERROR loading {templates}: {e.message}\n"
  | .ok library =>
    match Catalog.load disk catalog with
    | .error e => .error s!"ERROR loading {catalog}: {e.message}\n"
    | .ok entities =>
      (a.loadSettings disk).map fun settings => .opened library entities settings a.seed

/-- A session for these arguments, or what is left behind without one. -/
def begin (disk : Disk) (args : List String) : Except Outcome Session :=
  match args with
  | [] | "--help" :: _ | "-h" :: _ => .error { output := usage }
  | _ =>
    match Arguments.read {} args with
    | .error arg =>
      .error { output := usage, complaints := s!"Unknown argument: {arg}\n", exit := 1 }
    | .ok a =>
      match a.templates, a.catalog with
      | some templates, some catalog => (a.session disk templates catalog).mapError failure
      | _, _ =>
        .error
          { output := usage
            complaints := "Both --templates and --catalog are required.\n"
            exit := 1 }

/-- The lines of a text. -/
def linesOf (text : String) : List String :=
  let lines := (text.toList.splitOn '\n').map String.ofList
  if lines.getLast? = some "" then lines.dropLast else lines

/-- Run the command with these arguments and this input. -/
def run (disk : Disk) (args : List String) (input : String) : Outcome :=
  match begin disk args with
  | .error outcome => outcome
  | .ok session => { output := session.greeting ++ session.transcript (linesOf input) }

end StoryBlanks.Preview
