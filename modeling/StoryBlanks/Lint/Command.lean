import StoryBlanks.Lint.Finding
import StoryBlanks.Outcome
import StoryBlanks.RecordText.Load

/-!
# The linter

`run` lints the templates of a file, or of every record file below a folder. A file below a folder
that cannot be loaded is passed over with a complaint; of templates with one name, the one that was
loaded last counts.
-/

namespace StoryBlanks.Lint

/-- How the command is called. -/
def usage : String := "Usage: template_linter <templates_path> [--catalog <path>]\n"

/-- The catalog that the arguments name last. -/
def catalogPath? : List String → Option String
  | "--catalog" :: path :: args => (catalogPath? args).or (some path)
  | _ :: args => catalogPath? args
  | [] => none

/-! ## Loading a folder -/

/-- The templates loaded so far, and what was said about them. -/
structure Loading where
  library : Library := .empty
  output : String := ""
  complaints : String := ""

/-- Load one file more. -/
def Loading.step (l : Loading) (file : FoundFile) : Loading :=
  if extension? file.name ≠ some "ron" then l
  else
    match Library.ofBytes file.bytes with
    | .ok library =>
      { l with
        library := l.library.merge library
        output := l.output ++ s!"  Loaded: {file.path}\n" }
    | .error e =>
      { l with complaints := l.complaints ++ s!"  ERROR loading {file.path}: {e.message}\n" }

/-- Load every record file below a folder. -/
def loadFolder (path : String) (entries : List (String × FileTree)) : Loading :=
  (FileTree.filesOf path entries).foldl Loading.step {}

/-- Load the templates at a path; what goes wrong with a single file or with the path itself is
given instead. -/
def loadTarget (disk : Disk) (path : String) : Except String Loading :=
  match disk path with
  | none => .error s!"ERROR: Path '{path}' does not exist\n"
  | some (.folder entries) => .ok (loadFolder path entries)
  | some (.file bytes) =>
    match Library.ofBytes bytes with
    | .ok library => .ok { library := Library.empty.merge library }
    | .error e => .error s!"ERROR: Failed to load template file: {e.message}\n"

/-! ## The report -/

/-- The errors and the warnings of every template. -/
def messages (library : Library) (catalog? : Option Catalog) : List String × List String :=
  (library.templates.flatMap fun t => t.lintErrors catalog?,
    library.templates.flatMap fun t => t.lintWarnings catalog?)

/-- The report on errors and warnings. -/
def report (errors warnings : List String) : String :=
  let nothing := if errors.isEmpty && warnings.isEmpty then "All checks passed!\n" else ""
  "\n=== Template Lint Report ===\n\n" ++ nothing ++
    asLines (warnings.map fun w => "WARNING: " ++ w) ++
    asLines (errors.map fun e => "ERROR: " ++ e) ++
    s!"\nSummary: {errors.length} errors, {warnings.length} warnings\n"

/-- Report on the templates that are loaded. -/
def finish (loaded : Loading) (catalog? : Option Catalog) : Outcome :=
  let (errors, warnings) := messages loaded.library catalog?
  { output :=
      loaded.output ++ s!"Loaded {loaded.library.size} templates\n" ++ report errors warnings
    complaints := loaded.complaints
    exit := if errors.isEmpty then 0 else 1 }

/-- Run the linter with these arguments. -/
def run (disk : Disk) : List String → Outcome
  | [] | "--help" :: _ | "-h" :: _ => { output := usage }
  | target :: args =>
    match loadTarget disk target with
    | .error complaint => { output := "", complaints := complaint, exit := 1 }
    | .ok loaded =>
      match catalogPath? args with
      | none => finish loaded none
      | some path =>
        match Catalog.load disk path with
        | .ok catalog => finish loaded (some catalog)
        | .error e =>
          { output := loaded.output
            complaints :=
              loaded.complaints ++ s!"ERROR: Failed to load catalog: {e.message}\n"
            exit := 1 }

end StoryBlanks.Lint
