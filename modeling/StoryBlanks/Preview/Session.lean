import StoryBlanks.Library
import StoryBlanks.Outcome
import StoryBlanks.Scene.AutoFill
import StoryBlanks.Text.Decimal

/-!
# Preview sessions

A session plays scenes by commands, one a line. It knows a library, a catalog and settings, and
keeps the seed for random fills and the scene in play.

* `Command.ofLine?`: the command of a line.
* `Session.step`: what a command prints, and the session after it.
* `Session.transcript`: what a run of lines prints, prompts included.
-/

namespace StoryBlanks.Preview

/-! ## Commands -/

/-- A command to the scene in play. -/
inductive SceneCommand
  | tags
  | options (name : String)
  /-- Fill a tag; the text should read `name = entity`. -/
  | bind (text : String)
  | unbind (name : String)
  | clear
  | fill
  | render
  | unknown (word : String)
  deriving DecidableEq

/-- What a line asks for. -/
inductive Command
  | quit
  | help
  | templates
  | use (name : String)
  | seed (text : String)
  | scene (c : SceneCommand)
  deriving DecidableEq

/-- The command that a word names, in lower case, with the text that follows it. -/
def Command.ofWord (word rest : String) : Command :=
  match word with
  | "quit" | "exit" | "q" => .quit
  | "help" | "h" | "?" => .help
  | "templates" => .templates
  | "use" => .use rest
  | "seed" => .seed rest
  | "tags" => .scene .tags
  | "options" => .scene (.options rest)
  | "bind" => .scene (.bind rest)
  | "unbind" => .scene (.unbind rest)
  | "clear" => .scene .clear
  | "fill" => .scene .fill
  | "render" => .scene .render
  | _ => .scene (.unknown word)

/-- The command of a line, unless the line is blank. The first word names it, in whatever case. -/
def Command.ofLine? (line : String) : Option Command :=
  match Text.trim line.toList with
  | [] => none
  | cs =>
    let word := Text.lower (cs.takeWhile fun c => !Text.isBlank c)
    let rest := Text.trim (cs.dropWhile fun c => !Text.isBlank c)
    some (.ofWord (String.ofList word) (String.ofList rest))

/-- The tag name and the entity name on the two sides of the first equals sign. -/
def bindSides? (text : String) : Option (String × String) :=
  (Text.cut '=' text.toList).map fun (tag, entity) =>
    (String.ofList (Text.trim tag), String.ofList (Text.trim entity))

/-! ## Texts -/

/-- The text with spaces after it, up to a width in characters. -/
def padded (width : Nat) (s : String) : String :=
  s ++ String.ofList (List.replicate (width - s.length) ' ')

/-- The list of commands. -/
def helpText : String := asLines [
  "Commands:",
  "  templates               List loaded templates",
  "  use <template>          Start a scene from a template",
  "  tags                    List tags by sentence with their bindings",
  "  options <tag>           List entities that can fill a tag",
  "  bind <tag> = <entity>   Fill a tag",
  "  unbind <tag>            Empty a tag",
  "  clear                   Empty every tag",
  "  fill                    Fill remaining tags at random",
  "  seed <n>                Set RNG seed for fill",
  "  render                  Print the scene",
  "  help                    Show this help",
  "  quit                    Exit"]

/-- A tag with what fills it. -/
def tagLine (s : Scene) (tag : Tag) : String :=
  match s.selection.nameFor? tag with
  | some name => s!"  {padded 28 tag.display} = {name}\n"
  | none => s!"  {padded 28 tag.display}   (unbound)\n"

/-- The tags of each sentence with what fills them. -/
def tagsText (s : Scene) : String :=
  String.join (s.template.tagsBySentence.map fun (order, tags) =>
    s!"Sentence {order}\n" ++ String.join (tags.map (tagLine s)))

/-- An entity among the options of a tag. -/
def optionLine (e : Entity) : String :=
  if e.description = "" then s!"  {e.name}\n" else s!"  {e.name} — {e.description}\n"

/-- The options of the tag of that name. -/
def optionsText (s : Scene) (catalog : Catalog) (name : String) : String :=
  match s.template.findTag? name with
  | none => s!"Tag '{name}' not found.\n"
  | some tag =>
    match s.options tag catalog with
    | [] => s!"No available {tag.kind.token} entities for '{tag.name}'.\n"
    | options => String.join (options.map optionLine)

/-- What a binding changed. -/
def outcomeText (tag entity : String) : BindOutcome → String
  | .unchanged => s!"'{tag}' already holds {entity}.\n"
  | .bound => s!"'{tag}' = {entity}\n"
  | .replaced previous cleared =>
    s!"'{tag}' = {entity} (was {previous})\n" ++
      String.join (cleared.map fun name => s!"  cleared '{name}', it followed {previous}\n")

/-- The scene, with the tags that are still empty. -/
def renderText (s : Scene) : String :=
  let unbound := match s.unboundTags with
    | [] => ""
    | tags => "Unbound: " ++ Text.join ", " (tags.map Tag.display) ++ "\n"
  s!"\n--- Scene ---\n{s.render}\n--- End ---\n{unbound}\n"

/-! ## Sessions -/

/-- Everything a session knows. -/
structure Session where
  library : Library
  catalog : Catalog
  settings : Settings
  seed : Nat
  scene : Option Scene := none

/-- What a command prints, and the session after it unless it has ended. -/
structure Reply where
  output : String
  next : Option Session

namespace Session

/-- A session at its beginning. -/
def opened (library : Library) (catalog : Catalog) (settings : Settings) (seed : Nat) : Session :=
  { library, catalog, settings, seed }

/-- What stands before a line. -/
def prompt (s : Session) : String :=
  match s.scene with
  | some scene => s!"preview [{scene.template.name}]> "
  | none => "preview> "

/-- What is said first. -/
def greeting (s : Session) : String :=
  s!"Loaded {s.library.size} templates, {s.catalog.size} entities\n" ++
    s!"Uniqueness: {s.settings.policy.display}\nSeed: {s.seed}\n" ++
    "Type 'help' for commands.\n\n"

/-- Fill a tag of the scene by name. -/
def bind (catalog : Catalog) (scene : Scene) (text : String) : String × Scene :=
  match bindSides? text with
  | none => ("Usage: bind <tag> = <entity>\n", scene)
  | some (tag, entity) =>
    match catalog.get? entity with
    | none => (s!"Entity '{entity}' not found.\n", scene)
    | some e =>
      match scene.bindByName tag e with
      | .ok (outcome, scene') => (outcomeText tag e.name outcome, scene')
      | .error err => (s!"ERROR: {err.message}\n", scene)

/-- What a command to the scene prints, and the scene after it. -/
def play (catalog : Catalog) (seed : Nat) (scene : Scene) : SceneCommand → String × Scene
  | .tags => (tagsText scene, scene)
  | .options name => (optionsText scene catalog name, scene)
  | .bind text => bind catalog scene text
  | .unbind name =>
    match scene.unbind name with
    | (some e, scene') => (s!"'{name}' emptied (was {e.name}).\n", scene')
    | (none, scene') => (s!"'{name}' was not bound.\n", scene')
  | .clear => ("All tags emptied.\n", scene.clear)
  | .fill =>
    match scene.autoFill catalog seed with
    | (.ok filled, scene') => (s!"Filled {filled} tags.\n", scene')
    | (.error err, scene') => (s!"ERROR: {err.message}\n", scene')
  | .render => (renderText scene, scene)
  | .unknown word => (s!"Unknown command: {word}. Type 'help' for commands.\n", scene)

/-- Begin with a template. The first scene of a session is made from its settings; later ones take
over what the scene before them had. -/
def start (s : Session) (template : Template) : Session :=
  match s.scene with
  | some scene => { s with scene := some (scene.replaceTemplate template) }
  | none => { s with scene := some (.ofTemplate template s.settings) }

/-- What a command prints, and the session after it. -/
def step (s : Session) : Command → Reply
  | .quit => ⟨"Goodbye.\n", none⟩
  | .help => ⟨helpText, s⟩
  | .templates => ⟨asLines (s.library.names.map fun name => "  " ++ name), s⟩
  | .use name =>
    if name = "" then ⟨"Usage: use <template>\n", s⟩
    else
      match s.library.get? name with
      | some template => ⟨s!"Using template '{name}'.\n", s.start template⟩
      | none => ⟨s!"Template '{name}' not found.\n", s⟩
  | .seed text =>
    if text = "" then ⟨s!"Current seed: {s.seed}\n", s⟩
    else
      match Text.readWord? text with
      | some seed => ⟨s!"Seed set to {seed}\n", some { s with seed }⟩
      | none => ⟨s!"Invalid seed: {text}\n", s⟩
  | .scene c =>
    match s.scene with
    | none => ⟨"No template selected. Use 'templates' and 'use <template>' first.\n", s⟩
    | some scene =>
      let (output, scene') := play s.catalog s.seed scene c
      ⟨output, some { s with scene := some scene' }⟩

/-- What a line prints, and the session after it. A blank line does nothing. -/
def stepLine (s : Session) (line : String) : Reply :=
  match Command.ofLine? line with
  | none => ⟨"", s⟩
  | some c => s.step c

/-- What a run of lines prints, with a prompt before each and before their end. -/
def transcript (s : Session) : List String → String
  | [] => s.prompt
  | line :: lines =>
    let reply := s.stepLine line
    s.prompt ++ reply.output ++
      match reply.next with
      | none => ""
      | some s' => s'.transcript lines

end Session

end StoryBlanks.Preview
