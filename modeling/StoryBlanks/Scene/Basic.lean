import StoryBlanks.Catalog
import StoryBlanks.Selection.Relocate
import StoryBlanks.Template

/-!
# Scenes

A scene is a template in play: the template, who fills which of its tags, and what stands between
its sentences.

* `Scene.bind`, `Scene.bindByName`: fill a tag of the template.
* `Scene.options`: the entities of a catalog that can fill a tag now.
* `Scene.unboundTags`: the slots that are still empty.
* `Scene.updateSentence`: edit a sentence and let the bindings follow their slots.
-/

namespace StoryBlanks

/-- A template in play. -/
structure Scene where
  template : Template
  selection : Selection
  /-- What stands between sentences. -/
  separator : String

/-- Why a scene cannot be prepared or changed. -/
inductive SceneError
  | template (e : TemplateError)
  | selection (e : BindError)
  | store (e : StoreError)
  /-- The template has no such tag; the text shows what was asked for. -/
  | unknownTag (text : String)
  /-- No entity is left for the tag. -/
  | noOptions (tag : Tag)
  deriving DecidableEq

/-- The error in words. -/
def SceneError.message : SceneError → String
  | template e => s!"template error: {e.message}"
  | selection e => s!"selection error: {e.message}"
  | store e => s!"store error: {e.message}"
  | unknownTag text => s!"tag not found in template: {text}"
  | noOptions tag => s!"no entity available for tag: {tag.display}"

namespace Scene

/-- A template with nothing bound. -/
def ofTemplate (template : Template) (settings : Settings) : Scene :=
  ⟨template, .empty settings.policy, settings.separator⟩

/-! ## Binding -/

/-- The scene after a change of its selection, and what the change gave. -/
def withSelection (s : Scene) (change : Except BindError (BindOutcome × Selection)) :
    Except SceneError (BindOutcome × Scene) :=
  match change with
  | .error e => .error (.selection e)
  | .ok (outcome, selection) => .ok (outcome, { s with selection })

/-- Bind an entity to a tag that occurs in the template. -/
def bind (s : Scene) (tag : Tag) (entity : Entity) : Except SceneError (BindOutcome × Scene) :=
  if s.template.Has tag then s.withSelection (s.selection.bind tag entity)
  else .error (.unknownTag tag.display)

/-- Bind an entity to the first tag of that name. -/
def bindByName (s : Scene) (name : String) (entity : Entity) :
    Except SceneError (BindOutcome × Scene) :=
  match s.template.findTag? name with
  | none => .error (.unknownTag name)
  | some tag => s.withSelection (s.selection.bind tag entity)

/-- Empty a tag name; also the entity that it held. -/
def unbind (s : Scene) (name : String) : Option Entity × Scene :=
  let (binding, selection) := s.selection.unbind name
  (binding.map (·.entity), { s with selection })

/-- Empty every tag. -/
def clear (s : Scene) : Scene := { s with selection := s.selection.clear }

/-! ## Looking -/

/-- The entity can fill the tag now, or holds it already. -/
def CanFill (s : Scene) (tag : Tag) (entity : Entity) : Prop :=
  (∃ b ∈ s.selection.get? tag.name, b.entity.name = entity.name) ∨
    s.selection.obstacle? tag entity = none

instance (s : Scene) (tag : Tag) (entity : Entity) : Decidable (s.CanFill tag entity) :=
  inferInstanceAs (Decidable ((∃ b ∈ s.selection.get? tag.name, _) ∨ _))

/-- The entities of the tag's kind that can fill it now, in the order of the catalog. -/
def options (s : Scene) (tag : Tag) (catalog : Catalog) : List Entity :=
  (catalog.ofKind tag.kind).filter fun e => s.CanFill tag e

/-- The tags of a list whose slots have not come before, in the list or in `seen`. -/
def firstOfSlots (seen : List Tag) : List Tag → List Tag
  | [] => []
  | t :: ts =>
    if ∃ u ∈ seen, u.SameSlot t then firstOfSlots seen ts
    else t :: firstOfSlots (t :: seen) ts

/-- The first tag of each slot that nothing fills, in the order of the template. -/
def unboundTags (s : Scene) : List Tag :=
  (firstOfSlots [] s.template.tags).filter fun t => (s.selection.bindingFor? t).isNone

/-- Every slot is filled. -/
def isComplete (s : Scene) : Bool := s.unboundTags.isEmpty

/-- The text of the scene: names where tags are filled, and all else as it is written. -/
def render (s : Scene) : String := s.template.render s.selection.nameFor? s.separator

/-! ## Changing the template -/

/-- Play another template, with nothing bound. -/
def replaceTemplate (s : Scene) (template : Template) : Scene :=
  { s with template, selection := .empty s.selection.policy }

/-- Edit a sentence. Each binding goes to the first tag of its slot, and is dropped if there is
none or if it may not stand there. -/
def updateSentence (s : Scene) (order : Nat) (text : String) : Except SceneError Scene :=
  match s.template.update order text with
  | .error e => .error (.template e)
  | .ok template =>
    let (_, selection) := s.selection.relocate fun b => template.firstOfSlot? b.tag
    .ok { s with template, selection }

end Scene

end StoryBlanks
