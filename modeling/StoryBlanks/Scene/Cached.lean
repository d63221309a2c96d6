import StoryBlanks.Scene.Basic
import StoryBlanks.Template.Cached

/-!
# Binding in a template that keeps its tags

A scene whose template keeps the tags of its sentences asks it before it binds. What the template
keeps from then on stays, also where nothing could be bound.

* `CachedScene.bind`, `CachedScene.bindByName`: fill a tag of the template.
* `plain`: the scene without what is kept.
-/

namespace StoryBlanks

/-- A template in play, the sentences of which may keep their tags. -/
structure CachedScene where
  template : CachedTemplate
  selection : Selection
  /-- What stands between sentences. -/
  separator : String

namespace CachedScene

/-- The scene without what its template keeps. -/
def plain (s : CachedScene) : Scene := ⟨s.template.plain, s.selection, s.separator⟩

/-- What an attempt to change the selection gave, and the scene that it leaves. -/
def withSelection (s : CachedScene) (change : Except BindError (BindOutcome × Selection)) :
    Except SceneError BindOutcome × CachedScene :=
  match change with
  | .error e => (.error (.selection e), s)
  | .ok (outcome, selection) => (.ok outcome, { s with selection })

/-- Bind an entity to a tag that occurs in the template. -/
def bind (s : CachedScene) (tag : Tag) (entity : Entity) :
    Except SceneError BindOutcome × CachedScene :=
  let (located?, template) := s.template.locatedAt tag.sentence
  let s' := { s with template }
  if ∃ located ∈ located?, tag ∈ located.map (·.tag) then
    s'.withSelection (s.selection.bind tag entity)
  else (.error (.unknownTag tag.display), s')

/-- Bind an entity to the first tag of that name. -/
def bindByName (s : CachedScene) (name : String) (entity : Entity) :
    Except SceneError BindOutcome × CachedScene :=
  let (tag?, template) := s.template.findTag name
  let s' := { s with template }
  match tag? with
  | none => (.error (.unknownTag name), s')
  | some tag => s'.withSelection (s.selection.bind tag entity)

end CachedScene

end StoryBlanks
