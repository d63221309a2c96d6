import StoryBlanks.Kind

/-!
# Entities

What a blank is filled with. A name belongs to one entity of a catalog, whatever the kinds.
-/

namespace StoryBlanks

/-- Someone or something that can fill a blank of its kind. -/
structure Entity where
  name : String
  kind : Kind
  description : String := ""
  states : List String := []
  deriving DecidableEq

/-- The entity in one line. -/
def Entity.display (e : Entity) : String := s!"{e.kind.token}: {e.name}"

end StoryBlanks
