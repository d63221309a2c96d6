import StoryBlanks.Random.Choice
import StoryBlanks.Scene.Basic

/-!
# Filling what is left

Every empty slot gets one of its options, in the order of the template, until one has none. The
bindings made before that stay.
-/

namespace StoryBlanks.Scene

/-- Fill tags one after another, with options that `choose` picks; how many were filled, and the
scene as far as it was filled. -/
def fillTags {γ : Type} (choose : Random.Chooser γ) (catalog : Catalog) :
    List Tag → γ → Scene → Except SceneError Nat × Scene
  | [], _, s => (.ok 0, s)
  | tag :: tags, g, s =>
    match s.options tag catalog with
    | [] => (.error (.noOptions tag), s)
    | first :: more =>
      let (i, g') := choose g more.length
      match s.withSelection (s.selection.bind tag (first :: more)[i]) with
      | .error e => (.error e, s)
      | .ok (_, s') =>
        let (filled, last) := fillTags choose catalog tags g' s'
        (filled.map (· + 1), last)

/-- Fill every empty slot, with options that `choose` picks. -/
def fillWith {γ : Type} (choose : Random.Chooser γ) (s : Scene) (catalog : Catalog) (g : γ) :
    Except SceneError Nat × Scene :=
  fillTags choose catalog s.unboundTags g s

/-- Fill every empty slot at random, from a seed. -/
def autoFill (s : Scene) (catalog : Catalog) (seed : Nat) : Except SceneError Nat × Scene :=
  s.fillWith Random.choose catalog (.ofSeed seed)

end StoryBlanks.Scene
