import StoryBlanks.Ordered
import StoryBlanks.Template

/-!
# Templates that keep their tags

A sentence that is asked for its tags reads them off its text once, and keeps them until its text
changes. So a question changes what is kept: it gives an answer, and the template from then on. It
asks the sentences in order, and no further than it has to.

* `CachedSentence.located`: the tags, read or kept; `CachedSentence.setText` lets go of them.
* `CachedTemplate.add`, `update`, `copy`: edits, and a copy with all that is kept.
* `tags`, `tagsBySentence`, `hasTag`, `findTag`, `locatedAt`: the questions.
* `plain`: the name and the texts, which is what counts when templates are compared (`Same`).
-/

namespace StoryBlanks

/-! ## Sentences -/

/-- A sentence at its place, and its tags if it has been asked for them. -/
structure CachedSentence where
  order : Nat
  text : String
  kept : Option (List LocatedTag) := none
  deriving DecidableEq

namespace CachedSentence

/-- The tags and their places, kept or else read now. -/
def located (s : CachedSentence) : List LocatedTag × CachedSentence :=
  match s.kept with
  | some tags => (tags, s)
  | none => (locate s.text s.order, { s with kept := some (locate s.text s.order) })

/-- The tags. -/
def tags (s : CachedSentence) : List Tag × CachedSentence :=
  let (located, s') := s.located
  (located.map (·.tag), s')

/-- The place and the tags of a sentence that has any. -/
def listed? (s : CachedSentence) : Option (Nat × List Tag) × CachedSentence :=
  let (located, s') := s.located
  if located.isEmpty then (none, s')
  else
    let (tags, s'') := s'.tags
    (some (s''.order, tags), s'')

/-- Another text, of which nothing is known yet. -/
def setText (s : CachedSentence) (text : String) : CachedSentence := { s with text, kept := none }

/-- The same sentence once more, with what it keeps. -/
def copy (s : CachedSentence) : CachedSentence := ⟨s.order, s.text, s.kept⟩

/-- The place and the text. -/
def plain (s : CachedSentence) : Sentence := ⟨s.order, s.text⟩

end CachedSentence

/-! ## Templates -/

/-- A named list of sentences, each of which may keep its tags. -/
structure CachedTemplate where
  name : String
  sentences : List CachedSentence := []
  deriving DecidableEq

namespace CachedTemplate

/-- One more sentence at the end. -/
def add (t : CachedTemplate) (text : String) : CachedTemplate :=
  { t with sentences := t.sentences ++ [⟨t.sentences.length, text, none⟩] }

/-- The template of a name and texts. -/
def ofTexts (name : String) (texts : List String) : CachedTemplate := texts.foldl add { name }

/-- Another text for the sentence at a place. -/
def update (t : CachedTemplate) (order : Nat) (text : String) :
    Except TemplateError CachedTemplate :=
  match t.sentences[order]? with
  | none => .error (.outOfRange order t.sentences.length)
  | some s => .ok { t with sentences := t.sentences.set order (s.setText text) }

/-- The same template once more, with what its sentences keep. -/
def copy (t : CachedTemplate) : CachedTemplate := ⟨t.name, t.sentences.map CachedSentence.copy⟩

/-- The name and the texts. -/
def plain (t : CachedTemplate) : Template := ⟨t.name, t.sentences.map (·.text)⟩

/-- The templates have one name and the same sentences, whatever these keep. -/
def Same (t u : CachedTemplate) : Prop :=
  t.name = u.name ∧ t.sentences.map CachedSentence.plain = u.sentences.map CachedSentence.plain

instance (t u : CachedTemplate) : Decidable (t.Same u) := inferInstanceAs (Decidable (_ ∧ _))

/-! ## Questions -/

/-- All tags, by sentence and then by their order in it. -/
def tags (t : CachedTemplate) : List Tag × CachedTemplate :=
  (t.sentences.flatMap (·.tags.1), { t with sentences := t.sentences.map (·.tags.2) })

/-- The tags of each sentence that has any, in the order of the places. -/
def tagsBySentence (t : CachedTemplate) : List (Nat × List Tag) × CachedTemplate :=
  (Ordered.ofEntries (t.sentences.filterMap (·.listed?.1)),
    { t with sentences := t.sentences.map (·.listed?.2) })

/-- What `pick` finds in the tags of the first sentence in which it finds something. The sentences
after that one are not asked. -/
def pickFirst {α : Type} (pick : List Tag → Option α) :
    List CachedSentence → Option α × List CachedSentence
  | [] => (none, [])
  | s :: ss =>
    let (tags, s') := s.tags
    match pick tags with
    | some a => (some a, s' :: ss)
    | none =>
      let (found, ss') := pickFirst pick ss
      (found, s' :: ss')

/-- The first tag of that name. -/
def findTag (t : CachedTemplate) (name : String) : Option Tag × CachedTemplate :=
  let (found, sentences) := pickFirst (·.find? fun tag => tag.name = name) t.sentences
  (found, { t with sentences })

/-- Some sentence has a tag of that name. -/
def hasTag (t : CachedTemplate) (name : String) : Bool × CachedTemplate :=
  let (found, sentences) := pickFirst
    (fun tags => if tags.any fun tag => tag.name = name then some () else none) t.sentences
  (found.isSome, { t with sentences })

/-- The tags of the sentence at a place and where they stand. -/
def locatedAt (t : CachedTemplate) (order : Nat) : Option (List LocatedTag) × CachedTemplate :=
  match t.sentences[order]? with
  | none => (none, t)
  | some s =>
    let (located, s') := s.located
    (some located, { t with sentences := t.sentences.set order s' })

end CachedTemplate

end StoryBlanks
