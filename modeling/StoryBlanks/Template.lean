import StoryBlanks.Sentence.Fill

/-!
# Templates

A template is a named list of sentences. A sentence is its place in the list and its text, so the
places are always `0, 1, 2, …`, and the tags of a sentence are read off the text it has now.

* `sentence?_update`: an edit changes one sentence.
* `findTag?_isSome_iff`: a name is found exactly if some sentence has it.
-/

namespace StoryBlanks

/-! ## Sentences -/

/-- A sentence at its place in a template. -/
structure Sentence where
  order : Nat
  text : String
  deriving DecidableEq

namespace Sentence

/-- Everything that a pass over the sentence finds. -/
def scan (s : Sentence) : Scan := Scan.ofText s.text s.order

/-- The tags of the sentence and their places. -/
def located (s : Sentence) : List LocatedTag := locate s.text s.order

/-- The tags of the sentence. -/
def tags (s : Sentence) : List Tag := parse s.text s.order

/-- The text of the sentence with its tags filled in. -/
def render (s : Sentence) (name? : Tag → Option String) : String := substitute name? s.text s.order

theorem order_of_mem_tags {s : Sentence} {t : Tag} (h : t ∈ s.tags) : t.sentence = s.order :=
  sentence_of_mem_parse h

end Sentence

/-! ## Templates -/

/-- A named list of sentence texts. -/
structure Template where
  name : String
  texts : List String := []
  deriving DecidableEq

/-- Why a template cannot be edited. -/
inductive TemplateError
  /-- There are `length` sentences, and none of that order. -/
  | outOfRange (order length : Nat)
  deriving DecidableEq

/-- The error in words. -/
def TemplateError.message : TemplateError → String
  | outOfRange order length => s!"no sentence with order {order} (template has {length})"

namespace Template

/-- The sentences, each with its place. -/
def sentences (t : Template) : List Sentence := t.texts.mapIdx Sentence.mk

/-- The sentence at a place. -/
def sentence? (t : Template) (order : Nat) : Option Sentence :=
  t.texts[order]?.map (Sentence.mk order)

/-- One more sentence at the end. -/
def add (t : Template) (text : String) : Template := { t with texts := t.texts ++ [text] }

/-- Another text for the sentence at a place. -/
def update (t : Template) (order : Nat) (text : String) : Except TemplateError Template :=
  if order < t.texts.length then .ok { t with texts := t.texts.set order text }
  else .error (.outOfRange order t.texts.length)

/-- All tags, by sentence and then by their order in it. -/
def tags (t : Template) : List Tag := t.sentences.flatMap Sentence.tags

/-- The tags of each sentence that has any. -/
def tagsBySentence (t : Template) : List (Nat × List Tag) :=
  t.sentences.filterMap fun s => if s.tags.isEmpty then none else some (s.order, s.tags)

/-- The first tag of that name. -/
def findTag? (t : Template) (name : String) : Option Tag := t.tags.find? fun tag => tag.name = name

/-- Some sentence has a tag of that name. -/
def hasTag (t : Template) (name : String) : Bool :=
  t.sentences.any fun s => s.tags.any fun tag => tag.name = name

/-- The first tag of the same slot. -/
def firstOfSlot? (t : Template) (tag : Tag) : Option Tag := t.tags.find? fun u => u.SameSlot tag

/-- The sentence that a tag names has that tag. -/
def Has (t : Template) (tag : Tag) : Prop := ∃ s, t.sentence? tag.sentence = some s ∧ tag ∈ s.tags

instance (t : Template) (tag : Tag) : Decidable (t.Has tag) :=
  match h : t.sentence? tag.sentence with
  | none => isFalse fun ⟨_, hs, _⟩ => by simp [h] at hs
  | some s =>
    if hm : tag ∈ s.tags then isTrue ⟨s, h, hm⟩
    else isFalse fun ⟨u, hu, hmem⟩ => hm (by
      obtain rfl : s = u := Option.some.inj (h.symm.trans hu)
      exact hmem)

/-- The text as it is written, with `separator` between sentences. -/
def text (t : Template) (separator : String) : String := Text.join separator t.texts

/-- The text with its tags filled in, with `separator` between sentences. -/
def render (t : Template) (name? : Tag → Option String) (separator : String) : String :=
  Text.join separator (t.sentences.map fun s => s.render name?)

/-! ## Places and edits -/

theorem sentence?_eq (t : Template) (order : Nat) : t.sentence? order = t.sentences[order]? := by
  simp [sentence?, sentences]

theorem map_text_sentences (t : Template) : t.sentences.map Sentence.text = t.texts := by
  have hmk : ∀ i, Sentence.text ∘ Sentence.mk i = id := fun _ => rfl
  apply List.ext_getElem?
  intro i
  simp [sentences, hmk]

theorem mem_sentences_iff {t : Template} {s : Sentence} :
    s ∈ t.sentences ↔ t.sentence? s.order = some s := by
  rw [sentence?_eq]
  refine ⟨fun h => ?_, List.mem_of_getElem?⟩
  obtain ⟨i, hi, rfl⟩ := List.mem_iff_getElem.1 h
  simp [sentences] at hi ⊢

theorem mem_tags_iff {t : Template} {tag : Tag} : tag ∈ t.tags ↔ t.Has tag := by
  simp only [tags, List.mem_flatMap, Has]
  constructor
  · rintro ⟨s, hs, htag⟩
    exact ⟨s, by rw [Sentence.order_of_mem_tags htag]; exact mem_sentences_iff.1 hs, htag⟩
  · rintro ⟨s, hs, htag⟩
    refine ⟨s, mem_sentences_iff.2 ?_, htag⟩
    rwa [← Sentence.order_of_mem_tags htag]

theorem sentence?_update {t u : Template} {order : Nat} {text : String}
    (h : t.update order text = .ok u) (place : Nat) :
    u.sentence? place = if place = order then some ⟨order, text⟩ else t.sentence? place := by
  unfold update at h
  split at h
  · next hlt =>
    cases h
    by_cases hp : place = order
    · subst hp
      simp [sentence?, hlt]
    · simp [sentence?, hp, List.getElem?_set_ne (Ne.symm hp)]
  · cases h

theorem findTag?_isSome_iff (t : Template) (name : String) :
    (t.findTag? name).isSome = t.hasTag name := by
  rw [Bool.eq_iff_iff]
  simp [findTag?, hasTag, tags, List.find?_isSome]

end Template

end StoryBlanks
