import StoryBlanks.Sentence.Scan

/-!
# Filling a sentence

A tag that has a name to show is replaced by it; every other character of the sentence stays, in
its place. The names put in are not scanned again.

* `substitute_none`: with no names to show, the sentence stays as it is.
-/

namespace StoryBlanks

namespace BracePair

/-- The name to show in place of the pair. -/
def filling? (name? : Tag → Option String) (sentence : Nat) (p : BracePair) : Option String :=
  match readBody p.body sentence with
  | .ok tag => name? tag
  | .error _ => none

/-- The pair, with its braces replaced if there is a name to show. -/
def fill (name? : Tag → Option String) (sentence : Nat) (p : BracePair) : List Char :=
  match p.filling? name? sentence with
  | some name => p.gap ++ name.toList
  | none => p.text

end BracePair

/-- The text of a layout with its tags filled in. -/
def Layout.fill (name? : Tag → Option String) (sentence : Nat) (l : Layout) : List Char :=
  l.pairs.flatMap (BracePair.fill name? sentence) ++ l.ending.text

/-- The sentence of that number and text with its tags filled in. -/
def substitute (name? : Tag → Option String) (text : String) (sentence : Nat) : String :=
  String.ofList ((Layout.ofText text.toList).fill name? sentence)

theorem BracePair.fill_of_filling?_none {name? : Tag → Option String} {sentence : Nat}
    {p : BracePair} (h : p.filling? name? sentence = none) : p.fill name? sentence = p.text := by
  simp [fill, h]

theorem substitute_none {name? : Tag → Option String} {text : String} {sentence : Nat}
    (h : ∀ t ∈ parse text sentence, name? t = none) : substitute name? text sentence = text := by
  have hpairs : ∀ p ∈ (Layout.ofText text.toList).pairs, p.fill name? sentence = p.text := by
    intro p hp
    apply BracePair.fill_of_filling?_none
    unfold BracePair.filling?
    split
    · next tag htag =>
      exact h tag (mem_parse_iff.2 ⟨p, hp, htag⟩)
    · rfl
  have hmap : ∀ ps : List BracePair, (∀ p ∈ ps, p.fill name? sentence = p.text) →
      ps.flatMap (BracePair.fill name? sentence) = ps.flatMap BracePair.text := by
    intro ps hps
    induction ps with
    | nil => rfl
    | cons p ps ih =>
      rw [List.flatMap_cons, List.flatMap_cons, hps p List.mem_cons_self,
        ih fun q hq => hps q (List.mem_cons_of_mem _ hq)]
  rw [substitute, Layout.fill, hmap _ hpairs]
  change String.ofList (Layout.ofText text.toList).text = text
  rw [Layout.text_ofText, String.ofList_toList]

end StoryBlanks
