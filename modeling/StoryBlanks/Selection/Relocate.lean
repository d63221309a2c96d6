import StoryBlanks.Selection.Basic

/-!
# Moving bindings

When the sentences of a template change, each binding is pointed at the tag where its slot is now.
A binding whose slot is gone is dropped; so is one that would come to stand in the same sentence as
another holder of its entity.
-/

namespace StoryBlanks.Selection

/-- Another name holds that entity in that sentence. -/
def Crowded (s : Selection) (name entity : String) (sentence : Nat) : Prop :=
  ∃ e ∈ s.bindings.entries, e.1 ≠ name ∧ e.2.entity.name = entity ∧ e.2.tag.sentence = sentence

instance (s : Selection) (name entity : String) (sentence : Nat) :
    Decidable (s.Crowded name entity sentence) :=
  inferInstanceAs (Decidable (∃ e ∈ s.bindings.entries, _))

/-- Point the binding under a name at a tag. -/
def point (s : Selection) (name : String) (tag : Tag) : Selection :=
  { s with bindings := s.bindings.modify name fun b => { b with tag } }

/-- Point bindings at tags one after another, and drop those that would be crowded. -/
def moveAll (s : Selection) : List (String × Tag) → List String × Selection
  | [] => ([], s)
  | (name, tag) :: moves =>
    match s.get? name with
    | none => s.moveAll moves
    | some b =>
      if s.Crowded name b.entity.name tag.sentence then
        let (dropped, s') := (s.drop name).moveAll moves
        (name :: dropped, s')
      else (s.point name tag).moveAll moves

/-- The names whose bindings have no tag to go to. -/
def lostNames (s : Selection) (locate : Binding → Option Tag) : List String :=
  (s.bindings.filter fun _ b => locate b = none).keys

/-- The names whose bindings go to another tag, in order, with that tag. -/
def moves (s : Selection) (locate : Binding → Option Tag) : List (String × Tag) :=
  let moved := s.bindings.entries.filterMap fun (name, b) =>
    match locate b with
    | none => none
    | some tag => if tag = b.tag then none else some (name, tag)
  moved.mergeSort fun a b => a.1 ≤ b.1

/-- Point each binding at the tag that `locate` finds for it; also the names that were dropped.
Those with no tag to go to are dropped before any other binding moves. -/
def relocate (s : Selection) (locate : Binding → Option Tag) : List String × Selection :=
  let lost := s.lostNames locate
  let (crowded, s') := (lost.foldl drop s).moveAll (s.moves locate)
  (lost ++ crowded, s')

end StoryBlanks.Selection
