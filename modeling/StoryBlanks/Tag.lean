import StoryBlanks.Kind

/-!
# Tags

A tag is a blank of a sentence: its kind, its name, and the number of the sentence. The kind and
the name make the slot, which may occur many times and is filled once.
-/

namespace StoryBlanks

/-- A blank found in a sentence. -/
structure Tag where
  kind : Kind
  name : String
  sentence : Nat
  deriving DecidableEq

namespace Tag

/-- The tag as it is written in a sentence. -/
def literal (t : Tag) : String := "\x7b" ++ t.kind.token ++ ":" ++ t.name ++ "\x7d"

/-- The tag as it is shown. -/
def display (t : Tag) : String := s!"{t.kind.token}:{t.name}"

/-- The two tags ask for the same slot, in whichever sentences. -/
def SameSlot (s t : Tag) : Prop := s.name = t.name ∧ s.kind = t.kind

instance : DecidableRel SameSlot := fun _ _ => inferInstanceAs (Decidable (_ ∧ _))

theorem SameSlot.refl (t : Tag) : SameSlot t t := ⟨rfl, rfl⟩

theorem SameSlot.symm {s t : Tag} (h : SameSlot s t) : SameSlot t s := ⟨h.1.symm, h.2.symm⟩

theorem SameSlot.trans {s t u : Tag} (h : SameSlot s t) (k : SameSlot t u) : SameSlot s u :=
  ⟨h.1.trans k.1, h.2.trans k.2⟩

end Tag

end StoryBlanks
