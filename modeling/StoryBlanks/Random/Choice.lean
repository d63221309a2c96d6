import StoryBlanks.Random.ChaCha

/-!
# Fair choices

An index below a bound, drawn from a stream of words. A word is scaled to the bound; the words that
would favour some indexes are passed over, so that every index has the same number of words.
-/

namespace StoryBlanks.Random

/-- A way to choose among one or more options: from a state and the number of options after the
first, an option and the next state. -/
abbrev Chooser (γ : Type) := γ → (more : Nat) → Fin (more + 1) × γ

/-- The largest low half of a scaled word that is taken, for a bound from 1 to `2 ^ 32 - 1`. -/
def zone (bound : Nat) : Nat := (bound <<< (31 - bound.log2)) - 1

theorem scaled_lt (w : UInt32) (more : Nat) : w.toNat * (more + 1) / UInt32.size < more + 1 := by
  refine Nat.div_lt_of_lt_mul ?_
  exact Nat.mul_lt_mul_of_pos_right w.toNat_lt (Nat.succ_pos more)

/-- The first index that a run of `words` words gives, and the first one if they give none. -/
def chooseWithin : Nat → Chooser Generator
  | 0, g, _ => (0, g)
  | words + 1, g, more =>
    if g.word.toNat * (more + 1) % UInt32.size ≤ zone (more + 1) then
      (⟨g.word.toNat * (more + 1) / UInt32.size, scaled_lt g.word more⟩, g.next)
    else chooseWithin words g.next more

/-- An index drawn from the stream. A word is drawn also when there is only one option. A whole
period without a word to take would mean that the stream has none. -/
def choose : Chooser Generator := chooseWithin Generator.period

end StoryBlanks.Random
