/-!
# Whole numbers in decimal
-/

namespace StoryBlanks.Text

/-- Numbers that fit a word of 64 bits are below this. -/
def wordLimit : Nat := UInt64.size

/-- The number that a text of digits stands for, if it fits a word; a plus sign may come first. -/
def readWord? (s : String) : Option Nat :=
  let digits := match s.toList with
    | '+' :: ds => ds
    | ds => ds
  if digits.isEmpty || digits.any (!·.isDigit) then none
  else
    let n := Nat.ofDigitChars 10 digits 0
    if n < wordLimit then some n else none

end StoryBlanks.Text
