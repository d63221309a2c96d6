/-!
# Outcomes of commands
-/

namespace StoryBlanks

/-- What a command leaves behind. -/
structure Outcome where
  /-- What it prints. -/
  output : String
  /-- What it complains about, apart from its output. -/
  complaints : String := ""
  /-- Zero if all went well. -/
  exit : Nat := 0

/-- The texts, each on a line of its own. -/
def asLines (texts : List String) : String := String.join (texts.map fun text => text ++ "\n")

end StoryBlanks
