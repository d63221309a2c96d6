import StoryBlanks.Text.Lowercase

/-!
# Kinds of entity

The five kinds a blank can ask for, with the tokens that name them in a sentence.

* `ofToken?_token`: the written token of a kind reads back.
-/

namespace StoryBlanks

/-- What a blank asks for and an entity is. -/
inductive Kind
  | character
  | building
  | creature
  | objectProp
  | landmark
  deriving DecidableEq

namespace Kind

/-- Every kind, in the order of reports. -/
def all : List Kind := [character, building, creature, objectProp, landmark]

theorem mem_all (k : Kind) : k ∈ all := by cases k <;> decide

/-- The token that a kind is written with. -/
def token : Kind → String
  | character => "character"
  | building => "structure"
  | creature => "creature"
  | objectProp => "object_prop"
  | landmark => "landmark"

/-- The tokens that a sentence may use, in lower case. -/
def tokens : List (String × Kind) :=
  ("object", objectProp) :: all.map fun k => (k.token, k)

/-- The kind that a token names, whatever its case; blanks around the token are not forgiven. -/
def ofToken? (token : String) : Option Kind := tokens.lookup (Text.lowered token)

theorem ofToken?_token (k : Kind) : ofToken? k.token = some k := by
  cases k <;> decide

/-- The kind with this very token; neither case nor the short form of an object is forgiven. -/
def ofExactToken? (token : String) : Option Kind := all.find? fun k => k.token = token

theorem ofExactToken?_token (k : Kind) : ofExactToken? k.token = some k := by
  cases k <;> decide

end Kind

end StoryBlanks
