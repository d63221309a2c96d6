/-!
# Settings of a scene

How freely an entity may be reused in a scene, and what stands between its sentences.
-/

namespace StoryBlanks

/-- How freely an entity may fill several tags. -/
inductive ReusePolicy
  /-- An entity fills at most one tag name. -/
  | strict
  /-- An entity may fill further tags, each in a sentence after those it fills already. -/
  | downstream
  deriving DecidableEq

namespace ReusePolicy

/-- Both policies. -/
def all : List ReusePolicy := [strict, downstream]

/-- The token that the policy is stored as. -/
def token : ReusePolicy → String
  | strict => "strict"
  | downstream => "downstream_recurrence"

/-- The policy with this token. -/
def ofToken? (token : String) : Option ReusePolicy := all.find? fun p => p.token = token

theorem ofToken?_token (p : ReusePolicy) : ofToken? p.token = some p := by cases p <;> decide

/-- The policy as it is shown. -/
def display : ReusePolicy → String
  | strict => "Strict"
  | downstream => "DownstreamRecurrence"

end ReusePolicy

/-- What can be chosen about a scene. -/
structure Settings where
  policy : ReusePolicy := .strict
  /-- What stands between sentences. -/
  separator : String := " "
  deriving DecidableEq

end StoryBlanks
