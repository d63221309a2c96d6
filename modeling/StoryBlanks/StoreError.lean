import StoryBlanks.FileTree

/-!
# Why nothing was stored or loaded
-/

namespace StoryBlanks

/-- Why a stored value cannot be loaded. -/
inductive LoadError
  | file (e : FileError)
  /-- The text does not hold such a value. -/
  | malformed
  deriving DecidableEq

/-- The error in words. -/
def LoadError.message : LoadError → String
  | file e => s!"IO error: {e.message}"
  | malformed => "the text does not hold such a value"

/-- Why a catalog or a library cannot be built. -/
inductive StoreError
  | load (e : LoadError)
  | duplicateEntity (name : String)
  | duplicateTemplate (name : String)
  deriving DecidableEq

/-- The error in words. -/
def StoreError.message : StoreError → String
  | load e => e.message
  | duplicateEntity name => s!"duplicate entity name: {name}"
  | duplicateTemplate name => s!"duplicate template name: {name}"

end StoryBlanks
