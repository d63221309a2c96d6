import StoryBlanks.Catalog
import StoryBlanks.Library
import StoryBlanks.RecordText.Stored

/-!
# Loading from record text

Settings, catalogs and libraries, from text and from files. A catalog is a list of entities and a
library a list of templates, neither with a name twice.
-/

namespace StoryBlanks

open RecordText

/-- The value that a text holds, or that it holds none. -/
def readStored (α : Type) [Stored α] (text : String) : Except LoadError α :=
  match read? α text with
  | some a => .ok a
  | none => .error .malformed

/-- The settings that a text holds. -/
def Settings.ofText (text : String) : Except LoadError Settings := readStored Settings text

/-- The settings that bytes hold. -/
def Settings.ofBytes (bytes : ByteArray) : Except LoadError Settings :=
  match textOf bytes with
  | .ok text => Settings.ofText text
  | .error e => .error (.file e)

/-- The settings of a file. -/
def Settings.load (disk : Disk) (path : String) : Except LoadError Settings :=
  match disk.read path with
  | .ok bytes => Settings.ofBytes bytes
  | .error e => .error (.file e)

/-- The catalog that a text holds. -/
def Catalog.ofText (text : String) : Except StoreError Catalog :=
  match readStored (List Entity) text with
  | .ok es => Catalog.ofList es
  | .error e => .error (.load e)

/-- The catalog that bytes hold. -/
def Catalog.ofBytes (bytes : ByteArray) : Except StoreError Catalog :=
  match textOf bytes with
  | .ok text => Catalog.ofText text
  | .error e => .error (.load (.file e))

/-- The catalog of a file. -/
def Catalog.load (disk : Disk) (path : String) : Except StoreError Catalog :=
  match disk.read path with
  | .ok bytes => Catalog.ofBytes bytes
  | .error e => .error (.load (.file e))

/-- The library that a text holds. -/
def Library.ofText (text : String) : Except StoreError Library :=
  match readStored (List Template) text with
  | .ok ts => Library.ofList ts
  | .error e => .error (.load e)

/-- The library that bytes hold. -/
def Library.ofBytes (bytes : ByteArray) : Except StoreError Library :=
  match textOf bytes with
  | .ok text => Library.ofText text
  | .error e => .error (.load (.file e))

/-- The library of a file. -/
def Library.load (disk : Disk) (path : String) : Except StoreError Library :=
  match disk.read path with
  | .ok bytes => Library.ofBytes bytes
  | .error e => .error (.load (.file e))

end StoryBlanks
