import StoryBlanks.FileTree
import StoryBlanks.Ordered
import StoryBlanks.RecordText.Load

/-!
# Libraries with keys

A library of any size keeps its templates under keys, in the order of these. A template that is
inserted goes under its own name; when libraries are merged, only the keys are looked at. The type
does not say that a key is the name of its template.

* `insert`: one more template, if there is none under its name.
* `merge`: what stands under the keys of another library takes the place of what stood there.
* `ofText`: the library that a text holds; `loadFile`, `loadFiles`: files loaded one after another.
-/

namespace StoryBlanks

/-- Templates under keys, in the order of these. -/
structure KeyedLibrary where
  entries : List (String × Template) := []

namespace KeyedLibrary

/-- The library that holds nothing. -/
def empty : KeyedLibrary := {}

/-- The template under that name. -/
def get? (k : KeyedLibrary) (name : String) : Option Template := k.entries.lookup name

/-- The keys in order. -/
def names (k : KeyedLibrary) : List String := k.entries.map Prod.fst

/-- The library with a template under a key, in place of one that is there. -/
def put (k : KeyedLibrary) (key : String) (t : Template) : KeyedLibrary :=
  ⟨Ordered.put k.entries key t⟩

/-- One more template, if its name is new. -/
def insert (k : KeyedLibrary) (t : Template) : Except StoreError KeyedLibrary :=
  if (k.get? t.name).isSome then .error (.duplicateTemplate t.name) else .ok (k.put t.name t)

/-- The library of a list of templates, if their names are distinct. -/
def ofList (ts : List Template) : Except StoreError KeyedLibrary := ts.foldlM insert empty

/-- The library with every entry of another put in. -/
def merge (k m : KeyedLibrary) : KeyedLibrary := m.entries.foldl (fun k e => k.put e.1 e.2) k

/-- The library that a text holds. -/
def ofText (text : String) : Except StoreError KeyedLibrary :=
  match readStored (List Template) text with
  | .ok ts => ofList ts
  | .error e => .error (.load e)

/-- The library that bytes hold. -/
def ofBytes (bytes : ByteArray) : Except StoreError KeyedLibrary :=
  match textOf bytes with
  | .ok text => ofText text
  | .error e => .error (.load (.file e))

/-- The library with a file loaded into it; one that is no record file, or that holds no library,
is passed over. -/
def loadFile (k : KeyedLibrary) (file : FoundFile) : KeyedLibrary :=
  if extension? file.name ≠ some "ron" then k
  else
    match ofBytes file.bytes with
    | .ok m => k.merge m
    | .error _ => k

/-- The library of files that are loaded one after another. -/
def loadFiles (files : List FoundFile) : KeyedLibrary := files.foldl loadFile empty

end KeyedLibrary

end StoryBlanks
