import StoryBlanks.NameMap
import StoryBlanks.RecordText.Load

/-!
# Catalogs with an index

A catalog of any size is searched by an index, which says of each name at which place of the list
its entity stands. The list and the index are kept side by side, and a new entity goes into both.
The type does not say that they match; that is what `insert` is for.

* `insert`: one more entity, if the index does not have its name.
* `get?`: the entity at the place that the index gives.
* `ofText`: the catalog that a text holds.
-/

namespace StoryBlanks

/-- Entities in the order in which they were listed, and the place of each name among them. -/
structure IndexedCatalog where
  entities : List Entity := []
  places : NameMap Nat := .empty

namespace IndexedCatalog

/-- The catalog that lists nothing. -/
def empty : IndexedCatalog := {}

/-- The entity of that name, if there is one. There is no answer at all if the index leads past the
end of the list. -/
def get? (c : IndexedCatalog) (name : String) : Option (Option Entity) :=
  match c.places.get? name with
  | none => some none
  | some place => c.entities[place]?.map some

/-- The entities of a kind, in the order of the catalog. -/
def ofKind (c : IndexedCatalog) (kind : Kind) : List Entity :=
  c.entities.filter fun e => e.kind = kind

/-- One more entity at the end, if its name is new. -/
def insert (c : IndexedCatalog) (e : Entity) : Except StoreError IndexedCatalog :=
  if (c.places.get? e.name).isSome then .error (.duplicateEntity e.name)
  else .ok ⟨c.entities ++ [e], c.places.insert e.name c.entities.length⟩

/-- The catalog of a list, if its names are distinct. -/
def ofList (es : List Entity) : Except StoreError IndexedCatalog := es.foldlM insert empty

/-- The catalog that a text holds. -/
def ofText (text : String) : Except StoreError IndexedCatalog :=
  match readStored (List Entity) text with
  | .ok es => ofList es
  | .error e => .error (.load e)

end IndexedCatalog

end StoryBlanks
