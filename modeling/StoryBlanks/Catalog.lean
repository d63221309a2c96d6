import StoryBlanks.Entity
import StoryBlanks.StoreError

/-!
# Catalogs

The entities a scene can draw from, in the order in which they were listed. No name comes twice,
whatever the kinds, so a name stands for one entity.

* `get?_eq_some_iff`, `eq_of_name`: what a name stands for.
* `insert_eq_ok_iff`: an entity is taken exactly if its name is new.
-/

namespace StoryBlanks

/-- Entities with distinct names. -/
structure Catalog where
  entities : List Entity := []
  distinct : (entities.map Entity.name).Nodup := by simp

namespace Catalog

/-- The catalog that lists nothing. -/
def empty : Catalog := {}

/-- The entity of that name. -/
def get? (c : Catalog) (name : String) : Option Entity := c.entities.find? fun e => e.name = name

/-- The entities of a kind, in the order of the catalog. -/
def ofKind (c : Catalog) (kind : Kind) : List Entity := c.entities.filter fun e => e.kind = kind

/-- The names in the order of the catalog. -/
def names (c : Catalog) : List String := c.entities.map Entity.name

/-- How many entities are listed. -/
def size (c : Catalog) : Nat := c.entities.length

theorem distinct_concat {c : Catalog} {e : Entity} (h : e.name ∉ c.names) :
    ((c.entities ++ [e]).map Entity.name).Nodup := by
  rw [List.map_append, List.nodup_append]
  refine ⟨c.distinct, by simp, fun x hx y hy => ?_⟩
  obtain rfl : y = e.name := by simpa using hy
  rintro rfl
  exact h hx

/-- One more entity at the end, if its name is new. -/
def insert (c : Catalog) (e : Entity) : Except StoreError Catalog :=
  if h : e.name ∈ c.names then .error (.duplicateEntity e.name)
  else .ok ⟨c.entities ++ [e], distinct_concat h⟩

/-- More entities at the end, up to the first whose name is taken. -/
def insertAll (c : Catalog) (es : List Entity) : Except StoreError Catalog := es.foldlM insert c

/-- The catalog of a list, if its names are distinct. -/
def ofList (es : List Entity) : Except StoreError Catalog := empty.insertAll es

/-! ## What a name stands for -/

theorem get?_eq_some_iff {c : Catalog} {name : String} {e : Entity} :
    c.get? name = some e ↔ e ∈ c.entities ∧ e.name = name := by
  constructor
  · intro h
    exact ⟨List.mem_of_find?_eq_some h, by simpa using List.find?_some h⟩
  · rintro ⟨hmem, rfl⟩
    obtain ⟨before, after, hsplit⟩ := List.append_of_mem hmem
    have hd := c.distinct
    rw [hsplit, List.map_append, List.map_cons, List.nodup_append] at hd
    rw [get?, hsplit, List.find?_append]
    have hnone : before.find? (fun x => x.name = e.name) = none := by
      rw [List.find?_eq_none]
      intro x hx hxe
      exact hd.2.2 x.name (List.mem_map_of_mem hx) e.name List.mem_cons_self (by simpa using hxe)
    simp [hnone]

theorem eq_of_name {c : Catalog} {e f : Entity} (he : e ∈ c.entities) (hf : f ∈ c.entities)
    (h : e.name = f.name) : e = f :=
  Option.some.inj ((get?_eq_some_iff.2 ⟨he, h⟩).symm.trans (get?_eq_some_iff.2 ⟨hf, rfl⟩))

theorem mem_ofKind {c : Catalog} {kind : Kind} {e : Entity} :
    e ∈ c.ofKind kind ↔ e ∈ c.entities ∧ e.kind = kind := by
  simp [ofKind]

/-- No name comes twice among the entities of a kind. -/
theorem distinct_ofKind (c : Catalog) (kind : Kind) : ((c.ofKind kind).map Entity.name).Nodup :=
  List.Pairwise.sublist (List.filter_sublist.map Entity.name) c.distinct

theorem insert_eq_ok_iff {c d : Catalog} {e : Entity} :
    c.insert e = .ok d ↔ e.name ∉ c.names ∧ d.entities = c.entities ++ [e] := by
  unfold insert
  split
  · next h => simp [h]
  · next h =>
    constructor
    · intro hd
      cases hd
      exact ⟨h, rfl⟩
    · rintro ⟨-, hd⟩
      obtain ⟨entities, hdistinct⟩ := d
      cases hd
      rfl

end Catalog

end StoryBlanks
