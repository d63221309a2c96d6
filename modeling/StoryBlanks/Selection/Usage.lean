import StoryBlanks.Kind
import StoryBlanks.Text.Order

/-!
# Used names

The names of the entities in use, each under the kind it was bound with, in one set. They can also
be kept kind by kind, as `GroupedUsage` does.

* `mem_held_insert`, `mem_held_erase`: the names in use after each operation.
* `names?_congr`: the names under a kind do not depend on how the set is listed.
-/

namespace StoryBlanks

/-- A set of names, each with a kind. -/
structure Usage where
  held : List (Kind × String) := []
  distinct : held.Nodup := by simp

namespace Usage

/-- No name is in use. -/
def empty : Usage := {}

/-- The set with a name under a kind. -/
def insert (u : Usage) (kind : Kind) (name : String) : Usage :=
  if h : (kind, name) ∈ u.held then u
  else ⟨(kind, name) :: u.held, List.nodup_cons.2 ⟨h, u.distinct⟩⟩

/-- The set without a name under a kind. -/
def erase (u : Usage) (kind : Kind) (name : String) : Usage :=
  ⟨u.held.erase (kind, name), u.distinct.erase _⟩

/-- The names under a kind, in order; nothing at all for a kind without names. -/
def names? (u : Usage) (kind : Kind) : Option (List String) :=
  match u.held.filterMap fun (k, name) => if k = kind then some name else none with
  | [] => none
  | name :: names => some (Text.sorted (name :: names))

/-- The name is in use, under whatever kind. -/
def uses (u : Usage) (name : String) : Bool := u.held.any fun (_, n) => n = name

/-! ## The set after each operation -/

theorem mem_held_insert {u : Usage} {kind : Kind} {name : String} {entry : Kind × String} :
    entry ∈ (u.insert kind name).held ↔ entry = (kind, name) ∨ entry ∈ u.held := by
  unfold insert
  split
  · next h =>
    constructor
    · exact .inr
    · rintro (rfl | hm)
      · exact h
      · exact hm
  · simp

theorem mem_held_erase {u : Usage} {kind : Kind} {name : String} {entry : Kind × String} :
    entry ∈ (u.erase kind name).held ↔ entry ≠ (kind, name) ∧ entry ∈ u.held :=
  u.distinct.mem_erase_iff

theorem uses_iff {u : Usage} {name : String} :
    u.uses name = true ↔ ∃ kind, (kind, name) ∈ u.held := by
  simp [uses]

/-- The names under a kind are a matter of the set alone. -/
theorem names?_congr {u v : Usage} (h : ∀ e, e ∈ u.held ↔ e ∈ v.held) (kind : Kind) :
    u.names? kind = v.names? kind := by
  have hperm := ((List.perm_ext_iff_of_nodup u.distinct v.distinct).2 h).filterMap
    fun e => if e.1 = kind then some e.2 else none
  unfold names?
  split
  · next hnil =>
    rw [hnil] at hperm
    rw [List.nil_perm.1 hperm]
  · next name names hcons =>
    rw [hcons] at hperm
    split
    · next hnil =>
      rw [hnil] at hperm
      exact absurd hperm.length_eq (by simp)
    · next other others hcons' =>
      rw [hcons'] at hperm
      rw [Text.sorted_eq_of_perm hperm]

end Usage

end StoryBlanks
