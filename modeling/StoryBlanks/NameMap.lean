/-!
# Maps from names

A finite map with names for keys, kept as a list of entries in which no name comes twice. The
order of the entries carries no meaning; two maps are the same map if they agree on every name.

* `get?_insert`, `get?_erase`, `get?_filter`, `get?_modify`: each operation, name by name.
* `mem_entries_iff`: the entries are what the map holds.
-/

namespace StoryBlanks

/-- A finite map from names. -/
structure NameMap (α : Type) where
  entries : List (String × α) := []
  distinct : (entries.map Prod.fst).Nodup := by simp

namespace NameMap

variable {α : Type}

/-- The map that holds nothing. -/
def empty : NameMap α := {}

/-- What the map holds under a name. -/
def get? (m : NameMap α) (name : String) : Option α := m.entries.lookup name

/-- The names that hold something. -/
def keys (m : NameMap α) : List String := m.entries.map Prod.fst

/-- How many names hold something. -/
def size (m : NameMap α) : Nat := m.entries.length

theorem distinct_filter (m : NameMap α) (keep : String × α → Bool) :
    ((m.entries.filter keep).map Prod.fst).Nodup :=
  List.Pairwise.sublist (List.filter_sublist.map Prod.fst) m.distinct

/-- The entries that satisfy `keep`. -/
def filter (m : NameMap α) (keep : String → α → Bool) : NameMap α where
  entries := m.entries.filter fun (name, a) => keep name a
  distinct := m.distinct_filter _

/-- The map without a name. -/
def erase (m : NameMap α) (name : String) : NameMap α := m.filter fun n _ => n != name

theorem not_mem_erase (m : NameMap α) (name : String) : name ∉ (m.erase name).keys := by
  simp [keys, erase, filter]

/-- The map with `a` under a name, in place of what the name held. -/
def insert (m : NameMap α) (name : String) (a : α) : NameMap α where
  entries := (m.erase name).entries ++ [(name, a)]
  distinct := by
    rw [List.map_append, List.nodup_append]
    refine ⟨(m.erase name).distinct, by simp, fun x hx y hy => ?_⟩
    obtain rfl : y = name := by simpa using hy
    rintro rfl
    exact m.not_mem_erase _ hx

/-- The map with `f` applied to what a name holds. -/
def modify (m : NameMap α) (name : String) (f : α → α) : NameMap α where
  entries := m.entries.map fun (n, a) => (n, if n = name then f a else a)
  distinct := by
    have h : (Prod.fst ∘ fun ((n, a) : String × α) => (n, if n = name then f a else a)) =
        Prod.fst := rfl
    rw [List.map_map, h]
    exact m.distinct

/-! ## Entries and names -/

theorem lookup_eq_some_iff {l : List (String × α)} (h : (l.map Prod.fst).Nodup) {name : String}
    {a : α} : l.lookup name = some a ↔ (name, a) ∈ l := by
  induction l with
  | nil => simp
  | cons e es ih =>
    obtain ⟨n, b⟩ := e
    rw [List.map_cons, List.nodup_cons] at h
    by_cases hn : name = n
    · subst hn
      simp only [List.lookup_cons_self, Option.some.injEq, List.mem_cons, Prod.mk.injEq, true_and]
      refine ⟨fun hb => .inl hb.symm, ?_⟩
      rintro (rfl | hmem)
      · rfl
      · exact absurd (List.mem_map_of_mem (f := Prod.fst) hmem) h.1
    · rw [List.lookup_cons, show (name == n) = false by simpa using hn]
      simp [ih h.2, hn]

theorem mem_entries_iff {m : NameMap α} {name : String} {a : α} :
    (name, a) ∈ m.entries ↔ m.get? name = some a :=
  (lookup_eq_some_iff m.distinct).symm

theorem mem_keys_iff {m : NameMap α} {name : String} :
    name ∈ m.keys ↔ ∃ a, m.get? name = some a := by
  simp [keys, ← mem_entries_iff]

theorem nodup_keys (m : NameMap α) : m.keys.Nodup := m.distinct

theorem get?_eq_none_iff {m : NameMap α} {name : String} : m.get? name = none ↔ name ∉ m.keys := by
  rw [mem_keys_iff, Option.eq_none_iff_forall_not_mem]
  simp [Option.mem_def]

/-- A name is looked up by its entries alone, whatever their order. -/
theorem get?_eq_of_mem_iff {m k : NameMap α} {name other : String}
    (h : ∀ a, (name, a) ∈ m.entries ↔ (other, a) ∈ k.entries) : m.get? name = k.get? other := by
  apply Option.ext
  intro a
  rw [← mem_entries_iff, ← mem_entries_iff]
  exact h a

@[simp] theorem get?_empty (name : String) : (empty : NameMap α).get? name = none := rfl

theorem get?_filter (m : NameMap α) (keep : String → α → Bool) (name : String) :
    (m.filter keep).get? name = (m.get? name).filter (keep name) := by
  apply Option.ext
  intro a
  rw [← mem_entries_iff, filter, List.mem_filter, mem_entries_iff, Option.filter_eq_some_iff]

theorem get?_erase (m : NameMap α) (name other : String) :
    (m.erase name).get? other = if other = name then none else m.get? other := by
  rw [erase, get?_filter]
  by_cases h : other = name
  · simp [h]
  · rw [if_neg h]
    cases m.get? other <;> simp [Option.filter, h]

theorem get?_insert (m : NameMap α) (name : String) (a : α) (other : String) :
    (m.insert name a).get? other = if other = name then some a else m.get? other := by
  apply Option.ext
  intro b
  rw [← mem_entries_iff, insert, List.mem_append, mem_entries_iff, get?_erase]
  by_cases h : other = name
  · simp [h, eq_comm]
  · simp [h]

theorem mem_keys_erase {m : NameMap α} {name other : String} :
    other ∈ (m.erase name).keys ↔ other ≠ name ∧ other ∈ m.keys := by
  rw [mem_keys_iff, mem_keys_iff, get?_erase]
  by_cases h : other = name
  · simp [h]
  · simp [h]

theorem mem_keys_insert {m : NameMap α} {name : String} {a : α} {other : String} :
    other ∈ (m.insert name a).keys ↔ other = name ∨ other ∈ m.keys := by
  rw [mem_keys_iff, mem_keys_iff, get?_insert]
  by_cases h : other = name
  · simp [h]
  · simp [h]

theorem get?_modify (m : NameMap α) (name : String) (f : α → α) (other : String) :
    (m.modify name f).get? other =
      if other = name then (m.get? other).map f else m.get? other := by
  apply Option.ext
  intro b
  rw [← mem_entries_iff, modify, List.mem_map]
  simp only [Prod.exists, Prod.mk.injEq, mem_entries_iff]
  by_cases h : other = name
  · subst h
    simp only [if_pos, Option.map_eq_some_iff]
    constructor
    · rintro ⟨n, a, ha, rfl, hb⟩
      exact ⟨a, ha, by simpa using hb⟩
    · rintro ⟨a, ha, hb⟩
      exact ⟨other, a, ha, rfl, by simpa using hb⟩
  · rw [if_neg h]
    constructor
    · rintro ⟨n, a, ha, rfl, hb⟩
      rw [if_neg h] at hb
      exact hb ▸ ha
    · intro hb
      exact ⟨other, b, hb, rfl, if_neg h⟩

theorem size_insert {m : NameMap α} {name : String} (h : m.get? name = none) (a : α) :
    (m.insert name a).size = m.size + 1 := by
  have hnew : (m.erase name).entries = m.entries := by
    refine List.filter_eq_self.2 fun e he => ?_
    have hne : e.1 ≠ name := by
      rintro rfl
      exact get?_eq_none_iff.1 h (List.mem_map_of_mem he)
    simpa using hne
  rw [size, insert, List.length_append, hnew]
  rfl

end NameMap

end StoryBlanks
