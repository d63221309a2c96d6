import StoryBlanks.Selection.Relocate

/-!
# Used names, grouped by kind

The names in use are stored as a set of names for each kind that is listed. The type admits that a
kind is listed with an empty set; so when a name goes that was the last of its kind, the kind has to
be taken out as well. A selection that stores its names in this way is changed by the same
operations as one that keeps them in a single set.

* `GroupedUsage.insert`, `GroupedUsage.erase`: one name more, and one less.
* `GroupedSelection.bind`, `unbind`, `clear`, `relocate`: what is done to a selection.
* `GroupedUsage.flat`, `GroupedSelection.plain`: the same names in one set.
* `has_insert`, `has_erase`: the names in use after each operation.
-/

namespace StoryBlanks

/-- A set of names. -/
abbrev NameSet := NameMap Unit

/-- A set of names for each kind that is listed. -/
structure GroupedUsage where
  /-- The names under a kind. -/
  names? : Kind → Option NameSet

namespace GroupedUsage

/-- No kind is listed. -/
def empty : GroupedUsage := ⟨fun _ => none⟩

/-- A name is in use under a kind. -/
def Has (u : GroupedUsage) (kind : Kind) (name : String) : Prop :=
  ∃ names, u.names? kind = some names ∧ name ∈ names.keys

/-- What is listed under a kind, replaced. -/
def set (u : GroupedUsage) (kind : Kind) (names? : Option NameSet) : GroupedUsage :=
  ⟨fun k => if k = kind then names? else u.names? k⟩

/-- One name more under a kind, which is listed from then on. -/
def insert (u : GroupedUsage) (kind : Kind) (name : String) : GroupedUsage :=
  u.set kind (some (((u.names? kind).getD .empty).insert name ()))

/-- One name less under a kind, which is no longer listed when no name is left. -/
def erase (u : GroupedUsage) (kind : Kind) (name : String) : GroupedUsage :=
  match u.names? kind with
  | none => u
  | some names =>
    let left := names.erase name
    if left.keys.isEmpty then u.set kind none else u.set kind (some left)

/-- The name is in use, under whatever kind. -/
def uses (u : GroupedUsage) (name : String) : Bool :=
  Kind.all.any fun kind => (u.names? kind).any fun names => name ∈ names.keys

/-- The names under a kind, none for a kind that is not listed. -/
def names (u : GroupedUsage) (kind : Kind) : List String :=
  ((u.names? kind).getD .empty).keys

/-- The names in one set. -/
def flat (u : GroupedUsage) : Usage where
  held := Kind.all.flatMap fun kind => (u.names kind).map fun name => (kind, name)
  distinct := by
    refine List.pairwise_flatMap.2 ⟨fun kind _ => ?_, ?_⟩
    · refine List.pairwise_map.2 ((NameMap.nodup_keys _).imp fun hne heq => hne ?_)
      exact (Prod.mk.inj heq).2
    · have hkinds : Kind.all.Nodup := by decide
      refine hkinds.imp fun hne x hx y hy heq => hne ?_
      obtain ⟨n, -, rfl⟩ := List.mem_map.1 hx
      obtain ⟨m, -, rfl⟩ := List.mem_map.1 hy
      exact (Prod.mk.inj heq).1

/-! ## The names after each operation -/

theorem mem_names {u : GroupedUsage} {kind : Kind} {name : String} :
    name ∈ u.names kind ↔ u.Has kind name := by
  unfold names Has
  cases u.names? kind with
  | none => simp [NameMap.keys, NameMap.empty]
  | some names => simp

theorem not_has_empty (kind : Kind) (name : String) : ¬ empty.Has kind name := by
  rintro ⟨names, hnames, -⟩
  cases hnames

theorem names?_set (u : GroupedUsage) (kind : Kind) (names? : Option NameSet) (k : Kind) :
    (u.set kind names?).names? k = if k = kind then names? else u.names? k := rfl

theorem has_set {u : GroupedUsage} {kind : Kind} {names? : Option NameSet} {k : Kind}
    {n : String} : (u.set kind names?).Has k n ↔
      if k = kind then ∃ names, names? = some names ∧ n ∈ names.keys else u.Has k n := by
  simp only [Has, names?_set]
  split <;> rfl

theorem has_insert {u : GroupedUsage} {kind k : Kind} {name n : String} :
    (u.insert kind name).Has k n ↔ (k, n) = (kind, name) ∨ u.Has k n := by
  rw [insert, has_set]
  split
  · next hk =>
    subst hk
    simp only [Option.some.injEq, exists_eq_left', NameMap.mem_keys_insert, Prod.mk.injEq, true_and]
    rw [← mem_names, names]
  · next hk => simp [hk]

theorem has_erase {u : GroupedUsage} {kind k : Kind} {name n : String} :
    (u.erase kind name).Has k n ↔ (k, n) ≠ (kind, name) ∧ u.Has k n := by
  unfold erase
  split
  · next hnone =>
    refine ⟨fun h => ⟨?_, h⟩, And.right⟩
    intro heq
    obtain ⟨rfl, rfl⟩ := Prod.mk.inj heq
    obtain ⟨names, hnames, -⟩ := h
    rw [hnone] at hnames
    cases hnames
  · next names hnames =>
    have hleft : ∀ n, n ∈ (names.erase name).keys ↔ n ≠ name ∧ u.Has kind n := by
      intro n
      rw [NameMap.mem_keys_erase]
      simp [Has, hnames]
    dsimp only
    by_cases hk : k = kind
    · subst hk
      simp only [ne_eq, Prod.mk.injEq, true_and, ← hleft]
      split
      · next hempty =>
        rw [List.isEmpty_iff] at hempty
        simp [has_set, hempty]
      · simp [has_set]
    · have hother : ∀ names?, (u.set kind names?).Has k n ↔ u.Has k n := fun names? => by
        rw [has_set, if_neg hk]
      split <;> simp [hother, hk]

end GroupedUsage

/-- Bindings under a policy, and the names of the entities in use by kind. -/
structure GroupedSelection where
  policy : ReusePolicy := .strict
  bindings : NameMap Binding := .empty
  usage : GroupedUsage := .empty

namespace GroupedSelection

/-- Nothing bound, under a policy. -/
def empty (policy : ReusePolicy) : GroupedSelection := { policy }

/-- The selection with the names in use in one set. What only looks at bindings is asked of it. -/
def plain (s : GroupedSelection) : Selection := ⟨s.policy, s.bindings, s.usage.flat⟩

/-- The binding under a tag name. -/
def get? (s : GroupedSelection) (name : String) : Option Binding := s.bindings.get? name

/-- Take an entity out of use, unless a binding still holds one of its name. -/
def release (s : GroupedSelection) (entity : Entity) : GroupedSelection :=
  if s.bindings.entries.any fun (_, b) => b.entity.name = entity.name then s
  else { s with usage := s.usage.erase entity.kind entity.name }

/-- The binding under a name taken away, and the selection without it. -/
def unbind (s : GroupedSelection) (name : String) : Option Binding × GroupedSelection :=
  match s.get? name with
  | none => (none, s)
  | some b => (some b, release { s with bindings := s.bindings.erase name } b.entity)

/-- The selection without the binding under a name. -/
def drop (s : GroupedSelection) (name : String) : GroupedSelection := (s.unbind name).2

/-- The selection with nothing bound. -/
def clear (s : GroupedSelection) : GroupedSelection := empty s.policy

/-- Put an entity under a tag, whatever stands in the way. -/
def put (s : GroupedSelection) (tag : Tag) (entity : Entity) : GroupedSelection :=
  { s with
    bindings := s.bindings.insert tag.name ⟨tag, entity⟩
    usage := s.usage.insert entity.kind entity.name }

/-- The selection without the bindings under some names, which are still counted as in use. -/
def without (s : GroupedSelection) (names : List String) : GroupedSelection :=
  { s with bindings := s.bindings.filter fun name _ => name ∉ names }

/-- Bind an entity to a tag. An entity that is replaced is first taken from every name that
follows the tag; a binding that fails changes nothing. -/
def bind (s : GroupedSelection) (tag : Tag) (entity : Entity) :
    Except BindError (BindOutcome × GroupedSelection) :=
  if s.plain.Holds tag entity then .ok (.unchanged, s)
  else
    match s.plain.obstacle? tag entity with
    | some e => .error e
    | none =>
      match s.get? tag.name with
      | none => .ok (.bound, s.put tag entity)
      | some old =>
        let cleared := s.plain.followers tag old.entity.name
        .ok (.replaced old.entity.name cleared,
          ((s.without (tag.name :: cleared)).release old.entity).put tag entity)

/-- Point the binding under a name at a tag. -/
def point (s : GroupedSelection) (name : String) (tag : Tag) : GroupedSelection :=
  { s with bindings := s.bindings.modify name fun b => { b with tag } }

/-- Point bindings at tags one after another, and drop those that would be crowded. -/
def moveAll (s : GroupedSelection) : List (String × Tag) → List String × GroupedSelection
  | [] => ([], s)
  | (name, tag) :: moves =>
    match s.get? name with
    | none => s.moveAll moves
    | some b =>
      if s.plain.Crowded name b.entity.name tag.sentence then
        let (dropped, s') := (s.drop name).moveAll moves
        (name :: dropped, s')
      else (s.point name tag).moveAll moves

/-- Point each binding at the tag that `locate` finds for it; also the names that were dropped.
Those with no tag to go to are dropped before any other binding moves. -/
def relocate (s : GroupedSelection) (locate : Binding → Option Tag) :
    List String × GroupedSelection :=
  let lost := s.plain.lostNames locate
  let (crowded, s') := (lost.foldl drop s).moveAll (s.plain.moves locate)
  (lost ++ crowded, s')

end GroupedSelection

end StoryBlanks
