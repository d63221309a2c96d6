import StoryBlanks.Entity
import StoryBlanks.NameMap
import StoryBlanks.Selection.Usage
import StoryBlanks.Settings
import StoryBlanks.Tag

/-!
# Selections

Which entity fills which tag. A selection binds tag names; a binding fills every tag of its name
that asks for the kind of its entity. The reuse policy decides who may hold an entity twice.

* `Selection.holders`: the names that stand in the way of a binding.
* `Selection.bind`: a checked binding, with the names it clears when it replaces an entity.
* `Selection.unbind`, `Selection.clear`: the ways back.
-/

namespace StoryBlanks

/-- A tag and the entity that fills it. -/
structure Binding where
  tag : Tag
  entity : Entity
  deriving DecidableEq

/-- Why an entity cannot be bound to a tag. -/
inductive BindError
  /-- The tag asks for another kind. -/
  | kindMismatch (tag : String) (expected found : Kind)
  /-- Another tag name holds the entity, and the policy does not let it be shared. -/
  | alreadyUsed (entity holder : String)
  deriving DecidableEq

/-- The error in words. -/
def BindError.message : BindError → String
  | kindMismatch tag expected found =>
    s!"tag {tag} expects a {expected.token}, got a {found.token}"
  | alreadyUsed entity holder => s!"entity '{entity}' is already bound to tag '{holder}'"

/-- What a successful binding changed. -/
inductive BindOutcome
  /-- The tag held the entity before. -/
  | unchanged
  /-- The tag held nothing before. -/
  | bound
  /-- The tag held `previous` before; the names in `cleared` followed it and were emptied. -/
  | replaced (previous : String) (cleared : List String)
  deriving DecidableEq

/-- Bindings under a policy, and the names of the entities in use. -/
structure Selection where
  policy : ReusePolicy := .strict
  bindings : NameMap Binding := .empty
  usage : Usage := .empty

namespace Selection

/-! ## Looking -/

/-- Nothing bound, under a policy. -/
def empty (policy : ReusePolicy) : Selection := { policy }

/-- The binding under a tag name. -/
def get? (s : Selection) (name : String) : Option Binding := s.bindings.get? name

/-- The binding that fills a tag: the one under its name, if its entity is of the tag's kind. -/
def bindingFor? (s : Selection) (tag : Tag) : Option Binding :=
  (s.get? tag.name).filter fun b => b.entity.kind = tag.kind

/-- The name to show in place of a tag. -/
def nameFor? (s : Selection) (tag : Tag) : Option String :=
  (s.bindingFor? tag).map fun b => b.entity.name

/-- How many names are bound. -/
def size (s : Selection) : Nat := s.bindings.size

/-- The bindings by sentence, and within a sentence by tag name. -/
def ordered (s : Selection) : List Binding :=
  (s.bindings.entries.map Prod.snd).mergeSort fun a b =>
    a.tag.sentence < b.tag.sentence ∨ a.tag.sentence = b.tag.sentence ∧ a.tag.name ≤ b.tag.name

/-! ## Who stands in the way -/

/-- A holder in `held` keeps its entity from a tag in `wanted`. -/
def Blocks (policy : ReusePolicy) (held wanted : Nat) : Prop :=
  match policy with
  | .strict => True
  | .downstream => wanted ≤ held

instance (policy : ReusePolicy) (held wanted : Nat) : Decidable (Blocks policy held wanted) :=
  match policy with
  | .strict => isTrue trivial
  | .downstream => inferInstanceAs (Decidable (wanted ≤ held))

/-- The other tag names that hold the entity and keep it from the tag. -/
def holders (s : Selection) (tag : Tag) (entity : Entity) : List String :=
  (s.bindings.filter fun name b =>
    name ≠ tag.name ∧ b.entity.name = entity.name ∧
      Blocks s.policy b.tag.sentence tag.sentence).keys

/-- Why the entity cannot be bound to the tag, if it cannot. The kind is looked at first. -/
def obstacle? (s : Selection) (tag : Tag) (entity : Entity) : Option BindError :=
  if entity.kind = tag.kind then (s.holders tag entity).head?.map (.alreadyUsed entity.name)
  else some (.kindMismatch tag.name tag.kind entity.kind)

/-- The tag holds the entity already. -/
def Holds (s : Selection) (tag : Tag) (entity : Entity) : Prop :=
  ∃ b ∈ s.get? tag.name, b.entity.name = entity.name ∧ b.tag.kind = tag.kind ∧
    entity.kind = tag.kind

instance (s : Selection) (tag : Tag) (entity : Entity) : Decidable (s.Holds tag entity) :=
  inferInstanceAs (Decidable (∃ b ∈ s.get? tag.name, _))

/-! ## Changing -/

/-- Take an entity out of use, unless a binding still holds one of its name. -/
def release (s : Selection) (entity : Entity) : Selection :=
  if s.bindings.entries.any fun (_, b) => b.entity.name = entity.name then s
  else { s with usage := s.usage.erase entity.kind entity.name }

/-- The binding under a name taken away, and the selection without it. -/
def unbind (s : Selection) (name : String) : Option Binding × Selection :=
  match s.get? name with
  | none => (none, s)
  | some b => (some b, release { s with bindings := s.bindings.erase name } b.entity)

/-- The selection without the binding under a name. -/
def drop (s : Selection) (name : String) : Selection := (s.unbind name).2

/-- The selection with nothing bound. -/
def clear (s : Selection) : Selection := empty s.policy

/-- Put an entity under a tag, whatever stands in the way. -/
def put (s : Selection) (tag : Tag) (entity : Entity) : Selection :=
  { s with
    bindings := s.bindings.insert tag.name ⟨tag, entity⟩
    usage := s.usage.insert entity.kind entity.name }

/-- The other names that hold `previous` in a sentence after the tag's. -/
def followers (s : Selection) (tag : Tag) (previous : String) : List String :=
  (s.bindings.filter fun name b =>
    name ≠ tag.name ∧ tag.sentence < b.tag.sentence ∧ b.entity.name = previous).keys

/-- The selection without the bindings under some names, which are still counted as in use. -/
def without (s : Selection) (names : List String) : Selection :=
  { s with bindings := s.bindings.filter fun name _ => name ∉ names }

/-- Bind an entity to a tag. An entity that is replaced is first taken from every name that
follows the tag; a binding that fails changes nothing. -/
def bind (s : Selection) (tag : Tag) (entity : Entity) :
    Except BindError (BindOutcome × Selection) :=
  if s.Holds tag entity then .ok (.unchanged, s)
  else
    match s.obstacle? tag entity with
    | some e => .error e
    | none =>
      match s.get? tag.name with
      | none => .ok (.bound, s.put tag entity)
      | some old =>
        let cleared := s.followers tag old.entity.name
        .ok (.replaced old.entity.name cleared,
          ((s.without (tag.name :: cleared)).release old.entity).put tag entity)

end Selection

end StoryBlanks
