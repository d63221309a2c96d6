import StoryBlanks.Catalog
import StoryBlanks.Template
import StoryBlanks.Text.Order

/-!
# Lint findings

What stands in the way of filling a template: braces that make no tag, tags without a name, names
that ask for two kinds, and kinds of which a catalog has too few entities.

* `lint`: the findings of a template, in the order of reports.
-/

namespace StoryBlanks

/-- Something that is wrong with a template. -/
inductive Finding
  /-- A sentence has an opening brace that nothing closes. -/
  | unclosed (sentence offset : Nat)
  /-- A sentence has a brace pair that is no tag. -/
  | notATag (sentence : Nat) (body : String) (why : Discard)
  /-- A sentence has a tag without a name. -/
  | emptyName (sentence : Nat) (kind : Kind)
  /-- A tag name is used with more than one kind. -/
  | mixedKinds (tagName : String)
  /-- There are tag names of a kind and no entities. -/
  | noEntities (kind : Kind) (names : Nat)
  /-- There are more tag names of a kind than entities. -/
  | fewEntities (kind : Kind) (names entities : Nat)
  deriving DecidableEq

namespace Finding

/-- The finding makes the template unfit; the others are warnings. -/
def isError : Finding → Bool
  | unclosed .. | emptyName .. | mixedKinds .. | noEntities .. => true
  | notATag .. | fewEntities .. => false

/-- Why a brace pair is no tag, in words. -/
def reason : Discard → String
  | .missingColon => "no ':' between type and name"
  | .unknownKind token => s!"unknown type '{token}'"

/-- The finding in words, for a template of that name. -/
def message (template : String) : Finding → String
  | unclosed sentence offset =>
    s!"Template '{template}' sentence {sentence}: unclosed '\x7b' at byte {offset}, " ++
      "later tags are ignored"
  | notATag sentence body why =>
    s!"Template '{template}' sentence {sentence}: '\x7b{body}\x7d' is not a tag ({reason why})"
  | emptyName sentence kind =>
    s!"Template '{template}' sentence {sentence}: {kind.token} tag has an empty name"
  | mixedKinds tagName =>
    s!"Template '{template}': tag name '{tagName}' is used with more than one type"
  | noEntities kind names =>
    s!"Template '{template}' needs {names} {kind.token} entities but the catalog has none"
  | fewEntities kind names entities =>
    s!"Template '{template}' has {names} {kind.token} tags but the catalog only has {entities} " ++
      "(scene cannot be completed with unique entities)"

end Finding

/-! ## Looking for findings -/

/-- The findings of one sentence. -/
def Sentence.findings (s : Sentence) : List Finding :=
  (s.scan.unclosed.toList.map fun offset => .unclosed s.order offset) ++
    (s.scan.discarded.map fun (c, why) => .notATag s.order c.body why) ++
    (s.tags.filter fun t => t.name = "").map fun t => .emptyName s.order t.kind

namespace Template

/-- The tag names of a template, each once, in order. -/
def tagNames (t : Template) : List String := Text.sorted (Text.distinct (t.tags.map Tag.name))

/-- Two tags have the name and ask for different kinds. -/
def IsMixed (t : Template) (name : String) : Prop :=
  ∃ u ∈ t.tags, u.name = name ∧ ∃ v ∈ t.tags, v.name = name ∧ u.kind ≠ v.kind

instance (t : Template) (name : String) : Decidable (t.IsMixed name) :=
  inferInstanceAs (Decidable (∃ u ∈ t.tags, _))

/-- The tag names that ask for a kind, each once. -/
def namesOfKind (t : Template) (kind : Kind) : List String :=
  Text.distinct ((t.tags.filter fun u => u.kind = kind).map Tag.name)

/-- What the catalog lacks of a kind. -/
def shortage? (t : Template) (catalog : Catalog) (kind : Kind) : Option Finding :=
  let names := (t.namesOfKind kind).length
  let entities := (catalog.ofKind kind).length
  if names = 0 then none
  else if entities = 0 then some (.noEntities kind names)
  else if entities < names then some (.fewEntities kind names entities)
  else none

/-- The findings of a template, with those of a catalog if there is one. -/
def lint (t : Template) (catalog? : Option Catalog) : List Finding :=
  t.sentences.flatMap Sentence.findings ++
    (t.tagNames.filter fun name => t.IsMixed name).map .mixedKinds ++
    catalog?.toList.flatMap fun catalog => Kind.all.filterMap (t.shortage? catalog)

/-- The messages of the errors of a template, in the order of its findings. -/
def lintErrors (t : Template) (catalog? : Option Catalog) : List String :=
  ((t.lint catalog?).filter Finding.isError).map (Finding.message t.name)

/-- The messages of the warnings of a template, in the order of its findings. -/
def lintWarnings (t : Template) (catalog? : Option Catalog) : List String :=
  ((t.lint catalog?).filter fun f => !f.isError).map (Finding.message t.name)

end Template

end StoryBlanks
