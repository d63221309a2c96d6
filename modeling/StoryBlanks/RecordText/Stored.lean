import StoryBlanks.Entity
import StoryBlanks.RecordText.Value
import StoryBlanks.Settings
import StoryBlanks.Tag
import StoryBlanks.Template

/-!
# Stored forms

How each kind of value is kept as record text. A record may be written with its name or without;
fields may come in any order, and those that are unknown are passed over. A field that is given
twice makes the record unreadable.

* `Stored`: a value, from and to what record text says.
* `read?`, `write`: a value, from and to text.
-/

namespace StoryBlanks.RecordText

/-- Values that are kept as record text. -/
class Stored (α : Type) where
  toValue : α → Value
  ofValue? : Value → Option α

/-! ## Simple values -/

instance : Stored String where
  toValue := .text
  ofValue?
    | .text s => some s
    | _ => none

instance : Stored Nat where
  toValue n := .number n.repr
  ofValue?
    | .number digits => natural? digits.toList
    | _ => none

instance {α : Type} [Stored α] : Stored (List α) where
  toValue as := .list (as.map Stored.toValue)
  ofValue?
    | .list vs => vs.mapM Stored.ofValue?
    | _ => none

instance : Stored Kind where
  toValue k := .name { text := k.token }
  ofValue?
    | .name w => Kind.ofExactToken? w.text
    | _ => none

instance : Stored ReusePolicy where
  toValue p := .name { text := p.token }
  ofValue?
    | .name w => ReusePolicy.ofToken? w.text
    | _ => none

/-! ## Records -/

/-- Named fields, in the order in which they are written. -/
abbrev Fields := List (String × Value)

/-- The fields of a record that is named so or not at all. -/
def Value.fields? (name : String) : Value → Option Fields
  | .record none fs => some fs
  | .record (some w) fs => if w.text = name then some fs else none
  | .tuple none [] => some []
  | .tuple (some w) [] => if w.text = name then some [] else none
  | _ => none

/-- A record without its name. -/
def Value.ofFields (fs : Fields) : Value := .record none fs

namespace Fields

/-- The value of a field, if it is given; nothing at all if it is given twice. -/
def single? (fs : Fields) (name : String) : Option (Option Value) :=
  match fs.filter fun f => f.1 = name with
  | [] => some none
  | [f] => some (some f.2)
  | _ => none

/-- A field that has to be given. -/
def required? (fs : Fields) (name : String) (α : Type) [Stored α] : Option α := do
  Stored.ofValue? (← ← fs.single? name)

/-- A field that has a default. -/
def optional? {α : Type} [Stored α] (fs : Fields) (name : String) (default : α) : Option α := do
  match ← fs.single? name with
  | none => some default
  | some v => Stored.ofValue? v

end Fields

instance : Stored Entity where
  toValue e := .ofFields [("name", Stored.toValue e.name),
    ("description", Stored.toValue e.description), ("entity_type", Stored.toValue e.kind),
    ("possible_states", Stored.toValue e.states)]
  ofValue? v := do
    let fs ← v.fields? "EntityTemplate"
    let name ← fs.required? "name" String
    let kind ← fs.required? "entity_type" Kind
    let description ← fs.optional? "description" ""
    let states ← fs.optional? "possible_states" ([] : List String)
    some { name, kind, description, states }

instance : Stored Tag where
  toValue t := .ofFields [("entity_type", Stored.toValue t.kind),
    ("tag_name", Stored.toValue t.name), ("sentence_index", Stored.toValue t.sentence)]
  ofValue? v := do
    let fs ← v.fields? "Tag"
    let kind ← fs.required? "entity_type" Kind
    let name ← fs.required? "tag_name" String
    let sentence ← fs.required? "sentence_index" Nat
    some { kind, name, sentence }

instance : Stored Template where
  toValue t := .ofFields [("name", Stored.toValue t.name), ("sentences", Stored.toValue t.texts)]
  ofValue? v := do
    let fs ← v.fields? "Template"
    let name ← fs.required? "name" String
    let texts ← fs.required? "sentences" (List String)
    some { name, texts }

instance : Stored Settings where
  toValue s := .ofFields [("uniqueness", Stored.toValue s.policy),
    ("separator", Stored.toValue s.separator)]
  ofValue? v := do
    let fs ← v.fields? "SceneConfig"
    let standard : Settings := {}
    let policy ← fs.optional? "uniqueness" standard.policy
    let separator ← fs.optional? "separator" standard.separator
    some { policy, separator }

/-! ## Texts -/

/-- The value that a text holds. -/
def read? (α : Type) [Stored α] (text : String) : Option α := do
  Stored.ofValue? (← Value.read? text)

/-- A text that holds the value. -/
def write {α : Type} [Stored α] (a : α) : String := (Stored.toValue a).write

end StoryBlanks.RecordText
