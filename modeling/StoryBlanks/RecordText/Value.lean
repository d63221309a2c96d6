import StoryBlanks.RecordText.Token

/-!
# Values of record text

What record text says: quoted texts, numbers, names, lists, maps, and records with named or
unnamed fields. Reading keeps only the form; what a record means is for its readers. Values are
nested in so many levels at most, and a text may enable a freer form by lines that open it.

* `Value.read?`: the value of a text.
* `Value.write`: a text with that value, without blanks.
-/

namespace StoryBlanks.RecordText

/-- What record text says. -/
inductive Value
  | text (s : String)
  | letter (c : Char)
  | number (digits : String)
  | name (w : Word)
  /-- A value that is there, where there might be none. -/
  | present (v : Value)
  | list (vs : List Value)
  | map (entries : List (Value × Value))
  /-- Named fields, perhaps after the name of their record. -/
  | record (name : Option Word) (fields : List (String × Value))
  /-- Unnamed fields, perhaps after the name of their record. -/
  | tuple (name : Option Word) (vs : List Value)

/-! ## Reading -/

/-- Reads something from the front of a run of tokens. -/
abbrev Reader (α : Type) := List Token → Option (α × List Token)

/-- Items with commas between them, up to a closing mark. A comma may stand before the mark, but
not without an item. -/
def readItems {α : Type} (close : Char) (item : Reader α) : Nat → Reader (List α)
  | 0, _ => none
  | fuel + 1, ts =>
    if ts.head? = some (.mark close) then some ([], ts.tail)
    else
      match item ts with
      | none => none
      | some (a, .mark ',' :: rest) =>
        (readItems close item fuel rest).map fun (as, last) => (a :: as, last)
      | some (a, rest) => if rest.head? = some (.mark close) then some ([a], rest.tail) else none

/-- Items with commas between them, up to a closing mark. There are fewer items than tokens. -/
def readUntil {α : Type} (close : Char) (item : Reader α) : Reader (List α) :=
  fun ts => readItems close item (ts.length + 1) ts

/-- A key and a value with a colon between them. -/
def readEntry {α β : Type} (key : Reader α) (value : Reader β) : Reader (α × β) := fun ts => do
  match ← key ts with
  | (k, .mark ':' :: rest) =>
    let (v, last) ← value rest
    some ((k, v), last)
  | _ => none

/-- The name of a field. -/
def readFieldName : Reader String
  | .word w :: rest => some (w.text, rest)
  | _ => none

/-- The fields of a record whose opening parenthesis is gone: named ones if the first is. -/
def readFields (item : Reader Value) (name : Option Word) : Reader Value := fun ts =>
  match ts with
  | .word _ :: .mark ':' :: _ =>
    (readUntil ')' (readEntry readFieldName item) ts).map fun (fields, rest) =>
      (.record name fields, rest)
  | _ => (readUntil ')' item ts).map fun (vs, rest) => (.tuple name vs, rest)

/-- The value after `Some`. It stands in parentheses, unless it may stand `bare`. -/
def readPresent (bare : Bool) (value : Reader Value) : Reader Value := fun ts =>
  match ts with
  | .emptyParens :: _ => none
  | .mark '(' :: inner => do
    match ← value inner with
    | (v, .mark ',' :: .mark ')' :: rest) | (v, .mark ')' :: rest) => some (.present v, rest)
    | _ => none
  | _ => if bare then (value ts).map fun (v, rest) => (.present v, rest) else none

/-- The words that are values by themselves. -/
def constants : List String := ["true", "false", "None", "inf", "NaN"]

/-- The word is a value by itself. An escaped one never is. -/
def Word.isConstant (w : Word) : Bool := !w.escaped && constants.contains w.text

/-- A value without parts. A parenthesis that follows a word is left, and nothing reads on there. -/
def readSimple : Reader Value
  | .text s :: rest => some (.text s, rest)
  | .letter c :: rest => some (.letter c, rest)
  | .number digits :: rest => some (.number digits, rest)
  | .word w :: rest => if w = { text := "Some" } then none else some (.name w, rest)
  | .emptyParens :: rest => some (.tuple none [], rest)
  | _ => none

/-- What begins with a word. -/
def readAfterWord (bare : Bool) (present item : Reader Value) (w : Word) : Reader Value := fun ts =>
  if w = { text := "Some" } then readPresent bare present ts
  else if w.isConstant then some (.name w, ts)
  else
    match ts with
    | .mark '(' :: rest => readFields item (some w) rest
    | .emptyParens :: rest => some (.tuple (some w) [], rest)
    | _ => some (.name w, ts)

/-- A value: `present` reads what comes after `Some`, and `item` what stands between brackets. -/
def readNested (bare : Bool) (present item : Reader Value) : Reader Value
  | .word w :: rest => readAfterWord bare present item w rest
  | .mark '(' :: rest => readFields item none rest
  | .mark '[' :: rest => (readUntil ']' item rest).map fun (vs, last) => (.list vs, last)
  | .mark '\x7b' :: rest =>
    (readUntil '\x7d' (readEntry item item) rest).map fun (es, last) => (.map es, last)
  | ts => readSimple ts

mutual

/-- A value with at most so many levels in it. Brackets are a level, and each item between them is
one more; the value after `Some` is one. -/
def readValue (bare : Bool) : Nat → Reader Value
  | 0 => readSimple
  | levels + 1 => readNested bare (readValue bare levels) (readItem bare levels)

/-- An item between brackets, with at most so many levels, its own being one of them. -/
def readItem (bare : Bool) : Nat → Reader Value
  | 0 => fun _ => none
  | levels + 1 => readValue bare levels

end

/-- A value may have this many levels. -/
def maxLevels : Nat := 128

/-! ## What a text enables -/

/-- What the opening lines can enable. Only `implicit_some` matters here: with it, the value after
`Some` may stand bare. -/
def extensions : List String := ["unwrap_newtypes", "implicit_some", "unwrap_variant_newtypes"]

/-- What the opening lines enable. -/
def readEnabled : Nat → Reader (List String)
  | fuel + 1, .mark '#' :: ts =>
    match ts with
    | .mark '!' :: .mark '[' :: .word w :: .mark '(' :: rest => do
      if w ≠ { text := "enable" } then none
      match ← readUntil ')' readFieldName rest with
      | (names, .mark ']' :: last) =>
        if names ≠ [] ∧ names.all (extensions.contains ·) then
          (readEnabled fuel last).map fun (more, tail) => (names ++ more, tail)
        else none
      | _ => none
    | _ => none
  | _, ts => some ([], ts)

/-- The value of a run of tokens. -/
def Value.ofTokens? (ts : List Token) : Option Value := do
  let (enabled, rest) ← readEnabled ts.length ts
  match ← readValue (enabled.contains "implicit_some") maxLevels rest with
  | (v, []) => some v
  | _ => none

/-- The value of a text. -/
def Value.read? (text : String) : Option Value := do Value.ofTokens? (← tokens? text.toList)

/-! ## Writing -/

/-- The runs of tokens with commas between them. -/
def separated (runs : List (List Token)) : List Token := List.intercalate [.mark ','] runs

/-- Runs of tokens in parentheses. -/
def parenthesized (runs : List (List Token)) : List Token :=
  if runs.isEmpty then [.emptyParens] else .mark '(' :: (separated runs ++ [.mark ')'])

/-- The name of a record, if it is written. -/
def nameTokens (name : Option Word) : List Token := name.toList.map Token.word

mutual

/-- The tokens of a value. -/
def Value.tokens : Value → List Token
  | .text s => [.text s]
  | .letter c => [.letter c]
  | .number digits => [.number digits]
  | .name w => [.word w]
  | .present v => .word { text := "Some" } :: .mark '(' :: (v.tokens ++ [.mark ')'])
  | .list vs => .mark '[' :: (separated (tokensOfAll vs) ++ [.mark ']'])
  | .map es => .mark '\x7b' :: (separated (tokensOfEntries es) ++ [.mark '\x7d'])
  | .record name fs => nameTokens name ++ parenthesized (tokensOfFields fs)
  | .tuple name vs => nameTokens name ++ parenthesized (tokensOfAll vs)

/-- The tokens of each value. -/
def tokensOfAll : List Value → List (List Token)
  | [] => []
  | v :: vs => v.tokens :: tokensOfAll vs

/-- The tokens of each entry of a map. -/
def tokensOfEntries : List (Value × Value) → List (List Token)
  | [] => []
  | (k, v) :: es => (k.tokens ++ .mark ':' :: v.tokens) :: tokensOfEntries es

/-- The tokens of each field of a record. -/
def tokensOfFields : List (String × Value) → List (List Token)
  | [] => []
  | (name, v) :: fs => (.word { text := name } :: .mark ':' :: v.tokens) :: tokensOfFields fs

end

/-- A text with the value, without blanks. -/
def Value.write (v : Value) : String := String.ofList (v.tokens.flatMap Token.spell)

end StoryBlanks.RecordText
