import StoryBlanks.RecordText.Number

/-!
# Tokens of record text

Record text is a run of marks, words, quoted texts and numbers, with blanks and comments between
them. A token is read as far as it goes, and what it ends in cannot begin another.

* `tokens?`: the tokens of a text.
* `Token.spell`: a token as it is written.
-/

namespace StoryBlanks.RecordText

/-- A name. An escaped one may have dots and signs in it, and is no keyword. -/
structure Word where
  text : String
  escaped : Bool := false
  deriving DecidableEq

/-- The smallest parts of record text. -/
inductive Token
  | mark (c : Char)
  /-- Parentheses with nothing between them, not even a blank. -/
  | emptyParens
  | word (w : Word)
  | text (s : String)
  | letter (c : Char)
  | number (digits : String)
  deriving DecidableEq

/-! ## Characters -/

/-- The marks that stand by themselves. -/
def marks : List Char := ['(', ')', '[', ']', '\x7b', '\x7d', ',', ':', '#', '!']

/-- The blanks of record text. -/
def isSpace (c : Char) : Bool := c = ' ' || c = '\t' || c = '\n' || c = '\r'

/-- A word can begin with this. -/
def isWordStart (c : Char) : Bool := c.isAlpha || c = '_'

/-- A word can go on with this. -/
def isWordChar (c : Char) : Bool := c.isAlphanum || c = '_'

/-- A number can begin with this. -/
def isNumberStart (c : Char) : Bool := c.isDigit || c = '+' || c = '-' || c = '.'

/-- An escaped word can have this in it; a number goes on as long as it finds one. -/
def isLongWordChar (c : Char) : Bool := isWordChar c || c = '.' || c = '+' || c = '-'

/-! ## Comments -/

/-- What follows comments that are open `depth` times. -/
def skipBlock : Nat → List Char → Option (List Char)
  | 0, cs => some cs
  | _ + 1, [] => none
  | depth + 1, '/' :: '*' :: cs => skipBlock (depth + 2) cs
  | depth + 1, '*' :: '/' :: cs => skipBlock depth cs
  | depth + 1, _ :: cs => skipBlock (depth + 1) cs

/-- What follows a comment whose first slash is gone. -/
def skipComment : List Char → Option (List Char)
  | '/' :: cs => some (cs.dropWhile (· ≠ '\n'))
  | '*' :: cs => skipBlock 1 cs
  | _ => none

theorem length_le_of_skipBlock {depth : Nat} {cs rest : List Char}
    (h : skipBlock depth cs = some rest) : rest.length ≤ cs.length := by
  fun_induction skipBlock depth cs with
  | case1 => cases h; exact Nat.le_refl _
  | case2 => cases h
  | case3 _ _ ih | case4 _ _ ih =>
    have := ih h
    simp only [List.length_cons]
    omega
  | case5 _ _ _ _ _ ih =>
    have := ih h
    simp only [List.length_cons]
    omega

theorem length_le_of_skipComment {cs rest : List Char} (h : skipComment cs = some rest) :
    rest.length ≤ cs.length := by
  unfold skipComment at h
  split at h
  · cases h
    exact Nat.le_succ_of_le (List.dropWhile_suffix _).length_le
  · exact Nat.le_succ_of_le (length_le_of_skipBlock h)
  · cases h

/-! ## Reading a token -/

/-- A text without escapes, from its hash signs and quote on. -/
def readRawText (cs : List Char) : Option (Token × List Char) :=
  match cs.dropWhile (· = '#') with
  | '"' :: body =>
    (readRaw (cs.takeWhile (· = '#')).length body).map fun (ds, rest) =>
      (.text (String.ofList ds), rest)
  | _ => none

/-- What begins with the letter `r`: a text without escapes, an escaped word, or a plain word. -/
def readAfterR (cs : List Char) : Option (Token × List Char) :=
  match cs with
  | '"' :: _ => readRawText cs
  | '#' :: after =>
    if after.head?.any isLongWordChar then
      some (.word ⟨String.ofList (after.takeWhile isLongWordChar), true⟩,
        after.dropWhile isLongWordChar)
    else readRawText cs
  | _ => some (.word { text := String.ofList ('r' :: cs.takeWhile isWordChar) },
      cs.dropWhile isWordChar)

/-- The token that begins with `c`, and what follows it. -/
def readToken (c : Char) (cs : List Char) : Option (Token × List Char) :=
  if c = '(' ∧ cs.head? = some ')' then some (.emptyParens, cs.tail)
  else if c ∈ marks then some (.mark c, cs)
  else if c = '"' then (readQuoted cs).map fun (ds, rest) => (.text (String.ofList ds), rest)
  else if c = '\'' then (readLetter cs).map fun (d, rest) => (.letter d, rest)
  else if c = 'r' then readAfterR cs
  else if isWordStart c then
    some (.word { text := String.ofList (c :: cs.takeWhile isWordChar) }, cs.dropWhile isWordChar)
  else if isNumberStart c then
    let digits := c :: cs.takeWhile isLongWordChar
    if isNumber digits then
      some (.number (String.ofList digits), cs.dropWhile isLongWordChar)
    else none
  else none

theorem length_le_of_readRawText {cs rest : List Char} {t : Token}
    (h : readRawText cs = some (t, rest)) : rest.length ≤ cs.length := by
  unfold readRawText at h
  split at h
  · next body hdrop =>
    simp only [Option.map_eq_some_iff, Prod.mk.injEq, Prod.exists] at h
    obtain ⟨ds, last, hread, -, rfl⟩ := h
    have hlt := length_lt_of_readRaw hread
    have hle : ('"' :: body).length ≤ cs.length := hdrop ▸ (List.dropWhile_suffix _).length_le
    simp only [List.length_cons] at hle
    omega
  · cases h

theorem length_le_of_readAfterR {cs rest : List Char} {t : Token}
    (h : readAfterR cs = some (t, rest)) : rest.length ≤ cs.length := by
  unfold readAfterR at h
  split at h
  · exact length_le_of_readRawText h
  · split at h
    · cases h
      exact Nat.le_succ_of_le (List.dropWhile_suffix _).length_le
    · exact length_le_of_readRawText h
  · cases h
    exact (List.dropWhile_suffix _).length_le

theorem length_le_of_readToken {c : Char} {cs rest : List Char} {t : Token}
    (h : readToken c cs = some (t, rest)) : rest.length ≤ cs.length := by
  unfold readToken at h
  split at h
  · cases h
    exact (List.tail_suffix cs).length_le
  split at h
  · cases h
    exact Nat.le_refl _
  split at h
  · simp only [Option.map_eq_some_iff, Prod.mk.injEq, Prod.exists] at h
    obtain ⟨ds, last, hread, -, rfl⟩ := h
    exact Nat.le_of_lt (length_lt_of_readQuoted hread)
  split at h
  · simp only [Option.map_eq_some_iff, Prod.mk.injEq, Prod.exists] at h
    obtain ⟨d, last, hread, -, rfl⟩ := h
    exact Nat.le_of_lt (length_lt_of_readLetter hread)
  split at h
  · exact length_le_of_readAfterR h
  split at h
  · cases h
    exact (List.dropWhile_suffix _).length_le
  split at h
  · dsimp only at h
    split at h
    · cases h
      exact (List.dropWhile_suffix _).length_le
    · cases h
  · cases h

/-- The tokens of a text. -/
def tokens? (cs : List Char) : Option (List Token) :=
  match cs with
  | [] => some []
  | c :: rest =>
    if isSpace c then tokens? rest
    else if c = '/' then
      match hskip : skipComment rest with
      | none => none
      | some after =>
        have : after.length < rest.length + 1 := Nat.lt_succ_of_le (length_le_of_skipComment hskip)
        tokens? after
    else
      match hread : readToken c rest with
      | none => none
      | some (t, after) =>
        have : after.length < rest.length + 1 := Nat.lt_succ_of_le (length_le_of_readToken hread)
        (tokens? after).map (t :: ·)
termination_by cs.length

/-! ## Writing a token -/

/-- The token as it is written. -/
def Token.spell : Token → List Char
  | mark c => [c]
  | emptyParens => ['(', ')']
  | word w => if w.escaped then 'r' :: '#' :: w.text.toList else w.text.toList
  | text s => '"' :: (s.toList.flatMap writeChar ++ ['"'])
  | letter c => '\'' :: (writeChar c ++ ['\''])
  | number digits => digits.toList

end StoryBlanks.RecordText
