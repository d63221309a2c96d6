import StoryBlanks.RecordText.Quoted
import StoryBlanks.Text.Decimal

/-!
# Numbers in record text

Which words of digits, signs and letters are numbers, and the value of a whole number. Whole
numbers may be hexadecimal, octal or binary, with underscores between their digits; any other
number is a decimal fraction with an optional exponent.
-/

namespace StoryBlanks.RecordText

/-! ## Whole numbers -/

/-- The digits in base `base`, underscores passed over. -/
def digits? (base : Nat) (ds : List Char) : Option Nat :=
  match ds with
  | [] => none
  | '_' :: _ => none
  | _ =>
    (ds.filter (· ≠ '_')).foldlM (fun n c =>
      (hexValue? c).bind fun d => if d < base then some (base * n + d) else none) 0

/-- A whole number without a sign. -/
def magnitude? : List Char → Option Nat
  | '0' :: 'x' :: ds => digits? 16 ds
  | '0' :: 'o' :: ds => digits? 8 ds
  | '0' :: 'b' :: ds => digits? 2 ds
  | ds => digits? 10 ds

/-- A whole number without a sign that fits a word. -/
def natural? (cs : List Char) : Option Nat :=
  (magnitude? cs).filter fun n => n < Text.wordLimit

/-- The text is a whole number that fits a word, a signed one if it has a sign. -/
def isWhole : List Char → Bool
  | '+' :: cs => (magnitude? cs).any fun n => n < Text.wordLimit / 2
  | '-' :: cs => (magnitude? cs).any fun n => n ≤ Text.wordLimit / 2
  | cs => (natural? cs).isSome

/-! ## Fractions -/

/-- The text without a sign that opens it. -/
def dropSign : List Char → List Char
  | '+' :: cs | '-' :: cs => cs
  | cs => cs

/-- The text is nothing, or an exponent. -/
def isExponent : List Char → Bool
  | [] => true
  | c :: cs =>
    let ds := dropSign cs
    (c = 'e' || c = 'E') && !ds.isEmpty && ds.all Char.isDigit

/-- The text is a decimal number: digits, perhaps with a point among them or at an end of them,
perhaps a sign before and an exponent after. -/
def isDecimal (cs : List Char) : Bool :=
  let unsigned := dropSign cs
  let whole := unsigned.takeWhile Char.isDigit
  match unsigned.dropWhile Char.isDigit with
  | '.' :: rest =>
    (!whole.isEmpty || rest.head?.any Char.isDigit) && isExponent (rest.dropWhile Char.isDigit)
  | rest => !whole.isEmpty && isExponent rest

/-- Numbers that have no digits. Without their signs they are words. -/
def signedWords : List String := ["+inf", "-inf", "+NaN", "-NaN"]

/-- The text is a number. -/
def isNumber (cs : List Char) : Bool :=
  signedWords.contains (String.ofList cs) || isWhole cs || isDecimal cs

end StoryBlanks.RecordText
