import StoryBlanks.Text.Cut
import StoryBlanks.Text.Printable

/-!
# Quoted characters

How a character is written between quotes, and how quoted text is read. A character that does not
stand alone is written by its code point in hexadecimal digits.

* `writeChar`: one character between quotes.
* `readQuoted`, `readRaw`, `readLetter`: what stands between quotes, and what follows them.
-/

namespace StoryBlanks.RecordText

/-! ## Escapes -/

/-- The letters that stand for one character after a backslash. -/
def escapes : List (Char × Char) :=
  [('0', '\x00'), ('t', '\t'), ('r', '\r'), ('n', '\n'), ('\'', '\''), ('"', '"'), ('\\', '\\')]

/-- The letter that stands for a character after a backslash. -/
def escapeLetter? (c : Char) : Option Char := (escapes.find? fun e => e.2 = c).map (·.1)

/-- A character as it is written between quotes. -/
def writeChar (c : Char) : List Char :=
  match escapeLetter? c with
  | some letter => ['\\', letter]
  | none =>
    if Text.standsAlone c then [c]
    else '\\' :: 'u' :: '\x7b' :: (Nat.toDigits 16 c.toNat ++ ['\x7d'])

/-- The value of a hexadecimal digit. -/
def hexValue? (c : Char) : Option Nat :=
  if c.isDigit then some (c.toNat - '0'.toNat)
  else if 'a' ≤ c ∧ c ≤ 'f' then some (c.toNat - 'a'.toNat + 10)
  else if 'A' ≤ c ∧ c ≤ 'F' then some (c.toNat - 'A'.toNat + 10)
  else none

/-- The number that hexadecimal digits stand for. -/
def hexNumber? (digits : List Char) : Option Nat :=
  digits.foldlM (fun n c => (hexValue? c).map (16 * n + ·)) 0

/-- The character of a code point, if it has one. -/
def charAt? (n : Nat) : Option Char := if n.isValidChar then some (Char.ofNat n) else none

/-- The character that stands after a backslash, and what follows it. -/
def readEscape : List Char → Option (Char × List Char)
  | 'x' :: a :: b :: rest => do
    let n ← hexNumber? [a, b]
    let c ← charAt? n
    some (c, rest)
  | 'u' :: '\x7b' :: rest => do
    let (digits, after) ← Text.cut '\x7d' rest
    if digits.length = 0 ∨ 6 < digits.length then none
    else
      let n ← hexNumber? digits
      let c ← charAt? n
      some (c, after)
  | c :: rest => (escapes.lookup c).map fun d => (d, rest)
  | [] => none

theorem length_lt_of_readEscape {cs rest : List Char} {c : Char}
    (h : readEscape cs = some (c, rest)) : rest.length < cs.length := by
  unfold readEscape at h
  split at h
  · simp only [Option.bind_eq_bind, Option.bind_eq_some_iff, Option.some.injEq, Prod.mk.injEq] at h
    obtain ⟨n, -, d, -, -, rfl⟩ := h
    simp only [List.length_cons]
    omega
  · simp only [Option.bind_eq_bind, Option.bind_eq_some_iff, Prod.exists] at h
    obtain ⟨digits, after, hcut, h⟩ := h
    have hlt := Text.length_lt_of_cut hcut
    split at h
    · cases h
    · simp only [Option.bind_eq_some_iff, Option.some.injEq, Prod.mk.injEq] at h
      obtain ⟨n, -, d, -, -, rfl⟩ := h
      simp only [List.length_cons]
      omega
  · simp only [Option.map_eq_some_iff, Prod.mk.injEq] at h
    obtain ⟨d, -, -, rfl⟩ := h
    simp
  · cases h

/-! ## Texts -/

/-- A text up to the quote that closes it, and what follows the quote. -/
def readQuoted (cs : List Char) : Option (List Char × List Char) :=
  match cs with
  | [] => none
  | c :: rest =>
    if c = '"' then some ([], rest)
    else if c = '\\' then
      match hread : readEscape rest with
      | none => none
      | some (d, after) =>
        have : after.length < rest.length + 1 :=
          Nat.lt_succ_of_lt (length_lt_of_readEscape hread)
        (readQuoted after).map fun (ds, last) => (d :: ds, last)
    else (readQuoted rest).map fun (ds, last) => (c :: ds, last)
termination_by cs.length

theorem length_lt_of_readQuoted {cs ds rest : List Char} (h : readQuoted cs = some (ds, rest)) :
    rest.length < cs.length := by
  fun_induction readQuoted cs generalizing ds with
  | case1 => cases h
  | case2 cs => cases h; simp
  | case3 => cases h
  | case4 cs d after hread _ _ ih =>
    simp only [Option.map_eq_some_iff, Prod.mk.injEq, Prod.exists] at h
    obtain ⟨es, last, hes, -, rfl⟩ := h
    have := ih hes
    simp only [List.length_cons]
    omega
  | case5 c cs _ _ ih =>
    simp only [Option.map_eq_some_iff, Prod.mk.injEq, Prod.exists] at h
    obtain ⟨es, last, hes, -, rfl⟩ := h
    have := ih hes
    simp only [List.length_cons]
    omega

/-- A text without escapes, up to the quote that is followed by as many hash signs as opened it,
and what follows these. -/
def readRaw (hashes : Nat) : List Char → Option (List Char × List Char)
  | [] => none
  | c :: rest =>
    if c = '"' ∧ (List.replicate hashes '#').isPrefixOf rest then some ([], rest.drop hashes)
    else (readRaw hashes rest).map fun (ds, last) => (c :: ds, last)

theorem length_lt_of_readRaw {hashes : Nat} {cs ds rest : List Char}
    (h : readRaw hashes cs = some (ds, rest)) : rest.length < cs.length := by
  induction cs generalizing ds with
  | nil => cases h
  | cons c cs ih =>
    rw [readRaw] at h
    split at h
    · cases h
      simp only [List.length_drop, List.length_cons]
      omega
    · simp only [Option.map_eq_some_iff, Prod.mk.injEq, Prod.exists] at h
      obtain ⟨es, last, hes, -, rfl⟩ := h
      have := ih hes
      simp only [List.length_cons]
      omega

/-- One character up to the apostrophe that closes it, and what follows the apostrophe. -/
def readLetter : List Char → Option (Char × List Char)
  | '\\' :: rest =>
    match readEscape rest with
    | some (c, '\'' :: after) => some (c, after)
    | _ => none
  | c :: '\'' :: rest => if c = '\'' then none else some (c, rest)
  | _ => none

theorem length_lt_of_readLetter {cs rest : List Char} {c : Char}
    (h : readLetter cs = some (c, rest)) : rest.length < cs.length := by
  unfold readLetter at h
  split at h
  · split at h
    · next d after hread =>
      cases h
      have := length_lt_of_readEscape hread
      simp only [List.length_cons] at this ⊢
      omega
    · cases h
  · split at h
    · cases h
    · cases h
      simp only [List.length_cons]
      omega
  · cases h

end StoryBlanks.RecordText
