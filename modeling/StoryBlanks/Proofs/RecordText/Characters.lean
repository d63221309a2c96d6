import StoryBlanks.RecordText.Token

/-!
# Characters and numbers read back

A character is written in one of three forms: as it is, as a letter after a backslash, or as the
hexadecimal digits of its code point. Each form says where it ends, so that whatever stands next to
a character is left for its own reader. The same holds of a quoted text, by induction on its
characters.

* `foldlM_toDigits`: the digits of a number, in whatever base, stand for it.
* `natural?_repr`, `isNumber_repr`: a number that fits a word.
* `readEscape_digits`, `readQuoted_writeChar`, `readQuoted_quoted`: characters and texts.
-/

namespace StoryBlanks.RecordText

/-! ## Digits -/

/-- What reads a number digit by digit, the first digit first, reads it from its own digits. -/
theorem foldlM_toDigits {base : Nat} (hbase : 1 < base) {step : Nat → Char → Option Nat}
    (hstep : ∀ a d, d < base → step a d.digitChar = some (base * a + d)) (n : Nat) :
    (Nat.toDigits base n).foldlM step 0 = some n := by
  induction n using Nat.strongRecOn with
  | _ n ih =>
    rw [Nat.toDigits_eq_if hbase]
    split
    · next hlt => simp [hstep 0 n hlt]
    · next hle =>
      have hmod : n % base < base := Nat.mod_lt n (Nat.lt_trans Nat.one_pos hbase)
      have hdiv : n / base < n := Nat.div_lt_self (by omega) hbase
      simp [List.foldlM_append, ih _ hdiv, hstep _ _ hmod, Nat.div_add_mod]

theorem mem_toDigits {base : Nat} (hbase : 1 < base) {n : Nat} {c : Char}
    (h : c ∈ Nat.toDigits base n) : ∃ d < base, c = d.digitChar := by
  induction n using Nat.strongRecOn with
  | _ n ih =>
    rw [Nat.toDigits_eq_if hbase] at h
    split at h
    · next hlt => exact ⟨n, hlt, List.mem_singleton.1 h⟩
    · next hle =>
      rcases List.mem_append.1 h with h | h
      · exact ih _ (Nat.div_lt_self (by omega) hbase) h
      · exact ⟨n % base, Nat.mod_lt n (Nat.lt_trans Nat.one_pos hbase), List.mem_singleton.1 h⟩

theorem not_mem_toDigits {base : Nat} (hbase : 1 < base) (hle : base ≤ 16) {c : Char}
    (hc : ∀ d < 16, Nat.digitChar d ≠ c) (n : Nat) : c ∉ Nat.toDigits base n := by
  intro hmem
  obtain ⟨d, hd, rfl⟩ := mem_toDigits hbase hmem
  exact hc d (Nat.lt_of_lt_of_le hd hle) rfl

theorem hexValue?_digitChar : ∀ d < 16, hexValue? d.digitChar = some d := by decide

theorem hexNumber?_toDigits (n : Nat) : hexNumber? (Nat.toDigits 16 n) = some n := by
  refine foldlM_toDigits (by decide) (fun a d hd => ?_) n
  rw [hexValue?_digitChar d hd]
  rfl

/-! ## Numbers that fit a word -/

theorem digits?_toDigits {base : Nat} (hbase : 1 < base) (hle : base ≤ 16) (n : Nat) :
    digits? base (Nat.toDigits base n) = some n := by
  have hunderscore : '_' ∉ Nat.toDigits base n := not_mem_toDigits hbase hle (by decide) n
  have hfilter : (Nat.toDigits base n).filter (· ≠ '_') = Nat.toDigits base n := by
    rw [List.filter_eq_self]
    exact fun c hc => decide_eq_true (ne_of_mem_of_not_mem hc hunderscore)
  unfold digits?
  split
  · next heq => exact absurd heq Nat.toDigits_ne_nil
  · next ds heq => exact absurd (heq ▸ List.mem_cons_self) hunderscore
  · rw [hfilter]
    refine foldlM_toDigits hbase (fun a d hd => ?_) n
    rw [hexValue?_digitChar d (Nat.lt_of_lt_of_le hd hle), Option.bind_some, if_pos hd]

/-- A decimal digit is none of the letters that change the base, so all digits count. -/
theorem magnitude?_eq_digits? {ds : List Char} (h : ∀ c ∈ ds, c.isDigit = true) :
    magnitude? ds = digits? 10 ds := by
  unfold magnitude?
  split
  iterate 3
    · exact absurd (h _ (List.mem_cons_of_mem _ List.mem_cons_self)) (by decide)
  · rfl

theorem isDigit_of_mem_repr {n : Nat} {c : Char} (h : c ∈ n.repr.toList) : c.isDigit = true := by
  rw [Nat.toList_repr] at h
  exact Nat.isDigit_of_mem_toDigits (by decide) (by decide) h

theorem natural?_repr {n : Nat} (h : n < Text.wordLimit) : natural? n.repr.toList = some n := by
  rw [natural?, magnitude?_eq_digits? fun _ => isDigit_of_mem_repr, Nat.toList_repr,
    digits?_toDigits (by decide) (by decide), Option.filter_some, decide_eq_true h]
  rfl

theorem isNumber_repr {n : Nat} (h : n < Text.wordLimit) : isNumber n.repr.toList = true := by
  have hdigit : ∀ c ∈ n.repr.toList, c.isDigit = true := fun _ => isDigit_of_mem_repr
  have hwhole : isWhole n.repr.toList = true := by
    unfold isWhole
    split
    · next cs heq => exact absurd (hdigit _ (heq ▸ List.mem_cons_self)) (by decide)
    · next cs heq => exact absurd (hdigit _ (heq ▸ List.mem_cons_self)) (by decide)
    · rw [natural?_repr h]
      rfl
  rw [isNumber, hwhole, Bool.or_true, Bool.true_or]

/-! ## Characters between quotes -/

/-- Every letter that may stand for a character is read as that character, and no other reading of
what follows a backslash takes it. -/
theorem readEscape_letter {c letter : Char} (h : escapeLetter? c = some letter)
    (rest : List Char) : readEscape (letter :: rest) = some (c, rest) := by
  obtain ⟨⟨l, d⟩, hfind, rfl⟩ := Option.map_eq_some_iff.1 h
  have hmem := List.mem_of_find?_eq_some hfind
  have hd := List.find?_some hfind
  obtain rfl : d = c := of_decide_eq_true hd
  simp only [escapes, List.mem_cons, Prod.mk.injEq, List.not_mem_nil, or_false] at hmem
  rcases hmem with h | h | h | h | h | h | h <;> obtain ⟨rfl, rfl⟩ := h <;> rfl

/-- A character has six hexadecimal digits at most, and none of them closes the braces. -/
theorem readEscape_digits (c : Char) (rest : List Char) :
    readEscape ('u' :: '\x7b' :: (Nat.toDigits 16 c.toNat ++ '\x7d' :: rest)) = some (c, rest) := by
  have hclose : '\x7d' ∉ Nat.toDigits 16 c.toNat :=
    not_mem_toDigits (by decide) (by decide) (by decide) _
  have hcut : Text.cut '\x7d' (Nat.toDigits 16 c.toNat ++ '\x7d' :: rest) =
      some (Nat.toDigits 16 c.toNat, rest) := Text.cut_eq_some_iff.2 ⟨rfl, hclose⟩
  have hsmall : c.toNat < 0x110000 := by
    rcases c.valid with h | ⟨-, h⟩
    · exact Nat.lt_trans h (by decide)
    · exact h
  have hfew : (Nat.toDigits 16 c.toNat).length ≤ 6 :=
    (Nat.length_toDigits_le_iff (by decide) (by decide)).2 (Nat.lt_trans hsmall (by decide))
  have hsome : ¬ ((Nat.toDigits 16 c.toNat).length = 0 ∨ 6 < (Nat.toDigits 16 c.toNat).length) := by
    have hpos := Nat.length_toDigits_pos (b := 16) (n := c.toNat)
    omega
  have hchar : charAt? c.toNat = some c := by
    have hvalid : c.toNat.isValidChar := c.valid
    rw [charAt?, if_pos hvalid, Char.ofNat_toNat]
  simp only [readEscape, hcut, Option.bind_eq_bind, Option.bind_some, if_neg hsome,
    hexNumber?_toDigits, hchar]

/-- A character that stands as it is neither closes the text nor opens an escape. -/
theorem ne_of_escapeLetter?_eq_none {c : Char} (h : escapeLetter? c = none) :
    c ≠ '"' ∧ c ≠ '\\' := by
  constructor <;> rintro rfl <;> revert h <;> decide

/-- **A written character reads back**, and what follows it is read as if it stood alone. -/
theorem readQuoted_writeChar (c : Char) (cs : List Char) :
    readQuoted (writeChar c ++ cs) = (readQuoted cs).map fun (ds, last) => (c :: ds, last) := by
  -- both escaped forms begin with a backslash and are left to `readEscape`
  have hescaped : ∀ form, readEscape (form ++ cs) = some (c, cs) →
      readQuoted ('\\' :: (form ++ cs)) =
        (readQuoted cs).map fun (ds, last) => (c :: ds, last) := by
    intro form hform
    rw [readQuoted, if_neg (by decide), if_pos rfl]
    split
    · next hnone => simp [hform] at hnone
    · next d after hsome =>
      obtain ⟨rfl, rfl⟩ := Prod.mk.inj (Option.some.inj (hform.symm.trans hsome))
      rfl
  unfold writeChar
  split
  · next letter hletter => exact hescaped [letter] (readEscape_letter hletter cs)
  · next hletter =>
    split
    · obtain ⟨hquote, hbackslash⟩ := ne_of_escapeLetter?_eq_none hletter
      rw [List.singleton_append, readQuoted, if_neg hquote, if_neg hbackslash]
    · refine hescaped ('u' :: '\x7b' :: (Nat.toDigits 16 c.toNat ++ ['\x7d'])) ?_
      rw [List.cons_append, List.cons_append, List.append_assoc, List.singleton_append]
      exact readEscape_digits c cs

/-- **A quoted text reads back**, up to the quote that closes it. -/
theorem readQuoted_quoted (cs rest : List Char) :
    readQuoted (cs.flatMap writeChar ++ '"' :: rest) = some (cs, rest) := by
  induction cs with
  | nil => rw [List.flatMap_nil, List.nil_append, readQuoted, if_pos rfl]
  | cons c cs ih =>
    rw [List.flatMap_cons, List.append_assoc, readQuoted_writeChar, ih]
    rfl

end StoryBlanks.RecordText
