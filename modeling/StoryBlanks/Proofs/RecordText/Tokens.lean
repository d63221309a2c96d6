import StoryBlanks.Proofs.RecordText.Characters

/-!
# Tokens read back

A word or a number is read as far as it goes, so it reads back only before something that cannot go
on with it: a break. All other tokens say where they end. A run of tokens is held together by
breaks alone, so that runs that read back can be put one after another wherever a break begins the
second.

* `tokens?_word`, `tokens?_text`, `tokens?_natural`: one token, and what follows it.
* `ReadsBack`: a run of tokens before whatever a break begins.
* `ReadsBack.mark`, `ReadsBack.parenthesis`, `ReadsBack.append`: how runs are put together.
-/

namespace StoryBlanks.RecordText

variable {c : Char} {cs rest : List Char} {t : Token} {ts us : List Token}

/-! ## Words and breaks -/

/-- The text is a word that is written without an escape. -/
def isPlainWord (s : String) : Bool :=
  match s.toList with
  | [] => false
  | c :: cs => isWordStart c && cs.all isWordChar

theorem isPlainWord_iff {s : String} : isPlainWord s = true ↔
    ∃ c cs, s.toList = c :: cs ∧ isWordStart c = true ∧ ∀ d ∈ cs, isWordChar d = true := by
  unfold isPlainWord
  constructor
  · intro h
    split at h
    · cases h
    · next c cs hs =>
      rw [Bool.and_eq_true, List.all_eq_true] at h
      exact ⟨c, cs, hs, h⟩
  · rintro ⟨c, cs, hs, hc, hcs⟩
    rw [hs]
    simpa [hc] using hcs

/-- The marks that no word or number goes on with. -/
def breaks : List Char := [',', ':', ')', ']', '\x7d']

/-- The text is at its end, or at a break. -/
def Broken (rest : List Char) : Prop := ∀ c ∈ rest.head?, c ∈ breaks

theorem Broken.nil : Broken [] := by
  rintro c ⟨⟩

theorem Broken.cons (h : c ∈ breaks) (rest : List Char) : Broken (c :: rest) := by
  rintro d ⟨⟩
  exact h

/-- Up to a break, whatever goes on is taken, and the break stays. -/
theorem Broken.span {p : Char → Bool} (hbreaks : breaks.any p = false) (h : Broken rest)
    (hcs : ∀ c ∈ cs, p c = true) :
    (cs ++ rest).takeWhile p = cs ∧ (cs ++ rest).dropWhile p = rest := by
  rw [List.takeWhile_append_of_pos hcs, List.dropWhile_append_of_pos hcs]
  cases rest with
  | nil => exact ⟨List.append_nil cs, rfl⟩
  | cons d ds =>
    have hd : ¬ p d = true := List.any_eq_false.1 hbreaks d (h d rfl)
    rw [List.takeWhile_cons_of_neg hd, List.dropWhile_cons_of_neg hd]
    exact ⟨List.append_nil cs, rfl⟩

/-! ## One token -/

theorem tokens?_of_readToken (hspace : ¬ isSpace c = true) (hslash : c ≠ '/')
    (h : readToken c cs = some (t, rest)) : tokens? (c :: cs) = (tokens? rest).map (t :: ·) := by
  rw [tokens?, if_neg hspace, if_neg hslash]
  split
  · next hnone => rw [h] at hnone; cases hnone
  · next u after hsome =>
    obtain ⟨rfl, rfl⟩ := Prod.mk.inj (Option.some.inj (h.symm.trans hsome))
    rfl

/-- A mark is read as one, except for a parenthesis that is closed at once. -/
theorem tokens?_mark (h : c ∈ marks) (hpair : c = '(' → rest.head? ≠ some ')') :
    tokens? ((Token.mark c).spell ++ rest) = (tokens? rest).map (.mark c :: ·) := by
  have hspace : ¬ isSpace c = true := List.any_eq_false.1 (by decide) c h
  have hslash : c ≠ '/' := by
    rintro rfl
    exact absurd h (by decide)
  refine tokens?_of_readToken hspace hslash ?_
  rw [readToken, if_neg fun hboth => hpair hboth.1 hboth.2, if_pos h]
  rfl

theorem tokens?_text (s : String) (rest : List Char) :
    tokens? ((Token.text s).spell ++ rest) = (tokens? rest).map (.text s :: ·) := by
  rw [Token.spell, List.cons_append, List.append_assoc, List.singleton_append]
  refine tokens?_of_readToken (by decide) (by decide) ?_
  have hquote : ¬ ('"' = '(' ∧ (s.toList.flatMap writeChar ++ '"' :: rest).head? = some ')') :=
    fun hboth => absurd hboth.1 (by decide)
  rw [readToken, if_neg hquote, if_neg (by decide), if_pos rfl, readQuoted_quoted, Option.map_some]
  dsimp only
  rw [String.ofList_toList]

/-- The characters that begin neither a word nor a number. -/
def delimiters : List Char := marks ++ [' ', '\t', '\n', '\r', '/', '"', '\'']

/-- What begins with none of the delimiters is a word, a number, or a text without escapes. -/
theorem readToken_of_clear {p : Char → Bool} (hp : delimiters.any p = false) (h : p c = true) :
    ¬ isSpace c = true ∧ c ≠ '/' ∧ ∀ cs, readToken c cs =
      if c = 'r' then readAfterR cs
      else if isWordStart c then
        some (.word { text := String.ofList (c :: cs.takeWhile isWordChar) },
          cs.dropWhile isWordChar)
      else if isNumberStart c then
        let digits := c :: cs.takeWhile isLongWordChar
        if isNumber digits then
          some (.number (String.ofList digits), cs.dropWhile isLongWordChar)
        else none
      else none := by
  have hne : ∀ d ∈ delimiters, c ≠ d := by
    rintro d hd rfl
    exact List.any_eq_false.1 hp c hd h
  have hspace : ¬ isSpace c = true := by
    simp [isSpace, hne ' ' (by decide), hne '\t' (by decide), hne '\n' (by decide),
      hne '\r' (by decide)]
  have hmarks : c ∉ marks := fun hc => hne c (List.mem_append_left _ hc) rfl
  refine ⟨hspace, hne '/' (by decide), fun cs => ?_⟩
  rw [readToken, if_neg fun hboth => hne '(' (by decide) hboth.1, if_neg hmarks,
    if_neg (hne '"' (by decide)), if_neg (hne '\'' (by decide))]

/-- A plain word that begins with the letter `r` is one, before a break. -/
theorem readAfterR_word (hcs : ∀ d ∈ cs, isWordChar d = true) (hrest : Broken rest) :
    readAfterR (cs ++ rest) = some (.word { text := String.ofList ('r' :: cs) }, rest) := by
  obtain ⟨htake, hdrop⟩ := hrest.span (by decide) hcs
  -- neither a word nor a break goes on with a quote or a hash sign
  have hhead : ∀ d ds, ¬ isWordChar d = true → d ∉ breaks → cs ++ rest ≠ d :: ds := by
    intro d ds hword hbreak heq
    have hd : (cs ++ rest).head? = some d := congrArg List.head? heq
    rw [List.head?_append, Option.or_eq_some_iff] at hd
    rcases hd with hd | ⟨-, hd⟩
    · exact hword (hcs d (List.mem_of_head? hd))
    · exact hbreak (hrest d hd)
  unfold readAfterR
  split
  · next heq => exact absurd heq (hhead _ _ (by decide) (by decide))
  · next heq => exact absurd heq (hhead _ _ (by decide) (by decide))
  · rw [htake, hdrop]

theorem tokens?_word {s : String} (h : isPlainWord s = true) (hrest : Broken rest) :
    tokens? ((Token.word { text := s }).spell ++ rest) =
      (tokens? rest).map (.word { text := s } :: ·) := by
  obtain ⟨c, cs, hs, hc, hcs⟩ := isPlainWord_iff.1 h
  have hofList : String.ofList (c :: cs) = s := by rw [← hs, String.ofList_toList]
  have hspell : (Token.word { text := s }).spell = c :: cs := hs
  obtain ⟨hspace, hslash, hread⟩ := readToken_of_clear (by decide) hc
  rw [hspell, List.cons_append]
  refine tokens?_of_readToken hspace hslash ?_
  rw [hread]
  split
  · next hr => rw [readAfterR_word hcs hrest, ← hr, hofList]
  · obtain ⟨htake, hdrop⟩ := hrest.span (by decide) hcs
    rw [htake, hdrop, hofList]

theorem not_isWordStart_of_isDigit (h : c.isDigit = true) : ¬ isWordStart c = true := by
  obtain ⟨hzero, hnine⟩ := Char.isDigit_iff_toNat.1 h
  have hdigits : ∀ n < 58, 48 ≤ n → isWordStart (Char.ofNat n) = false := by decide
  rw [← Char.ofNat_toNat c, hdigits c.toNat (Nat.lt_succ_of_le hnine) hzero]
  exact Bool.false_ne_true

theorem tokens?_natural {n : Nat} (h : n < Text.wordLimit) (hrest : Broken rest) :
    tokens? ((Token.number n.repr).spell ++ rest) =
      (tokens? rest).map (.number n.repr :: ·) := by
  have hdigit : ∀ c ∈ n.repr.toList, c.isDigit = true := fun _ => isDigit_of_mem_repr
  have hnumber := isNumber_repr h
  obtain ⟨c, cs, hs⟩ : ∃ c cs, n.repr.toList = c :: cs := by
    rw [Nat.toList_repr]
    exact List.exists_cons_of_ne_nil Nat.toDigits_ne_nil
  have hspell : (Token.number n.repr).spell = c :: cs := hs
  rw [hs] at hdigit hnumber
  have hc := hdigit c List.mem_cons_self
  have hlong : ∀ d ∈ cs, isLongWordChar d = true := by
    intro d hd
    simp [isLongWordChar, isWordChar, Char.isAlphanum, hdigit d (List.mem_cons_of_mem c hd)]
  obtain ⟨htake, hdrop⟩ := hrest.span (by decide) hlong
  obtain ⟨hspace, hslash, hread⟩ := readToken_of_clear (by decide) hc
  have hr : c ≠ 'r' := by
    rintro rfl
    exact absurd hc (by decide)
  have hword : ¬ isWordStart c = true := not_isWordStart_of_isDigit hc
  have hstart : isNumberStart c = true := by simp [isNumberStart, hc]
  rw [hspell, List.cons_append]
  refine tokens?_of_readToken hspace hslash ?_
  rw [hread, if_neg hr, if_neg hword, if_pos hstart, htake, hdrop]
  rw [if_pos hnumber, ← hs, String.ofList_toList]

/-! ## Runs of tokens -/

/-- The run of tokens is read from its own text, before whatever a break begins. -/
def ReadsBack (ts : List Token) : Prop :=
  ∀ rest, Broken rest → tokens? (ts.flatMap Token.spell ++ rest) = (tokens? rest).map (ts ++ ·)

namespace ReadsBack

theorem nil : ReadsBack [] := by
  intro rest _
  simp

theorem text (s : String) : ReadsBack [.text s] := by
  intro rest _
  rw [List.flatMap_singleton, tokens?_text]
  rfl

theorem word {s : String} (h : isPlainWord s = true) : ReadsBack [.word { text := s }] := by
  intro rest hrest
  rw [List.flatMap_singleton, tokens?_word h hrest]
  rfl

theorem natural {n : Nat} (h : n < Text.wordLimit) : ReadsBack [.number n.repr] := by
  intro rest hrest
  rw [List.flatMap_singleton, tokens?_natural h hrest]
  rfl

theorem mark (hc : c ∈ marks) (hopen : c ≠ '(') (h : ReadsBack ts) :
    ReadsBack (.mark c :: ts) := by
  intro rest hrest
  rw [List.flatMap_cons, List.append_assoc, tokens?_mark hc fun heq => absurd heq hopen,
    h rest hrest, Option.map_map]
  rfl

/-- A parenthesis is read by itself unless the next one closes it. -/
theorem parenthesis (hstart : ∃ d ∈ (ts.flatMap Token.spell).head?, d ≠ ')') (h : ReadsBack ts) :
    ReadsBack (.mark '(' :: ts) := by
  obtain ⟨d, hd, hne⟩ := hstart
  intro rest hrest
  have hnext : (ts.flatMap Token.spell ++ rest).head? ≠ some ')' := by
    rw [List.head?_append, hd, Option.some_or, ne_eq, Option.some.injEq]
    exact hne
  rw [List.flatMap_cons, List.append_assoc, tokens?_mark (by decide) fun _ => hnext,
    h rest hrest, Option.map_map]
  rfl

/-- Two runs with a break between them. -/
theorem append (hts : ReadsBack ts) (hc : c ∈ breaks) (hus : ReadsBack us) :
    ReadsBack (ts ++ .mark c :: us) := by
  intro rest hrest
  have hmark : breaks.all (fun c => c ∈ marks && c != '(') = true := by decide
  have hmarked : ReadsBack (.mark c :: us) := by
    obtain ⟨hmem, hne⟩ := Bool.and_eq_true_iff.1 (List.all_eq_true.1 hmark c hc)
    exact hus.mark (of_decide_eq_true hmem) (bne_iff_ne.1 hne)
  rw [List.flatMap_append, List.append_assoc, hts, hmarked rest hrest, Option.map_map]
  · simp only [Function.comp_def, List.append_assoc]
  · exact .cons hc _

end ReadsBack

/-- A run of tokens that reads back is read from its text alone. -/
theorem ReadsBack.tokens?_eq (h : ReadsBack ts) :
    tokens? (ts.flatMap Token.spell) = some ts := by
  have hall := h [] .nil
  rwa [List.append_nil, tokens?, Option.map_some, List.append_nil] at hall

end StoryBlanks.RecordText
