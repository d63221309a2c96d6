import StoryBlanks.Text.Cut

/-!
# The layout of a sentence

A text falls into gaps and brace pairs: each opening brace is closed by the next closing one,
whatever stands between them, and an opening brace that nothing closes ends the layout.

* `text_ofText`: a layout is a way to read its own text.
* `ofText_text`: no text has a second layout.
-/

namespace StoryBlanks

/-- A brace pair, with the text that leads to it. -/
structure BracePair where
  gap : List Char
  body : List Char
  deriving DecidableEq

/-- What follows the last brace pair. -/
inductive Ending
  /-- Text without an opening brace. -/
  | closed (gap : List Char)
  /-- Text up to an opening brace, and the text after it, in which nothing closes it. -/
  | unclosed (gap rest : List Char)
  deriving DecidableEq

/-- A text, taken apart at its braces. -/
structure Layout where
  pairs : List BracePair
  ending : Ending
  deriving DecidableEq

/-- The pair as it stands in the text. -/
def BracePair.text (p : BracePair) : List Char := p.gap ++ '\x7b' :: (p.body ++ ['\x7d'])

/-- The ending as it stands in the text. -/
def Ending.text : Ending → List Char
  | closed gap => gap
  | unclosed gap rest => gap ++ '\x7b' :: rest

/-- The ending with more text before it. -/
def Ending.after (kept : List Char) : Ending → Ending
  | closed gap => closed (kept ++ gap)
  | unclosed gap rest => unclosed (kept ++ gap) rest

namespace Layout

/-- The text that a layout takes apart. -/
def text (l : Layout) : List Char := l.pairs.flatMap BracePair.text ++ l.ending.text

/-- The layout with one more pair in front. -/
def cons (p : BracePair) (l : Layout) : Layout := ⟨p :: l.pairs, l.ending⟩

/-- The layout of a text. -/
def ofText (cs : List Char) : Layout :=
  match hopen : Text.cut '\x7b' cs with
  | none => ⟨[], .closed cs⟩
  | some (gap, inner) =>
    match hclose : Text.cut '\x7d' inner with
    | none => ⟨[], .unclosed gap inner⟩
    | some (body, after) =>
      have : after.length < cs.length :=
        Nat.lt_trans (Text.length_lt_of_cut hclose) (Text.length_lt_of_cut hopen)
      cons ⟨gap, body⟩ (ofText after)
termination_by cs.length

/-! ## One layout for each text -/

/-- No gap holds an opening brace and no body a closing one. -/
structure Proper (l : Layout) : Prop where
  gap : ∀ p ∈ l.pairs, '\x7b' ∉ p.gap
  body : ∀ p ∈ l.pairs, '\x7d' ∉ p.body
  ending : match l.ending with
    | .closed gap => '\x7b' ∉ gap
    | .unclosed gap rest => '\x7b' ∉ gap ∧ '\x7d' ∉ rest

theorem Proper.cons {l : Layout} {p : BracePair} (h : l.Proper) (hgap : '\x7b' ∉ p.gap)
    (hbody : '\x7d' ∉ p.body) : (Layout.cons p l).Proper := by
  refine ⟨fun q hq => ?_, fun q hq => ?_, h.ending⟩
  · rcases List.mem_cons.1 hq with rfl | hq
    · exact hgap
    · exact h.gap q hq
  · rcases List.mem_cons.1 hq with rfl | hq
    · exact hbody
    · exact h.body q hq

theorem Proper.tail {p : BracePair} {ps : List BracePair} {ending : Ending}
    (h : Proper ⟨p :: ps, ending⟩) : Proper ⟨ps, ending⟩ :=
  ⟨fun q hq => h.gap q (List.mem_cons_of_mem _ hq),
    fun q hq => h.body q (List.mem_cons_of_mem _ hq), h.ending⟩

@[simp] theorem text_cons (p : BracePair) (l : Layout) : (cons p l).text = p.text ++ l.text := by
  simp [text, cons]

theorem text_ofText (cs : List Char) : (ofText cs).text = cs := by
  fun_induction ofText cs with
  | case1 cs hopen => simp [text, Ending.text]
  | case2 cs gap inner hopen hclose =>
    simp [text, Ending.text, (Text.cut_eq_some_iff.1 hopen).1]
  | case3 cs gap inner hopen body after hclose _ ih =>
    rw [text_cons, ih, (Text.cut_eq_some_iff.1 hopen).1, (Text.cut_eq_some_iff.1 hclose).1]
    simp [BracePair.text]

theorem proper_ofText (cs : List Char) : (ofText cs).Proper := by
  fun_induction ofText cs with
  | case1 cs hopen =>
    exact ⟨by simp, by simp, Text.cut_eq_none_iff.1 hopen⟩
  | case2 cs gap inner hopen hclose =>
    exact ⟨by simp, by simp, (Text.cut_eq_some_iff.1 hopen).2, Text.cut_eq_none_iff.1 hclose⟩
  | case3 cs gap inner hopen body after hclose _ ih =>
    exact ih.cons (Text.cut_eq_some_iff.1 hopen).2 (Text.cut_eq_some_iff.1 hclose).2

/-! ## Unfolding -/

theorem ofText_closed {cs : List Char} (h : '\x7b' ∉ cs) : ofText cs = ⟨[], .closed cs⟩ := by
  rw [ofText]
  split
  · rfl
  · next hopen => simp [Text.cut_eq_none_iff.2 h] at hopen

theorem ofText_unclosed {gap rest : List Char} (hgap : '\x7b' ∉ gap) (hrest : '\x7d' ∉ rest) :
    ofText (gap ++ '\x7b' :: rest) = ⟨[], .unclosed gap rest⟩ := by
  have hopen := Text.cut_eq_some_iff.2 ⟨(rfl : gap ++ '\x7b' :: rest = _), hgap⟩
  rw [ofText]
  split
  · next h => simp [hopen] at h
  · next h =>
    obtain ⟨rfl, rfl⟩ := Prod.mk.inj (Option.some.inj (hopen.symm.trans h))
    split
    · rfl
    · next hclose => simp [Text.cut_eq_none_iff.2 hrest] at hclose

theorem ofText_pair {p : BracePair} (hgap : '\x7b' ∉ p.gap) (hbody : '\x7d' ∉ p.body)
    (after : List Char) : ofText (p.text ++ after) = cons p (ofText after) := by
  have htext : p.text ++ after = p.gap ++ '\x7b' :: (p.body ++ '\x7d' :: after) := by
    simp [BracePair.text]
  have hopen := Text.cut_eq_some_iff.2 ⟨htext, hgap⟩
  have hclose := Text.cut_eq_some_iff.2 ⟨(rfl : p.body ++ '\x7d' :: after = _), hbody⟩
  rw [ofText]
  split
  · next h => simp [hopen] at h
  · next h =>
    obtain ⟨rfl, rfl⟩ := Prod.mk.inj (Option.some.inj (hopen.symm.trans h))
    split
    · next h => simp [hclose] at h
    · next h =>
      obtain ⟨rfl, rfl⟩ := Prod.mk.inj (Option.some.inj (hclose.symm.trans h))
      rfl

theorem ofText_text {l : Layout} (h : l.Proper) : ofText l.text = l := by
  obtain ⟨pairs, ending⟩ := l
  induction pairs with
  | nil =>
    cases ending with
    | closed gap => exact ofText_closed h.ending
    | unclosed gap rest => exact ofText_unclosed h.ending.1 h.ending.2
  | cons p ps ih =>
    change ofText (cons p ⟨ps, ending⟩).text = cons p ⟨ps, ending⟩
    rw [text_cons, ofText_pair (h.gap p List.mem_cons_self) (h.body p List.mem_cons_self),
      ih h.tail]

end Layout

end StoryBlanks
