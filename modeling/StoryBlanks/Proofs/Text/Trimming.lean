import StoryBlanks.Text.Blank

/-!
# What trimming leaves

The trimmed form of a text is the one part of it that has no blank at either end and nothing but
blanks around it.

* `trims_iff`: trimming, said without the function.
-/

namespace StoryBlanks.Text

/-- `core` has no blank at either end, and only blanks stand around it in the text. -/
structure Trims (cs core : List Char) : Prop where
  split : ∃ before after, cs = before ++ core ++ after ∧
    (∀ c ∈ before, isBlank c = true) ∧ ∀ c ∈ after, isBlank c = true
  tight : Tight core

theorem trimStart_append {before rest : List Char} (h : ∀ c ∈ before, isBlank c = true) :
    trimStart (before ++ rest) = trimStart rest :=
  List.dropWhile_append_of_pos h

theorem trimEnd_append {rest after : List Char} (h : ∀ c ∈ after, isBlank c = true) :
    trimEnd (rest ++ after) = trimEnd rest := by
  have hreverse : ∀ c ∈ after.reverse, isBlank c = true := fun c hc => h c (List.mem_reverse.1 hc)
  rw [trimEnd, List.reverse_append, trimStart_append hreverse, trimEnd]

theorem exists_trimStart (cs : List Char) :
    ∃ before, cs = before ++ trimStart cs ∧ ∀ c ∈ before, isBlank c = true :=
  ⟨cs.takeWhile isBlank, List.takeWhile_append_dropWhile.symm,
    List.all_eq_true.1 List.all_takeWhile⟩

theorem exists_trimEnd (cs : List Char) :
    ∃ after, cs = trimEnd cs ++ after ∧ ∀ c ∈ after, isBlank c = true := by
  obtain ⟨before, hsplit, hblank⟩ := exists_trimStart cs.reverse
  refine ⟨before.reverse, ?_, fun c hc => hblank c (List.mem_reverse.1 hc)⟩
  have hreverse := congrArg List.reverse hsplit
  rwa [List.reverse_append, List.reverse_reverse] at hreverse

theorem trims_trim (cs : List Char) : Trims cs (trim cs) := by
  refine ⟨?_, tight_trim cs⟩
  obtain ⟨before, hstart, hbefore⟩ := exists_trimStart cs
  obtain ⟨after, hend, hafter⟩ := exists_trimEnd (trimStart cs)
  refine ⟨before, after, ?_, hbefore, hafter⟩
  rw [List.append_assoc, trim, ← hend]
  exact hstart

/-- **Trimming, said without the function.** -/
theorem trims_iff {cs core : List Char} : Trims cs core ↔ trim cs = core := by
  refine ⟨fun h => ?_, fun h => h ▸ trims_trim cs⟩
  obtain ⟨⟨before, after, rfl, hbefore, hafter⟩, htight⟩ := h
  rw [List.append_assoc, trim, trimStart_append hbefore]
  cases core with
  | nil =>
    have hnil : trimStart ([] ++ after) = [] := by
      rw [List.nil_append, ← List.append_nil after, trimStart_append hafter]
      rfl
    rw [hnil]
    rfl
  | cons c cs =>
    have hstart : trimStart (c :: cs ++ after) = c :: cs ++ after := trimStart_eq_self htight.1
    rw [hstart, trimEnd_append hafter, trimEnd_eq_self htight.2]

/-- Blanks before a text do not count. -/
theorem trim_blanks_append {before : List Char} (h : ∀ c ∈ before, isBlank c = true)
    (cs : List Char) : trim (before ++ cs) = trim cs := by
  rw [trim, trimStart_append h, trim]

/-- Blanks behind a text do not count. -/
theorem trim_append_blanks {after : List Char} (h : ∀ c ∈ after, isBlank c = true)
    (cs : List Char) : trim (cs ++ after) = trim cs := by
  obtain ⟨⟨front, back, hsplit, hfront, hback⟩, htight⟩ := trims_trim cs
  have hwhole : cs ++ after = front ++ trim cs ++ (back ++ after) :=
    calc cs ++ after = front ++ trim cs ++ back ++ after := by rw [← hsplit]
      _ = front ++ trim cs ++ (back ++ after) := List.append_assoc ..
  refine trims_iff.1 ⟨⟨front, back ++ after, hwhole, hfront, fun c hc => ?_⟩, htight⟩
  exact (List.mem_append.1 hc).elim (hback c) (h c)

theorem mem_of_mem_trim {c : Char} {cs : List Char} (h : c ∈ trim cs) : c ∈ cs := by
  obtain ⟨before, after, hsplit, -, -⟩ := (trims_trim cs).split
  rw [hsplit, List.mem_append, List.mem_append]
  exact .inl (.inr h)

/-- Trimming takes blanks alone. -/
theorem mem_trim {c : Char} {cs : List Char} (h : c ∈ cs) (hc : isBlank c = false) :
    c ∈ trim cs := by
  obtain ⟨before, after, hsplit, hbefore, hafter⟩ := (trims_trim cs).split
  rw [hsplit, List.mem_append, List.mem_append] at h
  rcases h with (h | h) | h
  · rw [hbefore c h] at hc
    cases hc
  · exact h
  · rw [hafter c h] at hc
    cases hc

end StoryBlanks.Text
