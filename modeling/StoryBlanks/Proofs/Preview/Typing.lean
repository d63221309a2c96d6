import StoryBlanks.Preview.Command
import StoryBlanks.Proofs.Text.Trimming

/-!
# What a typed line asks for

A line is a word and the text after it. Blanks around the two do not count, so the text can be
anything that has no blank at either end. The sides of a binding are cut at the first equals sign,
and blanks around them do not count either.

* `linesOf_line`: a text without a line break is a line of the input.
* `typed`: the line for a word and a text; `ofLine?_typed`: what it is read as.
* `Typable`: the templates that a line can choose; `typable_iff`: what their names are like.
* `bindSides?_trimmed`, `not_mem_of_bindSides?`: the sides of a binding.
-/

namespace StoryBlanks.Preview

/-! ## Lines -/

/-- A text without a line break is a line. -/
theorem linesOf_line {line : String} (h : '\n' ∉ line.toList) (more : String) :
    linesOf (line ++ "\n" ++ more) = line :: linesOf more := by
  have hsplit : ((line ++ "\n" ++ more).toList.splitOn '\n').map String.ofList =
      line :: (more.toList.splitOn '\n').map String.ofList := by
    have hlist : (line ++ "\n" ++ more).toList = line.toList ++ '\n' :: more.toList := by
      simp [String.toList_append]
    rw [hlist, List.splitOn_append_cons_self_of_not_mem h, List.map_cons, String.ofList_toList]
  obtain ⟨first, rest, hmore⟩ :=
    List.exists_cons_of_ne_nil (List.splitOn_ne_nil '\n' more.toList)
  -- the last line is one of `more`, as that has at least one
  rw [linesOf, linesOf, hsplit, hmore, List.map_cons, List.getLast?_cons_cons,
    List.dropLast_cons_cons]
  split <;> rfl

/-! ## The word and the text after it -/

/-- The line of a word and the text after it. -/
def typed (word text : String) : String := word ++ " " ++ text

theorem toList_typed (word text : String) :
    (typed word text).toList = word.toList ++ ' ' :: text.toList := by
  simp [typed, String.toList_append]

/-- What stands before the first blank is the same without the blanks at the end. -/
theorem takeWhile_append_blanks {after : List Char} (h : ∀ c ∈ after, Text.isBlank c = true)
    (cs : List Char) :
    (cs ++ after).takeWhile (fun c => !Text.isBlank c) =
      cs.takeWhile fun c => !Text.isBlank c := by
  have hnone : after.takeWhile (fun c => !Text.isBlank c) = [] := by
    cases after with
    | nil => rfl
    | cons d ds => exact List.takeWhile_cons_of_neg (by simp [h d List.mem_cons_self])
  rw [List.takeWhile_append, hnone, List.append_nil]
  split
  · next hall => exact ((List.takeWhile_prefix _).eq_of_length hall).symm
  · rfl

/-- A line is read as the word and the text that it was typed as. -/
theorem Command.ofLine?_typed {word : String} (hword : word.toList ≠ [])
    (hblank : word.toList.any Text.isBlank = false) (hlower : Text.lowered word = word)
    (text : String) : ofLine? (typed word text) = some (ofWord word (Text.trimmed text)) := by
  have hclear : ∀ c ∈ word.toList, Text.isBlank c = false := by simpa using hblank
  have hstart : Text.trimStart (typed word text).toList = (typed word text).toList := by
    refine Text.trimStart_eq_self fun c hc => hclear c ?_
    obtain ⟨d, ds, hd⟩ := List.exists_cons_of_ne_nil hword
    rw [toList_typed, hd] at hc
    rw [hd]
    exact List.mem_of_head? hc
  -- what trimming takes stands behind the word, so the trimmed line opens with the same word
  obtain ⟨after, hend, hafter⟩ := Text.exists_trimEnd (typed word text).toList
  have htrim : Text.trimEnd (typed word text).toList = Text.trim (typed word text).toList := by
    rw [Text.trim, hstart]
  rw [htrim, toList_typed] at hend
  rw [ofLine?, toList_typed]
  generalize Text.trim (word.toList ++ ' ' :: text.toList) = core at hend
  have hopens : core.takeWhile (fun c => !Text.isBlank c) = word.toList := by
    rw [← takeWhile_append_blanks hafter core, ← hend,
      List.takeWhile_append_of_pos (by simpa using hclear),
      List.takeWhile_cons_of_neg (by decide), List.append_nil]
  have hleaves : core.dropWhile (fun c => !Text.isBlank c) ++ after = ' ' :: text.toList := by
    have hparts := List.takeWhile_append_dropWhile (p := fun c => !Text.isBlank c) (l := core)
    rw [hopens] at hparts
    rw [← hparts, List.append_assoc] at hend
    exact (List.append_cancel_left hend).symm
  have hrest : Text.trim (core.dropWhile fun c => !Text.isBlank c) = Text.trim text.toList := by
    have hspace : ∀ c ∈ [' '], Text.isBlank c = true := List.forall_mem_singleton.2 rfl
    rw [← Text.trim_append_blanks hafter, hleaves]
    exact Text.trim_blanks_append hspace text.toList
  cases core with
  | nil => exact absurd hopens.symm hword
  | cons c cs =>
    dsimp only
    rw [hopens, hrest, ← Text.lowered, hlower, ← Text.trimmed]

/-- The text that follows the word of a line was typed in it, and has no blank at either end. -/
theorem Command.exists_word_of_ofLine? {line : String} {c : Command} (h : ofLine? line = some c) :
    ∃ word rest, c = ofWord word (String.ofList rest) ∧ Text.Tight rest ∧
      ∀ d ∈ rest, d ∈ line.toList := by
  rw [ofLine?] at h
  split at h
  · cases h
  · next cs _ =>
    refine ⟨_, _, (Option.some.inj h).symm, Text.tight_trim _, fun d hd => ?_⟩
    exact Text.mem_of_mem_trim ((List.dropWhile_sublist _).subset (Text.mem_of_mem_trim hd))

theorem Command.ofWord_eq_use {word rest name : String} (h : ofWord word rest = .use name) :
    rest = name := by
  unfold ofWord at h
  split at h <;> cases h
  rfl

/-! ## Templates chosen on a line -/

/-- The line that chooses a template. -/
def useLine (name : String) : String := typed "use" name

/-- Some line chooses the template of that name. -/
def Typable (name : String) : Prop :=
  name ≠ "" ∧ ∃ line : String, '\n' ∉ line.toList ∧ Command.ofLine? line = some (.use name)

theorem ofLine?_useLine {name : String} (h : Text.Tight name.toList) :
    Command.ofLine? (useLine name) = some (.use name) := by
  rw [useLine, Command.ofLine?_typed (by decide) (by decide) (by decide), Text.trimmed,
    Text.trim_eq_self_iff.2 h, String.ofList_toList]
  rfl

/-- The names that a line can choose; the plain line then does. -/
theorem typable_iff {name : String} :
    Typable name ↔ name ≠ "" ∧ '\n' ∉ name.toList ∧ Text.Tight name.toList := by
  refine and_congr_right fun _ => ⟨?_, fun h => ⟨useLine name, ?_, ofLine?_useLine h.2⟩⟩
  · rintro ⟨line, hbreak, hline⟩
    obtain ⟨word, rest, hword, htight, hmem⟩ := Command.exists_word_of_ofLine? hline
    obtain rfl := Command.ofWord_eq_use hword.symm
    rw [String.toList_ofList]
    exact ⟨fun h => hbreak (hmem _ h), htight⟩
  · rw [useLine, toList_typed]
    simpa using h.1

/-! ## The sides of a binding -/

/-- The sides of a text that is cut at its first equals sign. -/
theorem bindSides?_of_cut {text : String} {front back : List Char}
    (h : text.toList = front ++ '=' :: back) (hfront : '=' ∉ front) :
    bindSides? text = some (String.ofList (Text.trim front), String.ofList (Text.trim back)) := by
  rw [bindSides?, Text.cut_eq_some_iff.2 ⟨h, hfront⟩]
  rfl

/-- Blanks around the text do not count. -/
theorem bindSides?_trimmed (text : String) : bindSides? (Text.trimmed text) = bindSides? text := by
  obtain ⟨before, after, hsplit, hbefore, hafter⟩ := (Text.trims_trim text.toList).split
  have hequals : ∀ ds : List Char, (∀ c ∈ ds, Text.isBlank c = true) → '=' ∉ ds :=
    fun ds hds hmem => absurd (hds '=' hmem) (by decide)
  rw [Text.trimmed]
  generalize Text.trim text.toList = core at hsplit
  cases hcut : Text.cut '=' core with
  | none =>
    have hnone : Text.cut '=' text.toList = none := by
      rw [Text.cut_eq_none_iff, hsplit]
      simp [hequals before hbefore, hequals after hafter, Text.cut_eq_none_iff.1 hcut]
    rw [bindSides?, bindSides?, String.toList_ofList, hcut, hnone]
  | some sides =>
    obtain ⟨front, back⟩ := sides
    obtain ⟨hcore, hfront⟩ := Text.cut_eq_some_iff.1 hcut
    have htext : text.toList = (before ++ front) ++ '=' :: (back ++ after) := by
      rw [hsplit, hcore]
      simp only [List.append_assoc, List.cons_append]
    have hfront' : '=' ∉ before ++ front := by
      rw [List.mem_append, not_or]
      exact ⟨hequals before hbefore, hfront⟩
    have hcore' : (String.ofList core).toList = front ++ '=' :: back := by
      rw [String.toList_ofList, hcore]
    rw [bindSides?_of_cut htext hfront', bindSides?_of_cut hcore' hfront,
      Text.trim_blanks_append hbefore, Text.trim_append_blanks hafter]

/-- No line names a tag with an equals sign. -/
theorem not_mem_of_bindSides? {text tag entity : String}
    (h : bindSides? text = some (tag, entity)) : '=' ∉ tag.toList := by
  obtain ⟨⟨front, back⟩, hcut, hsides⟩ := Option.map_eq_some_iff.1 h
  cases hsides
  rw [String.toList_ofList]
  exact fun hmem => (Text.cut_eq_some_iff.1 hcut).2 (Text.mem_of_mem_trim hmem)

end StoryBlanks.Preview
