import StoryBlanks.Proofs.Sentence.Decomposition
import StoryBlanks.Sentence.Fill

/-!
# A sentence around one of its tags

A tag of a sentence parts its text in three: what stands before, the literal of the tag, and what
stands after. Each of the outer parts is a text of its own: it has the layout that it has in the
sentence, and is rendered as it is there.

* `Layout.ofText_before`, `Layout.ofText_after`: the layouts of the outer parts.
* `substitute_around`: how the sentence is rendered around the tag.
-/

namespace StoryBlanks

variable {before after : List BracePair} {p : BracePair} {ending : Ending}

namespace Layout

/-- What stands before a brace pair is laid out as it is in the whole text. -/
theorem ofText_before (h : Proper ⟨before ++ p :: after, ending⟩) :
    ofText (before.flatMap BracePair.text ++ p.gap) = ⟨before, .closed p.gap⟩ := by
  refine ofText_text (l := ⟨before, .closed p.gap⟩) ⟨fun q hq => ?_, fun q hq => ?_, ?_⟩
  · exact h.gap q (List.mem_append_left _ hq)
  · exact h.body q (List.mem_append_left _ hq)
  · exact h.gap p (List.mem_append_right _ List.mem_cons_self)

/-- What stands after a brace pair is laid out as it is in the whole text. -/
theorem ofText_after (h : Proper ⟨before ++ p :: after, ending⟩) :
    ofText (after.flatMap BracePair.text ++ ending.text) = ⟨after, ending⟩ := by
  refine ofText_text (l := ⟨after, ending⟩) ⟨fun q hq => ?_, fun q hq => ?_, h.ending⟩
  · exact h.gap q (List.mem_append_right _ (List.mem_cons_of_mem p hq))
  · exact h.body q (List.mem_append_right _ (List.mem_cons_of_mem p hq))

end Layout

/-- A located tag is what some brace pair of the sentence reads as. -/
theorem exists_pair_of_mem_locate {text : String} {sentence : Nat} {l : LocatedTag}
    (h : l ∈ locate text sentence) : ∃ before p after,
      (Layout.ofText text.toList).pairs = before ++ p :: after ∧
        readBody p.body sentence = .ok l.tag ∧
          l.span = p.span (Text.byteLength (before.flatMap BracePair.text)) := by
  obtain ⟨c, hc, hl⟩ := List.mem_filterMap.1 h
  obtain ⟨before, p, after, hpairs, rfl⟩ := Scan.exists_of_mem_candidatesFrom hc
  refine ⟨before, p, after, hpairs, ?_⟩
  unfold Candidate.located? BracePair.candidate at hl
  dsimp only at hl
  split at hl
  · next tag hread =>
    cases hl
    exact ⟨hread, by rw [Nat.zero_add]⟩
  · cases hl

/-- The pair with its braces, and without the gap before it. -/
def BracePair.literal (p : BracePair) : List Char := '\x7b' :: (p.body ++ ['\x7d'])

/-- A pair that is a tag is rendered as its gap and the name to show, or its literal. -/
theorem BracePair.fill_of_tag {name? : Tag → Option String} {sentence : Nat} {tag : Tag}
    (h : readBody p.body sentence = .ok tag) : p.fill name? sentence =
      p.gap ++ ((name? tag).getD (String.ofList p.literal)).toList := by
  have hfilling : p.filling? name? sentence = name? tag := by rw [filling?, h]
  rw [fill, hfilling]
  cases name? tag with
  | none => exact congrArg (p.gap ++ ·) String.toList_ofList.symm
  | some name => rfl

/-- **A sentence is rendered around each of its tags**: what stands before the tag and what stands
after it are rendered each for itself, with the name to show between them, or the literal of the tag
if there is none. -/
theorem substitute_around {text : String} {sentence : Nat} {l : LocatedTag}
    (h : l ∈ locate text sentence) : ∃ before literal after : String,
      text = before ++ literal ++ after ∧
      l.span = ⟨before.utf8ByteSize, (before ++ literal).utf8ByteSize⟩ ∧
      ∀ name? : Tag → Option String, substitute name? text sentence =
        substitute name? before sentence ++ (name? l.tag).getD literal ++
          substitute name? after sentence := by
  obtain ⟨before, p, after, hpairs, hread, hspan⟩ := exists_pair_of_mem_locate h
  have hproper := Layout.proper_ofText text.toList
  have htext := Layout.text_ofText text.toList
  cases hlayout : Layout.ofText text.toList with
  | mk pairs ending =>
    rw [hlayout] at hpairs hproper htext
    obtain rfl : pairs = before ++ p :: after := hpairs
    refine ⟨String.ofList (before.flatMap BracePair.text ++ p.gap), String.ofList p.literal,
      String.ofList (after.flatMap BracePair.text ++ ending.text), ?_, ?_, fun name? => ?_⟩
    · rw [← String.toList_inj, ← htext]
      simp [Layout.text, BracePair.text, BracePair.literal]
    · have hstop : before.flatMap BracePair.text ++ p.gap ++ p.literal =
          before.flatMap BracePair.text ++ p.text := List.append_assoc ..
      rw [← String.ofList_append, ← Text.byteLength_eq_utf8ByteSize,
        ← Text.byteLength_eq_utf8ByteSize, hstop, Text.byteLength_append, Text.byteLength_append,
        ← p.span_stop, hspan]
      rfl
    · have hbefore : substitute name? (String.ofList (before.flatMap BracePair.text ++ p.gap))
          sentence = String.ofList (before.flatMap (BracePair.fill name? sentence) ++ p.gap) := by
        rw [substitute, String.toList_ofList, Layout.ofText_before hproper]
        rfl
      have hafter : substitute name? (String.ofList (after.flatMap BracePair.text ++ ending.text))
          sentence = String.ofList (after.flatMap (BracePair.fill name? sentence) ++
            ending.text) := by
        rw [substitute, String.toList_ofList, Layout.ofText_after hproper]
        rfl
      rw [hbefore, hafter, substitute, hlayout, Layout.fill, List.flatMap_append,
        List.flatMap_cons, BracePair.fill_of_tag hread]
      simp only [String.ofList_append, String.ofList_toList, String.append_assoc]

end StoryBlanks
