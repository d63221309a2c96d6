import StoryBlanks.Proofs.Sentence.Reading

/-!
# Literals read back

A tag is written as its literal, in the full token of its kind. The literal parses into that tag and
nothing else exactly if its name is one that a sentence can give: one without a closing brace, which
would end the literal early, and without blanks at its ends, which would be trimmed. Whatever else
the name holds, be it colons or opening braces, is read as part of it.

* `Tag.WellNamed`: the names that a sentence can give.
* `wellNamed_of_mem_parse`: every tag of a text has such a name.
* `parse_literal`: a tag with such a name is read back.
* `parse_literal_iff`: both, and that no other tag is read back.
-/

namespace StoryBlanks

variable {tag : Tag} {sentence : Nat}

namespace Tag

/-- The name holds no closing brace, and neither end of it is a blank. -/
structure WellNamed (tag : Tag) : Prop where
  not_mem : '\x7d' ∉ tag.name.toList
  tight : Text.Tight tag.name.toList

/-- What stands between the braces of the literal. -/
def body (tag : Tag) : List Char := tag.kind.token.toList ++ ':' :: tag.name.toList

theorem toList_literal (tag : Tag) : tag.literal.toList = '\x7b' :: (tag.body ++ ['\x7d']) := by
  simp [literal, body]

end Tag

theorem Kind.not_mem_token (kind : Kind) : ':' ∉ kind.token.toList ∧ '\x7d' ∉ kind.token.toList := by
  cases kind <;> decide

/-- The body of a literal is cut at the colon that the literal puts there. -/
theorem readBody_body (tag : Tag) (sentence : Nat) : readBody tag.body sentence =
    .ok ⟨tag.kind, String.ofList (Text.trim tag.name.toList), sentence⟩ := by
  have hcut : Text.cut ':' tag.body = some (tag.kind.token.toList, tag.name.toList) :=
    Text.cut_eq_some_iff.2 ⟨rfl, tag.kind.not_mem_token.1⟩
  simp only [readBody, hcut, String.ofList_toList, Kind.ofToken?_token]

/-- A tag with a name that a sentence can give is read back, and nothing else is. -/
theorem parse_literal (h : tag.WellNamed) : parse tag.literal tag.sentence = [tag] := by
  have hbody : '\x7d' ∉ tag.body := by
    rw [Tag.body, List.mem_append, List.mem_cons, not_or, not_or]
    exact ⟨tag.kind.not_mem_token.2, by decide, h.not_mem⟩
  -- the literal is one brace pair, with nothing before it and nothing after it
  have hlayout : Layout.ofText tag.literal.toList = ⟨[⟨[], tag.body⟩], .closed []⟩ := by
    have hpair := Layout.ofText_pair (p := ⟨[], tag.body⟩) List.not_mem_nil hbody []
    rw [Layout.ofText_closed List.not_mem_nil, List.append_nil] at hpair
    rw [tag.toList_literal]
    exact hpair
  have hname : String.ofList (Text.trim tag.name.toList) = tag.name := by
    rw [Text.trim_eq_self_iff.2 h.tight, String.ofList_toList]
  rw [parse_eq_tags, hlayout]
  simp [BracePair.tags, readBody_body, hname, Except.toOption]

/-- A name is a part of the body, trimmed; and no body holds a closing brace. -/
theorem wellNamed_of_readBody {body : List Char} (hbody : '\x7d' ∉ body)
    (h : readBody body sentence = .ok tag) : tag.WellNamed := by
  have hreads := reads_readBody sentence body
  rw [h] at hreads
  cases hreads with
  | tag hsplit htoken hkind hname =>
    obtain ⟨before, after, hrest, -, -⟩ := hname.split
    refine ⟨?_, ?_⟩
    · rw [String.toList_ofList]
      intro hmem
      apply hbody
      simp [hsplit, hrest, hmem]
    · rw [String.toList_ofList]
      exact hname.tight

/-- Every tag of a text has a name that a sentence can give. -/
theorem wellNamed_of_mem_parse {text : String} (h : tag ∈ parse text sentence) :
    tag.WellNamed := by
  obtain ⟨p, hp, hread⟩ := mem_parse_iff.1 h
  exact wellNamed_of_readBody ((Layout.proper_ofText text.toList).body p hp) hread

/-- **Literals and the parser are inverse.** A tag is read back from its literal, and is all that is
read, exactly if its name holds no closing brace and has no blank at either end. Every tag of every
text has such a name; so it is read back from its literal, however it was spelled in the text. -/
theorem parse_literal_iff :
    (∀ tag : Tag, parse tag.literal tag.sentence = [tag] ↔
      '\x7d' ∉ tag.name.toList ∧ Text.Tight tag.name.toList) ∧
    ∀ (text : String) (sentence : Nat), ∀ tag ∈ parse text sentence,
      ('\x7d' ∉ tag.name.toList ∧ Text.Tight tag.name.toList) ∧
        tag.sentence = sentence ∧ parse tag.literal sentence = [tag] := by
  refine ⟨fun tag => ⟨fun h => ?_, fun h => parse_literal ⟨h.1, h.2⟩⟩, fun text sentence tag h => ?_⟩
  · have hmem : tag ∈ parse tag.literal tag.sentence := by rw [h]; exact List.mem_singleton_self tag
    obtain ⟨hbrace, htight⟩ := wellNamed_of_mem_parse hmem
    exact ⟨hbrace, htight⟩
  · have hnamed := wellNamed_of_mem_parse h
    have hsentence := sentence_of_mem_parse h
    refine ⟨⟨hnamed.not_mem, hnamed.tight⟩, hsentence, ?_⟩
    rw [← hsentence]
    exact parse_literal hnamed

/-- A name with an opening brace and a colon in it is read back; one with a closing brace is not. -/
example : parse (Tag.mk .objectProp "a\x7bb:c" 2).literal 2 = [⟨.objectProp, "a\x7bb:c", 2⟩] ∧
    parse (Tag.mk .character "a\x7d\x7blandmark:b" 0).literal 0 =
      [⟨.character, "a", 0⟩, ⟨.landmark, "b", 0⟩] := by decide +kernel

end StoryBlanks
