import StoryBlanks.Text.Cut

/-!
# Slices by bytes

A pair of byte offsets names a part of a text if both lie within the text, neither falls inside a
character, and they are in order; otherwise it names nothing. Such a part is what stands between
two texts of the right lengths, so that slices can be reasoned about without bytes.

* `isBoundary_iff`: the offsets at which a text can be parted in two.
* `slice?_eq_some_iff`: a slice, said without bytes.
-/

namespace StoryBlanks.Text

theorem byteLength_eq_utf8ByteSize (cs : List Char) :
    byteLength cs = (String.ofList cs).utf8ByteSize := by
  induction cs with
  | nil => simp
  | cons c cs ih =>
    rw [← List.singleton_append, String.ofList_append, String.utf8ByteSize_append, ← ih]
    have hc : (String.ofList [c]).utf8ByteSize = c.utf8Size := String.utf8ByteSize_singleton
    rw [hc]
    simp

theorem byteLength_toList (s : String) : byteLength s.toList = s.utf8ByteSize := by
  rw [byteLength_eq_utf8ByteSize, String.ofList_toList]

/-- The offset lies within the text, and not inside a character. -/
def IsBoundary (text : String) (offset : Nat) : Prop := (⟨offset⟩ : String.Pos.Raw).IsValid text

instance (text : String) : DecidablePred (IsBoundary text) :=
  fun offset => inferInstanceAs (Decidable ((⟨offset⟩ : String.Pos.Raw).IsValid text))

/-- The bytes from `start` up to `stop`; nothing if either offset is out of bounds or inside a
character, or if they are in the wrong order. -/
def slice? (text : String) (start stop : Nat) : Option String :=
  if h : IsBoundary text start ∧ IsBoundary text stop ∧ start ≤ stop then
    some (text.extract (text.pos ⟨start⟩ h.1) (text.pos ⟨stop⟩ h.2.1))
  else none

theorem isBoundary_iff {text : String} {offset : Nat} : IsBoundary text offset ↔
    ∃ before after, text = before ++ after ∧ offset = before.utf8ByteSize := by
  rw [IsBoundary, String.Pos.Raw.isValid_iff_exists_append]
  simp [String.Pos.Raw.ext_iff]

/-- Two boundaries in order part a text in three. -/
theorem exists_parts {text : String} {start stop : Nat} (hstart : IsBoundary text start)
    (hstop : IsBoundary text stop) (hle : start ≤ stop) :
    ∃ before part after, text = before ++ part ++ after ∧ start = before.utf8ByteSize ∧
      stop = (before ++ part).utf8ByteSize := by
  obtain ⟨front, after, rfl, rfl⟩ := isBoundary_iff.1 hstop
  have hfront : IsBoundary front start := by
    rcases String.Pos.Raw.isValid_append.1 hstart with h | ⟨h, -⟩
    · exact h
    · have hge : front.utf8ByteSize ≤ start := String.Pos.Raw.le_iff.1 h
      exact isBoundary_iff.2 ⟨front, "", by simp, by omega⟩
  obtain ⟨before, part, rfl, rfl⟩ := isBoundary_iff.1 hfront
  exact ⟨before, part, after, rfl, rfl, rfl⟩

theorem slice?_append (before part after : String) :
    slice? (before ++ part ++ after) before.utf8ByteSize (before ++ part).utf8ByteSize =
      some part := by
  have hstart : IsBoundary (before ++ part ++ after) before.utf8ByteSize :=
    isBoundary_iff.2 ⟨before, part ++ after, String.append_assoc .., rfl⟩
  have hstop : IsBoundary (before ++ part ++ after) (before ++ part).utf8ByteSize :=
    isBoundary_iff.2 ⟨before ++ part, after, rfl, rfl⟩
  have hle : before.utf8ByteSize ≤ (before ++ part).utf8ByteSize := by simp
  rw [slice?, dif_pos ⟨hstart, hstop, hle⟩, Option.some.injEq, ← String.toByteArray_inj]
  simp only [String.toByteArray_extract, String.offset_pos, String.toByteArray_append,
    ← String.size_toByteArray]
  rw [ByteArray.extract_append_size_left, ByteArray.extract_append_eq_right rfl]
  exact ByteArray.size_append

theorem slice?_eq_some_iff {text part : String} {start stop : Nat} :
    slice? text start stop = some part ↔ ∃ before after, text = before ++ part ++ after ∧
      start = before.utf8ByteSize ∧ stop = (before ++ part).utf8ByteSize := by
  constructor
  · intro h
    have hb : IsBoundary text start ∧ IsBoundary text stop ∧ start ≤ stop := by
      refine Decidable.byContradiction fun hnot => ?_
      rw [slice?, dif_neg hnot] at h
      cases h
    obtain ⟨before, found, after, rfl, rfl, rfl⟩ := exists_parts hb.1 hb.2.1 hb.2.2
    obtain rfl := Option.some.inj ((slice?_append before found after).symm.trans h)
    exact ⟨before, after, rfl, rfl, rfl⟩
  · rintro ⟨before, after, rfl, rfl, rfl⟩
    exact slice?_append before part after

theorem slice?_ofList {cs before part after : List Char} (h : cs = before ++ part ++ after) :
    slice? (String.ofList cs) (byteLength before) (byteLength (before ++ part)) =
      some (String.ofList part) := by
  rw [slice?_eq_some_iff]
  refine ⟨String.ofList before, String.ofList after, ?_, byteLength_eq_utf8ByteSize before, ?_⟩
  · rw [h, String.ofList_append, String.ofList_append]
  · rw [byteLength_eq_utf8ByteSize, String.ofList_append]

end StoryBlanks.Text
