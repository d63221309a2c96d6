import Mathlib.Logic.ExistsUnique
import StoryBlanks.Proofs.Sentence.Reading
import StoryBlanks.Proofs.Text.Slice

/-!
# A scan is the brace decomposition of its text

A text has exactly one proper layout, and its scan is the only account of that layout: a candidate
for each brace pair, with the bytes the pair takes up and what its body reads as, and the offset of
the opening brace that nothing closes.

* `Candidate.Tells`, `Scan.Describes`: the account of a pair, and of a layout.
* `getElem?_candidatesFrom`: the invariant of the scan, which ties each offset to all that comes
  before it.
* `Scan.Placed`: what stands at the offsets of a scan.
* `scan_decomposition`: existence and uniqueness for every text.
-/

namespace StoryBlanks

variable {sentence start : Nat} {pairs : List BracePair} {c : Candidate}

theorem BracePair.byteLength_text (p : BracePair) :
    Text.byteLength p.text = Text.byteLength p.gap + Text.byteLength p.body + 2 := by
  have hopening : Char.utf8Size '\x7b' = 1 := by decide
  have hclosing : Char.utf8Size '\x7d' = 1 := by decide
  simp only [text, Text.byteLength_append, Text.byteLength_cons, Text.byteLength_nil, hopening,
    hclosing]
  omega

theorem BracePair.span_start (p : BracePair) (start : Nat) :
    (p.span start).start = start + Text.byteLength p.gap := rfl

theorem BracePair.span_stop (p : BracePair) (start : Nat) :
    (p.span start).stop = start + Text.byteLength p.text := by
  simp only [span, p.byteLength_text]
  omega

/-! ## The account of a layout -/

/-- The candidate tells of a pair that has `lead` before it: of the bytes from the opening brace
through the closing one, of the text between them, and of what that reads as. -/
structure Candidate.Tells (sentence : Nat) (lead : List Char) (p : BracePair) (c : Candidate) :
    Prop where
  start_eq : c.span.start = Text.byteLength (lead ++ p.gap)
  stop_eq : c.span.stop = Text.byteLength (lead ++ p.text)
  body_eq : c.body = String.ofList p.body
  reads : Reads sentence p.body c.reading

theorem Candidate.tells_iff {lead : List Char} {p : BracePair} :
    c.Tells sentence lead p ↔ c = p.candidate sentence (Text.byteLength lead) := by
  constructor
  · rintro ⟨hstart, hstop, hbody, hreads⟩
    rw [Text.byteLength_append] at hstart hstop
    rw [← p.span_stop] at hstop
    obtain ⟨⟨cstart, cstop⟩, cbody, creading⟩ := c
    obtain rfl := hstart
    obtain rfl := hstop
    obtain rfl := hbody
    obtain rfl := reads_iff.1 hreads
    rfl
  · rintro rfl
    refine ⟨?_, ?_, rfl, reads_readBody sentence p.body⟩
    · rw [Text.byteLength_append]
      exact p.span_start _
    · rw [Text.byteLength_append]
      exact p.span_stop _

namespace Scan

/-- The scan tells of each pair of the layout in order, and of an opening brace that nothing
closes. -/
structure Describes (s : Scan) (l : Layout) (sentence : Nat) : Prop where
  length_eq : s.candidates.length = l.pairs.length
  tells : ∀ (i : Nat) (p : BracePair) (c : Candidate), l.pairs[i]? = some p →
    s.candidates[i]? = some c → c.Tells sentence ((l.pairs.take i).flatMap BracePair.text) p
  unclosed_eq : s.unclosed = match l.ending with
    | .closed _ => none
    | .unclosed gap _ => some (Text.byteLength (l.pairs.flatMap BracePair.text ++ gap))

/-- The candidate of a pair is counted from the end of all pairs before it. -/
theorem getElem?_candidatesFrom (sentence start : Nat) (pairs : List BracePair) (i : Nat) :
    (candidatesFrom sentence start pairs)[i]? = pairs[i]?.map fun p =>
      p.candidate sentence (start + Text.byteLength ((pairs.take i).flatMap BracePair.text)) := by
  induction pairs generalizing start i with
  | nil => rfl
  | cons p ps ih =>
    cases i with
    | zero => simp [candidatesFrom]
    | succ i =>
      rw [candidatesFrom, List.getElem?_cons_succ, List.getElem?_cons_succ, ih, BracePair.span_stop,
        List.take_succ_cons, List.flatMap_cons, Text.byteLength_append, Nat.add_assoc]

theorem length_candidatesFrom (sentence start : Nat) (pairs : List BracePair) :
    (candidatesFrom sentence start pairs).length = pairs.length := by
  induction pairs generalizing start with
  | nil => rfl
  | cons p ps ih => rw [candidatesFrom, List.length_cons, List.length_cons, ih]

theorem describes_ofLayout (l : Layout) (sentence : Nat) :
    (ofLayout l sentence).Describes l sentence := by
  refine ⟨length_candidatesFrom .., fun i p c hp hc => ?_, rfl⟩
  rw [ofLayout, getElem?_candidatesFrom, hp, Nat.zero_add] at hc
  exact Candidate.tells_iff.2 (Option.some.inj hc).symm

/-- **There is one account of a layout.** -/
theorem Describes.eq {s t : Scan} {l : Layout} (hs : s.Describes l sentence)
    (ht : t.Describes l sentence) : s = t := by
  have hcandidates : s.candidates = t.candidates := by
    refine List.ext_getElem (hs.length_eq.trans ht.length_eq.symm) fun i his hit => ?_
    have hi : i < l.pairs.length := hs.length_eq ▸ his
    have hp := List.getElem?_eq_getElem hi
    have hc := Candidate.tells_iff.1 (hs.tells i _ _ hp (List.getElem?_eq_getElem his))
    have hd := Candidate.tells_iff.1 (ht.tells i _ _ hp (List.getElem?_eq_getElem hit))
    exact hc.trans hd.symm
  obtain ⟨candidates, unclosed⟩ := s
  obtain ⟨candidates', unclosed'⟩ := t
  obtain rfl : candidates = candidates' := hcandidates
  obtain rfl : unclosed = unclosed' := hs.unclosed_eq.trans ht.unclosed_eq.symm
  rfl

/-! ## What stands at the offsets -/

/-- The spans lie in the text one after another, each over a brace pair, and the unclosed brace
stands where the scan says. -/
structure Placed (s : Scan) (text : String) : Prop where
  slice : ∀ c ∈ s.candidates,
    Text.slice? text c.span.start c.span.stop = some ("\x7b" ++ c.body ++ "\x7d")
  start_lt : ∀ c ∈ s.candidates, c.span.start < c.span.stop
  ordered : s.candidates.Pairwise fun c d => c.span.stop ≤ d.span.start
  unclosed : ∀ offset, s.unclosed = some offset → ∃ rest : String,
    Text.slice? text offset text.utf8ByteSize = some ("\x7b" ++ rest) ∧ '\x7d' ∉ rest.toList

theorem exists_of_mem_candidatesFrom (hc : c ∈ candidatesFrom sentence start pairs) :
    ∃ before p after, pairs = before ++ p :: after ∧
      c = p.candidate sentence (start + Text.byteLength (before.flatMap BracePair.text)) := by
  obtain ⟨i, hi⟩ := List.mem_iff_getElem?.1 hc
  rw [getElem?_candidatesFrom] at hi
  obtain ⟨p, hp, rfl⟩ := Option.map_eq_some_iff.1 hi
  obtain ⟨hlt, rfl⟩ := List.getElem?_eq_some_iff.1 hp
  refine ⟨pairs.take i, pairs[i], pairs.drop (i + 1), ?_, rfl⟩
  rw [List.getElem_cons_drop, List.take_append_drop]

theorem start_le_of_mem_candidatesFrom (hc : c ∈ candidatesFrom sentence start pairs) :
    start ≤ c.span.start := by
  obtain ⟨before, p, after, -, rfl⟩ := exists_of_mem_candidatesFrom hc
  rw [BracePair.candidate, BracePair.span_start]
  omega

theorem pairwise_candidatesFrom (sentence start : Nat) (pairs : List BracePair) :
    (candidatesFrom sentence start pairs).Pairwise fun c d => c.span.stop ≤ d.span.start := by
  induction pairs generalizing start with
  | nil => exact .nil
  | cons p ps ih => exact .cons (fun _ => start_le_of_mem_candidatesFrom) (ih _)

theorem placed_ofLayout {l : Layout} (hproper : l.Proper) (sentence : Nat) :
    (ofLayout l sentence).Placed (String.ofList l.text) := by
  refine ⟨fun c hc => ?_, fun c hc => ?_, pairwise_candidatesFrom .., fun offset ho => ?_⟩
  · obtain ⟨before, p, after, hpairs, hcandidate⟩ := exists_of_mem_candidatesFrom hc
    rw [Nat.zero_add] at hcandidate
    obtain ⟨hstart, hstop, hbody, -⟩ := Candidate.tells_iff.2 hcandidate
    have hliteral : String.ofList ('\x7b' :: (p.body ++ ['\x7d'])) =
        "\x7b" ++ String.ofList p.body ++ "\x7d" := by
      simp [← String.toList_inj]
    have hpart : l.text = (before.flatMap BracePair.text ++ p.gap) ++
        ('\x7b' :: (p.body ++ ['\x7d'])) ++ (after.flatMap BracePair.text ++ l.ending.text) := by
      simp [Layout.text, hpairs, BracePair.text]
    have hslice := Text.slice?_ofList hpart
    rw [List.append_assoc, hliteral] at hslice
    rw [hstart, hstop, hbody]
    exact hslice
  · obtain ⟨before, p, after, -, rfl⟩ := exists_of_mem_candidatesFrom hc
    simp only [BracePair.candidate, BracePair.span]
    omega
  · have hending := hproper.ending
    change unclosedIn l = some offset at ho
    unfold unclosedIn at ho
    split at ho
    · cases ho
    · next gap rest hunclosed =>
      rw [hunclosed] at hending
      refine ⟨String.ofList rest, ?_, by rw [String.toList_ofList]; exact hending.2⟩
      have hpart : l.text = (l.pairs.flatMap BracePair.text ++ gap) ++ ('\x7b' :: rest) ++ [] := by
        simp [Layout.text, hunclosed, Ending.text]
      have hslice := Text.slice?_ofList hpart
      rw [← List.append_nil ((_ ++ _) ++ _), ← hpart, Option.some.inj ho] at hslice
      rw [← Text.byteLength_eq_utf8ByteSize, hslice, Option.some.injEq]
      simp

end Scan

/-- **A scan is the brace decomposition of its text.** Every text falls in exactly one way into gaps
without opening braces, bodies without closing ones between braces, and an ending; its scan is the
one account of that layout; and at the offsets that the account gives, those braces stand. -/
theorem scan_decomposition (text : String) (sentence : Nat) :
    (∃! l : Layout, l.Proper ∧ l.text = text.toList) ∧
    (∀ s : Scan, (∃ l : Layout, l.Proper ∧ l.text = text.toList ∧ s.Describes l sentence) ↔
      s = Scan.ofText text sentence) ∧
    (Scan.ofText text sentence).Placed text := by
  have hproper := Layout.proper_ofText text.toList
  have htext := Layout.text_ofText text.toList
  have hunique : ∀ l : Layout, l.Proper → l.text = text.toList → l = Layout.ofText text.toList := by
    intro l hl hltext
    rw [← hltext, Layout.ofText_text hl]
  refine ⟨⟨Layout.ofText text.toList, ⟨hproper, htext⟩, fun l hl => hunique l hl.1 hl.2⟩,
    fun s => ⟨?_, ?_⟩, ?_⟩
  · rintro ⟨l, hl, hltext, hs⟩
    rw [hunique l hl hltext] at hs
    exact hs.eq (Scan.describes_ofLayout ..)
  · rintro rfl
    exact ⟨_, hproper, htext, Scan.describes_ofLayout ..⟩
  · have hplaced := Scan.placed_ofLayout hproper sentence
    rwa [htext, String.ofList_toList] at hplaced

end StoryBlanks
