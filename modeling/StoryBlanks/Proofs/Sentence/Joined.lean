import StoryBlanks.Proofs.Sentence.Decomposition

/-!
# Scanning a text that is put together

A scan goes from left to right, and behind a brace pair it knows nothing of what came before but
how many bytes that took. So two texts are scanned together as they are scanned one by one, unless
the first leaves a brace open at the seam: then the second is scanned with that brace before it.

* `Layout.behind`: the layout of a text that follows whole brace pairs and a gap.
* `candidatesFrom_add`: the candidates of a run that begins further on.
* `scan_append`: the scan of two texts together.
-/

namespace StoryBlanks

variable {pairs : List BracePair} {gap : List Char} {l : Layout} {sentence start offset : Nat}

/-! ## Further on in the text -/

/-- The range that many bytes further on. -/
def Span.shift (offset : Nat) (s : Span) : Span := ⟨s.start + offset, s.stop + offset⟩

/-- The candidate that many bytes further on. -/
def Candidate.shift (offset : Nat) (c : Candidate) : Candidate :=
  { c with span := c.span.shift offset }

/-- The candidates of a scan, and what another scan finds that many bytes further on. -/
def Scan.followedBy (s : Scan) (offset : Nat) (t : Scan) : Scan :=
  ⟨s.candidates ++ t.candidates.map (Candidate.shift offset), t.unclosed.map (· + offset)⟩

theorem BracePair.candidate_add (p : BracePair) (sentence start offset : Nat) :
    p.candidate sentence (start + offset) = (p.candidate sentence start).shift offset := by
  simp only [candidate, span, Candidate.shift, Span.shift, Candidate.mk.injEq, Span.mk.injEq,
    and_self, and_true]
  omega

namespace Scan

theorem candidatesFrom_add (sentence start offset : Nat) (pairs : List BracePair) :
    candidatesFrom sentence (start + offset) pairs =
      (candidatesFrom sentence start pairs).map (Candidate.shift offset) := by
  induction pairs generalizing start with
  | nil => rfl
  | cons p ps ih =>
    have hstop : (p.span (start + offset)).stop = (p.span start).stop + offset := by
      rw [p.span_stop, p.span_stop]
      omega
    rw [candidatesFrom, candidatesFrom, List.map_cons, p.candidate_add, hstop, ih]

theorem candidatesFrom_append (sentence start : Nat) (ps qs : List BracePair) :
    candidatesFrom sentence start (ps ++ qs) = candidatesFrom sentence start ps ++
      candidatesFrom sentence (start + Text.byteLength (ps.flatMap BracePair.text)) qs := by
  induction ps generalizing start with
  | nil => rfl
  | cons p ps ih =>
    rw [List.cons_append, candidatesFrom, candidatesFrom, List.cons_append, ih, p.span_stop,
      List.flatMap_cons, Text.byteLength_append, Nat.add_assoc]

end Scan

/-! ## Behind whole brace pairs -/

namespace Layout

/-- The layout with more text in front, before its first brace. -/
def after (kept : List Char) : Layout → Layout
  | ⟨[], ending⟩ => ⟨[], ending.after kept⟩
  | ⟨p :: ps, ending⟩ => ⟨⟨kept ++ p.gap, p.body⟩ :: ps, ending⟩

/-- The layout of a text that follows whole brace pairs and a gap. -/
def behind (pairs : List BracePair) (gap : List Char) (l : Layout) : Layout :=
  ⟨pairs ++ (l.after gap).pairs, (l.after gap).ending⟩

theorem text_after (kept : List Char) (l : Layout) : (l.after kept).text = kept ++ l.text := by
  rcases l with ⟨_ | ⟨p, ps⟩, ending⟩
  · cases ending <;> simp [after, text, Ending.after, Ending.text]
  · simp [after, text, BracePair.text]

theorem Proper.after (h : l.Proper) {kept : List Char} (hkept : '\x7b' ∉ kept) :
    (l.after kept).Proper := by
  rcases l with ⟨_ | ⟨p, ps⟩, ending⟩
  · have hending := h.ending
    refine ⟨fun q hq => absurd hq List.not_mem_nil, fun q hq => absurd hq List.not_mem_nil, ?_⟩
    cases ending <;> simpa [Layout.after, Ending.after, hkept] using hending
  · refine h.tail.cons (p := ⟨kept ++ p.gap, p.body⟩) ?_ (h.body p List.mem_cons_self)
    rw [List.mem_append, not_or]
    exact ⟨hkept, h.gap p List.mem_cons_self⟩

theorem text_behind (pairs : List BracePair) (gap : List Char) (l : Layout) :
    (behind pairs gap l).text = pairs.flatMap BracePair.text ++ gap ++ l.text := by
  have htext := text_after gap l
  rw [text] at htext
  rw [text, behind, List.flatMap_append, List.append_assoc, htext, List.append_assoc]

theorem proper_behind (hgap : ∀ p ∈ pairs, '\x7b' ∉ p.gap) (hbody : ∀ p ∈ pairs, '\x7d' ∉ p.body)
    (hseam : '\x7b' ∉ gap) (h : l.Proper) : (behind pairs gap l).Proper := by
  have hafter := h.after hseam
  refine ⟨fun p hp => ?_, fun p hp => ?_, hafter.ending⟩
  · exact (List.mem_append.1 hp).elim (hgap p) (hafter.gap p)
  · exact (List.mem_append.1 hp).elim (hbody p) (hafter.body p)

end Layout

namespace Scan

/-- More text in front puts everything that much further on. -/
theorem candidatesFrom_after (sentence start : Nat) (kept : List Char) (l : Layout) :
    candidatesFrom sentence start (l.after kept).pairs =
      candidatesFrom sentence (start + Text.byteLength kept) l.pairs := by
  rcases l with ⟨_ | ⟨p, ps⟩, ending⟩
  · rfl
  · simp only [Layout.after, candidatesFrom, BracePair.candidate, BracePair.span,
      Text.byteLength_append, Nat.add_assoc]

theorem unclosedIn_after (kept : List Char) (l : Layout) :
    unclosedIn (l.after kept) = (unclosedIn l).map (· + Text.byteLength kept) := by
  rcases l with ⟨_ | ⟨p, ps⟩, ending⟩
  · cases ending <;> simp [Layout.after, unclosedIn, Ending.after, Nat.add_comm]
  · cases ending <;>
      simp [Layout.after, unclosedIn, BracePair.text, Nat.add_comm, Nat.add_left_comm]

theorem unclosedIn_append (ps qs : List BracePair) (ending : Ending) :
    unclosedIn ⟨ps ++ qs, ending⟩ =
      (unclosedIn ⟨qs, ending⟩).map (· + Text.byteLength (ps.flatMap BracePair.text)) := by
  cases ending with
  | closed gap => rfl
  | unclosed gap rest =>
    simp only [unclosedIn, List.flatMap_append, Text.byteLength_append, Option.map_some,
      Option.some.injEq]
    omega

/-- **What is scanned behind whole pairs and a gap is scanned as if it stood alone.** -/
theorem ofLayout_behind (pairs : List BracePair) (gap : List Char) (l : Layout) (sentence : Nat)
    (unclosed : Option Nat) : ofLayout (Layout.behind pairs gap l) sentence =
      Scan.followedBy ⟨candidatesFrom sentence 0 pairs, unclosed⟩
        (Text.byteLength (pairs.flatMap BracePair.text ++ gap)) (ofLayout l sentence) := by
  have hcandidates := candidatesFrom_append sentence 0 pairs (l.after gap).pairs
  rw [candidatesFrom_after, Nat.add_assoc, candidatesFrom_add, ← Text.byteLength_append]
    at hcandidates
  have hunclosed := unclosedIn_append pairs (l.after gap).pairs (l.after gap).ending
  rw [unclosedIn_after, Option.map_map] at hunclosed
  have hoffset : ∀ n : Nat, n + Text.byteLength gap + Text.byteLength (pairs.flatMap BracePair.text)
      = n + Text.byteLength (pairs.flatMap BracePair.text ++ gap) := by
    intro n
    rw [Text.byteLength_append]
    omega
  rw [ofLayout, followedBy, Layout.behind, hcandidates, hunclosed]
  simp only [Function.comp_def, hoffset]
  rfl

end Scan

/-! ## Two texts -/

theorem Layout.ofText_behind (hgap : ∀ p ∈ pairs, '\x7b' ∉ p.gap)
    (hbody : ∀ p ∈ pairs, '\x7d' ∉ p.body) (hseam : '\x7b' ∉ gap) (cs : List Char) :
    ofText (pairs.flatMap BracePair.text ++ gap ++ cs) = behind pairs gap (ofText cs) := by
  have hproper := proper_behind hgap hbody hseam (proper_ofText cs)
  rw [← ofText_text hproper, text_behind, text_ofText]

/-- What follows the pairs of a text and a gap is scanned by itself, that far on. -/
theorem Scan.ofText_behind {a whole tail : String} (hseam : '\x7b' ∉ gap)
    (hwhole : whole.toList =
      (Layout.ofText a.toList).pairs.flatMap BracePair.text ++ gap ++ tail.toList) :
    Scan.ofText whole sentence = (Scan.ofText a sentence).followedBy
      (Text.byteLength ((Layout.ofText a.toList).pairs.flatMap BracePair.text ++ gap))
      (Scan.ofText tail sentence) := by
  have hproper := Layout.proper_ofText a.toList
  rw [Scan.ofText, hwhole, Layout.ofText_behind hproper.gap hproper.body hseam]
  exact ofLayout_behind ..

/-- **Two texts are scanned together as they are scanned one by one.** If the first leaves no brace
open, the candidates are those of the first and then those of the second, which stand as many bytes
further on as the first has; and so does an opening brace that the second leaves unclosed. If the
first leaves a brace open, the same holds of what stands before that brace, and the rest, brace
included, is scanned together with the second text. -/
theorem scan_append (a b : String) (sentence : Nat) :
    ((Scan.ofText a sentence).unclosed = none → Scan.ofText (a ++ b) sentence =
      (Scan.ofText a sentence).followedBy a.utf8ByteSize (Scan.ofText b sentence)) ∧
    ∀ offset, (Scan.ofText a sentence).unclosed = some offset → ∃ rest,
      Text.slice? a offset a.utf8ByteSize = some rest ∧ Scan.ofText (a ++ b) sentence =
        (Scan.ofText a sentence).followedBy offset (Scan.ofText (rest ++ b) sentence) := by
  have htext := (Layout.text_ofText a.toList).symm
  have hending := (Layout.proper_ofText a.toList).ending
  have hunclosed : (Scan.ofText a sentence).unclosed = Scan.unclosedIn (Layout.ofText a.toList) := rfl
  have hjoined : (a ++ b).toList = a.toList ++ b.toList := String.toList_append
  rw [Layout.text] at htext
  cases hcase : (Layout.ofText a.toList).ending with
  | closed gap =>
    rw [hcase] at htext hending
    refine ⟨fun _ => ?_, fun offset ho => ?_⟩
    · -- the gap at the end of the first text goes on into the second
      have hsize := congrArg Text.byteLength htext
      rw [Text.byteLength_toList] at hsize
      rw [hsize]
      exact Scan.ofText_behind hending (hjoined.trans (congrArg (· ++ b.toList) htext))
    · rw [hunclosed, Scan.unclosedIn, hcase] at ho
      cases ho
  | unclosed gap rest =>
    rw [hcase, Ending.text, ← List.append_assoc] at htext
    rw [hcase] at hending
    refine ⟨fun hnone => ?_, fun offset ho => ?_⟩
    · rw [hunclosed, Scan.unclosedIn, hcase] at hnone
      cases hnone
    · rw [hunclosed, Scan.unclosedIn, hcase, Option.some.injEq] at ho
      subst ho
      refine ⟨String.ofList ('\x7b' :: rest), ?_, Scan.ofText_behind hending.1 ?_⟩
      · have hslice := Text.slice?_ofList (htext.trans (List.append_nil _).symm)
        rw [← htext, String.ofList_toList, Text.byteLength_toList] at hslice
        exact hslice
      · have hrest : (String.ofList ('\x7b' :: rest) ++ b).toList =
            ('\x7b' :: rest) ++ b.toList := by rw [String.toList_append, String.toList_ofList]
        rw [hjoined, hrest, ← List.append_assoc, ← htext]

end StoryBlanks
