import Mathlib.Data.List.Pairwise
import StoryBlanks.Proofs.Sentence.Around

/-!
# Braces within braces

An opening brace is closed by the next closing one, whatever stands between them. So a brace pair
that is written inside another is never a pair of the layout: the outer opening brace takes its
closing one. What is written between two braces with no closing brace in it is therefore a pair of
the layout, or the end of a pair that begins before it.

* `Layout.exists_pair_of_text_eq`: which of the two it is.
* `Scan.Placed.eq_of_stop_eq`: candidates that end together are one.
-/

namespace StoryBlanks

/-- **What is written between two braces**, with no closing brace in it, is a pair of the layout, or
the end of a pair that begins before it. The induction is on the pairs that come before. -/
theorem Layout.exists_pair_of_text_eq {l : Layout} (h : l.Proper)
    {before inner after : List Char} (hinner : '\x7d' ∉ inner)
    (htext : l.text = before ++ '\x7b' :: (inner ++ '\x7d' :: after)) :
    ∃ front p back, l.pairs = front ++ p :: back ∧
      ((before = front.flatMap BracePair.text ++ p.gap ∧ p.body = inner) ∨
        ∃ lead, before = front.flatMap BracePair.text ++ p.gap ++ '\x7b' :: lead ∧
          p.body = lead ++ '\x7b' :: inner) := by
  obtain ⟨pairs, ending⟩ := l
  induction pairs generalizing before with
  | nil =>
    exfalso
    have hending := h.ending
    change ending.text = _ at htext
    cases ending with
    | closed gap =>
      refine hending ?_
      rw [show gap = _ from htext]
      exact List.mem_append_right _ List.mem_cons_self
    | unclosed gap rest =>
      -- the brace is the one that nothing closes, or stands after it; but its own closes it
      obtain ⟨hgap, hrest⟩ := hending
      obtain ⟨-, rfl⟩ | ⟨lead, -, rfl⟩ := Text.first_or_later hgap htext
      · exact hrest (List.mem_append_right _ List.mem_cons_self)
      · exact hrest (by simp)
  | cons p ps ih =>
    have hgap : '\x7b' ∉ p.gap := h.gap p List.mem_cons_self
    have hbody : '\x7d' ∉ p.body := h.body p List.mem_cons_self
    have hopen : p.gap ++ '\x7b' :: (p.body ++ '\x7d' :: Layout.text ⟨ps, ending⟩) =
        before ++ '\x7b' :: (inner ++ '\x7d' :: after) := by
      rw [← htext]
      simp [Layout.text, BracePair.text]
    obtain ⟨rfl, hclose⟩ | ⟨lead, rfl, hclose⟩ := Text.first_or_later hgap hopen
    · refine ⟨[], p, ps, rfl, .inl ⟨rfl, ?_⟩⟩
      exact (Text.eq_of_append_cons_eq hinner hbody hclose).1.symm
    · rw [← List.cons_append, ← List.append_assoc] at hclose
      cases hcut : Text.cut '\x7d' lead with
      | none =>
        -- the pair takes in everything up to the closing brace
        refine ⟨[], p, ps, rfl, .inr ⟨lead, rfl, ?_⟩⟩
        refine (Text.eq_of_append_cons_eq hbody ?_ hclose).1
        rw [List.mem_append, List.mem_cons, not_or, not_or]
        exact ⟨Text.cut_eq_none_iff.1 hcut, by decide, hinner⟩
      | some parts =>
        obtain ⟨hlead, hfirst⟩ := Text.cut_eq_some_iff.1 hcut
        rw [hlead] at hclose
        simp only [List.append_assoc, List.cons_append] at hclose
        obtain ⟨hbefore, hrest⟩ := Text.eq_of_append_cons_eq hbody hfirst hclose
        obtain ⟨front, q, back, rfl, hplace⟩ := ih h.tail hrest
        refine ⟨p :: front, q, back, rfl, ?_⟩
        rw [hlead, ← hbefore]
        obtain ⟨hparts, hq⟩ | ⟨lead', hparts, hq⟩ := hplace
        · exact .inl ⟨by simp [hparts, BracePair.text], hq⟩
        · exact .inr ⟨lead', by simp [hparts, BracePair.text], hq⟩

/-- Each pair makes a candidate, counted from the end of all pairs before it. -/
theorem Scan.mem_candidatesFrom (sentence start : Nat) (front : List BracePair) (p : BracePair)
    (back : List BracePair) :
    p.candidate sentence (start + Text.byteLength (front.flatMap BracePair.text)) ∈
      candidatesFrom sentence start (front ++ p :: back) := by
  refine List.mem_of_getElem? (i := front.length) ?_
  rw [getElem?_candidatesFrom]
  simp

theorem Candidate.span_of_located? {c : Candidate} {l : LocatedTag}
    (h : c.located? = some l) : c.span = l.span := by
  unfold located? at h
  split at h
  · cases h
    rfl
  · cases h

/-- The candidates of a text are placed in it. -/
theorem Scan.placed_ofText (text : String) (sentence : Nat) :
    (ofText text sentence).Placed text := by
  have hplaced := placed_ofLayout (Layout.proper_ofText text.toList) sentence
  rwa [Layout.text_ofText, String.ofList_toList] at hplaced

/-- Candidates that end together are one. -/
theorem Scan.Placed.eq_of_stop_eq {s : Scan} {text : String} (h : s.Placed text) {c d : Candidate}
    (hc : c ∈ s.candidates) (hd : d ∈ s.candidates) (hstop : c.span.stop = d.span.stop) :
    c = d := by
  have hapart : s.candidates.Pairwise fun c d => c.span.stop ≠ d.span.stop := by
    refine h.ordered.imp_of_mem fun _ hd hle heq => ?_
    have hlt := h.start_lt _ hd
    omega
  have hsymm : Std.Symm fun c d : Candidate => c.span.stop ≠ d.span.stop := ⟨fun _ _ => Ne.symm⟩
  exact Classical.byContradiction fun hcd => hapart.forall hc hd hcd hstop

end StoryBlanks
