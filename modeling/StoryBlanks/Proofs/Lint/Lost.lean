import StoryBlanks.Lint.Finding
import StoryBlanks.Proofs.Sentence.Nested

/-!
# Placeholders that the linter misses

A placeholder that an author wrote well is lost if no tag of its sentence stands where it stands.
Most often something is found wrong with such a sentence; but not if the brace pair that took the
placeholder in reads as a tag itself.

* `IsPlaceholder`, `Sentence.Writes`: a placeholder, and where a sentence has one.
* `Sentence.Swallows`: a tag that ends in a placeholder.
* `Sentence.kept_or_found_or_swallowed`: what becomes of a placeholder.
* `Template.missesNone_iff`: when the linter misses nothing.
* `Template.not_missesNone_nested`: a template that it takes for sound.
-/

namespace StoryBlanks

/-- A placeholder as it should be written: a token, in whatever case, and a name without braces. -/
def IsPlaceholder (literal : String) : Prop :=
  ∃ token name : String, literal = "\x7b" ++ token ++ ":" ++ name ++ "\x7d" ∧
    (Kind.ofToken? token).isSome ∧ '\x7b' ∉ name.toList ∧ '\x7d' ∉ name.toList

/-- A placeholder is an opening brace, a text without a closing one that reads as a tag, and a
closing brace. -/
theorem IsPlaceholder.exists_body {literal : String} (h : IsPlaceholder literal) :
    ∃ body : List Char, literal.toList = '\x7b' :: (body ++ ['\x7d']) ∧ '\x7d' ∉ body ∧
      ∀ sentence, ∃ tag, readBody body sentence = .ok tag := by
  obtain ⟨token, name, rfl, hkind, -, hname⟩ := h
  obtain ⟨kind, hkind⟩ := Option.isSome_iff_exists.1 hkind
  rw [← String.ofList_toList (s := token)] at hkind
  have hcolon : ':' ∉ token.toList :=
    Kind.not_mem_of_ofToken? (by decide) (by decide) (by decide) hkind
  have hbrace : '\x7d' ∉ token.toList :=
    Kind.not_mem_of_ofToken? (by decide) (by decide) (by decide) hkind
  have hcut := Text.cut_eq_some_iff.2 ⟨(rfl : token.toList ++ ':' :: name.toList = _), hcolon⟩
  refine ⟨token.toList ++ ':' :: name.toList, by simp, ?_, fun sentence => ?_⟩
  · rw [List.mem_append, List.mem_cons, not_or, not_or]
    exact ⟨hbrace, by decide, hname⟩
  · simp only [readBody, hcut, hkind]
    exact ⟨_, rfl⟩

/-- The number of the sentence that a finding is about, if it is about one. -/
def Finding.sentence? : Finding → Option Nat
  | unclosed sentence _ | notATag sentence _ _ | emptyName sentence _ => some sentence
  | mixedKinds _ | noEntities _ _ | fewEntities _ _ _ => none

namespace Sentence

variable {s : Sentence} {span : Span}

/-- The sentence has a placeholder at that place. -/
def Writes (s : Sentence) (span : Span) : Prop :=
  ∃ literal, IsPlaceholder literal ∧ Text.slice? s.text span.start span.stop = some literal

/-- The tag ends in a placeholder that begins after it. -/
def Swallows (s : Sentence) (l : LocatedTag) : Prop :=
  ∃ span, s.Writes span ∧ l.span.start < span.start ∧ l.span.stop = span.stop

/-! ## What becomes of a placeholder -/

/-- A brace pair closes where the placeholder does: the placeholder itself, or one that begins
before it. -/
theorem exists_candidate_of_writes (h : s.Writes span) : ∃ (p : BracePair) (c : Candidate),
    c ∈ s.scan.candidates ∧ c.reading = readBody p.body s.order ∧ c.span.stop = span.stop ∧
      ((c.span.start = span.start ∧ ∃ tag, readBody p.body s.order = .ok tag) ∨
        (c.span.start < span.start ∧ '\x7b' ∈ p.body)) := by
  obtain ⟨literal, hliteral, hslice⟩ := h
  obtain ⟨body, hbody, hclosing, hreads⟩ := hliteral.exists_body
  obtain ⟨before, after, htext, hstart, hstop⟩ := Text.slice?_eq_some_iff.1 hslice
  rw [← Text.byteLength_toList] at hstart hstop
  rw [String.toList_append, hbody] at hstop
  have hlayout : (Layout.ofText s.text.toList).text =
      before.toList ++ '\x7b' :: (body ++ '\x7d' :: after.toList) := by
    rw [Layout.text_ofText, htext, String.toList_append, String.toList_append, hbody]
    simp
  obtain ⟨front, p, back, hpairs, hplace⟩ :=
    Layout.exists_pair_of_text_eq (Layout.proper_ofText _) hclosing hlayout
  have hmem : p.candidate s.order (Text.byteLength (front.flatMap BracePair.text)) ∈
      s.scan.candidates := by
    have hfront := Scan.mem_candidatesFrom s.order 0 front p back
    rw [Nat.zero_add, ← hpairs] at hfront
    exact hfront
  have htells := Candidate.tells_iff.2 (rfl : p.candidate s.order
    (Text.byteLength (front.flatMap BracePair.text)) = _)
  refine ⟨p, _, hmem, rfl, ?_⟩
  rw [htells.start_eq, htells.stop_eq, hstart, hstop]
  obtain ⟨hbefore, hp⟩ | ⟨lead, hbefore, hp⟩ := hplace
  · refine ⟨?_, .inl ⟨by rw [hbefore], hp ▸ hreads s.order⟩⟩
    rw [hbefore, BracePair.text, hp, List.append_assoc]
  · refine ⟨?_, .inr ⟨?_, ?_⟩⟩
    · rw [hbefore, BracePair.text, hp]
      simp
    · have hopening : Char.utf8Size '\x7b' = 1 := by decide
      rw [hbefore, Text.byteLength_append (_ ++ _), Text.byteLength_cons, hopening]
      omega
    · rw [hp]
      exact List.mem_append_right _ List.mem_cons_self

/-- **What becomes of a placeholder.** Some tag stands in its very place; or the pair that takes it in
is passed over, and found; or that pair is a tag, with an opening brace in its name. -/
theorem kept_or_found_or_swallowed (h : s.Writes span) :
    (∃ l ∈ s.located, l.span = span) ∨ (∃ f ∈ s.findings, f.sentence? = some s.order) ∨
      ∃ l ∈ s.located, l.span.start < span.start ∧ l.span.stop = span.stop ∧
        '\x7b' ∈ l.tag.name.toList := by
  obtain ⟨p, c, hc, hreading, hstop, hplace⟩ := exists_candidate_of_writes h
  cases hread : readBody p.body s.order with
  | ok tag =>
    have hlocated : ⟨tag, c.span⟩ ∈ s.located := by
      refine List.mem_filterMap.2 ⟨c, hc, ?_⟩
      rw [Candidate.located?, hreading, hread]
    obtain ⟨hstart, -⟩ | ⟨hstart, hmem⟩ := hplace
    · refine .inl ⟨_, hlocated, ?_⟩
      cases span
      cases hspan : c.span
      simp only [hspan] at hstart hstop
      rw [hstart, hstop]
    · exact .inr (.inr ⟨_, hlocated, hstart, hstop, mem_name_of_readBody hread hmem⟩)
  | error why =>
    refine .inr (.inl ⟨.notATag s.order c.body why, ?_, rfl⟩)
    have hdiscarded : (c, why) ∈ s.scan.discarded := by
      refine List.mem_filterMap.2 ⟨c, hc, ?_⟩
      rw [Candidate.discarded?, hreading, hread]
    refine List.mem_append_left _ (List.mem_append_right _ ?_)
    exact List.mem_map_of_mem hdiscarded

/-- A placeholder that a tag swallows has no tag of its own. -/
theorem span_ne_of_swallowed {l m : LocatedTag} (hl : l ∈ s.located) (hm : m ∈ s.located)
    (hstart : l.span.start < span.start) (hstop : l.span.stop = span.stop) : m.span ≠ span := by
  rintro rfl
  obtain ⟨c, hc, hcl⟩ := List.mem_filterMap.1 hl
  obtain ⟨d, hd, hdm⟩ := List.mem_filterMap.1 hm
  rw [← Candidate.span_of_located? hcl, ← Candidate.span_of_located? hdm] at hstart hstop
  have hplaced := Scan.placed_ofText s.text s.order
  rw [hplaced.eq_of_stop_eq hc hd hstop] at hstart
  exact Nat.lt_irrefl _ hstart

end Sentence

namespace Template

variable {t : Template} {catalog? : Option Catalog}

/-- The linter reports something about the sentence. -/
def Reports (t : Template) (catalog? : Option Catalog) (s : Sentence) : Prop :=
  ∃ f ∈ t.lint catalog?, f.sentence? = some s.order

/-- Wherever a sentence has a placeholder, a tag stands in its very place, or the linter reports
something about the sentence. -/
def MissesNone (t : Template) (catalog? : Option Catalog) : Prop :=
  ∀ s ∈ t.sentences, ∀ span, s.Writes span →
    (∃ l ∈ s.located, l.span = span) ∨ t.Reports catalog? s

theorem reports_of_findings {s : Sentence} (hs : s ∈ t.sentences)
    (h : ∃ f ∈ s.findings, f.sentence? = some s.order) : t.Reports catalog? s := by
  obtain ⟨f, hf, hsentence⟩ := h
  refine ⟨f, ?_, hsentence⟩
  exact List.mem_append_left _ (List.mem_append_left _ (List.mem_flatMap.2 ⟨s, hs, hf⟩))

/-- **When the linter misses nothing.** A placeholder is missed exactly if a tag swallows it in a
sentence about which nothing is reported. Such a tag has an opening brace in its name: so nothing is
missed in a template whose names have none. -/
theorem missesNone_iff (t : Template) (catalog? : Option Catalog) :
    (t.MissesNone catalog? ↔
      ∀ s ∈ t.sentences, ∀ l ∈ s.located, s.Swallows l → t.Reports catalog? s) ∧
    ((∀ tag ∈ t.tags, '\x7b' ∉ tag.name.toList) → t.MissesNone catalog?) := by
  have hiff : t.MissesNone catalog? ↔
      ∀ s ∈ t.sentences, ∀ l ∈ s.located, s.Swallows l → t.Reports catalog? s := by
    constructor
    · rintro h s hs l hl ⟨span, hwrites, hstart, hstop⟩
      refine (h s hs span hwrites).resolve_left ?_
      rintro ⟨m, hm, hspan⟩
      exact Sentence.span_ne_of_swallowed hl hm hstart hstop hspan
    · intro h s hs span hwrites
      obtain hkept | hfound | ⟨l, hl, hstart, hstop, -⟩ := s.kept_or_found_or_swallowed hwrites
      · exact .inl hkept
      · exact .inr (reports_of_findings hs hfound)
      · exact .inr (h s hs l hl ⟨span, hwrites, hstart, hstop⟩)
  refine ⟨hiff, fun hnames s hs span hwrites => ?_⟩
  obtain hkept | hfound | ⟨l, hl, -, -, hmem⟩ := s.kept_or_found_or_swallowed hwrites
  · exact .inl hkept
  · exact .inr (reports_of_findings hs hfound)
  · have htag : l.tag ∈ t.tags := List.mem_flatMap.2 ⟨s, hs, List.mem_map_of_mem hl⟩
    exact absurd hmem (hnames l.tag htag)

/-- **A template that the linter takes for sound.** Its author left a brace open; the next
placeholder closes it, and what stands between reads as one tag with an odd name. -/
theorem not_missesNone_nested :
    let t : Template := { name := "nested", texts := ["\x7bcharacter:a \x7bcharacter:b\x7d"] }
    t.lint none = [] ∧ ¬ t.MissesNone none := by
  intro t
  have hlint : t.lint none = [] := by decide +kernel
  refine ⟨hlint, fun h => ?_⟩
  let s : Sentence := ⟨0, "\x7bcharacter:a \x7bcharacter:b\x7d"⟩
  have hwrites : s.Writes ⟨13, 26⟩ :=
    ⟨"\x7bcharacter:b\x7d", ⟨"character", "b", by decide +kernel⟩,
      Text.slice?_eq_some_iff.2 ⟨"\x7bcharacter:a ", "", by decide +kernel⟩⟩
  have hlocated : s.located = [⟨⟨.character, "a \x7bcharacter:b", 0⟩, ⟨0, 26⟩⟩] := by
    decide +kernel
  obtain ⟨l, hl, hspan⟩ | ⟨f, hf, -⟩ := h s List.mem_cons_self _ hwrites
  · rw [hlocated, List.mem_singleton] at hl
    subst hl
    exact absurd hspan (by decide)
  · rw [hlint] at hf
    cases hf

end Template

end StoryBlanks
