import Mathlib.Tactic.SplitIfs
import StoryBlanks.Lint.Finding
import StoryBlanks.Proofs.Scene.Slots

/-!
# What a finding means, and what its absence means

Some findings say that the slots of a template cannot be filled apart: a name that asks for two
kinds, and a kind of which the catalog has fewer entities than there are names. A sentence without
findings is made of gaps and tags.

* `fillable_iff`: when the linter finds the slots of a template fillable.
* `Sentence.tag_of_findings_eq_nil`, `Sentence.closed_of_findings_eq_nil`: clean sentences.
* `not_mem_render`: a clean template in which every tag is filled shows no opening brace.
-/

namespace StoryBlanks

/-- The finding says that the slots of the template cannot be filled apart. -/
def Finding.isUnfillable : Finding → Bool
  | mixedKinds .. | noEntities .. | fewEntities .. => true
  | unclosed .. | notATag .. | emptyName .. => false

/-! ## Names and kinds -/

theorem Sentence.isUnfillable_of_mem_findings {s : Sentence} {f : Finding} (h : f ∈ s.findings) :
    f.isUnfillable = false := by
  simp only [findings, List.mem_append, List.mem_map] at h
  rcases h with (⟨_, -, rfl⟩ | ⟨_, -, rfl⟩) | ⟨_, -, rfl⟩ <;> rfl

namespace Template

variable {t : Template} {catalog : Catalog}

theorem mem_tagNames_of_isMixed {name : String} (h : t.IsMixed name) : name ∈ t.tagNames := by
  obtain ⟨u, hu, rfl, -⟩ := h
  exact Text.mem_sorted.2 (Text.mem_distinct.2 (List.mem_map_of_mem hu))

theorem unmixed_iff : t.Unmixed ↔ ∀ name, ¬ t.IsMixed name := by
  constructor
  · rintro h name ⟨u, hu, hname, v, hv, hname', hne⟩
    exact hne (h u hu v hv (hname.trans hname'.symm))
  · intro h u hu v hv hname
    by_cases hkind : u.kind = v.kind
    · exact hkind
    · exact absurd ⟨u, hu, hname, v, hv, rfl, hkind⟩ (h v.name)

theorem shortage?_eq_none_iff {kind : Kind} : t.shortage? catalog kind = none ↔
    (t.namesOfKind kind).length ≤ (catalog.ofKind kind).length := by
  unfold shortage?
  dsimp only
  split_ifs <;> simp <;> omega

theorem isUnfillable_of_shortage? {kind : Kind} {f : Finding}
    (h : t.shortage? catalog kind = some f) : f.isUnfillable = true := by
  unfold shortage? at h
  dsimp only at h
  split_ifs at h <;> cases h <;> rfl

/-- **The linter finds the slots fillable** exactly if no name is used with two kinds, and of each
kind the catalog has as many entities as there are names. -/
theorem fillable_iff : (∀ f ∈ t.lint (some catalog), f.isUnfillable = false) ↔
    t.Unmixed ∧ ∀ kind, (t.namesOfKind kind).length ≤ (catalog.ofKind kind).length := by
  simp only [lint, List.mem_append, Option.toList_some, List.flatMap_cons, List.flatMap_nil,
    List.append_nil]
  constructor
  · intro h
    refine ⟨unmixed_iff.2 fun name hmixed => ?_, fun kind => shortage?_eq_none_iff.1 ?_⟩
    · have hmem : Finding.mixedKinds name ∈
          (t.tagNames.filter fun name => t.IsMixed name).map .mixedKinds :=
        List.mem_map_of_mem (List.mem_filter.2 ⟨mem_tagNames_of_isMixed hmixed, by simpa⟩)
      have hfalse := h _ (.inl (.inr hmem))
      cases hfalse
    · cases hs : t.shortage? catalog kind with
      | none => rfl
      | some f =>
        have hfalse := h f (.inr (List.mem_filterMap.2 ⟨kind, kind.mem_all, hs⟩))
        rw [isUnfillable_of_shortage? hs] at hfalse
        cases hfalse
  · rintro ⟨hunmixed, hroom⟩ f ((hf | hf) | hf)
    · obtain ⟨s, -, hf⟩ := List.mem_flatMap.1 hf
      exact Sentence.isUnfillable_of_mem_findings hf
    · obtain ⟨name, hname, -⟩ := List.mem_map.1 hf
      have hmixed : t.IsMixed name := by simpa using (List.mem_filter.1 hname).2
      exact absurd hmixed (unmixed_iff.1 hunmixed name)
    · obtain ⟨kind, -, hf⟩ := List.mem_filterMap.1 hf
      rw [shortage?_eq_none_iff.2 (hroom kind)] at hf
      cases hf

theorem mem_namesOfKind {kind : Kind} {name : String} :
    name ∈ t.namesOfKind kind ↔ ∃ u ∈ t.tags, u.kind = kind ∧ u.name = name := by
  simp only [namesOfKind, Text.mem_distinct, List.mem_map, List.mem_filter, decide_eq_true_eq,
    and_assoc]

/-- A template without messages is one without findings. -/
theorem lint_eq_nil {catalog? : Option Catalog} (herrors : t.lintErrors catalog? = [])
    (hwarnings : t.lintWarnings catalog? = []) : t.lint catalog? = [] := by
  rw [lintErrors, List.map_eq_nil_iff, List.filter_eq_nil_iff] at herrors
  rw [lintWarnings, List.map_eq_nil_iff, List.filter_eq_nil_iff] at hwarnings
  rw [List.eq_nil_iff_forall_not_mem]
  intro f hf
  have herror := herrors f hf
  have hwarning := hwarnings f hf
  rw [Bool.not_eq_true] at herror
  rw [herror] at hwarning
  exact hwarning rfl

end Template

/-! ## Clean sentences -/

/-- If no candidate of a run of pairs is passed over, every pair is a tag. -/
theorem Scan.tag_of_discarded_eq_nil {sentence start : Nat} {pairs : List BracePair}
    (h : (candidatesFrom sentence start pairs).filterMap Candidate.discarded? = [])
    {p : BracePair} (hp : p ∈ pairs) : ∃ tag, readBody p.body sentence = .ok tag := by
  induction pairs generalizing start with
  | nil => cases hp
  | cons q qs ih =>
    rw [candidatesFrom, List.filterMap_cons] at h
    split at h
    · next hkept =>
      rcases List.mem_cons.1 hp with rfl | hp
      · cases hr : readBody p.body sentence with
        | ok tag => exact ⟨tag, rfl⟩
        | error why => simp [Candidate.discarded?, BracePair.candidate, hr] at hkept
      · exact ih h hp
    · cases h

namespace Sentence

variable {s : Sentence}

theorem tag_of_findings_eq_nil (h : s.findings = []) {p : BracePair}
    (hp : p ∈ (Layout.ofText s.text.toList).pairs) :
    ∃ tag ∈ s.tags, readBody p.body s.order = .ok tag := by
  simp only [findings, List.append_eq_nil_iff, List.map_eq_nil_iff] at h
  obtain ⟨tag, htag⟩ := Scan.tag_of_discarded_eq_nil h.1.2 hp
  exact ⟨tag, mem_parse_iff.2 ⟨p, hp, htag⟩, htag⟩

theorem closed_of_findings_eq_nil (h : s.findings = []) :
    ∃ gap, (Layout.ofText s.text.toList).ending = .closed gap ∧ '\x7b' ∉ gap := by
  simp only [findings, List.append_eq_nil_iff, List.map_eq_nil_iff, Option.toList_eq_nil_iff] at h
  have hunclosed : Scan.unclosedIn (Layout.ofText s.text.toList) = none := h.1.1
  have hproper := (Layout.proper_ofText s.text.toList).ending
  unfold Scan.unclosedIn at hunclosed
  split at hunclosed
  · next gap hending =>
    rw [hending] at hproper
    exact ⟨gap, hending, hproper⟩
  · cases hunclosed

/-- A clean sentence shows no opening brace when each of its tags has a name to show. -/
theorem not_mem_render {name? : Tag → Option String} (h : s.findings = [])
    (hnames : ∀ t ∈ s.tags, ∃ name, name? t = some name ∧ '\x7b' ∉ name.toList) :
    '\x7b' ∉ (s.render name?).toList := by
  rw [render, substitute, String.toList_ofList, Layout.fill, List.mem_append, not_or]
  constructor
  · rw [List.mem_flatMap]
    rintro ⟨p, hp, hmem⟩
    obtain ⟨tag, htag, hread⟩ := tag_of_findings_eq_nil h hp
    obtain ⟨name, hname, hbrace⟩ := hnames tag htag
    have hfill : p.filling? name? s.order = some name := by
      rw [BracePair.filling?, hread]
      exact hname
    rw [BracePair.fill, hfill] at hmem
    rcases List.mem_append.1 hmem with hgap | hshown
    · exact (Layout.proper_ofText s.text.toList).gap p hp hgap
    · exact hbrace hshown
  · obtain ⟨gap, hending, hgap⟩ := closed_of_findings_eq_nil h
    rw [hending]
    exact hgap

end Sentence

theorem Text.not_mem_join {c : Char} {separator : String} {texts : List String}
    (hs : c ∉ separator.toList) (ht : ∀ text ∈ texts, c ∉ text.toList) :
    c ∉ (join separator texts).toList := by
  rw [join, String.toList_intercalate]
  induction texts with
  | nil => simp
  | cons text texts ih =>
    have hrest := ih fun x hx => ht x (List.mem_cons_of_mem _ hx)
    have htext := ht text List.mem_cons_self
    cases texts with
    | nil => simpa using htext
    | cons next texts =>
      rw [List.map_cons] at hrest
      rw [List.map_cons, List.map_cons, List.intercalate_cons_cons]
      simp only [List.mem_append, not_or]
      exact ⟨⟨htext, hs⟩, hrest⟩

/-- **A template without findings shows no opening brace** when each of its tags has a name to
show, and neither the names nor the separator bring one in. -/
theorem Template.not_mem_render {t : Template} {catalog? : Option Catalog}
    {name? : Tag → Option String} {separator : String} (h : t.lint catalog? = [])
    (hnames : ∀ tag ∈ t.tags, ∃ name, name? tag = some name ∧ '\x7b' ∉ name.toList)
    (hseparator : '\x7b' ∉ separator.toList) : '\x7b' ∉ (t.render name? separator).toList := by
  refine Text.not_mem_join hseparator fun text htext => ?_
  obtain ⟨s, hs, rfl⟩ := List.mem_map.1 htext
  rw [lint, List.append_eq_nil_iff, List.append_eq_nil_iff] at h
  refine Sentence.not_mem_render (List.flatMap_eq_nil_iff.1 h.1.1 s hs) fun tag htag => ?_
  exact hnames tag (List.mem_flatMap.2 ⟨s, hs, htag⟩)

end StoryBlanks
