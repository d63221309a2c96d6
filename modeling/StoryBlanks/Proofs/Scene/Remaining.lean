import StoryBlanks.Proofs.Scene.Slots
import StoryBlanks.Proofs.Sentence.Nested
import StoryBlanks.Proofs.Sentence.Splice

/-!
# What is left to fill is what is left as it is written

Progress is counted on the first tag of each slot, and rendering goes over every tag of every
sentence. A slot may come many times, in several sentences, and may share its name with a slot of
another kind. Still the two agree: a tag is left in its spelling exactly if its slot is listed as
empty, so a scene is complete exactly if every tag of it is substituted.

* `pairwise_locate`: the tags of a sentence stand one after another.
* `Scene.ShowsAt`: what a rendered sentence has where a tag stands.
* `Scene.Leaves`, `Scene.Substitutes`: the two things that can become of a tag.
* `unboundTags_remaining`: progress and rendering, in every scene.
-/

namespace StoryBlanks

variable {text : String} {sentence : Nat} {l : LocatedTag}

/-! ## The places of the tags of a sentence -/

/-- The tags of a sentence stand one after another. -/
theorem pairwise_locate (text : String) (sentence : Nat) :
    (locate text sentence).Pairwise fun a b => a.span.stop ≤ b.span.start := by
  refine (Scan.placed_ofText text sentence).ordered.filterMap _ fun c d hcd a ha b hb => ?_
  rw [← Candidate.span_of_located? ha, ← Candidate.span_of_located? hb]
  exact hcd

theorem start_lt_stop_of_mem_locate (h : l ∈ locate text sentence) :
    l.span.start < l.span.stop := by
  obtain ⟨c, hc, hl⟩ := List.mem_filterMap.1 h
  rw [← Candidate.span_of_located? hl]
  exact (Scan.placed_ofText text sentence).start_lt c hc

/-- Of two tags of a sentence one stands before the other. -/
theorem apart_of_mem_locate {k : LocatedTag} (hl : l ∈ locate text sentence)
    (hk : k ∈ locate text sentence) (hne : k ≠ l) :
    k.span.stop ≤ l.span.start ∨ l.span.stop ≤ k.span.start := by
  have hapart : (locate text sentence).Pairwise fun a b =>
      a.span.stop ≤ b.span.start ∨ b.span.stop ≤ a.span.start :=
    (pairwise_locate text sentence).imp .inl
  have hsymm : Std.Symm fun a b : LocatedTag =>
      a.span.stop ≤ b.span.start ∨ b.span.stop ≤ a.span.start := ⟨fun _ _ => Or.symm⟩
  exact hapart.forall hk hl hne

namespace Scene

variable {s : Scene} {x : Sentence}

/-! ## What becomes of a tag -/

/-- What is put into a sentence when the scene is rendered: the places of its filled tags, each with
the name that takes its place. -/
def puts (s : Scene) (x : Sentence) : List (Span × String) :=
  replacements s.selection.nameFor? x.located

/-- The rendered sentence has `shown` where the tag stands. What stands before the tag and after it
is rendered for itself. -/
def ShowsAt (s : Scene) (x : Sentence) (l : LocatedTag) (shown : String) : Prop :=
  ∃ before literal after : String, x.text = before ++ literal ++ after ∧
    l.span = ⟨before.utf8ByteSize, (before ++ literal).utf8ByteSize⟩ ∧
    x.render s.selection.nameFor? = substitute s.selection.nameFor? before x.order ++ shown ++
      substitute s.selection.nameFor? after x.order

/-- The tag is left in its spelling: nothing is put where it stands, and the rendered sentence has
there what the sentence has. -/
structure Leaves (s : Scene) (x : Sentence) (l : LocatedTag) : Prop where
  apart : ∀ r ∈ s.puts x, r.1.stop ≤ l.span.start ∨ l.span.stop ≤ r.1.start
  spelling : ∃ literal, Text.slice? x.text l.span.start l.span.stop = some literal ∧
    s.ShowsAt x l literal

/-- The tag is substituted: a name is put where it stands, and the rendered sentence has that name
there. -/
def Substitutes (s : Scene) (x : Sentence) (l : LocatedTag) : Prop :=
  ∃ name, (l.span, name) ∈ s.puts x ∧ s.ShowsAt x l name

theorem mem_puts {r : Span × String} : r ∈ s.puts x ↔
    ∃ l ∈ x.located, ∃ name, s.selection.nameFor? l.tag = some name ∧ (l.span, name) = r := by
  simp only [puts, replacements, List.mem_filterMap, Option.map_eq_some_iff]

/-- The rendered sentence has the name to show where a tag stands, or else the tag as it is
spelled. -/
theorem exists_showsAt (hl : l ∈ x.located) : ∃ literal,
    Text.slice? x.text l.span.start l.span.stop = some literal ∧
      s.ShowsAt x l ((s.selection.nameFor? l.tag).getD literal) := by
  obtain ⟨before, literal, after, htext, hspan, hrender⟩ := substitute_around hl
  refine ⟨literal, ?_, before, literal, after, htext, hspan, hrender _⟩
  rw [htext, hspan]
  exact Text.slice?_append before literal after

/-- Nothing is put where a tag stands that is left in its spelling. -/
theorem Leaves.not_mem (h : s.Leaves x l) (hl : l ∈ x.located) (name : String) :
    (l.span, name) ∉ s.puts x := by
  intro hput
  have hlt := start_lt_stop_of_mem_locate hl
  have hapart := h.apart (l.span, name) hput
  dsimp only at hapart
  omega

theorem nameFor?_eq_none_iff {t : Tag} :
    s.selection.nameFor? t = none ↔ s.selection.bindingFor? t = none := by
  rw [Selection.nameFor?, Option.map_eq_none_iff]

/-- A tag is left in its spelling exactly if nothing fills it. -/
theorem leaves_iff (hl : l ∈ x.located) :
    s.Leaves x l ↔ s.selection.bindingFor? l.tag = none := by
  rw [← nameFor?_eq_none_iff]
  constructor
  · intro h
    refine Option.eq_none_iff_forall_ne_some.2 fun name hname => ?_
    exact h.not_mem hl name (mem_puts.2 ⟨l, hl, name, hname, rfl⟩)
  · intro hnone
    refine ⟨fun r hr => ?_, ?_⟩
    · obtain ⟨k, hk, name, hname, rfl⟩ := mem_puts.1 hr
      -- the tag there is another one, since it has a name to show
      have hne : k ≠ l := by
        rintro rfl
        rw [hnone] at hname
        cases hname
      exact apart_of_mem_locate hl hk hne
    · obtain ⟨literal, hslice, hshows⟩ := exists_showsAt (s := s) hl
      rw [hnone, Option.getD_none] at hshows
      exact ⟨literal, hslice, hshows⟩

/-- A tag is substituted exactly if something fills it. -/
theorem substitutes_iff (hl : l ∈ x.located) :
    s.Substitutes x l ↔ (s.selection.bindingFor? l.tag).isSome := by
  rw [← Option.ne_none_iff_isSome]
  constructor
  · rintro ⟨name, hput, -⟩ hnone
    exact ((leaves_iff hl).2 hnone).not_mem hl name hput
  · intro hsome
    obtain ⟨name, hname⟩ := Option.ne_none_iff_exists'.1 (mt nameFor?_eq_none_iff.1 hsome)
    obtain ⟨literal, -, hshows⟩ := exists_showsAt (s := s) hl
    rw [hname, Option.getD_some] at hshows
    exact ⟨name, mem_puts.2 ⟨l, hl, name, hname, rfl⟩, hshows⟩

/-! ## Progress and rendering -/

theorem tag_mem_tags (hx : x ∈ s.template.sentences) (hl : l ∈ x.located) :
    l.tag ∈ s.template.tags :=
  List.mem_flatMap.2 ⟨x, hx, List.mem_map_of_mem hl⟩

/-- **What is left to fill is what is left as it is written.** In every scene the empty slots are
listed without repetition, by the tags at whose places in the template they come first and in the
order of these places. The rendered scene is its sentences, each rendered by putting names at the
places of some of its tags; a tag of it is left in its spelling exactly if its slot is listed, and
the scene is complete exactly if every tag of every sentence is substituted. -/
theorem unboundTags_remaining (s : Scene) :
    s.unboundTags.Pairwise (fun t u => ¬ t.SameSlot u) ∧
    (∃ places : List (Tag × Nat), places.Sublist s.template.tags.zipIdx ∧
      places.map Prod.fst = s.unboundTags ∧
        ∀ e ∈ places, ∀ u ∈ s.template.tags.take e.2, ¬ u.SameSlot e.1) ∧
    s.render = Text.join s.separator
      (s.template.sentences.map fun x => x.render s.selection.nameFor?) ∧
    (∀ x ∈ s.template.sentences,
      splice? x.text 0 (s.puts x) = some (x.render s.selection.nameFor?) ∧
        ∀ l ∈ x.located, s.Leaves x l ↔ ∃ t ∈ s.unboundTags, t.SameSlot l.tag) ∧
    (s.isComplete = true ↔ ∀ x ∈ s.template.sentences, ∀ l ∈ x.located, s.Substitutes x l) := by
  refine ⟨s.pairwise_unboundTags.imp And.left, s.exists_places_unboundTags, rfl,
    fun x hx => ⟨splice?_locate .., fun l hl => ?_⟩, ?_⟩
  · rw [leaves_iff hl, exists_mem_unboundTags_iff (tag_mem_tags hx hl)]
  · rw [isComplete_iff]
    constructor
    · intro h x hx l hl
      exact (substitutes_iff hl).2 (h l.tag (tag_mem_tags hx hl))
    · intro h t ht
      obtain ⟨x, hx, htag⟩ := List.mem_flatMap.1 ht
      obtain ⟨l, hl, rfl⟩ := List.mem_map.1 htag
      exact (substitutes_iff hl).1 (h x hx l hl)

end Scene

end StoryBlanks
