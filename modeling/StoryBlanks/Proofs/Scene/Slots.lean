import StoryBlanks.Scene.Basic

/-!
# The slots of a template

A slot may occur many times in a template. The progress of a scene is counted on the first tag of
each slot, and whether a tag is filled depends on its slot alone, so nothing is lost by that.

* `Template.pairwise_sentences`, `Template.pairwise_tags`: sentences and tags come in order.
* `Template.Unmixed`: no name is used with two kinds, so that names and slots are one.
* `mem_unboundTags`, `pairwise_unboundTags`: the slots still empty, each once.
* `exists_places_unboundTags`: they are listed by the tags at whose places they come first.
* `exists_mem_unboundTags_iff`: which slots of the template are among them.
* `isComplete_iff`: with no slot left empty, every tag is filled.
-/

namespace StoryBlanks

namespace Template

theorem mem_tags_of_findTag? {t : Template} {name : String} {tag : Tag}
    (h : t.findTag? name = some tag) : tag ∈ t.tags := List.mem_of_find?_eq_some h

theorem mem_tags_of_firstOfSlot? {t : Template} {tag u : Tag} (h : t.firstOfSlot? tag = some u) :
    u ∈ t.tags ∧ u.SameSlot tag :=
  ⟨List.mem_of_find?_eq_some h, by simpa using List.find?_some h⟩

/-- Sentences come in the order of their places. -/
theorem pairwise_sentences (t : Template) : t.sentences.Pairwise fun a b => a.order < b.order := by
  rw [List.pairwise_iff_getElem]
  intro i j hi hj hij
  simp only [sentences, List.getElem_mapIdx]
  exact hij

/-- Tags come in the order of their sentences. -/
theorem pairwise_tags (t : Template) : t.tags.Pairwise fun u v => u.sentence ≤ v.sentence := by
  rw [tags, List.pairwise_flatMap]
  refine ⟨fun s _ => ?_, t.pairwise_sentences.imp fun {a b} hab u hu v hv => ?_⟩
  · refine List.pairwise_of_forall_mem_list fun u hu v hv => Nat.le_of_eq ?_
    rw [Sentence.order_of_mem_tags hu, Sentence.order_of_mem_tags hv]
  · rw [Sentence.order_of_mem_tags hu, Sentence.order_of_mem_tags hv]
    exact Nat.le_of_lt hab

/-- No name is used with two kinds. -/
def Unmixed (t : Template) : Prop :=
  ∀ u ∈ t.tags, ∀ v ∈ t.tags, u.name = v.name → u.kind = v.kind

instance : DecidablePred Unmixed :=
  fun t => inferInstanceAs (Decidable (∀ u ∈ t.tags, ∀ v ∈ t.tags, _))

end Template

theorem Selection.bindingFor?_congr (s : Selection) {t u : Tag} (h : t.SameSlot u) :
    s.bindingFor? t = s.bindingFor? u := by
  unfold bindingFor?
  rw [h.1, h.2]

namespace Scene

/-! ## The first tag of each slot -/

theorem not_sameSlot_of_seen {seen ts : List Tag} {t u : Tag} (hu : u ∈ seen)
    (ht : t ∈ firstOfSlots seen ts) : ¬ u.SameSlot t := by
  induction ts generalizing seen with
  | nil => cases ht
  | cons v vs ih =>
    rw [firstOfSlots] at ht
    split at ht
    · exact ih hu ht
    · next hnew =>
      rcases List.mem_cons.1 ht with rfl | ht
      · exact fun hs => hnew ⟨u, hu, hs⟩
      · exact ih (List.mem_cons_of_mem _ hu) ht

theorem pairwise_firstOfSlots (seen ts : List Tag) :
    (firstOfSlots seen ts).Pairwise fun t u => ¬ t.SameSlot u := by
  induction ts generalizing seen with
  | nil => exact .nil
  | cons t ts ih =>
    rw [firstOfSlots]
    split
    · exact ih seen
    · exact .cons (fun u hu => not_sameSlot_of_seen List.mem_cons_self hu) (ih (t :: seen))

/-- No slot is passed over. -/
theorem exists_mem_firstOfSlots (seen : List Tag) {ts : List Tag} {t : Tag} (ht : t ∈ ts) :
    (∃ u ∈ seen, u.SameSlot t) ∨ ∃ u ∈ firstOfSlots seen ts, u.SameSlot t := by
  induction ts generalizing seen with
  | nil => cases ht
  | cons v vs ih =>
    rw [firstOfSlots]
    split
    · next hseen =>
      rcases List.mem_cons.1 ht with rfl | ht
      · exact .inl hseen
      · exact ih seen ht
    · rcases List.mem_cons.1 ht with rfl | ht
      · exact .inr ⟨t, List.mem_cons_self, .refl t⟩
      · rcases ih (v :: seen) ht with ⟨u, hu, hs⟩ | ⟨u, hu, hs⟩
        · rcases List.mem_cons.1 hu with rfl | hu
          · exact .inr ⟨u, List.mem_cons_self, hs⟩
          · exact .inl ⟨u, hu, hs⟩
        · exact .inr ⟨u, List.mem_cons_of_mem _ hu, hs⟩

/-- A tag is listed at a place where its slot comes first. The tags of `before` have been passed, and
their slots are among those seen. -/
theorem exists_places {seen before : List Tag} (h : ∀ u ∈ before, ∃ v ∈ seen, v.SameSlot u)
    (ts : List Tag) : ∃ places : List (Tag × Nat), places.Sublist (ts.zipIdx before.length) ∧
      places.map Prod.fst = firstOfSlots seen ts ∧
        ∀ e ∈ places, ∀ u ∈ (before ++ ts).take e.2, ¬ u.SameSlot e.1 := by
  induction ts generalizing seen before with
  | nil => exact ⟨[], .slnil, rfl, by simp⟩
  | cons t ts ih =>
    have hshift : before ++ t :: ts = (before ++ [t]) ++ ts := by simp
    have hlength : before.length + 1 = (before ++ [t]).length := by simp
    rw [firstOfSlots, List.zipIdx_cons, hlength]
    split
    · next hseen =>
      have hpassed : ∀ u ∈ before ++ [t], ∃ v ∈ seen, v.SameSlot u := by
        intro u hu
        rcases List.mem_append.1 hu with hu | hu
        · exact h u hu
        · obtain rfl := List.mem_singleton.1 hu
          exact hseen
      obtain ⟨places, hsub, hmap, hfirst⟩ := ih hpassed
      exact ⟨places, hsub.cons _, hmap, by rwa [hshift]⟩
    · next hnew =>
      have hpassed : ∀ u ∈ before ++ [t], ∃ v ∈ t :: seen, v.SameSlot u := by
        intro u hu
        rcases List.mem_append.1 hu with hu | hu
        · obtain ⟨v, hv, hslot⟩ := h u hu
          exact ⟨v, List.mem_cons_of_mem t hv, hslot⟩
        · obtain rfl := List.mem_singleton.1 hu
          exact ⟨u, List.mem_cons_self, .refl u⟩
      obtain ⟨places, hsub, hmap, hfirst⟩ := ih hpassed
      refine ⟨(t, before.length) :: places, hsub.cons_cons _, by rw [List.map_cons, hmap], ?_⟩
      refine List.forall_mem_cons.2 ⟨fun u hu hut => ?_, by rwa [hshift]⟩
      rw [List.take_left' rfl] at hu
      obtain ⟨v, hv, hvu⟩ := h u hu
      exact hnew ⟨v, hv, hvu.trans hut⟩

/-! ## The slots still empty -/

variable {s : Scene}

/-- The empty slots are listed by the tags at whose places they come first, in the order of these
places. -/
theorem exists_places_unboundTags (s : Scene) : ∃ places : List (Tag × Nat),
    places.Sublist s.template.tags.zipIdx ∧ places.map Prod.fst = s.unboundTags ∧
      ∀ e ∈ places, ∀ u ∈ s.template.tags.take e.2, ¬ u.SameSlot e.1 := by
  have hnone : ∀ u ∈ ([] : List Tag), ∃ v ∈ ([] : List Tag), v.SameSlot u := by simp
  obtain ⟨places, hsub, hmap, hfirst⟩ := exists_places hnone s.template.tags
  refine ⟨places.filter fun e => (s.selection.bindingFor? e.1).isNone,
    List.filter_sublist.trans hsub, ?_, fun e he => hfirst e (List.mem_filter.1 he).1⟩
  rw [unboundTags, ← hmap, List.filter_map]
  rfl

/-- A slot of the template is listed exactly if nothing fills it. -/
theorem exists_mem_unboundTags_iff {t : Tag} (ht : t ∈ s.template.tags) :
    (∃ u ∈ s.unboundTags, u.SameSlot t) ↔ s.selection.bindingFor? t = none := by
  constructor
  · rintro ⟨u, hu, hslot⟩
    rw [← s.selection.bindingFor?_congr hslot]
    simpa using (List.mem_filter.1 hu).2
  · intro hnone
    obtain ⟨u, hu, -⟩ | ⟨u, hu, hslot⟩ := exists_mem_firstOfSlots [] ht
    · cases hu
    · refine ⟨u, List.mem_filter.2 ⟨hu, ?_⟩, hslot⟩
      rw [s.selection.bindingFor?_congr hslot, hnone]
      rfl

theorem unboundTags_sublist (s : Scene) : s.unboundTags.Sublist s.template.tags := by
  obtain ⟨places, hsub, hmap, -⟩ := s.exists_places_unboundTags
  have hfst := hsub.map Prod.fst
  rwa [hmap, List.zipIdx_map_fst] at hfst

theorem mem_unboundTags {t : Tag} (h : t ∈ s.unboundTags) :
    t ∈ s.template.tags ∧ s.selection.bindingFor? t = none := by
  refine ⟨s.unboundTags_sublist.mem h, ?_⟩
  simpa using (List.mem_filter.1 h).2

theorem pairwise_unboundTags (s : Scene) :
    s.unboundTags.Pairwise fun t u => ¬ t.SameSlot u ∧ t.sentence ≤ u.sentence :=
  ((pairwise_firstOfSlots [] s.template.tags).filter _).and
    (s.template.pairwise_tags.sublist s.unboundTags_sublist)

/-- **A scene is complete exactly if every tag of its template is filled.** -/
theorem isComplete_iff :
    s.isComplete = true ↔ ∀ t ∈ s.template.tags, (s.selection.bindingFor? t).isSome := by
  rw [isComplete, List.isEmpty_iff, List.eq_nil_iff_forall_not_mem]
  constructor
  · intro h t ht
    cases hb : s.selection.bindingFor? t with
    | some b => rfl
    | none =>
      obtain ⟨u, hu, -⟩ := (exists_mem_unboundTags_iff ht).2 hb
      exact absurd hu (h u)
  · intro h t ht
    obtain ⟨hmem, hnone⟩ := mem_unboundTags ht
    simpa [hnone] using h t hmem

/-- A complete scene has a template in which no name asks for two kinds. -/
theorem unmixed_of_isComplete (h : s.isComplete = true) : s.template.Unmixed := by
  intro t ht v hv hname
  obtain ⟨b, hb⟩ := Option.isSome_iff_exists.1 (isComplete_iff.1 h t ht)
  obtain ⟨c, hc⟩ := Option.isSome_iff_exists.1 (isComplete_iff.1 h v hv)
  obtain ⟨hget, hkind⟩ := Option.filter_eq_some_iff.1 hb
  obtain ⟨hget', hkind'⟩ := Option.filter_eq_some_iff.1 hc
  rw [hname] at hget
  obtain rfl := Option.some.inj (hget.symm.trans hget')
  rw [decide_eq_true_eq] at hkind hkind'
  exact hkind.symm.trans hkind'

end Scene

end StoryBlanks
