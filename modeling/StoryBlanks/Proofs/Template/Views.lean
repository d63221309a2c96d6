import Mathlib.Data.List.Basic
import StoryBlanks.Proofs.Scene.Slots
import StoryBlanks.RecordText.Stored
import StoryBlanks.Template.Cached

/-!
# What a template shows, whatever it keeps

The tags of a template are asked for in several ways, and each of these is answered from what the
sentences keep. What they keep is fresh after every edit, copy and question, so that the answers
are those of the name and the texts alone; and these answers agree with each other.

* `CachedTemplate.Reached`: how a template comes about; `asked_after`: what a question does to it.
* `CachedTemplate.Sound`: the invariant; `Reached.sound`: it holds of whatever is reached.
* `Sound.tags_eq`, `Sound.findTag_eq`, …: each answer is that of the plain template.
* `Sound.consistent`: how the answers agree.
-/

namespace StoryBlanks

/-! ## Views of a plain template -/

namespace Template

variable {t : Template}

theorem tags_eq_flatMap_tagsBySentence (t : Template) :
    t.tags = t.tagsBySentence.flatMap Prod.snd := by
  rw [tags, tagsBySentence]
  induction t.sentences with
  | nil => rfl
  | cons s ss ih =>
    rw [List.flatMap_cons, List.filterMap_cons, ih]
    cases hs : s.tags with
    | nil => rfl
    | cons tag tags => rfl

theorem pairwise_tagsBySentence (t : Template) :
    t.tagsBySentence.Pairwise fun e f => e.1 < f.1 := by
  refine t.pairwise_sentences.filterMap _ fun a b hab e he f hf => ?_
  split at he
  · cases he
  · split at hf
    · cases hf
    · cases he
      cases hf
      exact hab

theorem mem_tagsBySentence {order : Nat} {tags : List Tag} : (order, tags) ∈ t.tagsBySentence ↔
    ∃ s, t.sentence? order = some s ∧ s.tags = tags ∧ tags ≠ [] := by
  simp only [tagsBySentence, List.mem_filterMap]
  constructor
  · rintro ⟨s, hs, he⟩
    split at he
    · cases he
    · next hne =>
      cases he
      exact ⟨s, mem_sentences_iff.1 hs, rfl, by simpa using hne⟩
  · rintro ⟨s, hs, rfl, hne⟩
    have horder : s.order = order := by
      rw [sentence?, Option.map_eq_some_iff] at hs
      obtain ⟨text, -, rfl⟩ := hs
      rfl
    refine ⟨s, mem_sentences_iff.2 (horder ▸ hs), ?_⟩
    rw [if_neg (by simpa using hne), horder]

end Template

/-! ## Sentences that are asked -/

namespace CachedSentence

variable {s : CachedSentence}

/-- What the sentence keeps is what would be read now. -/
def Fresh (s : CachedSentence) : Prop := ∀ tags ∈ s.kept, tags = locate s.text s.order

/-- A sentence that was not asked keeps nothing. -/
theorem fresh_unasked (order : Nat) (text : String) : Fresh ⟨order, text, none⟩ := by
  intro tags h
  cases h

theorem plain_located (s : CachedSentence) : s.located.2.plain = s.plain := by
  unfold located
  split <;> rfl

theorem Fresh.located (h : s.Fresh) : s.located.2.Fresh := by
  unfold CachedSentence.located
  split
  · exact h
  · rintro tags ⟨⟩
    rfl

theorem Fresh.located_eq (h : s.Fresh) : s.located.1 = s.plain.located := by
  unfold CachedSentence.located
  split
  · next tags hkept => exact h tags hkept
  · rfl

theorem snd_tags (s : CachedSentence) : s.tags.2 = s.located.2 := rfl

theorem Fresh.tags_eq (h : s.Fresh) : s.tags.1 = s.plain.tags :=
  congrArg (List.map LocatedTag.tag) h.located_eq

/-- A sentence that has been asked gives what it gave. -/
theorem located_located (s : CachedSentence) : s.located.2.located = s.located := by
  cases hs : s.kept <;> simp [located, hs]

theorem snd_listed? (s : CachedSentence) : s.listed?.2 = s.located.2 := by
  unfold listed?
  dsimp only
  split
  · rfl
  · rw [snd_tags, located_located]

theorem Fresh.listed?_eq (h : s.Fresh) : s.listed?.1 =
    if s.plain.tags.isEmpty then none else some (s.plain.order, s.plain.tags) := by
  have hempty : s.located.1.isEmpty = s.plain.tags.isEmpty := by
    rw [← h.tags_eq]
    simp [tags]
  unfold listed?
  dsimp only
  rw [hempty]
  split
  · rfl
  · rw [h.located.tags_eq, plain_located, snd_tags, located_located,
      ← congrArg Sentence.order s.plain_located]
    rfl

end CachedSentence

/-! ## Templates that are asked -/

namespace CachedTemplate

variable {t u : CachedTemplate}

/-- Something that a template is asked. -/
inductive Question
  | tags
  | tagsBySentence
  | hasTag (name : String)
  | findTag (name : String)
  | locatedAt (order : Nat)

/-- The template after a question. -/
def after (t : CachedTemplate) : Question → CachedTemplate
  | .tags => t.tags.2
  | .tagsBySentence => t.tagsBySentence.2
  | .hasTag name => (t.hasTag name).2
  | .findTag name => (t.findTag name).2
  | .locatedAt order => (t.locatedAt order).2

/-- How a template comes about: from a name, from texts or from a record, by edits and copies, and
by what is asked in between. A failed edit leaves the template as it was. -/
inductive Reached : CachedTemplate → Prop
  | new (name : String) : Reached { name }
  | ofTexts (name : String) (texts : List String) : Reached (ofTexts name texts)
  | loaded {record : String} {source : Template} (h : RecordText.read? Template record = some source) :
    Reached (.ofTexts source.name source.texts)
  | add {t : CachedTemplate} (h : Reached t) (text : String) : Reached (t.add text)
  | update {t u : CachedTemplate} (h : Reached t) {order : Nat} {text : String}
    (hupdate : t.update order text = .ok u) : Reached u
  | copy {t : CachedTemplate} (h : Reached t) : Reached t.copy
  | after {t : CachedTemplate} (h : Reached t) (q : Question) : Reached (t.after q)

/-- The sentences are the same but for what they keep, and what is kept stays fresh. -/
structure Asked (ss us : List CachedSentence) : Prop where
  plain_eq : us.map CachedSentence.plain = ss.map CachedSentence.plain
  fresh : (∀ s ∈ ss, s.Fresh) → ∀ s ∈ us, s.Fresh

theorem Asked.refl (ss : List CachedSentence) : Asked ss ss := ⟨rfl, id⟩

/-- A pass that asks each sentence once. -/
theorem asked_map (ss : List CachedSentence) : Asked ss (ss.map (·.located.2)) := by
  refine ⟨?_, fun h u hu => ?_⟩
  · rw [List.map_map]
    exact List.map_congr_left fun s _ => s.plain_located
  · obtain ⟨s, hs, rfl⟩ := List.mem_map.1 hu
    exact (h s hs).located

/-- A pass that ends early. -/
theorem asked_pickFirst {α : Type} (pick : List Tag → Option α) (ss : List CachedSentence) :
    Asked ss (pickFirst pick ss).2 := by
  induction ss with
  | nil => exact .refl []
  | cons s ss ih =>
    have hfresh : (∀ r ∈ s :: ss, r.Fresh) → s.tags.2.Fresh ∧ ∀ r ∈ ss, r.Fresh := fun h =>
      ⟨(h s List.mem_cons_self).located, fun r hr => h r (List.mem_cons_of_mem _ hr)⟩
    rw [pickFirst]
    dsimp only
    split
    · refine ⟨congrArg (· :: _) s.plain_located, fun h => ?_⟩
      exact List.forall_mem_cons.2 (hfresh h)
    · refine ⟨congrArg₂ List.cons s.plain_located ih.plain_eq, fun h => ?_⟩
      exact List.forall_mem_cons.2 ⟨(hfresh h).1, ih.fresh (hfresh h).2⟩

theorem asked_set {ss : List CachedSentence} {order : Nat} {s : CachedSentence}
    (h : ss[order]? = some s) : Asked ss (ss.set order s.located.2) := by
  refine ⟨?_, fun hfresh u hu => ?_⟩
  · refine List.ext_getElem? fun i => ?_
    rw [List.map_set, List.getElem?_set, s.plain_located]
    split
    · next hi =>
      subst hi
      rw [List.getElem?_map, h]
      simp [(List.getElem?_eq_some_iff.1 h).1]
    · rfl
  · rcases List.mem_or_eq_of_mem_set hu with hu | rfl
    · exact hfresh u hu
    · exact (hfresh s (List.mem_of_getElem? h)).located

/-- **A question changes nothing but what is kept.** -/
theorem asked_after (t : CachedTemplate) (q : Question) :
    (t.after q).name = t.name ∧ Asked t.sentences (t.after q).sentences := by
  cases q with
  | tags => exact ⟨rfl, asked_map _⟩
  | tagsBySentence =>
    have hentries : t.sentences.map (·.listed?.2) = t.sentences.map (·.located.2) :=
      List.map_congr_left fun s _ => s.snd_listed?
    refine ⟨rfl, ?_⟩
    change Asked t.sentences (t.sentences.map (·.listed?.2))
    rw [hentries]
    exact asked_map _
  | hasTag name => exact ⟨rfl, asked_pickFirst _ _⟩
  | findTag name => exact ⟨rfl, asked_pickFirst _ _⟩
  | locatedAt order =>
    rw [after, locatedAt]
    split
    · exact ⟨rfl, .refl _⟩
    · next s hs => exact ⟨rfl, asked_set hs⟩

theorem plain_after (t : CachedTemplate) (q : Question) : (t.after q).plain = t.plain := by
  obtain ⟨hname, hasked⟩ := asked_after t q
  have htexts : (t.after q).sentences.map (·.text) = t.sentences.map (·.text) := by
    have hplain := congrArg (List.map Sentence.text) hasked.plain_eq
    rwa [List.map_map, List.map_map] at hplain
  rw [plain, hname, htexts, plain]

/-! ## The invariant -/

/-- Each sentence stands at its place, and what it keeps is fresh. -/
structure Sound (t : CachedTemplate) : Prop where
  plain_eq : t.sentences.map CachedSentence.plain = t.plain.sentences
  fresh : ∀ s ∈ t.sentences, s.Fresh

theorem Sound.plain_of_getElem? (h : t.Sound) {i : Nat} {s : CachedSentence}
    (hs : t.sentences[i]? = some s) : s.plain = ⟨i, s.text⟩ := by
  have hi := congrArg (·[i]?) h.plain_eq
  simpa [Template.sentences, plain, hs, eq_comm] using hi

theorem Sound.after (h : t.Sound) (q : Question) : (t.after q).Sound := by
  have hasked := (asked_after t q).2
  exact ⟨by rw [hasked.plain_eq, h.plain_eq, plain_after], hasked.fresh h.fresh⟩

theorem Sound.add (h : t.Sound) (text : String) : (t.add text).Sound := by
  refine ⟨?_, fun s hs => ?_⟩
  · have hplain := h.plain_eq
    simp only [Template.sentences, plain] at hplain
    simp only [CachedTemplate.add, plain, Template.sentences, List.map_append, List.mapIdx_append,
      hplain]
    simp [CachedSentence.plain]
  · rcases List.mem_append.1 hs with hs | hs
    · exact h.fresh s hs
    · obtain rfl := List.mem_singleton.1 hs
      exact CachedSentence.fresh_unasked _ _

theorem sound_new (name : String) : Sound { name } := ⟨rfl, by simp⟩

theorem sound_ofTexts (name : String) (texts : List String) : (ofTexts name texts).Sound := by
  suffices hfold : ∀ t : CachedTemplate, t.Sound → (texts.foldl CachedTemplate.add t).Sound from
    hfold _ (sound_new name)
  induction texts with
  | nil => exact fun t h => h
  | cons text texts ih => exact fun t h => ih _ (h.add text)

theorem Sound.update (h : t.Sound) {order : Nat} {text : String}
    (hupdate : t.update order text = .ok u) : u.Sound := by
  unfold CachedTemplate.update at hupdate
  split at hupdate
  · cases hupdate
  · next s hs =>
    cases hupdate
    have horder : s.order = order := congrArg Sentence.order (h.plain_of_getElem? hs)
    refine ⟨?_, fun r hr => ?_⟩
    · have hplain := h.plain_eq
      simp only [Template.sentences, plain] at hplain
      simp only [plain, Template.sentences, List.map_set, List.mapIdx_set, hplain]
      rw [CachedSentence.setText, CachedSentence.plain, horder]
    · rcases List.mem_or_eq_of_mem_set hr with hr | rfl
      · exact h.fresh r hr
      · exact CachedSentence.fresh_unasked _ _

/-- A copy is what it is a copy of. -/
theorem copy_eq (t : CachedTemplate) : t.copy = t := by
  have hcopy : CachedSentence.copy = id := rfl
  rw [copy, hcopy, List.map_id]

/-- **Whatever is done to a template, it stays sound.** -/
theorem Reached.sound (h : t.Reached) : t.Sound := by
  induction h with
  | new name => exact sound_new name
  | ofTexts name texts => exact sound_ofTexts name texts
  | loaded _ => exact sound_ofTexts ..
  | add _ text ih => exact ih.add text
  | update _ hupdate ih => exact ih.update hupdate
  | copy _ ih => rwa [copy_eq]
  | after _ q ih => exact ih.after q

/-! ## Answers -/

theorem pickFirst_eq {α : Type} (pick : List Tag → Option α) {ss : List CachedSentence}
    (h : ∀ s ∈ ss, s.Fresh) :
    (pickFirst pick ss).1 = (ss.map CachedSentence.plain).findSome? fun s => pick s.tags := by
  induction ss with
  | nil => rfl
  | cons s ss ih =>
    obtain ⟨hs, hss⟩ := List.forall_mem_cons.1 h
    rw [pickFirst, List.map_cons, List.findSome?_cons, ← hs.tags_eq, ← ih hss]
    dsimp only
    split <;> next hpick => rw [hpick]

theorem Sound.tags_eq (h : t.Sound) : t.tags.1 = t.plain.tags := by
  rw [Template.tags, ← h.plain_eq, List.flatMap_map]
  exact congrArg List.flatten (List.map_congr_left fun s hs => (h.fresh s hs).tags_eq)

theorem Sound.tagsBySentence_eq (h : t.Sound) : t.tagsBySentence.1 = t.plain.tagsBySentence := by
  have hentries : t.sentences.filterMap (·.listed?.1) = t.plain.tagsBySentence := by
    rw [Template.tagsBySentence, ← h.plain_eq, List.filterMap_map]
    exact List.filterMap_congr fun s hs => (h.fresh s hs).listed?_eq
  change Ordered.ofEntries (t.sentences.filterMap (·.listed?.1)) = _
  rw [hentries, Ordered.ofEntries_of_increasing t.plain.pairwise_tagsBySentence]

theorem Sound.findTag_eq (h : t.Sound) (name : String) :
    (t.findTag name).1 = t.plain.findTag? name := by
  rw [Template.findTag?, Template.tags, List.find?_flatMap, ← h.plain_eq]
  exact pickFirst_eq _ h.fresh

theorem Sound.hasTag_eq (h : t.Sound) (name : String) :
    (t.hasTag name).1 = t.plain.hasTag name := by
  have hfound := congrArg Option.isSome
    (pickFirst_eq (fun tags => if tags.any fun tag => tag.name = name then some () else none) h.fresh)
  rw [h.plain_eq] at hfound
  refine hfound.trans ?_
  rw [Template.hasTag, Bool.eq_iff_iff]
  simp

theorem Sound.locatedAt_eq (h : t.Sound) (order : Nat) :
    (t.locatedAt order).1 = (t.plain.sentence? order).map Sentence.located := by
  rw [Template.sentence?_eq, ← h.plain_eq, List.getElem?_map, locatedAt]
  split
  · next hnone => rw [hnone]; rfl
  · next s hs =>
    rw [hs]
    exact congrArg some (h.fresh s (List.mem_of_getElem? hs)).located_eq

/-! ## Edits and comparisons -/

theorem plain_add (t : CachedTemplate) (text : String) : (t.add text).plain = t.plain.add text := by
  simp [add, plain, Template.add]

theorem map_plain_update (t : CachedTemplate) (order : Nat) (text : String) :
    (t.update order text).map plain = t.plain.update order text := by
  rw [update, Template.update]
  split
  · next hnone =>
    have hle := List.getElem?_eq_none_iff.1 hnone
    rw [if_neg (by simpa [plain] using hle)]
    simp [Except.map, plain]
  · next s hs =>
    have hlt := (List.getElem?_eq_some_iff.1 hs).1
    rw [if_pos (by simpa [plain] using hlt)]
    simp [Except.map, plain, CachedSentence.setText]

theorem Sound.same_iff (h : t.Sound) (hu : u.Sound) : t.Same u ↔ t.plain = u.plain := by
  rw [Same, h.plain_eq, hu.plain_eq]
  constructor
  · rintro ⟨hname, hsentences⟩
    have htexts := congrArg (List.map Sentence.text) hsentences
    rw [Template.map_text_sentences, Template.map_text_sentences] at htexts
    rw [plain, plain]
    exact congrArg₂ Template.mk hname htexts
  · intro hplain
    exact ⟨congrArg Template.name hplain, congrArg Template.sentences hplain⟩

theorem Same.comm : t.Same u ↔ u.Same t := and_congr eq_comm eq_comm

theorem same_after_iff (t u : CachedTemplate) (q : Question) : (t.after q).Same u ↔ t.Same u := by
  obtain ⟨hname, hasked⟩ := asked_after t q
  rw [Same, hname, hasked.plain_eq, Same]

/-! ## How the answers agree -/

/-- The answers of a template agree with its texts, with each other and with those of any template
that is equal to it. -/
structure Consistent (t : CachedTemplate) : Prop where
  /-- Places are counted from zero. -/
  order_eq : ∀ i (s : CachedSentence), t.sentences[i]? = some s → s.order = i
  /-- A sentence has the tags of the text that it has now. -/
  located_eq : ∀ i (s : CachedSentence), t.sentences[i]? = some s →
    s.located.1 = locate s.text i
  /-- The tags are those of the sentences, one sentence after another. -/
  tags_eq : t.tags.1 = t.tagsBySentence.1.flatMap Prod.snd
  increasing : t.tagsBySentence.1.Pairwise fun e f => e.1 < f.1
  /-- The sentences that have tags, and no others, are listed by their places. -/
  mem_tagsBySentence : ∀ order tags, (order, tags) ∈ t.tagsBySentence.1 ↔
    ∃ s, t.sentences[order]? = some s ∧ s.tags.1 = tags ∧ tags ≠ []
  findTag_eq : ∀ name, (t.findTag name).1 = t.tags.1.find? fun tag => tag.name = name
  hasTag_eq : ∀ name, (t.hasTag name).1 = (t.findTag name).1.isSome
  /-- A tag stands in the sentence that it names. -/
  exists_sentence : ∀ tag ∈ t.tags.1, ∃ s, t.sentences[tag.sentence]? = some s ∧ tag ∈ s.tags.1
  /-- Templates are equal if their names and texts are. -/
  same_iff : ∀ u : CachedTemplate, u.Reached → (t.Same u ↔ t.plain = u.plain)
  /-- What is asked makes no template equal to another, or different from it. -/
  same_after : ∀ (u : CachedTemplate) (q r : Question), (t.after q).Same (u.after r) ↔ t.Same u

theorem Sound.sentence?_eq (h : t.Sound) (order : Nat) :
    t.plain.sentence? order = t.sentences[order]?.map CachedSentence.plain := by
  rw [Template.sentence?_eq, ← h.plain_eq, List.getElem?_map]

/-- The tags of the sentence at a place. -/
theorem Sound.exists_sentence_iff (h : t.Sound) {order : Nat} {P : List Tag → Prop} :
    (∃ s, t.plain.sentence? order = some s ∧ P s.tags) ↔
      ∃ s, t.sentences[order]? = some s ∧ P s.tags.1 := by
  simp only [h.sentence?_eq, Option.map_eq_some_iff]
  constructor
  · rintro ⟨_, ⟨s, hs, rfl⟩, hp⟩
    exact ⟨s, hs, (h.fresh s (List.mem_of_getElem? hs)).tags_eq ▸ hp⟩
  · rintro ⟨s, hs, hp⟩
    exact ⟨s.plain, ⟨s, hs, rfl⟩, (h.fresh s (List.mem_of_getElem? hs)).tags_eq ▸ hp⟩

theorem Sound.consistent (h : t.Sound) : t.Consistent where
  order_eq i s hs := congrArg Sentence.order (h.plain_of_getElem? hs)
  located_eq i s hs := by
    rw [(h.fresh s (List.mem_of_getElem? hs)).located_eq, h.plain_of_getElem? hs]
    rfl
  tags_eq := by rw [h.tags_eq, h.tagsBySentence_eq, Template.tags_eq_flatMap_tagsBySentence]
  increasing := by
    rw [h.tagsBySentence_eq]
    exact t.plain.pairwise_tagsBySentence
  mem_tagsBySentence order tags := by
    rw [h.tagsBySentence_eq, Template.mem_tagsBySentence]
    exact h.exists_sentence_iff (P := fun found => found = tags ∧ tags ≠ [])
  findTag_eq name := by rw [h.findTag_eq, h.tags_eq, Template.findTag?]
  hasTag_eq name := by rw [h.hasTag_eq, h.findTag_eq, Template.findTag?_isSome_iff]
  exists_sentence tag htag := by
    rw [h.tags_eq, Template.mem_tags_iff] at htag
    exact h.exists_sentence_iff.1 htag
  same_iff u hu := h.same_iff hu.sound
  same_after u q r := by rw [same_after_iff, Same.comm, same_after_iff, Same.comm]

end CachedTemplate

end StoryBlanks
