import StoryBlanks.Proofs.Scene.Run
import StoryBlanks.Proofs.Template.Views
import StoryBlanks.Scene.Cached

/-!
# Binding by what the template answers

A scene asks its template before it binds. As the answers do not depend on what is kept, a binding
ends as it does in the plain scene; so a name can be looked up first and the tag be bound then, or
both be done in one go.

* `CachedScene.Follows`: an attempt gives and leaves what the attempt in the plain scene does.
* `follows_bind`, `follows_bindByName`: both ways to bind.
* `views_of_reached`: what a template that was edited, copied and asked shows, and binding in it.
-/

namespace StoryBlanks

namespace CachedScene

variable {s : CachedScene} {entity : Entity}

/-- The attempt gives what it gives in the plain scene, and leaves the same. -/
def Follows (attempt : Except SceneError BindOutcome × CachedScene) (s : Scene)
    (plainAttempt : Except SceneError (BindOutcome × Scene)) : Prop :=
  attempt.1 = plainAttempt.map Prod.fst ∧ attempt.2.plain = s.afterBind plainAttempt

theorem follows_withSelection (s : CachedScene)
    (change : Except BindError (BindOutcome × Selection)) :
    Follows (s.withSelection change) s.plain (s.plain.withSelection change) := by
  cases change <;> exact ⟨rfl, rfl⟩

/-- Asking leaves the plain scene as it is. -/
theorem plain_after (s : CachedScene) (q : CachedTemplate.Question) :
    plain { s with template := s.template.after q } = s.plain := by
  rw [plain, plain, s.template.plain_after]

theorem has_iff (h : s.template.Sound) (tag : Tag) :
    (∃ located ∈ (s.template.locatedAt tag.sentence).1, tag ∈ located.map (·.tag)) ↔
      s.plain.template.Has tag := by
  simp only [h.locatedAt_eq, Option.mem_def, Option.map_eq_some_iff, Template.Has]
  constructor
  · rintro ⟨_, ⟨sentence, hs, rfl⟩, htag⟩
    exact ⟨sentence, hs, htag⟩
  · rintro ⟨sentence, hs, htag⟩
    exact ⟨_, ⟨sentence, hs, rfl⟩, htag⟩

theorem follows_bind (h : s.template.Sound) (tag : Tag) (entity : Entity) :
    Follows (s.bind tag entity) s.plain (s.plain.bind tag entity) := by
  have hplain := s.plain_after (.locatedAt tag.sentence)
  rw [bind, Scene.bind]
  dsimp only
  by_cases hhas : s.plain.template.Has tag
  · rw [if_pos ((has_iff h tag).2 hhas), if_pos hhas, ← hplain]
    exact follows_withSelection _ _
  · rw [if_neg (mt (has_iff h tag).1 hhas), if_neg hhas]
    exact ⟨rfl, hplain⟩

theorem follows_bindByName (h : s.template.Sound) (name : String) (entity : Entity) :
    Follows (s.bindByName name entity) s.plain (s.plain.bindByName name entity) := by
  have hplain := s.plain_after (.findTag name)
  rw [bindByName, Scene.bindByName]
  dsimp only
  have htemplate : s.plain.template = s.template.plain := rfl
  rw [h.findTag_eq, htemplate]
  cases s.template.plain.findTag? name with
  | none => exact ⟨rfl, hplain⟩
  | some tag =>
    dsimp only
    rw [← hplain]
    exact follows_withSelection _ _

end CachedScene

/-- The first tag of a name is a tag of the template. -/
theorem Scene.bindByName_eq_bind {s : Scene} {name : String} {tag : Tag}
    (h : s.template.findTag? name = some tag) (entity : Entity) :
    s.bindByName name entity = s.bind tag entity := by
  have hhas : s.template.Has tag := Template.mem_tags_iff.1 (Template.mem_tags_of_findTag? h)
  rw [bindByName, h, bind, if_pos hhas]

open CachedTemplate in
/-- **What a template shows, whatever was done to it.** However a template came about and was edited,
copied and asked, its answers agree with the texts that it has now, with each other and with those
of any equal template; an edit does to these texts what it does to a plain template, and fails where
that fails; and to bind an entity by a name is to bind it to the tag that the name is answered with.
-/
theorem views_of_reached {t : CachedTemplate} (h : t.Reached) :
    t.Consistent ∧
    (∀ text, (t.add text).plain = t.plain.add text) ∧
    (∀ order text, (t.update order text).map plain = t.plain.update order text) ∧
    ∀ (s : CachedScene) (name : String) (entity : Entity) (tag : Tag), s.template = t →
      (t.findTag name).1 = some tag →
        (s.bindByName name entity).1 = (s.bind tag entity).1 ∧
          (s.bindByName name entity).2.plain = (s.bind tag entity).2.plain := by
  have hsound := h.sound
  refine ⟨hsound.consistent, t.plain_add, t.map_plain_update, ?_⟩
  rintro s name entity tag rfl hfind
  rw [hsound.findTag_eq] at hfind
  have hplain : s.plain.bindByName name entity = s.plain.bind tag entity :=
    Scene.bindByName_eq_bind hfind entity
  obtain ⟨hname, hnameLeft⟩ := CachedScene.follows_bindByName hsound name entity
  obtain ⟨hbind, hbindLeft⟩ := CachedScene.follows_bind hsound tag entity
  exact ⟨by rw [hname, hbind, hplain], by rw [hnameLeft, hbindLeft, hplain]⟩

/-- A sentence that was asked, edited, copied and asked again shows its new tags, and an entity is
bound by name to one of them. -/
theorem views_of_reached_edited :
    let text := "\x7bcreature:dog\x7d barks at \x7bcharacter:hero\x7d."
    let start := CachedTemplate.ofTexts "road" ["\x7bcharacter:hero\x7d waits.", "Nobody comes."]
    let edited : CachedTemplate := ⟨"road", [⟨0, text, none⟩, ⟨1, "Nobody comes.", some []⟩]⟩
    let t := edited.copy.after (.hasTag "dog")
    let s : CachedScene := ⟨t, .empty .strict, " "⟩
    let ada : Entity := { name := "Ada", kind := .character }
    (start.after .tags).update 0 text = .ok edited ∧ t.Reached ∧
      t.tags.1 = [⟨.creature, "dog", 0⟩, ⟨.character, "hero", 0⟩] ∧ t.Same edited ∧
      (s.bindByName "hero" ada).1 = (s.bind ⟨.character, "hero", 0⟩ ada).1 := by
  intro text start edited t s ada
  have hupdate : (start.after .tags).update 0 text = .ok edited := by decide +kernel
  have hstart : start.Reached := .ofTexts ..
  have hedited : edited.Reached := (hstart.after .tags).update hupdate
  have hreached : t.Reached := hedited.copy.after (.hasTag "dog")
  obtain ⟨hconsistent, -, -, hbind⟩ := views_of_reached hreached
  have htags : t.tagsBySentence.1.flatMap Prod.snd =
      [⟨.creature, "dog", 0⟩, ⟨.character, "hero", 0⟩] := by decide +kernel
  have hfind : (t.findTag "hero").1 = some ⟨.character, "hero", 0⟩ := by decide +kernel
  refine ⟨hupdate, hreached, hconsistent.tags_eq.trans htags, ?_, ?_⟩
  · exact (hconsistent.same_iff edited hedited).2 (edited.copy.plain_after _)
  · exact (hbind s "hero" ada _ rfl hfind).1

end StoryBlanks
