import StoryBlanks.Proofs.Scene.Run
import StoryBlanks.Proofs.Sentence.Around

/-!
# Every binding is shown

A binding stands on a tag that its sentence has, whatever was done to the scene and to the template
under it. So no binding is left over from another text: each puts the name of its entity in place of
its own tag when the scene is rendered.

* `Scene.Shows`: the rendered scene has a name in place of a tag.
* `Rooted.shows`: rooted bindings are shown; `shows_of_reachable`: so are those of every scene.
-/

namespace StoryBlanks.Scene

variable {s : Scene} {n : String} {b : Binding}

/-- The scene shows a name in place of a tag. Some literal of the tag parts its sentence in two; the
scene is rendered with the name between these two, each of them rendered for itself, and with the
other sentences around them. -/
def Shows (s : Scene) (tag : Tag) (name : String) : Prop :=
  ∃ front x back, s.template.sentences = front ++ x :: back ∧
    ∃ l ∈ x.located, l.tag = tag ∧ ∃ before literal after : String,
      x.text = before ++ literal ++ after ∧
      l.span = ⟨before.utf8ByteSize, (before ++ literal).utf8ByteSize⟩ ∧
      s.render = Text.join s.separator (front.map (·.render s.selection.nameFor?) ++
        (substitute s.selection.nameFor? before x.order ++ name ++
          substitute s.selection.nameFor? after x.order) ::
            back.map (·.render s.selection.nameFor?))

/-- A binding has the name to show in place of its tag. -/
theorem Rooted.nameFor?_eq (h : s.Rooted) (hb : s.selection.get? n = some b) :
    s.selection.nameFor? b.tag = some b.entity.name := by
  obtain ⟨hname, hkind⟩ := h.aligned n b hb
  have hbinding : s.selection.bindingFor? b.tag = some b := by
    rw [Selection.bindingFor?, hname, hb]
    exact Option.filter_eq_some_iff.2 ⟨rfl, by simpa using hkind⟩
  rw [Selection.nameFor?, hbinding, Option.map_some]

theorem Rooted.shows (h : s.Rooted) (hb : s.selection.get? n = some b) :
    s.Shows b.tag b.entity.name := by
  obtain ⟨x, hx, htag⟩ := List.mem_flatMap.1 (h.mem_tags n b hb)
  obtain ⟨l, hl, hltag⟩ := List.mem_map.1 htag
  obtain ⟨front, back, hsentences⟩ := List.append_of_mem hx
  obtain ⟨before, literal, after, htext, hspan, hrender⟩ := substitute_around hl
  refine ⟨front, x, back, hsentences, l, hl, hltag, before, literal, after, htext, hspan, ?_⟩
  have hshown : x.render s.selection.nameFor? =
      substitute s.selection.nameFor? before x.order ++ b.entity.name ++
        substitute s.selection.nameFor? after x.order := by
    rw [Sentence.render, hrender, hltag, h.nameFor?_eq hb, Option.getD_some]
  rw [render, Template.render, hsentences, List.map_append, List.map_cons, hshown]

/-- **No binding is left without its tag.** Whatever is done to a scene, each binding is kept under
the name of its tag, the sentence that the tag names has that very tag, the entity is of the tag's
kind, and the scene is rendered with the name of the entity in place of the tag. -/
theorem shows_of_reachable (hs : s.Reachable) (hb : s.selection.get? n = some b) :
    b.tag.name = n ∧ s.template.Has b.tag ∧ b.entity.kind = b.tag.kind ∧
      s.Shows b.tag b.entity.name := by
  obtain ⟨hname, hkind⟩ := hs.rooted.aligned n b hb
  have hhas := Template.mem_tags_iff.1 (hs.rooted.mem_tags n b hb)
  exact ⟨hname, hhas, hkind, hs.rooted.shows hb⟩

/-- A binding made at a later tag of its slot, which an edit moves to another sentence. -/
theorem shows_of_reachable_moved :
    let ada : Entity := { name := "Ada", kind := .character }
    let template : Template := ⟨"relay", ["Nobody waits.", "\x7bcreature:a\x7d follows.",
      "\x7bcharacter:b\x7d greets \x7bcharacter:a\x7d."]⟩
    let s := (ofTemplate template ⟨.strict, " "⟩).run
      [.bind ⟨.character, "a", 2⟩ ada, .updateSentence 0 "Now \x7bcharacter:a\x7d waits."]
    s.Reachable ∧ s.selection.get? "a" = some ⟨⟨.character, "a", 0⟩, ada⟩ ∧
      s.template.Has ⟨.character, "a", 0⟩ ∧ s.Shows ⟨.character, "a", 0⟩ "Ada" := by
  intro ada template s
  have hs : s.Reachable := ⟨template, _, _, rfl⟩
  have hb : s.selection.get? "a" = some ⟨⟨.character, "a", 0⟩, ada⟩ := by decide +kernel
  obtain ⟨-, hhas, -, hshows⟩ := shows_of_reachable hs hb
  exact ⟨hs, hb, hhas, hshows⟩

end StoryBlanks.Scene
