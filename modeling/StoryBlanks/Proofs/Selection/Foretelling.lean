import StoryBlanks.Proofs.Selection.Unique

/-!
# What the check before a binding foretells

A binding is checked for obstacles, and the same check can be made without binding. It names the
error of every binding that fails. Of those that succeed it is wrong about some: a tag that holds
the entity already keeps it without being checked, whoever else holds it too. Under the strict
policy nobody else does.

* `Selection.Foretold`: the check finds an obstacle exactly if the binding fails.
* `Selection.Recurs`: the tag holds the entity, and so does another name, no earlier than the tag.
* `foretold_iff`: when a binding is foretold, after whatever was done to the selection.
* `not_foretold_recurring`: a binding that is not.
-/

namespace StoryBlanks.Selection

variable {s : Selection} {tag : Tag} {entity : Entity}

/-- The check finds no obstacle exactly if the binding succeeds. -/
def Foretold (s : Selection) (tag : Tag) (entity : Entity) : Prop :=
  s.obstacle? tag entity = none ↔ (s.bind tag entity).isOk = true

/-- The tag holds the entity, and another name holds it in the sentence of the tag or a later one.
-/
def Recurs (s : Selection) (tag : Tag) (entity : Entity) : Prop :=
  s.Holds tag entity ∧ ∃ n b, s.get? n = some b ∧ n ≠ tag.name ∧ b.entity.name = entity.name ∧
    tag.sentence ≤ b.tag.sentence

/-- A tag that holds the entity meets no obstacle, unless the policy lets entities recur and this one
does. -/
theorem Unique.obstacle?_of_holds (h : s.Unique) (hh : s.Holds tag entity) :
    s.obstacle? tag entity = none ↔ ¬ (s.policy = .downstream ∧ s.Recurs tag entity) := by
  constructor
  · rintro ho ⟨hp, -, n, c, hc, hn, he, hle⟩
    refine (obstacle?_eq_none.1 ho).2 n c hc hn he ?_
    rw [hp]
    exact hle
  · intro hnot
    obtain ⟨b, hb, hname, hslot, hkind⟩ := hh
    refine obstacle?_eq_none.2 ⟨hkind, fun n c hc hn he hblocks => hnot ?_⟩
    -- two names hold the entity, so the policy is the one that admits this
    obtain ⟨hp, -⟩ := h n tag.name c b hc hb hn (he.trans hname.symm)
    rw [hp] at hblocks
    exact ⟨hp, ⟨b, hb, hname, hslot, hkind⟩, n, c, hc, hn, he, hblocks⟩

theorem Unique.foretold_iff_not_recurs (h : s.Unique) :
    s.Foretold tag entity ↔ ¬ (s.policy = .downstream ∧ s.Recurs tag entity) := by
  rw [Foretold, isOk_bind_iff]
  by_cases hh : s.Holds tag entity
  · rw [← h.obstacle?_of_holds hh]
    exact ⟨fun hiff => hiff.2 (.inl hh), fun ho => ⟨fun _ => .inl hh, fun _ => ho⟩⟩
  · refine iff_of_true ⟨.inr, fun hor => hor.resolve_left hh⟩ fun hrecurs => hh hrecurs.2.1

/-- **When a check foretells a binding.** Whatever was done to a selection, a binding that fails
does so with the very error that the check gives, and one that meets no obstacle succeeds. The
check is right about a binding unless the policy lets entities recur, the tag holds the entity
already, and another name holds it in the same sentence or a later one: then the check finds that
name in the way, and the binding succeeds without it. So under the strict policy it is always
right. -/
theorem foretold_iff (policy : ReusePolicy) (ops : List Op) (tag : Tag) (entity : Entity) :
    (∀ e, ((empty policy).run ops).bind tag entity = .error e →
      ((empty policy).run ops).obstacle? tag entity = some e) ∧
    (((empty policy).run ops).obstacle? tag entity = none →
      (((empty policy).run ops).bind tag entity).isOk = true) ∧
    (((empty policy).run ops).Foretold tag entity ↔
      ¬ (policy = .downstream ∧ ((empty policy).run ops).Recurs tag entity)) := by
  have hunique : ((Selection.empty policy).run ops).Unique := (Unique.empty policy).run ops
  have hpolicy : ((Selection.empty policy).run ops).policy = policy := policy_run ..
  refine ⟨fun e he => (bind_eq_error he).2, fun ho => isOk_bind_iff.2 (.inr ho), ?_⟩
  rw [hunique.foretold_iff_not_recurs, hpolicy]

/-- **An entity that recurs.** The early tag holds her and would keep her; but as she has come again
since, the check finds the later tag in the way. -/
theorem not_foretold_recurring :
    let ada : Entity := { name := "Ada", kind := .character }
    let early : Tag := ⟨.character, "early", 0⟩
    let late : Tag := ⟨.character, "late", 1⟩
    let s := (empty .downstream).run [.bind early ada, .bind late ada]
    s.bind early ada = .ok (.unchanged, s) ∧
      s.obstacle? early ada = some (.alreadyUsed "Ada" "late") ∧ ¬ s.Foretold early ada := by
  intro ada early late s
  have hbind : s.bind early ada = .ok (.unchanged, s) := rfl
  have hobstacle : s.obstacle? early ada = some (.alreadyUsed "Ada" "late") := by decide +kernel
  refine ⟨hbind, hobstacle, fun hforetold => ?_⟩
  rw [Foretold, hbind, hobstacle] at hforetold
  exact absurd (hforetold.2 rfl) (by simp)

end StoryBlanks.Selection
