import StoryBlanks.Proofs.Scene.Slots
import StoryBlanks.Proofs.Selection.Usage
import StoryBlanks.Scene.AutoFill

/-!
# Runs of a scene

A scene begins with a template and nothing bound, and changes by bindings, the ways back, edits,
other templates and random fills. Whatever is done, in whatever order and with whatever success,
the bindings stay rooted in the template of the moment.

* `Scene.step`, `Scene.run`, `Scene.Reachable`: operations, runs, and what runs reach.
* `Scene.Rooted`: the invariant; `Rooted.step`: every operation keeps it.
* `Reachable.rooted`: it holds of every scene that is reached.
-/

namespace StoryBlanks.Scene

/-- Something that is done to a scene. -/
inductive Op : Type 1
  | bind (tag : Tag) (entity : Entity)
  | bindByName (name : String) (entity : Entity)
  | unbind (name : String)
  | clear
  | updateSentence (order : Nat) (text : String)
  | replaceTemplate (template : Template)
  /-- A fill with any way to choose, a random one or another. -/
  | fill {γ : Type} (choose : Random.Chooser γ) (catalog : Catalog) (g : γ)

/-- The scene that an attempt to bind leaves; a failure leaves the one from before. -/
def afterBind (s : Scene) : Except SceneError (BindOutcome × Scene) → Scene
  | .ok (_, t) => t
  | .error _ => s

/-- The scene that an edit leaves; a failure leaves the one from before. -/
def afterEdit (s : Scene) : Except SceneError Scene → Scene
  | .ok t => t
  | .error _ => s

/-- The scene after one operation. -/
def step (s : Scene) : Op → Scene
  | .bind tag entity => s.afterBind (s.bind tag entity)
  | .bindByName name entity => s.afterBind (s.bindByName name entity)
  | .unbind name => (s.unbind name).2
  | .clear => s.clear
  | .updateSentence order text => s.afterEdit (s.updateSentence order text)
  | .replaceTemplate template => s.replaceTemplate template
  | .fill choose catalog g => (s.fillWith choose catalog g).2

/-- The scene after a run of operations. -/
def run (s : Scene) (ops : List Op) : Scene := ops.foldl step s

/-- Some run leads here from a scene with nothing bound. -/
def Reachable (s : Scene) : Prop :=
  ∃ template settings ops, s = (ofTemplate template settings).run ops

variable {s : Scene}

/-- What every operation of a run preserves holds at its end. -/
theorem run_induction {P : Scene → Prop} {ops : List Op}
    (hstep : ∀ r op, op ∈ ops → P r → P (r.step op)) (h : P s) : P (s.run ops) := by
  induction ops generalizing s with
  | nil => exact h
  | cons op ops ih =>
    exact ih (fun r o ho => hstep r o (List.mem_cons_of_mem _ ho)) (hstep s op List.mem_cons_self h)

/-- What every operation preserves holds of every scene that is reached. -/
theorem Reachable.induction {P : Scene → Prop} (h : s.Reachable)
    (hstart : ∀ template settings, P (ofTemplate template settings))
    (hstep : ∀ r op, P r → P (r.step op)) : P s := by
  obtain ⟨template, settings, ops, rfl⟩ := h
  exact run_induction (fun r op _ => hstep r op) (hstart template settings)

/-- An attempt to bind preserves what a success preserves. -/
theorem afterBind_induction {P : Scene → Prop} {tag : Tag} {entity : Entity}
    (hbind : ∀ outcome selection, s.selection.bind tag entity = .ok (outcome, selection) →
      P { s with selection }) (h : P s) :
    P (s.afterBind (s.withSelection (s.selection.bind tag entity))) := by
  cases hb : s.selection.bind tag entity with
  | error e => exact h
  | ok r => exact hbind r.1 r.2 hb

/-! ## Bindings rooted in the template -/

/-- Holders of an entity stand apart, and each binding stands on a tag of the template, under the
name of that tag and with an entity of its kind. -/
structure Rooted (s : Scene) : Prop where
  unique : s.selection.Unique
  aligned : s.selection.Aligned
  mem_tags : ∀ n b, s.selection.get? n = some b → b.tag ∈ s.template.tags

theorem rooted_of_empty {policy : ReusePolicy} (h : s.selection = .empty policy) : s.Rooted := by
  have hnone : ∀ n b, s.selection.get? n ≠ some b := by
    rw [h]
    intro n b hb
    cases hb
  exact ⟨h ▸ .empty policy, fun n b hb => absurd hb (hnone n b), fun n b hb => absurd hb (hnone n b)⟩

theorem Rooted.bind (h : s.Rooted) {tag : Tag} {entity : Entity} {outcome : BindOutcome}
    {selection : Selection} (htag : tag ∈ s.template.tags)
    (hbind : s.selection.bind tag entity = .ok (outcome, selection)) :
    Rooted { s with selection } := by
  refine ⟨h.unique.bind hbind, h.aligned.bind hbind, fun n b hb => ?_⟩
  rcases Selection.get?_of_bind hbind hb with hold | ⟨-, rfl, -⟩
  · exact h.mem_tags n b hold
  · exact htag

theorem Rooted.afterBind (h : s.Rooted) {tag : Tag} {entity : Entity}
    (htag : tag ∈ s.template.tags) :
    (s.afterBind (s.withSelection (s.selection.bind tag entity))).Rooted :=
  afterBind_induction (fun _ _ hbind => h.bind htag hbind) h

theorem Rooted.drop (h : s.Rooted) (name : String) :
    Rooted { s with selection := s.selection.drop name } := by
  refine ⟨h.unique.drop name, h.aligned.drop name, fun n b hb => ?_⟩
  exact h.mem_tags n b (Selection.get?_of_drop hb)

/-- An edit sends every binding that stays to a tag of the edited template. -/
theorem Rooted.edit (h : s.Rooted) (template : Template) :
    Rooted { s with
      template := template
      selection := (s.selection.relocate fun b => template.firstOfSlot? b.tag).2 } := by
  refine ⟨h.unique.step (.relocate _), h.aligned.relocate fun b u hu => ?_, fun n b hb => ?_⟩
  · exact (Template.mem_tags_of_firstOfSlot? hu).2
  · obtain ⟨old, -, hl, -⟩ := Selection.get?_relocate hb
    exact (Template.mem_tags_of_firstOfSlot? hl).1

/-- One step of a fill. The tag has no options, and the fill ends; or one of them is picked, and
then the fill goes on if it can be bound, and ends if not. -/
theorem fillTags_cons {γ : Type} (choose : Random.Chooser γ) (catalog : Catalog) (tag : Tag)
    (tags : List Tag) (g : γ) (s : Scene) :
    (s.options tag catalog = [] ∧
      fillTags choose catalog (tag :: tags) g s = (.error (.noOptions tag), s)) ∨
    ∃ e ∈ s.options tag catalog,
      (∃ why, s.selection.bind tag e = .error why ∧
        fillTags choose catalog (tag :: tags) g s = (.error (.selection why), s)) ∨
      ∃ outcome selection g', s.selection.bind tag e = .ok (outcome, selection) ∧
        fillTags choose catalog (tag :: tags) g s =
          ((fillTags choose catalog tags g' { s with selection }).1.map (· + 1),
            (fillTags choose catalog tags g' { s with selection }).2) := by
  rw [fillTags]
  split
  · next hnil => exact .inl ⟨hnil, rfl⟩
  · next first more hoptions =>
    obtain ⟨i, g'⟩ := choose g more.length
    have hmem : (first :: more)[i] ∈ s.options tag catalog := by
      rw [hoptions]
      exact List.getElem_mem _
    refine .inr ⟨_, hmem, ?_⟩
    dsimp only
    cases hbind : s.selection.bind tag (first :: more)[i] with
    | error why => exact .inl ⟨why, rfl, rfl⟩
    | ok r => exact .inr ⟨r.1, r.2, g', rfl, rfl⟩

/-- What bindings of listed tags preserve, a fill preserves. -/
theorem fillTags_induction {P : Scene → Prop} {γ : Type} {choose : Random.Chooser γ}
    {catalog : Catalog} {tags : List Tag}
    (hbind : ∀ r tag entity outcome selection, tag ∈ tags → entity ∈ r.options tag catalog →
      r.selection.bind tag entity = .ok (outcome, selection) → P r → P { r with selection })
    {g : γ} (h : P s) : P (fillTags choose catalog tags g s).2 := by
  induction tags generalizing s g with
  | nil => exact h
  | cons tag tags ih =>
    rcases fillTags_cons choose catalog tag tags g s with
      ⟨-, hrun⟩ | ⟨e, he, ⟨why, -, hrun⟩ | ⟨outcome, selection, g', hb, hrun⟩⟩
    · rwa [hrun]
    · rwa [hrun]
    · rw [hrun]
      refine ih (fun r t e o sel ht => hbind r t e o sel (List.mem_cons_of_mem _ ht)) ?_
      exact hbind s tag e outcome selection List.mem_cons_self he hb h

theorem Rooted.fill (h : s.Rooted) {γ : Type} (choose : Random.Chooser γ) (catalog : Catalog)
    (g : γ) : (s.fillWith choose catalog g).2.Rooted := by
  have hboth : (s.fillWith choose catalog g).2.Rooted ∧
      (s.fillWith choose catalog g).2.template = s.template := by
    refine fillTags_induction (P := fun r => r.Rooted ∧ r.template = s.template)
      (fun r tag entity outcome selection htag _ hbind hr => ⟨hr.1.bind ?_ hbind, hr.2⟩) ⟨h, rfl⟩
    rw [hr.2]
    exact (mem_unboundTags htag).1
  exact hboth.1

/-- **Every operation keeps the bindings rooted.** -/
theorem Rooted.step (h : s.Rooted) (op : Op) : (s.step op).Rooted := by
  cases op with
  | bind tag entity =>
    rw [Scene.step, Scene.bind]
    split
    · next hhas => exact h.afterBind (Template.mem_tags_iff.2 hhas)
    · exact h
  | bindByName name entity =>
    rw [Scene.step, bindByName]
    split
    · exact h
    · next tag hfind => exact h.afterBind (Template.mem_tags_of_findTag? hfind)
  | unbind name => exact h.drop name
  | clear => exact rooted_of_empty (s := s.clear) rfl
  | updateSentence order text =>
    rw [Scene.step, updateSentence]
    split
    · exact h
    · next template _ => exact h.edit template
  | replaceTemplate template => exact rooted_of_empty (s := s.replaceTemplate template) rfl
  | fill choose catalog g => exact h.fill choose catalog g

/-- **Whatever is done to a scene, its bindings are rooted in its template.** -/
theorem Reachable.rooted (h : s.Reachable) : s.Rooted :=
  h.induction (fun template settings => rooted_of_empty (s := ofTemplate template settings) rfl)
    fun _ op hr => hr.step op

end StoryBlanks.Scene
