import StoryBlanks.Proofs.Scene.Filling

/-!
# The options offered are those accepted

The options for a tag are filtered by a test of their own, which looks at names where a binding
also looks at kinds. In a scene whose entities all come from the catalog that makes no difference:
a name stands for one entity there, so that an entity is offered exactly if it can be bound. Every
pick of a fill is then accepted, in templates of any form.

* `Scene.DrawnFrom`: the bound entities are those of a catalog; `DrawnFrom.bind`: how that is kept.
* `Rooted.options_eq`: what is offered and what is accepted.
* `options_eq_accepted`: every scene, and what follows for its fills.
-/

namespace StoryBlanks.Scene

/-- Each bound entity is the one that the catalog lists under its name. -/
def DrawnFrom (catalog : Catalog) (s : Scene) : Prop :=
  ∀ n b, s.selection.get? n = some b → catalog.get? b.entity.name = some b.entity

variable {s : Scene} {catalog : Catalog} {tag : Tag} {tags : List Tag}

theorem DrawnFrom.bind (h : s.DrawnFrom catalog) {entity : Entity} {outcome : BindOutcome}
    {selection : Selection} (hentity : entity ∈ catalog.entities)
    (hbind : s.selection.bind tag entity = .ok (outcome, selection)) :
    DrawnFrom catalog { s with selection } := by
  intro n b hb
  rcases Selection.get?_of_bind hbind hb with hold | ⟨-, rfl, -⟩
  · exact h n b hold
  · exact Catalog.get?_eq_some_iff.2 ⟨hentity, rfl⟩

/-! ## Offers and bindings -/

/-- A name under which an entity of this name is bound holds this entity, and on a tag of its kind.
-/
theorem Rooted.canFill_iff (h : s.Rooted) (hdrawn : s.DrawnFrom catalog) {e : Entity}
    (he : e ∈ catalog.entities) : e.kind = tag.kind ∧ s.CanFill tag e ↔
      s.selection.Holds tag e ∨ s.selection.obstacle? tag e = none := by
  constructor
  · rintro ⟨hkind, ⟨b, hb, hname⟩ | ho⟩
    · have hlisted := (Catalog.get?_eq_some_iff.1 (hdrawn tag.name b hb)).1
      obtain rfl := Catalog.eq_of_name hlisted he hname
      exact .inl ⟨b, hb, rfl, (h.aligned tag.name b hb).2.symm.trans hkind, hkind⟩
    · exact .inr ho
  · rintro (⟨b, hb, hname, -, hkind⟩ | ho)
    · exact ⟨hkind, .inl ⟨b, hb, hname⟩⟩
    · exact ⟨(Selection.obstacle?_eq_none.1 ho).1, .inr ho⟩

/-- **What is offered for a tag is what it accepts**, in the order of the catalog. -/
theorem Rooted.options_eq (h : s.Rooted) (hdrawn : s.DrawnFrom catalog) (tag : Tag) :
    s.options tag catalog =
      catalog.entities.filter fun e => (s.selection.bind tag e).isOk := by
  rw [options, Catalog.ofKind, List.filter_filter]
  refine List.filter_congr fun e he => ?_
  rw [Bool.eq_iff_iff, Selection.isOk_bind_iff, ← h.canFill_iff hdrawn he]
  simp [and_comm]

theorem isOk_bind (htag : s.template.Has tag) (e : Entity) :
    (s.bind tag e).isOk = (s.selection.bind tag e).isOk := by
  rw [bind, if_pos htag]
  cases s.selection.bind tag e <;> rfl

/-- A fill of tags of the template never meets a binding that fails. -/
theorem Rooted.fillTags_result (h : s.Rooted) (hdrawn : s.DrawnFrom catalog)
    (htags : ∀ t ∈ tags, t ∈ s.template.tags) {γ : Type} (choose : Random.Chooser γ) (g : γ) :
    (∃ filled, (fillTags choose catalog tags g s).1 = .ok filled) ∨
      ∃ t ∈ tags, (fillTags choose catalog tags g s).1 = .error (.noOptions t) := by
  -- the picks so far keep the scene rooted and its entities those of the catalog
  induction tags generalizing s g with
  | nil => exact .inl ⟨0, rfl⟩
  | cons tag tags ih =>
    rcases fillTags_cons choose catalog tag tags g s with ⟨-, hrun⟩ | ⟨e, he, hpicked⟩
    · exact .inr ⟨tag, List.mem_cons_self, by rw [hrun]⟩
    · rw [h.options_eq hdrawn, List.mem_filter] at he
      obtain ⟨hlisted, haccepted⟩ := he
      rcases hpicked with ⟨why, hbind, -⟩ | ⟨outcome, selection, g', hbind, hrun⟩
      · rw [hbind] at haccepted
        cases haccepted
      · have hrest := ih (h.bind (htags tag List.mem_cons_self) hbind) (hdrawn.bind hlisted hbind)
          (fun t ht => htags t (List.mem_cons_of_mem _ ht)) g'
        rw [hrun]
        rcases hrest with ⟨filled, hfilled⟩ | ⟨t, ht, hstop⟩
        · exact .inl ⟨filled + 1, by rw [hfilled]; rfl⟩
        · exact .inr ⟨t, List.mem_cons_of_mem _ ht, by rw [hstop]; rfl⟩

/-- **The options offered are exactly those that can be bound.** In a scene whose entities all come
from the catalog, the options for a tag of the template are the entities of the catalog that it
accepts, in their order and each once. So a fill from any seed, or with any choices, succeeds or
stops at a slot without options; it never meets a binding that fails. -/
theorem options_eq_accepted (hs : s.Reachable) (hdrawn : s.DrawnFrom catalog) :
    (∀ tag ∈ s.template.tags,
      s.options tag catalog = catalog.entities.filter (fun e => (s.bind tag e).isOk) ∧
        (s.options tag catalog).Nodup) ∧
    (∀ seed, (∃ filled, (s.autoFill catalog seed).1 = .ok filled) ∨
      ∃ t ∈ s.unboundTags, (s.autoFill catalog seed).1 = .error (.noOptions t)) ∧
    ∀ {γ : Type} (choose : Random.Chooser γ) (g : γ),
      (∃ filled, (s.fillWith choose catalog g).1 = .ok filled) ∨
        ∃ t ∈ s.unboundTags, (s.fillWith choose catalog g).1 = .error (.noOptions t) := by
  have hany : ∀ {γ : Type} (choose : Random.Chooser γ) (g : γ),
      (∃ filled, (s.fillWith choose catalog g).1 = .ok filled) ∨
        ∃ t ∈ s.unboundTags, (s.fillWith choose catalog g).1 = .error (.noOptions t) :=
    fun choose g => hs.rooted.fillTags_result hdrawn (fun t ht => (mem_unboundTags ht).1) choose g
  refine ⟨fun tag htag => ⟨?_, catalog.distinct.of_map.filter _ |>.filter _⟩, fun seed => hany _ _,
    hany⟩
  rw [hs.rooted.options_eq hdrawn]
  exact List.filter_congr fun e _ => (isOk_bind (Template.mem_tags_iff.1 htag) e).symm

/-- An entity that another holder keeps from the tag is offered, and accepted, since the tag holds
it already. -/
theorem options_eq_accepted_held :
    let ada : Entity := { name := "Ada", kind := .character }
    let bea : Entity := { name := "Bea", kind := .character }
    let catalog : Catalog := ⟨[ada, bea], by decide⟩
    let template : Template := ⟨"relay", ["\x7bcharacter:a\x7d meets \x7bcreature:a\x7d.",
      "Then \x7bcharacter:c\x7d comes."]⟩
    let s := (ofTemplate template ⟨.downstream, " "⟩).run [.bindByName "a" ada, .bindByName "c" ada]
    let tag : Tag := ⟨.character, "a", 0⟩
    s.Reachable ∧ s.DrawnFrom catalog ∧ tag ∈ s.template.tags ∧
      s.selection.obstacle? tag ada = some (.alreadyUsed "Ada" "c") ∧
      s.options tag catalog = catalog.entities.filter (fun e => (s.bind tag e).isOk) ∧
      ada ∈ s.options tag catalog := by
  intro ada bea catalog template s tag
  have hs : s.Reachable := ⟨template, _, _, rfl⟩
  have hdrawn : s.DrawnFrom catalog := by
    have hlisted : ∀ e ∈ s.selection.bindings.entries,
        catalog.get? e.2.entity.name = some e.2.entity := by decide +kernel
    exact fun n b hb => hlisted (n, b) (NameMap.mem_entries_iff.2 hb)
  have htag : tag ∈ s.template.tags := by decide +kernel
  have hoptions := ((options_eq_accepted hs hdrawn).1 tag htag).1
  refine ⟨hs, hdrawn, htag, by decide +kernel, hoptions, ?_⟩
  rw [hoptions, List.mem_filter]
  exact ⟨List.mem_cons_self, by decide +kernel⟩

end StoryBlanks.Scene
