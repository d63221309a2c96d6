import StoryBlanks.Proofs.Lint.Completable

/-!
# When a scene can be completed at all

Under the strict policy the linter's verdict is exact. If it finds the slots of a template fillable,
one fill from any seed completes a fresh scene. If some play with the entities of a catalog
completes the scene, then each name that asks for a kind holds an entity of that kind, and no two
names hold one entity: so no name asks for two kinds, and of each kind there are as many entities as
names.

* `Scene.Plays`: what a player can do with a catalog; `Scene.InPlay`: what all of it keeps.
* `InPlay.unmixed`, `InPlay.room`: what a complete scene says about its template.
* `completable_iff`: the verdict.
-/

namespace StoryBlanks.Scene

/-- What a player does with the entities of a catalog: bind them, take them back, and fill what is
left from a seed. The template stays. -/
inductive Plays (catalog : Catalog) : Op → Prop
  | bind (tag : Tag) {entity : Entity} (h : entity ∈ catalog.entities) :
      Plays catalog (.bind tag entity)
  | bindByName (name : String) {entity : Entity} (h : entity ∈ catalog.entities) :
      Plays catalog (.bindByName name entity)
  | unbind (name : String) : Plays catalog (.unbind name)
  | clear : Plays catalog .clear
  | autoFill (seed : Nat) : Plays catalog (.fill Random.choose catalog (.ofSeed seed))

variable {s : Scene} {catalog : Catalog} {template : Template}

/-! ## What play keeps -/

/-- A strict scene of the template, all of whose entities are those of the catalog. -/
structure InPlay (catalog : Catalog) (template : Template) (s : Scene) : Prop where
  rooted : s.Rooted
  template_eq : s.template = template
  policy_eq : s.selection.policy = .strict
  drawn : s.DrawnFrom catalog

theorem inPlay_ofTemplate (catalog : Catalog) (template : Template) (separator : String) :
    InPlay catalog template (ofTemplate template ⟨.strict, separator⟩) where
  rooted := rooted_of_empty rfl
  template_eq := rfl
  policy_eq := rfl
  drawn n b hb := by cases hb

theorem InPlay.bind (h : InPlay catalog template s) {tag : Tag} {entity : Entity}
    {outcome : BindOutcome} {selection : Selection} (htag : tag ∈ s.template.tags)
    (hentity : entity ∈ catalog.entities)
    (hbind : s.selection.bind tag entity = .ok (outcome, selection)) :
    InPlay catalog template { s with selection } := by
  refine ⟨h.rooted.bind htag hbind, h.template_eq, ?_, h.drawn.bind hentity hbind⟩
  rw [← h.policy_eq]
  exact Selection.policy_bind hbind

theorem InPlay.afterBind (h : InPlay catalog template s) {tag : Tag} {entity : Entity}
    (htag : tag ∈ s.template.tags) (hentity : entity ∈ catalog.entities) :
    InPlay catalog template (s.afterBind (s.withSelection (s.selection.bind tag entity))) :=
  afterBind_induction (fun _ _ hbind => h.bind htag hentity hbind) h

theorem InPlay.fill (h : InPlay catalog template s) {γ : Type} (choose : Random.Chooser γ) (g : γ) :
    InPlay catalog template (s.fillWith choose catalog g).2 := by
  refine fillTags_induction (fun r tag entity outcome selection htag hentity hbind hr => ?_) h
  have hmem : tag ∈ r.template.tags := by
    rw [hr.template_eq, ← h.template_eq]
    exact (mem_unboundTags htag).1
  exact hr.bind hmem (Catalog.mem_ofKind.1 (mem_options.1 hentity).1).1 hbind

/-- **Play keeps to the template, the policy and the catalog.** -/
theorem InPlay.step (h : InPlay catalog template s) {op : Op} (hop : Plays catalog op) :
    InPlay catalog template (s.step op) := by
  cases hop with
  | bind tag hentity =>
    rw [Scene.step, Scene.bind]
    split
    · next hhas => exact h.afterBind (Template.mem_tags_iff.2 hhas) hentity
    · exact h
  | bindByName name hentity =>
    rw [Scene.step, Scene.bindByName]
    split
    · exact h
    · next tag hfind => exact h.afterBind (Template.mem_tags_of_findTag? hfind) hentity
  | unbind name =>
    refine ⟨h.rooted.drop name, h.template_eq, ?_, fun n b hb => ?_⟩
    · rw [← h.policy_eq]
      exact Selection.policy_drop s.selection name
    · exact h.drawn n b (Selection.get?_of_drop hb)
  | clear => exact ⟨h.rooted.step .clear, h.template_eq, h.policy_eq, fun n b hb => by cases hb⟩
  | autoFill seed => exact h.fill Random.choose (.ofSeed seed)

theorem InPlay.run (h : InPlay catalog template s) {ops : List Op}
    (hops : ∀ op ∈ ops, Plays catalog op) : InPlay catalog template (s.run ops) :=
  run_induction (fun _ op hop hr => hr.step (hops op hop)) h

/-! ## What a complete scene says about its template -/

/-- In a complete scene each name that asks for a kind holds an entity of the catalog, of that
kind. -/
theorem InPlay.exists_binding (h : InPlay catalog template s) (hcomplete : s.isComplete = true)
    {t : Tag} (ht : t ∈ template.tags) :
    ∃ b, s.selection.get? t.name = some b ∧ b.entity ∈ catalog.ofKind t.kind := by
  rw [← h.template_eq] at ht
  obtain ⟨b, hb⟩ := Option.isSome_iff_exists.1 (isComplete_iff.1 hcomplete t ht)
  obtain ⟨hget, hkind⟩ := Option.filter_eq_some_iff.1 hb
  have hlisted := (Catalog.get?_eq_some_iff.1 (h.drawn t.name b hget)).1
  exact ⟨b, hget, Catalog.mem_ofKind.2 ⟨hlisted, by simpa using hkind⟩⟩

/-- A name holds one entity, so it asks for one kind. -/
theorem InPlay.unmixed (h : InPlay catalog template s) (hcomplete : s.isComplete = true) :
    template.Unmixed := by
  rw [← h.template_eq]
  exact unmixed_of_isComplete hcomplete

/-- The entity under a name. -/
def held? (s : Scene) (name : String) : Option Entity :=
  (s.selection.get? name).map Binding.entity

/-- **The pigeonhole.** Different names hold different entities, so there are no more names of a
kind than entities. -/
theorem InPlay.room (h : InPlay catalog template s) (hcomplete : s.isComplete = true)
    (kind : Kind) : (template.namesOfKind kind).length ≤ (catalog.ofKind kind).length := by
  have hheld : ∀ n ∈ template.namesOfKind kind,
      ∃ e, s.held? n = some e ∧ e ∈ catalog.ofKind kind := by
    intro n hn
    obtain ⟨t, ht, rfl, rfl⟩ := Template.mem_namesOfKind.1 hn
    obtain ⟨b, hb, hmem⟩ := h.exists_binding hcomplete ht
    exact ⟨b.entity, by rw [held?, hb, Option.map_some], hmem⟩
  have hlength : ((template.namesOfKind kind).filterMap s.held?).length =
      (template.namesOfKind kind).length := by
    refine List.filterMap_length_eq_length.2 fun n hn => ?_
    obtain ⟨e, he, -⟩ := hheld n hn
    rw [he]
    rfl
  have hnodup : ((template.namesOfKind kind).filterMap s.held?).Nodup := by
    refine (Text.nodup_distinct _).filterMap fun m n e hm hn => ?_
    obtain ⟨b, hb, hbe⟩ := Option.map_eq_some_iff.1 hm
    obtain ⟨c, hc, hce⟩ := Option.map_eq_some_iff.1 hn
    exact h.rooted.unique.eq_of_strict h.policy_eq hb hc (by rw [hbe, hce])
  have hsubset : (template.namesOfKind kind).filterMap s.held? ⊆ catalog.ofKind kind := by
    intro e he
    obtain ⟨n, hn, hne⟩ := List.mem_filterMap.1 he
    obtain ⟨f, hf, hmem⟩ := hheld n hn
    obtain rfl := Option.some.inj (hne.symm.trans hf)
    exact hmem
  rw [← hlength]
  exact (List.subperm_of_subset hnodup hsubset).length_le

/-! ## The verdict -/

/-- With room for every name, one fill completes a fresh scene. -/
theorem isComplete_fill_of_room {γ : Type} (choose : Random.Chooser γ) (settings : Settings)
    (hunmixed : template.Unmixed)
    (hroom : ∀ kind, (template.namesOfKind kind).length ≤ (catalog.ofKind kind).length) (g : γ) :
    ((ofTemplate template settings).fillWith choose catalog g).2.isComplete = true := by
  have hrooted : (ofTemplate template settings).Rooted := rooted_of_empty rfl
  have hdrawn : (ofTemplate template settings).DrawnFrom catalog := fun n b hb => by cases hb
  obtain ⟨-, fills, hall, hfilled⟩ := fillTags_of_room choose hrooted hdrawn hroom (.refl hrooted)
    (open_unboundTags hrooted hunmixed) (fun t ht => (mem_unboundTags ht).1) g
  exact hfilled.isComplete hall

/-- **The linter's verdict is exact for strict scenes.** Some play with the entities of a catalog
completes a scene of the template if and only if the linter reports neither a name that is used with
two kinds nor a kind of which the catalog has fewer entities than there are names. -/
theorem completable_iff (template : Template) (catalog : Catalog) (separator : String) :
    (∃ ops, (∀ op ∈ ops, Plays catalog op) ∧
      ((ofTemplate template ⟨.strict, separator⟩).run ops).isComplete = true) ↔
        ∀ f ∈ template.lint (some catalog), f.isUnfillable = false := by
  rw [Template.fillable_iff]
  constructor
  · rintro ⟨ops, hops, hcomplete⟩
    have hplay := (inPlay_ofTemplate catalog template separator).run hops
    exact ⟨hplay.unmixed hcomplete, hplay.room hcomplete⟩
  · rintro ⟨hunmixed, hroom⟩
    refine ⟨[.fill Random.choose catalog (.ofSeed 0)], fun op hop => ?_, ?_⟩
    · rw [List.mem_singleton.1 hop]
      exact .autoFill 0
    · exact isComplete_fill_of_room Random.choose _ hunmixed hroom _

end StoryBlanks.Scene
