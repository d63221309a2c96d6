import Mathlib.Data.List.Perm.Subperm
import StoryBlanks.Proofs.Lint.Findings
import StoryBlanks.Proofs.Scene.Options

/-!
# Templates that can always be finished

If the linter finds the slots of a template fillable, every scene that plays it can be filled, with
whatever was done to it before. Of each kind there are as many entities as names; the names that
are held and the names that wait are different; and no more entities are blocked than are held.

* `Filled.options_ne_nil`: the pigeonhole step; `fillTags_of_room`: the loop.
* `finished_of_fillable`: every fill succeeds, and what it renders.
-/

namespace StoryBlanks.Scene

variable {s u : Scene} {catalog : Catalog} {fills : List Binding} {tag : Tag} {tags : List Tag}

/-! ## Names that are held and names that wait -/

/-- The names bound to tags of a kind. -/
def heldOfKind (s : Scene) (kind : Kind) : List String :=
  (s.selection.bindings.filter fun _ b => b.tag.kind = kind).keys

theorem mem_heldOfKind {kind : Kind} {n : String} :
    n ∈ s.heldOfKind kind ↔ ∃ b, s.selection.get? n = some b ∧ b.tag.kind = kind := by
  simp only [heldOfKind, Selection.mem_keys_filter, decide_eq_true_eq]

/-- Held names and waiting names of a kind are different names of that kind in the template. -/
theorem Open.length_le (ho : s.Open tags) (h : s.Rooted) (htags : ∀ t ∈ tags, t ∈ s.template.tags)
    (kind : Kind) : (s.heldOfKind kind).length + (tags.filter fun t => t.kind = kind).length ≤
      (s.template.namesOfKind kind).length := by
  have hwaiting : ((tags.filter fun t => t.kind = kind).map Tag.name).Nodup := by
    rw [List.Nodup, List.pairwise_map]
    exact (ho.pairwise.filter _).imp fun htu => htu.1
  have hnodup : (s.heldOfKind kind ++
      (tags.filter fun t => t.kind = kind).map Tag.name).Nodup := by
    rw [List.nodup_append]
    refine ⟨NameMap.distinct _, hwaiting, ?_⟩
    rintro n hn m hm rfl
    obtain ⟨b, hb, -⟩ := mem_heldOfKind.1 hn
    obtain ⟨t, ht, rfl⟩ := List.mem_map.1 hm
    rw [ho.unbound t (List.mem_filter.1 ht).1] at hb
    cases hb
  have hsubset : s.heldOfKind kind ++ (tags.filter fun t => t.kind = kind).map Tag.name ⊆
      s.template.namesOfKind kind := by
    intro n hn
    rw [Template.mem_namesOfKind]
    rcases List.mem_append.1 hn with hn | hn
    · obtain ⟨b, hb, hkind⟩ := mem_heldOfKind.1 hn
      exact ⟨b.tag, h.mem_tags n b hb, hkind, (h.aligned n b hb).1⟩
    · obtain ⟨t, ht, rfl⟩ := List.mem_map.1 hn
      obtain ⟨hmem, hkind⟩ := List.mem_filter.1 ht
      exact ⟨t, htags t hmem, by simpa using hkind, rfl⟩
  have hle := (List.subperm_of_subset hnodup hsubset).length_le
  rwa [List.length_append, List.length_map] at hle

/-- No more entities are blocked than names are held. -/
theorem Rooted.blocked_length_le (h : s.Rooted) (hdrawn : s.DrawnFrom catalog) (t : Tag) :
    (s.blocked t catalog).length ≤ (s.heldOfKind t.kind).length := by
  have hsubset : s.blocked t catalog ⊆ (s.heldOfKind t.kind).filterMap fun n =>
      (s.selection.get? n).map Binding.entity := by
    intro e he
    obtain ⟨hmem, n, b, hb, -, hname, -⟩ := mem_blocked.1 he
    obtain ⟨hlisted, hkind⟩ := Catalog.mem_ofKind.1 hmem
    have hlisted' := (Catalog.get?_eq_some_iff.1 (hdrawn n b hb)).1
    obtain rfl := Catalog.eq_of_name hlisted' hlisted hname
    refine List.mem_filterMap.2 ⟨n, mem_heldOfKind.2 ⟨b, hb, ?_⟩, by rw [hb]; rfl⟩
    rw [← (h.aligned n b hb).2, hkind]
  have hnodup : (s.blocked t catalog).Nodup := (s.distinct_blocked t).of_map
  exact Nat.le_trans (List.subperm_of_subset hnodup hsubset).length_le (List.length_filterMap_le ..)

/-- **An option is left**, as long as there is an entity for each name. -/
theorem Filled.options_ne_nil (hf : Filled catalog s fills u) (h : s.Rooted)
    (hdrawn : s.DrawnFrom catalog) (ho : s.Open (fills.map Binding.tag ++ tag :: tags))
    (htags : ∀ t ∈ fills.map Binding.tag ++ tag :: tags, t ∈ s.template.tags)
    (hroom : ∀ kind, (s.template.namesOfKind kind).length ≤ (catalog.ofKind kind).length) :
    u.options tag catalog ≠ [] := by
  have hcount := hf.options_length ho
  have hblocked := h.blocked_length_le hdrawn tag
  have hrivals : ((fills.map Binding.tag).filter fun t =>
      Rivals s.selection.policy tag t).length ≤
        ((fills.map Binding.tag).filter fun t => t.kind = tag.kind).length := by
    refine (List.monotone_filter_right _ fun t ht => ?_).length_le
    simpa using (of_decide_eq_true ht).1
  have hnames := ho.length_le h htags tag.kind
  have hspace := hroom tag.kind
  -- the tag itself is among those that wait
  rw [List.filter_append, List.filter_cons_of_pos (by simp), List.length_append,
    List.length_cons] at hnames
  rw [← List.length_pos_iff]
  omega

/-! ## The loop -/

/-- **With room for every name, the loop fills every tag.** -/
theorem fillTags_of_room {γ : Type} (choose : Random.Chooser γ) (h : s.Rooted)
    (hdrawn : s.DrawnFrom catalog)
    (hroom : ∀ kind, (s.template.namesOfKind kind).length ≤ (catalog.ofKind kind).length)
    (hf : Filled catalog s fills u) (ho : s.Open (fills.map Binding.tag ++ tags))
    (htags : ∀ t ∈ fills.map Binding.tag ++ tags, t ∈ s.template.tags) (g : γ) :
    (fillTags choose catalog tags g u).1 = .ok tags.length ∧
      ∃ more, more.map Binding.tag = fills.map Binding.tag ++ tags ∧
        Filled catalog s more (fillTags choose catalog tags g u).2 := by
  induction tags generalizing fills u g with
  | nil => exact ⟨rfl, fills, (List.append_nil _).symm, hf⟩
  | cons tag tags ih =>
    have hsome := hf.options_ne_nil h hdrawn ho htags hroom
    obtain ⟨e, he, g', hrun⟩ := fillTags_of_options choose g (hf.get?_next ho) hsome
    have hmap : (fills ++ [Binding.mk tag e]).map Binding.tag ++ tags =
        fills.map Binding.tag ++ tag :: tags := by
      rw [List.map_append, List.append_assoc]
      rfl
    obtain ⟨hcount, more, hmore, hlast⟩ :=
      ih (hf.fill ho he) (by rw [hmap]; exact ho) (by rw [hmap]; exact htags) g'
    rw [hrun, hcount]
    exact ⟨rfl, more, hmore.trans hmap, hlast⟩

/-! ## What a fill leaves -/

/-- The scene shows no opening brace, unless a name or the separator brings one in. -/
def ShowsNoBrace (s : Scene) : Prop :=
  (∀ n b, s.selection.get? n = some b → '\x7b' ∉ b.entity.name.toList) →
    '\x7b' ∉ s.separator.toList → '\x7b' ∉ s.render.toList

/-- The fill bound all that was empty and left a complete scene; if the template has no messages at
all, the scene shows no opening brace. -/
structure Finished (catalog : Catalog) (s : Scene) (r : Except SceneError Nat × Scene) : Prop where
  count : r.1 = .ok s.unboundTags.length
  complete : r.2.isComplete = true
  shown : s.template.lintErrors (some catalog) = [] → s.template.lintWarnings (some catalog) = [] →
    r.2.ShowsNoBrace

/-- A complete scene of a template without findings shows no brace of its own. -/
theorem showsNoBrace_of_isComplete {catalog? : Option Catalog}
    (hlint : s.template.lint catalog? = []) (hcomplete : s.isComplete = true) : s.ShowsNoBrace := by
  intro hnames hseparator
  refine Template.not_mem_render hlint (fun t ht => ?_) hseparator
  obtain ⟨b, hb⟩ := Option.isSome_iff_exists.1 (isComplete_iff.1 hcomplete t ht)
  refine ⟨b.entity.name, by rw [Selection.nameFor?, hb]; rfl, ?_⟩
  exact hnames t.name b (Option.filter_eq_some_iff.1 hb).1

/-- **A template that the linter finds fillable can always be finished.** Whatever was done to the
scene before, if its entities are those of the catalog then a fill from any seed, or with any
choices among the options, fills every empty slot. -/
theorem finished_of_fillable (hs : s.Reachable) (hdrawn : s.DrawnFrom catalog)
    (hlint : ∀ f ∈ s.template.lint (some catalog), f.isUnfillable = false) :
    (∀ seed, Finished catalog s (s.autoFill catalog seed)) ∧
      ∀ {γ : Type} (choose : Random.Chooser γ) (g : γ),
        Finished catalog s (s.fillWith choose catalog g) := by
  obtain ⟨hunmixed, hroom⟩ := Template.fillable_iff.1 hlint
  have hopen : s.Open (([] : List Binding).map Binding.tag ++ s.unboundTags) :=
    open_unboundTags hs.rooted hunmixed
  have htags : ∀ t ∈ ([] : List Binding).map Binding.tag ++ s.unboundTags, t ∈ s.template.tags :=
    fun t ht => (mem_unboundTags ht).1
  have hany : ∀ {γ : Type} (choose : Random.Chooser γ) (g : γ),
      Finished catalog s (s.fillWith choose catalog g) := by
    intro γ choose g
    obtain ⟨hcount, fills, hall, hfilled⟩ :=
      fillTags_of_room choose hs.rooted hdrawn hroom (.refl hs.rooted) hopen htags g
    have hcomplete := hfilled.isComplete hall
    refine ⟨hcount, hcomplete, fun herrors hwarnings => ?_⟩
    have hclean : (s.fillWith choose catalog g).2.template.lint (some catalog) = [] := by
      rw [fillWith, hfilled.template]
      exact Template.lint_eq_nil herrors hwarnings
    exact showsNoBrace_of_isComplete hclean hcomplete
  exact ⟨fun seed => hany _ _, hany⟩

/-- A seed, in a scene where a late holder keeps an entity from the tags before it. -/
theorem finished_of_fillable_relay :
    let ada : Entity := { name := "Ada", kind := .character }
    let bea : Entity := { name := "Bea", kind := .character }
    let cal : Entity := { name := "Cal", kind := .character }
    let catalog : Catalog := ⟨[ada, bea, cal], by decide⟩
    let template : Template := ⟨"relay", ["\x7bcharacter:a\x7d meets \x7bcharacter:b\x7d.",
      "Then \x7bcharacter:c\x7d comes."]⟩
    let s := (ofTemplate template ⟨.downstream, " "⟩).run
      [.bindByName "a" bea, .bindByName "c" ada, .unbind "a"]
    s.Reachable ∧ s.DrawnFrom catalog ∧
      (∀ f ∈ s.template.lint (some catalog), f.isUnfillable = false) ∧
      Finished catalog s (s.autoFill catalog 1) := by
  intro ada bea cal catalog template s
  have hs : s.Reachable := ⟨template, _, _, rfl⟩
  have hdrawn : s.DrawnFrom catalog := by
    have hlisted : ∀ e ∈ s.selection.bindings.entries,
        catalog.get? e.2.entity.name = some e.2.entity := by decide +kernel
    exact fun n b hb => hlisted (n, b) (NameMap.mem_entries_iff.2 hb)
  have hlint : ∀ f ∈ s.template.lint (some catalog), f.isUnfillable = false :=
    Template.fillable_iff.2 ⟨by decide +kernel, fun kind => by cases kind <;> decide +kernel⟩
  exact ⟨hs, hdrawn, hlint, (finished_of_fillable hs hdrawn hlint).1 1⟩

end StoryBlanks.Scene
