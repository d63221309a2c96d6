import StoryBlanks.Proofs.Scene.Filling

/-!
# Fills that choose differently

Two fills of one scene may part at the first tag, and from there on bind other entities. As long as
they have filled the same tags they have as many options for the next one, so they come to the same
end: both fill every slot, or both stop at the same tag.

* `Scene.SameTags`: two scenes that differ only in their entities.
* `Scene.Alike`: two fills that come to the same end.
* `fillTags_alike`: the two loops, step by step; `alike_of_reachable`: fills of a scene.
-/

namespace StoryBlanks.Scene

/-- The two scenes fill the same slots at the same tags, and differ only in the entities. -/
structure SameTags (s u : Scene) : Prop where
  template : s.template = u.template
  separator : s.separator = u.separator
  policy : s.selection.policy = u.selection.policy
  /-- The same names are bound, to the same tags. -/
  tags : ∀ n, (s.selection.get? n).map Binding.tag = (u.selection.get? n).map Binding.tag
  /-- The same slots are filled. -/
  slots : ∀ t, (s.selection.bindingFor? t).isSome = (u.selection.bindingFor? t).isSome

/-- The two fills filled as many tags, or stopped at one tag for which no option is left; and they
left scenes with the same slots filled. -/
structure Alike (catalog : Catalog) (r r' : Except SceneError Nat × Scene) : Prop where
  result : (∃ filled, r.1 = .ok filled ∧ r'.1 = .ok filled) ∨
    ∃ tag, r.1 = .error (.noOptions tag) ∧ r'.1 = .error (.noOptions tag) ∧
      r.2.options tag catalog = [] ∧ r'.2.options tag catalog = []
  sameTags : SameTags r.2 r'.2

variable {s u u' : Scene} {catalog : Catalog} {fills fills' : List Binding}

/-- What one of the fills bound, the other bound too, with an entity of the same kind. -/
theorem Filled.exists_counterpart (h : Filled catalog s fills u) (h' : Filled catalog s fills' u')
    (htags : fills.map Binding.tag = fills'.map Binding.tag) {n : String} {b : Binding}
    (hb : u.selection.get? n = some b) :
    ∃ c, u'.selection.get? n = some c ∧ c.tag = b.tag ∧ c.entity.kind = b.entity.kind := by
  rcases (h.get?_iff n b).1 hb with hold | ⟨hmem, hname⟩
  · exact ⟨b, (h'.get?_iff n b).2 (.inl hold), rfl, rfl⟩
  · have htag : b.tag ∈ fills'.map Binding.tag := htags ▸ List.mem_map_of_mem hmem
    obtain ⟨c, hc, hct⟩ := List.mem_map.1 htag
    refine ⟨c, (h'.get?_iff n c).2 (.inr ⟨hc, by rw [hct, hname]⟩), hct, ?_⟩
    rw [(h'.listed c hc).2, (h.listed b hmem).2, hct]

theorem Filled.sameTags (h : Filled catalog s fills u) (h' : Filled catalog s fills' u')
    (htags : fills.map Binding.tag = fills'.map Binding.tag) : SameTags u u' := by
  refine ⟨h.template.trans h'.template.symm, h.separator.trans h'.separator.symm,
    h.policy.trans h'.policy.symm, fun n => ?_, fun t => ?_⟩
  · cases hb : u.selection.get? n with
    | some b =>
      obtain ⟨c, hc, htag, -⟩ := h.exists_counterpart h' htags hb
      rw [hc, Option.map_some, Option.map_some, htag]
    | none =>
      cases hc : u'.selection.get? n with
      | none => rfl
      | some c =>
        obtain ⟨b, hb', -⟩ := h'.exists_counterpart h htags.symm hc
        rw [hb] at hb'
        cases hb'
  · rw [Bool.eq_iff_iff]
    simp only [Selection.bindingFor?, Option.isSome_filter, Option.any_eq_true, decide_eq_true_eq]
    constructor
    · rintro ⟨b, hb, hkind⟩
      obtain ⟨c, hc, -, hk⟩ := h.exists_counterpart h' htags hb
      exact ⟨c, hc, hk.trans hkind⟩
    · rintro ⟨c, hc, hkind⟩
      obtain ⟨b, hb, -, hk⟩ := h'.exists_counterpart h htags.symm hc
      exact ⟨b, hb, hk.trans hkind⟩

/-- Fills that have filled the same tags have options for the next tag, or have none, together. -/
theorem Filled.options_eq_nil_iff (h : Filled catalog s fills u) (h' : Filled catalog s fills' u')
    (htags : fills.map Binding.tag = fills'.map Binding.tag) {tag : Tag} {rest : List Tag}
    (ho : s.Open (fills.map Binding.tag ++ tag :: rest)) :
    u.options tag catalog = [] ↔ u'.options tag catalog = [] := by
  have hcount := h.options_length ho
  have hcount' := h'.options_length (htags ▸ ho)
  rw [← htags] at hcount'
  rw [← List.length_eq_zero_iff, ← List.length_eq_zero_iff]
  omega

/-- **Two loops that have filled the same tags come to the same end.** -/
theorem fillTags_alike {γ δ : Type} (choose : Random.Chooser γ) (choose' : Random.Chooser δ)
    {tags : List Tag} (h : Filled catalog s fills u) (h' : Filled catalog s fills' u')
    (htags : fills.map Binding.tag = fills'.map Binding.tag)
    (ho : s.Open (fills.map Binding.tag ++ tags)) (g : γ) (g' : δ) :
    Alike catalog (fillTags choose catalog tags g u) (fillTags choose' catalog tags g' u') := by
  induction tags generalizing fills fills' u u' g g' with
  | nil => exact ⟨.inl ⟨0, rfl, rfl⟩, h.sameTags h' htags⟩
  | cons tag tags ih =>
    have ho' : s.Open (fills'.map Binding.tag ++ tag :: tags) := htags ▸ ho
    by_cases hnil : u.options tag catalog = []
    · have hnil' := (h.options_eq_nil_iff h' htags ho).1 hnil
      rw [fillTags_of_no_options choose hnil, fillTags_of_no_options choose' hnil']
      exact ⟨.inr ⟨tag, rfl, rfl, hnil, hnil'⟩, h.sameTags h' htags⟩
    · have hnil' := fun hn => hnil ((h.options_eq_nil_iff h' htags ho).2 hn)
      obtain ⟨e, he, k, hrun⟩ := fillTags_of_options choose g (h.get?_next ho) hnil
      obtain ⟨e', he', k', hrun'⟩ := fillTags_of_options choose' g' (h'.get?_next ho') hnil'
      -- whatever was picked, the same tag is filled
      have hrest : Alike catalog (fillTags choose catalog tags k (u.put tag e))
          (fillTags choose' catalog tags k' (u'.put tag e')) := by
        refine ih (h.fill ho he) (h'.fill ho' he') ?_ ?_ k k'
        · rw [List.map_append, List.map_append, htags]
          rfl
        · rw [List.map_append, List.append_assoc]
          exact ho
      rw [hrun, hrun']
      refine ⟨?_, hrest.sameTags⟩
      rcases hrest.result with ⟨filled, hr, hr'⟩ | ⟨stop, hr, hr', hnone⟩
      · exact .inl ⟨filled + 1, by rw [hr]; rfl, by rw [hr']; rfl⟩
      · exact .inr ⟨stop, by rw [hr]; rfl, by rw [hr']; rfl, hnone⟩

/-- **Whether a fill succeeds does not depend on its choices.** In a template whose names keep one
kind, any two fills of a scene, from two seeds or with any choices among the options, fill as many
tags, or stop at one tag for which neither has an option left; and they fill the same slots. This
holds wherever the entities bound before came from. -/
theorem alike_of_reachable (hs : s.Reachable) (hunmixed : s.template.Unmixed)
    (catalog : Catalog) :
    (∀ seed seed', Alike catalog (s.autoFill catalog seed) (s.autoFill catalog seed')) ∧
      ∀ {γ δ : Type} (choose : Random.Chooser γ) (choose' : Random.Chooser δ) (g : γ) (g' : δ),
        Alike catalog (s.fillWith choose catalog g) (s.fillWith choose' catalog g') := by
  have hopen := open_unboundTags hs.rooted hunmixed
  have hany : ∀ {γ δ : Type} (choose : Random.Chooser γ) (choose' : Random.Chooser δ) (g : γ)
      (g' : δ), Alike catalog (s.fillWith choose catalog g) (s.fillWith choose' catalog g') :=
    fun choose choose' g g' =>
      fillTags_alike choose choose' (.refl hs.rooted) (.refl hs.rooted) rfl hopen g g'
  exact ⟨fun seed seed' => hany _ _ _ _, hany⟩

/-- Two seeds, in a scene where a late holder keeps an entity from the tags before it. -/
theorem alike_of_reachable_relay :
    let ada : Entity := { name := "Ada", kind := .character }
    let bea : Entity := { name := "Bea", kind := .character }
    let catalog : Catalog := ⟨[ada, bea], by decide⟩
    let template : Template := ⟨"relay", ["\x7bcharacter:a\x7d meets \x7bcharacter:b\x7d.",
      "Then \x7bcharacter:c\x7d comes."]⟩
    let s := (ofTemplate template ⟨.downstream, " "⟩).run [.bindByName "c" ada]
    s.Reachable ∧ s.template.Unmixed ∧
      Alike catalog (s.autoFill catalog 1) (s.autoFill catalog 2) := by
  intro ada bea catalog template s
  have hs : s.Reachable := ⟨template, _, _, rfl⟩
  have hunmixed : s.template.Unmixed := by decide +kernel
  exact ⟨hs, hunmixed, (alike_of_reachable hs hunmixed catalog).1 1 2⟩

end StoryBlanks.Scene
