import Mathlib.Data.List.Nodup
import StoryBlanks.Proofs.Scene.Run

/-!
# How many options are left

While the empty slots of a scene are filled, in the order of the template, the number of options
for the next tag does not depend on what was picked before. An entity is blocked either by a
binding from before the fill, or by a pick for a tag that rivals this one; the two never coincide,
and no two rivals hold one entity.

* `Scene.Open`: tags that wait to be filled; `open_unboundTags`: the empty slots are such tags.
* `Scene.Filled`: a scene in which some of them have been filled; `Filled.fill`: one more.
* `Filled.options_length`: the count.
-/

namespace StoryBlanks

/-- A holder that blocks a tag blocks every earlier one. -/
theorem Selection.Blocks.mono {policy : ReusePolicy} {held wanted earlier : Nat}
    (h : Blocks policy held wanted) (hle : earlier ≤ wanted) : Blocks policy held earlier := by
  cases policy with
  | strict => trivial
  | downstream => exact Nat.le_trans hle h

namespace Scene

variable {s u : Scene} {catalog : Catalog} {fills : List Binding} {tag : Tag} {rest : List Tag}

/-! ## Tags that wait -/

/-- Tags in order, of different names that nothing is bound to. -/
structure Open (s : Scene) (tags : List Tag) : Prop where
  pairwise : tags.Pairwise fun t u => t.name ≠ u.name ∧ t.sentence ≤ u.sentence
  unbound : ∀ t ∈ tags, s.selection.get? t.name = none

/-- Tags before a waiting tag have other names, and stand no later. -/
theorem Open.apart (ho : s.Open (fills.map Binding.tag ++ tag :: rest)) {b : Binding}
    (hb : b ∈ fills) : b.tag.name ≠ tag.name ∧ b.tag.sentence ≤ tag.sentence :=
  (List.pairwise_append.1 ho.pairwise).2.2 b.tag (List.mem_map_of_mem hb) tag List.mem_cons_self

/-- A binding under the name of a tag of the template fills the tag, if names keep one kind. -/
theorem Rooted.bindingFor?_eq (h : s.Rooted) (hunmixed : s.template.Unmixed) {t : Tag}
    (ht : t ∈ s.template.tags) : s.selection.bindingFor? t = s.selection.get? t.name := by
  unfold Selection.bindingFor?
  cases hb : s.selection.get? t.name with
  | none => rfl
  | some b =>
    obtain ⟨hname, hkind⟩ := h.aligned _ b hb
    have hsame := hunmixed b.tag (h.mem_tags _ b hb) t ht hname
    exact Option.filter_eq_some_iff.2 ⟨rfl, by simpa using hkind.trans hsame⟩

/-- The empty slots wait to be filled. -/
theorem open_unboundTags (h : s.Rooted) (hunmixed : s.template.Unmixed) :
    s.Open s.unboundTags := by
  refine ⟨s.pairwise_unboundTags.imp_of_mem fun {t v} ht hv htv => ⟨fun hname => ?_, htv.2⟩,
    fun t ht => ?_⟩
  · have hkind := hunmixed t (mem_unboundTags ht).1 v (mem_unboundTags hv).1 hname
    exact htv.1 ⟨hname, hkind⟩
  · obtain ⟨hmem, hnone⟩ := mem_unboundTags ht
    rw [← h.bindingFor?_eq hunmixed hmem]
    exact hnone

/-! ## Scenes on the way -/

/-- `u` is `s` with these fills bound besides: entities of the catalog, none of which was kept from
its tag by what `s` holds. -/
structure Filled (catalog : Catalog) (s : Scene) (fills : List Binding) (u : Scene) : Prop where
  template : u.template = s.template
  separator : u.separator = s.separator
  policy : u.selection.policy = s.selection.policy
  unique : u.selection.Unique
  get?_iff : ∀ n b, u.selection.get? n = some b ↔
    s.selection.get? n = some b ∨ b ∈ fills ∧ b.tag.name = n
  listed : ∀ b ∈ fills, b.entity ∈ catalog.entities ∧ b.entity.kind = b.tag.kind
  free : ∀ b ∈ fills, ∀ n c, s.selection.get? n = some c → c.entity.name = b.entity.name →
    ¬ Selection.Blocks s.selection.policy c.tag.sentence b.tag.sentence

theorem Filled.refl (h : s.Rooted) : Filled catalog s [] s where
  template := rfl
  separator := rfl
  policy := rfl
  unique := h.unique
  get?_iff n b := by simp
  listed b hb := by cases hb
  free b hb := by cases hb

/-- A pick is bound under the name of its tag. -/
theorem Filled.get?_pick (h : Filled catalog s fills u) {b : Binding} (hb : b ∈ fills) :
    u.selection.get? b.tag.name = some b :=
  (h.get?_iff _ b).2 (.inr ⟨hb, rfl⟩)

/-- The next tag is still empty. -/
theorem Filled.get?_next (h : Filled catalog s fills u)
    (ho : s.Open (fills.map Binding.tag ++ tag :: rest)) : u.selection.get? tag.name = none := by
  rw [Option.eq_none_iff_forall_not_mem]
  intro b hb
  rcases (h.get?_iff _ b).1 hb with hold | ⟨hmem, hname⟩
  · rw [ho.unbound tag (List.mem_append_right _ List.mem_cons_self)] at hold
    cases hold
  · exact (ho.apart hmem).1 hname

/-- The scene with an entity put under a tag. -/
def put (s : Scene) (tag : Tag) (entity : Entity) : Scene :=
  { s with selection := s.selection.put tag entity }

theorem mem_options {t : Tag} {e : Entity} :
    e ∈ s.options t catalog ↔ e ∈ catalog.ofKind t.kind ∧ s.CanFill t e := by
  simp [options]

/-- An option for an empty tag meets no obstacle. -/
theorem obstacle?_of_mem_options {t : Tag} {e : Entity} (ht : s.selection.get? t.name = none)
    (he : e ∈ s.options t catalog) : s.selection.obstacle? t e = none := by
  rcases (mem_options.1 he).2 with ⟨b, hb, -⟩ | ho
  · rw [ht] at hb
    cases hb
  · exact ho

/-- What is bound after one more pick. -/
theorem Filled.get?_put_iff (h : Filled catalog s fills u)
    (ho : s.Open (fills.map Binding.tag ++ tag :: rest)) (e : Entity) (n : String) (b : Binding) :
    (u.put tag e).selection.get? n = some b ↔
      s.selection.get? n = some b ∨ b ∈ fills ++ [⟨tag, e⟩] ∧ b.tag.name = n := by
  change (u.selection.put tag e).get? n = some b ↔ _
  rw [Selection.get?_put]
  by_cases hn : n = tag.name
  · rw [if_pos hn, hn, ho.unbound tag (List.mem_append_right _ List.mem_cons_self)]
    constructor
    · intro hb
      obtain rfl := Option.some.inj hb
      exact .inr ⟨List.mem_append_right _ (List.mem_singleton.2 rfl), rfl⟩
    · rintro (hb | ⟨hb, hname⟩)
      · cases hb
      · rcases List.mem_append.1 hb with hb | hb
        · exact absurd hname (ho.apart hb).1
        · rw [List.mem_singleton.1 hb]
  · rw [if_neg hn, h.get?_iff, List.mem_append, List.mem_singleton]
    constructor
    · rintro (hb | ⟨hb, hname⟩)
      · exact .inl hb
      · exact .inr ⟨.inl hb, hname⟩
    · rintro (hb | ⟨hb | rfl, hname⟩)
      · exact .inl hb
      · exact .inr ⟨hb, hname⟩
      · exact absurd hname.symm hn

/-- **One more fill.** -/
theorem Filled.fill (h : Filled catalog s fills u)
    (ho : s.Open (fills.map Binding.tag ++ tag :: rest)) {e : Entity}
    (he : e ∈ u.options tag catalog) : Filled catalog s (fills ++ [⟨tag, e⟩]) (u.put tag e) := by
  have hnext := h.get?_next ho
  have hobstacle := obstacle?_of_mem_options hnext he
  have hbind := Selection.bind_of_get?_eq_none hobstacle hnext
  refine ⟨h.template, h.separator, h.policy, h.unique.bind hbind, h.get?_put_iff ho e,
    fun b hb => ?_, fun b hb n c hc hname => ?_⟩
  · rcases List.mem_append.1 hb with hb | hb
    · exact h.listed b hb
    · rw [List.mem_singleton.1 hb]
      exact Catalog.mem_ofKind.1 (mem_options.1 he).1
  · rcases List.mem_append.1 hb with hb | hb
    · exact h.free b hb n c hc hname
    · rw [List.mem_singleton.1 hb] at hname ⊢
      rw [← h.policy]
      have hbound := (h.get?_iff n c).2 (.inl hc)
      refine (Selection.obstacle?_eq_none.1 hobstacle).2 n c hbound ?_ hname
      rintro rfl
      rw [hnext] at hbound
      cases hbound

/-! ## Counting -/

/-- The entities of the tag's kind that some holder keeps from the tag. -/
def blocked (s : Scene) (t : Tag) (catalog : Catalog) : List Entity :=
  (catalog.ofKind t.kind).filter fun e => s.selection.holders t e ≠ []

theorem mem_blocked {t : Tag} {e : Entity} : e ∈ s.blocked t catalog ↔
    e ∈ catalog.ofKind t.kind ∧ ∃ n b, s.selection.get? n = some b ∧ n ≠ t.name ∧
      b.entity.name = e.name ∧
        Selection.Blocks s.selection.policy b.tag.sentence t.sentence := by
  simp only [blocked, List.mem_filter, decide_eq_true_eq, ne_eq, List.eq_nil_iff_forall_not_mem,
    Classical.not_forall, Classical.not_not, Selection.mem_holders]

/-- No name comes twice among the blocked entities. -/
theorem distinct_blocked (s : Scene) (t : Tag) :
    ((s.blocked t catalog).map Entity.name).Nodup :=
  List.Pairwise.sublist (List.filter_sublist.map Entity.name) (catalog.distinct_ofKind t.kind)

/-- Every entity of its kind is an option for an empty tag, or blocked. -/
theorem options_length_add_blocked {t : Tag} (ht : s.selection.get? t.name = none) :
    (s.options t catalog).length + (s.blocked t catalog).length =
      (catalog.ofKind t.kind).length := by
  have hfill : s.options t catalog =
      (catalog.ofKind t.kind).filter fun e => !decide (s.selection.holders t e ≠ []) := by
    refine List.filter_congr fun e he => ?_
    have hkind := (Catalog.mem_ofKind.1 he).2
    rw [Bool.eq_iff_iff]
    simp only [decide_eq_true_eq, Bool.not_eq_true', decide_eq_false_iff_not, ne_eq, not_not,
      CanFill, ht, Option.mem_def, reduceCtorEq, false_and, exists_false, false_or,
      Selection.obstacle?, if_pos hkind, Option.map_eq_none_iff, List.head?_eq_none_iff]
  rw [hfill, blocked, Nat.add_comm]
  exact (List.length_eq_length_filter_add _).symm

/-- A pick for `t` is kept from `tag` as well. -/
def Rivals (policy : ReusePolicy) (tag t : Tag) : Prop :=
  t.kind = tag.kind ∧ Selection.Blocks policy t.sentence tag.sentence

instance (policy : ReusePolicy) (tag : Tag) : DecidablePred (Rivals policy tag) :=
  fun _ => inferInstanceAs (Decidable (_ ∧ _))

/-- What is blocked for the next tag was blocked before, or is held by a rival. -/
theorem Filled.mem_blocked_iff (h : Filled catalog s fills u)
    (ho : s.Open (fills.map Binding.tag ++ tag :: rest)) {e : Entity} :
    e ∈ u.blocked tag catalog ↔ e ∈ s.blocked tag catalog ∨
      ∃ b ∈ fills, Rivals s.selection.policy tag b.tag ∧ b.entity = e := by
  rw [mem_blocked, mem_blocked, h.policy]
  constructor
  · rintro ⟨he, n, b, hb, hn, hname, hblocks⟩
    rcases (h.get?_iff n b).1 hb with hold | ⟨hmem, -⟩
    · exact .inl ⟨he, n, b, hold, hn, hname, hblocks⟩
    · obtain ⟨hlisted, hkind⟩ := h.listed b hmem
      obtain ⟨hlisted', hkind'⟩ := Catalog.mem_ofKind.1 he
      obtain rfl := Catalog.eq_of_name hlisted hlisted' hname
      exact .inr ⟨b, hmem, ⟨hkind.symm.trans hkind', hblocks⟩, rfl⟩
  · rintro (⟨he, n, b, hb, hrest⟩ | ⟨b, hmem, ⟨hkind, hblocks⟩, rfl⟩)
    · exact ⟨he, n, b, (h.get?_iff n b).2 (.inl hb), hrest⟩
    · obtain ⟨hlisted, hkind'⟩ := h.listed b hmem
      exact ⟨Catalog.mem_ofKind.2 ⟨hlisted, hkind'.trans hkind⟩, b.tag.name, b, h.get?_pick hmem,
        (ho.apart hmem).1, rfl, hblocks⟩

/-- No two rivals hold one entity: they are in the tag's own sentence, or the policy is strict. -/
theorem Filled.nodup_rivals (h : Filled catalog s fills u)
    (ho : s.Open (fills.map Binding.tag ++ tag :: rest)) :
    ((fills.filter fun b => Rivals s.selection.policy tag b.tag).map Binding.entity).Nodup := by
  have hnames : fills.Pairwise fun b c => b.tag.name ≠ c.tag.name :=
    (List.pairwise_map.1 (List.pairwise_append.1 ho.pairwise).1).imp fun hbc => hbc.1
  rw [List.Nodup, List.pairwise_map]
  refine (hnames.filter _).imp_of_mem fun {b c} hb hc hbc hentity => ?_
  rw [List.mem_filter, decide_eq_true_eq] at hb hc
  obtain ⟨hb, -, hb'⟩ := hb
  obtain ⟨hc, -, hc'⟩ := hc
  obtain ⟨hp, hs⟩ := h.unique _ _ b c (h.get?_pick hb) (h.get?_pick hc) hbc
    (congrArg Entity.name hentity)
  rw [h.policy] at hp
  rw [hp] at hb' hc'
  have hsb : b.tag.sentence = tag.sentence := Nat.le_antisymm (ho.apart hb).2 hb'
  have hsc : c.tag.sentence = tag.sentence := Nat.le_antisymm (ho.apart hc).2 hc'
  exact hs (hsb.trans hsc.symm)

/-- What is blocked for the next tag was blocked before, or is held by a rival, and not both. -/
theorem Filled.blocked_perm (h : Filled catalog s fills u)
    (ho : s.Open (fills.map Binding.tag ++ tag :: rest)) :
    (u.blocked tag catalog).Perm (s.blocked tag catalog ++
      (fills.filter fun b => Rivals s.selection.policy tag b.tag).map Binding.entity) := by
  rw [List.perm_ext_iff_of_nodup (u.distinct_blocked tag).of_map]
  · intro e
    rw [h.mem_blocked_iff ho]
    simp only [List.mem_append, List.mem_map, List.mem_filter, decide_eq_true_eq, and_assoc]
  · rw [List.nodup_append]
    refine ⟨(s.distinct_blocked tag).of_map, h.nodup_rivals ho, ?_⟩
    -- a pick was not blocked when it was made, so nothing from before blocks it now
    rintro e he f hf rfl
    obtain ⟨b, hb, rfl⟩ := List.mem_map.1 hf
    have hmem := (List.mem_filter.1 hb).1
    obtain ⟨-, n, c, hc, -, hname, hblocks⟩ := mem_blocked.1 he
    exact h.free b hmem n c hc hname (hblocks.mono (ho.apart hmem).2)

/-- **The number of options** for the next tag depends on the tags filled so far, and not on what
they were filled with. -/
theorem Filled.options_length (h : Filled catalog s fills u)
    (ho : s.Open (fills.map Binding.tag ++ tag :: rest)) :
    (u.options tag catalog).length + ((s.blocked tag catalog).length +
      ((fills.map Binding.tag).filter fun t => Rivals s.selection.policy tag t).length) =
        (catalog.ofKind tag.kind).length := by
  have hcount := (h.blocked_perm ho).length_eq
  rw [List.length_append, List.length_map] at hcount
  rw [← options_length_add_blocked (h.get?_next ho), hcount, List.filter_map, List.length_map]
  rfl

/-! ## The loop -/

/-- With no option for the next tag the fill ends there. -/
theorem fillTags_of_no_options {γ : Type} (choose : Random.Chooser γ) {g : γ}
    (h : u.options tag catalog = []) :
    fillTags choose catalog (tag :: rest) g u = (.error (.noOptions tag), u) := by
  rcases fillTags_cons choose catalog tag rest g u with ⟨-, hrun⟩ | ⟨e, he, -⟩
  · exact hrun
  · rw [h] at he
    cases he

/-- With options for an empty tag, one of them is put there and the fill goes on. -/
theorem fillTags_of_options {γ : Type} (choose : Random.Chooser γ) (g : γ)
    (hnext : u.selection.get? tag.name = none) (h : u.options tag catalog ≠ []) :
    ∃ e ∈ u.options tag catalog, ∃ g', fillTags choose catalog (tag :: rest) g u =
      ((fillTags choose catalog rest g' (u.put tag e)).1.map (· + 1),
        (fillTags choose catalog rest g' (u.put tag e)).2) := by
  rcases fillTags_cons choose catalog tag rest g u with ⟨hnil, -⟩ | ⟨e, he, hpicked⟩
  · exact absurd hnil h
  · have hput := Selection.bind_of_get?_eq_none (obstacle?_of_mem_options hnext he) hnext
    rcases hpicked with ⟨why, hbind, -⟩ | ⟨outcome, selection, g', hbind, hrun⟩
    · rw [hput] at hbind
      cases hbind
    · rw [hput] at hbind
      cases hbind
      exact ⟨e, he, g', hrun⟩

/-- A scene in which all empty slots have been filled is complete. -/
theorem Filled.isComplete (hf : Filled catalog s fills u)
    (hall : fills.map Binding.tag = s.unboundTags) : u.isComplete = true := by
  rw [Scene.isComplete, List.isEmpty_iff, List.eq_nil_iff_forall_not_mem]
  intro t ht
  obtain ⟨hfirst, hnone⟩ := List.mem_filter.1 ht
  rw [hf.template] at hfirst
  rw [Option.isNone_iff_eq_none, Selection.bindingFor?, Option.filter_eq_none_iff] at hnone
  cases hb : s.selection.bindingFor? t with
  | some b =>
    obtain ⟨hget, hkind⟩ := Option.filter_eq_some_iff.1 hb
    exact hnone b ((hf.get?_iff _ b).2 (.inl hget)) hkind
  | none =>
    have hempty : t ∈ s.unboundTags := List.mem_filter.2 ⟨hfirst, by rw [hb]; rfl⟩
    rw [← hall] at hempty
    obtain ⟨b, hmem, rfl⟩ := List.mem_map.1 hempty
    have hkind := (hf.listed b hmem).2
    exact hnone b (hf.get?_pick hmem) (by simpa using hkind)

end Scene

end StoryBlanks
