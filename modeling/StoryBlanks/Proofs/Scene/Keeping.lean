import StoryBlanks.Proofs.Scene.Options

/-!
# What a fill keeps

A slot is a name and a kind, while bindings are kept under names. Where one name asks for two kinds
and holds an entity of one of them, the other slot counts as empty, and a fill puts its own entity
in place of the one that was held, and may take entities from later sentences with it. So a fill
keeps what was bound exactly if none of the slots that it fills has a name that was bound before;
and it ends in a complete scene exactly if no name asks for two kinds.

* `Ends`: how far a fill came; `Rooted.fillTags_steps`: what each binding of a fill preserves.
* `Displaced`, `Kept`, `Filled`: what is lost, what is kept, and what is added.
* `fillsOnly_iff`: when a fill touches nothing but empty slots.
-/

namespace StoryBlanks

namespace Scene

variable {s u : Scene} {catalog : Catalog} {tag : Tag} {tags done : List Tag}

/-! ## How far a fill came -/

/-- The fill of `tags` bound those in `done`: all of them, or those before one without options. -/
def Ends (catalog : Catalog) (tags done : List Tag) (r : Except SceneError Nat × Scene) : Prop :=
  (tags = done ∧ r.1 = .ok done.length) ∨
    ∃ t rest, tags = done ++ t :: rest ∧ r.1 = .error (.noOptions t) ∧ r.2.options t catalog = []

theorem Ends.cons {r : Except SceneError Nat × Scene} (h : Ends catalog tags done r) (tag : Tag) :
    Ends catalog (tag :: tags) (tag :: done) (r.1.map (· + 1), r.2) := by
  rcases h with ⟨rfl, hr⟩ | ⟨t, rest, rfl, hr, hnone⟩
  · exact .inl ⟨rfl, by rw [hr]; rfl⟩
  · exact .inr ⟨t, rest, rfl, by rw [hr]; rfl, hnone⟩

/-- **What each binding of a fill preserves holds at its end**, of the tags that were filled. -/
theorem Rooted.fillTags_steps {P : List Tag → Scene → Prop} (hdrawn : s.DrawnFrom catalog)
    (h : s.Rooted) (hall : ∀ t ∈ tags, t ∈ s.template.tags)
    (hstep : ∀ before tag after u e outcome selection, tags = before ++ tag :: after → u.Rooted →
      e ∈ u.options tag catalog → u.selection.bind tag e = .ok (outcome, selection) → P before u →
        P (before ++ [tag]) { u with selection })
    (hstart : P [] s) {γ : Type} (choose : Random.Chooser γ) (g : γ) :
    ∃ done, Ends catalog tags done (fillTags choose catalog tags g s) ∧
      P done (fillTags choose catalog tags g s).2 := by
  -- the induction is on the tags to come; those before them have been filled
  have hloop : ∀ (rest before : List Tag) (u : Scene) (g : γ), tags = before ++ rest →
      u.Rooted → u.DrawnFrom catalog → u.template = s.template → P before u →
        ∃ done, Ends catalog rest done (fillTags choose catalog rest g u) ∧
          P (before ++ done) (fillTags choose catalog rest g u).2 := by
    intro rest
    induction rest with
    | nil =>
      intro before u g _ _ _ _ hP
      exact ⟨[], .inl ⟨rfl, rfl⟩, by rwa [List.append_nil]⟩
    | cons tag rest ih =>
      intro before u g hsplit hu hfrom htemplate hP
      have htag : tag ∈ u.template.tags := by
        rw [htemplate]
        exact hall tag (hsplit ▸ List.mem_append_right _ List.mem_cons_self)
      rcases fillTags_cons choose catalog tag rest g u with ⟨hnil, hrun⟩ | ⟨e, he, hpicked⟩
      · rw [hrun]
        exact ⟨[], .inr ⟨tag, rest, rfl, rfl, hnil⟩, by rwa [List.append_nil]⟩
      · have hoption := he
        rw [hu.options_eq hfrom, List.mem_filter] at hoption
        obtain ⟨hlisted, haccepted⟩ := hoption
        rcases hpicked with ⟨why, hbind, -⟩ | ⟨outcome, selection, g', hbind, hrun⟩
        · rw [hbind] at haccepted
          cases haccepted
        · obtain ⟨done, hends, hdone⟩ := ih (before ++ [tag]) { u with selection } g'
            (by rw [List.append_assoc]; exact hsplit) (hu.bind htag hbind)
            (hfrom.bind hlisted hbind) htemplate
            (hstep before tag rest u e outcome selection hsplit hu he hbind hP)
          rw [hrun]
          exact ⟨tag :: done, hends.cons tag, by rwa [List.append_assoc] at hdone⟩
  obtain ⟨done, hends, hdone⟩ := hloop tags [] s g rfl h hdrawn rfl hstart
  exact ⟨done, hends, hdone⟩

/-! ## What is lost -/

/-- What was bound under the name of a filled tag is not bound there any more. -/
def Displaced (s : Scene) (done : List Tag) (u : Scene) : Prop :=
  ∀ t ∈ done, ∀ b, s.selection.get? t.name = some b → u.selection.get? t.name ≠ some b

/-- A binding under the name of an empty slot is on a tag of another kind. -/
theorem Rooted.kind_ne_of_bindingFor?_eq_none (h : s.Rooted)
    (hempty : s.selection.bindingFor? tag = none) {b : Binding}
    (hb : s.selection.get? tag.name = some b) : b.tag.kind ≠ tag.kind := by
  intro hkind
  rw [Selection.bindingFor?, hb, Option.filter_eq_none_iff] at hempty
  exact hempty b rfl (by simpa using (h.aligned _ b hb).2.trans hkind)

/-- A fill never gives back what it took: the slot that held it was not empty. -/
theorem Displaced.bind (h : Displaced s done u) (hs : s.Rooted)
    (hempty : s.selection.bindingFor? tag = none) {entity : Entity} {outcome : BindOutcome}
    {selection : Selection} (hbind : u.selection.bind tag entity = .ok (outcome, selection)) :
    Displaced s (done ++ [tag]) { u with selection } := by
  intro t ht b hb hkept
  change selection.get? t.name = some b at hkept
  by_cases hname : t.name = tag.name
  · rw [hname] at hb hkept
    exact hs.kind_ne_of_bindingFor?_eq_none hempty hb (Selection.kind_of_bind hbind hkept)
  · rcases Selection.get?_of_bind hbind hkept with hold | ⟨hn, -, -⟩
    · rcases List.mem_append.1 ht with hmem | hmem
      · exact h t hmem b hb hold
      · exact hname (by rw [List.mem_singleton.1 hmem])
    · exact hname hn

/-! ## What is kept -/

/-- Everything that `s` binds is bound in `u`. What else is bound there was put on tags in `done`,
from which nothing that `s` binds kept it. -/
structure Kept (s : Scene) (done : List Tag) (u : Scene) : Prop where
  policy : u.selection.policy = s.selection.policy
  kept : ∀ n b, s.selection.get? n = some b → u.selection.get? n = some b
  added : ∀ n b, u.selection.get? n = some b → s.selection.get? n = some b ∨
    b.tag ∈ done ∧ ∀ m c, s.selection.get? m = some c → c.entity.name = b.entity.name →
      ¬ Selection.Blocks s.selection.policy c.tag.sentence b.tag.sentence

theorem Kept.refl (s : Scene) : Kept s [] s := ⟨rfl, fun _ _ hb => hb, fun _ _ hb => .inl hb⟩

/-- Where nothing was bound before the fill, the fill clears only what it bound itself: its own
bindings stand after all others of their entity, so none of the others follows them. -/
theorem Kept.bind (h : Kept s done u) (hlate : ∀ t ∈ done, t.sentence ≤ tag.sentence)
    (hfree : s.selection.get? tag.name = none) {entity : Entity} {outcome : BindOutcome}
    {selection : Selection} (hbind : u.selection.bind tag entity = .ok (outcome, selection)) :
    Kept s (done ++ [tag]) { u with selection } := by
  have hname : ∀ n b, s.selection.get? n = some b → n ≠ tag.name := by
    rintro n b hb rfl
    rw [hfree] at hb
    cases hb
  refine ⟨(Selection.policy_bind hbind).trans h.policy, fun n b hb => ?_, fun n b hb => ?_⟩
  · change selection.get? n = some b
    have hold := h.kept n b hb
    have hne := hname n b hb
    obtain ⟨-, -, rfl⟩ | ⟨-, -, -, rfl⟩ | ⟨old, -, hget, -, rfl⟩ := Selection.bind_eq_ok hbind
    · exact hold
    · rw [Selection.get?_put, if_neg hne, hold]
    · rw [Selection.get?_replace, if_neg hne, if_neg fun hfollows => ?_, hold]
      obtain ⟨c, hc, -, hlater, hentity⟩ := Selection.mem_followers.1 hfollows
      obtain rfl := Option.some.inj (hold.symm.trans hc)
      rcases h.added _ old hget with hbefore | ⟨hmem, hunblocked⟩
      · exact hname _ old hbefore rfl
      · have hlt := (Selection.of_not_blocks (hunblocked n b hb hentity)).2
        have hle := hlate old.tag hmem
        omega
  · rcases Selection.get?_of_bind hbind hb with hold | ⟨-, rfl, hobstacle⟩
    · rcases h.added n b hold with hbefore | ⟨hmem, hunblocked⟩
      · exact .inl hbefore
      · exact .inr ⟨List.mem_append_left _ hmem, hunblocked⟩
    · refine .inr ⟨List.mem_append_right _ (List.mem_singleton.2 rfl), fun m c hc hentity => ?_⟩
      rw [← h.policy]
      exact (Selection.obstacle?_eq_none.1 hobstacle).2 m c (h.kept m c hc) (hname m c hc) hentity

/-! ## What is added -/

/-- A binding of an option for the next of the waiting tags adds to what is bound. -/
theorem Filled.bind {fills : List Binding} {rest : List Tag} (h : Filled catalog s fills u)
    (ho : s.Open (fills.map Binding.tag ++ tag :: rest)) {e : Entity}
    (he : e ∈ u.options tag catalog) {outcome : BindOutcome} {selection : Selection}
    (hbind : u.selection.bind tag e = .ok (outcome, selection)) :
    Filled catalog s (fills ++ [⟨tag, e⟩]) { u with selection } ∧
      selection.size = u.selection.size + 1 := by
  have hnext := h.get?_next ho
  have hput := Selection.bind_of_get?_eq_none (obstacle?_of_mem_options hnext he) hnext
  obtain ⟨-, rfl⟩ := Prod.mk.inj (Except.ok.inj (hbind.symm.trans hput))
  exact ⟨h.fill ho he, Selection.size_put hnext e⟩

/-! ## Fills that touch nothing but empty slots -/

/-- The fill left everything that was bound as it was; and if it succeeded, there are as many more
bindings as it counted, and the scene is complete. -/
structure FillsOnly (s : Scene) (r : Except SceneError Nat × Scene) : Prop where
  kept : ∀ n b, s.selection.get? n = some b → r.2.selection.get? n = some b
  completed : ∀ filled, r.1 = .ok filled →
    r.2.selection.size = s.selection.size + filled ∧ r.2.isComplete = true

/-- What a fill has done to a scene when these tags are filled. -/
structure Progress (catalog : Catalog) (s : Scene) (done : List Tag) (u : Scene) : Prop where
  template : u.template = s.template
  displaced : Displaced s done u
  kept : (∀ t ∈ done, s.selection.get? t.name = none) → Kept s done u
  filled : s.template.Unmixed → ∃ fills, fills.map Binding.tag = done ∧ Filled catalog s fills u ∧
    u.selection.size = s.selection.size + done.length

theorem Progress.refl (h : s.Rooted) : Progress catalog s [] s where
  template := rfl
  displaced t ht := by cases ht
  kept _ := .refl s
  filled _ := ⟨[], rfl, .refl h, rfl⟩

theorem Progress.bind (h : Progress catalog s done u) (hs : s.Rooted) {rest : List Tag}
    (hsplit : s.unboundTags = done ++ tag :: rest) {e : Entity} (he : e ∈ u.options tag catalog)
    {outcome : BindOutcome} {selection : Selection}
    (hbind : u.selection.bind tag e = .ok (outcome, selection)) :
    Progress catalog s (done ++ [tag]) { u with selection } := by
  have hempty : s.selection.bindingFor? tag = none :=
    (mem_unboundTags (hsplit ▸ List.mem_append_right _ List.mem_cons_self)).2
  have hlate : ∀ t ∈ done, t.sentence ≤ tag.sentence := fun t ht =>
    ((List.pairwise_append.1 (hsplit ▸ s.pairwise_unboundTags)).2.2 t ht tag
      List.mem_cons_self).2
  refine ⟨h.template, h.displaced.bind hs hempty hbind, fun hfree => ?_, fun hunmixed => ?_⟩
  · rw [List.forall_mem_append] at hfree
    exact (h.kept hfree.1).bind hlate (hfree.2 tag (List.mem_singleton.2 rfl)) hbind
  · obtain ⟨fills, rfl, hfilled, hsize⟩ := h.filled hunmixed
    have hopen := open_unboundTags hs hunmixed
    rw [hsplit] at hopen
    obtain ⟨hmore, hgrown⟩ := hfilled.bind hopen he hbind
    refine ⟨fills ++ [⟨tag, e⟩], List.map_append, hmore, ?_⟩
    rw [hgrown, hsize, List.length_append, Nat.add_assoc]
    rfl

/-- None of the filled slots has a name that was bound before the fill, and if all were filled, no
name asks for two kinds. -/
def Apart (s : Scene) (done : List Tag) (r : Except SceneError Nat × Scene) : Prop :=
  (∀ t ∈ done, s.selection.get? t.name = none) ∧ (r.1.isOk = true → s.template.Unmixed)

theorem Progress.apart_iff {r : Except SceneError Nat × Scene}
    (h : Progress catalog s done r.2) (hends : Ends catalog s.unboundTags done r) :
    FillsOnly s r ↔ Apart s done r := by
  constructor
  · refine fun honly => ⟨fun t ht => ?_, fun hok => ?_⟩
    · rw [Option.eq_none_iff_forall_ne_some]
      intro b hb
      exact h.displaced t ht b hb (honly.kept t.name b hb)
    · rcases hends with ⟨-, hr⟩ | ⟨t, rest, -, hr, -⟩
      · rw [← h.template]
        exact unmixed_of_isComplete (honly.completed _ hr).2
      · rw [hr] at hok
        cases hok
  · rintro ⟨hfree, hunmixed⟩
    refine ⟨(h.kept hfree).kept, fun filled hr => ?_⟩
    obtain ⟨fills, hfills, hfilled, hsize⟩ := h.filled (hunmixed (by rw [hr]; rfl))
    rcases hends with ⟨hall, hr'⟩ | ⟨t, rest, -, hr', -⟩
    · obtain rfl := Except.ok.inj (hr.symm.trans hr')
      exact ⟨hsize, hfilled.isComplete (hfills.trans hall.symm)⟩
    · rw [hr] at hr'
      cases hr'

theorem Rooted.fillsOnly_fillWith (h : s.Rooted) (hdrawn : s.DrawnFrom catalog) {γ : Type}
    (choose : Random.Chooser γ) (g : γ) :
    ∃ done, Ends catalog s.unboundTags done (s.fillWith choose catalog g) ∧
      (FillsOnly s (s.fillWith choose catalog g) ↔ Apart s done (s.fillWith choose catalog g)) := by
  obtain ⟨done, hends, hprogress⟩ := h.fillTags_steps hdrawn (fun t ht => (mem_unboundTags ht).1)
    (fun before tag after u e outcome selection hsplit _ he hbind hP =>
      Progress.bind hP h hsplit he hbind) (.refl h) choose g
  exact ⟨done, hends, Progress.apart_iff hprogress hends⟩

/-- **When a fill touches nothing but empty slots.** In a scene whose entities are those of the
catalog, a fill from any seed, or with any choices among the options, leaves all that was bound as
it was, and completes the scene if it succeeds, exactly if none of the slots it filled has a name
that was bound before, and no name of the template asks for two kinds in case it succeeds. So it
does wherever no name asks for two kinds. -/
theorem fillsOnly_iff (hs : s.Reachable) (hdrawn : s.DrawnFrom catalog) :
    (∀ seed, ∃ done, Ends catalog s.unboundTags done (s.autoFill catalog seed) ∧
      (FillsOnly s (s.autoFill catalog seed) ↔ Apart s done (s.autoFill catalog seed))) ∧
    (∀ {γ : Type} (choose : Random.Chooser γ) (g : γ),
      ∃ done, Ends catalog s.unboundTags done (s.fillWith choose catalog g) ∧
        (FillsOnly s (s.fillWith choose catalog g) ↔ Apart s done (s.fillWith choose catalog g))) ∧
    (s.template.Unmixed → ∀ seed, FillsOnly s (s.autoFill catalog seed)) := by
  refine ⟨fun seed => hs.rooted.fillsOnly_fillWith hdrawn _ _,
    fun choose g => hs.rooted.fillsOnly_fillWith hdrawn choose g, fun hunmixed seed => ?_⟩
  obtain ⟨done, hends, hiff⟩ := hs.rooted.fillsOnly_fillWith hdrawn Random.choose (.ofSeed seed)
  refine hiff.2 ⟨fun t ht => (open_unboundTags hs.rooted hunmixed).unbound t ?_, fun _ => hunmixed⟩
  rcases hends with ⟨hall, -⟩ | ⟨v, rest, hsplit, -⟩
  · rwa [hall]
  · rw [hsplit]
    exact List.mem_append_left _ ht

/-- A fill that stops before it comes to the second slot of a name. -/
theorem fillsOnly_iff_stopped :
    let ada : Entity := { name := "Ada", kind := .character }
    let bea : Entity := { name := "Bea", kind := .character }
    let cow : Entity := { name := "Cow", kind := .creature }
    let catalog : Catalog := ⟨[ada, bea, cow], by decide⟩
    let template : Template := ⟨"meadow", ["\x7bcharacter:a\x7d leads \x7bcharacter:c\x7d.",
      "At \x7blandmark:b\x7d a \x7bcreature:a\x7d grazes."]⟩
    let s := (ofTemplate template ⟨.downstream, " "⟩).run [.bindByName "a" ada]
    s.Reachable ∧ s.DrawnFrom catalog ∧ ¬ s.template.Unmixed ∧
      (s.autoFill catalog 1).1 = .error (.noOptions ⟨.landmark, "b", 1⟩) ∧
      FillsOnly s (s.autoFill catalog 1) := by
  intro ada bea cow catalog template s
  have hs : s.Reachable := ⟨template, _, _, rfl⟩
  have hdrawn : s.DrawnFrom catalog := by
    have hlisted : ∀ e ∈ s.selection.bindings.entries,
        catalog.get? e.2.entity.name = some e.2.entity := by decide +kernel
    exact fun n b hb => hlisted (n, b) (NameMap.mem_entries_iff.2 hb)
  have htags : s.unboundTags =
      [⟨.character, "c", 0⟩, ⟨.landmark, "b", 1⟩, ⟨.creature, "a", 1⟩] := by decide +kernel
  have hoptions : s.options ⟨.character, "c", 0⟩ catalog = [bea] := by decide +kernel
  have haccepted : (s.selection.bind ⟨.character, "c", 0⟩ bea).isOk = true := by decide +kernel
  -- whatever is chosen for the first tag, there is no landmark for the second
  have hstop : (s.autoFill catalog 1).1 = .error (.noOptions ⟨.landmark, "b", 1⟩) := by
    rw [autoFill, fillWith, htags]
    rcases fillTags_cons Random.choose catalog _ _ _ s with
      ⟨hnil, -⟩ | ⟨e, he, ⟨why, hbind, -⟩ | ⟨outcome, selection, g', -, hrun⟩⟩
    · rw [hoptions] at hnil
      cases hnil
    · rw [hoptions, List.mem_singleton] at he
      rw [he] at hbind
      rw [hbind] at haccepted
      cases haccepted
    · rw [hrun]
      rfl
  obtain ⟨done, hends, hiff⟩ := (fillsOnly_iff hs hdrawn).1 1
  refine ⟨hs, hdrawn, by decide +kernel, hstop, hiff.2 ⟨fun t ht => ?_, fun hok => ?_⟩⟩
  · rcases hends with ⟨-, hr⟩ | ⟨v, rest, hsplit, hr, -⟩
    · rw [hstop] at hr
      cases hr
    · obtain rfl : (⟨.landmark, "b", 1⟩ : Tag) = v := by
        rw [hstop] at hr
        cases hr
        rfl
      have hdone : done = [⟨.character, "c", 0⟩] := by
        rw [htags] at hsplit
        rcases done with _ | ⟨d, _ | ⟨e, _ | ⟨f, ds⟩⟩⟩ <;> simp_all
      rw [hdone, List.mem_singleton] at ht
      rw [ht]
      decide +kernel
  · rw [hstop] at hok
    cases hok

/-- A fill that takes a character away to let a creature in, and counts itself a success. -/
theorem not_fillsOnly_twins :
    let tom : Entity := { name := "Tom", kind := .character }
    let cow : Entity := { name := "Cow", kind := .creature }
    let catalog : Catalog := ⟨[tom, cow], by decide⟩
    let template : Template := ⟨"twins", ["\x7bcharacter:x\x7d meets \x7bcreature:x\x7d."]⟩
    let s := (ofTemplate template {}).run [.bindByName "x" tom]
    s.Reachable ∧ s.DrawnFrom catalog ∧ (s.autoFill catalog 7).1 = .ok 1 ∧
      s.selection.get? "x" = some ⟨⟨.character, "x", 0⟩, tom⟩ ∧
      (s.autoFill catalog 7).2.selection.get? "x" = some ⟨⟨.creature, "x", 0⟩, cow⟩ ∧
      ¬ FillsOnly s (s.autoFill catalog 7) := by
  intro tom cow catalog template s
  have hlisted : ∀ e ∈ s.selection.bindings.entries,
      catalog.get? e.2.entity.name = some e.2.entity := by decide +kernel
  have hbefore : s.selection.get? "x" = some ⟨⟨.character, "x", 0⟩, tom⟩ := by decide +kernel
  have hafter : (s.autoFill catalog 7).2.selection.get? "x" =
      some ⟨⟨.creature, "x", 0⟩, cow⟩ := by decide +kernel
  refine ⟨⟨template, _, _, rfl⟩, fun n b hb => hlisted (n, b) (NameMap.mem_entries_iff.2 hb),
    by decide +kernel, hbefore, hafter, fun honly => ?_⟩
  have hkept := honly.kept "x" _ hbefore
  rw [hafter] at hkept
  cases hkept

end Scene

end StoryBlanks
