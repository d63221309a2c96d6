import StoryBlanks.Selection.Relocate

/-!
# What each operation leaves under a name

A selection is seen here as the function `get?`. Each operation is described by what it leaves
under every name; the statements about whole runs use these descriptions and no definition.

* `bind_eq_ok`: the three ways in which a binding succeeds; `isOk_bind_iff`: when it does;
  `get?_of_bind`: what it leaves.
* `mem_holders`, `mem_followers`: who stands in the way, and who follows.
* `get?_moveAll`, `get?_relocate`: each binding that stays has gone where it was sent.
* `relocate_induction`: what drops and single moves preserve, relocation preserves.
-/

namespace StoryBlanks.Selection

variable {s t : Selection} {tag : Tag} {entity : Entity}

@[simp] theorem get?_empty (policy : ReusePolicy) (n : String) : (empty policy).get? n = none := rfl

theorem mem_entries {n : String} {b : Binding} : (n, b) ∈ s.bindings.entries ↔ s.get? n = some b :=
  NameMap.mem_entries_iff

/-- The names of a filtered map are those that hold something to keep. -/
theorem mem_keys_filter {keep : String → Binding → Bool} {n : String} :
    n ∈ (s.bindings.filter keep).keys ↔ ∃ b, s.get? n = some b ∧ keep n b = true := by
  rw [NameMap.mem_keys_iff]
  simp only [NameMap.get?_filter, Option.filter_eq_some_iff, get?]

/-! ## Single changes -/

@[simp] theorem get?_release (s : Selection) (entity : Entity) (n : String) :
    (s.release entity).get? n = s.get? n := by
  unfold release
  split <;> rfl

@[simp] theorem policy_release (s : Selection) (entity : Entity) :
    (s.release entity).policy = s.policy := by
  unfold release
  split <;> rfl

theorem get?_drop (s : Selection) (name n : String) :
    (s.drop name).get? n = if n = name then none else s.get? n := by
  unfold drop unbind
  split
  · next h =>
    by_cases hn : n = name
    · rw [if_pos hn, hn, h]
    · rw [if_neg hn]
  · rw [get?_release]
    exact NameMap.get?_erase ..

/-- What is left was there before. -/
theorem get?_of_drop {name n : String} {b : Binding} (h : (s.drop name).get? n = some b) :
    s.get? n = some b := by
  rw [get?_drop] at h
  split at h
  · cases h
  · exact h

@[simp] theorem policy_drop (s : Selection) (name : String) : (s.drop name).policy = s.policy := by
  unfold drop unbind
  split
  · rfl
  · rw [policy_release]

theorem get?_put (s : Selection) (tag : Tag) (entity : Entity) (n : String) :
    (s.put tag entity).get? n = if n = tag.name then some ⟨tag, entity⟩ else s.get? n :=
  NameMap.get?_insert ..

@[simp] theorem policy_put (s : Selection) (tag : Tag) (entity : Entity) :
    (s.put tag entity).policy = s.policy := rfl

theorem size_put (h : s.get? tag.name = none) (entity : Entity) :
    (s.put tag entity).size = s.size + 1 :=
  NameMap.size_insert h _

theorem get?_without (s : Selection) (names : List String) (n : String) :
    (s.without names).get? n = if n ∈ names then none else s.get? n := by
  rw [without, get?, NameMap.get?_filter, get?]
  by_cases h : n ∈ names
  · simp [h]
  · cases s.bindings.get? n <;> simp [h, Option.filter]

theorem get?_point (s : Selection) (name : String) (tag : Tag) (n : String) :
    (s.point name tag).get? n =
      if n = name then (s.get? n).map fun b => { b with tag } else s.get? n :=
  NameMap.get?_modify ..

/-- A binding that has moved holds the entity it held. -/
theorem get?_of_point {name n : String} {b : Binding} (h : (s.point name tag).get? n = some b) :
    ∃ c, s.get? n = some c ∧ b.entity = c.entity := by
  rw [get?_point] at h
  split at h
  · obtain ⟨c, hc, rfl⟩ := Option.map_eq_some_iff.1 h
    exact ⟨c, hc, rfl⟩
  · exact ⟨b, h, rfl⟩

/-! ## Who stands in the way, and who follows -/

theorem mem_holders {n : String} :
    n ∈ s.holders tag entity ↔ ∃ b, s.get? n = some b ∧ n ≠ tag.name ∧
      b.entity.name = entity.name ∧ Blocks s.policy b.tag.sentence tag.sentence := by
  simp only [holders, mem_keys_filter, decide_eq_true_eq]

theorem mem_followers {n previous : String} :
    n ∈ s.followers tag previous ↔ ∃ b, s.get? n = some b ∧ n ≠ tag.name ∧
      tag.sentence < b.tag.sentence ∧ b.entity.name = previous := by
  simp only [followers, mem_keys_filter, decide_eq_true_eq]

/-- Nothing keeps an entity from a tag exactly if the kinds agree and no other name blocks it. -/
theorem obstacle?_eq_none : s.obstacle? tag entity = none ↔
    entity.kind = tag.kind ∧ ∀ n b, s.get? n = some b → n ≠ tag.name →
      b.entity.name = entity.name → ¬ Blocks s.policy b.tag.sentence tag.sentence := by
  unfold obstacle?
  split
  · next hk =>
    rw [Option.map_eq_none_iff, List.head?_eq_none_iff, List.eq_nil_iff_forall_not_mem]
    constructor
    · intro h
      exact ⟨hk, fun n b hb hn he hblock => h n (mem_holders.2 ⟨b, hb, hn, he, hblock⟩)⟩
    · rintro ⟨-, h⟩ n hmem
      obtain ⟨b, hb, hn, he, hblock⟩ := mem_holders.1 hmem
      exact h n b hb hn he hblock
  · next hk => simp [hk]

/-- A name that is reported as a holder is one. -/
theorem mem_holders_of_obstacle? {name holder : String}
    (h : s.obstacle? tag entity = some (.alreadyUsed name holder)) :
    name = entity.name ∧ holder ∈ s.holders tag entity := by
  unfold obstacle? at h
  split at h
  · obtain ⟨n, hn, he⟩ := Option.map_eq_some_iff.1 h
    cases he
    exact ⟨rfl, List.mem_of_head? hn⟩
  · cases h

/-! ## Binding -/

/-- The selection in which an entity takes the place of `old`. -/
def replace (s : Selection) (tag : Tag) (entity : Entity) (old : Binding) : Selection :=
  ((s.without (tag.name :: s.followers tag old.entity.name)).release old.entity).put tag entity

theorem get?_replace (s : Selection) (tag : Tag) (entity : Entity) (old : Binding) (n : String) :
    (s.replace tag entity old).get? n = if n = tag.name then some ⟨tag, entity⟩
      else if n ∈ s.followers tag old.entity.name then none else s.get? n := by
  rw [replace, get?_put, get?_release, get?_without]
  by_cases hn : n = tag.name
  · rw [if_pos hn, if_pos hn]
  · rw [if_neg hn, if_neg hn]
    simp only [List.mem_cons, hn, false_or]

@[simp] theorem policy_replace (s : Selection) (tag : Tag) (entity : Entity) (old : Binding) :
    (s.replace tag entity old).policy = s.policy := by
  rw [replace, policy_put, policy_release]
  rfl

/-- **The three ways to succeed.** The tag holds the entity; or nothing stands in the way, and the
tag held nothing, or something else. -/
theorem bind_eq_ok {outcome : BindOutcome} (h : s.bind tag entity = .ok (outcome, t)) :
    (s.Holds tag entity ∧ outcome = .unchanged ∧ t = s) ∨
    (s.obstacle? tag entity = none ∧ s.get? tag.name = none ∧ outcome = .bound ∧
      t = s.put tag entity) ∨
    ∃ old, s.obstacle? tag entity = none ∧ s.get? tag.name = some old ∧
      outcome = .replaced old.entity.name (s.followers tag old.entity.name) ∧
      t = s.replace tag entity old := by
  unfold bind at h
  split at h
  · next hh =>
    cases h
    exact .inl ⟨hh, rfl, rfl⟩
  · split at h
    · cases h
    · next ho =>
      split at h
      · next hg =>
        cases h
        exact .inr (.inl ⟨ho, hg, rfl, rfl⟩)
      · next old hg =>
        cases h
        exact .inr (.inr ⟨old, ho, hg, rfl, rfl⟩)

/-- A binding fails only for the obstacle in its way. -/
theorem bind_eq_error {e : BindError} (h : s.bind tag entity = .error e) :
    ¬ s.Holds tag entity ∧ s.obstacle? tag entity = some e := by
  unfold bind at h
  split at h
  · cases h
  · next hh =>
    split at h
    · next ho =>
      cases h
      exact ⟨hh, ho⟩
    · split at h <;> cases h

/-- A binding succeeds exactly if the tag holds the entity already or nothing stands in the way. -/
theorem isOk_bind_iff :
    (s.bind tag entity).isOk = true ↔ s.Holds tag entity ∨ s.obstacle? tag entity = none := by
  unfold bind
  split
  · next hh => exact iff_of_true rfl (.inl hh)
  · next hh =>
    split
    · next ho => simp [hh, ho, Except.isOk, Except.toBool]
    · next ho => split <;> simp [ho, Except.isOk, Except.toBool]

/-- A binding under a tag that holds nothing. -/
theorem bind_of_get?_eq_none (ho : s.obstacle? tag entity = none) (hg : s.get? tag.name = none) :
    s.bind tag entity = .ok (.bound, s.put tag entity) := by
  have hh : ¬ s.Holds tag entity := by
    rintro ⟨b, hb, -⟩
    rw [hg] at hb
    cases hb
  simp only [bind, if_neg hh, ho, hg]

theorem policy_bind {outcome : BindOutcome} (h : s.bind tag entity = .ok (outcome, t)) :
    t.policy = s.policy := by
  obtain ⟨-, -, rfl⟩ | ⟨-, -, -, rfl⟩ | ⟨old, -, -, -, rfl⟩ := bind_eq_ok h
  · rfl
  · rfl
  · exact policy_replace ..

/-- What is bound after a binding was bound before, or is the new binding, which met no obstacle. -/
theorem get?_of_bind {outcome : BindOutcome} (h : s.bind tag entity = .ok (outcome, t)) {n : String}
    {b : Binding} (hb : t.get? n = some b) :
    s.get? n = some b ∨ (n = tag.name ∧ b = ⟨tag, entity⟩ ∧ s.obstacle? tag entity = none) := by
  obtain ⟨-, -, rfl⟩ | ⟨ho, -, -, rfl⟩ | ⟨old, ho, -, -, rfl⟩ := bind_eq_ok h
  · exact .inl hb
  · rw [get?_put] at hb
    split at hb
    · next hn => exact .inr ⟨hn, (Option.some.inj hb).symm, ho⟩
    · exact .inl hb
  · rw [get?_replace] at hb
    split at hb
    · next hn => exact .inr ⟨hn, (Option.some.inj hb).symm, ho⟩
    · split at hb
      · cases hb
      · exact .inl hb

/-- The binding that an attempt leaves under the name of its tag is on a tag of its kind. -/
theorem kind_of_bind {outcome : BindOutcome} (h : s.bind tag entity = .ok (outcome, t))
    {b : Binding} (hb : t.get? tag.name = some b) : b.tag.kind = tag.kind := by
  obtain ⟨⟨c, hc, -, hkind, -⟩, -, rfl⟩ | ⟨-, -, -, rfl⟩ | ⟨old, -, -, -, rfl⟩ := bind_eq_ok h
  · obtain rfl := Option.some.inj (hc.symm.trans hb)
    exact hkind
  · rw [get?_put, if_pos rfl] at hb
    cases hb
    rfl
  · rw [get?_replace, if_pos rfl] at hb
    cases hb
    rfl

/-! ## Relocation -/

theorem crowded_iff {name entityName : String} {sentence : Nat} :
    s.Crowded name entityName sentence ↔ ∃ n b, s.get? n = some b ∧ n ≠ name ∧
      b.entity.name = entityName ∧ b.tag.sentence = sentence := by
  constructor
  · rintro ⟨⟨n, b⟩, hmem, hrest⟩
    exact ⟨n, b, mem_entries.1 hmem, hrest⟩
  · rintro ⟨n, b, hb, hrest⟩
    exact ⟨(n, b), mem_entries.2 hb, hrest⟩

theorem mem_lostNames {locate : Binding → Option Tag} {n : String} :
    n ∈ s.lostNames locate ↔ ∃ b, s.get? n = some b ∧ locate b = none := by
  simp only [lostNames, mem_keys_filter, decide_eq_true_eq]

theorem mem_moves {locate : Binding → Option Tag} {n : String} {u : Tag} :
    (n, u) ∈ s.moves locate ↔ ∃ b, s.get? n = some b ∧ locate b = some u ∧ u ≠ b.tag := by
  simp only [moves, List.mem_mergeSort, List.mem_filterMap, Prod.exists, mem_entries]
  constructor
  · rintro ⟨m, b, hb, hmove⟩
    split at hmove
    · cases hmove
    · next v hl =>
      split at hmove
      · cases hmove
      · next hne =>
        cases hmove
        exact ⟨b, hb, hl, hne⟩
  · rintro ⟨b, hb, hl, hne⟩
    exact ⟨n, b, hb, by simp only [hl, if_neg hne]⟩

/-- No name is sent to two tags. -/
theorem nodup_moves (s : Selection) (locate : Binding → Option Tag) :
    ((s.moves locate).map Prod.fst).Nodup := by
  refine (List.Perm.nodup_iff ((List.mergeSort_perm _ _).map Prod.fst)).2 ?_
  refine List.Pairwise.sublist ?_ s.bindings.distinct
  induction s.bindings.entries with
  | nil => exact .slnil
  | cons e es ih =>
    obtain ⟨name, b⟩ := e
    rw [List.filterMap_cons, List.map_cons]
    split
    · exact ih.cons _
    · next move hmove =>
      have hfst : move.1 = name := by
        dsimp only at hmove
        split at hmove
        · cases hmove
        · split at hmove
          · cases hmove
          · cases hmove
            rfl
      rw [List.map_cons, hfst]
      exact ih.cons_cons _

theorem get?_foldl_drop (names : List String) (s : Selection) (n : String) :
    (names.foldl drop s).get? n = if n ∈ names then none else s.get? n := by
  induction names generalizing s with
  | nil => simp
  | cons name names ih =>
    rw [List.foldl_cons, ih, get?_drop]
    by_cases h : n ∈ names
    · simp [h]
    · simp [h]

/-- **Moves one after another.** A name that is not sent anywhere keeps what it holds; a name that
is sent to a tag goes there or is dropped. -/
theorem get?_moveAll {moves : List (String × Tag)} (hd : (moves.map Prod.fst).Nodup)
    (s : Selection) (n : String) :
    (n ∉ moves.map Prod.fst → (s.moveAll moves).2.get? n = s.get? n) ∧
      ∀ u, (n, u) ∈ moves → (s.moveAll moves).2.get? n = none ∨
        (s.moveAll moves).2.get? n = (s.get? n).map fun b => { b with tag := u } := by
  induction moves generalizing s with
  | nil => exact ⟨fun _ => rfl, by simp⟩
  | cons move moves ih =>
    obtain ⟨name, target⟩ := move
    rw [List.map_cons, List.nodup_cons] at hd
    -- the rest of the moves leaves `name` alone, and sees the other names as they were before
    have hrest : ∀ r : Selection, (∀ m, m ≠ name → r.get? m = s.get? m) →
        (r.get? name = none ∨ r.get? name = (s.get? name).map fun b => { b with tag := target }) →
        (n ∉ name :: moves.map Prod.fst → (r.moveAll moves).2.get? n = s.get? n) ∧
          ∀ u, (n, u) ∈ (name, target) :: moves → (r.moveAll moves).2.get? n = none ∨
            (r.moveAll moves).2.get? n = (s.get? n).map fun b => { b with tag := u } := by
      intro r hother hname
      refine ⟨fun hn => ?_, fun u hu => ?_⟩
      · rw [List.mem_cons, not_or] at hn
        rw [(ih hd.2 r).1 hn.2, hother n hn.1]
      · rcases List.mem_cons.1 hu with hhere | hlater
        · cases hhere
          rw [(ih hd.2 r).1 hd.1]
          exact hname
        · have hne : n ≠ name := by
            rintro rfl
            have hmem := List.mem_map_of_mem (f := Prod.fst) hlater
            exact hd.1 hmem
          rw [← hother n hne]
          exact (ih hd.2 r).2 u hlater
    rw [List.map_cons, moveAll]
    split
    · next hg =>
      exact hrest s (fun _ _ => rfl) (.inl hg)
    · next b hg =>
      split
      · refine hrest (s.drop name) (fun m hm => ?_) (.inl ?_)
        · rw [get?_drop, if_neg hm]
        · rw [get?_drop, if_pos rfl]
      · refine hrest (s.point name target) (fun m hm => ?_) (.inr ?_)
        · rw [get?_point, if_neg hm]
        · rw [get?_point, if_pos rfl]

/-- **A binding that stays stands where it was sent**, with the entity it held before. -/
theorem get?_relocate {locate : Binding → Option Tag} {n : String} {b : Binding}
    (hb : (s.relocate locate).2.get? n = some b) :
    ∃ old, s.get? n = some old ∧ locate old = some b.tag ∧ b.entity = old.entity := by
  have hafter := get?_moveAll (s.nodup_moves locate) ((s.lostNames locate).foldl drop s) n
  rw [get?_foldl_drop] at hafter
  change (moveAll _ _).2.get? n = some b at hb
  by_cases hlost : n ∈ s.lostNames locate
  · -- a dropped name does not come back
    simp only [if_pos hlost, Option.map_none, or_self] at hafter
    exfalso
    by_cases hm : n ∈ (s.moves locate).map Prod.fst
    · obtain ⟨⟨m, u⟩, hmem, rfl⟩ := List.mem_map.1 hm
      rw [hafter.2 u hmem] at hb
      cases hb
    · rw [hafter.1 hm] at hb
      cases hb
  · rw [if_neg hlost] at hafter
    by_cases hm : n ∈ (s.moves locate).map Prod.fst
    · obtain ⟨⟨m, u⟩, hmem, rfl⟩ := List.mem_map.1 hm
      obtain ⟨old, hold, hl, -⟩ := mem_moves.1 hmem
      have hpointed := (hafter.2 u hmem).resolve_left (by rw [hb]; simp)
      rw [hb, hold, Option.map_some, Option.some.injEq] at hpointed
      subst hpointed
      exact ⟨old, hold, hl, rfl⟩
    · rw [hafter.1 hm] at hb
      refine ⟨b, hb, ?_, rfl⟩
      -- it was neither lost nor sent elsewhere, so it was found where it stands
      cases hl : locate b with
      | none => exact absurd (mem_lostNames.2 ⟨b, hb, hl⟩) hlost
      | some u =>
        by_cases hu : u = b.tag
        · rw [hu]
        · exact absurd (List.mem_map_of_mem (f := Prod.fst) (mem_moves.2 ⟨b, hb, hl, hu⟩)) hm

theorem foldl_drop_induction {P : Selection → Prop} (hdrop : ∀ r n, P r → P (r.drop n))
    (names : List String) (h : P s) : P (names.foldl drop s) := by
  induction names generalizing s with
  | nil => exact h
  | cons name names ih => exact ih (hdrop s name h)

theorem moveAll_induction {P : Selection → Prop} {moves : List (String × Tag)}
    (hdrop : ∀ r n, P r → P (r.drop n))
    (hpoint : ∀ r n b u, (n, u) ∈ moves → r.get? n = some b →
      ¬ r.Crowded n b.entity.name u.sentence → P r → P (r.point n u))
    (h : P s) : P (s.moveAll moves).2 := by
  induction moves generalizing s with
  | nil => exact h
  | cons move moves ih =>
    obtain ⟨name, target⟩ := move
    have ih' : ∀ {r : Selection}, P r → P (r.moveAll moves).2 :=
      ih fun r n b u hmem => hpoint r n b u (List.mem_cons_of_mem _ hmem)
    rw [moveAll]
    split
    · exact ih' h
    · next b hg =>
      split
      · exact ih' (hdrop s name h)
      · next hc => exact ih' (hpoint s name b target List.mem_cons_self hg hc h)

/-- **What drops and uncrowded moves preserve, relocation preserves.** -/
theorem relocate_induction {P : Selection → Prop} {locate : Binding → Option Tag}
    (hdrop : ∀ r n, P r → P (r.drop n))
    (hpoint : ∀ r n b u, (∃ old, s.get? n = some old ∧ locate old = some u) → r.get? n = some b →
      ¬ r.Crowded n b.entity.name u.sentence → P r → P (r.point n u))
    (h : P s) : P (s.relocate locate).2 := by
  have hmoves : ∀ r n b u, (n, u) ∈ s.moves locate → r.get? n = some b →
      ¬ r.Crowded n b.entity.name u.sentence → P r → P (r.point n u) := by
    intro r n b u hmem
    obtain ⟨old, hold, hl, -⟩ := mem_moves.1 hmem
    exact hpoint r n b u ⟨old, hold, hl⟩
  exact moveAll_induction hdrop hmoves (foldl_drop_induction hdrop (s.lostNames locate) h)

theorem policy_relocate (s : Selection) (locate : Binding → Option Tag) :
    (s.relocate locate).2.policy = s.policy :=
  relocate_induction (P := fun r => r.policy = s.policy) (fun r n h => (policy_drop r n).trans h)
    (fun _ _ _ _ _ _ _ h => h) rfl

end StoryBlanks.Selection
