import StoryBlanks.Proofs.Selection.Unique

/-!
# The names in use are the names bound

The names in use are kept apart from the bindings, as a set: an entity that several names hold is
in it once, and must leave it with the last of them. A name is let go by a test of names alone and
taken out under the kind of one entity, so the two agree only while entities of one name have one
kind. Under the strict policy they do, since no two names hold one entity.

* `Selection.Mirrors`: the invariant; `Mirrors.release`, `Mirrors.put`: how it is kept.
* `Selection.Coherent`: entities of one name that are bound have one kind.
* `Selection.Aligned`: names and kinds of bindings are those of their tags.
* `mirrors_run`, `aligned_run`: whole runs.
-/

namespace StoryBlanks.Selection

/-- A name is in use under a kind exactly if some binding holds an entity of that name and kind. -/
def Mirrors (s : Selection) : Prop :=
  ∀ kind name, (kind, name) ∈ s.usage.held ↔
    ∃ n b, s.get? n = some b ∧ b.entity.kind = kind ∧ b.entity.name = name

/-- Entities of one name that are bound have one kind. -/
def Coherent (s : Selection) : Prop :=
  ∀ m n b c, s.get? m = some b → s.get? n = some c → b.entity.name = c.entity.name →
    b.entity.kind = c.entity.kind

variable {s t : Selection} {tag : Tag} {entity : Entity} {op : Op} {ops : List Op}

/-- Under the strict policy entities of one name are one entity. -/
theorem Unique.coherent (h : s.Unique) (hp : s.policy = .strict) : s.Coherent := by
  intro m n b c hb hc he
  obtain rfl := h.eq_of_strict hp hb hc he
  obtain rfl := Option.some.inj (hb.symm.trans hc)
  rfl

/-- Bindings are coherent if the entities they hold are. -/
theorem HoldsFrom.coherent {entities : List Entity} (h : s.HoldsFrom entities)
    (hkinds : ∀ e ∈ entities, ∀ f ∈ entities, e.name = f.name → e.kind = f.kind) : s.Coherent :=
  fun m n b c hb hc he => hkinds _ (h m b hb) _ (h n c hc) he

/-! ## Keeping the names in use -/

theorem Mirrors.empty (policy : ReusePolicy) : (empty policy).Mirrors := by
  intro kind name
  constructor
  · intro h
    cases h
  · rintro ⟨n, b, hb, -⟩
    cases hb

/-- Some binding holds an entity of this name. -/
theorem any_entries_iff {name : String} :
    (s.bindings.entries.any fun (_, b) => b.entity.name = name) = true ↔
      ∃ n b, s.get? n = some b ∧ b.entity.name = name := by
  simp only [List.any_eq_true, decide_eq_true_eq, Prod.exists, mem_entries]

/-- **Letting an entity go.** In `t` some bindings of `s` are gone, all of them held entities of
this name and kind, and the names in use are still those of `s`. -/
theorem Mirrors.release (h : s.Mirrors) (husage : t.usage = s.usage)
    (hsub : ∀ n b, t.get? n = some b → s.get? n = some b)
    (hkept : ∀ n b, s.get? n = some b → b.entity.name ≠ entity.name → t.get? n = some b)
    (hkind : ∀ n b, s.get? n = some b → b.entity.name = entity.name →
      b.entity.kind = entity.kind) : (t.release entity).Mirrors := by
  intro kind name
  simp only [get?_release]
  by_cases hheld : ∃ n b, t.get? n = some b ∧ b.entity.name = entity.name
  · -- another holder is left: nothing is taken out
    have hsame : (t.release entity).usage = s.usage := by
      rw [Selection.release, if_pos (any_entries_iff.2 hheld), husage]
    rw [hsame, h kind name]
    constructor
    · rintro ⟨n, b, hb, hk, hn⟩
      by_cases he : b.entity.name = entity.name
      · obtain ⟨m, c, hc, hce⟩ := hheld
        refine ⟨m, c, hc, ?_, hce.trans (he.symm.trans hn)⟩
        rw [hkind m c (hsub m c hc) hce, ← hkind n b hb he, hk]
      · exact ⟨n, b, hkept n b hb he, hk, hn⟩
    · rintro ⟨n, b, hb, hk, hn⟩
      exact ⟨n, b, hsub n b hb, hk, hn⟩
  · -- the last holder is gone
    have hless : (t.release entity).usage = s.usage.erase entity.kind entity.name := by
      rw [Selection.release, if_neg (fun hany => hheld (any_entries_iff.1 hany)), husage]
    rw [hless, Usage.mem_held_erase, h kind name]
    constructor
    · rintro ⟨hne, n, b, hb, rfl, rfl⟩
      refine ⟨n, b, hkept n b hb fun he => hne ?_, rfl, rfl⟩
      rw [hkind n b hb he, he]
    · rintro ⟨n, b, hb, rfl, rfl⟩
      refine ⟨fun heq => hheld ⟨n, b, hb, (Prod.mk.inj heq).2⟩, n, b, hsub n b hb, rfl, rfl⟩

theorem Mirrors.put (h : s.Mirrors) (hg : s.get? tag.name = none) : (s.put tag entity).Mirrors := by
  intro kind name
  change (kind, name) ∈ (s.usage.insert entity.kind entity.name).held ↔ _
  rw [Usage.mem_held_insert, h kind name]
  simp only [get?_put]
  constructor
  · rintro (heq | ⟨n, b, hb, hk, hn⟩)
    · obtain ⟨rfl, rfl⟩ := Prod.mk.inj heq
      exact ⟨tag.name, ⟨tag, entity⟩, if_pos rfl, rfl, rfl⟩
    · refine ⟨n, b, ?_, hk, hn⟩
      rw [if_neg ?_, hb]
      rintro rfl
      rw [hg] at hb
      cases hb
  · rintro ⟨n, b, hb, rfl, rfl⟩
    split at hb
    · cases hb
      exact .inl rfl
    · exact .inr ⟨n, b, hb, rfl, rfl⟩

theorem Mirrors.drop (h : s.Mirrors) (hc : s.Coherent) (name : String) : (s.drop name).Mirrors := by
  have hget : ∀ n, (s.drop name).get? n = if n = name then none else s.get? n := get?_drop s name
  unfold Selection.drop unbind at hget ⊢
  split
  · exact h
  · next b hb =>
    simp only [hb, get?_release] at hget
    refine h.release rfl (fun n c hn => ?_) (fun n c hn hne => ?_) fun n c hn he =>
      hc n name c b hn hb he
    · rw [hget] at hn
      split at hn
      · cases hn
      · exact hn
    · rw [hget, if_neg ?_, hn]
      rintro rfl
      obtain rfl := Option.some.inj (hn.symm.trans hb)
      exact hne rfl

theorem Mirrors.replace (h : s.Mirrors) (hc : s.Coherent) {old : Binding}
    (hold : s.get? tag.name = some old) : (s.replace tag entity old).Mirrors := by
  refine Mirrors.put (h.release rfl (fun n c hn => ?_) (fun n c hn hne => ?_) fun n c hn he =>
    hc n tag.name c old hn hold he) ?_
  · rw [get?_without] at hn
    split at hn
    · cases hn
    · exact hn
  · -- neither the tag's own binding nor a follower holds another entity
    rw [get?_without, if_neg ?_, hn]
    intro hmem
    rcases List.mem_cons.1 hmem with rfl | hfollow
    · obtain rfl := Option.some.inj (hn.symm.trans hold)
      exact hne rfl
    · obtain ⟨b, hb, -, -, he⟩ := mem_followers.1 hfollow
      obtain rfl := Option.some.inj (hn.symm.trans hb)
      exact hne he
  · rw [get?_release, get?_without, if_pos List.mem_cons_self]

theorem Mirrors.bind (h : s.Mirrors) (hc : s.Coherent) {outcome : BindOutcome}
    (hbind : s.bind tag entity = .ok (outcome, t)) : t.Mirrors := by
  obtain ⟨-, -, rfl⟩ | ⟨-, hg, -, rfl⟩ | ⟨old, -, hold, -, rfl⟩ := bind_eq_ok hbind
  · exact h
  · exact h.put hg
  · exact h.replace hc hold

theorem Mirrors.point (h : s.Mirrors) (name : String) : (s.point name tag).Mirrors := by
  intro kind x
  change (kind, x) ∈ s.usage.held ↔ _
  rw [h kind x]
  constructor
  · rintro ⟨n, b, hb, hk, hx⟩
    by_cases hn : n = name
    · exact ⟨n, { b with tag }, by rw [get?_point, if_pos hn, hb]; rfl, hk, hx⟩
    · exact ⟨n, b, by rw [get?_point, if_neg hn, hb], hk, hx⟩
  · rintro ⟨n, b, hb, hk, hx⟩
    obtain ⟨c, hc, he⟩ := get?_of_point hb
    rw [he] at hk hx
    exact ⟨n, c, hc, hk, hx⟩

theorem Coherent.drop (h : s.Coherent) (name : String) : (s.drop name).Coherent := by
  intro m n b c hb hc
  exact h m n b c (get?_of_drop hb) (get?_of_drop hc)

theorem Coherent.point (h : s.Coherent) (name : String) : (s.point name tag).Coherent := by
  intro m n b c hb hc he
  obtain ⟨b', hb', hbe⟩ := get?_of_point hb
  obtain ⟨c', hc', hce⟩ := get?_of_point hc
  rw [hbe, hce] at he ⊢
  exact h m n b' c' hb' hc' he

/-- **Every operation on coherent bindings keeps the names in use.** -/
theorem Mirrors.step (h : s.Mirrors) (hc : s.Coherent) (op : Op) : (s.step op).Mirrors := by
  cases op with
  | bind tag entity => exact afterBind_induction (fun _ _ hbind => h.bind hc hbind) h
  | unbind name => exact h.drop hc name
  | clear => exact .empty _
  | relocate locate =>
    have hboth : (s.relocate locate).2.Mirrors ∧ (s.relocate locate).2.Coherent :=
      relocate_induction (P := fun r => r.Mirrors ∧ r.Coherent)
        (fun r n hr => ⟨hr.1.drop hr.2 n, hr.2.drop n⟩)
        (fun r n b u _ _ _ hr => ⟨hr.1.point n, hr.2.point n⟩) ⟨h, hc⟩
    exact hboth.1

/-! ## Names and kinds -/

/-- Each binding is kept under the name of its tag, and its entity is of the tag's kind. -/
def Aligned (s : Selection) : Prop :=
  ∀ n b, s.get? n = some b → b.tag.name = n ∧ b.entity.kind = b.tag.kind

theorem Aligned.drop (h : s.Aligned) (name : String) : (s.drop name).Aligned := by
  intro n b hb
  exact h n b (get?_of_drop hb)

theorem Aligned.bind (h : s.Aligned) {outcome : BindOutcome}
    (hbind : s.bind tag entity = .ok (outcome, t)) : t.Aligned := by
  intro n b hb
  rcases get?_of_bind hbind hb with hold | ⟨rfl, rfl, ho⟩
  · exact h n b hold
  · exact ⟨rfl, (obstacle?_eq_none.1 ho).1⟩

/-- Relocation within slots changes neither names nor kinds. -/
theorem Aligned.relocate (h : s.Aligned) {locate : Binding → Option Tag}
    (hslot : ∀ b u, locate b = some u → u.SameSlot b.tag) : (s.relocate locate).2.Aligned := by
  intro n b hb
  obtain ⟨old, hold, hl, he⟩ := get?_relocate hb
  obtain ⟨hname, hkind⟩ := hslot old b.tag hl
  obtain ⟨hn, hk⟩ := h n old hold
  exact ⟨hname.trans hn, by rw [he, hk, hkind]⟩

/-! ## Whole runs -/

/-- What a run under a policy keeps, when it is given these entities to bind. -/
structure Faithful (policy : ReusePolicy) (entities : List Entity) (s : Selection) : Prop where
  policy_eq : s.policy = policy
  unique : s.Unique
  holdsFrom : s.HoldsFrom entities
  mirrors : s.Mirrors

theorem Faithful.coherent {policy : ReusePolicy} {entities : List Entity}
    (h : s.Faithful policy entities) (hkinds : policy = .downstream →
      ∀ e ∈ entities, ∀ f ∈ entities, e.name = f.name → e.kind = f.kind) : s.Coherent := by
  cases policy with
  | strict => exact h.unique.coherent h.policy_eq
  | downstream => exact h.holdsFrom.coherent (hkinds rfl)

theorem Faithful.empty (policy : ReusePolicy) (entities : List Entity) :
    (empty policy).Faithful policy entities :=
  ⟨rfl, .empty policy, fun _ _ hb => (by cases hb), .empty policy⟩

theorem Faithful.step {policy : ReusePolicy} (h : s.Faithful policy (bound ops))
    (hkinds : policy = .downstream →
      ∀ e ∈ bound ops, ∀ f ∈ bound ops, e.name = f.name → e.kind = f.kind) (hop : op ∈ ops) :
    (s.step op).Faithful policy (bound ops) where
  policy_eq := (policy_step s op).trans h.policy_eq
  unique := h.unique.step op
  holdsFrom := h.holdsFrom.step hop
  mirrors := h.mirrors.step (h.coherent hkinds) op

/-- **Whatever is done to a selection, the names in use are the names bound.** Under the downstream
policy the entities that are given to bind must have one kind for each name, as the entities of a
catalog do. -/
theorem mirrors_run (policy : ReusePolicy) (ops : List Op) (hkinds : policy = .downstream →
    ∀ e ∈ bound ops, ∀ f ∈ bound ops, e.name = f.name → e.kind = f.kind) :
    ((Selection.empty policy).run ops).Mirrors := by
  have hrun : ((Selection.empty policy).run ops).Faithful policy (bound ops) :=
    run_induction (fun r op hop hr => hr.step hkinds hop) (.empty policy _)
  exact hrun.mirrors

/-- **Names and kinds of bindings stay those of their tags**, if relocation keeps to their slots. -/
theorem aligned_run (policy : ReusePolicy) (ops : List Op) (hslot : ∀ locate,
    Op.relocate locate ∈ ops → ∀ b u, locate b = some u → u.SameSlot b.tag) :
    ((Selection.empty policy).run ops).Aligned := by
  refine run_induction (fun r op hop hr => ?_) fun n b hb => by cases hb
  cases op with
  | bind tag entity => exact afterBind_induction (fun _ _ hbind => hr.bind hbind) hr
  | unbind name => exact hr.drop name
  | clear => exact fun n b hb => by cases hb
  | relocate locate => exact hr.relocate (hslot locate hop)

end StoryBlanks.Selection
