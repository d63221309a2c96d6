import StoryBlanks.Proofs.Selection.Usage

/-!
# Assignments that can be bound

An assignment gives each of its tag names one entity of the kind that is asked for. Whether it can
be bound to an empty selection, one binding after another, is a matter of order alone: no binding
may keep its entity from one that comes later. Under the strict policy this says that all entities
are different, in whatever order they are bound; under the downstream policy it says that the
holders of one entity are bound from the first sentence to the last, so that they must stand in
different ones.

* `Selection.bindAll`: bindings one after another; `Selection.Carries`: what they leave.
* `Carries.bindAll`: exactly which orders succeed.
* `Carries.eq`: the bindings and the names in use do not depend on the order.
* `bindAll_of_assignment`: both policies.
-/

namespace StoryBlanks.Selection

variable {s t : Selection} {b : Binding} {done bs cs : List Binding} {policy : ReusePolicy}

/-! ## Binding one after another -/

/-- Bind one after another, up to the first that fails; also what each binding changed. -/
def bindAll (s : Selection) : List Binding → Except BindError (List BindOutcome × Selection)
  | [] => .ok ([], s)
  | b :: bs =>
    match s.bind b.tag b.entity with
    | .error e => .error e
    | .ok (outcome, t) => (t.bindAll bs).map fun (outcomes, u) => (outcome :: outcomes, u)

/-- Each tag name comes once, with an entity of the kind that its tag asks for. -/
structure Assignment (bs : List Binding) : Prop where
  names : bs.Pairwise fun b c => b.tag.name ≠ c.tag.name
  kinds : ∀ b ∈ bs, b.entity.kind = b.tag.kind

/-- The selection binds these and nothing else, and the names in use are theirs. -/
structure Carries (bs : List Binding) (s : Selection) : Prop where
  get?_iff : ∀ n b, s.get? n = some b ↔ b ∈ bs ∧ b.tag.name = n
  mem_held_iff : ∀ kind name, (kind, name) ∈ s.usage.held ↔
    ∃ b ∈ bs, b.entity.kind = kind ∧ b.entity.name = name

theorem Carries.empty (policy : ReusePolicy) : Carries [] (empty policy) := by
  refine ⟨fun n b => ?_, fun kind name => ?_⟩
  · simp
  · simp [Selection.empty, Usage.empty]

/-- A name that comes once is free before its turn. -/
theorem Carries.get?_eq_none (h : Carries done s)
    (hnew : ∀ c ∈ done, c.tag.name ≠ b.tag.name) : s.get? b.tag.name = none := by
  rw [Option.eq_none_iff_forall_ne_some]
  intro c hc
  obtain ⟨hmem, hname⟩ := (h.get?_iff _ c).1 hc
  exact hnew c hmem hname

theorem Carries.put (h : Carries done s) (hnew : ∀ c ∈ done, c.tag.name ≠ b.tag.name) :
    Carries (done ++ [b]) (s.put b.tag b.entity) := by
  refine ⟨fun n c => ?_, fun kind name => ?_⟩
  · rw [get?_put, List.mem_append, List.mem_singleton]
    split
    · next hn =>
      subst hn
      rw [Option.some.injEq]
      constructor
      · rintro rfl
        exact ⟨.inr rfl, rfl⟩
      · rintro ⟨hmem | rfl, hname⟩
        · exact absurd hname (hnew c hmem)
        · rfl
    · next hn =>
      rw [h.get?_iff]
      constructor
      · rintro ⟨hmem, hname⟩
        exact ⟨.inl hmem, hname⟩
      · rintro ⟨hmem | rfl, hname⟩
        · exact ⟨hmem, hname⟩
        · exact absurd hname.symm hn
  · change (kind, name) ∈ (s.usage.insert b.entity.kind b.entity.name).held ↔ _
    rw [Usage.mem_held_insert, h.mem_held_iff]
    constructor
    · rintro (heq | ⟨c, hmem, hc⟩)
      · obtain ⟨rfl, rfl⟩ := Prod.mk.inj heq
        exact ⟨b, List.mem_append_right _ (List.mem_singleton.2 rfl), rfl, rfl⟩
      · exact ⟨c, List.mem_append_left _ hmem, hc⟩
    · rintro ⟨c, hmem, rfl, rfl⟩
      rcases List.mem_append.1 hmem with hmem | hmem
      · exact .inr ⟨c, hmem, rfl, rfl⟩
      · rw [List.mem_singleton.1 hmem]
        exact .inl rfl

theorem Carries.perm (h : Carries cs s) (hperm : cs.Perm bs) : Carries bs s := by
  refine ⟨fun n b => ?_, fun kind name => ?_⟩
  · rw [h.get?_iff, hperm.mem_iff]
  · rw [h.mem_held_iff]
    simp only [hperm.mem_iff]

/-- **What is bound, and what is in use, is settled by the bindings alone.** -/
theorem Carries.eq (hs : Carries bs s) (ht : Carries bs t) :
    (∀ n, s.get? n = t.get? n) ∧ ∀ kind, s.usage.names? kind = t.usage.names? kind := by
  refine ⟨fun n => Option.ext fun b => ?_, Usage.names?_congr fun e => ?_⟩
  · rw [hs.get?_iff, ht.get?_iff]
  · rw [hs.mem_held_iff, ht.mem_held_iff]

/-! ## Orders that succeed -/

/-- The first binding does not keep its entity from the second. -/
def Lets (policy : ReusePolicy) (b c : Binding) : Prop :=
  b.entity.name = c.entity.name → ¬ Blocks policy b.tag.sentence c.tag.sentence

/-- A binding meets no obstacle exactly if no binding before it keeps its entity. -/
theorem Carries.obstacle?_eq_none_iff (h : Carries done s)
    (hnew : ∀ c ∈ done, c.tag.name ≠ b.tag.name) (hkind : b.entity.kind = b.tag.kind) :
    s.obstacle? b.tag b.entity = none ↔ ∀ c ∈ done, Lets s.policy c b := by
  rw [obstacle?_eq_none]
  constructor
  · rintro ⟨-, hfree⟩ c hc hname
    exact hfree c.tag.name c ((h.get?_iff _ c).2 ⟨hc, rfl⟩) (hnew c hc) hname
  · refine fun hlets => ⟨hkind, fun n c hc _ hname => ?_⟩
    exact hlets c ((h.get?_iff n c).1 hc).1 hname

/-- No binding, made already or to be made, keeps its entity from one that comes later. -/
def Admits (policy : ReusePolicy) (done bs : List Binding) : Prop :=
  (∀ b ∈ done, ∀ c ∈ bs, Lets policy b c) ∧ bs.Pairwise (Lets policy)

theorem admits_cons : Admits policy done (b :: bs) ↔
    (∀ c ∈ done, Lets policy c b) ∧ Admits policy (done ++ [b]) bs := by
  simp only [Admits, List.forall_mem_cons, List.pairwise_cons, List.mem_append,
    List.mem_singleton, or_imp, forall_and, forall_eq]
  constructor
  · rintro ⟨⟨hlets, hdone⟩, hb, hpairs⟩
    exact ⟨hlets, ⟨hdone, hb⟩, hpairs⟩
  · rintro ⟨hlets, ⟨hdone, hb⟩, hpairs⟩
    exact ⟨⟨hlets, hdone⟩, hb, hpairs⟩

/-- **Exactly which orders succeed.** With some bindings made, the others can be bound in their
order if and only if no binding keeps its entity from a later one; each then fills a name that held
nothing. -/
theorem Carries.bindAll (h : Carries done s) (hassignment : Assignment (done ++ bs)) :
    (Admits s.policy done bs →
      ∃ t, s.bindAll bs = .ok (List.replicate bs.length .bound, t) ∧ Carries (done ++ bs) t) ∧
    (¬ Admits s.policy done bs → ∃ e, s.bindAll bs = .error e) := by
  -- the induction is on the bindings to come; those made are all that can stand in the way
  induction bs generalizing done s with
  | nil =>
    refine ⟨fun _ => ⟨s, rfl, by rwa [List.append_nil]⟩, fun hnot => absurd ?_ hnot⟩
    exact ⟨fun b _ c hc => (by cases hc), .nil⟩
  | cons b bs ih =>
    have hnew : ∀ c ∈ done, c.tag.name ≠ b.tag.name := fun c hc =>
      (List.pairwise_append.1 hassignment.names).2.2 c hc b List.mem_cons_self
    have hkind := hassignment.kinds b (List.mem_append_right _ List.mem_cons_self)
    have hiff := h.obstacle?_eq_none_iff hnew hkind
    have hempty := h.get?_eq_none hnew
    rw [admits_cons, Selection.bindAll]
    cases ho : s.obstacle? b.tag b.entity with
    | none =>
      obtain ⟨hok, herror⟩ := ih (h.put hnew) (by rwa [List.append_assoc])
      rw [bind_of_get?_eq_none ho hempty]
      refine ⟨fun hall => ?_, fun hnot => ?_⟩
      · obtain ⟨t, ht, hcarries⟩ := hok hall.2
        refine ⟨t, ?_, by rwa [List.append_assoc] at hcarries⟩
        dsimp only
        rw [ht]
        rfl
      · obtain ⟨e, he⟩ := herror fun hrest => hnot ⟨hiff.1 ho, hrest⟩
        refine ⟨e, ?_⟩
        dsimp only
        rw [he]
        rfl
    | some e =>
      refine ⟨fun hall => ?_, fun _ => ⟨e, ?_⟩⟩
      · rw [hiff.2 hall.1] at ho
        cases ho
      · have hfree : ¬ s.Holds b.tag b.entity := by
          rintro ⟨c, hc, -⟩
          rw [hempty] at hc
          cases hc
        rw [Selection.bind, if_neg hfree, ho]

theorem Assignment.perm (h : Assignment bs) (hperm : cs.Perm bs) : Assignment cs :=
  ⟨(hperm.pairwise_iff fun hne => Ne.symm hne).2 h.names,
    fun b hb => h.kinds b (hperm.mem_iff.1 hb)⟩

/-- An order of an assignment succeeds exactly if no binding keeps its entity from a later one. -/
theorem Assignment.bindAll_empty (h : Assignment bs) (hperm : cs.Perm bs) (policy : ReusePolicy) :
    (cs.Pairwise (Lets policy) → ∃ t,
      (Selection.empty policy).bindAll cs = .ok (List.replicate cs.length .bound, t) ∧
        Carries bs t) ∧
    (¬ cs.Pairwise (Lets policy) → ∃ e, (Selection.empty policy).bindAll cs = .error e) := by
  have hcarries : Carries [] (Selection.empty policy) := .empty policy
  have hassignment : Assignment ([] ++ cs) := h.perm hperm
  obtain ⟨hok, herror⟩ := hcarries.bindAll hassignment
  refine ⟨fun hpairs => ?_, fun hnot => herror fun hall => hnot hall.2⟩
  obtain ⟨t, ht, hcs⟩ := hok ⟨fun b hb => (by cases hb), hpairs⟩
  exact ⟨t, ht, hcs.perm hperm⟩

/-! ## The two policies -/

/-- What a policy asks of an assignment: that no two names share an entity, or that those that do
are in different sentences. -/
def Legal : ReusePolicy → List Binding → Prop
  | .strict, bs => bs.Pairwise fun b c => b.entity.name ≠ c.entity.name
  | .downstream, bs =>
    bs.Pairwise fun b c => b.entity.name = c.entity.name → b.tag.sentence ≠ c.tag.sentence

theorem Legal.perm (h : Legal policy bs) (hperm : cs.Perm bs) : Legal policy cs := by
  cases policy with
  | strict => exact (hperm.pairwise_iff fun hne => Ne.symm hne).2 h
  | downstream => exact (hperm.pairwise_iff fun hbc he => (hbc he.symm).symm).2 h

/-- An order in which no binding keeps its entity from a later one is one of a legal assignment. -/
theorem Legal.of_lets (h : cs.Pairwise (Lets policy)) : Legal policy cs := by
  cases policy with
  | strict => exact h.imp fun hbc he => hbc he trivial
  | downstream => exact h.imp fun hbc he hs => hbc he (Nat.le_of_eq hs.symm)

/-- Under the strict policy any order of a legal assignment is one. -/
theorem Legal.lets_strict (h : Legal .strict cs) : cs.Pairwise (Lets .strict) :=
  List.Pairwise.imp (fun hne he => absurd he hne) h

/-- Under the downstream policy an order by sentences is one. -/
theorem Legal.lets_downstream (h : Legal .downstream cs)
    (hsorted : cs.Pairwise fun b c => b.tag.sentence ≤ c.tag.sentence) :
    cs.Pairwise (Lets .downstream) :=
  hsorted.imp₂ (fun _ _ hle hne he hblocks => hne he (Nat.le_antisymm hle hblocks)) h

/-- **The policies admit exactly the legal assignments.** Under the strict policy a legal
assignment can be bound in any order, each binding fills a name that held nothing, and all orders
leave the same bindings and the same names in use. Under the downstream policy this holds of the
orders by sentences. An assignment that is not legal fails in every order. -/
theorem bindAll_of_assignment (h : Assignment bs) :
    (Legal .strict bs →
      (∀ cs, cs.Perm bs → ∃ t,
        (Selection.empty .strict).bindAll cs = .ok (List.replicate cs.length .bound, t) ∧
          Carries bs t) ∧
      ∀ cs ds outcomes outcomes' t u, cs.Perm bs → ds.Perm bs →
        (Selection.empty .strict).bindAll cs = .ok (outcomes, t) →
          (Selection.empty .strict).bindAll ds = .ok (outcomes', u) →
            (∀ n, t.get? n = u.get? n) ∧ ∀ kind, t.usage.names? kind = u.usage.names? kind) ∧
    (Legal .downstream bs → ∀ cs, cs.Perm bs →
      (cs.Pairwise fun b c => b.tag.sentence ≤ c.tag.sentence) → ∃ t,
        (Selection.empty .downstream).bindAll cs = .ok (List.replicate cs.length .bound, t) ∧
          Carries bs t) ∧
    ∀ policy, ¬ Legal policy bs → ∀ cs, cs.Perm bs →
      ∃ e, (Selection.empty policy).bindAll cs = .error e := by
  refine ⟨fun hlegal => ?_, fun hlegal cs hperm hsorted => ?_, fun policy hnot cs hperm => ?_⟩
  · have hcarries : ∀ cs, cs.Perm bs → ∃ t,
        (Selection.empty .strict).bindAll cs = .ok (List.replicate cs.length .bound, t) ∧
          Carries bs t :=
      fun cs hperm => (h.bindAll_empty hperm .strict).1 (hlegal.perm hperm).lets_strict
    refine ⟨hcarries, fun cs ds outcomes outcomes' t u hcs hds ht hu => ?_⟩
    obtain ⟨t', ht', htc⟩ := hcarries cs hcs
    obtain ⟨u', hu', huc⟩ := hcarries ds hds
    obtain ⟨-, rfl⟩ := Prod.mk.inj (Except.ok.inj (ht.symm.trans ht'))
    obtain ⟨-, rfl⟩ := Prod.mk.inj (Except.ok.inj (hu.symm.trans hu'))
    exact htc.eq huc
  · exact (h.bindAll_empty hperm .downstream).1 ((hlegal.perm hperm).lets_downstream hsorted)
  · refine (h.bindAll_empty hperm policy).2 fun hlets => hnot ?_
    exact (Legal.of_lets hlets).perm hperm.symm

/-- Ada in the first and the last sentence: bound from the first to the last she can come again, and
with the last first, or under the strict policy, she cannot. -/
theorem bindAll_of_assignment_recurring :
    let ada : Entity := { name := "Ada", kind := .character }
    let cow : Entity := { name := "Cow", kind := .creature }
    let first : Binding := ⟨⟨.character, "a", 0⟩, ada⟩
    let middle : Binding := ⟨⟨.creature, "b", 1⟩, cow⟩
    let last : Binding := ⟨⟨.character, "c", 2⟩, ada⟩
    Assignment [last, middle, first] ∧ Legal .downstream [last, middle, first] ∧
      (∃ t, (Selection.empty .downstream).bindAll [first, middle, last] =
        .ok ([.bound, .bound, .bound], t) ∧ Carries [last, middle, first] t) ∧
      (∃ e, (Selection.empty .downstream).bindAll [last, middle, first] = .error e) ∧
      ∃ e, (Selection.empty .strict).bindAll [first, middle, last] = .error e := by
  intro ada cow first middle last
  have hassignment : Assignment [last, middle, first] := ⟨by decide, by decide⟩
  have hlegal : Legal .downstream [last, middle, first] := by
    unfold Legal
    decide
  have hstrict : ¬ Legal .strict [last, middle, first] := by
    unfold Legal
    decide
  have hperm : [first, middle, last].Perm [last, middle, first] := by decide
  obtain ⟨-, hdownstream, hfails⟩ := bindAll_of_assignment hassignment
  exact ⟨hassignment, hlegal, hdownstream hlegal _ hperm (by decide), ⟨_, rfl⟩,
    hfails .strict hstrict _ hperm⟩

end StoryBlanks.Selection
