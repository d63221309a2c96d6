import StoryBlanks.Proofs.Selection.Run

/-!
# Who may share an entity

Under the strict policy an entity is held by at most one name. Under the downstream policy it may
be held by several, but never by two in one sentence. Every operation keeps this, although a
binding is checked before the names it clears are empty, and although relocation moves bindings
while others still stand where they were.

* `Selection.Unique`: the invariant; `Unique.step`: every operation keeps it.
* `followers_eq_nil`: with nothing shared, a replacement clears no other name.
* `unique_run`: both policies over whole runs, and what follows for a binding.
-/

namespace StoryBlanks.Selection

/-- Two names hold entities of one name only if the policy lets them be shared, and then in
different sentences. -/
def Unique (s : Selection) : Prop :=
  ∀ m n b c, s.get? m = some b → s.get? n = some c → m ≠ n → b.entity.name = c.entity.name →
    s.policy = .downstream ∧ b.tag.sentence ≠ c.tag.sentence

variable {s t : Selection} {tag : Tag} {entity : Entity}

theorem Unique.empty (policy : ReusePolicy) : (empty policy).Unique := by
  intro m n b c hb
  cases hb

/-- Bindings that stay as they are stay unique. -/
theorem Unique.of_subset (h : s.Unique) (hpolicy : t.policy = s.policy)
    (hsub : ∀ n b, t.get? n = some b → s.get? n = some b) : t.Unique := by
  intro m n b c hb hc hne he
  rw [hpolicy]
  exact h m n b c (hsub m b hb) (hsub n c hc) hne he

theorem Unique.drop (h : s.Unique) (name : String) : (s.drop name).Unique :=
  h.of_subset (policy_drop s name) fun _ _ => get?_of_drop

/-- Uniqueness of a selection in which one name holds `b`, and the others what they held before. -/
theorem Unique.of_update (h : s.Unique) (hpolicy : t.policy = s.policy) (name : String)
    (b : Binding)
    (hsub : ∀ n c, t.get? n = some c → (n = name ∧ c = b) ∨ (n ≠ name ∧ s.get? n = some c))
    (hnew : ∀ n c, s.get? n = some c → n ≠ name → c.entity.name = b.entity.name →
      s.policy = .downstream ∧ c.tag.sentence ≠ b.tag.sentence) : t.Unique := by
  intro m n c d hc hd hne he
  rw [hpolicy]
  rcases hsub m c hc with ⟨rfl, rfl⟩ | ⟨hm, hc⟩
  · rcases hsub n d hd with ⟨rfl, -⟩ | ⟨hn, hd⟩
    · exact absurd rfl hne
    · obtain ⟨hp, hs⟩ := hnew n d hd hn he.symm
      exact ⟨hp, hs.symm⟩
  · rcases hsub n d hd with ⟨rfl, rfl⟩ | ⟨hn, hd⟩
    · exact hnew m c hc hm he
    · exact h m n c d hc hd hne he

/-- A holder that does not block a tag is one that the downstream policy lets stand before it. -/
theorem of_not_blocks {policy : ReusePolicy} {held wanted : Nat} (h : ¬ Blocks policy held wanted) :
    policy = .downstream ∧ held < wanted := by
  cases policy with
  | strict => exact absurd trivial h
  | downstream => exact ⟨rfl, Nat.lt_of_not_le h⟩

theorem Unique.bind (h : s.Unique) {outcome : BindOutcome}
    (hbind : s.bind tag entity = .ok (outcome, t)) : t.Unique := by
  -- a holder that let the binding pass stands in an earlier sentence
  have hnew : s.obstacle? tag entity = none → ∀ n c, s.get? n = some c → n ≠ tag.name →
      c.entity.name = entity.name → s.policy = .downstream ∧ c.tag.sentence ≠ tag.sentence := by
    intro ho n c hc hn he
    obtain ⟨hp, hlt⟩ := of_not_blocks ((obstacle?_eq_none.1 ho).2 n c hc hn he)
    exact ⟨hp, Nat.ne_of_lt hlt⟩
  obtain ⟨-, -, rfl⟩ | ⟨ho, -, -, rfl⟩ | ⟨old, ho, -, -, rfl⟩ := bind_eq_ok hbind
  · exact h
  · refine h.of_update rfl tag.name ⟨tag, entity⟩ (fun n c hc => ?_) (hnew ho)
    rw [get?_put] at hc
    split at hc
    · next hn => exact .inl ⟨hn, (Option.some.inj hc).symm⟩
    · next hn => exact .inr ⟨hn, hc⟩
  · refine h.of_update (policy_replace ..) tag.name ⟨tag, entity⟩ (fun n c hc => ?_) (hnew ho)
    rw [get?_replace] at hc
    split at hc
    · next hn => exact .inl ⟨hn, (Option.some.inj hc).symm⟩
    · next hn =>
      split at hc
      · cases hc
      · exact .inr ⟨hn, hc⟩

/-- A move that is not crowded keeps the holders of an entity apart. -/
theorem Unique.point (h : s.Unique) {name : String} {b : Binding} (hb : s.get? name = some b)
    (hfree : ¬ s.Crowded name b.entity.name tag.sentence) : (s.point name tag).Unique := by
  refine h.of_update rfl name { b with tag } (fun n c hc => ?_) fun n c hn hne he => ?_
  · rw [get?_point] at hc
    split at hc
    · next hn =>
      subst hn
      rw [hb, Option.map_some, Option.some.injEq] at hc
      exact .inl ⟨rfl, hc.symm⟩
    · next hn => exact .inr ⟨hn, hc⟩
  · refine ⟨(h n name c b hn hb hne he).1, fun hs => ?_⟩
    exact hfree (crowded_iff.2 ⟨n, c, hn, hne, he, hs⟩)

/-- **Every operation keeps the holders of an entity apart.** -/
theorem Unique.step (h : s.Unique) (op : Op) : (s.step op).Unique := by
  cases op with
  | bind tag entity => exact afterBind_induction (fun _ _ hbind => h.bind hbind) h
  | unbind name => exact h.drop name
  | clear => exact .empty _
  | relocate locate =>
    exact relocate_induction (fun r n hr => hr.drop n) (fun r n b u _ hb hc hr => hr.point hb hc) h

theorem Unique.run (h : s.Unique) (ops : List Op) : (s.run ops).Unique :=
  run_induction (fun _ op _ hr => hr.step op) h

/-! ## The strict policy -/

theorem Unique.eq_of_strict (h : s.Unique) (hp : s.policy = .strict) {m n : String} {b c : Binding}
    (hb : s.get? m = some b) (hc : s.get? n = some c) (he : b.entity.name = c.entity.name) :
    m = n := by
  by_cases hne : m = n
  · exact hne
  · have hd := (h m n b c hb hc hne he).1
    rw [hp] at hd
    cases hd

/-- With nothing shared, a replacement clears no other name. -/
theorem Unique.followers_eq_nil (h : s.Unique) (hp : s.policy = .strict) {old : Binding}
    (hold : s.get? tag.name = some old) : s.followers tag old.entity.name = [] := by
  rw [List.eq_nil_iff_forall_not_mem]
  intro n hn
  obtain ⟨b, hb, hne, -, he⟩ := mem_followers.1 hn
  exact hne (h.eq_of_strict hp hb hold he)

/-- **Whatever is done to a selection, the holders of an entity stay apart.** Under the strict
policy no two names hold one entity; so a replacement clears nothing, and a holder that is reported
is the only one. Under the downstream policy two names that hold one entity are in different
sentences. -/
theorem unique_run (ops : List Op) :
    (∀ m n b c, ((empty .strict).run ops).get? m = some b →
      ((empty .strict).run ops).get? n = some c → m ≠ n → b.entity.name ≠ c.entity.name) ∧
    (∀ m n b c, ((empty .downstream).run ops).get? m = some b →
      ((empty .downstream).run ops).get? n = some c → m ≠ n → b.entity.name = c.entity.name →
        b.tag.sentence ≠ c.tag.sentence) ∧
    (∀ tag entity previous cleared t,
      ((empty .strict).run ops).bind tag entity = .ok (.replaced previous cleared, t) →
        cleared = []) ∧
    ∀ tag entity name holder,
      ((empty .strict).run ops).bind tag entity = .error (.alreadyUsed name holder) →
        name = entity.name ∧ ∀ n, (∃ b, ((empty .strict).run ops).get? n = some b ∧
          b.entity.name = entity.name) ↔ n = holder := by
  have hunique : ∀ policy, ((Selection.empty policy).run ops).Unique :=
    fun policy => (Unique.empty policy).run ops
  have hstrict : ((empty .strict).run ops).policy = .strict := policy_run ..
  refine ⟨?_, ?_, ?_, ?_⟩
  · intro m n b c hb hc hne he
    exact hne ((hunique .strict).eq_of_strict hstrict hb hc he)
  · intro m n b c hb hc hne he
    exact ((hunique .downstream) m n b c hb hc hne he).2
  · intro tag entity previous cleared t hbind
    obtain ⟨-, ho, -⟩ | ⟨-, -, ho, -⟩ | ⟨old, -, hold, ho, -⟩ := bind_eq_ok hbind
    · cases ho
    · cases ho
    · cases ho
      exact (hunique .strict).followers_eq_nil hstrict hold
  · intro tag entity name holder hbind
    obtain ⟨hname, hmem⟩ := mem_holders_of_obstacle? (bind_eq_error hbind).2
    obtain ⟨b, hb, -, he, -⟩ := mem_holders.1 hmem
    refine ⟨hname, fun n => ⟨?_, ?_⟩⟩
    · rintro ⟨c, hc, hce⟩
      exact (hunique .strict).eq_of_strict hstrict hc hb (hce.trans he.symm)
    · rintro rfl
      exact ⟨b, hb, he⟩

end StoryBlanks.Selection
