import Mathlib.Data.List.Forall2
import StoryBlanks.Proofs.Selection.Relisting

/-!
# Whole runs on bindings in another order

Whoever uses a selection sees the bindings, the names in use and the answers. A run is taken here
together with its answers, and before each operation the bindings and the names in use may come in
another order. Two such runs of the same operations end with the same bindings and give answers
alike. They end with the same names in use as long as the bindings that each relocation loses agree
on the kinds of their names.

* `Selection.Answer`, `Answer.Like`: what an operation answers, up to the order of names.
* `Selection.Runs`: a run in whatever order things are kept.
* `Selection.AgreesAlong`: relocations lose bindings that agree, all along a run.
* `runs_relisted`: two runs of the same operations.
* `not_alike_of_lost`: a relocation after which the names in use differ.
-/

namespace StoryBlanks.Selection

variable {s t s' t' : Selection} {op : Op} {ops : List Op} {answers others : List Answer}

/-! ## Answers -/

/-- What an operation answers. -/
inductive Answer
  | bind (result : Except BindError BindOutcome)
  | unbind (removed : Option Binding)
  | clear
  | relocate (dropped : List String)

/-- What a selection answers to an operation. -/
def answer (s : Selection) : Op → Answer
  | .bind tag entity => .bind ((s.bind tag entity).map Prod.fst)
  | .unbind name => .unbind (s.unbind name).1
  | .clear => .clear
  | .relocate locate => .relocate (s.relocate locate).1

/-- Why a binding failed, if the answer is that it did. -/
def Answer.error? : Answer → Option BindError
  | .bind (.error e) => some e
  | _ => none

/-- The answers are alike: the order of names is open, and so is who is named of those that hold an
entity. -/
inductive Answer.Like : Answer → Answer → Prop
  | failed {e f : BindError} (h : ErrorLike e f) : Like (.bind (.error e)) (.bind (.error f))
  | unchanged : Like (.bind (.ok .unchanged)) (.bind (.ok .unchanged))
  | bound : Like (.bind (.ok .bound)) (.bind (.ok .bound))
  | replaced (previous : String) {cleared others : List String} (h : cleared.Perm others) :
    Like (.bind (.ok (.replaced previous cleared))) (.bind (.ok (.replaced previous others)))
  | unbind (removed : Option Binding) : Like (.unbind removed) (.unbind removed)
  | clear : Like .clear .clear
  | relocate {dropped others : List String} (h : dropped.Perm others) :
    Like (.relocate dropped) (.relocate others)

/-! ## One operation -/

theorem fst_unbind (s : Selection) (name : String) : (s.unbind name).1 = s.get? name := by
  unfold unbind
  split
  · next hg => rw [hg]
  · next b hg => rw [hg]

theorem Relisted.answer (h : Relisted s t) (op : Op) : (s.answer op).Like (t.answer op) := by
  cases op with
  | bind tag entity =>
    simp only [Selection.answer]
    obtain ⟨e, f, hs, ht, hlike⟩ | ⟨hs, ht⟩ | ⟨hs, ht⟩ | ⟨old, hs, ht⟩ := h.bind_cases tag entity
    · rw [hs, ht]
      exact .failed hlike
    · rw [hs, ht]
      exact .unchanged
    · rw [hs, ht]
      exact .bound
    · rw [hs, ht]
      exact .replaced _ (h.followers tag old.entity.name)
  | unbind name =>
    simp only [Selection.answer]
    rw [fst_unbind, fst_unbind, h.get?_eq]
    exact .unbind _
  | clear => exact .clear
  | relocate locate => exact .relocate (h.relocate locate).1

/-- Two selections stay related by an attempt to bind, if they are by a binding and by a
replacement. -/
theorem Relisted.afterBind_relation {R : Selection → Selection → Prop} (h : Relisted s t)
    {tag : Tag} {entity : Entity} (hsame : R s t) (hput : R (s.put tag entity) (t.put tag entity))
    (hreplace : ∀ old, R (s.replace tag entity old) (t.replace tag entity old)) :
    R (s.afterBind (s.bind tag entity)) (t.afterBind (t.bind tag entity)) := by
  obtain ⟨e, f, hs, ht, -⟩ | ⟨hs, ht⟩ | ⟨hs, ht⟩ | ⟨old, hs, ht⟩ := h.bind_cases tag entity
  · rw [hs, ht]
    exact hsame
  · rw [hs, ht]
    exact hsame
  · rw [hs, ht]
    exact hput
  · rw [hs, ht]
    exact hreplace old

/-- **Every operation leaves the same bindings.** -/
theorem Relisted.step (h : Relisted s t) (op : Op) : Relisted (s.step op) (t.step op) := by
  cases op with
  | bind tag entity => exact h.afterBind_relation h (h.put tag entity) (h.replace tag entity)
  | unbind name => exact h.drop name
  | clear => exact .of_get? h.policy_eq fun _ => rfl
  | relocate locate => exact (h.relocate locate).2

/-- **Every operation leaves the same names in use**, relocation if what is lost agrees on the
kinds of names. -/
theorem Alike.step (h : Alike s t) (hagree : ∀ locate, op = .relocate locate → s.LostAgree locate) :
    Alike (s.step op) (t.step op) := by
  cases op with
  | bind tag entity => exact h.afterBind_relation h (h.put tag entity) (h.replace tag entity)
  | unbind name => exact h.drop name
  | clear => exact ⟨h.toRelisted.step .clear, .refl _⟩
  | relocate locate => exact h.relocate (hagree locate rfl)

/-- Under the strict policy a binding that fails gives the very same error. -/
theorem Relisted.error?_eq (h : Relisted s t) (hunique : s.Unique) (hp : s.policy = .strict)
    (op : Op) : (s.answer op).error? = (t.answer op).error? := by
  cases op with
  | bind tag entity =>
    simp only [Selection.answer]
    obtain ⟨e, f, hs, ht, -⟩ | ⟨hs, ht⟩ | ⟨hs, ht⟩ | ⟨old, hs, ht⟩ := h.bind_cases tag entity
    · rw [hs, ht]
      have herror := h.obstacle?_eq hunique hp tag entity
      rw [(bind_eq_error hs).2, (bind_eq_error ht).2] at herror
      exact herror
    · rw [hs, ht]
      rfl
    · rw [hs, ht]
      rfl
    · rw [hs, ht]
      rfl
  | unbind | clear | relocate => rfl

/-! ## Runs -/

/-- A run of operations with its answers. Before each operation, and at the end, the bindings and
the names in use may come in another order. -/
inductive Runs : Selection → List Op → List Answer → Selection → Prop
  | nil {s t : Selection} (h : Alike s t) : Runs s [] [] t
  | cons {s t u : Selection} {op : Op} {ops : List Op} {answers : List Answer} (h : Alike s t)
    (hrest : Runs (t.step op) ops answers u) : Runs s (op :: ops) (t.answer op :: answers) u

/-- The answers to operations when everything stays in the order it has. -/
def replies : Selection → List Op → List Answer
  | _, [] => []
  | s, op :: ops => s.answer op :: replies (s.step op) ops

/-- To stay in the order things have is one way to run. -/
theorem runs_run (s : Selection) (ops : List Op) : Runs s ops (s.replies ops) (s.run ops) := by
  induction ops generalizing s with
  | nil => exact .nil (.refl s)
  | cons op ops ih => exact .cons (.refl s) (ih (s.step op))

/-- **What operations and another order preserve, runs preserve.** -/
theorem Runs.induction {P : Selection → Prop} (hrun : Runs s ops answers s')
    (halike : ∀ r u, Alike r u → P r → P u) (hstep : ∀ r op, op ∈ ops → P r → P (r.step op))
    (h : P s) : P s' := by
  induction hrun with
  | nil hst => exact halike _ _ hst h
  | @cons s t u op ops answers hst hrest ih =>
    refine ih (fun r o ho => hstep r o (List.mem_cons_of_mem _ ho)) ?_
    exact hstep t op List.mem_cons_self (halike s t hst h)

/-- The bindings that the relocations of a run lose agree on the kinds of their names. -/
def AgreesAlong : Selection → List Op → Prop
  | _, [] => True
  | s, op :: ops => (∀ locate, op = .relocate locate → s.LostAgree locate) ∧
    AgreesAlong (s.step op) ops

/-- What is lost agrees all along a run that preserves something by which bindings agree. -/
theorem agreesAlong_of_coherent {P : Selection → Prop} (hcoherent : ∀ r, P r → r.Coherent)
    (hstep : ∀ r op, op ∈ ops → P r → P (r.step op)) (h : P s) : s.AgreesAlong ops := by
  induction ops generalizing s with
  | nil => trivial
  | cons op ops ih =>
    refine ⟨fun locate _ => (hcoherent s h).lostAgree locate, ih (fun r o ho => ?_) ?_⟩
    · exact hstep r o (List.mem_cons_of_mem _ ho)
    · exact hstep s op List.mem_cons_self h

theorem Relisted.unique (h : Relisted s t) (hunique : s.Unique) : t.Unique :=
  hunique.of_subset h.policy_eq.symm fun n b hb => by rw [h.get?_eq, hb]

theorem Relisted.lostAgree {locate : Binding → Option Tag} (h : Relisted s t)
    (hagree : s.LostAgree locate) : t.LostAgree locate := by
  simpa only [LostAgree, h.get?_eq] using hagree

theorem Relisted.agreesAlong (h : Relisted s t) (hagree : s.AgreesAlong ops) :
    t.AgreesAlong ops := by
  induction ops generalizing s t with
  | nil => trivial
  | cons op ops ih =>
    exact ⟨fun locate hop => h.lostAgree (hagree.1 locate hop), ih (h.step op) hagree.2⟩

/-! ### Two runs of the same operations -/

/-- **Two runs of the same operations stay related**, and so do their answers, if it is preserved by
another order on either side and by a single operation. -/
theorem Runs.relation {R : List Op → Selection → Selection → Prop} {Q : Answer → Answer → Prop}
    (halike : ∀ ops s r t q, Alike s r → Alike t q → R ops s t → R ops r q)
    (hstep : ∀ op ops s t, R (op :: ops) s t →
      Q (s.answer op) (t.answer op) ∧ R ops (s.step op) (t.step op))
    (hs : Runs s ops answers s') (ht : Runs t ops others t') (h : R ops s t) :
    R [] s' t' ∧ List.Forall₂ Q answers others := by
  induction hs generalizing t others with
  | nil hss =>
    cases ht with
    | nil htt => exact ⟨halike _ _ _ _ _ hss htt h, .nil⟩
  | @cons s r _ op ops answers hsr hrest ih =>
    cases ht with
    | @cons _ q _ _ _ _ htq hrest' =>
      obtain ⟨hnow, hnext⟩ := hstep op ops r q (halike _ _ _ _ _ hsr htq h)
      obtain ⟨hend, hlater⟩ := ih hrest' hnext
      exact ⟨hend, .cons hnow hlater⟩

theorem Relisted.of_alike {r q : Selection} (h : Relisted s t) (hsr : Alike s r) (htq : Alike t q) :
    Relisted r q :=
  hsr.symm.toRelisted.trans (h.trans htq.toRelisted)

theorem Runs.relisted (hs : Runs s ops answers s') (ht : Runs t ops others t')
    (h : Relisted s t) : Relisted s' t' ∧ List.Forall₂ Answer.Like answers others :=
  Runs.relation (R := fun _ => Relisted) (fun _ _ _ _ _ hsr htq h => h.of_alike hsr htq)
    (fun op _ _ _ h => ⟨h.answer op, h.step op⟩) hs ht h

theorem Runs.alike (hs : Runs s ops answers s') (ht : Runs t ops others t') (h : Alike s t)
    (hagree : s.AgreesAlong ops) : Alike s' t' := by
  have hend := Runs.relation (R := fun ops s t => Alike s t ∧ s.AgreesAlong ops)
    (Q := fun _ _ => True)
    (fun _ _ _ _ _ hsr htq h => ⟨hsr.symm.trans (h.1.trans htq), hsr.agreesAlong h.2⟩)
    (fun _ _ _ _ h => ⟨trivial, h.1.step h.2.1, h.2.2⟩) hs ht ⟨h, hagree⟩
  exact hend.1.1

/-- Under the strict policy the errors of two runs are the same. -/
theorem Runs.errors_eq (hs : Runs s ops answers s') (ht : Runs t ops others t')
    (h : Relisted s t) (hunique : s.Unique) (hp : s.policy = .strict) :
    answers.map Answer.error? = others.map Answer.error? := by
  have hend := Runs.relation
    (R := fun _ s t => Relisted s t ∧ s.Unique ∧ s.policy = .strict)
    (Q := fun a b => a.error? = b.error?)
    (fun _ _ _ _ _ hsr htq h =>
      ⟨h.1.of_alike hsr htq, hsr.unique h.2.1, hsr.policy_eq.symm.trans h.2.2⟩)
    (fun op _ s _ h => ⟨h.1.error?_eq h.2.1 h.2.2 op, h.1.step op, h.2.1.step op,
      (policy_step s op).trans h.2.2⟩) hs ht ⟨h, hunique, hp⟩
  rw [← List.forall₂_eq_eq_eq, List.forall₂_map_left_iff, List.forall₂_map_right_iff]
  exact hend.2

/-! ### Runs from nothing -/

theorem Named.of_relisted (h : s.Named) (hst : Relisted s t) : t.Named :=
  fun n b hb => h n b ((hst.get?_eq n).trans hb)

theorem Named.step (h : s.Named) (hkeeps : ∀ locate, op = .relocate locate →
    ∀ b u, locate b = some u → u.name = b.tag.name) : (s.step op).Named := by
  cases op with
  | bind tag entity =>
    refine afterBind_induction (fun outcome t hbind n b hb => ?_) h
    rcases get?_of_bind hbind hb with hold | ⟨rfl, rfl, -⟩
    · exact h n b hold
    · rfl
  | unbind name => exact fun n b hb => h n b (get?_of_drop hb)
  | clear => exact fun n b hb => by cases hb
  | relocate locate =>
    intro n b hb
    obtain ⟨old, hold, hl, -⟩ := get?_relocate hb
    exact (hkeeps locate rfl old b.tag hl).trans (h n old hold)

theorem Faithful.of_alike {policy : ReusePolicy} {entities : List Entity}
    (h : s.Faithful policy entities) (hst : Alike s t) : t.Faithful policy entities where
  policy_eq := hst.policy_eq.symm.trans h.policy_eq
  unique := hst.unique h.unique
  holdsFrom n b hb := h.holdsFrom n b ((hst.get?_eq n).trans hb)
  mirrors kind name := by
    simp only [← hst.mem_held, ← hst.get?_eq]
    exact h.mirrors kind name

/-- **No order shows.** Two selections hold the same bindings and the same names in use, each in an
order of its own, and the same operations are done to both, with the order of everything open
before each. In the end they hold the same bindings, and their answers were alike. If the bindings
that each relocation lost agreed on the kinds of their names, they have the same names in use.

So it is for a selection that was made by a run from nothing: under the strict policy always, and
under the downstream policy if the entities that are given to bind have one kind for each name, as
the entities of a catalog do. Under the strict policy the errors are the same to the word; and if
relocations keep the names of tags, the reports are the same lists. -/
theorem runs_relisted (h : Alike s t) (hs : Runs s ops answers s') (ht : Runs t ops others t') :
    Relisted s' t' ∧ List.Forall₂ Answer.Like answers others ∧
      (s.AgreesAlong ops → Alike s' t') ∧
      ∀ policy begun before, Runs (empty policy) begun before s →
        ((policy = .downstream → ∀ e ∈ bound (begun ++ ops), ∀ f ∈ bound (begun ++ ops),
          e.name = f.name → e.kind = f.kind) → Alike s' t') ∧
        (policy = .strict → answers.map Answer.error? = others.map Answer.error?) ∧
        ((∀ locate, Op.relocate locate ∈ begun ++ ops → ∀ b u, locate b = some u →
          u.name = b.tag.name) → s'.ordered = t'.ordered) := by
  obtain ⟨hend, hlike⟩ := hs.relisted ht h.toRelisted
  refine ⟨hend, hlike, hs.alike ht h, fun policy begun before hbegun => ?_⟩
  have hfaithful : (policy = .downstream → ∀ e ∈ bound (begun ++ ops), ∀ f ∈ bound (begun ++ ops),
      e.name = f.name → e.kind = f.kind) → s.Faithful policy (bound (begun ++ ops)) := fun hkinds =>
    hbegun.induction (fun r u hru hr => hr.of_alike hru)
      (fun r op hop hr => hr.step hkinds (List.mem_append_left _ hop)) (.empty policy _)
  refine ⟨fun hkinds => ?_, ?_, ?_⟩
  · refine hs.alike ht h (agreesAlong_of_coherent (fun r hr => hr.coherent hkinds)
      (fun r op hop hr => ?_) (hfaithful hkinds))
    exact hr.step hkinds (List.mem_append_right _ hop)
  · rintro rfl
    have hstrict := hfaithful fun hp => by cases hp
    exact hs.errors_eq ht h.toRelisted hstrict.unique hstrict.policy_eq
  · intro hkeeps
    have hnamed : ∀ (r : Selection) op, op ∈ begun ++ ops → r.Named → (r.step op).Named :=
      fun r op hop hr => hr.step fun locate heq => hkeeps locate (heq ▸ hop)
    have hnow : s.Named := hbegun.induction (fun r u hru hr => hr.of_relisted hru.toRelisted)
      (fun r op hop => hnamed r op (List.mem_append_left _ hop)) fun n b hb => by cases hb
    refine hend.ordered_eq (hs.induction (fun r u hru hr => hr.of_relisted hru.toRelisted)
      (fun r op hop => hnamed r op (List.mem_append_right _ hop)) hnow)

/-- Two friends who came in either order, and a guest who is turned away: whoever holds the entity
is the only one. -/
theorem runs_relisted_friends :
    let ada : Entity := { name := "Ada", kind := .character }
    let bea : Entity := { name := "Bea", kind := .character }
    let hero : Op := .bind ⟨.character, "hero", 0⟩ ada
    let friend : Op := .bind ⟨.character, "friend", 1⟩ bea
    let s := (empty .strict).run [hero, friend]
    let t := (empty .strict).run [friend, hero]
    let ops : List Op := [.bind ⟨.character, "guest", 0⟩ bea, .relocate fun b =>
      some { b.tag with sentence := b.tag.sentence + 1 }]
    Alike s t ∧ Runs s ops (s.replies ops) (s.run ops) ∧ Runs t ops (t.replies ops) (t.run ops) ∧
      Alike (s.run ops) (t.run ops) ∧
      (s.replies ops).map Answer.error? = (t.replies ops).map Answer.error? ∧
      (s.run ops).ordered = (t.run ops).ordered := by
  intro ada bea hero friend s t ops
  have hst : Alike s t := ⟨⟨rfl, by decide +kernel⟩, by decide +kernel⟩
  obtain ⟨-, -, -, hbegun⟩ := runs_relisted hst (runs_run s ops) (runs_run t ops)
  obtain ⟨halike, herrors, hordered⟩ := hbegun .strict [hero, friend] _ (runs_run _ _)
  refine ⟨hst, runs_run s ops, runs_run t ops, halike fun hp => (by cases hp), herrors rfl,
    hordered fun locate hmem b u hu => ?_⟩
  simp only [ops, hero, friend, List.mem_append, List.mem_cons, Op.relocate.injEq, reduceCtorEq,
    List.not_mem_nil, or_false, false_or] at hmem
  subst hmem
  cases hu
  rfl

/-- **What an order shows in.** Two entities of different kinds have one name, as those of a catalog
never do. The singer comes first in one selection and last in the other, which hold the same; then
both bindings are lost at once, and the name stays in use under the kind that went first. -/
theorem not_alike_of_lost :
    let singer : Tag := ⟨.character, "singer", 0⟩
    let wolf : Tag := ⟨.creature, "wolf", 1⟩
    let luna : Entity := { name := "Luna", kind := .character }
    let beast : Entity := { name := "Luna", kind := .creature }
    let s := (empty .downstream).run [.bind singer luna, .bind wolf beast]
    let t := (empty .downstream).run [.bind wolf beast, .bind { singer with sentence := 2 } luna,
      .relocate fun b => some (if b.tag.kind = .character then singer else b.tag)]
    let lose : Op := .relocate fun _ => none
    Alike s t ∧ ¬ Alike (s.step lose) (t.step lose) ∧
      (s.step lose).usage.names? .character = some ["Luna"] ∧
      (t.step lose).usage.names? .character = none := by
  intro singer wolf luna beast s t lose
  have hs : (s.step lose).usage.held = [(.character, "Luna")] := by decide +kernel
  have ht : (t.step lose).usage.held = [(.creature, "Luna")] := by decide +kernel
  have hpolicy : s.policy = t.policy := (policy_run ..).trans (policy_run ..).symm
  refine ⟨⟨⟨hpolicy, by decide +kernel⟩, by decide +kernel⟩, fun h => ?_, ?_, ?_⟩
  · have hmem := (h.mem_held (.character, "Luna")).1 (by rw [hs]; exact List.mem_cons_self)
    rw [ht] at hmem
    exact absurd hmem (by decide)
  · rw [Usage.names?, hs]
    decide +kernel
  · rw [Usage.names?, ht]
    rfl

end StoryBlanks.Selection
