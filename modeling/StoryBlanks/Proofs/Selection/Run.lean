import StoryBlanks.Proofs.Selection.Lookup

/-!
# Runs of a selection

A selection changes by bindings, by the ways back, and by relocation. A run is any sequence of
these, whether they succeed or not.

* `Selection.step`, `Selection.run`: one operation, and a run of them.
* `run_induction`: what every operation of a run preserves holds at its end.
* `HoldsFrom.step`: nothing is bound but what was given to bind.
-/

namespace StoryBlanks.Selection

/-- Something that is done to a selection. -/
inductive Op
  | bind (tag : Tag) (entity : Entity)
  | unbind (name : String)
  | clear
  | relocate (locate : Binding → Option Tag)

/-- The selection that an attempt to bind leaves; a failure leaves the one from before. -/
def afterBind (s : Selection) : Except BindError (BindOutcome × Selection) → Selection
  | .ok (_, t) => t
  | .error _ => s

/-- The selection after one operation. -/
def step (s : Selection) : Op → Selection
  | .bind tag entity => s.afterBind (s.bind tag entity)
  | .unbind name => (s.unbind name).2
  | .clear => s.clear
  | .relocate locate => (s.relocate locate).2

/-- The selection after a run of operations. -/
def run (s : Selection) (ops : List Op) : Selection := ops.foldl step s

/-- The entities that a run is given to bind. -/
def bound (ops : List Op) : List Entity :=
  ops.filterMap fun
    | .bind _ entity => some entity
    | _ => none

variable {s : Selection}

theorem mem_bound {ops : List Op} {entity : Entity} :
    entity ∈ bound ops ↔ ∃ tag, Op.bind tag entity ∈ ops := by
  simp only [bound, List.mem_filterMap]
  constructor
  · rintro ⟨op, hop, he⟩
    cases op with
    | bind tag e =>
      obtain rfl : e = entity := Option.some.inj he
      exact ⟨tag, hop⟩
    | unbind | clear | relocate => cases he
  · rintro ⟨tag, hop⟩
    exact ⟨_, hop, rfl⟩

/-- **What every operation of a run preserves holds at its end.** -/
theorem run_induction {P : Selection → Prop} {ops : List Op}
    (hstep : ∀ r op, op ∈ ops → P r → P (r.step op)) (h : P s) : P (s.run ops) := by
  induction ops generalizing s with
  | nil => exact h
  | cons op ops ih =>
    exact ih (fun r o ho => hstep r o (List.mem_cons_of_mem _ ho)) (hstep s op List.mem_cons_self h)

/-- An attempt to bind preserves what a success preserves. -/
theorem afterBind_induction {P : Selection → Prop} {tag : Tag} {entity : Entity}
    (hbind : ∀ outcome t, s.bind tag entity = .ok (outcome, t) → P t) (h : P s) :
    P (s.afterBind (s.bind tag entity)) := by
  cases hb : s.bind tag entity with
  | error e => exact h
  | ok r => exact hbind r.1 r.2 hb

theorem policy_step (s : Selection) (op : Op) : (s.step op).policy = s.policy := by
  cases op with
  | bind tag entity =>
    exact afterBind_induction (P := fun t => t.policy = s.policy) (fun _ _ => policy_bind) rfl
  | unbind name => exact policy_drop s name
  | clear => rfl
  | relocate locate => exact policy_relocate s locate

@[simp] theorem policy_run (s : Selection) (ops : List Op) : (s.run ops).policy = s.policy :=
  run_induction (P := fun r => r.policy = s.policy)
    (fun r op _ h => (policy_step r op).trans h) rfl

/-- Every binding holds one of these entities. -/
def HoldsFrom (entities : List Entity) (s : Selection) : Prop :=
  ∀ n b, s.get? n = some b → b.entity ∈ entities

theorem HoldsFrom.drop {entities : List Entity} (h : s.HoldsFrom entities) (name : String) :
    (s.drop name).HoldsFrom entities := by
  intro n b hb
  exact h n b (get?_of_drop hb)

/-- **Nothing is bound but what was given to bind.** -/
theorem HoldsFrom.step {ops : List Op} {op : Op} (h : s.HoldsFrom (bound ops)) (hop : op ∈ ops) :
    (s.step op).HoldsFrom (bound ops) := by
  cases op with
  | bind tag entity =>
    refine afterBind_induction (fun outcome t hbind n b hb => ?_) h
    rcases get?_of_bind hbind hb with hold | ⟨-, rfl, -⟩
    · exact h n b hold
    · exact mem_bound.2 ⟨tag, hop⟩
  | unbind name => exact h.drop name
  | clear => exact fun n b hb => by cases hb
  | relocate locate =>
    intro n b hb
    obtain ⟨old, hold, -, he⟩ := get?_relocate hb
    rw [he]
    exact h n old hold

end StoryBlanks.Selection
