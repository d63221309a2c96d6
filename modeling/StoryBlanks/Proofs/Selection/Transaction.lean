import StoryBlanks.Proofs.Selection.Run

/-!
# A binding is a transaction

An attempt to bind is refused and changes nothing, or it does all that it has to do. With the entity
that a name held before, it takes away what followed that entity: the bindings of it under other
names in later sentences. Later than which sentence is a matter of the tag that is bound now; the
binding that it replaces may have stood at another tag of the name.

* `Selection.Bears`, `Selection.InWay`, `Selection.Follows`: who holds what, said of bindings alone.
* `Selection.Refused`: why an attempt fails; `Selection.Done`: what an attempt that succeeds leaves.
* `isOk_bind_iff_bears`: when it succeeds; `bind_kindMismatch_iff`, `bind_alreadyUsed_iff`: when it
  is refused, and for what.
* `bind_transaction`: every attempt, in every selection.
-/

namespace StoryBlanks.Selection

variable {s t : Selection} {tag : Tag} {entity : Entity} {n previous : String}

/-! ## Who holds what -/

/-- The tag's name holds an entity of that name already, at a tag of its kind. -/
def Bears (s : Selection) (tag : Tag) (entity : Entity) : Prop :=
  ∃ b, s.get? tag.name = some b ∧ b.entity.name = entity.name ∧ b.tag.kind = tag.kind

/-- Another name holds an entity of that name: under the strict policy anywhere, and under the
downstream policy in the tag's sentence or a later one. -/
def InWay (s : Selection) (tag : Tag) (entity : Entity) (n : String) : Prop :=
  n ≠ tag.name ∧ ∃ b, s.get? n = some b ∧ b.entity.name = entity.name ∧
    (s.policy = .downstream → tag.sentence ≤ b.tag.sentence)

/-- Another name holds an entity named `previous` in a sentence after the tag's. -/
def Follows (s : Selection) (tag : Tag) (previous n : String) : Prop :=
  n ≠ tag.name ∧ ∃ b, s.get? n = some b ∧ b.entity.name = previous ∧
    tag.sentence < b.tag.sentence

theorem blocks_iff {policy : ReusePolicy} {held wanted : Nat} :
    Blocks policy held wanted ↔ (policy = .downstream → wanted ≤ held) := by
  cases policy <;> simp [Blocks]

theorem holds_iff_bears : s.Holds tag entity ↔ entity.kind = tag.kind ∧ s.Bears tag entity := by
  constructor
  · rintro ⟨b, hb, he, htag, hkind⟩
    exact ⟨hkind, b, hb, he, htag⟩
  · rintro ⟨hkind, b, hb, he, htag⟩
    exact ⟨b, hb, he, htag, hkind⟩

theorem mem_holders_iff_inWay : n ∈ s.holders tag entity ↔ s.InWay tag entity n := by
  simp only [mem_holders, blocks_iff, InWay]
  constructor
  · rintro ⟨b, hb, hn, he, hpolicy⟩
    exact ⟨hn, b, hb, he, hpolicy⟩
  · rintro ⟨hn, b, hb, he, hpolicy⟩
    exact ⟨b, hb, hn, he, hpolicy⟩

theorem mem_followers_iff_follows : n ∈ s.followers tag previous ↔ s.Follows tag previous n := by
  simp only [mem_followers, Follows]
  constructor
  · rintro ⟨b, hb, hn, hlt, he⟩
    exact ⟨hn, b, hb, he, hlt⟩
  · rintro ⟨hn, b, hb, he, hlt⟩
    exact ⟨b, hb, hn, hlt, he⟩

theorem nodup_followers (s : Selection) (tag : Tag) (previous : String) :
    (s.followers tag previous).Nodup :=
  NameMap.nodup_keys _

/-! ## Refusals -/

/-- Why an attempt to bind fails, and what the error tells. -/
inductive Refused (s : Selection) (tag : Tag) (entity : Entity) : BindError → Prop
  | kind (hkind : entity.kind ≠ tag.kind) :
      Refused s tag entity (.kindMismatch tag.name tag.kind entity.kind)
  | used {holder : String} (hkind : entity.kind = tag.kind) (hbears : ¬ s.Bears tag entity)
      (hholder : s.InWay tag entity holder) :
      Refused s tag entity (.alreadyUsed entity.name holder)

theorem refused_of_bind {e : BindError} (h : s.bind tag entity = .error e) :
    s.Refused tag entity e := by
  obtain ⟨hholds, ho⟩ := bind_eq_error h
  unfold obstacle? at ho
  split at ho
  · next hkind =>
    obtain ⟨holder, hhead, rfl⟩ := Option.map_eq_some_iff.1 ho
    refine .used hkind (fun hbears => hholds (holds_iff_bears.2 ⟨hkind, hbears⟩)) ?_
    exact mem_holders_iff_inWay.1 (List.mem_of_head? hhead)
  · next hkind =>
    cases ho
    exact .kind hkind

/-- An attempt succeeds exactly if the kinds agree and either the name bears the entity already or
no other name is in the way. -/
theorem isOk_bind_iff_bears : (s.bind tag entity).isOk = true ↔
    entity.kind = tag.kind ∧ (s.Bears tag entity ∨ ∀ n, ¬ s.InWay tag entity n) := by
  have hnone : s.obstacle? tag entity = none ↔
      entity.kind = tag.kind ∧ ∀ n, ¬ s.InWay tag entity n := by
    rw [obstacle?_eq_none]
    refine and_congr_right fun _ => ⟨?_, fun hfree n b hb hn he hblocks => ?_⟩
    · rintro hfree n ⟨hn, b, hb, he, hpolicy⟩
      exact hfree n b hb hn he (blocks_iff.2 hpolicy)
    · exact hfree n ⟨hn, b, hb, he, blocks_iff.1 hblocks⟩
  rw [isOk_bind_iff, holds_iff_bears, hnone, and_or_left]

/-- An attempt that does not succeed gives an error. -/
theorem exists_error (h : ¬ (s.bind tag entity).isOk = true) :
    ∃ e, s.bind tag entity = .error e := by
  cases hbind : s.bind tag entity with
  | error e => exact ⟨e, rfl⟩
  | ok r =>
    rw [hbind] at h
    exact absurd rfl h

/-- The kind is what is complained of exactly if the kinds differ. -/
theorem bind_kindMismatch_iff :
    (∃ name expected found, s.bind tag entity = .error (.kindMismatch name expected found)) ↔
      entity.kind ≠ tag.kind := by
  constructor
  · rintro ⟨name, expected, found, he⟩
    cases refused_of_bind he with
    | kind hkind => exact hkind
  · intro hkind
    obtain ⟨e, he⟩ := exists_error fun hok => hkind (isOk_bind_iff_bears.1 hok).1
    cases refused_of_bind he with
    | kind _ => exact ⟨_, _, _, he⟩
    | used hkind' _ _ => exact absurd hkind' hkind

/-- A holder is complained of exactly if the kinds agree and another name is in the way of what the
tag's name does not bear yet. -/
theorem bind_alreadyUsed_iff :
    (∃ name holder, s.bind tag entity = .error (.alreadyUsed name holder)) ↔
      entity.kind = tag.kind ∧ ¬ s.Bears tag entity ∧ ∃ n, s.InWay tag entity n := by
  constructor
  · rintro ⟨name, holder, he⟩
    cases refused_of_bind he with
    | used hkind hbears hholder => exact ⟨hkind, hbears, holder, hholder⟩
  · rintro ⟨hkind, hbears, n, hn⟩
    have hfails : ¬ (s.bind tag entity).isOk = true := by
      intro hok
      rcases (isOk_bind_iff_bears.1 hok).2 with hb | hfree
      · exact hbears hb
      · exact hfree n hn
    obtain ⟨e, he⟩ := exists_error hfails
    cases refused_of_bind he with
    | kind hkind' => exact absurd hkind hkind'
    | used _ _ _ => exact ⟨_, _, he⟩

/-! ## Successes -/

/-- What an attempt to bind that succeeds leaves under every name. -/
inductive Done (s : Selection) (tag : Tag) (entity : Entity) : BindOutcome → Selection → Prop
  /-- The name bears the entity already, and nothing changes. -/
  | unchanged (hkind : entity.kind = tag.kind) (hbears : s.Bears tag entity) :
      Done s tag entity .unchanged s
  /-- The name held nothing and has the new binding now. -/
  | bound {t : Selection} (hget : s.get? tag.name = none)
      (hleft : ∀ n, t.get? n = if n = tag.name then some ⟨tag, entity⟩ else s.get? n) :
      Done s tag entity .bound t
  /-- The name held another binding and has the new one now. The other names that followed the
  entity it held are empty, and each of them is reported once. -/
  | replaced {t : Selection} {old : Binding} {cleared : List String}
      (hget : s.get? tag.name = some old) (hbears : ¬ s.Bears tag entity)
      (hcleared : ∀ n, n ∈ cleared ↔ s.Follows tag old.entity.name n) (hnodup : cleared.Nodup)
      (hleft : ∀ n, t.get? n = if n = tag.name then some ⟨tag, entity⟩
        else if n ∈ cleared then none else s.get? n) :
      Done s tag entity (.replaced old.entity.name cleared) t

theorem done_of_bind {outcome : BindOutcome} (h : s.bind tag entity = .ok (outcome, t)) :
    s.Done tag entity outcome t := by
  by_cases hholds : s.Holds tag entity
  · obtain ⟨hkind, hbears⟩ := holds_iff_bears.1 hholds
    rw [bind, if_pos hholds] at h
    cases h
    exact .unchanged hkind hbears
  · obtain ⟨hholds', -⟩ | ⟨-, hget, rfl, rfl⟩ | ⟨old, ho, hget, rfl, rfl⟩ := bind_eq_ok h
    · exact absurd hholds' hholds
    · exact .bound hget (get?_put s tag entity)
    · have hkind := (obstacle?_eq_none.1 ho).1
      refine .replaced hget (fun hbears => hholds (holds_iff_bears.2 ⟨hkind, hbears⟩))
        (fun n => mem_followers_iff_follows) (s.nodup_followers tag old.entity.name) ?_
      exact get?_replace s tag entity old

/-- **A binding is a transaction.** In every selection an attempt to bind is refused for the kind
exactly if the kinds differ, and for a holder exactly if the kinds agree, the tag's name does not
bear the entity already, and another name is in the way; the holder that is reported is such a name.
A refusal changes nothing, and neither does an attempt to bind what the name bears already. Any
other attempt puts the new binding under the tag's name and empties those other names which followed
the entity that the name held, if it held one; these are the names that it reports, each once, and
all that is bound under other names stays as it was. -/
theorem bind_transaction (s : Selection) (tag : Tag) (entity : Entity) :
    ((∃ name expected found, s.bind tag entity = .error (.kindMismatch name expected found)) ↔
      entity.kind ≠ tag.kind) ∧
    ((∃ name holder, s.bind tag entity = .error (.alreadyUsed name holder)) ↔
      entity.kind = tag.kind ∧ ¬ s.Bears tag entity ∧ ∃ n, s.InWay tag entity n) ∧
    (∀ e, s.bind tag entity = .error e →
      s.Refused tag entity e ∧ s.step (.bind tag entity) = s) ∧
    ∀ outcome t, s.bind tag entity = .ok (outcome, t) →
      s.Done tag entity outcome t ∧ s.step (.bind tag entity) = t := by
  refine ⟨bind_kindMismatch_iff, bind_alreadyUsed_iff, fun e he => ⟨refused_of_bind he, ?_⟩,
    fun outcome t h => ⟨done_of_bind h, ?_⟩⟩
  · rw [step, he]
    rfl
  · rw [step, h]
    rfl

/-- What followed an entity is what stands after the tag that is bound now, not after the tag at
which the entity stood. -/
example :
    let ada : Entity := { name := "Ada", kind := .character }
    let bea : Entity := { name := "Bea", kind := .character }
    let s := (empty .downstream).run [.bind ⟨.character, "a", 0⟩ ada, .bind ⟨.character, "b", 1⟩ ada]
    (s.bind ⟨.character, "a", 0⟩ bea).toOption.map Prod.fst = some (.replaced "Ada" ["b"]) ∧
      (s.bind ⟨.character, "a", 1⟩ bea).toOption.map Prod.fst = some (.replaced "Ada" []) := by
  decide +kernel

end StoryBlanks.Selection
