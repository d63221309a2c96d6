import Mathlib.Data.List.Nodup
import StoryBlanks.Proofs.Selection.Moving
import StoryBlanks.Proofs.Selection.Usage

/-!
# Bindings in another order

Bindings and names in use are sets that are kept in some order, and every operation goes through
them in that order. Two selections that differ in the order alone are taken here through each
operation. What is bound never depends on it. Neither do the names in use, but for one batch: the
bindings that relocation finds no tag for are dropped one by one, and the last that holds a name
decides the kind under which the name goes out of use.

* `Selection.Relisted`, `Selection.Alike`: the same bindings; the same names in use as well.
* `Relisted.bind_cases`, `Relisted.relocate`: operations on bindings in another order.
* `Selection.Freed`, `mem_held_foldl_drop`: what a batch of drops takes out of use.
* `Alike.relocate`: relocation of bindings that agree on the kinds of what is lost.
* `Relisted.ordered_eq`: the order of the report is no matter of the order of the bindings.
-/

namespace StoryBlanks.Selection

/-- The same bindings under the same policy, in whatever order. -/
structure Relisted (s t : Selection) : Prop where
  policy_eq : s.policy = t.policy
  bindings : s.bindings.entries.Perm t.bindings.entries

/-- The same bindings under the same policy and the same names in use, in whatever order. -/
structure Alike (s t : Selection) : Prop extends Relisted s t where
  usage : s.usage.held.Perm t.usage.held

variable {s t r : Selection} {tag : Tag} {entity : Entity} {locate : Binding → Option Tag}

/-! ## The same bindings -/

namespace Relisted

theorem symm (h : Relisted s t) : Relisted t s := ⟨h.policy_eq.symm, h.bindings.symm⟩

theorem trans (h : Relisted s t) (k : Relisted t r) : Relisted s r :=
  ⟨h.policy_eq.trans k.policy_eq, h.bindings.trans k.bindings⟩

theorem get?_eq (h : Relisted s t) (n : String) : s.get? n = t.get? n :=
  NameMap.get?_eq_of_mem_iff fun _ => h.bindings.mem_iff

theorem of_get? (hpolicy : s.policy = t.policy) (hget : ∀ n, s.get? n = t.get? n) :
    Relisted s t := by
  refine ⟨hpolicy, (List.perm_ext_iff_of_nodup ?_ ?_).2 ?_⟩
  · exact List.Nodup.of_map Prod.fst s.bindings.distinct
  · exact List.Nodup.of_map Prod.fst t.bindings.distinct
  · rintro ⟨n, b⟩
    rw [mem_entries, mem_entries, hget n]

theorem drop (h : Relisted s t) (name : String) : Relisted (s.drop name) (t.drop name) := by
  refine of_get? ?_ fun n => ?_
  · rw [policy_drop, policy_drop, h.policy_eq]
  · rw [get?_drop, get?_drop, h.get?_eq]

theorem foldl_drop {names others : List String} (h : Relisted s t)
    (hnames : ∀ n, n ∈ names ↔ n ∈ others) :
    Relisted (names.foldl Selection.drop s) (others.foldl Selection.drop t) := by
  refine of_get? ?_ fun n => ?_
  · have hpolicy : ∀ (l : List String) (r : Selection), (l.foldl Selection.drop r).policy = r.policy :=
      fun l r => foldl_drop_induction (P := fun q => q.policy = r.policy)
        (fun q n hq => (policy_drop q n).trans hq) l rfl
    rw [hpolicy, hpolicy, h.policy_eq]
  · simp only [get?_foldl_drop, hnames, h.get?_eq]

theorem put (h : Relisted s t) (tag : Tag) (entity : Entity) :
    Relisted (s.put tag entity) (t.put tag entity) := by
  refine of_get? h.policy_eq fun n => ?_
  rw [get?_put, get?_put, h.get?_eq]

theorem without {names others : List String} (h : Relisted s t)
    (hnames : ∀ n, n ∈ names ↔ n ∈ others) : Relisted (s.without names) (t.without others) := by
  refine of_get? h.policy_eq fun n => ?_
  simp only [get?_without, hnames, h.get?_eq]

theorem release (h : Relisted s t) (entity : Entity) :
    Relisted (s.release entity) (t.release entity) := by
  refine of_get? ?_ fun n => ?_
  · rw [policy_release, policy_release, h.policy_eq]
  · rw [get?_release, get?_release, h.get?_eq]

theorem point (h : Relisted s t) (name : String) (tag : Tag) :
    Relisted (s.point name tag) (t.point name tag) := by
  refine of_get? h.policy_eq fun n => ?_
  rw [get?_point, get?_point, h.get?_eq]

/-! ### Names that are looked up together -/

/-- The names of a filtered map are the same names. -/
theorem keys_filter (h : Relisted s t) (keep : String → Binding → Bool) :
    (s.bindings.filter keep).keys.Perm (t.bindings.filter keep).keys :=
  (h.bindings.filter _).map Prod.fst

theorem followers (h : Relisted s t) (tag : Tag) (previous : String) :
    (s.followers tag previous).Perm (t.followers tag previous) := h.keys_filter _

theorem holders (h : Relisted s t) (tag : Tag) (entity : Entity) :
    (s.holders tag entity).Perm (t.holders tag entity) := by
  unfold Selection.holders
  rw [h.policy_eq]
  exact h.keys_filter _

theorem lostNames (h : Relisted s t) (locate : Binding → Option Tag) :
    (s.lostNames locate).Perm (t.lostNames locate) := h.keys_filter _

theorem replace (h : Relisted s t) (tag : Tag) (entity : Entity) (old : Binding) :
    Relisted (s.replace tag entity old) (t.replace tag entity old) := by
  have hnames := (h.followers tag old.entity.name).cons tag.name
  exact ((h.without fun _ => hnames.mem_iff).release old.entity).put tag entity

theorem holds_iff (h : Relisted s t) : s.Holds tag entity ↔ t.Holds tag entity := by
  rw [Holds, Holds, h.get?_eq]

theorem crowded_iff_crowded (h : Relisted s t) {name : String} {entityName : String}
    {sentence : Nat} : s.Crowded name entityName sentence ↔ t.Crowded name entityName sentence := by
  simp only [crowded_iff, h.get?_eq]

/-- The moves are made in the order of names, so that they are the same moves. -/
theorem moves_eq (h : Relisted s t) (locate : Binding → Option Tag) :
    s.moves locate = t.moves locate := by
  have hnodup : ∀ r : Selection, (r.moves locate).Nodup := fun r =>
    (r.nodup_moves locate).of_map Prod.fst
  have hperm : (s.moves locate).Perm (t.moves locate) := by
    refine (List.perm_ext_iff_of_nodup (hnodup s) (hnodup t)).2 ?_
    rintro ⟨n, u⟩
    simp only [mem_moves, h.get?_eq]
  refine hperm.eq_of_pairwise (fun a b _ _ hab hba => ?_) (s.pairwise_moves locate)
    (t.pairwise_moves locate)
  exact absurd hba (String.lt_asymm hab)

end Relisted

/-! ## The same names in use -/

/-- The names in use are the same if the same names are in the sets. -/
theorem Relisted.alike (h : Relisted s t)
    (husage : ∀ e, e ∈ s.usage.held ↔ e ∈ t.usage.held) : Alike s t :=
  ⟨h, (List.perm_ext_iff_of_nodup s.usage.distinct t.usage.distinct).2 husage⟩

/-- Letting an entity go takes its name out of use, unless a binding holds one of the name. -/
theorem mem_held_release {e : Kind × String} :
    e ∈ (s.release entity).usage.held ↔ e ∈ s.usage.held ∧
      (e = (entity.kind, entity.name) → ∃ n b, s.get? n = some b ∧ b.entity.name = entity.name) := by
  unfold release
  split
  · next hany =>
    have hheld := any_entries_iff.1 hany
    exact ⟨fun he => ⟨he, fun _ => hheld⟩, And.left⟩
  · next hany =>
    have hnone := mt any_entries_iff.2 hany
    rw [Usage.mem_held_erase, and_comm]
    exact and_congr_right fun _ => ⟨fun hne heq => absurd heq hne, fun himp heq => hnone (himp heq)⟩

namespace Alike

theorem refl (s : Selection) : Alike s s := ⟨⟨rfl, .refl _⟩, .refl _⟩

theorem symm (h : Alike s t) : Alike t s := ⟨h.toRelisted.symm, h.usage.symm⟩

theorem trans (h : Alike s t) (k : Alike t r) : Alike s r :=
  ⟨h.toRelisted.trans k.toRelisted, h.usage.trans k.usage⟩

theorem mem_held (h : Alike s t) (e : Kind × String) : e ∈ s.usage.held ↔ e ∈ t.usage.held :=
  h.usage.mem_iff

theorem release (h : Alike s t) (entity : Entity) : Alike (s.release entity) (t.release entity) := by
  refine (h.toRelisted.release entity).alike fun e => ?_
  simp only [mem_held_release, h.mem_held, h.get?_eq]

theorem put (h : Alike s t) (tag : Tag) (entity : Entity) :
    Alike (s.put tag entity) (t.put tag entity) := by
  refine (h.toRelisted.put tag entity).alike fun e => ?_
  simp only [Selection.put, Usage.mem_held_insert, h.mem_held]

theorem without {names others : List String} (h : Alike s t)
    (hnames : ∀ n, n ∈ names ↔ n ∈ others) : Alike (s.without names) (t.without others) :=
  ⟨h.toRelisted.without hnames, h.usage⟩

theorem point (h : Alike s t) (name : String) (tag : Tag) :
    Alike (s.point name tag) (t.point name tag) :=
  ⟨h.toRelisted.point name tag, h.usage⟩

theorem replace (h : Alike s t) (tag : Tag) (entity : Entity) (old : Binding) :
    Alike (s.replace tag entity old) (t.replace tag entity old) := by
  have hnames := (h.followers tag old.entity.name).cons tag.name
  exact ((h.without fun _ => hnames.mem_iff).release old.entity).put tag entity

end Alike

/-! ### A batch of drops -/

/-- All that hold an entity of the name are among these names, and one of them holds one of the
kind: once they are dropped, the name is out of use under the kind. -/
def Freed (s : Selection) (names : List String) (e : Kind × String) : Prop :=
  (∃ n ∈ names, ∃ b, s.get? n = some b ∧ b.entity.kind = e.1 ∧ b.entity.name = e.2) ∧
    ∀ n b, s.get? n = some b → b.entity.name = e.2 → n ∈ names

/-- Entities of one name that are bound under these names have one kind. -/
def AgreeOn (s : Selection) (names : List String) : Prop :=
  ∀ m ∈ names, ∀ n ∈ names, ∀ b c, s.get? m = some b → s.get? n = some c →
    b.entity.name = c.entity.name → b.entity.kind = c.entity.kind

theorem mem_held_drop {name : String} {e : Kind × String} :
    e ∈ (s.drop name).usage.held ↔ e ∈ s.usage.held ∧ ¬ s.Freed [name] e := by
  unfold drop unbind
  split
  · next hg =>
    have hnot : ¬ s.Freed [name] e := by
      rintro ⟨⟨n, hn, b, hb, -⟩, -⟩
      rw [List.mem_singleton.1 hn, hg] at hb
      cases hb
    exact (and_iff_left hnot).symm
  · next b hg =>
    rw [mem_held_release]
    refine and_congr_right fun _ => ?_
    simp only [get?, NameMap.get?_erase]
    constructor
    · rintro himp ⟨⟨n, hn, c, hc, hkind, hname⟩, hall⟩
      obtain rfl := List.mem_singleton.1 hn
      obtain rfl := Option.some.inj (hc.symm.trans hg)
      obtain ⟨m, d, hd, hde⟩ := himp (Prod.ext hkind.symm hname.symm)
      split at hd
      · cases hd
      · next hm => exact hm (List.mem_singleton.1 (hall m d hd (hde.trans hname)))
    · rintro hnot rfl
      -- were no other holder left, the name would be freed
      refine Classical.byContradiction fun hnone => hnot ⟨⟨name, List.mem_singleton_self _, b, hg, rfl,
        rfl⟩, fun m d hd hde => ?_⟩
      by_cases hm : m = name
      · exact List.mem_singleton.2 hm
      · exact absurd ⟨m, d, by rw [if_neg hm]; exact hd, hde⟩ hnone

/-- Whoever is dropped last frees a name: the first of a batch, if nobody else holds it, or one of
those after it. -/
theorem AgreeOn.freed_cons {name : String} {names : List String}
    (h : s.AgreeOn (name :: names)) {e : Kind × String} :
    s.Freed (name :: names) e ↔ s.Freed [name] e ∨ (s.drop name).Freed names e := by
  constructor
  · rintro ⟨⟨n, hn, b, hb, hkind, hname⟩, hall⟩
    by_cases hother : ∃ m c, s.get? m = some c ∧ m ≠ name ∧ c.entity.name = e.2
    · -- another holder is dropped later, and agrees on the kind
      obtain ⟨m, c, hc, hm, hce⟩ := hother
      have hmem := hall m c hc hce
      have hlater := (List.mem_cons.1 hmem).resolve_left hm
      refine .inr ⟨⟨m, hlater, c, ?_, ?_, hce⟩, fun k d hd hde => ?_⟩
      · rw [get?_drop, if_neg hm, hc]
      · rw [h m hmem n hn c b hc hb (hce.trans hname.symm), hkind]
      · rw [get?_drop] at hd
        split at hd
        · cases hd
        · next hk => exact (List.mem_cons.1 (hall k d hd hde)).resolve_left hk
    · -- nobody else holds an entity of the name
      have honly : ∀ m c, s.get? m = some c → c.entity.name = e.2 → m = name := fun m c hc hce =>
        Classical.byContradiction fun hm => hother ⟨m, c, hc, hm, hce⟩
      refine .inl ⟨⟨n, ?_, b, hb, hkind, hname⟩, fun m c hc hce => ?_⟩
      · exact List.mem_singleton.2 (honly n b hb hname)
      · exact List.mem_singleton.2 (honly m c hc hce)
  · rintro (⟨⟨n, hn, b, hb, hkind, hname⟩, hall⟩ | ⟨⟨n, hn, b, hb, hkind, hname⟩, hall⟩)
    · refine ⟨⟨n, ?_, b, hb, hkind, hname⟩, fun m c hc hce => ?_⟩
      · exact List.mem_cons.2 (.inl (List.mem_singleton.1 hn))
      · exact List.mem_cons.2 (.inl (List.mem_singleton.1 (hall m c hc hce)))
    · refine ⟨⟨n, List.mem_cons_of_mem _ hn, b, get?_of_drop hb, hkind, hname⟩, fun m c hc hce => ?_⟩
      by_cases hm : m = name
      · exact List.mem_cons.2 (.inl hm)
      · refine List.mem_cons_of_mem _ (hall m c ?_ hce)
        rw [get?_drop, if_neg hm, hc]

/-- **What a batch of drops takes out of use**, if the entities that are dropped agree on the kinds
of their names. The induction is on the batch: a name goes with the last of its holders, whichever
that is. -/
theorem mem_held_foldl_drop {names : List String} (h : s.AgreeOn names) {e : Kind × String} :
    e ∈ (names.foldl drop s).usage.held ↔ e ∈ s.usage.held ∧ ¬ s.Freed names e := by
  induction names generalizing s with
  | nil =>
    have hnot : ¬ s.Freed [] e := by
      rintro ⟨⟨n, hn, -⟩, -⟩
      cases hn
    exact (and_iff_left hnot).symm
  | cons name names ih =>
    have hrest : (s.drop name).AgreeOn names := fun m hm n hn b c hb hc =>
      h m (List.mem_cons_of_mem _ hm) n (List.mem_cons_of_mem _ hn) b c (get?_of_drop hb)
        (get?_of_drop hc)
    rw [List.foldl_cons, ih hrest, mem_held_drop, h.freed_cons, not_or, and_assoc]

theorem Alike.drop (h : Alike s t) (name : String) : Alike (s.drop name) (t.drop name) := by
  refine (h.toRelisted.drop name).alike fun e => ?_
  simp only [mem_held_drop, Freed, h.mem_held, h.get?_eq]

theorem Alike.foldl_drop {names others : List String} (h : Alike s t) (hagree : s.AgreeOn names)
    (hnames : ∀ n, n ∈ names ↔ n ∈ others) :
    Alike (names.foldl Selection.drop s) (others.foldl Selection.drop t) := by
  refine (h.toRelisted.foldl_drop hnames).alike fun e => ?_
  have hagree' : t.AgreeOn others := by
    simpa only [AgreeOn, hnames, h.get?_eq] using hagree
  rw [mem_held_foldl_drop hagree, mem_held_foldl_drop hagree']
  simp only [Freed, hnames, h.mem_held, h.get?_eq]

/-! ## Relocation -/

/-- Moves are made alike in two selections, if drops and single moves are. -/
theorem moveAll_relation {R : Selection → Selection → Prop}
    (hrelisted : ∀ s t, R s t → Relisted s t)
    (hdrop : ∀ s t n, R s t → R (s.drop n) (t.drop n))
    (hpoint : ∀ s t n u, R s t → R (s.point n u) (t.point n u)) (moves : List (String × Tag))
    (h : R s t) :
    (s.moveAll moves).1 = (t.moveAll moves).1 ∧ R (s.moveAll moves).2 (t.moveAll moves).2 := by
  induction moves generalizing s t with
  | nil => exact ⟨rfl, h⟩
  | cons move moves ih =>
    obtain ⟨name, tag⟩ := move
    have hr := hrelisted s t h
    simp only [moveAll, hr.get?_eq, hr.crowded_iff_crowded]
    split
    · exact ih h
    · split
      · obtain ⟨hnames, hafter⟩ := ih (hdrop s t name h)
        exact ⟨congrArg (List.cons name) hnames, hafter⟩
      · exact ih (hpoint s t name tag h)

/-- Entities of one name whose bindings have no tag to go to have one kind. -/
def LostAgree (s : Selection) (locate : Binding → Option Tag) : Prop :=
  ∀ m n b c, s.get? m = some b → s.get? n = some c → locate b = none → locate c = none →
    b.entity.name = c.entity.name → b.entity.kind = c.entity.kind

theorem LostAgree.agreeOn (h : s.LostAgree locate) : s.AgreeOn (s.lostNames locate) := by
  intro m hm n hn b c hb hc he
  obtain ⟨b', hb', hl⟩ := mem_lostNames.1 hm
  obtain ⟨c', hc', hk⟩ := mem_lostNames.1 hn
  obtain rfl := Option.some.inj (hb'.symm.trans hb)
  obtain rfl := Option.some.inj (hc'.symm.trans hc)
  exact h m n b' c' hb hc hl hk he

/-- Bindings that agree on all kinds agree on those of what is lost. -/
theorem Coherent.lostAgree (h : s.Coherent) (locate : Binding → Option Tag) : s.LostAgree locate :=
  fun m n b c hb hc _ _ => h m n b c hb hc

/-- Relocation drops the same names, and leaves the same bindings. -/
theorem Relisted.relocate (h : Relisted s t) (locate : Binding → Option Tag) :
    (s.relocate locate).1.Perm (t.relocate locate).1 ∧
      Relisted (s.relocate locate).2 (t.relocate locate).2 := by
  have hlost := h.lostNames locate
  obtain ⟨hcrowded, hafter⟩ := moveAll_relation (R := Relisted) (fun _ _ hr => hr)
    (fun _ _ n hr => hr.drop n) (fun _ _ n u hr => hr.point n u) (s.moves locate)
    (h.foldl_drop fun _ => hlost.mem_iff)
  unfold Selection.relocate
  rw [← h.moves_eq locate]
  refine ⟨?_, hafter⟩
  dsimp only
  rw [hcrowded]
  exact hlost.append_right _

/-- **Relocation leaves the same names in use**, if what is lost agrees on the kinds of names. -/
theorem Alike.relocate (h : Alike s t) (hagree : s.LostAgree locate) :
    Alike (s.relocate locate).2 (t.relocate locate).2 := by
  have hremaining := h.foldl_drop hagree.agreeOn fun _ => (h.lostNames locate).mem_iff
  rw [relocate_eq, relocate_eq, ← h.moves_eq locate]
  exact (moveAll_relation (R := Alike) (fun _ _ hr => hr.toRelisted) (fun _ _ n hr => hr.drop n)
    (fun _ _ n u hr => hr.point n u) _ hremaining).2

/-! ## Binding -/

/-- The two errors are alike: of those that hold an entity they may name different ones. -/
inductive ErrorLike : BindError → BindError → Prop
  | kindMismatch (tag : String) (expected found : Kind) :
    ErrorLike (.kindMismatch tag expected found) (.kindMismatch tag expected found)
  | alreadyUsed (entity holder other : String) :
    ErrorLike (.alreadyUsed entity holder) (.alreadyUsed entity other)

theorem Relisted.obstacle?_cases (h : Relisted s t) (tag : Tag) (entity : Entity) :
    (s.obstacle? tag entity = none ∧ t.obstacle? tag entity = none) ∨
      ∃ e f, s.obstacle? tag entity = some e ∧ t.obstacle? tag entity = some f ∧ ErrorLike e f := by
  have hholders := h.holders tag entity
  unfold obstacle?
  split
  · cases hs : s.holders tag entity with
    | nil =>
      rw [hs, List.nil_perm] at hholders
      rw [hholders]
      exact .inl ⟨rfl, rfl⟩
    | cons holder holders =>
      cases ht : t.holders tag entity with
      | nil =>
        rw [hs, ht, List.perm_nil] at hholders
        cases hholders
      | cons other others => exact .inr ⟨_, _, rfl, rfl, .alreadyUsed ..⟩
  · exact .inr ⟨_, _, rfl, rfl, .kindMismatch ..⟩

/-- **A binding goes the same way in both**: it fails with errors alike, changes nothing, binds, or
replaces the same entity. -/
theorem Relisted.bind_cases (h : Relisted s t) (tag : Tag) (entity : Entity) :
    (∃ e f, s.bind tag entity = .error e ∧ t.bind tag entity = .error f ∧ ErrorLike e f) ∨
    (s.bind tag entity = .ok (.unchanged, s) ∧ t.bind tag entity = .ok (.unchanged, t)) ∨
    (s.bind tag entity = .ok (.bound, s.put tag entity) ∧
      t.bind tag entity = .ok (.bound, t.put tag entity)) ∨
    ∃ old, s.bind tag entity =
        .ok (.replaced old.entity.name (s.followers tag old.entity.name),
          s.replace tag entity old) ∧
      t.bind tag entity =
        .ok (.replaced old.entity.name (t.followers tag old.entity.name),
          t.replace tag entity old) := by
  unfold bind
  by_cases hh : s.Holds tag entity
  · rw [if_pos hh, if_pos (h.holds_iff.1 hh)]
    exact .inr (.inl ⟨rfl, rfl⟩)
  · rw [if_neg hh, if_neg (mt h.holds_iff.2 hh), ← h.get?_eq]
    obtain ⟨hs, ht⟩ | ⟨e, f, hs, ht, hlike⟩ := h.obstacle?_cases tag entity
    · rw [hs, ht]
      cases s.get? tag.name with
      | none => exact .inr (.inr (.inl ⟨rfl, rfl⟩))
      | some old => exact .inr (.inr (.inr ⟨old, rfl, rfl⟩))
    · rw [hs, ht]
      exact .inl ⟨e, f, rfl, rfl, hlike⟩

/-- Under the strict policy there is one holder at most, so that the same one is named. -/
theorem Relisted.obstacle?_eq (h : Relisted s t) (hunique : s.Unique) (hp : s.policy = .strict)
    (tag : Tag) (entity : Entity) : s.obstacle? tag entity = t.obstacle? tag entity := by
  obtain ⟨hs, ht⟩ | ⟨e, f, hs, ht, hlike⟩ := h.obstacle?_cases tag entity
  · rw [hs, ht]
  · rw [hs, ht]
    cases hlike with
    | kindMismatch => rfl
    | alreadyUsed name holder other =>
      have hother := (h.holders tag entity).mem_iff.2 (mem_holders_of_obstacle? ht).2
      obtain ⟨b, hb, -, hbe, -⟩ := mem_holders.1 (mem_holders_of_obstacle? hs).2
      obtain ⟨c, hc, -, hce, -⟩ := mem_holders.1 hother
      rw [hunique.eq_of_strict hp hb hc (hbe.trans hce.symm)]

/-! ## The report -/

/-- Each binding is kept under the name of its tag. -/
def Named (s : Selection) : Prop := ∀ n b, s.get? n = some b → b.tag.name = n

theorem pairwise_ordered (s : Selection) : s.ordered.Pairwise fun b c =>
    b.tag.sentence < c.tag.sentence ∨
      b.tag.sentence = c.tag.sentence ∧ b.tag.name ≤ c.tag.name := by
  refine (List.pairwise_mergeSort (fun b c d hbc hcd => ?_) (fun b c => ?_) _).imp
    fun hbc => of_decide_eq_true hbc
  · rw [decide_eq_true_eq] at hbc hcd ⊢
    rcases hbc with hlt | ⟨heq, hle⟩
    · rcases hcd with hlt' | ⟨heq', -⟩
      · exact .inl (Nat.lt_trans hlt hlt')
      · exact .inl (heq' ▸ hlt)
    · rcases hcd with hlt' | ⟨heq', hle'⟩
      · exact .inl (heq ▸ hlt')
      · exact .inr ⟨heq.trans heq', String.le_trans hle hle'⟩
  · rw [Bool.or_eq_true, decide_eq_true_eq, decide_eq_true_eq]
    rcases Nat.lt_trichotomy b.tag.sentence c.tag.sentence with hlt | heq | hgt
    · exact .inl (.inl hlt)
    · exact (String.le_total b.tag.name c.tag.name).imp (fun hle => .inr ⟨heq, hle⟩)
        fun hle => .inr ⟨heq.symm, hle⟩
    · exact .inr (.inl hgt)

theorem mem_ordered {b : Binding} : b ∈ s.ordered ↔ ∃ n, s.get? n = some b := by
  simp only [ordered, List.mem_mergeSort, List.mem_map, Prod.exists, mem_entries,
    exists_eq_right]

/-- **The report does not depend on the order of the bindings**, if each is kept under the name of
its tag. -/
theorem Relisted.ordered_eq (h : Relisted s t) (hnamed : s.Named) : s.ordered = t.ordered := by
  have hperm : s.ordered.Perm t.ordered := by
    refine (List.mergeSort_perm _ _).trans (.trans ?_ (List.mergeSort_perm _ _).symm)
    exact h.bindings.map Prod.snd
  refine hperm.eq_of_pairwise (fun b c hb hc hbc hcb => ?_) s.pairwise_ordered t.pairwise_ordered
  obtain ⟨m, hm⟩ := mem_ordered.1 hb
  obtain ⟨n, hn⟩ := mem_ordered.1 hc
  rw [← h.get?_eq] at hn
  -- neither stands before the other, so they are under one name
  have hname : b.tag.name = c.tag.name := by
    rcases hbc with hlt | ⟨heq, hle⟩
    · rcases hcb with hgt | ⟨heq, -⟩
      · exact absurd hgt (Nat.lt_asymm hlt)
      · exact absurd heq (Nat.ne_of_gt hlt)
    · rcases hcb with hgt | ⟨-, hge⟩
      · exact absurd heq (Nat.ne_of_gt hgt)
      · exact String.le_antisymm hle hge
  rw [hnamed m b hm, hnamed n c hn] at hname
  subst hname
  exact Option.some.inj (hm.symm.trans hn)

end StoryBlanks.Selection
