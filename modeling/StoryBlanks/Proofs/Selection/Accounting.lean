import StoryBlanks.Proofs.Selection.Moving

/-!
# Every name is accounted for

Relocation takes bindings away in two goes, those that have no tag to go to and then those that are
crowded on the way, while the others move one by one. Yet each name that was bound is either bound
still, to the entity it held, or reported as dropped, and then once. And a binding is not dropped
for nothing: it had no tag to go to, or another holder of its entity stood in the sentence it was
sent to, before the moves or after them.

* `mem_dropped_moveAll`, `nodup_dropped_moveAll`: what a run of moves reports.
* `mem_dropped`, `nodup_dropped`: what relocation reports.
* `crowded_of_dropped`: why a binding with a tag to go to is dropped.
* `keys_perm_relocate`: the names before are the names after and those that were dropped.
* `relocate_accounting`: every relocation of every selection.
-/

namespace StoryBlanks.Selection

variable {s : Selection} {locate : Binding → Option Tag} {moves : List (String × Tag)} {n : String}
  {b : Binding} {u : Tag}

/-! ## What a run of moves reports -/

/-- Moving binds no name that was empty. -/
theorem get?_moveAll_of_none (moves : List (String × Tag)) (h : s.get? n = none) :
    (s.moveAll moves).2.get? n = none := by
  refine moveAll_induction (P := fun r => r.get? n = none) (fun r m hr => ?_)
    (fun r m _ _ _ _ _ hr => ?_) h
  · rw [get?_drop, hr, ite_self]
  · rw [get?_point, hr, Option.map_none, ite_self]

/-- A run of moves reports the names that it leaves empty, and no others. The induction follows the
moves; a name is empty from its own turn on. -/
theorem mem_dropped_moveAll (s : Selection) (moves : List (String × Tag)) (n : String) :
    n ∈ (s.moveAll moves).1 ↔ s.get? n ≠ none ∧ (s.moveAll moves).2.get? n = none := by
  induction moves generalizing s with
  | nil => simp [moveAll]
  | cons move moves ih =>
    obtain ⟨name, tag⟩ := move
    rw [moveAll]
    split
    · exact ih s
    · next b hb =>
      split
      · rw [List.mem_cons, ih (s.drop name), get?_drop]
        by_cases hn : n = name
        · subst hn
          have hempty : (s.drop n).get? n = none := by rw [get?_drop, if_pos rfl]
          exact iff_of_true (.inl rfl) ⟨by simp [hb], get?_moveAll_of_none moves hempty⟩
        · simp [hn]
      · rw [ih (s.point name tag), get?_point]
        by_cases hn : n = name <;> simp [hn]

theorem nodup_dropped_moveAll (s : Selection) (moves : List (String × Tag)) :
    (s.moveAll moves).1.Nodup := by
  induction moves generalizing s with
  | nil => exact .nil
  | cons move moves ih =>
    obtain ⟨name, tag⟩ := move
    rw [moveAll]
    split
    · exact ih s
    · split
      · refine List.nodup_cons.2 ⟨fun hmem => ?_, ih (s.drop name)⟩
        -- the name is empty already, and only names that are bound are reported
        exact ((mem_dropped_moveAll _ moves name).1 hmem).1 (by rw [get?_drop, if_pos rfl])
      · exact ih (s.point name tag)

/-! ## What relocation reports -/

theorem fst_relocate (s : Selection) (locate : Binding → Option Tag) : (s.relocate locate).1 =
    s.lostNames locate ++ ((s.remaining locate).moveAll (s.moves locate)).1 := rfl

/-- Relocation reports the names that it leaves empty, and no others. -/
theorem mem_dropped (s : Selection) (locate : Binding → Option Tag) (n : String) :
    n ∈ (s.relocate locate).1 ↔ s.get? n ≠ none ∧ (s.relocate locate).2.get? n = none := by
  rw [fst_relocate, List.mem_append, mem_dropped_moveAll, ← relocate_eq, get?_remaining,
    mem_lostNames]
  cases hb : s.get? n with
  | none => simp
  | some b =>
    cases hl : locate b with
    | some u => simp [hl, Option.filter]
    | none =>
      have hgone : (s.remaining locate).get? n = none := by
        simp [get?_remaining, hb, hl, Option.filter]
      simp [hl, relocate_eq, get?_moveAll_of_none _ hgone]

theorem nodup_dropped (s : Selection) (locate : Binding → Option Tag) :
    (s.relocate locate).1.Nodup := by
  rw [fst_relocate, List.nodup_append]
  refine ⟨NameMap.nodup_keys _, nodup_dropped_moveAll _ _, fun n hlost m hmoved heq => ?_⟩
  obtain ⟨b, hb, hl⟩ := mem_lostNames.1 hlost
  rw [← heq, mem_dropped_moveAll, get?_remaining, hb] at hmoved
  simp [Option.filter, hl] at hmoved

/-- A binding that is dropped with a tag to go to is sent to the sentence of another holder of its
entity, one that stood there before the moves or stands there after them. -/
theorem crowded_of_dropped (hb : s.get? n = some b) (hu : locate b = some u)
    (h : n ∈ (s.relocate locate).1) : s.Crowded n b.entity.name u.sentence ∨
      (s.relocate locate).2.Crowded n b.entity.name u.sentence := by
  have hgone := ((mem_dropped s locate n).1 h).2
  by_cases hne : u = b.tag
  · rw [get?_relocate_of_stays hb (hne ▸ hu)] at hgone
    cases hgone
  · obtain ⟨before, after, hmoves, hiff⟩ := get?_relocate_of_sent hb hu hne
    rcases crowded_or_leaving hmoves (hiff.1 hgone) with hcrowded | hleaving
    · exact .inr hcrowded
    · obtain ⟨m, c, v, hc, hlt, he, hs, -⟩ := hleaving
      have hm : m ≠ n := fun heq => String.lt_irrefl n (heq ▸ hlt)
      exact .inl (crowded_iff.2 ⟨m, c, hc, hm, he, hs⟩)

/-! ## The account -/

theorem mem_keys_iff_ne_none : n ∈ s.bindings.keys ↔ s.get? n ≠ none := by
  rw [NameMap.mem_keys_iff, Option.ne_none_iff_exists']
  rfl

/-- A name that was empty, or whose binding has no tag to go to, is empty afterwards. -/
theorem get?_relocate_of_nowhere (h : (s.get? n).bind locate = none) :
    (s.relocate locate).2.get? n = none := by
  refine Option.eq_none_iff_forall_ne_some.2 fun c hc => ?_
  obtain ⟨b, hb, hl, -⟩ := get?_relocate hc
  rw [hb, Option.bind_some, hl] at h
  cases h

theorem nodup_keys_append_dropped (s : Selection) (locate : Binding → Option Tag) :
    ((s.relocate locate).2.bindings.keys ++ (s.relocate locate).1).Nodup := by
  rw [List.nodup_append]
  refine ⟨NameMap.nodup_keys _, s.nodup_dropped locate, fun n hkept m hdropped heq => ?_⟩
  rw [← heq, mem_dropped] at hdropped
  exact mem_keys_iff_ne_none.1 hkept hdropped.2

theorem keys_perm_relocate (s : Selection) (locate : Binding → Option Tag) :
    s.bindings.keys.Perm ((s.relocate locate).2.bindings.keys ++ (s.relocate locate).1) := by
  refine (List.perm_ext_iff_of_nodup (NameMap.nodup_keys _)
    (s.nodup_keys_append_dropped locate)).2 fun n => ?_
  rw [List.mem_append, mem_keys_iff_ne_none, mem_keys_iff_ne_none, mem_dropped]
  by_cases hs : s.get? n = none
  · have hgone : (s.relocate locate).2.get? n = none := get?_relocate_of_nowhere (by simp [hs])
    simp [hs, hgone]
  · simp [hs, or_comm, Decidable.em]

/-- The account of a relocation that reports `dropped` and leaves `t`. -/
structure Accounts (s : Selection) (locate : Binding → Option Tag) (dropped : List String)
    (t : Selection) : Prop where
  /-- The names that were bound are those that are bound now and those that were dropped. -/
  keys_perm : s.bindings.keys.Perm (t.bindings.keys ++ dropped)
  /-- None of these comes twice. -/
  nodup : (t.bindings.keys ++ dropped).Nodup
  /-- What is bound now was bound before, and has gone where it was sent. -/
  kept : ∀ n c, t.get? n = some c →
    ∃ b, s.get? n = some b ∧ locate b = some c.tag ∧ c.entity = b.entity
  /-- A binding without a tag to go to is dropped. -/
  lost : ∀ n b, s.get? n = some b → locate b = none → n ∈ dropped
  /-- A binding that is sent where it stands is not dropped. -/
  stays : ∀ n b, s.get? n = some b → locate b = some b.tag → n ∉ dropped
  /-- Any other binding that is dropped was sent to the sentence of another holder of its entity, as
  the holders stood before or as they stand now. -/
  crowded : ∀ n b u, s.get? n = some b → locate b = some u → n ∈ dropped →
    s.Crowded n b.entity.name u.sentence ∨ t.Crowded n b.entity.name u.sentence

/-- **Every name is accounted for.** Whatever is bound and wherever its bindings are sent, a
relocation neither loses nor invents a binding: each name that was bound is bound still, to the
entity that it held and at the tag that was found for it, or it is reported as dropped, and not
both, nor twice. A binding is dropped if no tag is found for it, never if its own tag is found, and
otherwise only for another holder of its entity in the sentence it was sent to, which stood there
before or stands there now. -/
theorem relocate_accounting (s : Selection) (locate : Binding → Option Tag) :
    s.Accounts locate (s.relocate locate).1 (s.relocate locate).2 := by
  refine ⟨s.keys_perm_relocate locate, s.nodup_keys_append_dropped locate,
    fun n c hc => get?_relocate hc, fun n b hb hl => ?_, fun n b hb hl hmem => ?_,
    fun n b u hb hu hmem => crowded_of_dropped hb hu hmem⟩
  · exact (mem_dropped s locate n).2 ⟨by simp [hb], get?_relocate_of_nowhere (by simp [hb, hl])⟩
  · have hgone := ((mem_dropped s locate n).1 hmem).2
    rw [get?_relocate_of_stays hb hl] at hgone
    cases hgone

end StoryBlanks.Selection
