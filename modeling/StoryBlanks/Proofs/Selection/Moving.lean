import StoryBlanks.Proofs.Selection.Unique

/-!
# Who is dropped on the way

Relocation moves bindings one after another, in the order of their names, and drops a binding if at
its turn another holder of its entity stands in the sentence it goes to. Such a holder stands there
still when all have moved; or it has a later name, and has yet to leave.

* `moveAll_append`, `get?_at_turn`: the selection at the turn of a name.
* `Selection.Leaving`: a holder that has yet to leave.
* `get?_relocate_of_stays`, `get?_relocate_of_sent`: bindings that stay, and bindings that are sent.
* `Unique.get?_relocate_eq_none_iff`: exactly which bindings are dropped.
* `relocate_of_settled`: with every binding in its place, nothing changes.
-/

namespace StoryBlanks.Selection

variable {s : Selection} {locate : Binding → Option Tag} {before after : List (String × Tag)}
  {n : String} {u : Tag} {b : Binding}

/-! ## The turn of a name -/

theorem moveAll_append (s : Selection) (before after : List (String × Tag)) :
    (s.moveAll (before ++ after)).2 = ((s.moveAll before).2.moveAll after).2 := by
  induction before generalizing s with
  | nil => rfl
  | cons move before ih =>
    obtain ⟨name, tag⟩ := move
    simp only [List.cons_append, moveAll]
    split
    · exact ih s
    · split
      · exact ih (s.drop name)
      · exact ih (s.point name tag)

/-- At the turn of a name, the names after it hold what they held at first, and the others what they
hold in the end. -/
theorem get?_at_turn (hd : ((before ++ (n, u) :: after).map Prod.fst).Nodup) (s : Selection)
    {m : String} (hm : m ≠ n) : (s.moveAll before).2.get? m =
      if m ∈ after.map Prod.fst then s.get? m
      else (s.moveAll (before ++ (n, u) :: after)).2.get? m := by
  rw [List.map_append, List.map_cons, List.nodup_append] at hd
  obtain ⟨hbefore, hrest, hapart⟩ := hd
  split
  · next hlater =>
    refine (get?_moveAll hbefore s m).1 fun hearlier => ?_
    exact hapart m hearlier m (List.mem_cons_of_mem n hlater) rfl
  · next hlater =>
    have hnot : m ∉ ((n, u) :: after).map Prod.fst := by
      rw [List.map_cons, List.mem_cons, not_or]
      exact ⟨hm, hlater⟩
    rw [moveAll_append, (get?_moveAll (by rwa [List.map_cons]) _ m).1 hnot]

/-- A name that is sent to a tag is dropped exactly if it is crowded at its turn. -/
theorem get?_moveAll_eq_none_iff (hd : ((before ++ (n, u) :: after).map Prod.fst).Nodup)
    (hb : s.get? n = some b) : (s.moveAll (before ++ (n, u) :: after)).2.get? n = none ↔
      (s.moveAll before).2.Crowded n b.entity.name u.sentence := by
  rw [List.map_append, List.map_cons, List.nodup_append] at hd
  obtain ⟨hbefore, hrest, hapart⟩ := hd
  have hturn : (s.moveAll before).2.get? n = some b := by
    rw [← hb]
    exact (get?_moveAll hbefore s n).1 fun hm => hapart n hm n List.mem_cons_self rfl
  obtain ⟨hlater, hafter⟩ := List.nodup_cons.1 hrest
  rw [moveAll_append, moveAll, hturn]
  dsimp only
  split
  · next hc =>
    rw [(get?_moveAll hafter _ n).1 hlater, get?_drop, if_pos rfl]
    exact iff_of_true rfl hc
  · next hc =>
    rw [(get?_moveAll hafter _ n).1 hlater, get?_point, if_pos rfl, hturn]
    exact iff_of_false (Option.some_ne_none _) hc

/-! ## Who crowds a name at its turn -/

theorem pairwise_moves (s : Selection) (locate : Binding → Option Tag) :
    (s.moves locate).Pairwise fun a b => a.1 < b.1 := by
  have hsorted : (s.moves locate).Pairwise fun a b => a.1 ≤ b.1 :=
    Text.pairwise_mergeSort_by Prod.fst _
  refine hsorted.imp₂ (fun a b hle hne => ?_) (List.pairwise_map.1 (s.nodup_moves locate))
  exact String.not_le.1 fun hge => hne (String.le_antisymm hle hge)

/-- A later name holds that entity in that sentence, and is sent to another tag. -/
def Leaving (s : Selection) (locate : Binding → Option Tag) (name entity : String)
    (sentence : Nat) : Prop :=
  ∃ m c v, s.get? m = some c ∧ name < m ∧ c.entity.name = entity ∧ c.tag.sentence = sentence ∧
    locate c = some v ∧ v ≠ c.tag

/-- The selection when moving begins, without the bindings that have no tag to go to. -/
def remaining (s : Selection) (locate : Binding → Option Tag) : Selection :=
  (s.lostNames locate).foldl drop s

theorem relocate_eq (s : Selection) (locate : Binding → Option Tag) :
    (s.relocate locate).2 = ((s.remaining locate).moveAll (s.moves locate)).2 := rfl

theorem get?_remaining (s : Selection) (locate : Binding → Option Tag) (m : String) :
    (s.remaining locate).get? m = (s.get? m).filter fun c => (locate c).isSome := by
  rw [remaining, get?_foldl_drop]
  cases hm : s.get? m with
  | none => simp
  | some c => cases hl : locate c <;> simp [mem_lostNames, hm, hl, Option.filter]

/-- At its turn a name is crowded by a holder that stands there in the end, or by one that has yet
to leave. -/
theorem crowded_or_leaving (hmoves : s.moves locate = before ++ (n, u) :: after) {entity : String}
    {sentence : Nat} (h : ((s.remaining locate).moveAll before).2.Crowded n entity sentence) :
    (s.relocate locate).2.Crowded n entity sentence ∨ s.Leaving locate n entity sentence := by
  have hd := s.nodup_moves locate
  have hsorted := s.pairwise_moves locate
  rw [hmoves] at hd hsorted
  obtain ⟨m, c, hc, hm, he, hs⟩ := crowded_iff.1 h
  -- a name after this one is to be moved still, and is known to be later by the order of the moves
  rw [get?_at_turn hd _ hm] at hc
  split at hc
  · next hlater =>
    obtain ⟨⟨m, v⟩, hafter, rfl⟩ := List.mem_map.1 hlater
    have hlt : n < m := (List.pairwise_cons.1 (List.pairwise_append.1 hsorted).2.1).1 (m, v) hafter
    rw [get?_remaining] at hc
    have hc' := (Option.filter_eq_some_iff.1 hc).1
    have hmem : (m, v) ∈ s.moves locate :=
      hmoves ▸ List.mem_append_right before (List.mem_cons_of_mem (n, u) hafter)
    obtain ⟨c', hold, hl, hne⟩ := mem_moves.1 hmem
    obtain rfl := Option.some.inj (hold.symm.trans hc')
    exact .inr ⟨m, c', v, hc', hlt, he, hs, hl, hne⟩
  · rw [← hmoves, ← relocate_eq] at hc
    exact .inl (crowded_iff.2 ⟨m, c, hc, hm, he, hs⟩)

theorem Leaving.crowded_at_turn {entity : String} {sentence : Nat}
    (h : s.Leaving locate n entity sentence)
    (hmoves : s.moves locate = before ++ (n, u) :: after) :
    ((s.remaining locate).moveAll before).2.Crowded n entity sentence := by
  obtain ⟨m, c, v, hc, hlt, he, hs, hl, hne⟩ := h
  have hd := s.nodup_moves locate
  have hsorted := s.pairwise_moves locate
  rw [hmoves] at hd hsorted
  have hm : m ≠ n := fun heq => String.lt_irrefl n (heq ▸ hlt)
  have hafter : (m, v) ∈ after := by
    have hmem := mem_moves.2 ⟨c, hc, hl, hne⟩
    rw [hmoves, List.mem_append, List.mem_cons] at hmem
    rcases hmem with hbefore | hhere | hafter
    · have hgt := (List.pairwise_append.1 hsorted).2.2 (m, v) hbefore (n, u) List.mem_cons_self
      exact absurd hlt (String.lt_asymm hgt)
    · cases hhere
      exact absurd rfl hm
    · exact hafter
  refine crowded_iff.2 ⟨m, c, ?_, hm, he, hs⟩
  rw [get?_at_turn hd _ hm, if_pos (List.mem_map_of_mem hafter), get?_remaining, hc]
  exact Option.filter_eq_some_iff.2 ⟨rfl, by rw [hl]; rfl⟩

/-! ## Who is dropped -/

theorem get?_remaining_of_found (hb : s.get? n = some b) (hu : locate b = some u) :
    (s.remaining locate).get? n = some b := by
  rw [get?_remaining, hb]
  exact Option.filter_eq_some_iff.2 ⟨rfl, by rw [hu]; rfl⟩

theorem get?_relocate_of_stays (hb : s.get? n = some b) (hl : locate b = some b.tag) :
    (s.relocate locate).2.get? n = some b := by
  have hstay : n ∉ (s.moves locate).map Prod.fst := by
    intro hmem
    obtain ⟨⟨n, v⟩, hsent, rfl⟩ := List.mem_map.1 hmem
    obtain ⟨c, hc, hv, hne⟩ := mem_moves.1 hsent
    obtain rfl := Option.some.inj (hb.symm.trans hc)
    exact hne (Option.some.inj (hv.symm.trans hl))
  rw [relocate_eq, (get?_moveAll (s.nodup_moves locate) _ n).1 hstay]
  exact get?_remaining_of_found hb hl

/-- A binding that is sent elsewhere is dropped exactly if it is crowded at its turn. -/
theorem get?_relocate_of_sent (hb : s.get? n = some b) (hu : locate b = some u) (hne : u ≠ b.tag) :
    ∃ before after, s.moves locate = before ++ (n, u) :: after ∧
      ((s.relocate locate).2.get? n = none ↔
        ((s.remaining locate).moveAll before).2.Crowded n b.entity.name u.sentence) := by
  obtain ⟨before, after, hmoves⟩ := List.append_of_mem (mem_moves.2 ⟨b, hb, hu, hne⟩)
  have hd := s.nodup_moves locate
  rw [hmoves] at hd
  refine ⟨before, after, hmoves, ?_⟩
  rw [relocate_eq, hmoves, get?_moveAll_eq_none_iff hd (get?_remaining_of_found hb hu)]

/-- **Exactly which bindings are dropped**: those that have no tag to go to, and those that would
come to stand beside a holder of their entity, one that is there in the end or one with a later name
that has yet to leave. -/
theorem Unique.get?_relocate_eq_none_iff (h : s.Unique) (locate : Binding → Option Tag)
    (hb : s.get? n = some b) : (s.relocate locate).2.get? n = none ↔
      ∀ u, locate b = some u → (s.relocate locate).2.Crowded n b.entity.name u.sentence ∨
        s.Leaving locate n b.entity.name u.sentence := by
  constructor
  · intro hnone u hu
    by_cases hne : u = b.tag
    · rw [get?_relocate_of_stays hb (hne ▸ hu)] at hnone
      cases hnone
    · obtain ⟨before, after, hmoves, hiff⟩ := get?_relocate_of_sent hb hu hne
      exact crowded_or_leaving hmoves (hiff.1 hnone)
  · intro hall
    refine Option.eq_none_iff_forall_ne_some.2 fun c hc => ?_
    obtain ⟨old, hold, hl, he⟩ := get?_relocate hc
    obtain rfl := Option.some.inj (hb.symm.trans hold)
    rcases hall c.tag hl with hcrowded | hleaving
    · -- the holders of an entity stand apart in the end
      obtain ⟨m, d, hd, hm, hde, hds⟩ := crowded_iff.1 hcrowded
      exact (h.step (.relocate locate) m n d c hd hc hm (by rw [hde, he])).2 hds
    · by_cases hne : c.tag = b.tag
      · -- and they did at first, so that this one was not beside a binding that stays
        obtain ⟨m, d, v, hd, hlt, hde, hds, -⟩ := hleaving
        have hm : m ≠ n := fun heq => String.lt_irrefl n (heq ▸ hlt)
        exact (h m n d b hd hb hm hde).2 (by rw [hds, hne])
      · obtain ⟨before, after, hmoves, hiff⟩ := get?_relocate_of_sent hb hl hne
        rw [hiff.2 (hleaving.crowded_at_turn hmoves)] at hc
        cases hc

/-- A binding that is not dropped is where it was sent, with the entity it held. -/
theorem get?_relocate_of_ne_none (hb : s.get? n = some b) (hu : locate b = some u)
    (hkept : (s.relocate locate).2.get? n ≠ none) :
    (s.relocate locate).2.get? n = some ⟨u, b.entity⟩ := by
  obtain ⟨⟨tag, entity⟩, hc⟩ := Option.ne_none_iff_exists'.1 hkept
  obtain ⟨old, hold, hl, rfl⟩ := get?_relocate hc
  obtain rfl := Option.some.inj (hb.symm.trans hold)
  obtain rfl := Option.some.inj (hu.symm.trans hl)
  exact hc

/-- Under the strict policy nothing is crowded, so that a binding with a tag to go to is kept. -/
theorem Unique.get?_relocate_of_strict (h : s.Unique) (hp : s.policy = .strict)
    (hb : s.get? n = some b) (hu : locate b = some u) :
    (s.relocate locate).2.get? n = some ⟨u, b.entity⟩ := by
  refine get?_relocate_of_ne_none hb hu fun hnone => ?_
  rcases (h.get?_relocate_eq_none_iff locate hb).1 hnone u hu with hcrowded | hleaving
  · obtain ⟨m, c, hc, hm, he, -⟩ := crowded_iff.1 hcrowded
    obtain ⟨old, hold, -, hce⟩ := get?_relocate hc
    exact hm (h.eq_of_strict hp hold hb (by rw [← hce, he]))
  · obtain ⟨m, c, v, hc, hlt, he, -⟩ := hleaving
    obtain rfl := h.eq_of_strict hp hc hb he
    exact String.lt_irrefl m hlt

/-! ## Nothing to move -/

/-- With every binding in its place, nothing changes. -/
theorem relocate_of_settled (h : ∀ n b, s.get? n = some b → locate b = some b.tag) :
    s.relocate locate = ([], s) := by
  have hlost : s.lostNames locate = [] := by
    rw [List.eq_nil_iff_forall_not_mem]
    intro n hn
    obtain ⟨b, hb, hl⟩ := mem_lostNames.1 hn
    rw [h n b hb] at hl
    cases hl
  have hmoves : s.moves locate = [] := by
    rw [List.eq_nil_iff_forall_not_mem]
    rintro ⟨n, u⟩ hn
    obtain ⟨b, hb, hl, hne⟩ := mem_moves.1 hn
    exact hne (Option.some.inj (hl.symm.trans (h n b hb)))
  simp only [relocate, hlost, hmoves]
  rfl

end StoryBlanks.Selection
