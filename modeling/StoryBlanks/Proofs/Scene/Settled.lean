import StoryBlanks.Proofs.Scene.Edit

/-!
# Scenes that are filled by name

A binding may be made at any tag of its slot, and an edit then moves it to the first one. As long as
nobody chooses the tag, every binding is at the first tag of its slot from the start: a name is
bound at its first tag, which is the first of its slot too, a fill goes through the first tags of
the empty slots, and an edit leaves nothing elsewhere. So an edit that changes no text moves nothing.

* `Template.leads_of_findTag?`, `leads_of_mem_unboundTags`: where names are bound and fills bind.
* `Scene.Settled`: the invariant; `Settled.step`: every operation that chooses no tag keeps it.
* `Settled.updateSentence`: an edit that changes no text changes nothing else.
* `settled_of_named`: whole runs.
-/

namespace StoryBlanks

/-! ## First tags -/

namespace Template

variable {t : Template} {tag : Tag}

/-- The first tag of a name is the first of its slot. -/
theorem leads_of_findTag? {name : String} (h : t.findTag? name = some tag) : t.Leads tag := by
  simp only [findTag?, List.find?_eq_some_iff_append, decide_eq_true_eq, Bool.not_eq_true',
    decide_eq_false_iff_not] at h
  obtain ⟨hname, before, after, htags, hbefore⟩ := h
  exact ⟨before, after, htags, fun v hv hslot => hbefore v hv (hslot.1.trans hname)⟩

theorem update_of_sentence? {order : Nat} {x : Sentence} (h : t.sentence? order = some x) :
    t.update order x.text = .ok t := by
  obtain ⟨text, htext, rfl⟩ := Option.map_eq_some_iff.1 h
  obtain ⟨hlt, rfl⟩ := List.getElem?_eq_some_iff.1 htext
  refine update_eq_ok_iff.2 ⟨hlt, ?_⟩
  rw [List.set_getElem_self]

end Template

namespace Scene

variable {s : Scene}

/-- The empty slots are listed by their first tags. -/
theorem leads_of_mem_unboundTags {t : Tag} (h : t ∈ s.unboundTags) : s.template.Leads t := by
  obtain ⟨places, hsub, hmap, hfirst⟩ := s.exists_places_unboundTags
  rw [← hmap, List.mem_map] at h
  obtain ⟨⟨t, i⟩, hplace, rfl⟩ := h
  have hget : s.template.tags[i]? = some t := List.mem_zipIdx_iff_getElem?.1 (hsub.mem hplace)
  obtain ⟨hi, htag⟩ := List.getElem?_eq_some_iff.1 hget
  refine ⟨s.template.tags.take i, s.template.tags.drop (i + 1), ?_, hfirst _ hplace⟩
  rw [← htag, List.getElem_cons_drop, List.take_append_drop]

/-! ## Bindings at first tags -/

/-- Every binding stands at the first tag of its slot. -/
def Settled (s : Scene) : Prop :=
  ∀ n b, s.selection.get? n = some b → s.template.Leads b.tag

theorem settled_of_empty {policy : ReusePolicy} (h : s.selection = .empty policy) : s.Settled := by
  intro n b hb
  rw [h] at hb
  cases hb

theorem Settled.bind (h : s.Settled) {tag : Tag} {entity : Entity} {outcome : BindOutcome}
    {selection : Selection} (htag : s.template.Leads tag)
    (hbind : s.selection.bind tag entity = .ok (outcome, selection)) :
    Settled { s with selection } := by
  intro n b hb
  rcases Selection.get?_of_bind hbind hb with hold | ⟨-, rfl, -⟩
  · exact h n b hold
  · exact htag

theorem Settled.fill (h : s.Settled) {γ : Type} (choose : Random.Chooser γ) (catalog : Catalog)
    (g : γ) : (s.fillWith choose catalog g).2.Settled := by
  have hboth : (s.fillWith choose catalog g).2.Settled ∧
      (s.fillWith choose catalog g).2.template = s.template := by
    refine fillTags_induction (P := fun r => r.Settled ∧ r.template = s.template)
      (fun r tag entity outcome selection htag _ hbind hr => ⟨hr.1.bind ?_ hbind, hr.2⟩) ⟨h, rfl⟩
    rw [hr.2]
    exact leads_of_mem_unboundTags htag
  exact hboth.1

/-- An edit settles every binding that it keeps. -/
theorem settled_edit (s : Scene) (template : Template) :
    Settled { s with
      template := template
      selection := (s.selection.relocate fun b => template.firstOfSlot? b.tag).2 } := by
  intro n b hb
  obtain ⟨old, -, hfirst, -⟩ := Selection.get?_relocate hb
  exact (Template.firstOfSlot?_eq_some_iff.1 hfirst).2

/-- The operation leaves it to the scene at which tags it binds. -/
def Op.IsNamed : Op → Prop
  | .bind .. => False
  | .bindByName .. | .unbind .. | .clear | .updateSentence .. | .replaceTemplate .. | .fill .. =>
    True

/-- **Every operation that chooses no tag keeps the bindings at first tags.** -/
theorem Settled.step (h : s.Settled) {op : Op} (hop : op.IsNamed) : (s.step op).Settled := by
  cases op with
  | bind tag entity => exact hop.elim
  | bindByName name entity =>
    rw [Scene.step, bindByName]
    split
    · exact h
    · next tag hfind =>
      exact afterBind_induction
        (fun _ _ hbind => h.bind (Template.leads_of_findTag? hfind) hbind) h
  | unbind name => exact fun n b hb => h n b (Selection.get?_of_drop hb)
  | clear => exact settled_of_empty (s := s.clear) rfl
  | updateSentence order text =>
    rw [Scene.step, Scene.updateSentence]
    split
    · exact h
    · next template _ => exact s.settled_edit template
  | replaceTemplate template => exact settled_of_empty (s := s.replaceTemplate template) rfl
  | fill choose catalog g => exact h.fill choose catalog g

/-- An edit that changes no text changes nothing else. -/
theorem Settled.updateSentence (h : s.Settled) {order : Nat} {x : Sentence}
    (hx : s.template.sentence? order = some x) : s.updateSentence order x.text = .ok s := by
  refine updateSentence_eq_ok_iff.2 ⟨s.template, Template.update_of_sentence? hx, ?_⟩
  rw [Selection.relocate_of_settled fun n b hb =>
    Template.firstOfSlot?_eq_some_iff.2 ⟨.refl b.tag, h n b hb⟩]

/-- **A sentence can be saved again without harm in a scene that is filled by name.** If nobody ever
chose the tag of a binding, then each binding stands at the first tag of its slot, also where a name
asks for two kinds; and an edit that gives a sentence the text it has leaves the whole scene as it
is: its bindings, the names in use, its empty slots and what it shows. -/
theorem settled_of_named (template : Template) (settings : Settings) {ops : List Op}
    (hops : ∀ op ∈ ops, op.IsNamed) :
    ((ofTemplate template settings).run ops).Settled ∧
      ∀ order x, ((ofTemplate template settings).run ops).template.sentence? order = some x →
        ((ofTemplate template settings).run ops).updateSentence order x.text =
          .ok ((ofTemplate template settings).run ops) := by
  have hsettled : ((ofTemplate template settings).run ops).Settled :=
    run_induction (fun r op hop hr => hr.step (hops op hop)) (settled_of_empty rfl)
  exact ⟨hsettled, fun order x hx => hsettled.updateSentence hx⟩

/-- A name that asks for two kinds, an edit that moves its binding, and a fill that replaces it. -/
theorem settled_of_named_twins :
    let ada : Entity := { name := "Ada", kind := .character }
    let cow : Entity := { name := "Cow", kind := .creature }
    let catalog : Catalog := ⟨[ada, cow], by decide⟩
    let template : Template := ⟨"twins", ["\x7bcharacter:a\x7d waits.",
      "\x7bcreature:a\x7d follows \x7bcharacter:a\x7d."]⟩
    let ops : List Op := [.bindByName "a" ada, .updateSentence 0 "Nobody waits.",
      .fill (fun g _ => (0, g)) catalog ()]
    let s := (ofTemplate template ⟨.strict, " "⟩).run ops
    let x : Sentence := ⟨1, "\x7bcreature:a\x7d follows \x7bcharacter:a\x7d."⟩
    (∀ op ∈ ops, op.IsNamed) ∧ s.Settled ∧
      s.selection.get? "a" = some ⟨⟨.creature, "a", 1⟩, cow⟩ ∧
      s.template.sentence? 1 = some x ∧ s.updateSentence 1 x.text = .ok s := by
  intro ada cow catalog template ops s x
  have hops : ∀ op ∈ ops, op.IsNamed := by
    simp only [ops, List.forall_mem_cons, Op.IsNamed, List.not_mem_nil, false_implies,
      implies_true, and_self]
  obtain ⟨hsettled, hsave⟩ := settled_of_named template ⟨.strict, " "⟩ hops
  have hx : s.template.sentence? 1 = some x := by decide +kernel
  exact ⟨hops, hsettled, by decide +kernel, hx, hsave 1 x hx⟩

end Scene

end StoryBlanks
