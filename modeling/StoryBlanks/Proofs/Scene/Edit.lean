import StoryBlanks.Proofs.Scene.Run
import StoryBlanks.Proofs.Selection.Moving

/-!
# What an edit does to a scene

An edit of one sentence sends every binding of the scene to the first tag of its slot, wherever
that is now. Bindings whose slot is gone are dropped. Under the strict policy all others are kept.
Under the downstream policy some are not: one that would come to stand beside a holder of its
entity, and one that would only pass such a holder on the way.

* `Template.Leads`: the first tag of a slot; `Template.HasSlot`: whether there is one.
* `Scene.Edited`: what an edit leaves; `Rooted.edited`: every edit does.
* `updateSentence_effect`: edits in range and out of range.
* `Scene.DropsOnlyCrowded`: an edit drops no binding that could be kept; `dropsOnlyCrowded_iff`:
  exactly when that is so; `not_dropsOnlyCrowded_exchange`: an edit of which it is not.
-/

namespace StoryBlanks

/-! ## Slots and edits of templates -/

namespace Template

variable {t u : Template} {tag first : Tag} {order : Nat} {text : String}

/-- Some tag of the template asks for the slot of this one. -/
def HasSlot (t : Template) (tag : Tag) : Prop := ∃ u ∈ t.tags, u.SameSlot tag

instance (t : Template) : DecidablePred t.HasSlot :=
  fun _ => inferInstanceAs (Decidable (∃ u ∈ t.tags, _))

/-- No tag of its slot comes before this one in the template. -/
def Leads (t : Template) (first : Tag) : Prop :=
  ∃ before after, t.tags = before ++ first :: after ∧ ∀ v ∈ before, ¬ v.SameSlot first

theorem firstOfSlot?_eq_none_iff : t.firstOfSlot? tag = none ↔ ¬ t.HasSlot tag := by
  simp [firstOfSlot?, HasSlot]

theorem firstOfSlot?_eq_some_iff :
    t.firstOfSlot? tag = some first ↔ first.SameSlot tag ∧ t.Leads first := by
  simp only [firstOfSlot?, List.find?_eq_some_iff_append, decide_eq_true_eq, Bool.not_eq_true',
    decide_eq_false_iff_not, Leads]
  refine and_congr_right fun hslot => ?_
  refine exists_congr fun before => exists_congr fun after => and_congr_right fun _ => ?_
  exact forall₂_congr fun v _ => not_congr ⟨fun h => h.trans hslot.symm, fun h => h.trans hslot⟩

/-- A slot that the template has is led by one tag. -/
theorem hasSlot_iff : t.HasSlot tag ↔ ∃ first, first.SameSlot tag ∧ t.Leads first := by
  constructor
  · intro h
    cases hfirst : t.firstOfSlot? tag with
    | none => exact absurd h (firstOfSlot?_eq_none_iff.1 hfirst)
    | some first => exact ⟨first, firstOfSlot?_eq_some_iff.1 hfirst⟩
  · rintro ⟨first, hslot, before, after, htags, -⟩
    exact ⟨first, by rw [htags]; exact List.mem_append_right before List.mem_cons_self, hslot⟩

theorem Leads.eq {v w : Tag} (hv : t.Leads v) (hw : t.Leads w) (h : v.SameSlot w) : v = w :=
  Option.some.inj ((firstOfSlot?_eq_some_iff.2 ⟨h, hv⟩).symm.trans
    (firstOfSlot?_eq_some_iff.2 ⟨.refl w, hw⟩))

theorem update_eq_ok_iff : t.update order text = .ok u ↔
    order < t.texts.length ∧ u = { t with texts := t.texts.set order text } := by
  unfold update
  split
  · next h =>
    rw [Except.ok.injEq]
    exact ⟨fun hu => ⟨h, hu.symm⟩, fun hu => hu.2.symm⟩
  · next h => simp [h]

/-- An edit that is made again changes nothing. -/
theorem update_update (h : t.update order text = .ok u) : u.update order text = .ok u := by
  obtain ⟨hlt, rfl⟩ := update_eq_ok_iff.1 h
  rw [update_eq_ok_iff, List.length_set, List.set_set]
  exact ⟨hlt, rfl⟩

end Template

namespace Scene

variable {s t : Scene} {order : Nat} {text : String}

/-! ## Edits of scenes -/

theorem updateSentence_eq_ok_iff : s.updateSentence order text = .ok t ↔
    ∃ template, s.template.update order text = .ok template ∧ t = { s with
      template := template
      selection := (s.selection.relocate fun b => template.firstOfSlot? b.tag).2 } := by
  unfold updateSentence
  cases h : s.template.update order text with
  | error e => simp
  | ok template =>
    simp only [Except.ok.injEq]
    constructor
    · rintro rfl
      exact ⟨template, rfl, rfl⟩
    · rintro ⟨_, rfl, rfl⟩
      rfl

/-- What an edit leaves of a scene. -/
structure Edited (s : Scene) (order : Nat) (text : String) (t : Scene) : Prop where
  separator_eq : t.separator = s.separator
  policy_eq : t.selection.policy = s.selection.policy
  name_eq : t.template.name = s.template.name
  /-- One sentence has another text. -/
  sentence?_eq : ∀ place, t.template.sentence? place =
    if place = order then some ⟨order, text⟩ else s.template.sentence? place
  /-- What is bound was bound before, and is where its slot comes first now. -/
  moved : ∀ n c, t.selection.get? n = some c → ∃ b, s.selection.get? n = some b ∧
    c.entity = b.entity ∧ c.tag.SameSlot b.tag ∧ t.template.Leads c.tag
  lost : ∀ n b, s.selection.get? n = some b → ¬ t.template.HasSlot b.tag →
    t.selection.get? n = none
  kept : s.selection.policy = .strict → ∀ n b, s.selection.get? n = some b →
    t.template.HasSlot b.tag → ∃ c, t.selection.get? n = some c
  again : t.updateSentence order text = .ok t

theorem Rooted.edited (h : s.Rooted) (hedit : s.updateSentence order text = .ok t) :
    Edited s order text t := by
  obtain ⟨template, hupdate, rfl⟩ := updateSentence_eq_ok_iff.1 hedit
  have hmoved : ∀ n c,
      (s.selection.relocate fun b => template.firstOfSlot? b.tag).2.get? n = some c →
        ∃ b, s.selection.get? n = some b ∧ c.entity = b.entity ∧ c.tag.SameSlot b.tag ∧
          template.Leads c.tag := by
    intro n c hc
    obtain ⟨b, hb, hfirst, he⟩ := Selection.get?_relocate hc
    exact ⟨b, hb, he, Template.firstOfSlot?_eq_some_iff.1 hfirst⟩
  refine ⟨rfl, Selection.policy_relocate .., ?_, Template.sentence?_update hupdate, hmoved,
    fun n b hb hslot => ?_, fun hp n b hb hslot => ?_, ?_⟩
  · rw [(Template.update_eq_ok_iff.1 hupdate).2]
  · refine Option.eq_none_iff_forall_ne_some.2 fun c hc => hslot ?_
    obtain ⟨old, hold, hfirst, -⟩ := Selection.get?_relocate hc
    obtain rfl := Option.some.inj (hb.symm.trans hold)
    exact ⟨c.tag, Template.mem_tags_of_firstOfSlot? hfirst⟩
  · obtain ⟨u, hu⟩ := Template.hasSlot_iff.1 hslot
    have hfirst := Template.firstOfSlot?_eq_some_iff.2 hu
    exact ⟨⟨u, b.entity⟩, h.unique.get?_relocate_of_strict hp hb hfirst⟩
  · -- all that are left stand where their slots come first
    have hsettled : ∀ n c,
        (s.selection.relocate fun b => template.firstOfSlot? b.tag).2.get? n = some c →
          template.firstOfSlot? c.tag = some c.tag := by
      intro n c hc
      obtain ⟨-, -, -, -, hleads⟩ := hmoved n c hc
      exact Template.firstOfSlot?_eq_some_iff.2 ⟨.refl c.tag, hleads⟩
    refine updateSentence_eq_ok_iff.2 ⟨template, Template.update_update hupdate, ?_⟩
    rw [Selection.relocate_of_settled hsettled]

/-- **The effect of an edit.** If no sentence has that order the edit fails and the scene stays as
it is. Otherwise it changes the text of that sentence and no other; what is bound afterwards was
bound before under the same name, to the same entity, and stands at the first tag of its slot;
bindings whose slot is gone are gone; under the strict policy all others are kept; and the same edit
made again changes nothing. -/
theorem updateSentence_effect (hs : s.Reachable) (order : Nat) (text : String) :
    (s.template.texts.length ≤ order →
      s.updateSentence order text =
          .error (.template (.outOfRange order s.template.texts.length)) ∧
        s.step (.updateSentence order text) = s) ∧
    (order < s.template.texts.length →
      ∃ t, s.updateSentence order text = .ok t ∧ Edited s order text t) := by
  constructor
  · intro hle
    have herror : s.updateSentence order text =
        .error (.template (.outOfRange order s.template.texts.length)) := by
      simp only [updateSentence, Template.update, if_neg (Nat.not_lt.2 hle)]
    exact ⟨herror, by rw [step, herror]; rfl⟩
  · intro hlt
    have hupdate := Template.update_eq_ok_iff.2 ⟨hlt, (rfl : _ = { s.template with
      texts := s.template.texts.set order text })⟩
    have hedit := updateSentence_eq_ok_iff.2 ⟨_, hupdate, rfl⟩
    exact ⟨_, hedit, hs.rooted.edited hedit⟩

/-- A name that asks for two kinds, a binding at a later tag of its slot, and a slot that goes. -/
theorem updateSentence_effect_twins :
    let ada : Entity := { name := "Ada", kind := .character }
    let bea : Entity := { name := "Bea", kind := .character }
    let template : Template := ⟨"twins", ["\x7bcharacter:a\x7d meets \x7bcharacter:b\x7d.",
      "\x7bcreature:a\x7d follows \x7bcharacter:a\x7d."]⟩
    let s := (ofTemplate template ⟨.strict, " "⟩).run
      [.bind ⟨.character, "a", 1⟩ ada, .bindByName "b" bea]
    let text := "\x7bcreature:b\x7d sleeps."
    s.Reachable ∧ 0 < s.template.texts.length ∧
      ∃ t, s.updateSentence 0 text = .ok t ∧ Edited s 0 text t := by
  intro ada bea template s text
  have hs : s.Reachable := ⟨template, _, _, rfl⟩
  have hlt : 0 < s.template.texts.length := by decide +kernel
  exact ⟨hs, hlt, (updateSentence_effect hs 0 text).2 hlt⟩

/-! ## Bindings that could have been kept -/

/-- A binding that the edit from `s` to `t` dropped has lost its slot, or the first tag of its slot
stands beside another holder of its entity, which was kept. -/
def DropsOnlyCrowded (s t : Scene) : Prop :=
  ∀ n b, s.selection.get? n = some b → t.selection.get? n = none →
    ¬ t.template.HasSlot b.tag ∨ ∃ u, u.SameSlot b.tag ∧ t.template.Leads u ∧
      t.selection.Crowded n b.entity.name u.sentence

/-- In the sentence stood a holder of the entity with a later name, whose slot comes first somewhere
else after the edit from `s` to `t`. -/
def Vacates (s t : Scene) (name entity : String) (sentence : Nat) : Prop :=
  ∃ m c v, s.selection.get? m = some c ∧ name < m ∧ c.entity.name = entity ∧
    c.tag.sentence = sentence ∧ v.SameSlot c.tag ∧ t.template.Leads v ∧ v ≠ c.tag

theorem leaving_iff_vacates {n entity : String} {sentence : Nat} :
    s.selection.Leaving (fun b => t.template.firstOfSlot? b.tag) n entity sentence ↔
      Vacates s t n entity sentence := by
  simp only [Selection.Leaving, Vacates, Template.firstOfSlot?_eq_some_iff, and_assoc]

/-- A binding is dropped by an edit exactly if the first tag of its slot, should there be one,
stands beside another holder of its entity that was kept, or where such a holder has yet to leave.
-/
theorem Rooted.get?_edit_eq_none_iff (h : s.Rooted) (hedit : s.updateSentence order text = .ok t)
    {n : String} {b : Binding} (hb : s.selection.get? n = some b) :
    t.selection.get? n = none ↔ ∀ u, u.SameSlot b.tag → t.template.Leads u →
      t.selection.Crowded n b.entity.name u.sentence ∨
        Vacates s t n b.entity.name u.sentence := by
  obtain ⟨template, -, rfl⟩ := updateSentence_eq_ok_iff.1 hedit
  rw [h.unique.get?_relocate_eq_none_iff _ hb]
  refine forall_congr' fun u => ?_
  rw [Template.firstOfSlot?_eq_some_iff, and_imp, ← leaving_iff_vacates]

/-- **When an edit drops no binding that could be kept.** A binding is dropped if its slot is gone,
if the first tag of its slot stands beside another holder of its entity that was kept, and also if
such a holder, with a later name, stood there before and has gone elsewhere by the same edit. So no
binding is dropped that could be kept exactly if, wherever the last is the case, some holder that
was kept stands there as well. -/
theorem dropsOnlyCrowded_iff (hs : s.Reachable) (hedit : s.updateSentence order text = .ok t) :
    (∀ n b, s.selection.get? n = some b → (t.selection.get? n = none ↔
      ∀ u, u.SameSlot b.tag → t.template.Leads u →
        t.selection.Crowded n b.entity.name u.sentence ∨
          Vacates s t n b.entity.name u.sentence)) ∧
    (DropsOnlyCrowded s t ↔ ∀ n b u, s.selection.get? n = some b → u.SameSlot b.tag →
      t.template.Leads u → Vacates s t n b.entity.name u.sentence →
        t.selection.Crowded n b.entity.name u.sentence) := by
  have hnone := fun n b (hb : s.selection.get? n = some b) =>
    hs.rooted.get?_edit_eq_none_iff hedit hb
  refine ⟨hnone, fun hdrops n b u hb hslot hleads hvacates => ?_, fun hall n b hb hgone => ?_⟩
  · have hunique : ∀ v, v.SameSlot b.tag → t.template.Leads v → v = u :=
      fun v hv hv' => hv'.eq hleads (hv.trans hslot.symm)
    have hgone : t.selection.get? n = none := by
      refine (hnone n b hb).2 fun v hv hv' => ?_
      rw [hunique v hv hv']
      exact .inr hvacates
    rcases hdrops n b hb hgone with hlost | ⟨v, hv, hv', hcrowded⟩
    · exact absurd (Template.hasSlot_iff.2 ⟨u, hslot, hleads⟩) hlost
    · rwa [hunique v hv hv'] at hcrowded
  · by_cases hhas : t.template.HasSlot b.tag
    · obtain ⟨u, hslot, hleads⟩ := Template.hasSlot_iff.1 hhas
      refine .inr ⟨u, hslot, hleads, ?_⟩
      rcases (hnone n b hb).1 hgone u hslot hleads with hcrowded | hvacates
      · exact hcrowded
      · exact hall n b u hb hslot hleads hvacates
    · exact .inl hhas

/-- A binding that comes to stand beside a holder of its entity, which stays. -/
theorem dropsOnlyCrowded_iff_meeting :
    let ada : Entity := { name := "Ada", kind := .character }
    let template : Template := ⟨"meeting", ["\x7bcharacter:a\x7d waits.",
      "\x7bcharacter:b\x7d meets \x7bcharacter:a\x7d."]⟩
    let s := (ofTemplate template ⟨.downstream, " "⟩).run [.bindByName "a" ada, .bindByName "b" ada]
    s.Reachable ∧ ∃ t, s.updateSentence 0 "Nobody waits." = .ok t ∧
      s.selection.get? "a" = some ⟨⟨.character, "a", 0⟩, ada⟩ ∧
      (t.selection.get? "a" = none ↔ ∀ u, u.SameSlot ⟨.character, "a", 0⟩ → t.template.Leads u →
        t.selection.Crowded "a" "Ada" u.sentence ∨ Vacates s t "a" "Ada" u.sentence) := by
  intro ada template s
  have hs : s.Reachable := ⟨template, _, _, rfl⟩
  have hupdate : s.template.update 0 "Nobody waits." = .ok ⟨"meeting", ["Nobody waits.",
      "\x7bcharacter:b\x7d meets \x7bcharacter:a\x7d."]⟩ :=
    Template.update_eq_ok_iff.2 (by decide +kernel)
  have hedit := updateSentence_eq_ok_iff.2 ⟨_, hupdate, rfl⟩
  have hbound : s.selection.get? "a" = some ⟨⟨.character, "a", 0⟩, ada⟩ := by decide +kernel
  exact ⟨hs, _, hedit, hbound, (dropsOnlyCrowded_iff hs hedit).1 "a" _ hbound⟩

/-- **Two slots that change places.** Both hold one entity, and each could stand where the other
was; yet the one that is moved first is dropped, as the other has yet to leave. -/
theorem not_dropsOnlyCrowded_exchange :
    let ada : Entity := { name := "Ada", kind := .character }
    let template : Template := ⟨"relay", ["\x7bcharacter:a\x7d waits.",
      "\x7bcharacter:b\x7d greets \x7bcharacter:a\x7d."]⟩
    let s := (ofTemplate template ⟨.downstream, " "⟩).run [.bindByName "a" ada, .bindByName "b" ada]
    s.Reachable ∧ s.selection.policy = .downstream ∧
      ∃ t, s.updateSentence 0 "\x7bcharacter:b\x7d waits." = .ok t ∧ ¬ DropsOnlyCrowded s t := by
  intro ada template s
  have hs : s.Reachable := ⟨template, _, _, rfl⟩
  let edited : Template := ⟨"relay", ["\x7bcharacter:b\x7d waits.",
    "\x7bcharacter:b\x7d greets \x7bcharacter:a\x7d."]⟩
  have hupdate : s.template.update 0 "\x7bcharacter:b\x7d waits." = .ok edited :=
    Template.update_eq_ok_iff.2 (by decide +kernel)
  have hedit := updateSentence_eq_ok_iff.2 ⟨edited, hupdate, rfl⟩
  refine ⟨hs, by decide +kernel, _, hedit, fun hdrops => ?_⟩
  -- the two bindings, and where their slots come first now
  have hentries : ∀ e ∈ s.selection.bindings.entries,
      e = ("a", ⟨⟨.character, "a", 0⟩, ada⟩) ∨ e = ("b", ⟨⟨.character, "b", 1⟩, ada⟩) := by
    decide +kernel
  have hbound : s.selection.get? "a" = some ⟨⟨.character, "a", 0⟩, ada⟩ := by decide +kernel
  have hplace := Template.firstOfSlot?_eq_some_iff.1 (by decide +kernel :
    edited.firstOfSlot? ⟨.character, "a", 0⟩ = some ⟨.character, "a", 1⟩)
  have hplace' := Template.firstOfSlot?_eq_some_iff.1 (by decide +kernel :
    edited.firstOfSlot? ⟨.character, "b", 1⟩ = some ⟨.character, "b", 0⟩)
  have hgone := (hs.rooted.get?_edit_eq_none_iff hedit hbound).2 fun u hu hu' => by
    obtain rfl := hplace.2.eq hu' (hplace.1.trans hu.symm)
    exact .inr ⟨"b", ⟨⟨.character, "b", 1⟩, ada⟩, _, by decide +kernel, by decide, rfl, rfl,
      hplace'.1, hplace'.2, by decide⟩
  rcases hdrops "a" _ hbound hgone with hlost | ⟨u, hu, hu', hcrowded⟩
  · revert hlost
    decide +kernel
  · obtain rfl := hplace.2.eq hu' (hplace.1.trans hu.symm)
    obtain ⟨m, c, hc, hm, -, hsentence⟩ := Selection.crowded_iff.1 hcrowded
    obtain ⟨old, hold, -, hc', hc''⟩ := (hs.rooted.edited hedit).moved m c hc
    rcases hentries (m, old) (Selection.mem_entries.2 hold) with heq | heq
    · cases heq
      exact hm rfl
    · cases heq
      rw [← hplace'.2.eq hc'' (hplace'.1.trans hc'.symm)] at hsentence
      cases hsentence

end Scene

end StoryBlanks
