import StoryBlanks.Proofs.Preview.Typing
import StoryBlanks.Proofs.Scene.Run

/-!
# Another template, a fresh start

The first scene of a session is made from its settings; later ones take over the policy and the
separator of the scene before. No command changes these two, nor the library, the catalog and the
settings. So once a template is chosen, nothing is left of what was done before, except for the
seed.

* `Scene.Under`: a scene has the policy and the separator of some settings; `Under.step`.
* `Session.after?`, `Session.said`: where lines lead, and what they print; `transcript_append`.
* `Session.InForce`: what never changes; `InForce.step`, `InForce.after?`.
* `forgets_of_use`: two sessions after the same choice.
-/

namespace StoryBlanks

/-! ## Scenes under settings -/

namespace Scene

variable {s : Scene} {settings : Settings}

/-- The scene has the policy and the separator of the settings. -/
structure Under (settings : Settings) (s : Scene) : Prop where
  policy : s.selection.policy = settings.policy
  separator : s.separator = settings.separator

theorem under_ofTemplate (template : Template) (settings : Settings) :
    Under settings (ofTemplate template settings) := ⟨rfl, rfl⟩

theorem Under.afterBind (h : s.Under settings) (tag : Tag) (entity : Entity) :
    (s.afterBind (s.withSelection (s.selection.bind tag entity))).Under settings :=
  afterBind_induction
    (fun _ _ hbind => ⟨(Selection.policy_bind hbind).trans h.policy, h.separator⟩) h

/-- No operation changes the policy or the separator. -/
theorem Under.step (h : s.Under settings) (op : Op) : (s.step op).Under settings := by
  cases op with
  | bind tag entity =>
    rw [Scene.step, Scene.bind]
    split
    · exact h.afterBind tag entity
    · exact h
  | bindByName name entity =>
    rw [Scene.step, bindByName]
    split
    · exact h
    · next tag _ => exact h.afterBind tag entity
  | unbind name => exact ⟨(Selection.policy_drop s.selection name).trans h.policy, h.separator⟩
  | clear => exact ⟨h.policy, h.separator⟩
  | updateSentence order text =>
    rw [Scene.step, updateSentence]
    split
    · exact h
    · exact ⟨(Selection.policy_relocate ..).trans h.policy, h.separator⟩
  | replaceTemplate template => exact ⟨h.policy, h.separator⟩
  | fill choose catalog g =>
    refine fillTags_induction (P := Under settings) (fun r _ _ _ _ _ _ hbind hr => ?_) h
    exact ⟨(Selection.policy_bind hbind).trans hr.policy, hr.separator⟩

theorem Under.run (h : s.Under settings) (ops : List Op) : (s.run ops).Under settings :=
  run_induction (fun _ op _ hr => hr.step op) h

/-- A scene that goes over to another template is the scene made from the settings. -/
theorem Under.replaceTemplate_eq (h : s.Under settings) (template : Template) :
    s.replaceTemplate template = ofTemplate template settings := by
  rw [replaceTemplate, ofTemplate, h.policy, h.separator]

end Scene

namespace Preview.Session

variable {library : Library} {catalog : Catalog} {settings : Settings} {s t : Session}

/-! ## Where lines lead, and what they print -/

/-- The session after a run of lines, unless one of them ends it. -/
def after? (s : Session) (lines : List String) : Option Session :=
  lines.foldlM (fun t line => (t.stepLine line).next) s

/-- What a run of lines prints, with a prompt before each. -/
def said (s : Session) : List String → String
  | [] => ""
  | line :: lines =>
    s.prompt ++ (s.stepLine line).output ++
      match (s.stepLine line).next with
      | none => ""
      | some t => t.said lines

theorem transcript_append {past : List String} (h : s.after? past = some t)
    (further : List String) :
    s.transcript (past ++ further) = s.said past ++ t.transcript further := by
  induction past generalizing s with
  | nil =>
    cases h
    exact String.empty_append.symm
  | cons line past ih =>
    rw [after?, List.foldlM_cons] at h
    obtain ⟨r, hr, h⟩ := Option.bind_eq_some_iff.1 h
    simp only [List.cons_append, transcript, said, hr, ih h, String.append_assoc]

/-! ## What never changes -/

/-- The session has this library, this catalog and these settings, and so has its scene. -/
structure InForce (library : Library) (catalog : Catalog) (settings : Settings) (s : Session) :
    Prop where
  library_eq : s.library = library
  catalog_eq : s.catalog = catalog
  settings_eq : s.settings = settings
  under : ∀ scene, s.scene = some scene → scene.Under settings

theorem inForce_opened (seed : Nat) :
    InForce library catalog settings (opened library catalog settings seed) :=
  ⟨rfl, rfl, rfl, fun _ h => by cases h⟩

/-- To the scene, filling a tag by name is one operation, or none if the line is no good. -/
theorem exists_ops_bind (catalog : Catalog) (scene : Scene) (text : String) :
    ∃ ops, (Session.bind catalog scene text).2 = scene.run ops := by
  rw [Session.bind]
  split
  · exact ⟨[], rfl⟩
  · next tag entity _ =>
    split
    · exact ⟨[], rfl⟩
    · next e _ =>
      refine ⟨[.bindByName tag e], ?_⟩
      rw [Scene.run, List.foldl_cons, List.foldl_nil, Scene.step]
      cases scene.bindByName tag e <;> rfl

/-- To the scene, a command is a run of operations. -/
theorem exists_ops (catalog : Catalog) (seed : Nat) (scene : Scene) (c : SceneCommand) :
    ∃ ops, (play catalog seed scene c).2 = scene.run ops := by
  cases c with
  | tags => exact ⟨[], rfl⟩
  | options name => exact ⟨[], rfl⟩
  | bind text => exact exists_ops_bind catalog scene text
  | unbind name =>
    refine ⟨[.unbind name], ?_⟩
    rw [Scene.run, List.foldl_cons, List.foldl_nil, Scene.step]
    unfold play
    dsimp only
    split <;> next h => rw [h]
  | clear => exact ⟨[.clear], rfl⟩
  | fill =>
    refine ⟨[.fill Random.choose catalog (.ofSeed seed)], ?_⟩
    rw [Scene.run, List.foldl_cons, List.foldl_nil, Scene.step, ← Scene.autoFill]
    unfold play
    dsimp only
    split <;> next h => rw [h]
  | render => exact ⟨[], rfl⟩
  | unknown word => exact ⟨[], rfl⟩

/-- The first scene of a session and every later one begin alike. -/
theorem InForce.start_eq (h : InForce library catalog settings s) (template : Template) :
    s.start template = (opened library catalog settings s.seed).start template := by
  obtain ⟨rfl, rfl, rfl, hunder⟩ := h
  rw [start]
  split
  · next scene hscene =>
    rw [(hunder scene hscene).replaceTemplate_eq]
    rfl
  · rfl

theorem InForce.start (h : InForce library catalog settings s) (template : Template) :
    InForce library catalog settings (s.start template) := by
  rw [h.start_eq]
  refine ⟨rfl, rfl, rfl, fun scene hscene => ?_⟩
  cases hscene
  exact Scene.under_ofTemplate template settings

/-- **No command changes what is in force.** -/
theorem InForce.step (h : InForce library catalog settings s) {c : Command}
    (hnext : (s.step c).next = some t) : InForce library catalog settings t := by
  cases c with
  | quit => cases hnext
  | help =>
    cases hnext
    exact h
  | templates =>
    cases hnext
    exact h
  | use name =>
    rw [Session.step] at hnext
    split at hnext
    · cases hnext
      exact h
    · split at hnext <;> cases hnext
      · exact h.start _
      · exact h
  | seed text =>
    rw [Session.step] at hnext
    split at hnext
    · cases hnext
      exact h
    · split at hnext <;> cases hnext
      · exact ⟨h.library_eq, h.catalog_eq, h.settings_eq, h.under⟩
      · exact h
  | scene c =>
    rw [Session.step] at hnext
    split at hnext
    · cases hnext
      exact h
    · next scene hscene =>
      obtain ⟨ops, hops⟩ := exists_ops s.catalog s.seed scene c
      generalize play s.catalog s.seed scene c = reply at hnext hops
      obtain ⟨output, scene'⟩ := reply
      obtain rfl : scene' = scene.run ops := hops
      cases hnext
      refine ⟨h.library_eq, h.catalog_eq, h.settings_eq, fun scene' hscene' => ?_⟩
      rw [← Option.some.inj hscene']
      exact (h.under scene hscene).run ops

theorem InForce.stepLine (h : InForce library catalog settings s) {line : String}
    (hnext : (s.stepLine line).next = some t) : InForce library catalog settings t := by
  rw [Session.stepLine] at hnext
  split at hnext
  · cases hnext
    exact h
  · exact h.step hnext

theorem InForce.after? (h : InForce library catalog settings s) {lines : List String}
    (hafter : s.after? lines = some t) : InForce library catalog settings t := by
  induction lines generalizing s with
  | nil =>
    cases hafter
    exact h
  | cons line lines ih =>
    rw [Session.after?, List.foldlM_cons] at hafter
    obtain ⟨r, hr, hafter⟩ := Option.bind_eq_some_iff.1 hafter
    exact ih (h.stepLine hr) hafter

/-! ## The choice of a template -/

/-- The line that chooses a template leads to the session that has done nothing else yet. -/
theorem InForce.stepLine_useLine (h : InForce library catalog settings s) {name : String}
    {template : Template} (hname : Typable name) (htemplate : library.get? name = some template) :
    s.stepLine (useLine name) = ⟨s!"Using template '{name}'.\n",
      some ((opened library catalog settings s.seed).start template)⟩ := by
  obtain ⟨hne, -, htight⟩ := typable_iff.1 hname
  rw [← h.library_eq] at htemplate
  simp only [Session.stepLine, ofLine?_useLine htight, Session.step, if_neg hne, htemplate,
    h.start_eq]

/-- Whatever was done before a template was chosen, what is printed after it depends on the seed
alone. -/
theorem transcript_useLine {seed : Nat} {past : List String}
    (h : (opened library catalog settings seed).after? past = some s) {name : String}
    {template : Template} (hname : Typable name) (htemplate : library.get? name = some template)
    (further : List String) :
    (opened library catalog settings seed).transcript (past ++ useLine name :: further) =
      (opened library catalog settings seed).said past ++ s.prompt ++
        s!"Using template '{name}'.\n" ++
          ((opened library catalog settings s.seed).start template).transcript further := by
  have hline := ((inForce_opened seed).after? h).stepLine_useLine hname htemplate
  simp only [transcript_append h, transcript, hline, String.append_assoc]

/-- **A template that is chosen forgets the past.** Take two runs of lines that do not end their
sessions and leave the same seed. When the same template is chosen after each, both sessions are the
one that has only just begun and chosen it, with a scene made from the settings; so they print the
same for all lines that follow. In particular a scene that goes over to another template is the
scene that is made from it and the settings. -/
theorem forgets_of_use {library : Library} {catalog : Catalog} {settings : Settings}
    {seed₁ seed₂ : Nat} {past₁ past₂ : List String} {s₁ s₂ : Session}
    (h₁ : (opened library catalog settings seed₁).after? past₁ = some s₁)
    (h₂ : (opened library catalog settings seed₂).after? past₂ = some s₂)
    (hseed : s₁.seed = s₂.seed) {name : String} {template : Template} (hname : Typable name)
    (htemplate : library.get? name = some template) :
    let fresh := (opened library catalog settings s₁.seed).start template
    fresh.scene = some (.ofTemplate template settings) ∧
      s₁.stepLine (useLine name) = ⟨s!"Using template '{name}'.\n", some fresh⟩ ∧
      s₂.stepLine (useLine name) = ⟨s!"Using template '{name}'.\n", some fresh⟩ ∧
      (∀ scene, s₁.scene = some scene ∨ s₂.scene = some scene →
        scene.replaceTemplate template = .ofTemplate template settings) ∧
      ∀ further,
        (opened library catalog settings seed₁).transcript (past₁ ++ useLine name :: further) =
          (opened library catalog settings seed₁).said past₁ ++ s₁.prompt ++
            s!"Using template '{name}'.\n" ++ fresh.transcript further ∧
        (opened library catalog settings seed₂).transcript (past₂ ++ useLine name :: further) =
          (opened library catalog settings seed₂).said past₂ ++ s₂.prompt ++
            s!"Using template '{name}'.\n" ++ fresh.transcript further := by
  intro fresh
  have hforce₁ := (inForce_opened seed₁).after? h₁
  have hforce₂ := (inForce_opened seed₂).after? h₂
  refine ⟨rfl, hforce₁.stepLine_useLine hname htemplate, ?_, fun scene hscene => ?_,
    fun further => ⟨transcript_useLine h₁ hname htemplate further, ?_⟩⟩
  · rw [hforce₂.stepLine_useLine hname htemplate, ← hseed]
  · rcases hscene with hscene | hscene
    · exact (hforce₁.under scene hscene).replaceTemplate_eq template
    · exact (hforce₂.under scene hscene).replaceTemplate_eq template
  · rw [transcript_useLine h₂ hname htemplate, ← hseed]

/-- One session filled a scene of another template, with an entity that recurs and with a command
that failed; the other had no scene yet. -/
theorem forgets_of_use_meadow :
    let meadow : Template := ⟨"meadow", ["\x7bcreature:x\x7d grazes."]⟩
    let relay : Template := ⟨"relay", ["\x7bcharacter:a\x7d waits.",
      "\x7bcharacter:b\x7d greets \x7bcreature:c\x7d."]⟩
    let library : Library := ⟨[meadow, relay], by decide⟩
    let catalog : Catalog :=
      ⟨[{ name := "Ada", kind := .character }, { name := "Cow", kind := .creature }], by decide⟩
    let settings : Settings := ⟨.downstream, "/"⟩
    let past₁ := ["use relay", "bind a = Ada", "bind b = Ada", "bind c = Ada", "fill", "seed 7"]
    let past₂ := ["clear", "SEED  7"]
    ∃ s₁ s₂, (opened library catalog settings 42).after? past₁ = some s₁ ∧
      (opened library catalog settings 1).after? past₂ = some s₂ ∧ s₁.seed = s₂.seed ∧
      s₁.scene.map (fun scene => scene.selection.size) = some 3 ∧ s₂.scene.isNone = true ∧
      Typable "meadow" ∧ library.get? "meadow" = some meadow ∧
      let fresh := (opened library catalog settings 7).start meadow
      ∀ further,
        (opened library catalog settings 42).transcript (past₁ ++ useLine "meadow" :: further) =
          (opened library catalog settings 42).said past₁ ++ s₁.prompt ++
            "Using template 'meadow'.\n" ++ fresh.transcript further ∧
        (opened library catalog settings 1).transcript (past₂ ++ useLine "meadow" :: further) =
          (opened library catalog settings 1).said past₂ ++ s₂.prompt ++
            "Using template 'meadow'.\n" ++ fresh.transcript further := by
  intro meadow relay library catalog settings past₁ past₂
  have hend₁ : ((opened library catalog settings 42).after? past₁).map (fun s =>
      (s.seed, s.scene.map fun scene => scene.selection.size)) = some (7, some 3) := by
    decide +kernel
  have hend₂ : ((opened library catalog settings 1).after? past₂).map (fun s =>
      (s.seed, s.scene.isNone)) = some (7, true) := by
    decide +kernel
  obtain ⟨s₁, h₁, heq₁⟩ := Option.map_eq_some_iff.1 hend₁
  obtain ⟨s₂, h₂, heq₂⟩ := Option.map_eq_some_iff.1 hend₂
  obtain ⟨hseed₁, hscene₁⟩ := Prod.mk.inj heq₁
  obtain ⟨hseed₂, hscene₂⟩ := Prod.mk.inj heq₂
  have hseed : s₁.seed = s₂.seed := hseed₁.trans hseed₂.symm
  have hname : Typable "meadow" :=
    typable_iff.2 ⟨by decide, by decide, Text.trim_eq_self_iff.1 (by decide +kernel)⟩
  have hmeadow : library.get? "meadow" = some meadow := by decide +kernel
  obtain ⟨-, -, -, -, hprints⟩ := forgets_of_use h₁ h₂ hseed hname hmeadow
  rw [hseed₁] at hprints
  exact ⟨s₁, s₂, h₁, h₂, hseed, hscene₁, hscene₂, hname, hmeadow, hprints⟩

end Preview.Session

end StoryBlanks
