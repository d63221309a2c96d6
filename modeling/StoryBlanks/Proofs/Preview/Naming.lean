import StoryBlanks.Proofs.Preview.Typing
import StoryBlanks.Proofs.Sentence.Literal

/-!
# Tags named on a line

A line that fills a tag names the tag and the entity on the two sides of its first equals sign. So
it reads back unless the name of the tag has an equals sign itself, as a sentence may have it: then
the line is cut inside this name, and another tag is looked up.

* `bindLine`, `Names`: the line for a tag and an entity, and the two that a line names.
* `Session.Fills`: the line does what the scene does with the two.
* `names_bindLine_iff`, `names_of_cut`: what the line names.
* `fills_iff`: when the line fills the tag.
* `not_fills_sums`: a tag that it does not fill.
-/

namespace StoryBlanks.Preview

variable {tag entity line : String} {front back : List Char}

/-! ## What the line names -/

/-- The line that fills a tag with an entity. -/
def bindLine (tag entity : String) : String := typed "bind" (tag ++ " = " ++ entity)

/-- The line asks to fill this tag with this entity. -/
def Names (line tag entity : String) : Prop :=
  ∃ text, Command.ofLine? line = some (.scene (.bind text)) ∧ bindSides? text = some (tag, entity)

theorem not_mem_of_names (h : Names line tag entity) : '=' ∉ tag.toList := by
  obtain ⟨text, -, hsides⟩ := h
  exact not_mem_of_bindSides? hsides

/-- The line names what stands on the two sides of its first equals sign. -/
theorem names_bindLine (h : (tag ++ " = " ++ entity).toList = front ++ '=' :: back)
    (hfront : '=' ∉ front) :
    Names (bindLine tag entity) (String.ofList (Text.trim front))
      (String.ofList (Text.trim back)) := by
  refine ⟨Text.trimmed (tag ++ " = " ++ entity), ?_, ?_⟩
  · rw [bindLine, Command.ofLine?_typed (by decide) (by decide) (by decide)]
    rfl
  · rw [bindSides?_trimmed, bindSides?_of_cut h hfront]

/-- A tag whose name has an equals sign is cut there. -/
theorem names_of_cut (hcut : tag.toList = front ++ '=' :: back) (hfront : '=' ∉ front) :
    Names (bindLine tag entity) (String.ofList (Text.trim front))
      (String.ofList (Text.trim (back ++ " = ".toList ++ entity.toList))) := by
  refine names_bindLine ?_ hfront
  simp [String.toList_append, hcut]

/-- The line names the tag and the entity if the tag has no equals sign in its name. -/
theorem names_bindLine_iff (htag : Text.Tight tag.toList) (hentity : Text.Tight entity.toList) :
    Names (bindLine tag entity) tag entity ↔ '=' ∉ tag.toList := by
  refine ⟨not_mem_of_names, fun h => ?_⟩
  have hspace : ∀ c ∈ [' '], Text.isBlank c = true := List.forall_mem_singleton.2 rfl
  have hsplit : (tag ++ " = " ++ entity).toList =
      (tag.toList ++ [' ']) ++ '=' :: ([' '] ++ entity.toList) := by
    simp [String.toList_append]
  have hnames := names_bindLine hsplit (by simp [h])
  rwa [Text.trim_append_blanks hspace, Text.trim_blanks_append hspace,
    Text.trim_eq_self_iff.2 htag, Text.trim_eq_self_iff.2 hentity, String.ofList_toList,
    String.ofList_toList] at hnames

/-! ## What the line does -/

/-- How every answer begins that tells of a filled tag. -/
theorem exists_outcomeText (tag entity : String) (outcome : BindOutcome) :
    ∃ tail, (outcomeText tag entity outcome).toList = '\'' :: (tag.toList ++ '\'' :: tail) := by
  cases outcome <;>
    exact ⟨_, by simp only [outcomeText, toString, String.toList_append, List.append_assoc]; rfl⟩

/-- In a name that is cut at an equals sign, what stands before the sign is followed by a blank or
by the sign, and not by a quote. -/
theorem trim_append_quote_ne {name : List Char} (htight : Text.Tight name)
    (hcut : name = front ++ '=' :: back) (tail tail' : List Char) :
    Text.trim front ++ '\'' :: tail ≠ name ++ '\'' :: tail' := by
  have hstart : Text.trimStart front = front := by
    refine Text.trimStart_eq_self fun c hc => htight.1 c ?_
    rw [hcut, List.head?_append, hc]
    rfl
  obtain ⟨after, hfront, hafter⟩ := Text.exists_trimEnd front
  have htrim : Text.trim front = Text.trimEnd front := by rw [Text.trim, hstart]
  rw [← htrim] at hfront
  intro heq
  have hwhole : Text.trim front ++ '\'' :: tail =
      Text.trim front ++ (after ++ ('=' :: back ++ '\'' :: tail')) :=
    calc Text.trim front ++ '\'' :: tail
      _ = front ++ '=' :: back ++ '\'' :: tail' := by rw [heq, hcut]
      _ = Text.trim front ++ after ++ '=' :: back ++ '\'' :: tail' := by rw [← hfront]
      _ = Text.trim front ++ (after ++ ('=' :: back ++ '\'' :: tail')) := by
        simp only [List.append_assoc]
  have hquote := List.append_cancel_left hwhole
  cases after with
  | nil => exact absurd (List.cons.inj hquote).1 (by decide)
  | cons d ds =>
    have hd := hafter d List.mem_cons_self
    rw [← (List.cons.inj hquote).1] at hd
    exact absurd hd (by decide)

namespace Session

variable {s : Session} {scene : Scene}

/-- What is said of an attempt to bind an entity to a tag, and the session that it leaves. -/
def answer (s : Session) (tag : String) (entity : Entity) :
    Except SceneError (BindOutcome × Scene) → Reply
  | .ok (outcome, scene) => ⟨outcomeText tag entity.name outcome, some { s with scene }⟩
  | .error e => ⟨s!"ERROR: {e.message}\n", some s⟩

/-- The line that fills a tag with an entity does just what the scene does when it binds the two by
name. -/
def Fills (s : Session) (scene : Scene) (tag : String) (entity : Entity) : Prop :=
  s.stepLine (bindLine tag entity.name) = s.answer tag entity (scene.bindByName tag entity)

/-- A line that names a tag and an entity binds the two by name, if there is such an entity. -/
theorem stepLine_of_names (hscene : s.scene = some scene) {name : String}
    (h : Names line tag name) :
    s.stepLine line =
      match s.catalog.get? name with
      | none => ⟨s!"Entity '{name}' not found.\n", some s⟩
      | some e => s.answer tag e (scene.bindByName tag e) := by
  obtain ⟨text, hline, hsides⟩ := h
  obtain ⟨library, catalog, settings, seed, played⟩ := s
  obtain rfl : played = some scene := hscene
  have hstep : stepLine ⟨library, catalog, settings, seed, some scene⟩ line =
      ⟨(Session.bind catalog scene text).1,
        some ⟨library, catalog, settings, seed, some (Session.bind catalog scene text).2⟩⟩ := by
    rw [stepLine, hline]
    rfl
  rw [hstep, Session.bind, hsides]
  dsimp only
  cases catalog.get? name with
  | none => rfl
  | some e =>
    dsimp only
    cases scene.bindByName tag e <;> rfl

/-- A line that is cut inside the name of its tag does not give the answer that is due when the tag
is filled. -/
theorem not_fills_of_cut {tag : String} {entity : Entity} (hscene : s.scene = some scene)
    (htight : Text.Tight tag.toList) (hcut : tag.toList = front ++ '=' :: back)
    (hfront : '=' ∉ front) (hok : (scene.bindByName tag entity).isOk = true) :
    ¬ s.Fills scene tag entity := by
  intro hfills
  cases hbind : scene.bindByName tag entity with
  | error e =>
    rw [hbind] at hok
    cases hok
  | ok r =>
    -- the answer that is due begins with the name of the tag in quotes
    obtain ⟨tail, htail⟩ := exists_outcomeText tag entity.name r.1
    rw [Fills, stepLine_of_names hscene (names_of_cut hcut hfront), hbind] at hfills
    have hanswer := congrArg (fun reply => reply.output.toList) hfills
    change _ = (outcomeText tag entity.name r.1).toList at hanswer
    rw [htail] at hanswer
    split at hanswer
    · simp [toString, String.toList_append] at hanswer
    · next e _ =>
      cases hother : scene.bindByName (String.ofList (Text.trim front)) e with
      | error why =>
        rw [hother] at hanswer
        simp [answer, toString, String.toList_append] at hanswer
      | ok r' =>
        obtain ⟨tail', htail'⟩ := exists_outcomeText (String.ofList (Text.trim front)) e.name r'.1
        rw [hother] at hanswer
        change (outcomeText (String.ofList (Text.trim front)) e.name r'.1).toList = _ at hanswer
        rw [htail', String.toList_ofList] at hanswer
        exact trim_append_quote_ne htight hcut tail' tail (List.cons.inj hanswer).2

/-- The line fills a tag without an equals sign in its name. -/
theorem fills_of_notMem {tag : String} {entity : Entity} (hscene : s.scene = some scene)
    (hentity : entity ∈ s.catalog.entities) (htag : Text.Tight tag.toList)
    (htight : Text.Tight entity.name.toList) (h : '=' ∉ tag.toList) : s.Fills scene tag entity := by
  have hget : s.catalog.get? entity.name = some entity := Catalog.get?_eq_some_iff.2 ⟨hentity, rfl⟩
  rw [Fills, stepLine_of_names hscene ((names_bindLine_iff htag htight).2 h), hget]

/-- **When a tag can be filled from a line.** Take a tag of the template and an entity of the
catalog, without line breaks in their names and without blanks around the name of the entity. Then
the text `bind tag = entity` is a line of the input. It is read as this tag and this entity, and
does just what the scene does when it binds the two by name, if and only if the name of the tag has
no equals sign. If it has one, no line names the tag. This line is cut at the sign: it names what
stands before it as a tag and all the rest as an entity; and whenever the scene could bind the two,
it does something else. -/
theorem fills_iff {tag : Tag} {entity : Entity} (hscene : s.scene = some scene)
    (htag : tag ∈ scene.template.tags) (hentity : entity ∈ s.catalog.entities)
    (hbreak : '\n' ∉ tag.name.toList) (hbreak' : '\n' ∉ entity.name.toList)
    (htight : Text.Tight entity.name.toList) :
    (∀ more, linesOf (bindLine tag.name entity.name ++ "\n" ++ more) =
      bindLine tag.name entity.name :: linesOf more) ∧
    (Names (bindLine tag.name entity.name) tag.name entity.name ∧ s.Fills scene tag.name entity ↔
      '=' ∉ tag.name.toList) ∧
    ((scene.bindByName tag.name entity).isOk = true →
      (s.Fills scene tag.name entity ↔ '=' ∉ tag.name.toList)) ∧
    (∀ line name, Names line tag.name name → '=' ∉ tag.name.toList) ∧
    ∀ front back, tag.name.toList = front ++ '=' :: back → '=' ∉ front →
      Names (bindLine tag.name entity.name) (String.ofList (Text.trim front))
        (String.ofList (Text.trim (back ++ " = ".toList ++ entity.name.toList))) := by
  obtain ⟨sentence, -, hparse⟩ := Template.mem_tags_iff.1 htag
  have hnamed : Text.Tight tag.name.toList := (wellNamed_of_mem_parse hparse).tight
  have hnames := names_bindLine_iff hnamed htight
  have hfills := fills_of_notMem hscene hentity hnamed htight
  refine ⟨linesOf_line ?_, ⟨fun h => hnames.1 h.1, fun h => ⟨hnames.2 h, hfills h⟩⟩,
    fun hok => ⟨fun h hmem => ?_, hfills⟩, fun _ _ => not_mem_of_names, fun _ _ => names_of_cut⟩
  · rw [bindLine, toList_typed]
    simp [String.toList_append, hbreak, hbreak']
  · obtain ⟨front, back, hcut, hfront⟩ := List.eq_append_cons_of_mem hmem
    exact not_fills_of_cut hscene hnamed hcut hfront hok h

/-- A name with blanks, a colon and a brace inside, and an entity with equals signs. -/
theorem fills_iff_inner :
    let king : Entity := { name := "K=1 = Karl", kind := .character }
    let template : Template := ⟨"ride", ["\x7bCharacter: the \x7bold: king \x7d rides."]⟩
    let scene := Scene.ofTemplate template {}
    let s : Session := ⟨⟨[template], by decide⟩, ⟨[king], by decide⟩, {}, 42, some scene⟩
    let tag : Tag := ⟨.character, "the \x7bold: king", 0⟩
    tag ∈ scene.template.tags ∧ king ∈ s.catalog.entities ∧ '\n' ∉ tag.name.toList ∧
      '\n' ∉ king.name.toList ∧ Text.Tight king.name.toList ∧
      (scene.bindByName tag.name king).isOk = true ∧ s.Fills scene tag.name king ∧
      (s.stepLine (bindLine tag.name king.name)).output =
        "'the \x7bold: king' = K=1 = Karl\n" := by
  intro king template scene s tag
  have htag : tag ∈ scene.template.tags := by decide +kernel
  have htight : Text.Tight king.name.toList := Text.trim_eq_self_iff.1 (by decide +kernel)
  have hok : (scene.bindByName tag.name king).isOk = true := by decide +kernel
  obtain ⟨-, -, hfills, -⟩ := fills_iff (s := s) rfl htag List.mem_cons_self (by decide +kernel)
    (by decide +kernel) htight
  exact ⟨htag, List.mem_cons_self, by decide +kernel, by decide +kernel, htight, hok,
    (hfills hok).2 (by decide +kernel), by decide +kernel⟩

/-- **A tag that no line fills.** The sentence has the tag, and the scene can bind the entity to it
by name; but the line looks for an entity called `b = Ada`. -/
theorem not_fills_sums :
    let ada : Entity := { name := "Ada", kind := .character }
    let template : Template := ⟨"sums", ["\x7bcharacter:a=b\x7d waits."]⟩
    let scene := Scene.ofTemplate template {}
    let s : Session := ⟨⟨[template], by decide⟩, ⟨[ada], by decide⟩, {}, 42, some scene⟩
    let tag : Tag := ⟨.character, "a=b", 0⟩
    tag ∈ scene.template.tags ∧ ada ∈ s.catalog.entities ∧ '\n' ∉ tag.name.toList ∧
      '\n' ∉ ada.name.toList ∧ Text.Tight ada.name.toList ∧
      (scene.bindByName tag.name ada).isOk = true ∧
      (s.stepLine (bindLine tag.name ada.name)).output = "Entity 'b = Ada' not found.\n" ∧
      ¬ s.Fills scene tag.name ada := by
  intro ada template scene s tag
  have houtput : (s.stepLine (bindLine tag.name ada.name)).output =
      "Entity 'b = Ada' not found.\n" := by decide +kernel
  have hdue : (s.answer tag.name ada (scene.bindByName tag.name ada)).output =
      "'a=b' = Ada\n" := by decide +kernel
  refine ⟨by decide +kernel, List.mem_cons_self, by decide +kernel, by decide +kernel,
    Text.trim_eq_self_iff.1 (by decide +kernel), by decide +kernel, houtput, fun hfills => ?_⟩
  rw [hfills, hdue] at houtput
  exact absurd houtput (by decide +kernel)

end Session

end StoryBlanks.Preview
