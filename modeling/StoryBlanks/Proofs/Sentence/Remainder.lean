import StoryBlanks.Proofs.Selection.Lookup
import StoryBlanks.Template

/-!
# What is left of a partly rendered sentence

A rendered sentence can be scanned again. The name of a filled tag is then text like the gaps around
it, so if it brings no opening brace in, the pairs of the new text are those that were not filled,
with their bodies unchanged; and the ending stays what it was.

* `Layout.filledFrom`: the layout of the rendered text, made from that of the sentence.
* `ofText_substitute`: it is the layout of that text.
* `parse_render`: the tags that are left, and what stays passed over.
-/

namespace StoryBlanks

variable {name? : Tag → Option String} {sentence : Nat} {ps : List BracePair}

/-! ## The layout of the rendered text -/

namespace Layout

/-- The layout in which the filled pairs of a run have become text. What stands before the run,
back to the last pair that is left, is `kept`. -/
def filledFrom (name? : Tag → Option String) (sentence : Nat) (ending : Ending) :
    (kept : List Char) → List BracePair → Layout
  | kept, [] => ⟨[], ending.after kept⟩
  | kept, p :: ps =>
    match p.filling? name? sentence with
    | some name => filledFrom name? sentence ending (kept ++ p.gap ++ name.toList) ps
    | none => cons ⟨kept ++ p.gap, p.body⟩ (filledFrom name? sentence ending [] ps)

theorem text_filledFrom (name? : Tag → Option String) (sentence : Nat) (ending : Ending)
    (kept : List Char) (ps : List BracePair) : (filledFrom name? sentence ending kept ps).text =
      kept ++ ps.flatMap (BracePair.fill name? sentence) ++ ending.text := by
  induction ps generalizing kept with
  | nil => cases ending <;> simp [filledFrom, text, Ending.after, Ending.text]
  | cons p ps ih =>
    rw [filledFrom, List.flatMap_cons, BracePair.fill]
    cases p.filling? name? sentence with
    | some name => simp only [ih, List.append_assoc]
    | none =>
      simp only [text_cons, ih, BracePair.text, List.append_assoc, List.cons_append,
        List.nil_append]

/-- **No brace pair arises across a seam, and none is lost.** -/
theorem proper_filledFrom {ending : Ending} {kept : List Char} (h : Proper ⟨ps, ending⟩)
    (hkept : '\x7b' ∉ kept) (hnames : ∀ t name, name? t = some name → '\x7b' ∉ name.toList) :
    (filledFrom name? sentence ending kept ps).Proper := by
  induction ps generalizing kept with
  | nil =>
    refine ⟨fun q hq => absurd hq List.not_mem_nil, fun q hq => absurd hq List.not_mem_nil, ?_⟩
    have hending := h.ending
    cases ending with
    | closed gap => simpa [filledFrom, Ending.after, hkept] using hending
    | unclosed gap rest => simpa [filledFrom, Ending.after, hkept] using hending
  | cons p ps ih =>
    have hgap : '\x7b' ∉ kept ++ p.gap := by
      rw [List.mem_append, not_or]
      exact ⟨hkept, h.gap p List.mem_cons_self⟩
    rw [filledFrom]
    cases hfill : p.filling? name? sentence with
    | some name =>
      have hname : '\x7b' ∉ name.toList := by
        unfold BracePair.filling? at hfill
        split at hfill
        · next tag _ => exact hnames tag name hfill
        · cases hfill
      -- the name joins the gap of the next pair that is left
      refine ih h.tail ?_
      rw [List.mem_append, not_or]
      exact ⟨hgap, hname⟩
    | none => exact (ih h.tail List.not_mem_nil).cons hgap (h.body p List.mem_cons_self)

theorem bodies_filledFrom (name? : Tag → Option String) (sentence : Nat) (ending : Ending)
    (kept : List Char) (ps : List BracePair) :
    (filledFrom name? sentence ending kept ps).pairs.map BracePair.body =
      (ps.filter fun p => (p.filling? name? sentence).isNone).map BracePair.body := by
  induction ps generalizing kept with
  | nil => rfl
  | cons p ps ih =>
    rw [filledFrom, List.filter_cons]
    cases p.filling? name? sentence with
    | some name => simpa using ih _
    | none => simpa [cons] using ih _

theorem ending_filledFrom (name? : Tag → Option String) (sentence : Nat) (ending : Ending)
    (kept : List Char) (ps : List BracePair) :
    ∃ more, (filledFrom name? sentence ending kept ps).ending = ending.after more := by
  induction ps generalizing kept with
  | nil => exact ⟨kept, rfl⟩
  | cons p ps ih =>
    rw [filledFrom]
    cases p.filling? name? sentence with
    | some name => exact ih _
    | none => exact ih _

theorem ofText_substitute (hnames : ∀ t name, name? t = some name → '\x7b' ∉ name.toList)
    (text : String) (sentence : Nat) :
    ofText (substitute name? text sentence).toList =
      filledFrom name? sentence (ofText text.toList).ending [] (ofText text.toList).pairs := by
  have hproper : (filledFrom name? sentence (ofText text.toList).ending []
      (ofText text.toList).pairs).Proper :=
    proper_filledFrom (proper_ofText text.toList) List.not_mem_nil hnames
  have htext := text_filledFrom name? sentence (ofText text.toList).ending []
    (ofText text.toList).pairs
  rw [← ofText_text hproper, htext, substitute, String.toList_ofList]
  rfl

theorem filterMap_filledFrom {α : Type} (name? : Tag → Option String) (sentence : Nat)
    (ending : Ending) (kept : List Char) (ps : List BracePair) (f : List Char → Option α) :
    (filledFrom name? sentence ending kept ps).pairs.filterMap (fun p => f p.body) =
      ps.filterMap fun p => if (p.filling? name? sentence).isNone then f p.body else none := by
  have hbodies := congrArg (List.filterMap f) (bodies_filledFrom name? sentence ending kept ps)
  rw [List.filterMap_map, List.filterMap_map, List.filterMap_filter] at hbodies
  exact hbodies

end Layout

/-! ## What is found again -/

namespace Scan

/-- The texts that were passed over, and why. -/
def passedOver (s : Scan) : List (String × Discard) := s.discarded.map fun (c, why) => (c.body, why)

/-- What a body that is no tag is passed over for. -/
def reject? (sentence : Nat) (body : List Char) : Option (String × Discard) :=
  match readBody body sentence with
  | .ok _ => none
  | .error why => some (String.ofList body, why)

theorem passedOver_candidatesFrom (sentence start : Nat) (pairs : List BracePair) :
    ((candidatesFrom sentence start pairs).filterMap Candidate.discarded?).map
      (fun (c, why) => (c.body, why)) = pairs.filterMap fun p => reject? sentence p.body := by
  induction pairs generalizing start with
  | nil => rfl
  | cons p ps ih =>
    simp only [candidatesFrom, List.filterMap_cons, Candidate.discarded?, BracePair.candidate,
      reject?]
    cases readBody p.body sentence with
    | error why => exact congrArg ((String.ofList p.body, why) :: ·) (ih _)
    | ok tag => exact ih _

theorem isSome_unclosedIn {l m : Layout} {kept : List Char} (h : m.ending = l.ending.after kept) :
    (unclosedIn m).isSome = (unclosedIn l).isSome := by
  unfold unclosedIn
  rw [h]
  cases l.ending <;> rfl

end Scan

theorem BracePair.tags_filledFrom (name? : Tag → Option String) (sentence : Nat) (ending : Ending)
    (kept : List Char) (ps : List BracePair) :
    BracePair.tags sentence (Layout.filledFrom name? sentence ending kept ps).pairs =
      (BracePair.tags sentence ps).filter fun t => (name? t).isNone := by
  have hleft := Layout.filterMap_filledFrom name? sentence ending kept ps
    fun body => (readBody body sentence).toOption
  rw [tags, hleft, tags, List.filter_filterMap]
  congr 1
  funext p
  unfold BracePair.filling?
  cases readBody p.body sentence with
  | error why => rfl
  | ok tag => cases h : name? tag <;> simp [Except.toOption, Option.filter, h]

theorem Scan.reject?_filledFrom (name? : Tag → Option String) (sentence : Nat) (ending : Ending)
    (kept : List Char) (ps : List BracePair) :
    (Layout.filledFrom name? sentence ending kept ps).pairs.filterMap
        (fun p => Scan.reject? sentence p.body) =
      ps.filterMap fun p => Scan.reject? sentence p.body := by
  rw [Layout.filterMap_filledFrom]
  congr 1
  funext p
  unfold BracePair.filling? Scan.reject?
  cases readBody p.body sentence with
  | error why => rfl
  | ok tag => exact ite_self none

/-- **A partly rendered sentence holds the tags that are still to be filled.** If no name that is
bound holds an opening brace, the rendered text parses into those tags of the sentence that have no
binding, each as often and in the order in which the sentence has them; the same texts are passed
over for the same reasons; and an opening brace is left unclosed if and only if one was. -/
theorem parse_render {s : Selection}
    (h : ∀ n b, s.get? n = some b → '\x7b' ∉ b.entity.name.toList) (x : Sentence) :
    parse (x.render s.nameFor?) x.order =
        x.tags.filter (fun t => (s.bindingFor? t).isNone) ∧
      (Scan.ofText (x.render s.nameFor?) x.order).passedOver = x.scan.passedOver ∧
      (Scan.ofText (x.render s.nameFor?) x.order).unclosed.isSome = x.scan.unclosed.isSome := by
  have hnames : ∀ t name, s.nameFor? t = some name → '\x7b' ∉ name.toList := by
    intro t name ht
    obtain ⟨b, hb, rfl⟩ := Option.map_eq_some_iff.1 ht
    exact h t.name b (Option.filter_eq_some_iff.1 hb).1
  have hlayout := Layout.ofText_substitute hnames x.text x.order
  refine ⟨?_, ?_, ?_⟩
  · have hnone : ∀ t, (s.bindingFor? t).isNone = (s.nameFor? t).isNone := fun t => by
      rw [Selection.nameFor?, Option.isNone_map]
    simp only [hnone]
    rw [parse_eq_tags, Sentence.render, hlayout, BracePair.tags_filledFrom, Sentence.tags,
      parse_eq_tags]
  · have hpassed : ∀ text, (Scan.ofText text x.order).passedOver =
        (Layout.ofText text.toList).pairs.filterMap fun p => Scan.reject? x.order p.body :=
      fun text => Scan.passedOver_candidatesFrom ..
    rw [Sentence.scan, hpassed, hpassed, Sentence.render, hlayout, Scan.reject?_filledFrom]
  · obtain ⟨kept, hkept⟩ := Layout.ending_filledFrom s.nameFor? x.order
      (Layout.ofText x.text.toList).ending [] (Layout.ofText x.text.toList).pairs
    rw [← hlayout] at hkept
    exact Scan.isSome_unclosedIn hkept

/-- A name that closes a brace leaves what follows it as it was. -/
theorem parse_render_pasture :
    let bessie : Entity := { name := "Bessie \x7d", kind := .creature }
    let s := (Selection.empty .strict).put ⟨.creature, "cow", 0⟩ bessie
    let x : Sentence :=
      ⟨0, "A \x7bcreature:cow\x7d \x7bgrazes\x7d by the \x7blandmark:mill\x7d \x7bor"⟩
    (∀ n b, s.get? n = some b → '\x7b' ∉ b.entity.name.toList) ∧
      parse (x.render s.nameFor?) 0 = [⟨.landmark, "mill", 0⟩] ∧
      (Scan.ofText (x.render s.nameFor?) 0).passedOver = [("grazes", .missingColon)] ∧
      (Scan.ofText (x.render s.nameFor?) 0).unclosed.isSome = true := by
  intro bessie s x
  have hnames : ∀ n b, s.get? n = some b → '\x7b' ∉ b.entity.name.toList := by
    intro n b hb
    rw [Selection.get?_put] at hb
    split at hb
    · cases hb
      decide
    · cases hb
  obtain ⟨htags, hpassed, hunclosed⟩ := parse_render hnames x
  refine ⟨hnames, htags.trans ?_, hpassed.trans ?_, hunclosed.trans ?_⟩ <;> decide +kernel

end StoryBlanks
