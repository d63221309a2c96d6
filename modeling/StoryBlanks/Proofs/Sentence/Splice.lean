import StoryBlanks.Proofs.Sentence.Decomposition
import StoryBlanks.Selection.Basic
import StoryBlanks.Template

/-!
# Rendering replaces spans of bytes

A sentence is rendered by filling the pieces of its layout. The same text comes out when the spans
of the tags that are filled are replaced in the bytes of the sentence: what stands before the first
of them is copied, then its name is put in, and so on from the end of that span to the end of the
text. All the slices that this takes are there.

* `splice?`: replacing spans in a text, with a cursor that only moves forward.
* `splice?_candidatesFrom`: the invariant of the cursor; `splice?_locate`: whole sentences.
* `render_spliced`: whole templates, under any selection.
-/

namespace StoryBlanks

/-- The text from `cursor` on, with spans replaced by names; nothing if a part between them is not
there to be copied. -/
def splice? (text : String) (cursor : Nat) : List (Span × String) → Option String
  | [] => Text.slice? text cursor text.utf8ByteSize
  | (span, name) :: rest => do
    let kept ← Text.slice? text cursor span.start
    let later ← splice? text span.stop rest
    return kept ++ name ++ later

/-- The spans of the tags that have a name to show, with that name. -/
def replacements (name? : Tag → Option String) (located : List LocatedTag) :
    List (Span × String) :=
  located.filterMap fun l => (name? l.tag).map fun name => (l.span, name)

/-- The sentences with the spans of their filled tags replaced, and `separator` between them. -/
def Template.spliced? (t : Template) (name? : Tag → Option String) (separator : String) :
    Option String :=
  (t.sentences.mapM fun s => splice? s.text 0 (replacements name? s.located)).map
    (Text.join separator)

/-! ## The cursor -/

/-- The first pair of a run gives a replacement exactly if it is filled. -/
theorem replacements_candidatesFrom_cons (name? : Tag → Option String) (sentence start : Nat)
    (p : BracePair) (ps : List BracePair) :
    replacements name? ((Scan.candidatesFrom sentence start (p :: ps)).filterMap
        Candidate.located?) =
      let rest := replacements name?
        ((Scan.candidatesFrom sentence (p.span start).stop ps).filterMap Candidate.located?)
      match p.filling? name? sentence with
      | some name => (p.span start, name) :: rest
      | none => rest := by
  rw [Scan.candidatesFrom, List.filterMap_cons]
  unfold BracePair.filling? Candidate.located? BracePair.candidate
  cases readBody p.body sentence with
  | error why => rfl
  | ok tag =>
    simp only [replacements, List.filterMap_cons]
    cases name? tag <;> rfl

/-- **The invariant of the cursor.** Everything up to `done` has been copied or replaced; `kept` is
what lies between the cursor and the next gap, and is still to be copied. -/
theorem splice?_candidatesFrom (name? : Tag → Option String) (sentence : Nat)
    (pairs : List BracePair) (ending done kept : List Char) :
    splice? (String.ofList (done ++ kept ++ (pairs.flatMap BracePair.text ++ ending)))
        (Text.byteLength done) (replacements name?
          ((Scan.candidatesFrom sentence (Text.byteLength (done ++ kept)) pairs).filterMap
            Candidate.located?)) =
      some (String.ofList (kept ++ (pairs.flatMap (BracePair.fill name? sentence) ++ ending))) := by
  induction pairs generalizing done kept with
  | nil =>
    have hslice := Text.slice?_ofList (List.append_nil (done ++ (kept ++ ending))).symm
    rw [Text.byteLength_eq_utf8ByteSize (done ++ (kept ++ ending))] at hslice
    rw [List.flatMap_nil, List.nil_append, List.append_assoc]
    exact hslice
  | cons p ps ih =>
    have hstop : (p.span (Text.byteLength (done ++ kept))).stop =
        Text.byteLength (done ++ kept ++ p.text) := by
      rw [p.span_stop, ← Text.byteLength_append]
    have htext : done ++ kept ++ ((p :: ps).flatMap BracePair.text ++ ending) =
        done ++ kept ++ p.text ++ (ps.flatMap BracePair.text ++ ending) := by
      simp [List.append_assoc]
    rw [replacements_candidatesFrom_cons, hstop, htext, List.flatMap_cons]
    cases hfill : p.filling? name? sentence with
    | none =>
      -- the cursor stays where it is, and the pair joins what is still to be copied
      have hrest := ih done (kept ++ p.text)
      rw [BracePair.fill_of_filling?_none hfill]
      simpa only [List.append_assoc] using hrest
    | some name =>
      have hkept := Text.slice?_ofList (show
        done ++ kept ++ p.text ++ (ps.flatMap BracePair.text ++ ending) =
          done ++ (kept ++ p.gap) ++ ('\x7b' :: (p.body ++ '\x7d' ::
            (ps.flatMap BracePair.text ++ ending))) by simp [BracePair.text])
      have hlater := ih (done ++ kept ++ p.text) []
      rw [List.append_nil] at hlater
      have hstart : (p.span (Text.byteLength (done ++ kept))).start =
          Text.byteLength (done ++ (kept ++ p.gap)) := by
        rw [p.span_start, ← Text.byteLength_append, List.append_assoc]
      simp only [splice?, hstart, hkept, hstop, hlater]
      simp [BracePair.fill, hfill, String.append_assoc]

theorem splice?_locate (name? : Tag → Option String) (text : String) (sentence : Nat) :
    splice? text 0 (replacements name? (locate text sentence)) =
      some (substitute name? text sentence) := by
  have hsplice := splice?_candidatesFrom name? sentence
    (Layout.ofText text.toList).pairs (Layout.ofText text.toList).ending.text [] []
  have htext : (Layout.ofText text.toList).pairs.flatMap BracePair.text ++
      (Layout.ofText text.toList).ending.text = text.toList := Layout.text_ofText text.toList
  simp only [List.nil_append, htext, String.ofList_toList] at hsplice
  exact hsplice

/-- With no tag filled a template is rendered as it is written. -/
theorem Template.render_of_none {t : Template} {name? : Tag → Option String} {separator : String}
    (h : ∀ tag ∈ t.tags, name? tag = none) : t.render name? separator = t.text separator := by
  have hsentence : ∀ s ∈ t.sentences, s.render name? = s.text := by
    intro s hs
    exact substitute_none fun tag htag => h tag (List.mem_flatMap.2 ⟨s, hs, htag⟩)
  rw [render, List.map_congr_left hsentence, t.map_text_sentences]
  rfl

/-- **Rendering is the replacement of spans.** Under every selection the rendered text is that of
the sentences in order, with the separator between them and with the spans of exactly those located
tags that have a binding replaced by the name of its entity; and no slice on the way fails. With no
tag bound it is the text as it is written. -/
theorem render_spliced (t : Template) (s : Selection) (separator : String) :
    t.spliced? (fun tag => (s.bindingFor? tag).map fun b => b.entity.name) separator =
        some (t.render s.nameFor? separator) ∧
      ((∀ tag ∈ t.tags, s.bindingFor? tag = none) →
        t.render s.nameFor? separator = t.text separator) := by
  constructor
  · have hsentences : (t.sentences.mapM fun x => splice? x.text 0
        (replacements s.nameFor? x.located)) =
          some (t.sentences.map fun x => x.render s.nameFor?) := by
      have hsentence : (fun x : Sentence => splice? x.text 0 (replacements s.nameFor? x.located)) =
          fun x => pure (x.render s.nameFor?) := by
        funext x
        exact splice?_locate s.nameFor? x.text x.order
      rw [hsentence, List.mapM_pure]
      rfl
    change ((t.sentences.mapM fun x => splice? x.text 0 (replacements s.nameFor? x.located)).map
      (Text.join separator)) = _
    rw [hsentences]
    rfl
  · intro hnone
    refine Template.render_of_none fun tag htag => ?_
    rw [Selection.nameFor?, hnone tag htag]
    rfl

end StoryBlanks
