import StoryBlanks.Sentence.Layout
import StoryBlanks.Tag
import StoryBlanks.Text.Blank

/-!
# Scanning a sentence

Every brace pair of a sentence is a candidate for a tag. A candidate reads `kind:name`, cut at its
first colon; one that does not is passed over, and the scan says why. Offsets count UTF-8 bytes.

* `Scan.ofText`: the candidates of a text, and an opening brace that nothing closes.
* `locate`, `parse`: the tags of a text, with and without their places.
-/

namespace StoryBlanks

/-! ## Candidates -/

/-- A range of bytes, from `start` up to but not including `stop`. -/
structure Span where
  start : Nat
  stop : Nat
  deriving DecidableEq

/-- Why a brace pair is no tag. -/
inductive Discard
  /-- No colon parts a kind from a name. -/
  | missingColon
  /-- The text before the colon names no kind. -/
  | unknownKind (token : String)
  deriving DecidableEq

/-- A brace pair and what it reads as. -/
structure Candidate where
  /-- Both braces and the text between them. -/
  span : Span
  /-- The text between the braces. -/
  body : String
  reading : Except Discard Tag

/-- A tag and the place of its literal. -/
structure LocatedTag where
  tag : Tag
  span : Span
  deriving DecidableEq

/-- The tag that the text between two braces stands for. -/
def readBody (body : List Char) (sentence : Nat) : Except Discard Tag :=
  match Text.cut ':' body with
  | none => .error .missingColon
  | some (token, name) =>
    match Kind.ofToken? (String.ofList token) with
    | none => .error (.unknownKind (String.ofList token))
    | some kind => .ok ⟨kind, String.ofList (Text.trim name), sentence⟩

namespace Candidate

/-- The tag and its place, if the candidate is a tag. -/
def located? (c : Candidate) : Option LocatedTag :=
  match c.reading with
  | .ok tag => some ⟨tag, c.span⟩
  | .error _ => none

/-- The candidate and why it is no tag, if it is none. -/
def discarded? (c : Candidate) : Option (Candidate × Discard) :=
  match c.reading with
  | .ok _ => none
  | .error why => some (c, why)

end Candidate

/-! ## The scan -/

/-- What one pass over a sentence finds. -/
structure Scan where
  candidates : List Candidate
  /-- The offset of the opening brace that nothing closes. -/
  unclosed : Option Nat

namespace BracePair

/-- The bytes from the opening brace through the closing one, for a pair whose gap begins at
`start`. -/
def span (p : BracePair) (start : Nat) : Span :=
  let opening := start + Text.byteLength p.gap
  ⟨opening, opening + Text.byteLength p.body + 2⟩

/-- The candidate that the pair makes. -/
def candidate (p : BracePair) (sentence start : Nat) : Candidate :=
  ⟨p.span start, String.ofList p.body, readBody p.body sentence⟩

end BracePair

namespace Scan

/-- The candidates of a run of pairs, the first gap of which begins at `start`. -/
def candidatesFrom (sentence start : Nat) : List BracePair → List Candidate
  | [] => []
  | p :: ps => p.candidate sentence start :: candidatesFrom sentence (p.span start).stop ps

/-- The offset of an opening brace without a closing one. -/
def unclosedIn (l : Layout) : Option Nat :=
  match l.ending with
  | .closed _ => none
  | .unclosed gap _ => some (Text.byteLength (l.pairs.flatMap BracePair.text ++ gap))

/-- The scan of a sentence that is laid out. -/
def ofLayout (l : Layout) (sentence : Nat) : Scan :=
  ⟨candidatesFrom sentence 0 l.pairs, unclosedIn l⟩

/-- The scan of a text, as the sentence of that number. -/
def ofText (text : String) (sentence : Nat) : Scan :=
  ofLayout (Layout.ofText text.toList) sentence

/-- The tags that the scan found, in order. -/
def located (s : Scan) : List LocatedTag := s.candidates.filterMap Candidate.located?

/-- The candidates that are no tags, in order. -/
def discarded (s : Scan) : List (Candidate × Discard) := s.candidates.filterMap Candidate.discarded?

end Scan

/-- The tags of a text and their places, in order. -/
def locate (text : String) (sentence : Nat) : List LocatedTag := (Scan.ofText text sentence).located

/-- The tags of a text, in order. -/
def parse (text : String) (sentence : Nat) : List Tag := (locate text sentence).map (·.tag)

/-! ## Tags without their places -/

/-- The tags of a run of pairs. -/
def BracePair.tags (sentence : Nat) (pairs : List BracePair) : List Tag :=
  pairs.filterMap fun p => (readBody p.body sentence).toOption

theorem Scan.tags_candidatesFrom (sentence start : Nat) (pairs : List BracePair) :
    ((candidatesFrom sentence start pairs).filterMap Candidate.located?).map (·.tag) =
      BracePair.tags sentence pairs := by
  induction pairs generalizing start with
  | nil => rfl
  | cons p ps ih =>
    simp only [candidatesFrom, BracePair.tags, List.filterMap_cons, Candidate.located?,
      BracePair.candidate]
    cases readBody p.body sentence with
    | error why => exact ih _
    | ok tag => exact congrArg (tag :: ·) (ih _)

theorem parse_eq_tags (text : String) (sentence : Nat) :
    parse text sentence = BracePair.tags sentence (Layout.ofText text.toList).pairs :=
  Scan.tags_candidatesFrom ..

/-- The tags of a text are what its brace pairs read as. -/
theorem mem_parse_iff {text : String} {sentence : Nat} {t : Tag} : t ∈ parse text sentence ↔
    ∃ p ∈ (Layout.ofText text.toList).pairs, readBody p.body sentence = .ok t := by
  rw [parse_eq_tags, BracePair.tags, List.mem_filterMap]
  refine exists_congr fun p => and_congr_right fun _ => ?_
  cases readBody p.body sentence <;> simp [Except.toOption]

theorem sentence_of_readBody {body : List Char} {sentence : Nat} {t : Tag}
    (h : readBody body sentence = .ok t) : t.sentence = sentence := by
  unfold readBody at h
  split at h
  · cases h
  · split at h
    · cases h
    · cases h
      rfl

theorem sentence_of_mem_parse {text : String} {sentence : Nat} {t : Tag}
    (h : t ∈ parse text sentence) : t.sentence = sentence := by
  obtain ⟨p, -, hread⟩ := mem_parse_iff.1 h
  exact sentence_of_readBody hread

end StoryBlanks
