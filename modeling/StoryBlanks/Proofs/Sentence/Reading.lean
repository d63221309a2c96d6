import StoryBlanks.NameMap
import StoryBlanks.Proofs.Text.Trimming
import StoryBlanks.Sentence.Scan

/-!
# What stands between two braces

The text between two braces is a tag exactly if it reads `token:rest`, cut at its first colon, where
the token in lower case stands in the table of tokens. The name of the tag is the rest, trimmed.
A text without a colon, or with another token, is passed over for that reason.

* `Reads`: the rules; `reads_iff`: the reader follows them, and they leave it no choice.
* `mem_name_of_readBody`: an opening brace inside a tag is part of its name.
-/

namespace StoryBlanks

theorem Kind.ofToken?_eq_some_iff {token : String} {kind : Kind} :
    ofToken? token = some kind ↔ (Text.lowered token, kind) ∈ tokens :=
  NameMap.lookup_eq_some_iff (by decide)

theorem Kind.ofToken?_eq_none_iff {token : String} :
    ofToken? token = none ↔ ∀ kind, (Text.lowered token, kind) ∉ tokens := by
  simp only [Option.eq_none_iff_forall_ne_some, ne_eq, ofToken?_eq_some_iff]

/-- A character that is its own small letter and stands in no token stands in nothing that names a
kind. -/
theorem Kind.not_mem_of_ofToken? {c : Char} (hlower : Text.lowerChar c = [c]) (hsigma : c ≠ 'Σ')
    (hc : ∀ e ∈ tokens, c ∉ e.1.toList) {token : List Char} {kind : Kind}
    (h : ofToken? (String.ofList token) = some kind) : c ∉ token := by
  intro hmem
  refine hc _ (ofToken?_eq_some_iff.1 h) ?_
  rw [Text.lowered, String.toList_ofList, String.toList_ofList]
  exact Text.mem_lowerAfter hlower hsigma hmem []

/-- What the text between two braces reads as, in the sentence of that number. -/
inductive Reads (sentence : Nat) (body : List Char) : Except Discard Tag → Prop
  | tag {token rest name : List Char} {kind : Kind} (hbody : body = token ++ ':' :: rest)
      (htoken : ':' ∉ token) (hkind : (Text.lowered (String.ofList token), kind) ∈ Kind.tokens)
      (hname : Text.Trims rest name) :
      Reads sentence body (.ok ⟨kind, String.ofList name, sentence⟩)
  | missingColon (hbody : ':' ∉ body) : Reads sentence body (.error .missingColon)
  | unknownKind {token rest : List Char} (hbody : body = token ++ ':' :: rest)
      (htoken : ':' ∉ token)
      (hkind : ∀ kind, (Text.lowered (String.ofList token), kind) ∉ Kind.tokens) :
      Reads sentence body (.error (.unknownKind (String.ofList token)))

theorem reads_readBody (sentence : Nat) (body : List Char) :
    Reads sentence body (readBody body sentence) := by
  unfold readBody
  split
  · next hcut => exact .missingColon (Text.cut_eq_none_iff.1 hcut)
  · next token rest hcut =>
    obtain ⟨hbody, htoken⟩ := Text.cut_eq_some_iff.1 hcut
    split
    · next hkind => exact .unknownKind hbody htoken (Kind.ofToken?_eq_none_iff.1 hkind)
    · next kind hkind =>
      exact .tag hbody htoken (Kind.ofToken?_eq_some_iff.1 hkind) (Text.trims_trim rest)

/-- **The reader follows the rules, and they leave it no choice.** -/
theorem reads_iff {sentence : Nat} {body : List Char} {reading : Except Discard Tag} :
    Reads sentence body reading ↔ reading = readBody body sentence := by
  refine ⟨fun h => ?_, fun h => h ▸ reads_readBody sentence body⟩
  cases h with
  | tag hbody htoken hkind hname =>
    have hcut := Text.cut_eq_some_iff.2 ⟨hbody, htoken⟩
    simp only [readBody, hcut, Kind.ofToken?_eq_some_iff.2 hkind, Text.trims_iff.1 hname]
  | missingColon hbody => simp only [readBody, Text.cut_eq_none_iff.2 hbody]
  | unknownKind hbody htoken hkind =>
    have hcut := Text.cut_eq_some_iff.2 ⟨hbody, htoken⟩
    simp only [readBody, hcut, Kind.ofToken?_eq_none_iff.2 hkind]

/-- An opening brace inside a tag is part of its name. -/
theorem mem_name_of_readBody {body : List Char} {sentence : Nat} {tag : Tag}
    (h : readBody body sentence = .ok tag) (hmem : '\x7b' ∈ body) : '\x7b' ∈ tag.name.toList := by
  unfold readBody at h
  split at h
  · cases h
  · next token name hcut =>
    split at h
    · cases h
    · next kind hkind =>
      cases h
      obtain ⟨rfl, -⟩ := Text.cut_eq_some_iff.1 hcut
      have htoken : '\x7b' ∉ token :=
        Kind.not_mem_of_ofToken? (by decide) (by decide) (by decide) hkind
      have hname : '\x7b' ∈ name := by
        rcases List.mem_append.1 hmem with hmem | hmem
        · exact absurd hmem htoken
        · exact (List.mem_cons.1 hmem).resolve_left (by decide)
      rw [String.toList_ofList]
      exact Text.mem_trim hname (by decide)

end StoryBlanks
