import StoryBlanks.Proofs.RecordText.Tokens
import StoryBlanks.RecordText.Value

/-!
# Values read back

Stored values are made of texts, whole numbers, plain words, lists, and records without a name.
Such a value is read from its tokens, before whatever a comma or a closing mark begins, by
induction on the value: the items of a list and the fields of a record are separated by commas,
which no item goes on with, and closed by a mark, which no item begins with.

* `Regular`: the values in question, and how many levels they have at most.
* `Regular.readsBack`: the text of the tokens of a value gives these tokens.
* `readItems_separated`: items with commas between them.
* `Regular.readValue`, `Value.read?_of_regular`: the tokens, and the text, give the value.
-/

namespace StoryBlanks.RecordText

variable {levels : Nat} {v : Value} {ts rest : List Token}

/-- What stored values are made of, in so many levels at most. A list and a record take one level
for their brackets and one for what stands between them. -/
inductive Regular : Nat → Value → Prop
  | text (levels : Nat) (s : String) : Regular levels (.text s)
  | natural (levels : Nat) {n : Nat} (h : n < Text.wordLimit) : Regular levels (.number n.repr)
  | name (levels : Nat) {s : String} (hword : isPlainWord s = true) (hsome : s ≠ "Some") :
    Regular levels (.name { text := s })
  | list {levels : Nat} {vs : List Value} (h : ∀ v ∈ vs, Regular levels v) :
    Regular (levels + 2) (.list vs)
  | record {levels : Nat} {fs : List (String × Value)} (hne : fs ≠ [])
    (hwords : ∀ f ∈ fs, isPlainWord f.1 = true) (h : ∀ f ∈ fs, Regular levels f.2) :
    Regular (levels + 2) (.record none fs)

/-! ## Runs with commas between them -/

/-- The tokens of a field. -/
def fieldTokens (f : String × Value) : List Token :=
  .word { text := f.1 } :: .mark ':' :: f.2.tokens

theorem tokensOfAll_eq_map (vs : List Value) : tokensOfAll vs = vs.map Value.tokens := by
  induction vs with
  | nil => rfl
  | cons v vs ih => rw [tokensOfAll, ih, List.map_cons]

theorem tokensOfFields_eq_map (fs : List (String × Value)) :
    tokensOfFields fs = fs.map fieldTokens := by
  induction fs with
  | nil => rfl
  | cons f fs ih => rw [tokensOfFields, ih, List.map_cons, fieldTokens]

theorem separated_singleton (ts : List Token) : separated [ts] = ts := by
  simp [separated, List.intercalate]

theorem separated_cons_cons (ts us : List Token) (runs : List (List Token)) :
    separated (ts :: us :: runs) = ts ++ .mark ',' :: separated (us :: runs) := by
  simp [separated, List.intercalate]

theorem ReadsBack.separated {runs : List (List Token)} (h : ∀ ts ∈ runs, ReadsBack ts) :
    ReadsBack (separated runs) := by
  induction runs with
  | nil => exact .nil
  | cons ts runs ih =>
    obtain ⟨hts, hruns⟩ := List.forall_mem_cons.1 h
    cases runs with
    | nil => rwa [separated_singleton]
    | cons us runs =>
      rw [separated_cons_cons]
      exact hts.append (by decide) (ih hruns)

theorem parenthesized_cons (ts : List Token) (runs : List (List Token)) :
    parenthesized (ts :: runs) = .mark '(' :: (separated (ts :: runs) ++ [.mark ')']) := rfl

/-- The commas alone are almost as many as the runs. -/
theorem length_le_length_separated (runs : List (List Token)) :
    runs.length ≤ (separated runs).length + 1 := by
  induction runs with
  | nil => exact Nat.zero_le _
  | cons ts runs ih =>
    cases runs with
    | nil => exact Nat.succ_le_succ (Nat.zero_le _)
    | cons us runs =>
      simp only [separated_cons_cons, List.length_append, List.length_cons] at ih ⊢
      omega

/-- The first run stands first. -/
theorem exists_separated_cons (ts : List Token) (runs : List (List Token)) :
    ∃ more, separated (ts :: runs) = ts ++ more := by
  cases runs with
  | nil => exact ⟨[], by rw [separated_singleton, List.append_nil]⟩
  | cons us runs => exact ⟨_, separated_cons_cons ts us runs⟩

theorem Regular.readsBack (h : Regular levels v) : ReadsBack v.tokens := by
  induction h with
  | text levels s => exact .text s
  | natural levels h => exact .natural h
  | name levels hword hsome => exact .word hword
  | list h ih =>
    rw [Value.tokens, tokensOfAll_eq_map]
    refine .mark (by decide) (by decide) (.append (.separated ?_) (by decide) .nil)
    exact List.forall_mem_map.2 ih
  | @record levels fs hne hwords h ih =>
    have hfields : ReadsBack (RecordText.separated (fs.map fieldTokens)) :=
      .separated (List.forall_mem_map.2 fun f hf =>
        .append (.word (hwords f hf)) (by decide) (ih f hf))
    obtain ⟨f, fs, rfl⟩ := List.exists_cons_of_ne_nil hne
    obtain ⟨more, hmore⟩ := exists_separated_cons (fieldTokens f) (fs.map fieldTokens)
    obtain ⟨c, cs, hs, hc, -⟩ := isPlainWord_iff.1 (hwords f List.mem_cons_self)
    rw [Value.tokens, tokensOfFields_eq_map]
    refine .parenthesis ⟨c, ?_, ?_⟩ (.append hfields (by decide) .nil)
    · rw [List.map_cons, hmore, fieldTokens, List.cons_append, List.cons_append, List.flatMap_cons,
        Token.spell, if_neg Bool.false_ne_true]
      rw [hs]
      rfl
    · rintro rfl
      exact absurd hc (by decide)

/-! ## Reading from tokens -/

/-- The run of tokens is at its end, or at a comma or a closing mark. -/
def Parted (rest : List Token) : Prop :=
  ∀ t ∈ rest.head?, t ∈ [Token.mark ',', .mark ')', .mark ']']

/-- The run of tokens begins with something that can begin a value. -/
def Opening (ts : List Token) : Prop :=
  ∃ t ∈ ts.head?, t ∉ [Token.mark ')', .mark ']', .mark '#']

theorem Regular.opening (h : Regular levels v) : Opening v.tokens := by
  cases h with
  | text | natural | name => exact ⟨_, rfl, by simp⟩
  | list => exact ⟨_, rfl, by decide⟩
  | @record levels fs hne =>
    obtain ⟨f, fs, rfl⟩ := List.exists_cons_of_ne_nil hne
    exact ⟨.mark '(', rfl, by decide⟩

theorem Opening.append (h : Opening ts) (rest : List Token) : Opening (ts ++ rest) := by
  obtain ⟨t, ht, hne⟩ := h
  exact ⟨t, by rw [List.head?_append, ht]; rfl, hne⟩

/-- **Items with commas between them** are read up to the closing mark, if each of them is read
where it stands. -/
theorem readItems_separated {α : Type} {close : Char} (hclose : close = ')' ∨ close = ']')
    {item : Reader α} {run : α → List Token} {as : List α} {fuel : Nat}
    (hopening : ∀ a ∈ as, Opening (run a))
    (hitem : ∀ a ∈ as, ∀ rest, Parted rest → item (run a ++ rest) = some (a, rest))
    (hfuel : as.length < fuel) (rest : List Token) :
    readItems close item fuel (separated (as.map run) ++ .mark close :: rest) =
      some (as, rest) := by
  have hparted : Parted (.mark close :: rest) := by
    rintro t ⟨⟩
    rcases hclose with rfl | rfl <;> simp
  have hcomma : close ≠ ',' := by rcases hclose with rfl | rfl <;> decide
  have hstart : ∀ ts, Opening ts → ts.head? ≠ some (.mark close) := by
    rintro ts ⟨t, ht, hne⟩ heq
    obtain rfl := Option.some.inj (ht.symm.trans heq)
    rcases hclose with rfl | rfl <;> simp at hne
  -- the induction is on the items: each but the last is read up to its comma, the last to the mark
  induction as generalizing fuel with
  | nil =>
    obtain ⟨fuel, rfl⟩ := Nat.exists_eq_succ_of_ne_zero (Nat.ne_of_gt hfuel)
    rw [readItems, if_pos]
    · rfl
    · rfl
  | cons a as ih =>
    obtain ⟨fuel, rfl⟩ := Nat.exists_eq_succ_of_ne_zero (Nat.ne_of_gt (Nat.zero_lt_of_lt hfuel))
    obtain ⟨hopen, hopens⟩ := List.forall_mem_cons.1 hopening
    obtain ⟨ha, has⟩ := List.forall_mem_cons.1 hitem
    cases as with
    | nil =>
      rw [List.map_singleton, separated_singleton, readItems, if_neg (hstart _ (hopen.append _)),
        ha _ hparted]
      split
      · next hnone => cases hnone
      · next heq =>
        obtain ⟨-, hrest⟩ := Prod.mk.inj (Option.some.inj heq)
        exact absurd (Token.mark.inj (List.cons.inj hrest).1) hcomma
      · next heq =>
        obtain ⟨rfl, rfl⟩ := Prod.mk.inj (Option.some.inj heq)
        exact if_pos rfl
    | cons b bs =>
      rw [List.map_cons, List.map_cons, separated_cons_cons, List.append_assoc, readItems,
        if_neg (hstart _ (hopen.append _)), List.cons_append, ha]
      · change (readItems close item fuel
          (separated ((b :: bs).map run) ++ .mark close :: rest)).map _ = _
        rw [ih hopens has (Nat.lt_of_succ_lt_succ hfuel)]
        rfl
      · rintro t ⟨⟩
        exact List.mem_cons_self

/-- There are fewer items than tokens, so that the tokens suffice. -/
theorem readUntil_separated {α : Type} {close : Char} (hclose : close = ')' ∨ close = ']')
    {item : Reader α} {run : α → List Token} {as : List α} (hopening : ∀ a ∈ as, Opening (run a))
    (hitem : ∀ a ∈ as, ∀ rest, Parted rest → item (run a ++ rest) = some (a, rest))
    (rest : List Token) :
    readUntil close item (separated (as.map run) ++ .mark close :: rest) = some (as, rest) := by
  refine readItems_separated hclose hopening hitem ?_ rest
  have hcommas := length_le_length_separated (as.map run)
  rw [List.length_map] at hcommas
  rw [List.length_append, List.length_cons]
  omega

theorem readEntry_fieldTokens {item : Reader Value} {f : String × Value}
    (h : item (f.2.tokens ++ rest) = some (f.2, rest)) :
    readEntry readFieldName item (fieldTokens f ++ rest) = some (f, rest) := by
  simp only [readEntry, fieldTokens, readFieldName, List.cons_append, Option.bind_eq_bind,
    Option.bind_some, h]

/-- A word that is a value is not the name of a record, before what parts values. -/
theorem readAfterWord_parted {bare : Bool} {present item : Reader Value} {w : Word}
    (hw : w ≠ { text := "Some" }) (hrest : Parted rest) :
    readAfterWord bare present item w rest = some (.name w, rest) := by
  unfold readAfterWord
  rw [if_neg hw]
  split
  · rfl
  · split
    · exact absurd (hrest _ rfl) (by decide)
    · exact absurd (hrest _ rfl) (by decide)
    · rfl

/-- **A regular value reads back from its tokens**, and what follows it is left. -/
theorem Regular.readValue (h : Regular levels v) (bare : Bool) (hrest : Parted rest) :
    readValue bare levels (v.tokens ++ rest) = some (v, rest) := by
  induction h generalizing rest with
  | text levels s => cases levels <;> rfl
  | natural levels h => cases levels <;> rfl
  | @name levels s hword hsome =>
    have hw : ({ text := s } : Word) ≠ { text := "Some" } := fun heq =>
      hsome (congrArg Word.text heq)
    cases levels with
    | zero => exact if_neg hw
    | succ levels => exact readAfterWord_parted hw hrest
  | @list levels vs h ih =>
    have hread := readUntil_separated (.inr rfl) (fun v hv => (h v hv).opening)
      (fun v hv rest hrest => ih v hv hrest) rest
    rw [Value.tokens, tokensOfAll_eq_map, List.cons_append, List.append_assoc,
      List.singleton_append]
    exact congrArg (Option.map _) hread
  | @record levels fs hne hwords h ih =>
    have hentry : ∀ f ∈ fs, ∀ rest, Parted rest → readEntry readFieldName
        (RecordText.readValue bare levels) (fieldTokens f ++ rest) = some (f, rest) := by
      intro f hf rest hrest
      exact readEntry_fieldTokens (ih f hf hrest)
    have hread := readUntil_separated (.inl rfl)
      (fun f _ => ⟨.word { text := f.1 }, rfl, by simp⟩) hentry rest
    obtain ⟨f, fs, rfl⟩ := List.exists_cons_of_ne_nil hne
    obtain ⟨more, hmore⟩ := exists_separated_cons (fieldTokens f) (fs.map fieldTokens)
    rw [List.map_cons, hmore, List.append_assoc] at hread
    rw [Value.tokens, tokensOfFields_eq_map, List.map_cons, parenthesized_cons, hmore]
    simp only [List.cons_append, List.append_assoc]
    exact congrArg (Option.map _) hread

/-! ## Reading from text -/

/-- What can begin a value enables nothing. -/
theorem readEnabled_opening (h : Opening ts) (fuel : Nat) :
    readEnabled fuel ts = some ([], ts) := by
  unfold readEnabled
  split
  · obtain ⟨t, ⟨⟩, hne⟩ := h
    exact absurd (by simp) hne
  · rfl

/-- **A regular value reads back from its text**, if it has no more levels than reading allows. -/
theorem Value.read?_of_regular (h : Regular maxLevels v) : Value.read? v.write = some v := by
  have hend : Parted [] := by rintro t ⟨⟩
  have hread := h.readValue (([] : List String).contains "implicit_some") hend
  rw [List.append_nil] at hread
  rw [Value.read?, Value.write, String.toList_ofList, h.readsBack.tokens?_eq]
  simp only [Option.bind_eq_bind, Option.bind_some, Value.ofTokens?,
    readEnabled_opening h.opening, hread]

end StoryBlanks.RecordText
