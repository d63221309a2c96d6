/-!
# Cutting a text at a character

`cut c cs` is what stands before the first `c` and what stands after it. `join` puts texts together
with a separator, and `byteLength` measures a text in UTF-8 bytes, the unit of all offsets.

* `cut_eq_some_iff`, `cut_eq_none_iff`: what a cut is, said without `cut`.
* `first_or_later`: any place of a character is the first or comes after it.
-/

namespace StoryBlanks.Text

/-! ## The first cut -/

/-- The text before the first `c` and the text after it. -/
def cut (c : Char) : List Char → Option (List Char × List Char)
  | [] => none
  | d :: ds =>
    if d = c then some ([], ds)
    else (cut c ds).map fun (before, after) => (d :: before, after)

theorem cut_eq_none_iff {c : Char} {cs : List Char} : cut c cs = none ↔ c ∉ cs := by
  induction cs with
  | nil => simp [cut]
  | cons d ds ih =>
    by_cases h : d = c
    · simp [cut, h]
    · simp [cut, h, ih, Ne.symm h]

theorem cut_eq_some_iff {c : Char} {cs before after : List Char} :
    cut c cs = some (before, after) ↔ cs = before ++ c :: after ∧ c ∉ before := by
  induction cs generalizing before with
  | nil => simp [cut]
  | cons d ds ih =>
    by_cases h : d = c
    · subst h
      cases before with
      | nil => simp [cut, eq_comm]
      | cons b bs =>
        simp only [cut, if_pos, Option.some.injEq, Prod.mk.injEq, List.cons_append, List.cons.injEq,
          List.mem_cons, not_or]
        constructor
        · rintro ⟨h, -⟩
          cases h
        · rintro ⟨⟨rfl, -⟩, h, -⟩
          exact absurd rfl h
    · simp only [cut, if_neg h, Option.map_eq_some_iff, Prod.mk.injEq, Prod.exists]
      cases before with
      | nil => simp [h]
      | cons b bs =>
        constructor
        · rintro ⟨x, y, hxy, hx, rfl⟩
          cases hx
          obtain ⟨rfl, hc⟩ := ih.1 hxy
          exact ⟨rfl, by simp [hc, Ne.symm h]⟩
        · rintro ⟨hd, hc⟩
          cases hd
          exact ⟨bs, after, ih.2 ⟨rfl, fun hm => hc (List.mem_cons_of_mem _ hm)⟩, rfl, rfl⟩

/-- A text is cut at the first place of a character in one way. -/
theorem eq_of_append_cons_eq {c : Char} {before after front back : List Char}
    (hbefore : c ∉ before) (hfront : c ∉ front) (h : before ++ c :: after = front ++ c :: back) :
    before = front ∧ after = back := by
  have hcut := cut_eq_some_iff.2 ⟨(rfl : before ++ c :: after = _), hbefore⟩
  rw [h, cut_eq_some_iff.2 ⟨rfl, hfront⟩] at hcut
  obtain ⟨rfl, rfl⟩ := Prod.mk.inj (Option.some.inj hcut)
  exact ⟨rfl, rfl⟩

/-- A place of a character is the first, or comes after the first. -/
theorem first_or_later {c : Char} {before after front back : List Char} (hbefore : c ∉ before)
    (h : before ++ c :: after = front ++ c :: back) :
    (front = before ∧ back = after) ∨
      ∃ lead, front = before ++ c :: lead ∧ after = lead ++ c :: back := by
  cases hcut : cut c front with
  | none =>
    obtain ⟨rfl, rfl⟩ := eq_of_append_cons_eq hbefore (cut_eq_none_iff.1 hcut) h
    exact .inl ⟨rfl, rfl⟩
  | some parts =>
    obtain ⟨hfront, hfirst⟩ := cut_eq_some_iff.1 hcut
    rw [hfront, List.append_assoc, List.cons_append] at h
    obtain ⟨rfl, rfl⟩ := eq_of_append_cons_eq hbefore hfirst h
    exact .inr ⟨parts.2, hfront, rfl⟩

theorem length_lt_of_cut {c : Char} {cs before after : List Char}
    (h : cut c cs = some (before, after)) : after.length < cs.length := by
  obtain ⟨rfl, -⟩ := cut_eq_some_iff.1 h
  simp only [List.length_append, List.length_cons]
  omega

/-! ## Joining and measuring -/

/-- The texts one after another, with `separator` between neighbours. -/
def join (separator : String) (texts : List String) : String := separator.intercalate texts

/-- The length in UTF-8 bytes. -/
def byteLength : List Char → Nat
  | [] => 0
  | c :: cs => c.utf8Size + byteLength cs

@[simp] theorem byteLength_nil : byteLength [] = 0 := rfl

@[simp] theorem byteLength_cons (c : Char) (cs : List Char) :
    byteLength (c :: cs) = c.utf8Size + byteLength cs := rfl

@[simp] theorem byteLength_append (cs ds : List Char) :
    byteLength (cs ++ ds) = byteLength cs + byteLength ds := by
  induction cs with
  | nil => simp
  | cons c cs ih => rw [List.cons_append, byteLength_cons, byteLength_cons, ih, Nat.add_assoc]

end StoryBlanks.Text
