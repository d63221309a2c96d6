/-!
# Blanks

The characters with the property White_Space, and texts without them at either end.

* `trim_eq_self_iff`: a text is its own trimmed form when neither end is a blank.
-/

namespace StoryBlanks.Text

/-- The characters with the Unicode property White_Space. -/
def isBlank (c : Char) : Bool :=
  let n := c.toNat
  (0x09 ≤ n && n ≤ 0x0D) || n == 0x20 || n == 0x85 || n == 0xA0 || n == 0x1680 ||
    (0x2000 ≤ n && n ≤ 0x200A) || n == 0x2028 || n == 0x2029 || n == 0x202F || n == 0x205F ||
    n == 0x3000

/-- The text without the blanks that open it. -/
def trimStart (cs : List Char) : List Char := cs.dropWhile isBlank

/-- The text without the blanks that close it. -/
def trimEnd (cs : List Char) : List Char := (trimStart cs.reverse).reverse

/-- The text without the blanks at its ends. -/
def trim (cs : List Char) : List Char := trimEnd (trimStart cs)

/-- `trim`, on strings. -/
def trimmed (s : String) : String := String.ofList (trim s.toList)

/-! ## Texts that need no trimming -/

/-- Neither end of the text is a blank. -/
def Tight (cs : List Char) : Prop :=
  (∀ c, cs.head? = some c → isBlank c = false) ∧ ∀ c, cs.getLast? = some c → isBlank c = false

theorem head_trimStart {cs : List Char} {c : Char} (h : (trimStart cs).head? = some c) :
    isBlank c = false := by
  induction cs with
  | nil => simp [trimStart] at h
  | cons d ds ih =>
    by_cases hd : isBlank d = true
    · exact ih (by simpa [trimStart, hd] using h)
    · obtain rfl : d = c := by simpa [trimStart, hd] using h
      simpa using hd

theorem trimStart_eq_self {cs : List Char} (h : ∀ c, cs.head? = some c → isBlank c = false) :
    trimStart cs = cs := by
  cases cs with
  | nil => rfl
  | cons d ds => simp [trimStart, h d rfl]

theorem getLast_trimEnd {cs : List Char} {c : Char} (h : (trimEnd cs).getLast? = some c) :
    isBlank c = false := by
  rw [trimEnd, List.getLast?_reverse] at h
  exact head_trimStart h

theorem trimEnd_eq_self {cs : List Char} (h : ∀ c, cs.getLast? = some c → isBlank c = false) :
    trimEnd cs = cs := by
  rw [trimEnd, trimStart_eq_self (by rwa [List.head?_reverse]), List.reverse_reverse]

/-- Trimming the end takes a suffix away, so a tight opening stays. -/
theorem head_trimEnd {cs : List Char} (h : ∀ c, cs.head? = some c → isBlank c = false) :
    ∀ c, (trimEnd cs).head? = some c → isBlank c = false := by
  intro c hc
  obtain ⟨taken, ht⟩ := List.dropWhile_suffix isBlank (l := cs.reverse)
  have hcs : cs = trimEnd cs ++ taken.reverse := by
    have := congrArg List.reverse ht
    rw [List.reverse_append, List.reverse_reverse] at this
    exact this.symm
  refine h c ?_
  rw [hcs, List.head?_append, hc]
  rfl

theorem tight_trim (cs : List Char) : Tight (trim cs) :=
  ⟨head_trimEnd fun _ => head_trimStart, fun _ => getLast_trimEnd⟩

theorem trim_eq_self_iff {cs : List Char} : trim cs = cs ↔ Tight cs := by
  refine ⟨fun h => h ▸ tight_trim cs, fun h => ?_⟩
  rw [trim, trimStart_eq_self h.1, trimEnd_eq_self h.2]

end StoryBlanks.Text
