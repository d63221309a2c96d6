import StoryBlanks.StoreError
import StoryBlanks.Template

/-!
# Libraries

Templates in the order of their names, each name once. A template that is put in takes the place
of one with its name; `insert` refuses instead.

* `get?_put`, `get?_merge`: the templates after one is put in, and after a whole library is.
* `ext_get?`: a library is what it holds under each name.
-/

namespace StoryBlanks

/-- Templates in strict order of names. -/
structure Library where
  templates : List Template := []
  increasing : templates.Pairwise fun s t => s.name < t.name := by simp

namespace Library

/-- The library that holds nothing. -/
def empty : Library := {}

/-- The template of that name. -/
def get? (l : Library) (name : String) : Option Template :=
  l.templates.find? fun t => t.name = name

/-- The names in order. -/
def names (l : Library) : List String := l.templates.map Template.name

/-- How many templates there are. -/
def size (l : Library) : Nat := l.templates.length

/-- The library with a template put in, in place of one with its name. -/
def put (l : Library) (t : Template) : Library where
  templates :=
    l.templates.filter (·.name < t.name) ++ t :: l.templates.filter (t.name < ·.name)
  increasing := by
    rw [List.pairwise_append, List.pairwise_cons]
    refine ⟨l.increasing.filter _, ⟨fun s hs => ?_, l.increasing.filter _⟩, fun s hs u hu => ?_⟩
    · simpa using (List.mem_filter.1 hs).2
    · have hst : s.name < t.name := by simpa using (List.mem_filter.1 hs).2
      rcases List.mem_cons.1 hu with rfl | hu
      · exact hst
      · exact String.lt_trans hst (by simpa using (List.mem_filter.1 hu).2)

/-- One more template, if its name is new. -/
def insert (l : Library) (t : Template) : Except StoreError Library :=
  if t.name ∈ l.names then .error (.duplicateTemplate t.name) else .ok (l.put t)

/-- The library of a list of templates, if their names are distinct. -/
def ofList (ts : List Template) : Except StoreError Library := ts.foldlM insert empty

/-- The library with every template of another put in. -/
def merge (l m : Library) : Library := m.templates.foldl put l

/-! ## What a name stands for -/

theorem eq_of_mem {l : Library} {s t : Template} (hs : s ∈ l.templates) (ht : t ∈ l.templates)
    (h : s.name = t.name) : s = t := by
  obtain ⟨ts, hp⟩ := l
  change s ∈ ts at hs
  change t ∈ ts at ht
  induction ts with
  | nil => cases hs
  | cons u us ih =>
    rw [List.pairwise_cons] at hp
    rcases List.mem_cons.1 hs with hsu | hsu <;> rcases List.mem_cons.1 ht with htu | htu
    · rw [hsu, htu]
    · exact absurd (h ▸ hsu ▸ hp.1 t htu) (String.lt_irrefl _)
    · exact absurd (h ▸ htu ▸ hp.1 s hsu) (String.lt_irrefl _)
    · exact ih hp.2 hsu htu

theorem get?_eq_some_iff {l : Library} {name : String} {t : Template} :
    l.get? name = some t ↔ t ∈ l.templates ∧ t.name = name := by
  constructor
  · intro h
    exact ⟨List.mem_of_find?_eq_some h, by simpa using List.find?_some h⟩
  · rintro ⟨hmem, rfl⟩
    cases hf : l.get? t.name with
    | none => simpa using List.find?_eq_none.1 hf t hmem
    | some u =>
      have hu : u ∈ l.templates := List.mem_of_find?_eq_some hf
      have hn : u.name = t.name := by simpa using List.find?_some hf
      rw [eq_of_mem hu hmem hn]

theorem isSome_get?_iff {l : Library} {name : String} :
    (l.get? name).isSome = true ↔ name ∈ l.names := by
  simp only [Option.isSome_iff_exists, get?_eq_some_iff, names, List.mem_map]

theorem mem_put {l : Library} {s t : Template} :
    s ∈ (l.put t).templates ↔ s = t ∨ s.name ≠ t.name ∧ s ∈ l.templates := by
  have htri : s.name ≠ t.name ↔ s.name < t.name ∨ t.name < s.name := by grind
  simp only [put, List.mem_append, List.mem_cons, List.mem_filter, decide_eq_true_eq, htri]
  grind

theorem get?_put (l : Library) (t : Template) (name : String) :
    (l.put t).get? name = if name = t.name then some t else l.get? name := by
  apply Option.ext
  intro s
  rw [get?_eq_some_iff, mem_put]
  split
  · next h => grind
  · next h =>
    rw [get?_eq_some_iff]
    grind

/-- The names of a library are distinct, so each of its templates is put in to stay. -/
theorem get?_merge (l m : Library) (name : String) :
    (l.merge m).get? name = (m.get? name).or (l.get? name) := by
  obtain ⟨ts, hts⟩ := m
  change (ts.foldl put l).get? name = (ts.find? fun t => t.name = name).or (l.get? name)
  induction ts generalizing l with
  | nil => rfl
  | cons t ts ih =>
    rw [List.pairwise_cons] at hts
    rw [List.foldl_cons, ih (l.put t) hts.2, get?_put]
    by_cases hname : t.name = name
    · have hnone : (ts.find? fun u => u.name = name) = none := by
        rw [List.find?_eq_none]
        intro u hu heq
        exact String.lt_irrefl _ (hname.trans (of_decide_eq_true heq).symm ▸ hts.1 u hu)
      rw [hnone, List.find?_cons_of_pos (by simpa using hname), if_pos hname.symm]
      rfl
    · rw [List.find?_cons_of_neg (by simpa using hname), if_neg (Ne.symm hname)]

theorem mem_merge {l m : Library} {t : Template} : t ∈ (l.merge m).templates ↔
    t ∈ m.templates ∨ t ∈ l.templates ∧ ∀ u ∈ m.templates, u.name ≠ t.name := by
  have hget : ∀ k : Library, t ∈ k.templates ↔ k.get? t.name = some t := fun k => by
    rw [get?_eq_some_iff, and_iff_left rfl]
  have hnone : m.get? t.name = none ↔ ∀ u ∈ m.templates, u.name ≠ t.name := by
    simp [get?, List.find?_eq_none]
  rw [hget, get?_merge, Option.or_eq_some_iff, hget m, hget l, hnone]
  exact or_congr_right and_comm

theorem ext_get? {l m : Library} (h : ∀ name, l.get? name = m.get? name) : l = m := by
  have hmem : ∀ t, t ∈ l.templates ↔ t ∈ m.templates := fun t => by
    have ht : (l.get? t.name = some t ↔ m.get? t.name = some t) := by rw [h]
    simpa [get?_eq_some_iff] using ht
  obtain ⟨ts, hts⟩ := l
  obtain ⟨us, hus⟩ := m
  have heq : ts = us := by
    clear h
    change ∀ t, t ∈ ts ↔ t ∈ us at hmem
    induction ts generalizing us with
    | nil =>
      cases us with
      | nil => rfl
      | cons u us => exact absurd ((hmem u).2 List.mem_cons_self) List.not_mem_nil
    | cons t ts ih =>
      cases us with
      | nil => exact absurd ((hmem t).1 List.mem_cons_self) List.not_mem_nil
      | cons u us =>
        rw [List.pairwise_cons] at hts hus
        have htu : t = u := by
          rcases List.mem_cons.1 ((hmem t).1 List.mem_cons_self) with h | h
          · exact h
          · rcases List.mem_cons.1 ((hmem u).2 List.mem_cons_self) with k | k
            · exact k.symm
            · exact absurd (String.lt_trans (hus.1 t h) (hts.1 u k)) (String.lt_irrefl _)
        subst htu
        refine congrArg (t :: ·) (ih hts.2 us hus.2 fun s => ?_)
        have hs := hmem s
        simp only [List.mem_cons] at hs
        constructor
        · intro hm
          rcases hs.1 (.inr hm) with rfl | hm'
          · exact absurd (hts.1 s hm) (String.lt_irrefl _)
          · exact hm'
        · intro hm
          rcases hs.2 (.inr hm) with rfl | hm'
          · exact absurd (hus.1 s hm) (String.lt_irrefl _)
          · exact hm'
  subst heq
  rfl

end Library

end StoryBlanks
