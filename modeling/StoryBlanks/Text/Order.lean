/-!
# Lists of names

Names are sorted by code points, which is also the order of their UTF-8 bytes.

* `mem_sorted`, `sorted_perm`: sorting neither loses nor invents a name; `sorted_eq_of_perm`: it
  forgets the order; `pairwise_mergeSort_by`: what is sorted by names.
* `mem_distinct`, `nodup_distinct`: `distinct` keeps each name once.
-/

namespace StoryBlanks.Text

/-- The names in order, repeated ones side by side. -/
def sorted (names : List String) : List String := names.mergeSort fun a b => a ≤ b

theorem mem_sorted {names : List String} {name : String} : name ∈ sorted names ↔ name ∈ names :=
  List.mem_mergeSort

theorem sorted_perm (names : List String) : (sorted names).Perm names := List.mergeSort_perm names _

/-- Whatever is sorted by names is in the order of these. -/
theorem pairwise_mergeSort_by {α : Type} (name : α → String) (l : List α) :
    (l.mergeSort fun a b => name a ≤ name b).Pairwise fun a b => name a ≤ name b := by
  have hsorted : (l.mergeSort fun a b => name a ≤ name b).Pairwise fun a b =>
      decide (name a ≤ name b) = true := by
    refine List.pairwise_mergeSort (fun a b c hab hbc => ?_) (fun a b => ?_) l
    · rw [decide_eq_true_eq] at hab hbc ⊢
      exact String.le_trans hab hbc
    · rw [Bool.or_eq_true, decide_eq_true_eq, decide_eq_true_eq]
      exact String.le_total (name a) (name b)
  exact hsorted.imp fun hab => of_decide_eq_true hab

theorem pairwise_sorted (names : List String) : (sorted names).Pairwise fun a b => a ≤ b :=
  pairwise_mergeSort_by id names

/-- Sorting forgets the order. -/
theorem sorted_eq_of_perm {names others : List String} (h : names.Perm others) :
    sorted names = sorted others := by
  have hperm : (sorted names).Perm (sorted others) :=
    (sorted_perm names).trans (h.trans (sorted_perm others).symm)
  exact hperm.eq_of_pairwise (fun a b _ _ => String.le_antisymm) (pairwise_sorted names)
    (pairwise_sorted others)

/-- Each name once. -/
def distinct : List String → List String
  | [] => []
  | name :: names => if name ∈ names then distinct names else name :: distinct names

theorem mem_distinct {names : List String} {name : String} :
    name ∈ distinct names ↔ name ∈ names := by
  induction names with
  | nil => rfl
  | cons n ns ih =>
    rw [distinct]
    split
    · next h =>
      rw [ih, List.mem_cons]
      constructor
      · exact .inr
      · rintro (rfl | hm)
        · exact h
        · exact hm
    · simp [ih]

theorem nodup_distinct (names : List String) : (distinct names).Nodup := by
  induction names with
  | nil => exact List.nodup_nil
  | cons n ns ih =>
    rw [distinct]
    split
    · exact ih
    · next h => exact List.nodup_cons.2 ⟨fun hm => h (mem_distinct.1 hm), ih⟩

end StoryBlanks.Text
