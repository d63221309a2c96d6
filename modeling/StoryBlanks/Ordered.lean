/-!
# Entries in the order of their keys

A map that lists its entries in the order of their keys, kept as that list. An entry that is put in
goes to its place, and takes the place of one with its key.

* `put`, `ofEntries`: one entry more, and entries one after another.
* `ofEntries_of_increasing`: entries that come in strict order stay as they are.
-/

namespace StoryBlanks.Ordered

variable {κ α : Type} [LT κ] [DecidableLT κ]

/-- The entries with one more put in. -/
def put (entries : List (κ × α)) (key : κ) (a : α) : List (κ × α) :=
  entries.filter (·.1 < key) ++ (key, a) :: entries.filter (key < ·.1)

/-- Entries put in one after another. -/
def ofEntries (entries : List (κ × α)) : List (κ × α) :=
  entries.foldl (fun sofar e => put sofar e.1 e.2) []

theorem put_of_lt [Std.Asymm (· < · : κ → κ → Prop)] {entries : List (κ × α)} {key : κ}
    (h : ∀ e ∈ entries, e.1 < key) (a : α) : put entries key a = entries ++ [(key, a)] := by
  have hbefore : entries.filter (·.1 < key) = entries :=
    List.filter_eq_self.2 fun e he => by simpa using h e he
  have hafter : entries.filter (key < ·.1) = [] :=
    List.filter_eq_nil_iff.2 fun e he => by
      simpa using Std.Asymm.asymm (r := (· < ·)) e.1 key (h e he)
  rw [put, hbefore, hafter]

theorem ofEntries_of_increasing [Std.Asymm (· < · : κ → κ → Prop)] {entries : List (κ × α)}
    (h : entries.Pairwise fun e f => e.1 < f.1) : ofEntries entries = entries := by
  -- what was put in so far stands before all that is still to come
  suffices hfold : ∀ sofar rest : List (κ × α), sofar ++ rest = entries →
      rest.foldl (fun sofar e => put sofar e.1 e.2) sofar = entries from hfold [] entries rfl
  intro sofar rest hsplit
  induction rest generalizing sofar with
  | nil => simpa using hsplit
  | cons e rest ih =>
    have hlt : ∀ f ∈ sofar, f.1 < e.1 := by
      rw [← hsplit, List.pairwise_append] at h
      exact fun f hf => h.2.2 f hf e List.mem_cons_self
    rw [List.foldl_cons, put_of_lt hlt]
    refine ih _ ?_
    rw [← hsplit, List.append_assoc]
    rfl

end StoryBlanks.Ordered
