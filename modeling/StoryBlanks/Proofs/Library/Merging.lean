import Mathlib.Data.List.Pairwise
import StoryBlanks.Library.Keyed
import StoryBlanks.Proofs.Lint.Folder

/-!
# Merging libraries

Of two libraries that are merged, the second one decides what stands under a name that both have.
With that, libraries form a monoid in which every element is idempotent, and two of them commute if
they agree on the names that they share. So files that share no name can be loaded in any order.

Merging looks at the keys alone, and inserting at the names. The two fit together because every
library that is ever built keeps each template under its own name: it is the library `keyed` of one
whose templates are in the order of their names.

* `Library.merge_assoc`, `merge_self`, `Agree.merge_comm`: the algebra, from `ext_get?`.
* `Library.keyed`: the templates under their names; `insert_keyed`, `merge_keyed`, `ofText_eq`,
  `loadFiles_eq`: every operation on it is the one on the library without keys.
* `KeyedLibrary.Reached`, `Reached.exists_keyed`: what can be built is of this form.
* `KeyedLibrary.merge_of_reached`: merging as a right-biased union.
-/

namespace StoryBlanks

namespace Library

variable {l m n : Library} {t : Template} {name : String}

/-! ## The algebra of merging -/

theorem merge_empty (l : Library) : l.merge empty = l := rfl

theorem empty_merge (l : Library) : empty.merge l = l :=
  ext_get? fun name => by
    rw [get?_merge]
    exact Option.or_none

theorem merge_self (l : Library) : l.merge l = l :=
  ext_get? fun name => by rw [get?_merge, Option.or_self]

theorem merge_assoc (l m n : Library) : (l.merge m).merge n = l.merge (m.merge n) :=
  ext_get? fun name => by rw [get?_merge, get?_merge, get?_merge, get?_merge, Option.or_assoc]

/-- Under a name that both libraries have, both have the same template. -/
def Agree (l m : Library) : Prop :=
  ∀ name t u, l.get? name = some t → m.get? name = some u → t = u

instance : Std.Symm Agree := ⟨fun _ _ h name t u ht hu => (h name u t hu ht).symm⟩

theorem Agree.refl (l : Library) : l.Agree l :=
  fun _ _ _ ht hu => Option.some.inj (ht.symm.trans hu)

theorem Agree.merge_comm (h : l.Agree m) : l.merge m = m.merge l := by
  refine ext_get? fun name => ?_
  rw [get?_merge, get?_merge]
  cases hl : l.get? name with
  | none => rw [Option.or_none, Option.none_or]
  | some t =>
    cases hm : m.get? name with
    | none => rfl
    | some u => rw [h name t u hl hm]

theorem Agree.merge_right_comm (h : m.Agree n) (l : Library) :
    (l.merge m).merge n = (l.merge n).merge m := by
  rw [merge_assoc, h.merge_comm, merge_assoc]

/-- **Libraries that agree can be merged in any order.** -/
theorem foldl_merge_perm {ls ls' : List Library} (hperm : ls.Perm ls') (h : ls.Pairwise Agree)
    (l : Library) : ls.foldl merge l = ls'.foldl merge l :=
  hperm.foldl_eq' (fun _ hm _ hn =>
    (h.forall_of_forall (fun m _ => .refl m) hm hn).merge_right_comm) l

/-! ## Templates under their names -/

/-- The library with each template under its name. -/
def keyed (l : Library) : KeyedLibrary := ⟨l.templates.map fun t => (t.name, t)⟩

theorem mem_keyed : (name, t) ∈ l.keyed.entries ↔ t ∈ l.templates ∧ t.name = name := by
  constructor
  · intro h
    obtain ⟨u, hu, heq⟩ := List.mem_map.1 h
    obtain ⟨rfl, rfl⟩ := Prod.mk.inj heq
    exact ⟨hu, rfl⟩
  · rintro ⟨ht, rfl⟩
    exact List.mem_map_of_mem ht

theorem get?_keyed (l : Library) (name : String) : l.keyed.get? name = l.get? name := by
  rw [KeyedLibrary.get?, keyed, get?]
  induction l.templates with
  | nil => rfl
  | cons t ts ih =>
    rw [List.map_cons, List.lookup_cons]
    by_cases h : t.name = name
    · rw [List.find?_cons_of_pos (by simpa using h), beq_iff_eq.2 h.symm]
    · rw [List.find?_cons_of_neg (by simpa using h), beq_eq_false_iff_ne.2 (Ne.symm h), ih]

theorem names_keyed (l : Library) : l.keyed.names = l.names := List.map_map

theorem put_keyed (l : Library) (t : Template) : l.keyed.put t.name t = (l.put t).keyed := by
  simp only [KeyedLibrary.put, Ordered.put, keyed, put, List.filter_map, List.map_append,
    List.map_cons]
  rfl

theorem insert_keyed (l : Library) (t : Template) :
    l.keyed.insert t = (l.insert t).map keyed := by
  rw [KeyedLibrary.insert, insert, get?_keyed, put_keyed]
  by_cases h : t.name ∈ l.names
  · rw [if_pos (isSome_get?_iff.2 h), if_pos h]
    rfl
  · rw [if_neg (mt isSome_get?_iff.1 h), if_neg h]
    rfl

theorem merge_keyed (l m : Library) : l.keyed.merge m.keyed = (l.merge m).keyed := by
  rw [KeyedLibrary.merge, merge, keyed.eq_def m, List.foldl_map]
  induction m.templates generalizing l with
  | nil => rfl
  | cons t ts ih => rw [List.foldl_cons, List.foldl_cons, put_keyed, ih]

end Library

namespace KeyedLibrary

open Library (keyed)

variable {k : KeyedLibrary}

/-! ## Texts and files -/

theorem foldlM_insert_keyed (l : Library) (ts : List Template) :
    ts.foldlM insert l.keyed = (ts.foldlM Library.insert l).map keyed := by
  induction ts generalizing l with
  | nil => rfl
  | cons t ts ih =>
    rw [List.foldlM_cons, List.foldlM_cons, Library.insert_keyed]
    cases l.insert t with
    | error e => rfl
    | ok m => exact ih m

theorem ofText_eq (text : String) : ofText text = (Library.ofText text).map keyed := by
  rw [ofText, Library.ofText]
  cases readStored (List Template) text with
  | error e => rfl
  | ok ts => exact foldlM_insert_keyed .empty ts

theorem ofBytes_eq (bytes : ByteArray) : ofBytes bytes = (Library.ofBytes bytes).map keyed := by
  rw [ofBytes, Library.ofBytes]
  cases textOf bytes with
  | error e => rfl
  | ok text => exact ofText_eq text

/-- The linter loads a file into a library in the same way. -/
theorem loadFile_keyed (loading : Lint.Loading) (file : FoundFile) :
    loading.library.keyed.loadFile file = (loading.step file).library.keyed := by
  rw [Lint.library_step, loadFile, FoundFile.library?]
  by_cases hron : extension? file.name = some "ron"
  · rw [if_neg (not_not_intro hron), if_pos hron, ofBytes_eq]
    cases Library.ofBytes file.bytes with
    | error e => rfl
    | ok m => exact Library.merge_keyed loading.library m
  · rw [if_pos hron, if_neg hron]
    rfl

theorem loadFiles_eq (files : List FoundFile) :
    loadFiles files = (files.foldl Lint.Loading.step {}).library.keyed := by
  have hempty : empty = (({} : Lint.Loading).library).keyed := rfl
  rw [loadFiles, hempty]
  exact List.foldl_hom (fun loading : Lint.Loading => loading.library.keyed) loadFile_keyed

/-- No template of one file has the name of one of another file. -/
def Apart (files : List FoundFile) : Prop :=
  files.Pairwise fun f g => ∀ name ∈ (loadFiles [f]).names, name ∉ (loadFiles [g]).names

theorem names_loadFiles_singleton {file : FoundFile} {l : Library} (h : file.library? = some l) :
    (loadFiles [file]).names = l.names := by
  rw [loadFiles_eq, List.foldl_cons, List.foldl_nil, Lint.library_step, h, Option.elim_some,
    Library.empty_merge, Library.names_keyed]

theorem Apart.pairwise_agree {files : List FoundFile} (h : Apart files) :
    (files.filterMap FoundFile.library?).Pairwise Library.Agree := by
  rw [List.pairwise_filterMap]
  refine List.Pairwise.imp (fun hfg l hl m hm name t u ht hu => ?_) h
  rw [names_loadFiles_singleton hl, names_loadFiles_singleton hm] at hfg
  have hname : name ∈ l.names := Library.isSome_get?_iff.1 (Option.isSome_of_eq_some ht)
  have hname' : name ∈ m.names := Library.isSome_get?_iff.1 (Option.isSome_of_eq_some hu)
  exact absurd hname' (hfg name hname)

/-- **Files that are apart can be loaded in any order.** -/
theorem Apart.library_eq {files files' : List FoundFile} (h : Apart files)
    (hperm : files.Perm files') :
    (files.foldl Lint.Loading.step {}).library = (files'.foldl Lint.Loading.step {}).library := by
  rw [Lint.library_foldl_step, Lint.library_foldl_step,
    Library.foldl_merge_perm (hperm.filterMap _) h.pairwise_agree]

/-! ## What can be built -/

/-- The library that an attempt to insert leaves; a refusal leaves the one from before. -/
def offer (k : KeyedLibrary) (t : Template) : KeyedLibrary :=
  match k.insert t with
  | .ok m => m
  | .error _ => k

/-- What can be built with insertions, refused ones included, from texts, and by merging. -/
inductive Reached : KeyedLibrary → Prop
  | empty : Reached empty
  | offer {k : KeyedLibrary} (t : Template) (h : Reached k) : Reached (k.offer t)
  | ofText {text : String} {k : KeyedLibrary} (h : ofText text = .ok k) : Reached k
  | merge {k m : KeyedLibrary} (hk : Reached k) (hm : Reached m) : Reached (k.merge m)

/-- **Every library keeps its templates under their names, in the order of these.** -/
theorem Reached.exists_keyed (h : Reached k) : ∃ l : Library, k = l.keyed := by
  induction h with
  | empty => exact ⟨.empty, rfl⟩
  | offer t h ih =>
    obtain ⟨l, rfl⟩ := ih
    rw [KeyedLibrary.offer, Library.insert_keyed]
    cases l.insert t with
    | ok m => exact ⟨m, rfl⟩
    | error e => exact ⟨l, rfl⟩
  | @ofText text k h =>
    rw [ofText_eq] at h
    cases hl : Library.ofText text with
    | ok l =>
      rw [hl] at h
      exact ⟨l, (Except.ok.inj h).symm⟩
    | error e =>
      rw [hl] at h
      cases h
  | merge hk hm ihk ihm =>
    obtain ⟨l, rfl⟩ := ihk
    obtain ⟨m, rfl⟩ := ihm
    exact ⟨l.merge m, Library.merge_keyed l m⟩

/-- Templates stand under their own names, in the order of these, and are found under them. A
template whose name is there is refused, and any other one goes under its name. -/
structure Sound (k : KeyedLibrary) : Prop where
  named : ∀ e ∈ k.entries, e.1 = e.2.name
  increasing : k.names.Pairwise (· < ·)
  isSome_iff : ∀ name, (k.get? name).isSome = true ↔ name ∈ k.names
  get?_iff : ∀ name t, k.get? name = some t ↔ (name, t) ∈ k.entries
  refused : ∀ t, t.name ∈ k.names →
    k.insert t = .error (.duplicateTemplate t.name) ∧ k.offer t = k
  taken : ∀ t, t.name ∉ k.names → k.insert t = .ok (k.offer t) ∧
    ∀ name, (k.offer t).get? name = if name = t.name then some t else k.get? name

theorem sound_keyed (l : Library) : l.keyed.Sound := by
  refine ⟨?named, ?increasing, fun name => ?isSome_iff, fun name t => ?get?_iff,
    fun t ht => ?refused, fun t ht => ?taken⟩
  case named => exact fun e he => (Library.mem_keyed.1 he).2.symm
  case increasing =>
    rw [Library.names_keyed, Library.names, List.pairwise_map]
    exact l.increasing
  case isSome_iff => rw [Library.get?_keyed, Library.names_keyed, Library.isSome_get?_iff]
  case get?_iff => rw [Library.get?_keyed, Library.get?_eq_some_iff, Library.mem_keyed]
  case refused =>
    rw [Library.names_keyed] at ht
    have hinsert : l.keyed.insert t = .error (.duplicateTemplate t.name) := by
      rw [Library.insert_keyed, Library.insert, if_pos ht]
      rfl
    exact ⟨hinsert, by rw [offer, hinsert]⟩
  case taken =>
    rw [Library.names_keyed] at ht
    have hinsert : l.keyed.insert t = .ok (l.put t).keyed := by
      rw [Library.insert_keyed, Library.insert, if_neg ht]
      rfl
    have hoffer : l.keyed.offer t = (l.put t).keyed := by rw [offer, hinsert]
    refine ⟨by rw [hinsert, hoffer], fun name => ?_⟩
    rw [hoffer, Library.get?_keyed, Library.get?_put, Library.get?_keyed]

/-- **Merging is a right-biased union of templates under their names.** In every library that can
be built, templates stand under their own names, which are in strict order. Of two such libraries
that are merged, the second one decides. Merging is associative and idempotent, the empty library
changes nothing, and two libraries that have no name with different templates can be merged either
way. So files can be loaded in any order, and the linter may list folders as it likes, if no
template of one file has the name of one of another. -/
theorem merge_of_reached :
    (∀ k, Reached k → k.Sound) ∧
    (∀ k m, Reached k → Reached m →
      (∀ name, (k.merge m).get? name = (m.get? name).or (k.get? name)) ∧
      k.merge k = k ∧ k.merge empty = k ∧ empty.merge k = k ∧
      ((∀ name t u, k.get? name = some t → m.get? name = some u → t = u) →
        k.merge m = m.merge k) ∧
      ∀ n, Reached n → (k.merge m).merge n = k.merge (m.merge n)) ∧
    (∀ files files' : List FoundFile, files.Perm files' → Apart files →
      loadFiles files = loadFiles files') ∧
    ∀ (path : String) (entries : List (String × FileTree)),
      (Lint.loadFolder path entries).library.keyed = loadFiles (FileTree.filesOf path entries) ∧
      ∀ entries', FileTree.Shuffle entries entries' → Apart (FileTree.filesOf path entries) →
        (Lint.loadFolder path entries').library = (Lint.loadFolder path entries).library := by
  refine ⟨fun k hk => ?_, fun k m hk hm => ?_, fun files files' hperm hapart => ?_,
    fun path entries => ⟨?_, fun entries' hshuffle hapart => ?_⟩⟩
  · obtain ⟨l, rfl⟩ := hk.exists_keyed
    exact sound_keyed l
  · obtain ⟨l, rfl⟩ := hk.exists_keyed
    obtain ⟨m, rfl⟩ := hm.exists_keyed
    have hempty : empty = Library.empty.keyed := rfl
    simp only [hempty, Library.merge_keyed, Library.get?_keyed, Library.get?_merge,
      Library.merge_self, Library.merge_empty, Library.empty_merge, implies_true, true_and]
    refine ⟨fun h => by rw [Library.Agree.merge_comm h], fun n hn => ?_⟩
    obtain ⟨n, rfl⟩ := hn.exists_keyed
    rw [Library.merge_keyed, Library.merge_keyed, Library.merge_keyed, Library.merge_assoc]
  · rw [loadFiles_eq, loadFiles_eq, hapart.library_eq hperm]
  · exact (loadFiles_eq _).symm
  · exact (hapart.library_eq (hshuffle.perm_filesOf path)).symm

example :
    let warm : Template := ⟨"forge", ["The forge is warm."]⟩
    let cold : Template := ⟨"forge", ["The forge is cold."]⟩
    ((empty.put "forge" warm).merge (empty.put "forge" cold)).get? "forge" = some cold := by
  decide

end KeyedLibrary

end StoryBlanks
