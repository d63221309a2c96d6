import StoryBlanks.Lint.Command
import StoryBlanks.Proofs.RecordText.RoundTrip

/-!
# Linting a folder

A folder lists its entries in no particular order, and of templates with one name the one that was
loaded last counts. So a run that finds no error speaks for the templates that no later file
overrides; it speaks for all of them if the files that share a name agree on it, or if it finds no
error in whatever order the folder lists its entries.

* `FileTree.Shuffle`: the same folder, listed in another order, with the same files
  (`Shuffle.perm_filesOf`), any of which can come last (`exists_shuffle_last`).
* `Lint.HeldLast`: the templates that count; `Lint.mem_loadFolder`: a folder is loaded as these.
* `Lint.exit_eq_zero_of_folder`: what an exit without errors says, in one order and in all.
-/

namespace StoryBlanks

/-! ## Folders listed in another order -/

namespace FileTree

/-- The same entries in another order, in the folder and in all folders below it. -/
inductive Shuffle : List (String × FileTree) → List (String × FileTree) → Prop
  | nil : Shuffle [] []
  | keep (entry : String × FileTree) {es fs : List (String × FileTree)} (h : Shuffle es fs) :
    Shuffle (entry :: es) (entry :: fs)
  | enter (name : String) {inner inner' es fs : List (String × FileTree)}
    (hinner : Shuffle inner inner') (h : Shuffle es fs) :
    Shuffle ((name, .folder inner) :: es) ((name, .folder inner') :: fs)
  | swap (entry other : String × FileTree) (es : List (String × FileTree)) :
    Shuffle (entry :: other :: es) (other :: entry :: es)
  | trans {es fs gs : List (String × FileTree)} (h : Shuffle es fs) (h' : Shuffle fs gs) :
    Shuffle es gs

variable {es fs inner inner' : List (String × FileTree)} {file : FoundFile}

theorem Shuffle.refl (es : List (String × FileTree)) : Shuffle es es := by
  induction es with
  | nil => exact .nil
  | cons entry es ih => exact .keep entry ih

/-- The first entry comes last. -/
theorem Shuffle.rotate (entry : String × FileTree) (es : List (String × FileTree)) :
    Shuffle (entry :: es) (es ++ [entry]) := by
  induction es with
  | nil => exact .refl [entry]
  | cons other es ih => exact .trans (.swap entry other es) (.keep other ih)

theorem filesOf_append (path : String) (es fs : List (String × FileTree)) :
    filesOf path (es ++ fs) = filesOf path es ++ filesOf path fs := by
  induction es with
  | nil => rfl
  | cons entry es ih => rw [List.cons_append, filesOf, filesOf, ih, List.append_assoc]

/-- Whatever the order, the files are the same. -/
theorem Shuffle.perm_filesOf (h : Shuffle es fs) (path : String) :
    (filesOf path es).Perm (filesOf path fs) := by
  induction h generalizing path with
  | nil => exact .nil
  | keep entry h ih =>
    rw [filesOf, filesOf]
    exact (ih path).append_left _
  | enter name hinner h ihinner ih =>
    rw [filesOf, filesOf, files, files]
    exact (ihinner _).append (ih path)
  | swap entry other es =>
    simp only [filesOf, ← List.append_assoc]
    exact List.perm_append_comm.append_right _
  | trans h h' ih ih' => exact (ih path).trans (ih' path)

/-- Any file below a folder comes last in some order. -/
theorem exists_shuffle_last {path : String} (h : file ∈ filesOf path es) :
    ∃ fs before, Shuffle es fs ∧ filesOf path fs = before ++ [file] := by
  -- the induction is on the size, as the file may stand in a folder of its own
  induction hsize : sizeOf es using Nat.strongRecOn generalizing path es with
  | _ size ih =>
    subst hsize
    rcases es with _ | ⟨⟨name, tree⟩, es⟩
    · cases h
    rw [filesOf, List.mem_append] at h
    rcases h with h | h
    · cases tree with
      | file bytes =>
        refine ⟨es ++ [(name, .file bytes)], filesOf path es, .rotate _ es, ?_⟩
        rw [files, List.mem_singleton] at h
        rw [filesOf_append, h]
        rfl
      | folder inner =>
        have hlt : sizeOf inner < sizeOf ((name, FileTree.folder inner) :: es) := by
          simp only [List.cons.sizeOf_spec, Prod.mk.sizeOf_spec, folder.sizeOf_spec]
          omega
        obtain ⟨inner', before, hshuffle, hlast⟩ := ih _ hlt h rfl
        refine ⟨es ++ [(name, .folder inner')], filesOf path es ++ before,
          .trans (.enter name hshuffle (.refl es)) (.rotate _ es), ?_⟩
        rw [filesOf_append, filesOf, files, hlast, filesOf, List.append_nil, List.append_assoc]
    · have hlt : sizeOf es < sizeOf ((name, tree) :: es) := by
        rw [List.cons.sizeOf_spec]
        omega
      obtain ⟨fs, before, hshuffle, hlast⟩ := ih _ hlt h rfl
      refine ⟨(name, tree) :: fs, tree.files (entryPath path name) name ++ before,
        .keep _ hshuffle, ?_⟩
      rw [filesOf, hlast, List.append_assoc]

end FileTree

/-! ## What a folder is loaded as -/

/-- The library that a file is loaded as, if it is a record file that can be loaded. -/
def FoundFile.library? (file : FoundFile) : Option Library :=
  if extension? file.name = some "ron" then (Library.ofBytes file.bytes).toOption else none

namespace Lint

/-- Some file that can be loaded holds the template. -/
def Held (files : List FoundFile) (t : Template) : Prop :=
  ∃ file ∈ files, ∃ l, file.library? = some l ∧ t ∈ l.templates

/-- A file that can be loaded holds the template, and no later one holds any of that name. -/
inductive HeldLast : List FoundFile → Template → Prop
  | here {file : FoundFile} {files : List FoundFile} {l : Library} {t : Template}
    (hload : file.library? = some l) (ht : t ∈ l.templates)
    (hlast : ∀ u, Held files u → u.name ≠ t.name) : HeldLast (file :: files) t
  | later (file : FoundFile) {files : List FoundFile} {t : Template} (h : HeldLast files t) :
    HeldLast (file :: files) t

variable {files files' : List FoundFile} {t : Template} {catalog? : Option Catalog}

theorem held_cons {file : FoundFile} : Held (file :: files) t ↔
    (∃ l, file.library? = some l ∧ t ∈ l.templates) ∨ Held files t := by
  simp only [Held, List.mem_cons, or_and_right, exists_or, exists_eq_left]

theorem not_held_nil : ¬ Held [] t := by
  rintro ⟨file, hfile, -⟩
  cases hfile

theorem Held.perm (h : Held files t) (hperm : files.Perm files') : Held files' t := by
  obtain ⟨file, hfile, hload⟩ := h
  exact ⟨file, hperm.mem_iff.1 hfile, hload⟩

theorem HeldLast.held (h : HeldLast files t) : Held files t := by
  induction h with
  | here hload ht hlast => exact held_cons.2 (.inl ⟨_, hload, ht⟩)
  | later file h ih => exact held_cons.2 (.inr ih)

theorem HeldLast.append (before : List FoundFile) (h : HeldLast files t) :
    HeldLast (before ++ files) t := by
  induction before with
  | nil => exact h
  | cons file before ih => exact .later file ih

/-- Of the templates of one name, one counts. -/
theorem Held.exists_last (h : Held files t) : ∃ u, HeldLast files u ∧ u.name = t.name := by
  induction files generalizing t with
  | nil => exact absurd h not_held_nil
  | cons file files ih =>
    by_cases hlater : ∃ u, Held files u ∧ u.name = t.name
    · obtain ⟨u, hu, hname⟩ := hlater
      obtain ⟨v, hv, hsame⟩ := ih hu
      exact ⟨v, .later file hv, hsame.trans hname⟩
    · rcases held_cons.1 h with ⟨l, hload, ht⟩ | h
      · exact ⟨t, .here hload ht fun u hu hname => hlater ⟨u, hu, hname⟩, rfl⟩
      · exact absurd ⟨t, h, rfl⟩ hlater

theorem heldLast_cons {file : FoundFile} : HeldLast (file :: files) t ↔
    HeldLast files t ∨ (∃ l, file.library? = some l ∧ t ∈ l.templates) ∧
      ∀ u, Held files u → u.name ≠ t.name := by
  constructor
  · intro h
    cases h with
    | here hload ht hlast => exact .inr ⟨⟨_, hload, ht⟩, hlast⟩
    | later _ h => exact .inl h
  · rintro (h | ⟨⟨l, hload, ht⟩, hlast⟩)
    · exact .later file h
    · exact .here hload ht hlast

theorem library_step (loading : Loading) (file : FoundFile) : (loading.step file).library =
    file.library?.elim loading.library loading.library.merge := by
  unfold Loading.step FoundFile.library?
  by_cases hron : extension? file.name = some "ron"
  · rw [if_neg (not_not_intro hron), if_pos hron]
    split <;> next heq => rw [heq]; rfl
  · rw [if_pos hron, if_neg hron]
    rfl

theorem library_foldl_step (loading : Loading) (files : List FoundFile) :
    (files.foldl Loading.step loading).library =
      (files.filterMap FoundFile.library?).foldl Library.merge loading.library := by
  induction files generalizing loading with
  | nil => rfl
  | cons file files ih =>
    rw [List.foldl_cons, ih, library_step]
    cases h : file.library? with
    | none => rw [List.filterMap_cons_none h, Option.elim_none]
    | some l => rw [List.filterMap_cons_some h, Option.elim_some, List.foldl_cons]

theorem mem_step (loading : Loading) (file : FoundFile) :
    t ∈ (loading.step file).library.templates ↔
      (∃ l, file.library? = some l ∧ t ∈ l.templates) ∨ t ∈ loading.library.templates ∧
        ∀ u, (∃ l, file.library? = some l ∧ u ∈ l.templates) → u.name ≠ t.name := by
  rw [library_step]
  cases file.library? with
  | none => simp
  | some l => simp [Library.mem_merge]

/-- What is loaded file by file is what counts among the files, and what was there before under
other names. -/
theorem mem_foldl_step (loading : Loading) :
    t ∈ (files.foldl Loading.step loading).library.templates ↔
      HeldLast files t ∨
        t ∈ loading.library.templates ∧ ∀ u, Held files u → u.name ≠ t.name := by
  induction files generalizing loading with
  | nil =>
    have hnone : ¬ HeldLast [] t := fun h => not_held_nil h.held
    rw [List.foldl_nil, or_iff_right hnone, and_iff_left fun u hu => absurd hu not_held_nil]
  | cons file files ih =>
    -- the first file is loaded before all others, which override it
    have hnames : (∀ u, Held (file :: files) u → u.name ≠ t.name) ↔
        (∀ u, (∃ l, file.library? = some l ∧ u ∈ l.templates) → u.name ≠ t.name) ∧
          ∀ u, Held files u → u.name ≠ t.name := by
      simp only [held_cons, or_imp, forall_and]
    rw [List.foldl_cons, ih, mem_step, heldLast_cons, hnames, or_and_right, and_assoc, or_assoc]

/-- **A folder is loaded as the templates that count among its files.** -/
theorem mem_loadFolder {path : String} {entries : List (String × FileTree)} :
    t ∈ (loadFolder path entries).library.templates ↔
      HeldLast (FileTree.filesOf path entries) t := by
  rw [loadFolder, mem_foldl_step, or_iff_left]
  rintro ⟨hempty, -⟩
  cases hempty

/-! ## Two files with one name -/

/-- A record file with one template in it. -/
def recordOf (name : String) (t : Template) : String × FileTree :=
  (name, .file (RecordText.write [t]).toUTF8)

theorem heldLast_pair (path : String) {first last : String} {u v : Template}
    (hfirst : extension? first = some "ron") (hlast : extension? last = some "ron")
    (hname : u.name = v.name) :
    (∀ t, HeldLast (FileTree.filesOf path [recordOf first u, recordOf last v]) t ↔ t = v) ∧
      ∀ t, Held (FileTree.filesOf path [recordOf first u, recordOf last v]) t ↔
        t = u ∨ t = v := by
  have hload : ∀ name t, extension? name = some "ron" →
      (⟨entryPath path name, name, (RecordText.write [t]).toUTF8⟩ : FoundFile).library? =
        some (Library.empty.put t) := by
    intro name t hron
    rw [FoundFile.library?, if_pos hron, Library.ofBytes_write]
    rfl
  have hmem : ∀ s t, s ∈ (Library.empty.put t).templates ↔ s = t := by
    intro s t
    rw [Library.mem_put, or_iff_left]
    rintro ⟨-, hempty⟩
    cases hempty
  have hnil : ∀ t, ¬ HeldLast [] t := fun t h => not_held_nil h.held
  simp only [FileTree.filesOf, FileTree.files, recordOf, List.cons_append, List.nil_append,
    heldLast_cons, held_cons, hload first u hfirst, hload last v hlast, Option.some.injEq,
    exists_eq_left', hmem, hnil, not_held_nil, false_or, or_false, forall_eq, implies_true,
    false_imp_iff, and_true]
  intro t
  rw [or_iff_left]
  rintro ⟨rfl, hne⟩
  exact hne hname.symm

/-! ## The exit status -/

/-- The catalog that a run has, if its arguments name one. -/
inductive HasCatalog (disk : Disk) (args : List String) : Option Catalog → Prop
  | unnamed (h : catalogPath? args = none) : HasCatalog disk args none
  | loaded {path : String} {catalog : Catalog} (h : catalogPath? args = some path)
    (hload : Catalog.load disk path = .ok catalog) : HasCatalog disk args (some catalog)

/-- Files that share a name agree on whether a template of that name has errors. -/
def Agree (files : List FoundFile) (catalog? : Option Catalog) : Prop :=
  ∀ t u, Held files t → Held files u → t.name = u.name →
    t.lintErrors catalog? = [] → u.lintErrors catalog? = []

theorem Agree.perm (h : Agree files catalog?) (hperm : files.Perm files') :
    Agree files' catalog? :=
  fun t u ht hu => h t u (ht.perm hperm.symm) (hu.perm hperm.symm)

/-- If the files agree, the templates that count speak for all. -/
theorem Agree.heldLast_iff (h : Agree files catalog?) :
    (∀ t, HeldLast files t → t.lintErrors catalog? = []) ↔
      ∀ t, Held files t → t.lintErrors catalog? = [] := by
  refine ⟨fun hlast t ht => ?_, fun hall t ht => hall t ht.held⟩
  obtain ⟨u, hu, hname⟩ := ht.exists_last
  exact h u t hu.held ht hname (hlast u hu)

theorem exit_finish (loading : Loading) (catalog? : Option Catalog) :
    ((finish loading catalog?).exit = 0 ↔
      ∀ t ∈ loading.library.templates, t.lintErrors catalog? = []) ∧
    (finish loading catalog?).exit ≤ 1 := by
  have hexit : (finish loading catalog?).exit =
      if (messages loading.library catalog?).1.isEmpty then 0 else 1 := rfl
  have hnil : (messages loading.library catalog?).1 = [] ↔
      ∀ t ∈ loading.library.templates, t.lintErrors catalog? = [] := List.flatMap_eq_nil_iff
  rw [hexit, ← hnil, ← List.isEmpty_iff]
  cases (messages loading.library catalog?).1.isEmpty <;> decide

variable {disk : Disk} {target : String} {args : List String}
  {entries entries' : List (String × FileTree)}

theorem run_folder (hhelp : target ≠ "--help") (hshort : target ≠ "-h")
    (hfolder : disk target = some (.folder entries)) (hcatalog : HasCatalog disk args catalog?) :
    run disk (target :: args) = finish (loadFolder target entries) catalog? := by
  unfold run
  split
  · next heq => cases heq
  · next heq => exact absurd (List.cons.inj heq).1 hhelp
  · next heq => exact absurd (List.cons.inj heq).1 hshort
  · next heq =>
    obtain ⟨rfl, rfl⟩ := List.cons.inj heq
    rw [loadTarget, hfolder]
    cases hcatalog with
    | unnamed hpath => rw [hpath]
    | loaded hpath hload =>
      rw [hpath]
      dsimp only
      rw [hload]

theorem exit_run_folder (hhelp : target ≠ "--help") (hshort : target ≠ "-h")
    (hfolder : disk target = some (.folder entries)) (hcatalog : HasCatalog disk args catalog?) :
    ((run disk (target :: args)).exit = 0 ↔
      ∀ t, HeldLast (FileTree.filesOf target entries) t → t.lintErrors catalog? = []) ∧
    (run disk (target :: args)).exit ≤ 1 := by
  simp only [run_folder hhelp hshort hfolder hcatalog, ← mem_loadFolder]
  exact exit_finish _ _

/-- The disk, with the entries of a folder listed anew. -/
def relisted (disk : Disk) (target : String) (entries : List (String × FileTree)) : Disk :=
  fun path => if path = target then some (.folder entries) else disk path

/-- A folder is no catalog, so listing it anew does not change the catalog. -/
theorem HasCatalog.relisted (h : HasCatalog disk args catalog?)
    (hfolder : disk target = some (.folder entries)) (entries' : List (String × FileTree)) :
    HasCatalog (relisted disk target entries') args catalog? := by
  cases h with
  | unnamed hpath => exact .unnamed hpath
  | @loaded path catalog hpath hload =>
    have hne : path ≠ target := by
      rintro rfl
      rw [Catalog.load, Disk.read, hfolder] at hload
      cases hload
    refine .loaded hpath ?_
    rw [Catalog.load, Disk.read, Lint.relisted, if_neg hne]
    exact hload

/-- **What an exit without errors says of a folder.** The run exits with zero exactly if every
template that a file holds, and that no later file overrides, has no errors. If the files that
share a name agree, it does so exactly if no template of any file has errors, and exits alike in
whatever order the folders list their entries. And the run exits with zero in every order exactly if
no template of any file has errors. -/
theorem exit_eq_zero_of_folder (hhelp : target ≠ "--help") (hshort : target ≠ "-h")
    (hfolder : disk target = some (.folder entries)) (hcatalog : HasCatalog disk args catalog?) :
    ((run disk (target :: args)).exit = 0 ↔
      ∀ t, HeldLast (FileTree.filesOf target entries) t → t.lintErrors catalog? = []) ∧
    (Agree (FileTree.filesOf target entries) catalog? →
      ((run disk (target :: args)).exit = 0 ↔
        ∀ t, Held (FileTree.filesOf target entries) t → t.lintErrors catalog? = []) ∧
      ∀ entries', FileTree.Shuffle entries entries' →
        (run (relisted disk target entries') (target :: args)).exit =
          (run disk (target :: args)).exit) ∧
    ((∀ entries', FileTree.Shuffle entries entries' →
        (run (relisted disk target entries') (target :: args)).exit = 0) ↔
      ∀ t, Held (FileTree.filesOf target entries) t → t.lintErrors catalog? = []) := by
  have hexit := fun entries' =>
    exit_run_folder hhelp hshort (if_pos rfl) (hcatalog.relisted hfolder entries')
  obtain ⟨hzero, hone⟩ := exit_run_folder hhelp hshort hfolder hcatalog
  refine ⟨hzero, fun hagree => ⟨hzero.trans hagree.heldLast_iff, fun entries' hshuffle => ?_⟩,
    fun hall t ht => ?_, fun hall entries' hshuffle => ?_⟩
  · have hperm := hshuffle.perm_filesOf target
    obtain ⟨hzero', hone'⟩ := hexit entries'
    have hsame : (run (relisted disk target entries') (target :: args)).exit = 0 ↔
        (run disk (target :: args)).exit = 0 := by
      rw [hzero, hzero', hagree.heldLast_iff, (hagree.perm hperm).heldLast_iff]
      exact forall_congr' fun t =>
        imp_congr_left ⟨fun h => h.perm hperm.symm, fun h => h.perm hperm⟩
    omega
  · obtain ⟨file, hfile, l, hload, ht⟩ := ht
    obtain ⟨entries', before, hshuffle, hlast⟩ := FileTree.exists_shuffle_last hfile
    refine (hexit entries').1.1 (hall entries' hshuffle) t ?_
    rw [hlast]
    exact .append before (.here hload ht fun u hu => absurd hu not_held_nil)
  · refine (hexit entries').1.2 fun t ht => hall t (ht.held.perm ?_)
    exact (hshuffle.perm_filesOf target).symm

/-- Two clean templates of one name, with a catalog: whichever is loaded last, the run finds no
error. -/
theorem exit_eq_zero_of_folder_agreeing :
    let cow : Entity := { name := "Cow", kind := .creature }
    let grazing : Template := ⟨"meadow", ["\x7bcreature:x\x7d grazes."]⟩
    let asleep : Template := ⟨"meadow", ["\x7bcreature:x\x7d sleeps."]⟩
    let catalog : Catalog := ⟨[cow], by decide⟩
    let entries := [recordOf "a.ron" grazing, recordOf "b.ron" asleep]
    let disk := relisted (fun path =>
      if path = "c.ron" then some (.file (RecordText.write [cow]).toUTF8) else none) "d" entries
    disk "d" = some (.folder entries) ∧ HasCatalog disk ["--catalog", "c.ron"] (some catalog) ∧
      Agree (FileTree.filesOf "d" entries) (some catalog) ∧
      ∀ entries', FileTree.Shuffle entries entries' →
        (run (relisted disk "d" entries') ["d", "--catalog", "c.ron"]).exit = 0 := by
  intro cow grazing asleep catalog entries disk
  have hgrazing : grazing.lintErrors (some catalog) = [] := by decide +kernel
  have hasleep : asleep.lintErrors (some catalog) = [] := by decide +kernel
  have ha : extension? "a.ron" = some "ron" := by decide +kernel
  have hb : extension? "b.ron" = some "ron" := by decide +kernel
  have hname : grazing.name = asleep.name := rfl
  obtain ⟨-, hheld⟩ := heldLast_pair "d" ha hb hname
  have hall : ∀ t, Held (FileTree.filesOf "d" entries) t → t.lintErrors (some catalog) = [] := by
    intro t ht
    rcases (hheld t).1 ht with rfl | rfl
    · exact hgrazing
    · exact hasleep
  have hfolder : disk "d" = some (.folder entries) := if_pos rfl
  have hload : Catalog.load disk "c.ron" = .ok catalog := by
    have hread : disk.read "c.ron" = .ok (RecordText.write [cow]).toUTF8 := rfl
    rw [Catalog.load, hread]
    exact Catalog.ofBytes_write [cow]
  have hcatalog : HasCatalog disk ["--catalog", "c.ron"] (some catalog) := .loaded rfl hload
  obtain ⟨-, -, horders⟩ := exit_eq_zero_of_folder (by decide) (by decide) hfolder hcatalog
  exact ⟨hfolder, hcatalog, fun t u _ hu _ _ => hall u hu, horders.2 hall⟩

/-- A template with an unclosed brace passes where another of its name is loaded later, and fails
where it is loaded last itself. -/
theorem exit_eq_zero_of_overridden :
    let faulty : Template := ⟨"t", ["\x7bcharacter:x"]⟩
    let clean : Template := ⟨"t", ["\x7bcharacter:x\x7d waits."]⟩
    let entries := [recordOf "a.ron" faulty, recordOf "b.ron" clean]
    let entries' := [recordOf "b.ron" clean, recordOf "a.ron" faulty]
    FileTree.Shuffle entries entries' ∧
      (run (relisted (fun _ => none) "d" entries) ["d"]).exit = 0 ∧
      (run (relisted (fun _ => none) "d" entries') ["d"]).exit = 1 ∧
      Held (FileTree.filesOf "d" entries) faulty ∧ faulty.lintErrors none ≠ [] := by
  intro faulty clean entries entries'
  have herrors : faulty.lintErrors none ≠ [] := by decide +kernel
  have hclean : clean.lintErrors none = [] := by decide +kernel
  have ha : extension? "a.ron" = some "ron" := by decide +kernel
  have hb : extension? "b.ron" = some "ron" := by decide +kernel
  have hname : faulty.name = clean.name := rfl
  obtain ⟨hab, hheld⟩ := heldLast_pair "d" ha hb hname
  obtain ⟨hba, -⟩ := heldLast_pair "d" hb ha hname.symm
  have hexit : ∀ es, ((run (relisted (fun _ => none) "d" es) ["d"]).exit = 0 ↔
      ∀ t, HeldLast (FileTree.filesOf "d" es) t → t.lintErrors none = []) ∧
        (run (relisted (fun _ => none) "d" es) ["d"]).exit ≤ 1 := fun es =>
    exit_run_folder (by decide) (by decide) (if_pos rfl) (.unnamed rfl)
  refine ⟨.swap _ _ _, ?_, ?_, (hheld faulty).2 (.inl rfl), herrors⟩
  · refine (hexit entries).1.2 fun t ht => ?_
    rw [(hab t).1 ht]
    exact hclean
  · have hne : (run (relisted (fun _ => none) "d" entries') ["d"]).exit ≠ 0 := fun hzero =>
      herrors ((hexit entries').1.1 hzero faulty ((hba faulty).2 rfl))
    have hone := (hexit entries').2
    omega

end Lint

end StoryBlanks
