import StoryBlanks.Proofs.Selection.Answers
import StoryBlanks.Selection.Grouped

/-!
# A kind is in use while one of its names is

The names in use are stored by kind, and a name that is let go takes its kind along if it was the
last. So no kind is ever listed without a name, and a selection that stores its names in this way
shows the same as one that keeps them in a single set. What is stored is what is bound: the kinds
listed are those of the entities bound, and so are the names under each.

* `GroupedUsage.Pruned`: no kind is listed without a name; `Pruned.erase`: how this is kept.
* `GroupedUsage.Lists`: names by kind and a set of names.
* `GroupedSelection.StandsFor`: a selection of either sort; `StandsFor.step`: one operation on both,
  with its answer.
* `seen_eq`: runs of both; `exact_run`: what is stored after a run.
-/

namespace StoryBlanks

/-! ## Names by kind and names in one set -/

namespace GroupedUsage

/-- No kind is listed without a name. -/
def Pruned (u : GroupedUsage) : Prop :=
  ∀ kind names, u.names? kind = some names → names.keys ≠ []

/-- The names under the kinds are those of a set, and no kind is listed without a name. -/
structure Lists (u : GroupedUsage) (v : Usage) : Prop where
  has_iff : ∀ kind name, u.Has kind name ↔ (kind, name) ∈ v.held
  pruned : u.Pruned

variable {u : GroupedUsage} {v : Usage}

theorem mem_held_flat {kind : Kind} {name : String} :
    (kind, name) ∈ u.flat.held ↔ u.Has kind name := by
  simp [flat, mem_names, Kind.mem_all]

theorem uses_iff_has {name : String} : u.uses name = true ↔ ∃ kind, u.Has kind name := by
  simp [uses, Has, Kind.mem_all, Option.any_eq_true]

namespace Pruned

theorem set (h : u.Pruned) {kind : Kind} {names? : Option NameSet}
    (hnames : ∀ names, names? = some names → names.keys ≠ []) : (u.set kind names?).Pruned := by
  intro k names hk
  rw [names?_set] at hk
  split at hk
  · exact hnames names hk
  · exact h k names hk

theorem insert (h : u.Pruned) (kind : Kind) (name : String) : (u.insert kind name).Pruned := by
  refine h.set fun names hnames => ?_
  obtain rfl := Option.some.inj hnames
  exact List.ne_nil_of_mem (NameMap.mem_keys_insert.2 (.inl rfl))

/-- **The last name takes its kind along.** -/
theorem erase (h : u.Pruned) (kind : Kind) (name : String) : (u.erase kind name).Pruned := by
  unfold GroupedUsage.erase
  split
  · exact h
  · dsimp only
    split
    · exact h.set fun names hnames => by cases hnames
    · next hleft =>
      refine h.set fun names hnames hnil => hleft ?_
      obtain rfl := Option.some.inj hnames
      exact List.isEmpty_iff.2 hnil

end Pruned

namespace Lists

theorem empty : GroupedUsage.empty.Lists .empty where
  has_iff kind name := iff_of_false (not_has_empty kind name) List.not_mem_nil
  pruned kind names h := by cases h

theorem insert (h : u.Lists v) (kind : Kind) (name : String) :
    (u.insert kind name).Lists (v.insert kind name) where
  has_iff k n := by rw [has_insert, Usage.mem_held_insert, h.has_iff]
  pruned := h.pruned.insert kind name

theorem erase (h : u.Lists v) (kind : Kind) (name : String) :
    (u.erase kind name).Lists (v.erase kind name) where
  has_iff k n := by rw [has_erase, Usage.mem_held_erase, h.has_iff]
  pruned := h.pruned.erase kind name

/-- The names under a kind are the same, and both answer with nothing at all when there are none. -/
theorem names?_eq (h : u.Lists v) (kind : Kind) :
    (u.names? kind).map (fun names => Text.sorted names.keys) = v.names? kind := by
  have hflat : u.flat.names? kind = v.names? kind :=
    Usage.names?_congr (fun e => mem_held_flat.trans (h.has_iff e.1 e.2)) kind
  have hunder : (u.flat.held.filterMap fun e => if e.1 = kind then some e.2 else none) =
      u.names kind := by
    cases kind <;> simp [flat, Kind.all, List.filterMap_append, List.filterMap_map]
  rw [← hflat, Usage.names?, hunder, names]
  cases hnames : u.names? kind with
  | none => rfl
  | some names =>
    obtain ⟨name, others, hcons⟩ := List.exists_cons_of_ne_nil (h.pruned kind names hnames)
    simp only [Option.map_some, Option.getD_some, hcons]

theorem uses_eq (h : u.Lists v) (name : String) : u.uses name = v.uses name := by
  rw [Bool.eq_iff_iff, uses_iff_has, Usage.uses_iff]
  exact exists_congr fun kind => h.has_iff kind name

end Lists

end GroupedUsage

namespace GroupedSelection

variable {s : GroupedSelection} {t : Selection} {tag : Tag} {entity : Entity}

/-! ## Operations -/

/-- The selection that an attempt to bind leaves; a failure leaves the one from before. -/
def afterBind (s : GroupedSelection) :
    Except BindError (BindOutcome × GroupedSelection) → GroupedSelection
  | .ok (_, s') => s'
  | .error _ => s

/-- The selection after one operation. -/
def step (s : GroupedSelection) : Selection.Op → GroupedSelection
  | .bind tag entity => s.afterBind (s.bind tag entity)
  | .unbind name => (s.unbind name).2
  | .clear => s.clear
  | .relocate locate => (s.relocate locate).2

/-- What a selection answers to an operation. -/
def answer (s : GroupedSelection) : Selection.Op → Selection.Answer
  | .bind tag entity => .bind ((s.bind tag entity).map Prod.fst)
  | .unbind name => .unbind (s.unbind name).1
  | .clear => .clear
  | .relocate locate => .relocate (s.relocate locate).1

/-- The selection after a run of operations. -/
def run (s : GroupedSelection) (ops : List Selection.Op) : GroupedSelection := ops.foldl step s

/-- The answers to operations. -/
def replies : GroupedSelection → List Selection.Op → List Selection.Answer
  | _, [] => []
  | s, op :: ops => s.answer op :: replies (s.step op) ops

/-- The same bindings under the same policy, and the same names in use by kind and in one set. -/
structure StandsFor (s : GroupedSelection) (t : Selection) : Prop where
  policy_eq : s.policy = t.policy
  bindings_eq : s.bindings = t.bindings
  usage : s.usage.Lists t.usage

namespace StandsFor

theorem empty (policy : ReusePolicy) : (empty policy).StandsFor (.empty policy) :=
  ⟨rfl, rfl, .empty⟩

theorem get?_eq (h : s.StandsFor t) (name : String) : s.get? name = t.get? name := by
  rw [GroupedSelection.get?, Selection.get?, h.bindings_eq]

/-- Whatever does not look at the names in use reads the same in both. -/
theorem read_eq {α : Sort _} (h : s.StandsFor t) (read : Selection → α)
    (hread : ∀ usage, read { t with usage } = read t) : read s.plain = read t := by
  rw [plain, h.policy_eq, h.bindings_eq]
  exact hread s.usage.flat

theorem release (h : s.StandsFor t) (entity : Entity) :
    (s.release entity).StandsFor (t.release entity) := by
  unfold GroupedSelection.release Selection.release
  rw [h.bindings_eq]
  split
  · exact h
  · exact ⟨h.policy_eq, rfl, h.usage.erase ..⟩

theorem put (h : s.StandsFor t) (tag : Tag) (entity : Entity) :
    (s.put tag entity).StandsFor (t.put tag entity) where
  policy_eq := h.policy_eq
  bindings_eq := congrArg (·.insert tag.name ⟨tag, entity⟩) h.bindings_eq
  usage := h.usage.insert ..

theorem without (h : s.StandsFor t) (names : List String) :
    (s.without names).StandsFor (t.without names) :=
  ⟨h.policy_eq, congrArg (·.filter fun name _ => name ∉ names) h.bindings_eq, h.usage⟩

theorem point (h : s.StandsFor t) (name : String) (tag : Tag) :
    (s.point name tag).StandsFor (t.point name tag) :=
  ⟨h.policy_eq, congrArg (·.modify name fun b => { b with tag }) h.bindings_eq, h.usage⟩

theorem unbind (h : s.StandsFor t) (name : String) :
    (s.unbind name).1 = (t.unbind name).1 ∧ (s.unbind name).2.StandsFor (t.unbind name).2 := by
  unfold GroupedSelection.unbind Selection.unbind
  rw [h.get?_eq]
  cases t.get? name with
  | none => exact ⟨rfl, h⟩
  | some b =>
    have hgone : StandsFor { s with bindings := s.bindings.erase name }
        { t with bindings := t.bindings.erase name } :=
      ⟨h.policy_eq, congrArg (·.erase name) h.bindings_eq, h.usage⟩
    exact ⟨rfl, hgone.release b.entity⟩

theorem drop (h : s.StandsFor t) (name : String) : (s.drop name).StandsFor (t.drop name) :=
  (h.unbind name).2

theorem bind (h : s.StandsFor t) (tag : Tag) (entity : Entity) :
    (s.bind tag entity).map Prod.fst = (t.bind tag entity).map Prod.fst ∧
      (s.afterBind (s.bind tag entity)).StandsFor (t.afterBind (t.bind tag entity)) := by
  have hholds : s.plain.Holds tag entity = t.Holds tag entity :=
    h.read_eq (·.Holds tag entity) fun _ => rfl
  have hobstacle : s.plain.obstacle? tag entity = t.obstacle? tag entity :=
    h.read_eq (·.obstacle? tag entity) fun _ => rfl
  have hfollowers : ∀ previous, s.plain.followers tag previous = t.followers tag previous :=
    fun previous => h.read_eq (·.followers tag previous) fun _ => rfl
  unfold GroupedSelection.bind Selection.bind
  simp only [hholds, hobstacle, hfollowers, h.get?_eq]
  by_cases hsame : t.Holds tag entity
  · simp only [if_pos hsame]
    exact ⟨rfl, h⟩
  · simp only [if_neg hsame]
    cases t.obstacle? tag entity with
    | some e => exact ⟨rfl, h⟩
    | none =>
      cases t.get? tag.name with
      | none => exact ⟨rfl, h.put tag entity⟩
      | some old => exact ⟨rfl, ((h.without _).release _).put tag entity⟩

theorem foldl_drop (h : s.StandsFor t) (names : List String) :
    (names.foldl GroupedSelection.drop s).StandsFor (names.foldl Selection.drop t) := by
  induction names generalizing s t with
  | nil => exact h
  | cons name names ih => exact ih (h.drop name)

theorem moveAll (h : s.StandsFor t) (moves : List (String × Tag)) :
    (s.moveAll moves).1 = (t.moveAll moves).1 ∧
      (s.moveAll moves).2.StandsFor (t.moveAll moves).2 := by
  induction moves generalizing s t with
  | nil => exact ⟨rfl, h⟩
  | cons move moves ih =>
    obtain ⟨name, tag⟩ := move
    have hcrowded : ∀ entity, s.plain.Crowded name entity tag.sentence =
        t.Crowded name entity tag.sentence :=
      fun entity => h.read_eq (·.Crowded name entity tag.sentence) fun _ => rfl
    simp only [GroupedSelection.moveAll, Selection.moveAll, h.get?_eq, hcrowded]
    cases t.get? name with
    | none => exact ih h
    | some b =>
      dsimp only
      split
      · obtain ⟨hnames, hafter⟩ := ih (h.drop name)
        exact ⟨congrArg (List.cons name) hnames, hafter⟩
      · exact ih (h.point name tag)

theorem relocate (h : s.StandsFor t) (locate : Binding → Option Tag) :
    (s.relocate locate).1 = (t.relocate locate).1 ∧
      (s.relocate locate).2.StandsFor (t.relocate locate).2 := by
  have hlost : s.plain.lostNames locate = t.lostNames locate :=
    h.read_eq (·.lostNames locate) fun _ => rfl
  have hmoves : s.plain.moves locate = t.moves locate :=
    h.read_eq (·.moves locate) fun _ => rfl
  unfold GroupedSelection.relocate Selection.relocate
  rw [hlost, hmoves]
  obtain ⟨hcrowded, hafter⟩ := (h.foldl_drop (t.lostNames locate)).moveAll (t.moves locate)
  exact ⟨congrArg (t.lostNames locate ++ ·) hcrowded, hafter⟩

/-- **An operation answers the same, and leaves the same.** -/
theorem step (h : s.StandsFor t) (op : Selection.Op) :
    s.answer op = t.answer op ∧ (s.step op).StandsFor (t.step op) := by
  cases op with
  | bind tag entity =>
    obtain ⟨hresult, hafter⟩ := h.bind tag entity
    exact ⟨congrArg _ hresult, hafter⟩
  | unbind name =>
    obtain ⟨hremoved, hafter⟩ := h.unbind name
    exact ⟨congrArg _ hremoved, hafter⟩
  | clear => exact ⟨rfl, h.policy_eq, rfl, .empty⟩
  | relocate locate =>
    obtain ⟨hdropped, hafter⟩ := h.relocate locate
    exact ⟨congrArg _ hdropped, hafter⟩

theorem run (h : s.StandsFor t) (ops : List Selection.Op) : (s.run ops).StandsFor (t.run ops) := by
  induction ops generalizing s t with
  | nil => exact h
  | cons op ops ih => exact ih (h.step op).2

theorem replies (h : s.StandsFor t) (ops : List Selection.Op) : s.replies ops = t.replies ops := by
  induction ops generalizing s t with
  | nil => rfl
  | cons op ops ih =>
    obtain ⟨hanswer, hafter⟩ := h.step op
    rw [GroupedSelection.replies, Selection.replies, hanswer, ih hafter]

end StandsFor

/-- **What is seen of both is the same**: the answers to all that was done from nothing, the
bindings, and what the names in use are asked for. -/
theorem seen_eq (policy : ReusePolicy) (ops : List Selection.Op) :
    let s := (empty policy).run ops
    let t := (Selection.empty policy).run ops
    (empty policy).replies ops = (Selection.empty policy).replies ops ∧ s.bindings = t.bindings ∧
      (∀ kind, (s.usage.names? kind).map (fun names => Text.sorted names.keys) =
        t.usage.names? kind) ∧
      ∀ name, s.usage.uses name = t.usage.uses name := by
  intro s t
  have hrun : s.StandsFor t := (StandsFor.empty policy).run ops
  exact ⟨(StandsFor.empty policy).replies ops, hrun.bindings_eq, hrun.usage.names?_eq,
    hrun.usage.uses_eq⟩

/-! ## What is stored -/

/-- What is stored of the names in use is what is bound. -/
structure Exact (s : GroupedSelection) : Prop where
  /-- A kind is listed exactly if an entity of that kind is bound. -/
  isSome_iff : ∀ kind, (s.usage.names? kind).isSome ↔
    ∃ n b, s.get? n = some b ∧ b.entity.kind = kind
  /-- Its names are those of the entities of that kind. -/
  mem_iff : ∀ kind names, s.usage.names? kind = some names → ∀ name, name ∈ names.keys ↔
    ∃ n b, s.get? n = some b ∧ b.entity.kind = kind ∧ b.entity.name = name
  /-- A name is in use exactly if an entity of that name is bound. -/
  uses_iff : ∀ name, s.usage.uses name = true ↔ ∃ n b, s.get? n = some b ∧ b.entity.name = name

theorem StandsFor.exact_of_mirrors (h : s.StandsFor t) (ht : t.Mirrors) : s.Exact := by
  have hhas : ∀ kind name, s.usage.Has kind name ↔
      ∃ n b, s.get? n = some b ∧ b.entity.kind = kind ∧ b.entity.name = name := by
    intro kind name
    simp only [h.usage.has_iff, ht kind name, h.get?_eq]
  refine ⟨fun kind => ?_, fun kind names hnames name => ?_, fun name => ?_⟩
  · rw [Option.isSome_iff_exists]
    constructor
    · rintro ⟨names, hnames⟩
      -- a kind that is listed has a name, and some binding holds it
      obtain ⟨name, hname⟩ := List.exists_mem_of_ne_nil _ (h.usage.pruned kind names hnames)
      obtain ⟨n, b, hb, hkind, -⟩ := (hhas kind name).1 ⟨names, hnames, hname⟩
      exact ⟨n, b, hb, hkind⟩
    · rintro ⟨n, b, hb, hkind⟩
      obtain ⟨names, hnames, -⟩ := (hhas kind b.entity.name).2 ⟨n, b, hb, hkind, rfl⟩
      exact ⟨names, hnames⟩
  · rw [← hhas, GroupedUsage.Has]
    simp [hnames]
  · rw [GroupedUsage.uses_iff_has]
    simp only [hhas]
    constructor
    · rintro ⟨kind, n, b, hb, -, hname⟩
      exact ⟨n, b, hb, hname⟩
    · rintro ⟨n, b, hb, hname⟩
      exact ⟨b.entity.kind, n, b, hb, rfl, hname⟩

/-- **Whatever is done to a selection, a kind is listed exactly while an entity of it is bound, and
its names are those of the entities bound.** Under the downstream policy the entities that are given
to bind must have one kind for each name, as the entities of a catalog do. If relocation keeps to
the slots of bindings, each binding also stays under the name of its tag and holds an entity of the
tag's kind. -/
theorem exact_run (policy : ReusePolicy) (ops : List Selection.Op)
    (hkinds : policy = .downstream → ∀ e ∈ Selection.bound ops, ∀ f ∈ Selection.bound ops,
      e.name = f.name → e.kind = f.kind) :
    ((empty policy).run ops).Exact ∧
      ((∀ locate, Selection.Op.relocate locate ∈ ops →
          ∀ b u, locate b = some u → u.SameSlot b.tag) →
        ∀ n b, ((empty policy).run ops).get? n = some b →
          b.tag.name = n ∧ b.entity.kind = b.tag.kind) := by
  have hrun := (StandsFor.empty policy).run ops
  refine ⟨hrun.exact_of_mirrors (Selection.mirrors_run policy ops hkinds),
    fun hslot n b hb => ?_⟩
  rw [hrun.get?_eq] at hb
  exact Selection.aligned_run policy ops hslot n b hb

/-- The pet is the only creature, and its kind goes with it; an entity that recurs is in use until
its last holder lets it go. -/
theorem exact_run_recurring :
    let early : Tag := ⟨.character, "early", 0⟩
    let late : Tag := ⟨.character, "late", 2⟩
    let pet : Tag := ⟨.creature, "pet", 1⟩
    let ada : Entity := { name := "Ada", kind := .character }
    let bea : Entity := { name := "Bea", kind := .character }
    let cow : Entity := { name := "Cow", kind := .creature }
    let ops : List Selection.Op := [.bind early ada,
      .relocate fun b => some { b.tag with sentence := b.tag.sentence + 1 }, .bind late ada,
      .bind pet cow, .unbind "pet", .bind early bea]
    let s := (empty .downstream).run ops
    (∀ e ∈ Selection.bound ops, ∀ f ∈ Selection.bound ops, e.name = f.name → e.kind = f.kind) ∧
      s.Exact ∧ (∀ n b, s.get? n = some b → b.tag.name = n ∧ b.entity.kind = b.tag.kind) ∧
      (s.usage.names? .character).map NameMap.keys = some ["Bea"] ∧
      (s.usage.names? .creature).isSome = false := by
  intro early late pet ada bea cow ops s
  have hkinds : ∀ e ∈ Selection.bound ops, ∀ f ∈ Selection.bound ops,
      e.name = f.name → e.kind = f.kind := by decide
  obtain ⟨hexact, haligned⟩ := exact_run .downstream ops fun _ => hkinds
  refine ⟨hkinds, hexact, haligned fun locate hmem b u hu => ?_, by decide +kernel,
    by decide +kernel⟩
  simp only [ops, List.mem_cons, Selection.Op.relocate.injEq, reduceCtorEq, List.not_mem_nil,
    or_false, false_or] at hmem
  subst hmem
  cases hu
  exact ⟨rfl, rfl⟩

end GroupedSelection

end StoryBlanks
