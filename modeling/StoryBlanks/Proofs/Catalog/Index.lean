import Mathlib.Data.List.Induction
import StoryBlanks.Catalog.Indexed

/-!
# The index of a catalog matches its list

Entities are offered to a catalog one after another, and those whose name it has are refused. What
it then lists are the first entities of their names, and the index leads from each of these names to
its entity and from no other name anywhere.

* `IndexedCatalog.offer`, `offerAll`: an attempt to insert, and a run of them.
* `Matches`: the invariant; `Matches.insert`: each insertion keeps it.
* `newcomers`: the entities whose name has not come before; `entities_offerAll`: they are listed.
* `ofList_eq_ok_iff`, `ofList_eq_error_iff`: which lists are a catalog, and what is reported if not.
* `index_matches_list`: the catalog after any attempts, and the catalog of a text.
-/

namespace StoryBlanks

/-- The entities of a list at whose place their name has not come before. -/
def newcomers (es : List Entity) : List Entity :=
  (es.zipIdx.filter fun (e, i) => e.name ∉ (es.take i).map Entity.name).map Prod.fst

theorem newcomers_concat (es : List Entity) (e : Entity) : newcomers (es ++ [e]) =
    newcomers es ++ if e.name ∈ es.map Entity.name then [] else [e] := by
  have hbefore : es.zipIdx.filter (fun (f, i) => f.name ∉ ((es ++ [e]).take i).map Entity.name) =
      es.zipIdx.filter fun (f, i) => f.name ∉ (es.take i).map Entity.name := by
    refine List.filter_congr fun (f, i) hf => ?_
    have hi : i < es.length := (List.mem_zipIdx' hf).1
    dsimp only
    rw [List.take_append_of_le_length (Nat.le_of_lt hi)]
  rw [newcomers, List.zipIdx_append, List.filter_append, hbefore, List.map_append, newcomers]
  congr 1
  by_cases h : e.name ∈ es.map Entity.name <;> simp [h]

theorem nodup_names_concat {es : List Entity} {e : Entity} :
    ((es ++ [e]).map Entity.name).Nodup ↔
      (es.map Entity.name).Nodup ∧ e.name ∉ es.map Entity.name := by
  simp [List.nodup_append]

theorem newcomers_of_nodup {es : List Entity} (h : (es.map Entity.name).Nodup) :
    newcomers es = es := by
  induction es using List.reverseRecOn with
  | nil => rfl
  | append_singleton es e ih =>
    obtain ⟨hnodup, he⟩ := nodup_names_concat.1 h
    rw [newcomers_concat, ih hnodup, if_neg he]

namespace IndexedCatalog

variable {c d : IndexedCatalog} {e : Entity} {es : List Entity}

/-- The catalog that an attempt to insert leaves; a refusal leaves the one from before. -/
def offer (c : IndexedCatalog) (e : Entity) : IndexedCatalog :=
  match c.insert e with
  | .ok d => d
  | .error _ => c

/-- The catalog after a run of attempts to insert. -/
def offerAll (c : IndexedCatalog) (es : List Entity) : IndexedCatalog := es.foldl offer c

/-! ## The invariant -/

/-- The index has the name of every entity, with the place where it stands, and nothing else. -/
def Matches (c : IndexedCatalog) : Prop := ∀ name place,
  c.places.get? name = some place ↔ ∃ e, c.entities[place]? = some e ∧ e.name = name

theorem matches_empty : empty.Matches := by
  intro name place
  simp [empty]

theorem Matches.isSome_iff (h : c.Matches) (name : String) :
    (c.places.get? name).isSome = true ↔ name ∈ c.entities.map Entity.name := by
  rw [Option.isSome_iff_exists, List.mem_map]
  simp only [h name]
  constructor
  · rintro ⟨place, e, he, hname⟩
    exact ⟨e, List.mem_of_getElem? he, hname⟩
  · rintro ⟨e, he, hname⟩
    obtain ⟨place, hplace⟩ := List.mem_iff_getElem?.1 he
    exact ⟨place, e, hplace, hname⟩

theorem Matches.insert_of_mem (h : c.Matches) (he : e.name ∈ c.entities.map Entity.name) :
    c.insert e = .error (.duplicateEntity e.name) := if_pos ((h.isSome_iff _).2 he)

theorem Matches.insert_of_notMem (h : c.Matches) (he : e.name ∉ c.entities.map Entity.name) :
    c.insert e = .ok ⟨c.entities ++ [e], c.places.insert e.name c.entities.length⟩ :=
  if_neg (mt (h.isSome_iff _).1 he)

theorem Matches.offer_of_mem (h : c.Matches) (he : e.name ∈ c.entities.map Entity.name) :
    c.offer e = c := by rw [offer, h.insert_of_mem he]

theorem Matches.offer_of_notMem (h : c.Matches) (he : e.name ∉ c.entities.map Entity.name) :
    c.offer e = ⟨c.entities ++ [e], c.places.insert e.name c.entities.length⟩ := by
  rw [offer, h.insert_of_notMem he]

/-- **The new name leads to the new entity, and the others to where they led.** -/
theorem Matches.insert (h : c.Matches) (hd : c.insert e = .ok d) : d.Matches := by
  by_cases he : e.name ∈ c.entities.map Entity.name
  · rw [h.insert_of_mem he] at hd
    cases hd
  · rw [h.insert_of_notMem he] at hd
    cases hd
    intro name place
    have hold := h name place
    rw [NameMap.get?_insert, List.getElem?_append]
    rcases Nat.lt_trichotomy place c.entities.length with hlt | rfl | hgt
    · -- a place that was there before, where the new name does not stand
      rw [if_pos hlt, ← hold]
      split
      · next hname =>
        refine iff_of_false (fun heq => Nat.ne_of_gt hlt (Option.some.inj heq)) fun hsome => he ?_
        rw [← hname]
        exact (h.isSome_iff name).1 (Option.isSome_of_eq_some hsome)
      · rfl
    · have hpast : c.places.get? name ≠ some c.entities.length := by
        rw [ne_eq, hold]
        simp
      by_cases hname : name = e.name <;> simp [hname, hpast, eq_comm]
    · have hpast : c.places.get? name ≠ some place := by
        rw [ne_eq, hold]
        simp [Nat.le_of_lt hgt]
      have hnone : [e][place - c.entities.length]? = none :=
        List.getElem?_eq_none (by simp only [List.length_singleton]; omega)
      rw [if_neg (Nat.not_lt_of_gt hgt), hnone]
      split <;> simp [hpast, Nat.ne_of_lt hgt]

theorem Matches.offer (h : c.Matches) (e : Entity) : (c.offer e).Matches := by
  unfold IndexedCatalog.offer
  split
  · next d hd => exact h.insert hd
  · exact h

/-! ## Runs -/

theorem offerAll_concat (c : IndexedCatalog) (es : List Entity) (e : Entity) :
    c.offerAll (es ++ [e]) = (c.offerAll es).offer e := List.foldl_append

theorem matches_offerAll (es : List Entity) : (empty.offerAll es).Matches := by
  induction es using List.reverseRecOn with
  | nil => exact matches_empty
  | append_singleton es e ih =>
    rw [offerAll_concat]
    exact ih.offer e

/-- The names that a catalog has are those that were offered. -/
theorem mem_names_offerAll {name : String} :
    name ∈ (empty.offerAll es).entities.map Entity.name ↔ name ∈ es.map Entity.name := by
  induction es using List.reverseRecOn with
  | nil => rfl
  | append_singleton es e ih =>
    rw [offerAll_concat, List.map_append, List.mem_append, ← ih]
    by_cases he : e.name ∈ (empty.offerAll es).entities.map Entity.name
    · rw [(matches_offerAll es).offer_of_mem he, or_iff_left_of_imp]
      intro hname
      rw [List.mem_singleton.1 hname]
      exact he
    · rw [(matches_offerAll es).offer_of_notMem he, List.map_append, List.mem_append]

theorem entities_offerAll (es : List Entity) : (empty.offerAll es).entities = newcomers es := by
  induction es using List.reverseRecOn with
  | nil => rfl
  | append_singleton es e ih =>
    rw [offerAll_concat, newcomers_concat, ← ih]
    by_cases he : e.name ∈ es.map Entity.name
    · rw [(matches_offerAll es).offer_of_mem (mem_names_offerAll.2 he), if_pos he, List.append_nil]
    · rw [(matches_offerAll es).offer_of_notMem (mt mem_names_offerAll.1 he), if_neg he]

/-! ## Lists that are a catalog -/

/-- The first entity whose name has come before. -/
inductive FirstRepeat : List Entity → Entity → Prop
  | intro {before after : List Entity} {e : Entity} (hnodup : (before.map Entity.name).Nodup)
    (hmem : e.name ∈ before.map Entity.name) : FirstRepeat (before ++ e :: after) e

theorem nodup_or_firstRepeat (es : List Entity) :
    (es.map Entity.name).Nodup ∨ ∃ e, FirstRepeat es e := by
  induction es using List.reverseRecOn with
  | nil => exact .inl .nil
  | append_singleton es e ih =>
    rcases ih with hnodup | ⟨f, ⟨hnodup, hmem⟩⟩
    · by_cases he : e.name ∈ es.map Entity.name
      · exact .inr ⟨e, .intro hnodup he⟩
      · exact .inl (nodup_names_concat.2 ⟨hnodup, he⟩)
    · rw [List.append_assoc]
      exact .inr ⟨f, .intro hnodup hmem⟩

theorem ofList_append (es fs : List Entity) :
    ofList (es ++ fs) = (ofList es).bind fun c => fs.foldlM insert c := List.foldlM_append

theorem ofList_of_nodup (h : (es.map Entity.name).Nodup) : ofList es = .ok (empty.offerAll es) := by
  induction es using List.reverseRecOn with
  | nil => rfl
  | append_singleton es e ih =>
    obtain ⟨hnodup, he⟩ := nodup_names_concat.1 h
    have hnew := mt mem_names_offerAll.1 he
    rw [ofList_append, ih hnodup, offerAll_concat, (matches_offerAll es).offer_of_notMem hnew]
    simp [Except.bind, bind, (matches_offerAll es).insert_of_notMem hnew, pure, Except.pure]

theorem FirstRepeat.ofList_eq (h : FirstRepeat es e) :
    ofList es = .error (.duplicateEntity e.name) := by
  obtain ⟨hnodup, hmem⟩ := h
  rw [ofList_append, ofList_of_nodup hnodup]
  simp [Except.bind, bind, (matches_offerAll _).insert_of_mem (mem_names_offerAll.2 hmem)]

theorem ofList_eq_ok_iff : ofList es = .ok c ↔
    (es.map Entity.name).Nodup ∧ c = empty.offerAll es := by
  constructor
  · intro h
    rcases nodup_or_firstRepeat es with hnodup | ⟨e, he⟩
    · exact ⟨hnodup, (Except.ok.inj ((ofList_of_nodup hnodup).symm.trans h)).symm⟩
    · exact nomatch he.ofList_eq.symm.trans h
  · rintro ⟨hnodup, rfl⟩
    exact ofList_of_nodup hnodup

theorem ofList_eq_error_iff {why : StoreError} : ofList es = .error why ↔
    ∃ e, FirstRepeat es e ∧ why = .duplicateEntity e.name := by
  constructor
  · intro h
    rcases nodup_or_firstRepeat es with hnodup | ⟨e, he⟩
    · exact nomatch (ofList_of_nodup hnodup).symm.trans h
    · exact ⟨e, he, (Except.error.inj (he.ofList_eq.symm.trans h)).symm⟩
  · rintro ⟨e, he, rfl⟩
    exact he.ofList_eq

/-! ## Lookups -/

theorem Matches.get?_of_mem (h : c.Matches) (he : e ∈ c.entities) :
    c.get? e.name = some (some e) := by
  obtain ⟨place, hplace⟩ := List.mem_iff_getElem?.1 he
  rw [get?, (h e.name place).2 ⟨e, hplace, rfl⟩]
  simp [hplace]

theorem Matches.get?_of_notMem (h : c.Matches) {name : String}
    (hname : name ∉ c.entities.map Entity.name) : c.get? name = some none := by
  have hnone := mt (h.isSome_iff name).1 hname
  rw [get?, Option.not_isSome_iff_eq_none.1 hnone]

/-- The index keeps the names apart. -/
theorem Matches.nodup_names (h : c.Matches) : (c.entities.map Entity.name).Nodup := by
  rw [List.Nodup, List.pairwise_map, List.pairwise_iff_getElem]
  intro i j hi hj hij hname
  have hfirst := (h c.entities[i].name i).2 ⟨_, List.getElem?_eq_getElem hi, rfl⟩
  have hsecond := (h c.entities[i].name j).2 ⟨_, List.getElem?_eq_getElem hj, hname.symm⟩
  exact Nat.ne_of_lt hij (Option.some.inj (hfirst.symm.trans hsecond))

/-! ## The catalog without an index -/

/-- An index changes nothing about what is taken and what is refused. -/
theorem map_entities_foldlM {c : IndexedCatalog} {d : Catalog} (h : c.Matches)
    (hd : c.entities = d.entities) (es : List Entity) :
    (es.foldlM insert c).map (·.entities) = (es.foldlM Catalog.insert d).map (·.entities) := by
  induction es generalizing c d with
  | nil => exact congrArg Except.ok hd
  | cons e es ih =>
    by_cases he : e.name ∈ d.names
    · have hinsert : d.insert e = .error (.duplicateEntity e.name) := dif_pos he
      rw [List.foldlM_cons, List.foldlM_cons, hinsert, h.insert_of_mem (hd ▸ he)]
      rfl
    · have hinsert : d.insert e = .ok ⟨d.entities ++ [e], Catalog.distinct_concat he⟩ :=
        Catalog.insert_eq_ok_iff.2 ⟨he, rfl⟩
      have hinsert' := h.insert_of_notMem (e := e) (hd ▸ he)
      rw [List.foldlM_cons, List.foldlM_cons, hinsert, hinsert']
      exact ih (h.insert hinsert') (congrArg (· ++ [e]) hd)

theorem map_entities_ofText (text : String) :
    (ofText text).map (·.entities) = (Catalog.ofText text).map (·.entities) := by
  rw [ofText, Catalog.ofText]
  cases readStored (List Entity) text with
  | error e => rfl
  | ok es => exact map_entities_foldlM matches_empty rfl es

/-! ## After any attempts -/

/-- The catalog lists the first entity of each name that was offered, takes no other entity of such
a name, and is searched rightly. -/
structure Lists (c : IndexedCatalog) (es : List Entity) : Prop where
  entities_eq : c.entities = newcomers es
  refused : ∀ e, e.name ∈ es.map Entity.name →
    c.insert e = .error (.duplicateEntity e.name) ∧ c.offer e = c
  taken : ∀ e, e.name ∉ es.map Entity.name →
    c.insert e = .ok (c.offer e) ∧ (c.offer e).entities = c.entities ++ [e]
  /-- The index leads from each name to the entity of that name, and nowhere else. -/
  places_iff : ∀ name place,
    c.places.get? name = some place ↔ ∃ e, c.entities[place]? = some e ∧ e.name = name
  /-- There is one entity of each name that was offered, and it is found. -/
  found : ∀ name ∈ es.map Entity.name, ∃ e ∈ c.entities, e.name = name ∧
    c.get? name = some (some e) ∧ ∀ f ∈ c.entities, f.name = name → f = e
  notFound : ∀ name, name ∉ es.map Entity.name → c.get? name = some none
  /-- An entity is listed among those of its own kind, and of no other. -/
  mem_ofKind : ∀ kind, ∀ e ∈ c.entities, e ∈ c.ofKind kind ↔ e.kind = kind
  ofKind_sublist : ∀ kind, (c.ofKind kind).Sublist c.entities
  /-- A catalog without an index lists the same and finds the same. -/
  plain : ∃ d : Catalog, d.entities = c.entities ∧ ∀ name, c.get? name = some (d.get? name)

theorem lists_offerAll (es : List Entity) : (empty.offerAll es).Lists es := by
  have hmatches := matches_offerAll es
  have hnames : ∀ name, name ∈ (empty.offerAll es).entities.map Entity.name ↔
      name ∈ es.map Entity.name := fun name => mem_names_offerAll
  let d : Catalog := ⟨(empty.offerAll es).entities, hmatches.nodup_names⟩
  refine ⟨entities_offerAll es, fun e he => ?_, fun e he => ?_, hmatches, fun name hname => ?_,
    fun name hname => hmatches.get?_of_notMem (mt (hnames name).1 hname), fun kind e he => ?_,
    fun kind => List.filter_sublist, d, rfl, fun name => ?_⟩
  · have hmem := (hnames e.name).2 he
    exact ⟨hmatches.insert_of_mem hmem, hmatches.offer_of_mem hmem⟩
  · have hnew := mt (hnames e.name).1 he
    rw [hmatches.insert_of_notMem hnew, hmatches.offer_of_notMem hnew]
    exact ⟨rfl, rfl⟩
  · obtain ⟨e, he, rfl⟩ := List.mem_map.1 ((hnames name).2 hname)
    exact ⟨e, he, rfl, hmatches.get?_of_mem he, fun f hf hfe => Catalog.eq_of_name (c := d) hf he hfe⟩
  · simp [ofKind, he]
  · by_cases hname : name ∈ (empty.offerAll es).entities.map Entity.name
    · obtain ⟨e, he, rfl⟩ := List.mem_map.1 hname
      rw [hmatches.get?_of_mem he, Catalog.get?_eq_some_iff.2 ⟨he, rfl⟩]
    · have hnone : d.get? name = none := Option.eq_none_iff_forall_ne_some.2 fun e he => by
        obtain ⟨hmem, rfl⟩ := Catalog.get?_eq_some_iff.1 he
        exact hname (List.mem_map_of_mem hmem)
      rw [hmatches.get?_of_notMem hname, hnone]

/-- **The index of a catalog matches its list.** After any attempts to insert entities, the catalog
lists those whose name had not come before, in order; it refuses the others for their names; and its
index leads from each name to its entity. A text that holds a list of entities is a catalog exactly
if no name comes twice, and then it is the catalog of this list; otherwise the first entity whose
name has come before is reported. A catalog without an index is built and refused alike. -/
theorem index_matches_list :
    (∀ es : List Entity, (empty.offerAll es).Lists es) ∧
    ∀ (text : String) (es : List Entity), readStored (List Entity) text = .ok es →
      (∀ c, ofText text = .ok c ↔ (es.map Entity.name).Nodup ∧ c = empty.offerAll es) ∧
      (∀ why, ofText text = .error why ↔
        ∃ e, FirstRepeat es e ∧ why = .duplicateEntity e.name) ∧
      ((es.map Entity.name).Nodup → (empty.offerAll es).entities = es) ∧
      (ofText text).map (·.entities) = (Catalog.ofText text).map (·.entities) := by
  refine ⟨lists_offerAll, fun text es hread => ?_⟩
  have htext : ofText text = ofList es := by rw [ofText, hread]
  refine ⟨fun c => ?_, fun why => ?_, fun hnodup => ?_, map_entities_ofText text⟩
  · rw [htext, ofList_eq_ok_iff]
  · rw [htext, ofList_eq_error_iff]
  · rw [entities_offerAll, newcomers_of_nodup hnodup]

end IndexedCatalog

end StoryBlanks
