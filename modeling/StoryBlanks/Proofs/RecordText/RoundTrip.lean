import StoryBlanks.Proofs.RecordText.Values
import StoryBlanks.RecordText.Load

/-!
# Stored values read back

Entities, kinds, tags, settings and templates are written as regular values, and each is read from
its own value: the names of its fields are plain words, all different, so that each field is found
where it was put. A template keeps its texts alone, and these are all that its sentences and tags
depend on.

* `Fields.required?_eq_some`, `Fields.optional?_eq_some`: fields that are found again.
* `RoundTrips`: a value that is read from what it is stored as, with one lemma for each type.
* `read?_write`: from text to text.
* `Catalog.ofBytes_write`, `Library.ofBytes_write`: files.
-/

namespace StoryBlanks

namespace RecordText

variable {α : Type} [Stored α] {levels : Nat} {fs : Fields} {name : String}

/-! ## Fields -/

namespace Fields

theorem single?_eq_some {v : Value} (hnodup : (fs.map (·.1)).Nodup) (h : (name, v) ∈ fs) :
    fs.single? name = some (some v) := by
  have hfilter : fs.filter (fun f => f.1 = name) = [(name, v)] := by
    induction fs with
    | nil => cases h
    | cons f fs ih =>
      rw [List.map_cons, List.nodup_cons] at hnodup
      rcases List.mem_cons.1 h with rfl | h
      · rw [List.filter_cons_of_pos (by simp), List.filter_eq_nil_iff.2]
        intro g hg heq
        exact hnodup.1 (List.mem_map.2 ⟨g, hg, of_decide_eq_true heq⟩)
      · have hne : f.1 ≠ name := by
          rintro rfl
          exact hnodup.1 (List.mem_map.2 ⟨_, h, rfl⟩)
        rw [List.filter_cons_of_neg (by simpa using hne), ih hnodup.2 h]
  rw [single?, hfilter]

theorem required?_eq_some {a : α} (hnodup : (fs.map (·.1)).Nodup)
    (h : (name, Stored.toValue a) ∈ fs) (hread : Stored.ofValue? (Stored.toValue a) = some a) :
    fs.required? name α = some a := by
  simp only [required?, single?_eq_some hnodup h, Option.bind_eq_bind, Option.bind_some, hread]

theorem optional?_eq_some {a : α} (hnodup : (fs.map (·.1)).Nodup)
    (h : (name, Stored.toValue a) ∈ fs) (hread : Stored.ofValue? (Stored.toValue a) = some a)
    (default : α) : fs.optional? name default = some a := by
  simp only [optional?, single?_eq_some hnodup h, Option.bind_eq_bind, Option.bind_some, hread]

end Fields

/-! ## Values of each type -/

/-- The value is stored in so many levels at most, and is read from what it is stored as. -/
structure RoundTrips (levels : Nat) (a : α) : Prop where
  regular : Regular levels (Stored.toValue a)
  ofValue? : Stored.ofValue? (Stored.toValue a) = some a

namespace RoundTrips

theorem read?_eq {a : α} (h : RoundTrips maxLevels a) : read? α (write a) = some a := by
  rw [read?, write, Value.read?_of_regular h.regular]
  exact h.ofValue?

theorem string (levels : Nat) (s : String) : RoundTrips levels s := ⟨.text levels s, rfl⟩

theorem natural (levels : Nat) {n : Nat} (h : n < Text.wordLimit) : RoundTrips levels n :=
  ⟨.natural levels h, natural?_repr h⟩

theorem kind (levels : Nat) (k : Kind) : RoundTrips levels k where
  regular := .name levels (by cases k <;> decide) (by cases k <;> decide)
  ofValue? := k.ofExactToken?_token

theorem policy (levels : Nat) (p : ReusePolicy) : RoundTrips levels p where
  regular := .name levels (by cases p <;> decide) (by cases p <;> decide)
  ofValue? := p.ofToken?_token

theorem list {as : List α} (h : ∀ a ∈ as, RoundTrips levels a) : RoundTrips (levels + 2) as where
  regular := .list (List.forall_mem_map.2 fun a ha => (h a ha).regular)
  ofValue? := by
    change (as.map Stored.toValue).mapM Stored.ofValue? = some as
    induction as with
    | nil => rfl
    | cons a as ih =>
      obtain ⟨ha, has⟩ := List.forall_mem_cons.1 h
      rw [List.map_cons, List.mapM_cons, ha.ofValue?, ih has]
      rfl

theorem strings (levels : Nat) (ss : List String) : RoundTrips (levels + 2) ss :=
  .list fun s _ => .string levels s

/-- A record with these field names. -/
theorem record {a : α} (names : List String) (hvalue : Stored.toValue a = .ofFields fs)
    (hnames : fs.map (·.1) = names) (hne : names ≠ [])
    (hwords : ∀ n ∈ names, isPlainWord n = true) (hnodup : names.Nodup)
    (hregular : ∀ f ∈ fs, Regular levels f.2)
    (hread : (fs.map (·.1)).Nodup → Stored.ofValue? (Value.ofFields fs) = some a) :
    RoundTrips (levels + 2) a where
  regular := by
    subst hnames
    rw [hvalue]
    exact .record (fun hnil => hne (by rw [hnil]; rfl)) (List.forall_mem_map.1 hwords) hregular
  ofValue? := by
    rw [hvalue]
    exact hread (hnames ▸ hnodup)

theorem entity (levels : Nat) (e : Entity) : RoundTrips (levels + 4) e := by
  refine record ["name", "description", "entity_type", "possible_states"] rfl rfl (by decide)
    (by decide) (by decide) ?_ fun hnodup => ?_
  · simp only [List.forall_mem_cons]
    exact ⟨(string _ _).regular, (string _ _).regular, (kind _ _).regular,
      (strings _ _).regular, List.forall_mem_nil _⟩
  · have hname : Fields.required? _ "name" String = some e.name :=
      Fields.required?_eq_some hnodup (by simp) rfl
    have hkind : Fields.required? _ "entity_type" Kind = some e.kind :=
      Fields.required?_eq_some hnodup (by simp) e.kind.ofExactToken?_token
    have hdescription : Fields.optional? _ "description" "" = some e.description :=
      Fields.optional?_eq_some hnodup (by simp) rfl ""
    have hstates : Fields.optional? _ "possible_states" [] = some e.states :=
      Fields.optional?_eq_some hnodup (by simp) (strings 0 e.states).ofValue? []
    simp only [Stored.ofValue?, Value.ofFields, Value.fields?, Option.bind_eq_bind,
      Option.bind_some, hname, hkind, hdescription, hstates]

theorem tag (levels : Nat) {t : Tag} (h : t.sentence < Text.wordLimit) :
    RoundTrips (levels + 2) t := by
  refine record ["entity_type", "tag_name", "sentence_index"] rfl rfl (by decide) (by decide)
    (by decide) ?_ fun hnodup => ?_
  · simp only [List.forall_mem_cons]
    exact ⟨(kind _ _).regular, (string _ _).regular, (natural _ h).regular, List.forall_mem_nil _⟩
  · have hkind : Fields.required? _ "entity_type" Kind = some t.kind :=
      Fields.required?_eq_some hnodup (by simp) t.kind.ofExactToken?_token
    have hname : Fields.required? _ "tag_name" String = some t.name :=
      Fields.required?_eq_some hnodup (by simp) rfl
    have hsentence : Fields.required? _ "sentence_index" Nat = some t.sentence :=
      Fields.required?_eq_some hnodup (by simp) (natural?_repr h)
    simp only [Stored.ofValue?, Value.ofFields, Value.fields?, Option.bind_eq_bind,
      Option.bind_some, hkind, hname, hsentence]

theorem settings (levels : Nat) (s : Settings) : RoundTrips (levels + 2) s := by
  refine record ["uniqueness", "separator"] rfl rfl (by decide) (by decide) (by decide) ?_
    fun hnodup => ?_
  · simp only [List.forall_mem_cons]
    exact ⟨(policy _ _).regular, (string _ _).regular, List.forall_mem_nil _⟩
  · have hpolicy : Fields.optional? _ "uniqueness" ReusePolicy.strict = some s.policy :=
      Fields.optional?_eq_some hnodup (by simp) s.policy.ofToken?_token _
    have hseparator : Fields.optional? _ "separator" " " = some s.separator :=
      Fields.optional?_eq_some hnodup (by simp) rfl " "
    simp only [Stored.ofValue?, Value.ofFields, Value.fields?, Option.bind_eq_bind,
      Option.bind_some, hpolicy, hseparator]

theorem template (levels : Nat) (t : Template) : RoundTrips (levels + 4) t := by
  refine record ["name", "sentences"] rfl rfl (by decide) (by decide) (by decide) ?_
    fun hnodup => ?_
  · simp only [List.forall_mem_cons]
    exact ⟨(string _ _).regular, (strings _ _).regular, List.forall_mem_nil _⟩
  · have hname : Fields.required? _ "name" String = some t.name :=
      Fields.required?_eq_some hnodup (by simp) rfl
    have htexts : Fields.required? _ "sentences" (List String) = some t.texts :=
      Fields.required?_eq_some hnodup (by simp) (strings 0 t.texts).ofValue?
    simp only [Stored.ofValue?, Value.ofFields, Value.fields?, Option.bind_eq_bind,
      Option.bind_some, hname, htexts]

end RoundTrips

/-! ## From text to text -/

/-- **Every stored value reads back from its text**, whatever characters its texts have. A tag does
if the number of its sentence fits a word. A template comes back with its sentences in their
places, and so with all its tags. -/
theorem read?_write :
    (∀ e : Entity, read? Entity (write e) = some e) ∧
    (∀ k : Kind, read? Kind (write k) = some k) ∧
    (∀ t : Tag, t.sentence < Text.wordLimit → read? Tag (write t) = some t) ∧
    (∀ s : Settings, read? Settings (write s) = some s) ∧
    ∀ t : Template, ∃ u, read? Template (write t) = some u ∧
      u = t ∧ u.sentences = t.sentences ∧ u.tags = t.tags :=
  ⟨fun e => (RoundTrips.entity _ e).read?_eq, fun k => (RoundTrips.kind _ k).read?_eq,
    fun _ h => (RoundTrips.tag _ h).read?_eq, fun s => (RoundTrips.settings _ s).read?_eq,
    fun t => ⟨t, (RoundTrips.template _ t).read?_eq, rfl, rfl, rfl⟩⟩

/-- A tag whose name needs every form of escape, in the last sentence that a word can number. -/
theorem read?_write_escapes :
    let tag : Tag := ⟨.objectProp, "r\"\\\x00\t\x1b\x7bc\x7d\u0301\u200b", 18446744073709551615⟩
    tag.sentence < Text.wordLimit ∧ tag.sentence + 1 = Text.wordLimit ∧
      read? Tag (write tag) = some tag := by
  intro tag
  have hlt : tag.sentence < Text.wordLimit := by decide
  exact ⟨hlt, by decide, read?_write.2.2.1 tag hlt⟩

end RecordText

/-! ## Files -/

open RecordText

theorem textOf_toUTF8 (s : String) : textOf s.toUTF8 = .ok s := by
  have hutf8 : String.fromUTF8? s.toUTF8 = some s := by
    rw [String.fromUTF8?, String.toUTF8_eq_toByteArray, dif_pos s.isValidUTF8]
    rfl
  rw [textOf, hutf8]

/-- A catalog is loaded from the entities that were written, unless a name comes twice. -/
theorem Catalog.ofBytes_write (es : List Entity) :
    Catalog.ofBytes (write es).toUTF8 = Catalog.ofList es := by
  have hread : read? (List Entity) (write es) = some es :=
    (RoundTrips.list fun e _ => RoundTrips.entity 122 e).read?_eq
  simp only [ofBytes, ofText, readStored, textOf_toUTF8, hread]

/-- A library is loaded from the templates that were written, unless a name comes twice. -/
theorem Library.ofBytes_write (ts : List Template) :
    Library.ofBytes (write ts).toUTF8 = Library.ofList ts := by
  have hread : read? (List Template) (write ts) = some ts :=
    (RoundTrips.list fun t _ => RoundTrips.template 122 t).read?_eq
  simp only [ofBytes, ofText, readStored, textOf_toUTF8, hread]

end StoryBlanks
