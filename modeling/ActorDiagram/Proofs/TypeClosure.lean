import Mathlib
import ActorDiagram.Proofs.SpliceStates
import ActorDiagram.Proofs.TypeClause

/-!
# State types as a closure

The state types of a stream with a base type are the type arguments of its base types and all that
extends one of them, directly or through others. Supertypes form any graph whatever, with cycles, and its
edges are declared in any order.
-/

namespace ActorDiagram

namespace Stream

/-- At `i` stands a base type with this type argument, by what its name says last. -/
structure ArgumentAt (s : Stream) (i : Nat) (name : String) : Prop where
  base : ∃ t, s.get? i = some t ∧ t.isWordOf machineTypes = true
  bracket : s.hasMark (i + 1) "[" = true
  isName : s.isNameAt (i + 2) = true
  path : ∃ parts j, s.Path (i + 2) parts j ∧ name = lastName parts

/-- At `i` a trait or a class of this name is declared, with these supertypes. -/
structure SubtypeAt (s : Stream) (i : Nat) (name : String) (supers : List String) : Prop where
  keyword : ∃ t, s.get? i = some t ∧ t.isWordOf ["trait", "class"] = true
  isName : ∃ t, s.get? (i + 1) = some t ∧ t.isIdentifier = true ∧ t.text = name
  clause : ∃ j, s.TypeClause (i + 2) supers j

/-- Some base type has this type argument. -/
def IsArgument (s : Stream) (name : String) : Prop := ∃ i, s.ArgumentAt i name

/-- Some trait or class of this name lists this supertype. -/
def Extends (s : Stream) (name super : String) : Prop :=
  ∃ i supers, s.SubtypeAt i name supers ∧ super ∈ supers

end Stream

/-! ### Facts about types -/

namespace TypeFact

variable {s : Stream} {i : Nat} {name : String} {supers : List String}

lemma argumentAt?_eq_some_iff {f : TypeFact} : argumentAt? s i = .ok (some f) ↔
    s.hasMark i "[" = true ∧ s.isNameAt (i + 1) = true ∧
      ∃ parts j, s.Path (i + 1) parts j ∧ f = .stateType (Stream.lastName parts) := by
  rw [Stream.hasMark_eq_any]
  unfold argumentAt?
  cases hb : s.get? i with
  | none => simp
  | some bracket =>
    cases hf : s.get? (i + 1) with
    | none => simp [Stream.isNameAt, hf]
    | some first =>
      have hname : s.isNameAt (i + 1) = first.isIdentifier := by rw [Stream.isNameAt, hf]; rfl
      simp only [Option.any_some, hname]
      by_cases hboth : (bracket.isMark "[" && first.isIdentifier) = true
      · rw [if_pos hboth]
        rw [Bool.and_eq_true] at hboth
        have hdotted := @Stream.dotted_eq_ok_iff s (i + 1)
        rw [hname] at hdotted
        constructor
        · intro h
          obtain ⟨⟨x, j⟩, hx, h⟩ := bind_eq_ok_iff.mp h
          obtain ⟨parts, hpath, rfl⟩ := (hdotted hboth.2).mp hx
          cases h
          exact ⟨hboth.1, hboth.2, parts, j, hpath, rfl⟩
        · rintro ⟨-, -, parts, j, hpath, rfl⟩
          rw [(hdotted hboth.2).mpr ⟨parts, hpath, rfl⟩]
          rfl
      · rw [if_neg hboth]
        rw [Bool.and_eq_true] at hboth
        constructor
        · intro h
          cases h
        · rintro ⟨hmark, hident, -⟩
          exact absurd ⟨hmark, hident⟩ hboth

lemma declaredAt?_eq_some_iff (hs : s.Nested) {keyword : Token} {f : TypeFact} :
    declaredAt? s keyword i = .ok (some f) ↔ ∃ t supers j, s.get? i = some t ∧ t.isIdentifier = true ∧
      s.TypeClause (i + 1) supers j ∧
        f = if keyword.text == "object" then .object supers else .subtype t.text supers := by
  unfold declaredAt?
  cases ht : s.get? i with
  | none => simp
  | some t =>
    simp only [Option.some.injEq]
    by_cases hident : t.isIdentifier = true
    · rw [if_pos hident]
      constructor
      · intro h
        obtain ⟨⟨supers, j⟩, hsupers, h⟩ := bind_eq_ok_iff.mp h
        cases h
        exact ⟨t, supers, j, rfl, hident, (Stream.supertypes_eq_ok_iff hs).mp hsupers, rfl⟩
      · rintro ⟨_, supers, j, rfl, -, hclause, rfl⟩
        rw [(Stream.supertypes_eq_ok_iff hs).mpr hclause]
        rfl
    · rw [if_neg hident]
      constructor
      · intro h
        cases h
      · rintro ⟨_, _, _, rfl, hident', -⟩
        exact absurd hident' hident

/-- No base type is a keyword of a declaration. -/
lemma isWordOf_machineTypes {t : Token} (h : t.isWordOf ["trait", "class", "object"] = true) :
    t.isWordOf machineTypes = false := by
  rw [Bool.eq_false_iff, Ne, Lexeme.isWordOf_eq_true]
  obtain ⟨-, htext⟩ := Lexeme.isWordOf_eq_true.mp h
  simp only [List.mem_cons, List.not_mem_nil, or_false] at htext
  rcases htext with htext | htext | htext <;> rw [htext] <;> exact fun hbase => absurd hbase.2 (by decide)

/-- A stream says that a type is the state type exactly where that is written. -/
theorem at?_eq_stateType_iff (hs : s.Nested) :
    at? s i = .ok (some (.stateType name)) ↔ s.ArgumentAt i name := by
  unfold at?
  rw [bind_eq_ok_iff]
  constructor
  · rintro ⟨t, ht, h⟩
    rw [Stream.token_eq_ok_iff] at ht
    split_ifs at h with hbase hdecl
    · obtain ⟨hmark, hname, parts, j, hpath, heq⟩ := argumentAt?_eq_some_iff.mp h
      cases heq
      exact ⟨⟨t, ht, hbase⟩, hmark, hname, parts, j, hpath, rfl⟩
    · obtain ⟨_, _, _, -, -, -, heq⟩ := (declaredAt?_eq_some_iff hs).mp h
      split_ifs at heq
    · cases h
  · rintro ⟨⟨t, ht, hbase⟩, hmark, hname, parts, j, hpath, rfl⟩
    refine ⟨t, Stream.token_eq_ok_iff.mpr ht, ?_⟩
    rw [if_pos hbase]
    exact argumentAt?_eq_some_iff.mpr ⟨hmark, hname, parts, j, hpath, rfl⟩

/-- A stream says that a type extends others exactly where a trait or a class is declared so. -/
theorem at?_eq_subtype_iff (hs : s.Nested) :
    at? s i = .ok (some (.subtype name supers)) ↔ s.SubtypeAt i name supers := by
  unfold at?
  rw [bind_eq_ok_iff]
  constructor
  · rintro ⟨t, ht, h⟩
    rw [Stream.token_eq_ok_iff] at ht
    split_ifs at h with hbase hdecl
    · obtain ⟨-, -, _, _, -, heq⟩ := argumentAt?_eq_some_iff.mp h
      cases heq
    · obtain ⟨word, _, j, hword, hident, hclause, heq⟩ := (declaredAt?_eq_some_iff hs).mp h
      split_ifs at heq with hobject
      cases heq
      refine ⟨⟨t, ht, ?_⟩, ⟨word, hword, hident, rfl⟩, j, hclause⟩
      simp only [Lexeme.isWordOf_eq_true, List.mem_cons, List.not_mem_nil, or_false, beq_iff_eq]
        at hdecl hobject ⊢
      tauto
    · cases h
  · rintro ⟨⟨t, ht, hkeyword⟩, ⟨word, hword, hident, rfl⟩, j, hclause⟩
    refine ⟨t, Stream.token_eq_ok_iff.mpr ht, ?_⟩
    simp only [Lexeme.isWordOf_eq_true, List.mem_cons, List.not_mem_nil, or_false] at hkeyword
    have hdecl : t.isWordOf ["trait", "class", "object"] = true := by
      simp only [Lexeme.isWordOf_eq_true, List.mem_cons]
      tauto
    have hobject : (t.text == "object") = false := by
      rcases hkeyword.2 with htext | htext <;> rw [htext] <;> decide
    rw [isWordOf_machineTypes hdecl, hdecl, if_neg Bool.false_ne_true, if_pos rfl]
    refine (declaredAt?_eq_some_iff hs).mpr ⟨word, supers, j, hword, hident, hclause, ?_⟩
    rw [hobject]
    rfl

lemma exists_argumentAt? : ∃ f, argumentAt? s i = .ok f := by
  unfold argumentAt?
  split
  · rename_i bracket first _ hfirst
    split_ifs
    · rw [Stream.dotted_of_get? hfirst]
      exact ⟨_, rfl⟩
    · exact ⟨none, rfl⟩
  · exact ⟨none, rfl⟩

lemma exists_at? (hs : s.Nested) (hbalance : s.problems = []) (hi : i < s.size) :
    ∃ f, at? s i = .ok f := by
  obtain ⟨t, ht⟩ : ∃ t, s.get? i = some t := ⟨_, Stream.get?_of_lt hi⟩
  unfold at?
  rw [Stream.token_eq_ok_iff.mpr ht]
  simp only [Bind.bind, Except.bind]
  split_ifs
  · exact exists_argumentAt?
  · unfold declaredAt?
    split
    · rename_i name _
      by_cases hident : name.isIdentifier = true
      · rw [if_pos hident]
        obtain ⟨supers, j, hclause⟩ := Stream.exists_typeClause hs hbalance (i + 1 + 1)
        rw [(Stream.supertypes_eq_ok_iff hs).mpr hclause]
        exact ⟨_, rfl⟩
      · rw [if_neg hident]
        exact ⟨none, rfl⟩
    · exact ⟨none, rfl⟩
  · exact ⟨none, rfl⟩

lemma exists_ofStream (hs : s.Nested) (hbalance : s.problems = []) : ∃ facts, ofStream s = .ok facts := by
  obtain ⟨found, hfound⟩ := exists_mapM_eq_ok (f := at? s) (l := List.range s.size)
    fun i hi => exists_at? hs hbalance (List.mem_range.mp hi)
  refine ⟨found.filterMap id, ?_⟩
  rw [ofStream, hfound]
  rfl

lemma mem_ofStream {facts : List TypeFact} (h : ofStream s = .ok facts) {f : TypeFact} :
    f ∈ facts ↔ ∃ i, at? s i = .ok (some f) := by
  unfold ofStream at h
  obtain ⟨found, hfound, h⟩ := bind_eq_ok_iff.mp h
  cases h
  have hall := forall₂_of_mapM_eq_ok hfound
  rw [List.mem_filterMap]
  constructor
  · rintro ⟨_, hmem, rfl⟩
    obtain ⟨i, -, hi⟩ := exists_of_mem_left hall.flip hmem
    exact ⟨i, hi⟩
  · rintro ⟨i, hi⟩
    have hlt : i < s.size := by
      obtain ⟨t, ht, -⟩ := bind_eq_ok_iff.mp hi
      exact Stream.lt_of_get? (Stream.token_eq_ok_iff.mp ht)
    obtain ⟨f', hmem, hf'⟩ := exists_of_mem_left hall (List.mem_range.mpr hlt)
    rw [hi] at hf'
    cases hf'
    exact ⟨some f, hmem, rfl⟩

end TypeFact

/-! ### The closure -/

namespace StateTypes

variable {subtypes : List (String × List String)} {known : List String} {x : String}

/-- No type outside these extends one of them. -/
def Closed (subtypes : List (String × List String)) (known : List String) : Prop :=
  ∀ name supers, (name, supers) ∈ subtypes → ∀ super ∈ supers, super ∈ known → name ∈ known

/-- The type lists this one among its supertypes. -/
def Lists (subtypes : List (String × List String)) (name super : String) : Prop :=
  ∃ supers, (name, supers) ∈ subtypes ∧ super ∈ supers

/-- A type that is to be added in a round. -/
def extendsKnown (known : List String) (name : String) (supers : List String) : Bool :=
  !known.contains name && supers.any known.contains

lemma extendsKnown_eq_true_iff {name : String} {supers : List String} :
    extendsKnown known name supers = true ↔ name ∉ known ∧ ∃ super ∈ supers, super ∈ known := by
  simp [extendsKnown]

lemma grow_cons (name : String) (supers : List String) :
    grow ((name, supers) :: subtypes) known =
      grow subtypes (if extendsKnown known name supers then known ++ [name] else known) := rfl

lemma mem_grow_of_mem (hx : x ∈ known) : x ∈ grow subtypes known := by
  induction subtypes generalizing known with
  | nil => exact hx
  | cons p subtypes ih =>
    obtain ⟨name, supers⟩ := p
    rw [grow_cons]
    apply ih
    split_ifs
    · exact List.mem_append_left _ hx
    · exact hx

/-- A type that extends a known one is known after the round. -/
lemma mem_grow_of_lists {name super : String} (h : Lists subtypes name super) (hsuper : super ∈ known) :
    name ∈ grow subtypes known := by
  obtain ⟨supers, hmem, hin⟩ := h
  induction subtypes generalizing known with
  | nil => simp at hmem
  | cons p subtypes ih =>
    obtain ⟨name', supers'⟩ := p
    rw [grow_cons]
    rcases List.mem_cons.mp hmem with heq | hmem
    · cases heq
      apply mem_grow_of_mem
      split_ifs with hext
      · exact List.mem_append_right _ (List.mem_singleton_self _)
      · rw [extendsKnown_eq_true_iff] at hext
        by_contra hno
        exact hext ⟨hno, super, hin, hsuper⟩
    · apply ih _ hmem
      split_ifs
      · exact List.mem_append_left _ hsuper
      · exact hsuper

/-- A round adds nothing but types that extend one in the growing set. -/
lemma grow_induction {P : String → Prop} (hknown : ∀ y ∈ known, P y)
    (hlists : ∀ name super, Lists subtypes name super → P super → P name) :
    ∀ y ∈ grow subtypes known, P y := by
  induction subtypes generalizing known with
  | nil => exact hknown
  | cons p subtypes ih =>
    obtain ⟨name, supers⟩ := p
    rw [grow_cons]
    apply ih
    · split_ifs with hext
      · intro y hy
        rcases List.mem_append.mp hy with hy | hy
        · exact hknown y hy
        · obtain ⟨-, super, hin, hsuper⟩ := extendsKnown_eq_true_iff.mp hext
          rw [List.mem_singleton.mp hy]
          exact hlists name super ⟨supers, List.mem_cons_self, hin⟩ (hknown super hsuper)
      · exact hknown
    · rintro name super ⟨supers, hmem, hin⟩
      exact hlists name super ⟨supers, List.mem_cons_of_mem _ hmem, hin⟩

lemma growTimes_induction {P : String → Prop} {rounds : Nat} (hknown : ∀ y ∈ known, P y)
    (hlists : ∀ name super, Lists subtypes name super → P super → P name) :
    ∀ y ∈ growTimes subtypes rounds known, P y := by
  induction rounds generalizing known with
  | zero => exact hknown
  | succ rounds ih => exact ih (grow_induction hknown hlists)

lemma grow_of_closed (h : Closed subtypes known) : grow subtypes known = known := by
  induction subtypes with
  | nil => rfl
  | cons p subtypes ih =>
    obtain ⟨name, supers⟩ := p
    have hno : ¬ extendsKnown known name supers = true := by
      rw [extendsKnown_eq_true_iff]
      rintro ⟨hnot, super, hin, hsuper⟩
      exact hnot (h name supers List.mem_cons_self super hin hsuper)
    rw [grow_cons, if_neg hno]
    exact ih fun name supers hmem => h name supers (List.mem_cons_of_mem _ hmem)

lemma growTimes_of_closed (h : Closed subtypes known) (rounds : Nat) :
    growTimes subtypes rounds known = known := by
  induction rounds with
  | zero => rfl
  | succ rounds ih => rw [growTimes, grow_of_closed h, ih]

/-- Names of subtypes that are not known yet. -/
def unknownNames (subtypes : List (String × List String)) (known : List String) : Finset String :=
  (subtypes.map Prod.fst).toFinset \ known.toFinset

/-- A round that is not the last leaves fewer names unknown. -/
lemma card_unknownNames_lt (h : ¬ Closed subtypes known) :
    (unknownNames subtypes (grow subtypes known)).card < (unknownNames subtypes known).card := by
  unfold Closed at h
  push Not at h
  obtain ⟨name, supers, hmem, super, hin, hsuper, hnot⟩ := h
  have hgrown := mem_grow_of_lists ⟨supers, hmem, hin⟩ hsuper
  apply Finset.card_lt_card
  refine Finset.ssubset_iff_subset_ne.mpr ⟨fun y hy => ?_, fun heq => ?_⟩
  · simp only [unknownNames, Finset.mem_sdiff, List.mem_toFinset] at hy ⊢
    exact ⟨hy.1, fun hy' => hy.2 (mem_grow_of_mem hy')⟩
  · have hin : name ∈ unknownNames subtypes known := by
      simp only [unknownNames, Finset.mem_sdiff, List.mem_toFinset]
      exact ⟨List.mem_map.mpr ⟨_, hmem, rfl⟩, hnot⟩
    rw [← heq] at hin
    simp only [unknownNames, Finset.mem_sdiff, List.mem_toFinset] at hin
    exact hin.2 hgrown

lemma closed_growTimes {rounds : Nat} (h : (unknownNames subtypes known).card ≤ rounds) :
    Closed subtypes (growTimes subtypes rounds known) := by
  induction rounds generalizing known with
  | zero =>
    intro name supers hmem _ _ _
    by_contra hnot
    have hin : name ∈ unknownNames subtypes known := by
      simp only [unknownNames, Finset.mem_sdiff, List.mem_toFinset]
      exact ⟨List.mem_map.mpr ⟨_, hmem, rfl⟩, hnot⟩
    rw [Nat.le_zero, Finset.card_eq_zero] at h
    simp [h] at hin
  | succ rounds ih =>
    by_cases hclosed : Closed subtypes known
    · rw [growTimes_of_closed hclosed]
      exact hclosed
    · have := card_unknownNames_lt hclosed
      exact ih (by omega)

/-- There are rounds enough. -/
theorem closed_closure : Closed subtypes (closure subtypes known) := by
  apply closed_growTimes
  calc (unknownNames subtypes known).card
    _ ≤ (subtypes.map Prod.fst).toFinset.card := Finset.card_le_card Finset.sdiff_subset
    _ ≤ (subtypes.map Prod.fst).length := List.toFinset_card_le _
    _ = subtypes.length := List.length_map _

lemma mem_growTimes_of_mem {rounds : Nat} (hx : x ∈ known) : x ∈ growTimes subtypes rounds known := by
  induction rounds generalizing known with
  | zero => exact hx
  | succ rounds ih => exact ih (mem_grow_of_mem hx)

/-- The closure holds what reaches a known type through supertypes. -/
theorem mem_closure_iff : x ∈ closure subtypes known ↔
    ∃ y ∈ known, Relation.ReflTransGen (Lists subtypes) x y := by
  constructor
  · intro hx
    refine growTimes_induction (P := fun x => ∃ y ∈ known, Relation.ReflTransGen (Lists subtypes) x y)
      (fun y hy => ⟨y, hy, .refl⟩) ?_ x hx
    rintro name super hlists ⟨y, hy, hpath⟩
    exact ⟨y, hy, .head hlists hpath⟩
  · rintro ⟨y, hy, hpath⟩
    induction hpath using Relation.ReflTransGen.head_induction_on with
    | refl => exact mem_growTimes_of_mem hy
    | head hlists _ ih =>
      obtain ⟨supers, hmem, hin⟩ := hlists
      exact closed_closure _ supers hmem _ hin ih

/-! ### State types of a stream -/

variable {s : Stream} {name super : String} {facts : List TypeFact}

lemma mem_arguments (hs : s.Nested) (h : TypeFact.ofStream s = .ok facts) :
    name ∈ distinct (facts.filterMap TypeFact.stateType?) ↔ s.IsArgument name := by
  rw [mem_distinct, List.mem_filterMap]
  constructor
  · rintro ⟨f, hmem, hf⟩
    cases f with
    | stateType name =>
      cases hf
      obtain ⟨i, hi⟩ := (TypeFact.mem_ofStream h).mp hmem
      exact ⟨i, (TypeFact.at?_eq_stateType_iff hs).mp hi⟩
    | subtype | object => simp [TypeFact.stateType?] at hf
  · rintro ⟨i, hi⟩
    exact ⟨.stateType name,
      (TypeFact.mem_ofStream h).mpr ⟨i, (TypeFact.at?_eq_stateType_iff hs).mpr hi⟩, rfl⟩

lemma lists_iff_extends (hs : s.Nested) (h : TypeFact.ofStream s = .ok facts) :
    Lists (facts.filterMap TypeFact.subtype?) name super ↔ s.Extends name super := by
  constructor
  · rintro ⟨supers, hmem, hin⟩
    obtain ⟨f, hf, heq⟩ := List.mem_filterMap.mp hmem
    cases f with
    | subtype name supers =>
      cases heq
      obtain ⟨i, hi⟩ := (TypeFact.mem_ofStream h).mp hf
      exact ⟨i, supers, (TypeFact.at?_eq_subtype_iff hs).mp hi, hin⟩
    | stateType | object => simp [TypeFact.subtype?] at heq
  · rintro ⟨i, supers, hi, hin⟩
    have hmem := (TypeFact.mem_ofStream h).mpr ⟨i, (TypeFact.at?_eq_subtype_iff hs).mpr hi⟩
    exact ⟨supers, List.mem_filterMap.mpr ⟨_, hmem, rfl⟩, hin⟩

/-- A balanced stream with a base type has state types: what reaches a type argument of a base type
through supertypes. -/
theorem mem_ofStream_iff (hs : s.Nested) (hbalance : s.problems = [])
    (hargument : ∃ name, s.IsArgument name) : ∃ names, ofStream s = .ok (some names) ∧
      ∀ name, name ∈ names ↔ ∃ argument, s.IsArgument argument ∧
        Relation.ReflTransGen s.Extends name argument := by
  obtain ⟨facts, hfacts⟩ := TypeFact.exists_ofStream hs hbalance
  obtain ⟨argument, hargument⟩ := hargument
  rw [← mem_arguments hs hfacts] at hargument
  have hlists : Lists (facts.filterMap TypeFact.subtype?) = s.Extends := by
    funext name super
    exact propext (lists_iff_extends hs hfacts)
  have hofFacts : ofFacts facts = some (closure (facts.filterMap TypeFact.subtype?)
      (distinct (facts.filterMap TypeFact.stateType?))) := by
    unfold ofFacts
    cases hnames : distinct (facts.filterMap TypeFact.stateType?) with
    | nil => simp [hnames] at hargument
    | cons => rfl
  refine ⟨_, by rw [ofStream, hfacts, Except.map, hofFacts], fun name => ?_⟩
  rw [mem_closure_iff, hlists]
  simp only [mem_arguments hs hfacts]

/-- The state types of a balanced text with a base type are exactly what reaches a type argument of a
base type through the supertypes of traits and classes. So they depend on nothing but what extends what:
the order of the declarations does not matter, and neither do cycles. -/
theorem stateTypes_exact {text : String} (h : Stream.ofText text = .ok s) (hbalance : s.problems = [])
    (hargument : ∃ name, s.IsArgument name) : ∃ names, ofStream s = .ok (some names) ∧
      (∀ name, name ∈ names ↔ ∃ argument, s.IsArgument argument ∧
        Relation.ReflTransGen s.Extends name argument) ∧
      ∀ text' s', Stream.ofText text' = .ok s' → s'.problems = [] →
        (∀ name, s'.IsArgument name ↔ s.IsArgument name) →
        (∀ name super, s'.Extends name super ↔ s.Extends name super) →
        ∃ names', ofStream s' = .ok (some names') ∧ SameMembers names' names := by
  obtain ⟨ts, -, rfl⟩ := map_eq_ok_iff.mp h
  obtain ⟨names, hnames, hmem⟩ := mem_ofStream_iff (Stream.nested_ofLexemes ts) hbalance hargument
  refine ⟨names, hnames, hmem, fun text' s' h' hbalance' hargument' hextends' => ?_⟩
  obtain ⟨ts', -, rfl⟩ := map_eq_ok_iff.mp h'
  have hextends : (Stream.ofLexemes ts').Extends = (Stream.ofLexemes ts).Extends := by
    funext name super
    exact propext (hextends' name super)
  obtain ⟨argument, hin⟩ := hargument
  obtain ⟨names', hnames', hmem'⟩ := mem_ofStream_iff (Stream.nested_ofLexemes ts') hbalance'
    ⟨argument, (hargument' argument).mpr hin⟩
  refine ⟨names', hnames', fun name => ?_⟩
  rw [hmem', hmem, hextends]
  simp only [hargument']

/-- A cycle of traits, declared before what it extends, and a type that extends no state type. -/
def cyclicTraits : String :=
  "trait A extends B\ntrait B extends q.C[X] with A\ntrait C extends S\ntrait E extends D\n" ++
    "class M extends FSM[p.S, D]"

lemma cyclicTraits_run : (Stream.ofText cyclicTraits).map (fun s =>
    (s.problems, TypeFact.at? s 26, ofStream s)) =
      .ok ([], .ok (some (.stateType "S")), .ok (some ["S", "C", "B", "A"])) := by decide +kernel

theorem stateTypes_exact_cyclicTraits : ∃ s, Stream.ofText cyclicTraits = .ok s ∧ s.problems = [] ∧
    s.IsArgument "S" ∧ ∀ name, name ∈ ["S", "C", "B", "A"] ↔ ∃ argument, s.IsArgument argument ∧
      Relation.ReflTransGen s.Extends name argument := by
  obtain ⟨s, h, hrun⟩ := map_eq_ok_iff.mp cyclicTraits_run
  simp only [Prod.mk.injEq] at hrun
  obtain ⟨hbalance, hfact, htypes⟩ := hrun
  have hnested : s.Nested := by
    obtain ⟨ts, -, rfl⟩ := map_eq_ok_iff.mp h
    exact Stream.nested_ofLexemes ts
  have hargument : s.IsArgument "S" := ⟨26, (TypeFact.at?_eq_stateType_iff hnested).mp hfact⟩
  obtain ⟨names, hnames, hmem, -⟩ := stateTypes_exact h hbalance ⟨"S", hargument⟩
  rw [htypes] at hnames
  cases hnames
  exact ⟨s, h, hbalance, hargument, hmem⟩

end StateTypes

end ActorDiagram
