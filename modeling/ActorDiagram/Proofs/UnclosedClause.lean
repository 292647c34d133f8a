import Mathlib
import ActorDiagram.Proofs.TypeClosure

/-!
# Type clauses that break off

The reader of a type clause asks for the partner of every parenthesis and square bracket in it. It fails
at the first one that has none, and in no other way. So what a stream says about types breaks off at its
first declaration with such a clause.
-/

namespace ActorDiagram

namespace Stream

/-- Groups from `i` on break off at a bracket without a partner. -/
inductive GroupsStop (s : Stream) : Nat → Error → Prop
  | here {i : Nat} {e : Error} : s.opensGroup i = true → s.closer i = .error e → GroupsStop s i e
  | later {i c : Nat} {e : Error} : s.opensGroup i = true → s.closer i = .ok c →
      GroupsStop s (c + 1) e → GroupsStop s i e

/-- Types `A[...](...) with B ...` from `i` on break off in the groups of one of them. -/
inductive SupersStop (s : Stream) : Nat → Error → Prop
  | here {i j : Nat} {parts : List String} {e : Error} : s.isNameAt i = true → s.Path i parts j →
      s.GroupsStop j e → SupersStop s i e
  | later {i j k : Nat} {parts : List String} {e : Error} : s.isNameAt i = true → s.Path i parts j →
      s.Groups j k → s.isWordAt k "with" = true → SupersStop s (k + 1) e → SupersStop s i e

/-- What follows the name of a declaration breaks off in its groups, or in the types that it extends. -/
inductive ClauseStops (s : Stream) : Nat → Error → Prop
  | groups {i : Nat} {e : Error} : s.GroupsStop i e → ClauseStops s i e
  | supers {i j : Nat} {e : Error} : s.Groups i j → s.isWordAt j "extends" = true →
      s.SupersStop (j + 1) e → ClauseStops s i e

/-- At `i` a trait, a class or an object is declared whose type clause breaks off. -/
structure TypeStop (s : Stream) (i : Nat) (e : Error) : Prop where
  keyword : ∃ t, s.get? i = some t ∧ t.isWordOf ["trait", "class", "object"] = true
  isName : s.isNameAt (i + 1) = true
  clause : s.ClauseStops (i + 2) e

variable {s : Stream} {fuel i j : Nat} {parts : List String} {e : Error}

/-! ### Readers that fail -/

lemma GroupsStop.opens (h : s.GroupsStop i e) : s.opensGroup i = true := by
  cases h with
  | here ho | later ho => exact ho

lemma SupersStop.isNameAt (h : s.SupersStop i e) : s.isNameAt i = true := by
  cases h with
  | here hname | later hname => exact hname

lemma Path.end_unique (h : s.Path i parts j) {parts' : List String} {k : Nat} (h' : s.Path i parts' k) :
    j = k := by
  have hname : ∃ t, s.get? i = some t := by
    cases h with
    | last ht | dot ht => exact ⟨_, ht⟩
  obtain ⟨t, ht⟩ := hname
  rw [(h.dottedTail ht s.size (by omega)).2, (h'.dottedTail ht s.size (by omega)).2]

/-- The reader that skips groups fails where they break off. -/
theorem skipGroupsFrom_eq_error_iff (hs : s.Nested) (hfuel : s.size ≤ i + fuel) :
    s.skipGroupsFrom fuel i = .error e ↔ s.GroupsStop i e := by
  induction fuel generalizing i with
  | zero =>
    have hno := opensGroup_of_le (s := s) (show s.size ≤ i by omega)
    constructor
    · intro h
      cases h
    · intro h
      simp [h.opens] at hno
  | succ fuel ih =>
    rw [skipGroupsFrom_succ]
    split_ifs with ho
    · rw [bind_eq_error_iff]
      constructor
      · rintro (hc | ⟨c, hc, h⟩)
        · exact .here ho hc
        · have := (hs.lt_closer hc).1
          exact .later ho hc ((ih (by omega)).mp h)
      · intro h
        cases h with
        | here _ hc => exact .inl hc
        | @later _ c _ _ hc hrest =>
          have := (hs.lt_closer hc).1
          exact .inr ⟨c, hc, (ih (by omega)).mpr hrest⟩
    · constructor
      · intro h
        cases h
      · intro h
        exact absurd h.opens ho

theorem skipGroups_eq_error_iff (hs : s.Nested) : s.skipGroups i = .error e ↔ s.GroupsStop i e :=
  skipGroupsFrom_eq_error_iff hs (by omega)

/-- The reader of supertypes fails where they break off. -/
theorem supertypesFrom_eq_error_iff (hs : s.Nested) (hfuel : s.size ≤ i + fuel) :
    s.supertypesFrom fuel i = .error e ↔ s.SupersStop i e := by
  induction fuel generalizing i with
  | zero =>
    have hno : s.isNameAt i = false := by rw [isNameAt, get?_eq_none (by omega)]; rfl
    constructor
    · intro h
      cases h
    · intro h
      simp [h.isNameAt] at hno
  | succ fuel ih =>
    rw [supertypesFrom_succ]
    by_cases hname : s.isNameAt i = true
    · obtain ⟨parts, j, hpath⟩ := exists_path hname
      have hj := hpath.lt.1
      rw [if_pos hname, (dotted_eq_ok_iff hname).mpr ⟨_, hpath, rfl⟩]
      change (s.skipGroups j >>= _) = _ ↔ _
      rw [bind_eq_error_iff, skipGroups_eq_error_iff hs]
      constructor
      · rintro (hgroups | ⟨k, hskip, h⟩)
        · exact .here hname hpath hgroups
        · have hgroups := (skipGroups_eq_ok_iff hs).mp hskip
          have := hgroups.le hs
          split_ifs at h with hwith
          rcases bind_eq_error_iff.mp h with h | ⟨_, _, h⟩
          · exact .later hname hpath hgroups hwith ((ih (by omega)).mp h)
          · cases h
      · intro h
        cases h with
        | here _ hpath' hgroups =>
          rw [hpath.end_unique hpath']
          exact .inl hgroups
        | @later _ _ k _ _ _ hpath' hgroups hwith hrest =>
          rw [← hpath.end_unique hpath'] at hgroups
          have := hgroups.le hs
          refine .inr ⟨k, (skipGroups_eq_ok_iff hs).mpr hgroups, ?_⟩
          rw [if_pos hwith, bind_eq_error_iff]
          exact .inl ((ih (by omega)).mpr hrest)
    · rw [if_neg hname]
      constructor
      · intro h
        cases h
      · intro h
        exact absurd h.isNameAt hname

/-- The reader of supertypes fails exactly where a clause breaks off. -/
theorem supertypes_eq_error_iff (hs : s.Nested) : s.supertypes i = .error e ↔ s.ClauseStops i e := by
  rw [supertypes_eq, bind_eq_error_iff, skipGroups_eq_error_iff hs]
  constructor
  · rintro (hgroups | ⟨j, hskip, h⟩)
    · exact .groups hgroups
    · have hgroups := (skipGroups_eq_ok_iff hs).mp hskip
      split_ifs at h with hextends
      exact .supers hgroups hextends ((supertypesFrom_eq_error_iff hs (by omega)).mp h)
  · intro h
    cases h with
    | groups hgroups => exact .inl hgroups
    | @supers j _ hgroups hextends hsupers =>
      refine .inr ⟨j, (skipGroups_eq_ok_iff hs).mpr hgroups, ?_⟩
      rw [if_pos hextends]
      exact (supertypesFrom_eq_error_iff hs (by omega)).mpr hsupers

/-! ### What a clause breaks off at -/

/-- Asking for the partner of an opening bracket fails like this. -/
def Unpartnered (s : Stream) (e : Error) : Prop :=
  ∃ k t, s.get? k = some t ∧ t.word.isOpening = true ∧ s.closer k = .error e

lemma closer_eq_error {k : Nat} {t : Token} (ht : s.get? k = some t) (h : s.closer k = .error e) :
    e = .source .unclosedBracket (some t.line) (some t.column) := by
  unfold closer at h
  rw [Nested.token_of_get? ht] at h
  split at h
  · cases h
  · cases h
    rfl

lemma GroupsStop.unpartnered (h : s.GroupsStop i e) : s.Unpartnered e := by
  induction h with
  | here ho hc =>
    obtain ⟨t, ht, hopening⟩ := isOpening_of_opensGroup ho
    exact ⟨_, t, ht, hopening, hc⟩
  | later _ _ _ ih => exact ih

lemma SupersStop.unpartnered (h : s.SupersStop i e) : s.Unpartnered e := by
  induction h with
  | here _ _ hgroups => exact hgroups.unpartnered
  | later _ _ _ _ _ ih => exact ih

lemma ClauseStops.unpartnered (h : s.ClauseStops i e) : s.Unpartnered e := by
  cases h with
  | groups hgroups => exact hgroups.unpartnered
  | supers _ _ hsupers => exact hsupers.unpartnered

end Stream

/-! ### Facts that break off -/

namespace TypeFact

variable {s : Stream} {i : Nat} {e : Error}

lemma declaredAt?_eq_error_iff (hs : s.Nested) {keyword : Token} :
    declaredAt? s keyword i = .error e ↔ s.isNameAt i = true ∧ s.ClauseStops (i + 1) e := by
  unfold declaredAt? Stream.isNameAt
  cases s.get? i with
  | none => simp
  | some name =>
    simp only [Option.any_some]
    by_cases hname : name.isIdentifier = true
    · rw [if_pos hname, bind_eq_error_iff, Stream.supertypes_eq_error_iff hs]
      simp [hname]
    · simp [hname]

/-- The reader of facts fails exactly at a declaration whose clause breaks off. -/
theorem at?_eq_error_iff (hs : s.Nested) (hi : i < s.size) :
    at? s i = .error e ↔ s.TypeStop i e := by
  obtain ⟨t, ht⟩ : ∃ t, s.get? i = some t := ⟨_, Stream.get?_of_lt hi⟩
  unfold at?
  rw [Stream.Nested.token_of_get? ht]
  change (if _ then _ else _) = _ ↔ _
  constructor
  · intro h
    split_ifs at h with hbase hkeyword
    · obtain ⟨f, hf⟩ := exists_argumentAt? (s := s) (i := i + 1)
      rw [hf] at h
      cases h
    · obtain ⟨hname, hclause⟩ := (declaredAt?_eq_error_iff hs).mp h
      exact ⟨⟨t, ht, hkeyword⟩, hname, hclause⟩
  · rintro ⟨⟨t', ht', hkeyword⟩, hname, hclause⟩
    rw [ht] at ht'
    cases ht'
    rw [isWordOf_machineTypes hkeyword, if_neg Bool.false_ne_true, if_pos hkeyword]
    exact (declaredAt?_eq_error_iff hs).mpr ⟨hname, hclause⟩

end TypeFact

namespace StateTypes

variable {s : Stream} {e : Error}

/-- The state types of a stream are not found exactly where some clause breaks off, and the failure is
that of the first. -/
theorem ofStream_eq_error_iff (hs : s.Nested) : ofStream s = .error e ↔
    ∃ i, s.TypeStop i e ∧ ∀ j < i, ∀ e', ¬ s.TypeStop j e' := by
  have hfacts : ofStream s = .error e ↔ (List.range s.size).mapM (TypeFact.at? s) = .error e := by
    unfold ofStream TypeFact.ofStream
    cases (List.range s.size).mapM (TypeFact.at? s) <;> simp [Except.map, Bind.bind, Except.bind]
  have hbefore : ∀ j < s.size, (∃ f, TypeFact.at? s j = .ok f) ↔ ∀ e', ¬ s.TypeStop j e' := by
    intro j hj
    simp only [← TypeFact.at?_eq_error_iff hs hj]
    cases TypeFact.at? s j <;> simp
  rw [hfacts, mapM_range_eq_error_iff]
  constructor
  · rintro ⟨i, hi, hfails, hreads⟩
    refine ⟨i, (TypeFact.at?_eq_error_iff hs hi).mp hfails, fun j hj => ?_⟩
    exact (hbefore j (by omega)).mp (hreads j hj)
  · rintro ⟨i, hstop, hnone⟩
    obtain ⟨t, ht, -⟩ := hstop.keyword
    have hi := Stream.lt_of_get? ht
    refine ⟨i, hi, (TypeFact.at?_eq_error_iff hs hi).mpr hstop, fun j hj => ?_⟩
    exact (hbefore j (by omega)).mpr (hnone j hj)

lemma not_typeStop (hs : s.Nested) {types : Option (List String)} (h : ofStream s = .ok types) {i : Nat} :
    ¬ s.TypeStop i e := by
  intro hstop
  obtain ⟨t, ht, -⟩ := hstop.keyword
  have hi := Stream.lt_of_get? ht
  obtain ⟨facts, hfacts, -⟩ := map_eq_ok_iff.mp h
  obtain ⟨found, hfound, -⟩ := bind_eq_ok_iff.mp hfacts
  obtain ⟨f, -, hf⟩ := exists_of_mem_left (forall₂_of_mapM_eq_ok hfound) (List.mem_range.mpr hi)
  rw [(TypeFact.at?_eq_error_iff hs hi).mpr hstop] at hf
  cases hf

end StateTypes

end ActorDiagram
