import Mathlib
import ActorDiagram.Proofs.DeclarationScan
import ActorDiagram.Proofs.UnclosedClause

/-!
# What stops the reading of declarations

No states are found exactly where something stops the scan for them or the reading of types before it: a
bracket without a partner whose partner is needed, or a state with the id of an earlier one.
-/

namespace ActorDiagram.StateIndex

/-- What stops the reading of declarations: the first type clause of the text that breaks off; or else the
first state or group of the scan whose body has no end, or the first state that repeats an id. -/
inductive Stops (s : Stream) : Error → Prop
  | clause {i : Nat} {e : Error} : s.TypeStop i e → (∀ j < i, ∀ e', ¬ s.TypeStop j e') → Stops s e
  | body {types : Option (List String)} {e : Error} : StateTypes.ofStream s = .ok types →
      BodyUnclosed s types e → Stops s e
  | repeats {types : Option (List String)} {e : Error} : StateTypes.ofStream s = .ok types →
      Repeats s types e → Stops s e

variable {s : Stream} {types : Option (List String)} {i : Nat} {groups : List Opened}
  {found : List Accepted} {e : Error}

lemma declsFrom_of_start (hs : s.Nested) (types : Option (List String)) :
    Yields (Stopped s types) (declsFrom s types s.size 0 [] [])
    fun decls => ∃ last groups found, Scan s types last groups found ∧ s.size ≤ last ∧
      DistinctIds groups found ∧ decls = found.map (declOf groups) :=
  declsFrom_yields hs .start List.nodup_nil (by omega)

lemma Scan.fails (hs : s.Nested) (h : Scan s types i groups found) (hdistinct : DistinctIds groups found)
    (htypes : StateTypes.ofStream s = .ok types) (hi : i < s.size)
    (hfails : ∀ fuel, declsFrom s types (fuel + 1) i (stackAt groups i) (found.map (declOf groups)) =
      .error e) : ofStream s = .error e := by
  obtain ⟨fuel, hfuel, hreplay⟩ := h.replay hs hdistinct
  obtain ⟨fuel, rfl⟩ : ∃ n, fuel = n + 1 := ⟨fuel - 1, by omega⟩
  rw [hfails] at hreplay
  unfold ofStream
  rw [htypes]
  simp only [Bind.bind, Except.bind, hreplay]

lemma Repeats.fails (hs : s.Nested) (h : Repeats s types e)
    (htypes : StateTypes.ofStream s = .ok types) : ofStream s = .error e := by
  obtain @⟨i, next, groups, found, head, supers, hscan, hdistinct, hdecl, hstate, a, ha, heq⟩ := h
  obtain ⟨first, ht, -⟩ := hdecl.starts
  have hany : (found.map (declOf groups)).any
      (·.id == (declOf groups ⟨i, head.next - 1, head.name, none⟩).id) = true :=
    List.any_eq_true.mpr ⟨_, List.mem_map_of_mem ha, beq_iff_eq.mpr heq⟩
  refine hscan.fails hs hdistinct htypes (Stream.lt_of_get? ht) fun fuel => ?_
  rw [declsFrom_of_declares _ _ hs hscan hdecl (a := ⟨i, head.next - 1, head.name, none⟩) rfl rfl,
    if_pos hstate, if_pos hany]
  rfl

lemma BodyUnclosed.unpartnered (h : BodyUnclosed s types e) : s.Unpartnered e := by
  cases h with
  | @body _ next _ _ _ _ _ _ _ _ _ hopens hc =>
    obtain ⟨t, ht, hmark⟩ := Stream.hasMark_eq_true_iff.mp hopens
    exact ⟨next, t, ht, Lexeme.isOpening_of_isMark hmark (by decide), hc⟩

lemma BodyUnclosed.fails (hs : s.Nested) (h : BodyUnclosed s types e)
    (htypes : StateTypes.ofStream s = .ok types) : ofStream s = .error e := by
  obtain @⟨i, next, groups, found, head, supers, _, hscan, hdistinct, hdecl, hbody, hopens, hc⟩ := h
  obtain ⟨first, ht, -⟩ := hdecl.starts
  refine hscan.fails hs hdistinct htypes (Stream.lt_of_get? ht) fun fuel => ?_
  rw [declsFrom_of_declares _ _ hs hscan hdecl (a := ⟨i, head.next - 1, head.name, none⟩) rfl rfl]
  rcases hbody with ⟨hstate, hfresh⟩ | ⟨hstate, hgroup⟩
  · have hnew : ¬ (found.map (declOf groups)).any
        (·.id == (declOf groups ⟨i, head.next - 1, head.name, none⟩).id) = true := by
      rw [List.any_map, List.any_eq_true]
      rintro ⟨a, ha, heq⟩
      exact hfresh a ha (beq_iff_eq.mp heq)
    rw [if_pos hstate, if_neg hnew, if_pos hopens, hc]
    rfl
  · rw [if_neg (by simp [hstate]), if_pos (by rw [hgroup, hopens]; rfl), hc]
    rfl

/-- A clause at which the scan stops is one at which the reader of types stops. -/
lemma typeStop_of_supertypes (hs : s.Nested) {i : Nat} {first : Token} {head : DeclHead}
    (hhead : declHead? s i first = some head) (hread : s.supertypes head.next = .error e) :
    ∃ k, s.TypeStop k e := by
  obtain ⟨k, keyword, -, -, -, hkeyword, hof, hname, hident, hnext⟩ := words_of_declHead? hhead
  rw [hnext, Stream.supertypes_eq_error_iff hs] at hread
  refine ⟨k, ⟨keyword, hkeyword, ?_⟩, Stream.isNameAt_eq_true_iff.mpr ⟨_, hname, hident⟩, hread⟩
  simp only [Lexeme.isWordOf_eq_true, List.mem_cons, List.not_mem_nil, or_false] at hof ⊢
  tauto

/-- The declarations of a stream are not found exactly where something stops their reading. -/
theorem ofStream_eq_error_iff (hs : s.Nested) : ofStream s = .error e ↔ Stops s e := by
  constructor
  · intro h
    rcases bind_eq_error_iff.mp h with htypes | ⟨types, htypes, h⟩
    · obtain ⟨i, hstop, hbefore⟩ := (StateTypes.ofStream_eq_error_iff hs).mp htypes
      exact .clause hstop hbefore
    · rcases bind_eq_error_iff.mp h with hdecls | ⟨_, _, h⟩
      · have hread := declsFrom_of_start hs types
        rw [hdecls] at hread
        cases hread with
        | repeats hrepeats => exact .repeats htypes hrepeats
        | body hbody => exact .body htypes hbody
        | clause _ hhead hsupers =>
          obtain ⟨k, hstop⟩ := typeStop_of_supertypes hs hhead hsupers
          exact absurd hstop (StateTypes.not_typeStop hs htypes)
      · cases h
  · intro h
    cases h with
    | clause hstop hbefore =>
      refine bind_eq_error_iff.mpr (.inl ?_)
      exact (StateTypes.ofStream_eq_error_iff hs).mpr ⟨_, hstop, hbefore⟩
    | body htypes hbody => exact hbody.fails hs htypes
    | repeats htypes hrepeats => exact hrepeats.fails hs htypes

lemma Stops.unpartnered_or_repeats (h : Stops s e) :
    s.Unpartnered e ∨ ∃ types, StateTypes.ofStream s = .ok types ∧ Repeats s types e := by
  cases h with
  | clause hstop => exact .inl hstop.clause.unpartnered
  | body _ hbody => exact .inl hbody.unpartnered
  | repeats htypes hrepeats => exact .inr ⟨_, htypes, hrepeats⟩

/-- The first declaration that repeats an id is the failure of the reader, if it gets there. -/
theorem ofStream_eq_duplicate_iff (hs : s.Nested) (id : String) (line column : Option Int) :
    ofStream s = .error (.source (.duplicateState id) line column) ↔
      ∃ types, StateTypes.ofStream s = .ok types ∧
        Repeats s types (.source (.duplicateState id) line column) := by
  rw [ofStream_eq_error_iff hs]
  constructor
  · intro h
    rcases h.unpartnered_or_repeats with hbracket | hrepeats
    · obtain ⟨k, t, ht, -, hc⟩ := hbracket
      cases Stream.closer_eq_error ht hc
    · exact hrepeats
  · rintro ⟨types, htypes, hrepeats⟩
    exact .repeats htypes hrepeats

end ActorDiagram.StateIndex
