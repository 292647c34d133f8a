import Mathlib
import ActorDiagram.Proofs.Lockstep
import ActorDiagram.Proofs.Spelling
import ActorDiagram.State.Declaration

/-!
# How a reading can fail

Every reader of a stream gives a result or fails in one of a few ways: a bracket that it follows is
not closed, which only happens where brackets do not balance; the source text is at fault in another
way; or an identifier is empty whose first letter is asked for. No token is asked for that is not
there.
-/

namespace ActorDiagram

/-- The run gives a result of this kind, or fails in one of these ways. -/
def Yields {α : Type} (fault : Error → Prop) (x : Except Error α) (P : α → Prop) : Prop :=
  match x with
  | .ok a => P a
  | .error e => fault e

namespace Yields

variable {α β : Type} {fault : Error → Prop} {x : Except Error α} {P : α → Prop}

theorem bind {f : α → Except Error β} {Q : β → Prop} (h : Yields fault x P)
    (hf : ∀ a, P a → Yields fault (f a) Q) : Yields fault (x >>= f) Q := by
  cases x with
  | error e => exact h
  | ok a => exact hf a h

theorem bind_eq {f : α → Except Error β} {Q : β → Prop} (h : Yields fault x P)
    (hf : ∀ a, x = .ok a → P a → Yields fault (f a) Q) : Yields fault (x >>= f) Q := by
  cases x with
  | error e => exact h
  | ok a => exact hf a rfl h

theorem bind_of_eq_ok {f : α → Except Error β} {Q : β → Prop} {a : α} (h : x = .ok a)
    (hf : Yields fault (f a) Q) : Yields fault (x >>= f) Q := by
  subst x
  exact hf

theorem map {f : α → β} {Q : β → Prop} (h : Yields fault x P) (hf : ∀ a, P a → Q (f a)) :
    Yields fault (x.map f) Q := by
  cases x with
  | error e => exact h
  | ok a => exact hf a h

theorem imp {Q : α → Prop} (h : Yields fault x P) (hPQ : ∀ a, P a → Q a) : Yields fault x Q := by
  cases x with
  | error e => exact h
  | ok a => exact hPQ a h

theorem weaken {fault' : Error → Prop} (h : Yields fault x P) (hfault : ∀ e, fault e → fault' e) :
    Yields fault' x P := by
  cases x with
  | error e => exact hfault e h
  | ok a => exact h

theorem ite {y : Except Error α} {c : Prop} [Decidable c] (hx : c → Yields fault x P)
    (hy : ¬ c → Yields fault y P) : Yields fault (if c then x else y) P := by
  split_ifs with hc
  · exact hx hc
  · exact hy hc

theorem mapM {f : α → Except Error β} {Q : α → β → Prop} {l : List α}
    (h : ∀ a ∈ l, Yields fault (f a) (Q a)) :
    Yields fault (l.mapM f) (fun bs => List.Forall₂ Q l bs) := by
  induction l with
  | nil => exact List.Forall₂.nil
  | cons a l ih =>
    rw [List.mapM_cons]
    refine (h a List.mem_cons_self).bind fun b hb => ?_
    refine (ih fun a' ha' => h a' (List.mem_cons_of_mem _ ha')).bind fun bs hbs => ?_
    exact List.Forall₂.cons hb hbs

end Yields

namespace Stream

/-- Failures that a reading of the stream may end with. -/
def Fault (s : Stream) : Error → Prop
  | .source .unclosedBracket _ _ => s.problems ≠ []
  | .source _ _ _ => True
  | .emptyIdentifier => s.HasWord ""
  | _ => False

namespace Nested

variable {s : Stream} {i stop : Nat} {t : Token}

/-- Some result, no matter which. -/
abbrev Runs (s : Stream) {α : Type} (x : Except Error α) : Prop := Yields s.Fault x fun _ => True

lemma token_of_get? (ht : s.get? i = some t) : s.token i = .ok t := token_eq_ok_iff.mpr ht

theorem token (hi : i < s.size) : Yields s.Fault (s.token i) fun t => s.get? i = some t := by
  rw [token_of_get? (get?_of_lt hi)]
  exact get?_of_lt hi

/-- The bracket that closes an opening one is looked up. -/
theorem closer (hs : s.Nested) (ht : s.get? i = some t) (ho : t.word.isOpening = true) :
    Yields s.Fault (s.closer i) fun c => i < c ∧ c < s.size := by
  cases hc : s.closer i with
  | ok c => exact hs.lt_closer hc
  | error e =>
    by_cases hbalance : s.problems = []
    · obtain ⟨c, hc'⟩ := hs.exists_closer hbalance ht ho
      rw [hc] at hc'
      cases hc'
    · unfold Stream.closer at hc
      rw [token_of_get? ht] at hc
      split at hc
      · cases hc
      · cases hc
        exact hbalance

theorem closer_of_isMark (hs : s.Nested) (ht : s.get? i = some t) {text : String}
    (h : t.isMark text = true) (htext : text ∈ ["(", "[", leftBrace]) :
    Yields s.Fault (s.closer i) fun c => i < c ∧ c < s.size :=
  hs.closer ht (Lexeme.isOpening_of_isMark h htext)

theorem closer_of_hasMark (hs : s.Nested) {text : String} (h : s.hasMark i text = true)
    (htext : text ∈ ["(", "[", leftBrace]) :
    Yields s.Fault (s.closer i) fun c => i < c ∧ c < s.size := by
  unfold hasMark at h
  cases ht : s.get? i with
  | none => simp [ht] at h
  | some t =>
    rw [ht] at h
    exact hs.closer_of_isMark ht h htext

theorem range {start : Nat} (hstop : stop ≤ s.size) : Yields s.Fault (s.range start stop)
    fun xs => ∀ x ∈ xs, start ≤ x.1 ∧ x.1 < stop ∧ s.get? x.1 = some x.2 := by
  have hmapM : Yields s.Fault (s.range start stop) fun xs => List.Forall₂
      (fun i x => x.1 = i ∧ s.get? i = some x.2) (List.range' start (stop - start)) xs := by
    refine Yields.mapM fun i hi => ?_
    rw [List.mem_range'_1] at hi
    exact (token (by omega)).map fun t ht => ⟨rfl, ht⟩
  refine hmapM.imp fun xs hxs x hx => ?_
  obtain ⟨i, hi, rfl, ht⟩ := exists_of_mem_left hxs.flip hx
  rw [List.mem_range'_1] at hi
  exact ⟨hi.1, by omega, ht⟩

/-! ### Names and types -/

lemma dottedTail_le (fuel : Nat) (hi : i ≤ s.size) :
    i + 2 * (s.dottedTail fuel i).length ≤ s.size := by
  induction fuel generalizing i with
  | zero => simpa [dottedTail] using hi
  | succ fuel ih =>
    unfold dottedTail
    split
    · rename_i dot name hdot hname
      split_ifs
      · have hlt := lt_of_get? hname
        have := ih (show i + 2 ≤ s.size by omega)
        rw [List.length_cons]
        omega
      · simpa using hi
    · simpa using hi

theorem dotted (ht : s.get? i = some t) :
    Yields s.Fault (s.dotted i) fun x => i < x.2 ∧ x.2 ≤ s.size := by
  have hlt := lt_of_get? ht
  have htail := dottedTail_le s.size (show i + 1 ≤ s.size by omega)
  unfold Stream.dotted dottedParts
  rw [token_of_get? ht]
  exact ⟨by simp only; omega, by simp only; omega⟩

theorem skipGroups (hs : s.Nested) (i : Nat) : Runs s (s.skipGroups i) := by
  unfold Stream.skipGroups
  generalize s.size = fuel
  induction fuel generalizing i with
  | zero => trivial
  | succ fuel ih =>
    unfold skipGroupsFrom
    cases ht : s.get? i with
    | none => trivial
    | some t =>
      refine Yields.ite (fun ho => ?_) fun _ => trivial
      rw [Bool.or_eq_true] at ho
      refine Yields.bind (P := fun _ => True) ?_ fun c _ => ih (c + 1)
      rcases ho with ho | ho
      · exact (hs.closer_of_isMark ht ho (by decide)).imp fun _ _ => trivial
      · exact (hs.closer_of_isMark ht ho (by decide)).imp fun _ _ => trivial

lemma supertypesFrom (hs : s.Nested) (fuel i : Nat) : Runs s (s.supertypesFrom fuel i) := by
  induction fuel generalizing i with
  | zero => trivial
  | succ fuel ih =>
    unfold Stream.supertypesFrom
    cases ht : s.get? i with
    | none => trivial
    | some t =>
      refine Yields.ite (fun _ => ?_) fun _ => trivial
      refine (dotted ht).bind fun x _ => ?_
      refine (hs.skipGroups x.2).bind fun next _ => ?_
      cases s.get? next with
      | none => trivial
      | some word =>
        refine Yields.ite (fun _ => ?_) fun _ => trivial
        exact (ih (next + 1)).bind fun _ _ => trivial

theorem supertypes (hs : s.Nested) (i : Nat) : Runs s (s.supertypes i) := by
  unfold Stream.supertypes
  refine (hs.skipGroups i).bind fun i _ => ?_
  cases s.get? i with
  | none => trivial
  | some word => exact Yields.ite (fun _ => hs.supertypesFrom _ _) fun _ => trivial

theorem stateTypes (hs : s.Nested) : Runs s (StateTypes.ofStream s) := by
  have hfact : ∀ i < s.size, Runs s (TypeFact.at? s i) := by
    intro i hi
    unfold TypeFact.at?
    refine (token hi).bind fun t _ => ?_
    refine Yields.ite (fun _ => ?_) fun _ => Yields.ite (fun _ => ?_) fun _ => trivial
    · unfold TypeFact.argumentAt?
      split
      · rename_i bracket first _ hfirst
        refine Yields.ite (fun _ => ?_) fun _ => trivial
        exact (dotted hfirst).bind fun _ _ => trivial
      · trivial
    · unfold TypeFact.declaredAt?
      split
      · refine Yields.ite (fun _ => ?_) fun _ => trivial
        exact (hs.supertypes _).bind fun _ _ => trivial
      · trivial
  unfold StateTypes.ofStream TypeFact.ofStream
  refine Yields.map (P := fun _ => True) ?_ fun _ _ => trivial
  refine (Yields.mapM (Q := fun _ _ => True) fun i hi => hfact i ?_).bind fun _ _ => trivial
  exact List.mem_range.mp hi

/-! ### Declarations -/

lemma declsFrom (hs : s.Nested) (types : Option (List String)) (fuel i : Nat)
    (groups : List StateIndex.Group) (decls : List DeclaredState) :
    Runs s (StateIndex.declsFrom s types fuel i groups decls) := by
  have hbody : ∀ next, StateIndex.opensBody s next = true → Runs s (s.closer next) := by
    intro next hopens
    unfold StateIndex.opensBody at hopens
    cases ht : s.get? next with
    | none => simp [ht] at hopens
    | some t =>
      rw [ht] at hopens
      exact (hs.closer_of_isMark ht hopens (by decide)).imp fun _ _ => trivial
  induction fuel generalizing i groups decls with
  | zero => trivial
  | succ fuel ih =>
    unfold StateIndex.declsFrom
    cases s.get? i with
    | none => trivial
    | some first =>
      simp only
      cases StateIndex.declHead? s i first with
      | none => exact ih _ _ _
      | some head =>
        refine (hs.supertypes head.next).bind fun ⟨supers, next⟩ _ => ?_
        refine Yields.ite (fun _ => ?_) fun _ => Yields.ite (fun hopens => ?_) fun _ => ih _ _ _
        · refine Yields.ite (fun _ => trivial) fun _ => Yields.ite (fun hopens => ?_) fun _ => ih _ _ _
          exact (hbody next hopens).bind fun close _ => ih _ _ _
        · rw [Bool.and_eq_true] at hopens
          exact (hbody next hopens.2).bind fun close _ => ih _ _ _

/-- The states of a stream are found, or the text is at fault. -/
theorem stateIndex (hs : s.Nested) : Runs s (StateIndex.ofStream s) := by
  unfold StateIndex.ofStream
  refine hs.stateTypes.bind fun types _ => ?_
  exact (hs.declsFrom types _ _ _ _).bind fun _ _ => trivial

theorem lookup (s : Stream) (states : StateIndex) (ref : String) (line column : Option Int) :
    Runs s (states.lookup ref line column) := by
  unfold StateIndex.lookup
  refine Yields.ite (fun _ => trivial) fun _ => ?_
  split <;> trivial

end Nested

end Stream

end ActorDiagram
