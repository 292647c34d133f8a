import Mathlib
import ActorDiagram.Proofs.Results
import ActorDiagram.Proofs.WindowBody

/-!
# Bound names

A name that is bound is not called. Where nothing is called anyway, it makes no difference how many
names are bound.
-/

namespace ActorDiagram

/-! ### Calls -/

/-- No branch calls a helper. -/
def CallFree (bs : List Branch) : Prop := ∀ b ∈ bs, ∀ name, b.action ≠ .call name

lemma callFree_append {bs bs' : List Branch} :
    CallFree (bs ++ bs') ↔ CallFree bs ∧ CallFree bs' :=
  List.forall_mem_append

lemma callFree_under {bs : List Branch} {label : String} :
    CallFree (bs.map (·.under label)) ↔ CallFree bs :=
  List.forall_mem_map

namespace Directive

variable {s : Stream} {states : StateIndex} {bound bound' : List String} {i start stop : Nat}

/-- The token at `i` is called in a range that ends before `stop`: a name in small letters that is free to
be a helper, is not bound, and that its neighbours leave alone. -/
structure CalledAt (s : Stream) (bound : List String) (stop i : Nat) (t : Token) : Prop where
  get : s.get? i = some t
  identifier : t.isIdentifier = true
  lower : t.text.toList.head?.any Text.isLowerCase = true
  free : t.text ∉ wordsNotCalled
  unbound : t.text ∉ bound
  notIntroduced : introduced s i = false
  notDenied : denied s i stop = false

lemma CalledAt.of_subset (hbound : bound ⊆ bound') {t : Token} (h : CalledAt s bound' stop i t) :
    CalledAt s bound stop i t :=
  { h with unbound := fun hmem => h.unbound (hbound hmem) }

/-- What is called at a token: its name, nothing, or a word in back quotes that has no first letter. -/
lemma call?_cases (bound : List String) (stop : Nat) {t : Token} (ht : s.get? i = some t) :
    (CalledAt s bound stop i t ∧ call? s bound i stop = .ok (some (.call t.text))) ∨
    (¬ CalledAt s bound stop i t ∧ (t.isIdentifier = true → t.text ≠ "") ∧
      call? s bound i stop = .ok none) ∨
    (¬ CalledAt s bound stop i t ∧ t.isIdentifier = true ∧ t.text = "" ∧
      call? s bound i stop = .error .emptyIdentifier) := by
  rw [call?_eq ht]
  split_ifs with hno
  · rw [Bool.or_eq_true, Bool.not_eq_true', List.contains_iff_mem] at hno
    refine .inr (.inl ⟨fun h => ?_, fun hident hempty => ?_, rfl⟩)
    · rcases hno with hident | hfree
      · rw [h.identifier] at hident
        cases hident
      · exact h.free hfree
    · rw [hident, hempty] at hno
      revert hno
      decide
  · rw [Bool.or_eq_true, Bool.not_eq_true', List.contains_iff_mem, not_or, Bool.not_eq_false] at hno
    cases htext : t.text.toList with
    | nil =>
      refine .inr (.inr ⟨fun h => ?_, hno.1, String.toList_eq_nil_iff.mp htext, ?_⟩)
      · have := h.lower
        rw [htext] at this
        cases this
      · simp only [startsLowerCase, htext]
        rfl
    | cons c cs =>
      have hlower : startsLowerCase t.text = .ok (Text.isLowerCase c) := by rw [startsLowerCase, htext]
      rw [hlower, Except.map]
      split_ifs with hdenied
      · refine .inr (.inl ⟨fun h => ?_, fun _ hempty => ?_, rfl⟩)
        · have hlow := h.lower
          rw [htext, List.head?_cons, Option.any_some] at hlow
          rw [hlow, h.notIntroduced, h.notDenied] at hdenied
          exact h.unbound (by simpa using hdenied)
        · rw [hempty] at htext
          cases htext
      · simp only [Bool.or_eq_true, Bool.not_eq_true', List.contains_iff_mem, not_or,
          Bool.not_eq_false, Bool.not_eq_true] at hdenied
        obtain ⟨⟨⟨hlow, hbound⟩, hintroduced⟩, hden⟩ := hdenied
        exact .inl ⟨⟨ht, hno.1, by rw [htext]; exact hlow, hno.2, hbound, hintroduced, hden⟩, rfl⟩

lemma exists_get?_of_call? {a : Option Action} (h : call? s bound i stop = .ok a) :
    ∃ t, s.get? i = some t := by
  obtain ⟨t, ht, -⟩ := bind_eq_ok_iff.mp h
  exact ⟨t, Stream.token_eq_ok_iff.mp ht⟩

lemma call?_eq_some_iff {a : Action} :
    call? s bound i stop = .ok (some a) ↔ ∃ t, CalledAt s bound stop i t ∧ a = .call t.text := by
  constructor
  · intro h
    obtain ⟨t, ht⟩ := exists_get?_of_call? h
    rcases call?_cases bound stop ht with ⟨hcalled, hcall⟩ | ⟨-, -, hcall⟩ |
      ⟨-, -, -, hcall⟩
    · rw [h] at hcall
      cases hcall
      exact ⟨t, hcalled, rfl⟩
    all_goals
      rw [h] at hcall
      cases hcall
  · rintro ⟨t, hcalled, rfl⟩
    rcases call?_cases bound stop hcalled.get with ⟨-, hcall⟩ | ⟨hno, -⟩ | ⟨hno, -⟩
    · exact hcall
    all_goals exact absurd hcalled hno

lemma call?_eq_none_iff : call? s bound i stop = .ok none ↔
    ∃ t, s.get? i = some t ∧ (t.isIdentifier = true → t.text ≠ "") ∧ ¬ CalledAt s bound stop i t := by
  constructor
  · intro h
    obtain ⟨t, ht⟩ := exists_get?_of_call? h
    rcases call?_cases bound stop ht with ⟨-, hcall⟩ | ⟨hno, hempty, -⟩ |
      ⟨-, -, -, hcall⟩
    · rw [h] at hcall
      cases hcall
    · exact ⟨t, ht, hempty, hno⟩
    · rw [h] at hcall
      cases hcall
  · rintro ⟨t, ht, hempty, hno⟩
    rcases call?_cases bound stop ht with ⟨hcalled, -⟩ | ⟨-, -, hcall⟩ |
      ⟨-, hident, htext, -⟩
    · exact absurd hcalled hno
    · exact hcall
    · exact absurd htext (hempty hident)

lemma call?_of_subset (hbound : bound ⊆ bound') (h : call? s bound i stop = .ok none) :
    call? s bound' i stop = .ok none := by
  obtain ⟨t, ht, hempty, hno⟩ := call?_eq_none_iff.mp h
  exact call?_eq_none_iff.mpr ⟨t, ht, hempty, fun hcalled => hno (hcalled.of_subset hbound)⟩

lemma firstIn_eq_none_iff {search : Nat → Except Error (Option Action)} {is : List Nat} :
    firstIn search is = .ok none ↔ ∀ i ∈ is, search i = .ok none := by
  induction is with
  | nil => simp [firstIn]
  | cons i is ih =>
    rw [List.forall_mem_cons, ← ih, firstIn_cons, bind_eq_ok_iff]
    constructor
    · rintro ⟨a, ha, h⟩
      cases a with
      | none => exact ⟨ha, h⟩
      | some a => cases h
    · rintro ⟨ha, h⟩
      exact ⟨none, ha, h⟩

lemma firstIn_range'_eq_none_iff {search : Nat → Except Error (Option Action)} :
    firstIn search (List.range' start (stop - start)) = .ok none ↔
      ∀ i, start ≤ i → i < stop → search i = .ok none := by
  rw [firstIn_eq_none_iff]
  constructor
  · exact fun h i hi hstop => h i (List.mem_range'_1.mpr ⟨hi, by omega⟩)
  · intro h i hi
    rw [List.mem_range'_1] at hi
    exact h i hi.1 (by omega)

/-- What a search in a range gives is found at one place, and nothing before it. -/
lemma firstIn_range'_eq_some_iff {search : Nat → Except Error (Option Action)} {a : Action} :
    firstIn search (List.range' start (stop - start)) = .ok (some a) ↔
      ∃ k, start ≤ k ∧ k < stop ∧ search k = .ok (some a) ∧
        ∀ j, start ≤ j → j < k → search j = .ok none := by
  generalize hn : stop - start = n
  induction n generalizing start with
  | zero =>
    refine iff_of_false (fun h => by cases h) ?_
    rintro ⟨k, hk, hstop, -⟩
    omega
  | succ n ih =>
    have hnext := ih (show stop - (start + 1) = n by omega)
    rw [List.range'_succ, firstIn_cons, bind_eq_ok_iff]
    constructor
    · rintro ⟨b, hb, h⟩
      cases b with
      | some b =>
        cases h
        exact ⟨start, le_refl _, by omega, hb, fun j hj hlt => by omega⟩
      | none =>
        obtain ⟨k, hk, hstop, hsearch, hbefore⟩ := hnext.mp h
        refine ⟨k, by omega, hstop, hsearch, fun j hj hjk => ?_⟩
        rcases hj.eq_or_lt with rfl | hlt
        · exact hb
        · exact hbefore j hlt hjk
    · rintro ⟨k, hk, hstop, hsearch, hbefore⟩
      rcases hk.eq_or_lt with rfl | hlt
      · exact ⟨some a, hsearch, rfl⟩
      · exact ⟨none, hbefore start (le_refl _) hlt,
          hnext.mpr ⟨k, hlt, hstop, hsearch, fun j hj hjk => hbefore j (by omega) hjk⟩⟩

/-- A range gives its first directive, or where it has none its first call. -/
theorem find?_eq_some_iff {a : Action} : find? s states bound start stop = .ok (some a) ↔
    (∃ k, start ≤ k ∧ k < stop ∧ at? s states k stop = .ok (some a) ∧
      ∀ j, start ≤ j → j < k → at? s states j stop = .ok none) ∨
    ((∀ i, start ≤ i → i < stop → at? s states i stop = .ok none) ∧
      ∃ k, start ≤ k ∧ k < stop ∧ call? s bound k stop = .ok (some a) ∧
        ∀ j, start ≤ j → j < k → call? s bound j stop = .ok none) := by
  rw [← firstIn_range'_eq_some_iff, ← firstIn_range'_eq_none_iff, ← firstIn_range'_eq_some_iff]
  constructor
  · intro h
    obtain ⟨found, hfound, h⟩ := bind_eq_ok_iff.mp h
    cases found with
    | some b =>
      cases h
      exact .inl hfound
    | none => exact .inr ⟨hfound, h⟩
  · rintro (h | ⟨hnone, h⟩)
    · exact bind_eq_ok_iff.mpr ⟨some a, h, rfl⟩
    · exact bind_eq_ok_iff.mpr ⟨none, hnone, h⟩

/-- A range without a call is read alike under more bound names. -/
theorem find?_of_subset (hbound : bound ⊆ bound') {a : Option Action}
    (h : find? s states bound start stop = .ok a) (hcall : ∀ name, a ≠ some (.call name)) :
    find? s states bound' start stop = .ok a := by
  obtain ⟨b, hb, h⟩ := bind_eq_ok_iff.mp h
  refine bind_eq_ok_iff.mpr ⟨b, hb, ?_⟩
  cases b with
  | some b => exact h
  | none =>
    cases a with
    | none =>
      have hnone := firstIn_eq_none_iff.mp h
      exact firstIn_eq_none_iff.mpr fun i hi => call?_of_subset hbound (hnone i hi)
    | some a =>
      obtain ⟨i, -, -, hi, -⟩ := firstIn_range'_eq_some_iff.mp h
      obtain ⟨t, -, rfl⟩ := call?_eq_some_iff.mp hi
      exact absurd rfl (hcall t.text)

end Directive

/-! ### Bodies -/

namespace Body

variable {s : Stream} {states : StateIndex} {read : Reader} {bound bound' : List String}
  {start stop : Nat} {bs : List Branch}

/-- What this reader reads without a call, it reads alike under more bound names. -/
def IsStable (read : Reader) : Prop :=
  ∀ (start stop : Nat) (bound bound' : List String) (bs : List Branch), bound ⊆ bound' →
    read start stop bound = .ok bs → CallFree bs → read start stop bound' = .ok bs

lemma arm_of_subset (hread : IsStable read) (hbound : bound ⊆ bound') {label : String}
    (h : arm read s bound label start stop = .ok bs) (hfree : CallFree bs) :
    arm read s bound' label start stop = .ok bs := by
  unfold arm at h ⊢
  obtain ⟨⟨first, last⟩, hrange, h⟩ := bind_eq_ok_iff.mp h
  obtain ⟨inner, hinner, h⟩ := bind_eq_ok_iff.mp h
  cases h
  rw [hrange, bind_eq_ok_iff]
  exact ⟨_, rfl, bind_eq_ok_iff.mpr ⟨inner, hread _ _ _ _ _ hbound hinner (callFree_under.mp hfree), rfl⟩⟩

lemma ofArms_of_subset (hread : IsStable read) (hbound : bound ⊆ bound') {arms : List Arm}
    (h : ofArms read s bound arms = .ok bs) (hfree : CallFree bs) :
    ofArms read s bound' arms = .ok bs := by
  induction arms generalizing bs with
  | nil => exact h
  | cons a rest ih =>
    unfold ofArms at h ⊢
    obtain ⟨label, hlabel, h⟩ := bind_eq_ok_iff.mp h
    obtain ⟨names, hnames, h⟩ := bind_eq_ok_iff.mp h
    obtain ⟨inner, hinner, h⟩ := bind_eq_ok_iff.mp h
    obtain ⟨others, hothers, h⟩ := bind_eq_ok_iff.mp h
    cases h
    rw [callFree_append, callFree_under] at hfree
    have hmore : bound ++ names ⊆ bound' ++ names := List.append_subset.mpr
      ⟨List.subset_append_of_subset_left _ hbound, List.subset_append_right _ _⟩
    rw [hlabel, hnames, bind_eq_ok_iff]
    refine ⟨_, rfl, bind_eq_ok_iff.mpr ⟨_, rfl, bind_eq_ok_iff.mpr ⟨inner, ?_, ?_⟩⟩⟩
    · exact hread _ _ _ _ _ hmore hinner hfree.1
    · rw [ih hothers hfree.2]
      rfl

lemma conditional_of_subset (hread : IsStable read) (hbound : bound ⊆ bound') {fuel i : Nat}
    (h : conditional read s bound stop fuel i = .ok bs) (hfree : CallFree bs) :
    conditional read s bound' stop fuel i = .ok bs := by
  induction fuel generalizing i bs with
  | zero => cases h
  | succ fuel ih =>
    rw [conditional_succ] at h ⊢
    obtain ⟨close, hclose, h⟩ := bind_eq_ok_iff.mp h
    obtain ⟨thenEnd, hend, h⟩ := bind_eq_ok_iff.mp h
    obtain ⟨inner, hinner, h⟩ := bind_eq_ok_iff.mp h
    rw [hclose, bind_eq_ok_iff]
    refine ⟨_, rfl, ?_⟩
    rw [hend, bind_eq_ok_iff]
    refine ⟨_, rfl, bind_eq_ok_iff.mpr ⟨inner, ?_, ?_⟩⟩
    · apply arm_of_subset hread hbound hinner
      split_ifs at h
      · cases h
        exact hfree
      all_goals
        obtain ⟨others, -, h⟩ := bind_eq_ok_iff.mp h
        try obtain ⟨others, -, h⟩ := bind_eq_ok_iff.mp h
        cases h
        exact (callFree_append.mp hfree).1
    · split_ifs at h ⊢ with hno hchain
      · exact h
      · obtain ⟨others, hothers, h⟩ := bind_eq_ok_iff.mp h
        cases h
        rw [ih hothers (callFree_append.mp hfree).2]
        rfl
      · obtain ⟨elseEnd, helse, h⟩ := bind_eq_ok_iff.mp h
        obtain ⟨others, hothers, h⟩ := bind_eq_ok_iff.mp h
        cases h
        rw [helse, bind_eq_ok_iff]
        refine ⟨_, rfl, ?_⟩
        rw [arm_of_subset hread hbound hothers (callFree_append.mp hfree).2]
        rfl

lemma branching_of_subset (hread : IsStable read) (hbound : bound ⊆ bound') {depth : Nat}
    {tokens : List (Nat × Token)} {found : Option (List Branch)}
    (h : branching read s bound stop depth tokens = .ok found)
    (hfree : ∀ bs, found = some bs → CallFree bs) :
    branching read s bound' stop depth tokens = .ok found := by
  -- Outcomes that are dropped for being none at all call nothing.
  have hfree_ite : ∀ {bs : List Branch}, (if bs.isEmpty then none else some bs) = found →
      CallFree bs := by
    intro bs hbs
    split_ifs at hbs with hempty
    · rw [List.isEmpty_iff.mp hempty]
      intro b hb
      cases hb
    · exact hfree bs hbs.symm
  induction tokens with
  | nil => exact h
  | cons x rest ih =>
    obtain ⟨i, t⟩ := x
    unfold branching at h ⊢
    split_ifs at h ⊢ with hdepth hlast hmatch hif
    · exact ih h
    · exact h
    · obtain ⟨arms, harms, h⟩ := bind_eq_ok_iff.mp h
      obtain ⟨bs, hbs, h⟩ := bind_eq_ok_iff.mp h
      have hfree := hfree_ite (Except.ok.inj h)
      rw [harms, bind_eq_ok_iff]
      refine ⟨_, rfl, ?_⟩
      rw [ofArms_of_subset hread hbound hbs hfree]
      exact h
    · obtain ⟨bs, hbs, h⟩ := bind_eq_ok_iff.mp h
      have hfree := hfree_ite (Except.ok.inj h)
      rw [conditional_of_subset hread hbound hbs hfree]
      exact h
    · exact ih h

lemma branchesWith_of_subset (hread : IsStable read) : IsStable (branchesWith read s states) := by
  intro start stop bound bound' bs hbound h hfree
  unfold branchesWith at h ⊢
  split_ifs at h ⊢
  · exact h
  · obtain ⟨tokens, htokens, h⟩ := bind_eq_ok_iff.mp h
    obtain ⟨found, hfound, h⟩ := bind_eq_ok_iff.mp h
    rw [htokens, bind_eq_ok_iff]
    refine ⟨_, rfl, ?_⟩
    cases found with
    | some found =>
      cases h
      have hfree' : ∀ bs', some bs = some bs' → CallFree bs' := by
        intro bs' heq
        cases heq
        exact hfree
      rw [branching_of_subset hread hbound hfound hfree']
      rfl
    | none =>
      rw [branching_of_subset hread hbound hfound fun bs' heq => by cases heq]
      obtain ⟨a, ha, h⟩ := bind_eq_ok_iff.mp h
      cases h
      have hcall : ∀ name, a ≠ some (.call name) := by
        rintro name rfl
        exact hfree ⟨none, .call name⟩ (by simp) name rfl
      change (Directive.find? s states bound' start stop >>= _) = _
      rw [Directive.find?_of_subset hbound ha hcall]
      rfl

lemma branchesWithin_of_subset (s : Stream) (states : StateIndex) (limit : Nat) :
    IsStable (branchesWithin s states limit) := by
  induction limit with
  | zero =>
    intro start stop bound bound' bs _ h
    cases h
  | succ limit ih => exact branchesWith_of_subset ih

/-- Where a body is read without a call, it is read alike under more bound names. -/
theorem branches_of_subset (s : Stream) (states : StateIndex) : IsStable (branches s states) :=
  branchesWithin_of_subset s states nestingLimit

end Body

end ActorDiagram
