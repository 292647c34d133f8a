import Mathlib
import ActorDiagram.Proofs.Unplaced
import ActorDiagram.Proofs.Window

/-!
# Directives in a window

Directives and calls are found alike in a window and in its copy. Payloads and reasons are left out,
as the expression after `using` may go on behind a window; where a window is sealed it does not, and
payloads and reasons are the same.
-/

namespace ActorDiagram

/-! ### What never fails between closed brackets -/

/-- From `lo` to `hi` there are tokens, and every bracket opened there is closed there. -/
def Stream.ClosedOn (s : Stream) (lo hi : Nat) : Prop :=
  ∀ i, lo ≤ i → i < hi → ∃ t, s.get? i = some t ∧
    (t.word.isOpening = true → ∃ c, s.closer i = .ok c ∧ i < c ∧ c < hi)

namespace Stream.ClosedOn

variable {s : Stream} {lo hi i stop : Nat}

lemma token (h : s.ClosedOn lo hi) (hlo : lo ≤ i) (hhi : i < hi) : ∃ t, s.token i = .ok t := by
  obtain ⟨t, ht, -⟩ := h i hlo hhi
  exact ⟨t, token_eq_ok_iff.mpr ht⟩

lemma closer (h : s.ClosedOn lo hi) (hlo : lo ≤ i) (hhi : i < hi) {t : Token}
    (ht : s.token i = .ok t) (ho : (t.isMark "(" || t.isMark "[") = true) :
    ∃ c, s.closer i = .ok c ∧ i < c ∧ c < hi := by
  obtain ⟨t', ht', hclose⟩ := h i hlo hhi
  rw [token_eq_ok_iff, ht'] at ht
  cases ht
  exact hclose (Lexeme.isOpening_of_group ho)

lemma range (h : s.ClosedOn lo hi) (hlo : lo ≤ i) (hhi : stop ≤ hi) :
    ∃ xs, s.range i stop = .ok xs := by
  apply exists_mapM_eq_ok
  intro k hk
  rw [List.mem_range'_1] at hk
  obtain ⟨t, ht⟩ := h.token (show lo ≤ k by omega) (by omega)
  exact ⟨(k, t), by rw [ht]; rfl⟩

lemma firstArgumentEnd (h : s.ClosedOn lo hi) (hlo : lo ≤ i) (hhi : stop ≤ hi) :
    ∃ k, s.firstArgumentEnd i stop = .ok k := by
  obtain ⟨xs, hxs⟩ := h.range hlo hhi
  obtain ⟨d, hd⟩ : ∃ d, s.depthAt i stop = .ok d := by
    unfold depthAt
    by_cases hik : i < stop
    · obtain ⟨t, ht⟩ := h.token hlo (show i < hi by omega)
      exact ⟨t.depth, by rw [if_pos hik, ht]; rfl⟩
    · exact ⟨0, by rw [if_neg hik]⟩
  unfold Stream.firstArgumentEnd
  rw [hd, hxs]
  exact ⟨_, rfl⟩

lemma skipArguments (h : s.ClosedOn lo hi) (hlo : lo ≤ i) (hhi : stop ≤ hi) :
    ∃ k, s.skipArguments i stop = .ok k := by
  unfold Stream.skipArguments
  generalize s.size = fuel
  induction fuel generalizing i with
  | zero => exact ⟨i, rfl⟩
  | succ fuel ih =>
    rw [skipArgumentsFrom]
    by_cases hik : i < stop
    · obtain ⟨t, ht⟩ := h.token hlo (show i < hi by omega)
      rw [if_pos hik, ht]
      by_cases ho : (t.isMark "(" || t.isMark "[") = true
      · obtain ⟨c, hc, hic, hch⟩ := h.closer hlo (by omega) ht ho
        obtain ⟨k, hk⟩ := ih (show lo ≤ c + 1 by omega)
        refine ⟨k, ?_⟩
        simp only [Bind.bind, Except.bind, ho, if_true, hc]
        exact hk
      · refine ⟨i, ?_⟩
        simp only [Bind.bind, Except.bind]
        rw [if_neg ho]
    · exact ⟨i, by rw [if_neg hik]⟩

/-- A payload is read without failure. -/
theorem payloadAt? (h : s.ClosedOn lo hi) (hlo : lo ≤ i) (hhi : stop ≤ hi) :
    ∃ payload, Directive.payloadAt? s i stop = .ok payload := by
  have husingCall : ∃ payload, Directive.usingCall? s i stop = .ok payload := by
    unfold Directive.usingCall?
    by_cases hik : i + 2 < stop
    · obtain ⟨word, hword⟩ := h.token (show lo ≤ i + 1 by omega) (by omega)
      obtain ⟨paren, hparen⟩ := h.token (show lo ≤ i + 2 by omega) (by omega)
      rw [if_pos hik, hword, hparen]
      simp only [Bind.bind, Except.bind]
      by_cases ho : (word.isWord "using" && paren.isMark "(") = true
      · have hmark : (paren.isMark "(" || paren.isMark "[") = true := by
          rw [Bool.and_eq_true] at ho
          rw [ho.2, Bool.true_or]
        obtain ⟨c, hc, -⟩ := h.closer (show lo ≤ i + 2 by omega) (by omega) hparen hmark
        rw [if_pos ho, hc]
        exact ⟨_, rfl⟩
      · rw [if_neg ho]
        exact ⟨_, rfl⟩
    · rw [if_neg hik]
      exact ⟨_, rfl⟩
  have husingWord : ∃ payload, Directive.usingWord? s i stop = .ok payload := by
    unfold Directive.usingWord?
    by_cases hik : i + 1 < stop
    · obtain ⟨first, hfirst⟩ := h.token (show lo ≤ i + 1 by omega) (by omega)
      rw [if_pos hik, hfirst]
      simp only [Bind.bind, Except.bind]
      by_cases hident : first.isIdentifier = true
      · rw [if_pos hident, dotted_of_get? (token_eq_ok_iff.mp hfirst)]
        obtain ⟨k, hk⟩ := h.skipArguments
          (show lo ≤ i + 1 + 1 + 2 * (s.dottedTail s.size (i + 1 + 1)).length by omega) hhi
        simp only [hk]
        exact ⟨_, rfl⟩
      · rw [if_neg hident]
        exact ⟨_, rfl⟩
    · rw [if_neg hik]
      exact ⟨_, rfl⟩
  unfold Directive.payloadAt?
  split_ifs with hstop
  · exact ⟨_, rfl⟩
  · split
    · exact ⟨_, rfl⟩
    · split_ifs
      · exact husingCall
      · exact husingWord
      · exact ⟨_, rfl⟩

end Stream.ClosedOn

/-! ### Calls -/

namespace Directive

/-- The token before a name says that the name is selected from something or newly introduced. -/
def introduced (s : Stream) (i : Nat) : Bool :=
  (s.before? i).any fun t => !Window.quietBefore t

/-- The token after a name, in a range that ends before `stop`, says that the name is not called. -/
def denied (s : Stream) (i stop : Nat) : Bool :=
  i + 1 < stop && (s.get? (i + 1)).any deniesCall

/-- A call is a name in small letters that its neighbours leave alone and that nothing binds. -/
theorem call?_eq {s : Stream} {i stop : Nat} {bound : List String} {t : Token}
    (ht : s.get? i = some t) :
    call? s bound i stop =
      if !t.isIdentifier || wordsNotCalled.contains t.text then .ok none
      else (startsLowerCase t.text).map fun lower =>
        if !lower || bound.contains t.text || introduced s i || denied s i stop then none
        else some (.call t.text) := by
  unfold call?
  rw [Stream.token_eq_ok_iff.mpr ht]
  simp only [Bind.bind, Except.bind]
  split_ifs with hno
  · rfl
  · cases startsLowerCase t.text with
    | error e => rfl
    | ok lower =>
      unfold introduced denied Window.quietBefore
      cases s.before? i <;> cases s.get? (i + 1) <;> simp [Except.map, apply_ite Except.ok]

lemma firstIn_cons (search : Nat → Except Error (Option Action)) (i : Nat) (is : List Nat) :
    firstIn search (i :: is) = (do
      match ← search i with
      | some action => .ok (some action)
      | none => firstIn search is) := rfl

end Directive

lemma startsLowerCase_agree {σ : Likeness} (name : String) :
    σ.Agree Eq (Directive.startsLowerCase name) (Directive.startsLowerCase name) := by
  unfold Directive.startsLowerCase
  split
  · rfl
  · exact .emptyIdentifier

lemma Token.Alike.deniesCall {σ : Likeness} {above above' : Nat} {t t' : Token}
    (h : t.Alike σ above above' t') : Directive.deniesCall t = Directive.deniesCall t' := by
  unfold Directive.deniesCall
  rw [h.isMark, h.isMark, h.isMark, h.kind, h.isIdentifier]

namespace Window.Fits

variable {w : Window} {s s' : Stream} {states states' : StateIndex} {i j k l : Nat}

lemma closedOn (h : w.Fits s s') : s.ClosedOn w.start (w.start + w.length) := by
  intro i hlo hhi
  have hij : w.At i (i - w.start + w.start') := by omega
  obtain ⟨t, t', ht, -, -⟩ := h.get i _ hij hhi
  refine ⟨t, ht, ?_⟩
  intro ho
  obtain ⟨c, c', u, hc, -, -, hic, hcw, -⟩ := h.closer i _ t hij hhi ht ho
  exact ⟨c, hc, hic, hcw⟩

lemma closedOn' (h : w.Fits s s') : s'.ClosedOn w.start' (w.start' + w.length) := by
  intro j hlo hhi
  have hij : w.At (j - w.start' + w.start) j := by omega
  obtain ⟨t, t', ht, ht', halike⟩ := h.get _ j hij (by omega)
  refine ⟨t', ht', ?_⟩
  intro ho
  rw [← halike.isOpening] at ho
  obtain ⟨c, c', u, -, hc', hcc, hic, hcw, -⟩ := h.closer _ j t hij (by omega) ht ho
  exact ⟨c', hc', by omega, by omega⟩

/-! ### Directives -/

lemma skipArgumentsFrom (h : w.Fits s s') (hkl : w.At k l) {fuel fuel' : Nat} (hij : w.At i j)
    (hfuel : k ≤ fuel + i) (hfuel' : l ≤ fuel' + j) :
    w.likeness.Agree (fun a b => w.At a b) (s.skipArgumentsFrom k fuel i)
      (s'.skipArgumentsFrom l fuel' j) := by
  induction fuel generalizing fuel' i j with
  | zero =>
    have hend : s'.skipArgumentsFrom l fuel' j = .ok j := by
      cases fuel' with
      | zero => rfl
      | succ fuel' => rw [Stream.skipArgumentsFrom, if_neg (by omega)]
    exact Agree.of_ok rfl hend hij
  | succ fuel ih =>
    by_cases hik : i < k
    · obtain ⟨fuel', rfl⟩ : ∃ n, fuel' = n + 1 := ⟨fuel' - 1, by omega⟩
      rw [Stream.skipArgumentsFrom, Stream.skipArgumentsFrom, if_pos hik, if_pos (by omega)]
      apply Agree.bind (h.token hij (by omega))
      rintro t t' ⟨ht, -, halike⟩
      rw [← halike.isMark, ← halike.isMark]
      by_cases hgroup : (t.isMark "(" || t.isMark "[") = true
      · rw [if_pos hgroup, if_pos hgroup]
        have hmark : s.hasMark i "(" = true ∨ s.hasMark i "[" = true ∨
            s.hasMark i leftBrace = true := by
          rw [Bool.or_eq_true] at hgroup
          rw [Stream.hasMark_eq_any, Stream.hasMark_eq_any, ht]
          exact hgroup.imp_right Or.inl
        apply Agree.bind (h.close hij (by omega) hmark)
        rintro c c' ⟨hcc, hic, hcw, -⟩
        have hnext : w.At (c + 1) (c' + 1) := by omega
        exact ih hnext (by omega) (by omega)
      · rw [if_neg hgroup, if_neg hgroup]
        exact hij
    · have hend : s'.skipArgumentsFrom l fuel' j = .ok j := by
        cases fuel' with
        | zero => rfl
        | succ fuel' => rw [Stream.skipArgumentsFrom, if_neg (by omega)]
      exact Agree.of_ok (by rw [Stream.skipArgumentsFrom, if_neg hik]) hend hij

lemma usingCall?_of_sealed (h : w.Fits s s') (hsealed : w.Sealed s s') (hij : w.At i j)
    (hkl : w.At k l) :
    w.likeness.Agree Eq (Directive.usingCall? s i k) (Directive.usingCall? s' j l) := by
  unfold Directive.usingCall?
  by_cases hik : i + 2 < k
  · have h₁ : w.At (i + 1) (j + 1) := by omega
    have h₂ : w.At (i + 2) (j + 2) := by omega
    have h₃ : w.At (i + 3) (j + 3) := by omega
    rw [if_pos hik, if_pos (by omega)]
    apply Agree.bind (h.token h₁ (by omega))
    rintro word word' ⟨-, -, hword⟩
    apply Agree.bind (h.token h₂ (by omega))
    rintro paren paren' ⟨hget, -, hparen⟩
    rw [← hword.isWord, ← hparen.isMark]
    by_cases hcall : (word.isWord "using" && paren.isMark "(") = true
    · rw [if_pos hcall, if_pos hcall]
      have hmark : s.hasMark (i + 2) "(" = true := by
        rw [Bool.and_eq_true] at hcall
        rw [Stream.hasMark_eq_any, hget]
        exact hcall.2
      apply Agree.bind (h.close h₂ (by omega) (.inl hmark))
      rintro c c' ⟨hcc, -⟩
      change Branch.nonempty? _ = Branch.nonempty? _
      rw [h.text h₃ hcc hsealed.1]
    · rw [if_neg hcall, if_neg hcall]
      rfl
  · rw [if_neg hik, if_neg (by omega)]
    rfl

lemma usingWord?_of_sealed (h : w.Fits s s') (hsealed : w.Sealed s s') (hij : w.At i j)
    (hkl : w.At k l) :
    w.likeness.Agree Eq (Directive.usingWord? s i k) (Directive.usingWord? s' j l) := by
  unfold Directive.usingWord?
  by_cases hik : i + 1 < k
  · have h₁ : w.At (i + 1) (j + 1) := by omega
    obtain ⟨hsize, hsize'⟩ := h.le_size h₁ (by omega)
    rw [if_pos hik, if_pos (by omega)]
    apply Agree.bind (h.token h₁ (by omega))
    rintro first first' ⟨hget, -, hfirst⟩
    rw [← hfirst.isIdentifier]
    by_cases hident : first.isIdentifier = true
    · rw [if_pos hident, if_pos hident]
      obtain ⟨hexact, u, u', hu, hu', huu, hcloses⟩ := hsealed
      have hend : w.At (w.start + w.length) (w.start' + w.length) := by omega
      apply Agree.bind (h.dotted_of_closes? h₁ hend (by omega) hget hident hu hu' huu hcloses)
      rintro ⟨name, a⟩ ⟨_, b⟩ ⟨rfl, hab, -⟩
      apply Agree.bind (h.skipArgumentsFrom hkl hab (by omega) (by omega))
      intro a b hab
      have hlast : w.At (min a k) (min b l) := by omega
      change some _ = some _
      rw [h.text h₁ hlast hexact]
    · rw [if_neg hident, if_neg hident]
      rfl
  · rw [if_neg hik, if_neg (by omega)]
    rfl

theorem payloadAt?_of_sealed (h : w.Fits s s') (hsealed : w.Sealed s s') (hij : w.At i j)
    (hkl : w.At k l) :
    w.likeness.Agree Eq (Directive.payloadAt? s i k) (Directive.payloadAt? s' j l) := by
  unfold Directive.payloadAt?
  by_cases hempty : k ≤ i
  · rw [if_pos hempty, if_pos (by omega)]
    rfl
  · obtain ⟨t, t', ht, ht', halike⟩ := h.get i j hij (by omega)
    rw [if_neg hempty, if_neg (by omega), ht, ht']
    simp only [← halike.isMark, ← halike.isWord]
    by_cases hdot : t.isMark "." = true
    · rw [if_pos hdot, if_pos hdot]
      exact h.usingCall?_of_sealed hsealed hij hkl
    · rw [if_neg hdot, if_neg hdot]
      by_cases husing : t.isWord "using" = true
      · rw [if_pos husing, if_pos husing]
        exact h.usingWord?_of_sealed hsealed hij hkl
      · rw [if_neg husing, if_neg husing]
        rfl

/-- Payloads are read on both sides, and are the same in a sealed window. -/
lemma payloadAt? (h : w.Fits s s') (hij : w.At i j) (hkl : w.At k l) :
    w.likeness.Agree (fun p q => w.Sealed s s' → p = q) (Directive.payloadAt? s i k)
      (Directive.payloadAt? s' j l) := by
  by_cases hsealed : w.Sealed s s'
  · exact Agree.imp (h.payloadAt?_of_sealed hsealed hij hkl) fun p q hpq _ => hpq
  · obtain ⟨x, hx⟩ := h.closedOn.payloadAt? hij.1 hkl.2.1
    obtain ⟨y, hy⟩ := h.closedOn'.payloadAt? (show w.start' ≤ j by omega)
      (show l ≤ w.start' + w.length by omega)
    exact Agree.of_ok hx hy fun hs => absurd hs hsealed

lemma target? (h : w.Fits s s') (hstates : states.unplaced = states'.unplaced) (hij : w.At i j)
    (hi : i < w.start + w.length) (hparen : s.hasMark i "(" = true) :
    w.likeness.Agree Eq (Directive.target? s states i) (Directive.target? s' states' j) := by
  unfold Directive.target?
  apply Agree.bind (h.close hij hi (.inl hparen))
  rintro c c' ⟨hcc, hic, hcw, u, hu, hcloses⟩
  have hnext : w.At (i + 1) (j + 1) := by omega
  obtain ⟨t, t', ht, ht', halike⟩ := h.get _ _ hnext (by omega)
  rw [ht, ht']
  simp only [← halike.isIdentifier]
  have hempty : (decide (c ≤ i + 1)) = decide (c' ≤ j + 1) := decide_eq_decide.mpr (by omega)
  rw [← hempty]
  by_cases hnone : (decide (c ≤ i + 1) || !t.isIdentifier) = true
  · rw [if_pos hnone, if_pos hnone]
    rfl
  · rw [if_neg hnone, if_neg hnone]
    simp only [Bool.or_eq_true, decide_eq_true_eq, Bool.not_eq_true', not_or,
      Bool.not_eq_false] at hnone
    apply Agree.bind (h.dotted hnext hcc (by omega) hcw ht hnone.2 hu hcloses)
    rintro ⟨ref, next⟩ ⟨ref', next'⟩ ⟨rfl, -, -⟩
    apply Agree.bind (StateIndex.lookup_agree hstates ref halike.place)
    rintro r _ rfl
    rfl

/-- Actions that a search finds on both sides, alike but for payload and reason. -/
abbrev BareEq (a a' : Option Action) : Prop := a.map Action.bare = a'.map Action.bare

/-- Actions that a search finds on both sides, alike and in a sealed window the same. -/
abbrev SameFound (w : Window) (s s' : Stream) (a a' : Option Action) : Prop :=
  BareEq a a' ∧ (w.Sealed s s' → a = a')

/-- Actions on both sides, alike and in a sealed window the same. -/
abbrev SameAction (w : Window) (s s' : Stream) (a a' : Action) : Prop :=
  a.bare = a'.bare ∧ (w.Sealed s s' → a = a')

lemma SameAction.found {a a' : Action} (h : SameAction w s s' a a') :
    SameFound w s s' (some a) (some a') :=
  ⟨congrArg some h.1, fun hs => congrArg some (h.2 hs)⟩

/-- Something is found on both sides, or on neither. -/
lemma SameFound.sides {a a' : Option Action} (h : SameFound w s s' a a') :
    (a = none ∧ a' = none) ∨ ∃ b b', a = some b ∧ a' = some b' ∧ SameAction w s s' b b' := by
  obtain ⟨hbare, hsame⟩ := h
  cases a with
  | none =>
    cases a' with
    | none => exact .inl ⟨rfl, rfl⟩
    | some b' => simp [BareEq] at hbare
  | some b =>
    cases a' with
    | none => simp [BareEq] at hbare
    | some b' =>
      exact .inr ⟨b, b', rfl, rfl, Option.some.inj hbare, fun hs => Option.some.inj (hsame hs)⟩

lemma goto? (h : w.Fits s s') (hstates : states.unplaced = states'.unplaced) (hij : w.At i j)
    (hkl : w.At k l) (hi : i + 1 < w.start + w.length) (hparen : s.hasMark (i + 1) "(" = true) :
    w.likeness.Agree (SameFound w s s') (Directive.goto? s states i k)
      (Directive.goto? s' states' j l) := by
  have hnext : w.At (i + 1) (j + 1) := by omega
  unfold Directive.goto?
  apply Agree.bind (h.target? hstates hnext hi hparen)
  rintro target _ rfl
  cases target with
  | none => exact ⟨rfl, fun _ => rfl⟩
  | some target =>
    apply Agree.bind (h.close hnext hi (.inl hparen))
    rintro c c' ⟨hcc, hic, hcw, -⟩
    have hafter : w.At (c + 1) (c' + 1) := by omega
    apply Agree.bind (h.payloadAt? hafter hkl)
    intro p q hpq
    exact ⟨rfl, fun hs => by rw [hpq hs]⟩

lemma enter? (h : w.Fits s s') (hstates : states.unplaced = states'.unplaced) (hij : w.At i j)
    (hi : i + 3 < w.start + w.length) :
    w.likeness.Agree (SameFound w s s') (Directive.enter? s states i)
      (Directive.enter? s' states' j) := by
  have h₁ : w.At (i + 1) (j + 1) := by omega
  have h₂ : w.At (i + 2) (j + 2) := by omega
  have h₃ : w.At (i + 3) (j + 3) := by omega
  unfold Directive.enter?
  apply Agree.bind (h.token h₁ (by omega))
  rintro dot dot' ⟨-, -, hdot⟩
  apply Agree.bind (h.token h₂ (by omega))
  rintro enter enter' ⟨-, -, henter⟩
  apply Agree.bind (h.token h₃ (by omega))
  rintro paren paren' ⟨hget, -, hparen⟩
  rw [← hdot.isMark, ← henter.isWord, ← hparen.isMark]
  by_cases hcall : (dot.isMark "." && enter.isWord "enter" && paren.isMark "(") = true
  · rw [if_pos hcall, if_pos hcall]
    have hmark : s.hasMark (i + 3) "(" = true := by
      rw [Bool.and_eq_true] at hcall
      unfold Stream.hasMark
      rw [hget]
      exact hcall.2
    apply Agree.bind (h.target? hstates h₃ (by omega) hmark)
    rintro target _ rfl
    cases target with
    | none => exact ⟨rfl, fun _ => rfl⟩
    | some target =>
      apply Agree.bind (h.close h₃ (by omega) (.inl hmark))
      rintro c c' ⟨hcc, hic, hcw, -⟩
      have h₄ : w.At (i + 4) (j + 4) := by omega
      apply Agree.bind (h.firstArgumentEnd h₄ hcc)
      rintro a b ⟨hab, hle⟩
      refine ⟨rfl, fun hs => ?_⟩
      have hpayload : (if a < c then Branch.nonempty? (s.text (a + 1) c) else none) =
          if b < c' then Branch.nonempty? (s'.text (b + 1) c') else none := by
        by_cases hcomma : a < c
        · have hab' : w.At (a + 1) (b + 1) := by omega
          rw [if_pos hcomma, if_pos (by omega), h.text hab' hcc hs.1]
        · rw [if_neg hcomma, if_neg (by omega)]
      rw [hpayload]
  · rw [if_neg hcall, if_neg hcall]
    exact ⟨rfl, fun _ => rfl⟩

lemma stay (h : w.Fits s s') (hij : w.At i j) (hkl : w.At k l) (hi : i < w.start + w.length)
    {hasCall : Bool} (hcall : hasCall = true → i + 1 < k ∧ s.hasMark (i + 1) "(" = true) :
    w.likeness.Agree (SameAction w s s') (Directive.stay s hasCall i k)
      (Directive.stay s' hasCall j l) := by
  unfold Directive.stay
  cases hasCall with
  | false =>
    have hnext : w.At (i + 1) (j + 1) := by omega
    exact Agree.map (h.payloadAt? hnext hkl) fun _ _ hpq => ⟨rfl, fun hs => congrArg _ (hpq hs)⟩
  | true =>
    obtain ⟨hik, hparen⟩ := hcall rfl
    have hnext : w.At (i + 1) (j + 1) := by omega
    apply Agree.bind (h.close hnext (by omega) (.inl hparen))
    rintro c c' ⟨hcc, hic, hcw, -⟩
    have hafter : w.At (c + 1) (c' + 1) := by omega
    exact Agree.map (h.payloadAt? hafter hkl) fun _ _ hpq => ⟨rfl, fun hs => congrArg _ (hpq hs)⟩

lemma stop (h : w.Fits s s') (hij : w.At i j) (hkl : w.At k l) (word : String)
    {hasCall : Bool} (hcall : hasCall = true → i + 1 < k ∧ s.hasMark (i + 1) "(" = true) :
    w.likeness.Agree (SameAction w s s') (Directive.stop s word hasCall i)
      (Directive.stop s' word hasCall j) := by
  unfold Directive.stop
  cases hasCall with
  | false => exact ⟨rfl, fun _ => rfl⟩
  | true =>
    obtain ⟨hik, hparen⟩ := hcall rfl
    have hnext : w.At (i + 1) (j + 1) := by omega
    apply Agree.bind (h.close hnext (by omega) (.inl hparen))
    rintro c c' ⟨hcc, hic, hcw, -⟩
    have hfirst : w.At (i + 2) (j + 2) := by omega
    have hany : (s.slice (i + 2) c).any (·.isWord "Failure") =
        (s'.slice (j + 2) c').any (·.isWord "Failure") := by
      have hmap := map_eq_of_forall₂ (h.slice hfirst hcc)
        fun t t' halike => halike.isWord "Failure"
      have hany := congrArg (fun l => l.any id) hmap
      simpa only [List.any_map, Function.id_comp] using hany
    refine ⟨?_, fun hs => ?_⟩
    · rw [Action.bare, Action.bare, hany]
    · rw [hany, h.text hfirst hcc hs.1]

theorem directiveAt? (h : w.Fits s s') (hstates : states.unplaced = states'.unplaced)
    (hij : w.At i j) (hkl : w.At k l) (hik : i < k) :
    w.likeness.Agree (SameFound w s s') (Directive.at? s states i k)
      (Directive.at? s' states' j l) := by
  unfold Directive.at?
  apply Agree.bind (h.token hij (by omega))
  rintro t t' ⟨-, -, halike⟩
  have hcall : (decide (i + 1 < k) && s.hasMark (i + 1) "(") =
      (decide (j + 1 < l) && s'.hasMark (j + 1) "(") := by
    have hlt : decide (i + 1 < k) = decide (j + 1 < l) := decide_eq_decide.mpr (by omega)
    have hnext : w.At (i + 1) (j + 1) := by omega
    rw [hlt, h.hasMark_paren hnext]
  have hthree : decide (i + 3 < k) = decide (j + 3 < l) := decide_eq_decide.mpr (by omega)
  simp only [← hcall, ← halike.isIdentifier, ← h.followsDot hij, ← hthree]
  generalize hhas : (decide (i + 1 < k) && s.hasMark (i + 1) "(") = hasCall
  have hparen : hasCall = true → i + 1 < k ∧ s.hasMark (i + 1) "(" = true := by
    intro hc
    rw [← hhas] at hc
    simpa using hc
  by_cases hno : (!t.isIdentifier || s.followsMark i ".") = true
  · rw [if_pos hno, if_pos hno]
    exact ⟨rfl, fun _ => rfl⟩
  · rw [if_neg hno, if_neg hno]
    have hident : t.isIdentifier = true := by
      simp only [Bool.or_eq_true, Bool.not_eq_true', not_or, Bool.not_eq_false] at hno
      exact hno.1
    rw [← halike.text_of_isIdentifier hident]
    by_cases hgoto : (t.text == "goto" && hasCall) = true
    · rw [if_pos hgoto, if_pos hgoto]
      rw [Bool.and_eq_true] at hgoto
      obtain ⟨hlt, hp⟩ := hparen hgoto.2
      exact h.goto? hstates hij hkl (by omega) hp
    · rw [if_neg hgoto, if_neg hgoto]
      by_cases htarget : (t.text == "Target" && decide (i + 3 < k)) = true
      · rw [if_pos htarget, if_pos htarget]
        rw [Bool.and_eq_true, decide_eq_true_eq] at htarget
        exact h.enter? hstates hij (by omega)
      · rw [if_neg htarget, if_neg htarget]
        by_cases hstay : (t.text == "stay") = true
        · rw [if_pos hstay, if_pos hstay]
          exact Agree.map (h.stay hij hkl (by omega) hparen) fun a a' haa => haa.found
        · rw [if_neg hstay, if_neg hstay]
          by_cases hstop : ["stop", "stopSuccess", "stopFailure"].contains t.text = true
          · rw [if_pos hstop, if_pos hstop]
            exact Agree.map (h.stop hij hkl t.text hparen) fun a a' haa => haa.found
          · rw [if_neg hstop, if_neg hstop]
            exact ⟨rfl, fun _ => rfl⟩

theorem call? (h : w.Fits s s') (bound : List String) (hij : w.At i j) (hkl : w.At k l)
    (hik : i < k) :
    w.likeness.Agree Eq (Directive.call? s bound i k) (Directive.call? s' bound j l) := by
  obtain ⟨t, t', ht, ht', halike⟩ := h.get i j hij (by omega)
  rw [Directive.call?_eq ht, Directive.call?_eq ht', ← halike.isIdentifier]
  by_cases hident : t.isIdentifier = true
  · rw [← halike.text_of_isIdentifier hident]
    by_cases hno : (!t.isIdentifier || wordsNotCalled.contains t.text) = true
    · rw [if_pos hno, if_pos hno]
      rfl
    · rw [if_neg hno, if_neg hno]
      have hintroduced : Directive.introduced s i = Directive.introduced s' j := by
        apply h.before?_test hij
        · intro u u' huu
          rw [quietBefore, quietBefore, huu.isMark, huu.isWordOf]
        · intro u hu
          rw [hu]
          rfl
      have hdenied : Directive.denied s i k = Directive.denied s' j l := by
        have hlt : decide (i + 1 < k) = decide (j + 1 < l) := decide_eq_decide.mpr (by omega)
        unfold Directive.denied
        rw [← hlt]
        by_cases hnext : i + 1 < k
        · obtain ⟨u, u', hu, hu', huu⟩ := h.get (i + 1) (j + 1) (by omega) (by omega)
          rw [hu, hu', Option.any_some, Option.any_some, huu.deniesCall]
        · rw [decide_eq_false hnext, Bool.false_and, Bool.false_and]
      rw [hintroduced, hdenied]
      apply Agree.map (startsLowerCase_agree t.text)
      rintro lower _ rfl
      rfl
  · rw [if_pos (by simp [hident]), if_pos (by simp [hident])]
    rfl

lemma firstIn {R : Nat → Nat → Prop} {search search' : Nat → Except Error (Option Action)}
    {is js : List Nat} (h : List.Forall₂ R is js)
    (hsearch : ∀ i j, R i j → w.likeness.Agree (SameFound w s s') (search i) (search' j)) :
    w.likeness.Agree (SameFound w s s') (Directive.firstIn search is)
      (Directive.firstIn search' js) := by
  induction h with
  | nil => exact ⟨rfl, fun _ => rfl⟩
  | cons hij _ ih =>
    unfold Directive.firstIn
    apply Agree.bind (hsearch _ _ hij)
    intro a a' haa
    cases haa.sides with
    | inl hnone =>
      obtain ⟨rfl, rfl⟩ := hnone
      exact ih
    | inr hsome =>
      obtain ⟨b, b', rfl, rfl, hbb⟩ := hsome
      exact hbb.found

theorem find? (h : w.Fits s s') (hstates : states.unplaced = states'.unplaced)
    (bound : List String) (hij : w.At i j) (hkl : w.At k l) :
    w.likeness.Agree (SameFound w s s') (Directive.find? s states bound i k)
      (Directive.find? s' states' bound j l) := by
  have hindices := indices hij hkl
  unfold Directive.find?
  apply Agree.bind (firstIn hindices fun x y hxy => h.directiveAt? hstates hxy.1 hkl hxy.2.2)
  intro a a' haa
  cases haa.sides with
  | inl hnone =>
    obtain ⟨rfl, rfl⟩ := hnone
    apply firstIn hindices
    rintro x y ⟨hxy, -, hxk⟩
    exact Agree.imp (h.call? bound hxy hkl hxk) fun b b' hbb => ⟨congrArg _ hbb, fun _ => hbb⟩
  | inr hsome =>
    obtain ⟨b, b', rfl, rfl, hbb⟩ := hsome
    exact hbb.found

end Window.Fits

end ActorDiagram
