import Mathlib
import ActorDiagram.Proofs.Enclosed
import ActorDiagram.Proofs.UnbracedChain

/-!
# Bodies in braces

The reader looks for branchings only where the brackets of a range are least deep. When a range is
one pair of braces, that is at the braces, and no branching between them is seen.
-/

namespace ActorDiagram

/-! ### Closing brackets -/

lemma deniesCall_eq_false_of_closes? {t : Token} (h : t.word.closes?.isSome = true) :
    Directive.deniesCall t = false := by
  have hk : (t.kind == .operator) = false := by
    rw [Lexeme.kind_of_closes? h]
    rfl
  unfold Directive.deniesCall
  rw [Lexeme.isMark_eq_false_of_closes? h (m := ".") rfl,
    Lexeme.isMark_eq_false_of_closes? h (m := ":") rfl, hk, Lexeme.isIdentifier_eq_false_of_closes? h]
  simp

namespace Stream

/-- From `lo` to `hi` every opened bracket is closed again, and at `hi` a bracket around them is. -/
structure ShutOn (s : Stream) (lo hi : Nat) : Prop where
  closed : s.ClosedOn lo hi
  closes : ∃ u, s.get? hi = some u ∧ u.word.closes?.isSome = true

namespace ShutOn

variable {s : Stream} {states : StateIndex} {bound : List String} {lo hi i : Nat}

lemma of_closer (hs : s.Nested) (hbalance : s.problems = []) (hclose : s.closer i = .ok hi) :
    s.ShutOn (i + 1) hi := by
  obtain ⟨hi', hsize⟩ := hs.lt_closer hclose
  have ht := get?_of_lt (hi'.trans hsize)
  have hpart := Enclosed.of_closer hs ht hclose
  refine ⟨fun k hk hlt => ?_, _, get?_of_lt hsize, ?_⟩
  · have hu := get?_of_lt (hlt.trans hsize)
    exact ⟨_, hu, fun ho => hpart.closer hs hbalance hk hlt hu ho⟩
  · exact hs.isSome_closes? hclose ht (get?_of_lt hsize)

lemma dottedTail_le (h : s.ShutOn lo hi) (fuel : Nat) (hi' : i ≤ hi) :
    i + 2 * (s.dottedTail fuel i).length ≤ hi := by
  obtain ⟨u, hu, hcloses⟩ := h.closes
  induction fuel generalizing i with
  | zero => simpa [dottedTail] using hi'
  | succ fuel ih =>
    cases hdot : s.get? i with
    | none => simpa [dottedTail_of_none hdot] using hi'
    | some dot =>
      cases hname : s.get? (i + 1) with
      | none => simpa [dottedTail, hdot, hname] using hi'
      | some name =>
        simp only [dottedTail, hdot, hname]
        by_cases hpart : (dot.isMark "." && name.isIdentifier) = true
        · have hne : i ≠ hi := by
            rintro rfl
            rw [hdot, Option.some.injEq] at hu
            simp [hu, Lexeme.isMark_eq_false_of_closes? hcloses (m := ".") rfl] at hpart
          have hne' : i + 1 ≠ hi := by
            rintro rfl
            rw [hname, Option.some.injEq] at hu
            simp [hu, Lexeme.isIdentifier_eq_false_of_closes? hcloses] at hpart
          have hrest := ih (show i + 2 ≤ hi by omega)
          rw [if_pos hpart, List.length_cons]
          omega
        · rw [if_neg hpart]
          exact hi'

lemma exists_skipArguments (h : s.ShutOn lo hi) (hlo : lo ≤ i) (hi' : i ≤ hi) :
    ∃ k, k ≤ hi ∧ s.skipArguments i hi = .ok k ∧ s.skipArguments i (hi + 1) = .ok k := by
  obtain ⟨u, hu, hcloses⟩ := h.closes
  unfold Stream.skipArguments
  generalize s.size = fuel
  induction fuel generalizing i with
  | zero => exact ⟨i, hi', rfl, rfl⟩
  | succ fuel ih =>
    rw [skipArgumentsFrom, skipArgumentsFrom, if_pos (show i < hi + 1 by omega)]
    rcases Nat.lt_or_eq_of_le hi' with hlt | rfl
    · obtain ⟨t, ht⟩ := h.closed.token hlo hlt
      rw [if_pos hlt, ht]
      by_cases ho : (t.isMark "(" || t.isMark "[") = true
      · obtain ⟨c, hc, hic, hch⟩ := h.closed.closer hlo hlt ht ho
        simp only [Bind.bind, Except.bind, if_pos ho, hc]
        exact ih (show lo ≤ c + 1 by omega) (by omega)
      · simp only [Bind.bind, Except.bind, if_neg ho]
        exact ⟨i, hi', rfl, rfl⟩
    · rw [if_neg (lt_irrefl i), token_eq_ok_iff.mpr hu]
      simp only [Bind.bind, Except.bind]
      rw [Lexeme.isMark_eq_false_of_closes? hcloses rfl, Lexeme.isMark_eq_false_of_closes? hcloses rfl]
      exact ⟨i, hi', rfl, rfl⟩

/-! ### One more token at the end of a range -/

lemma usingCall?_succ (h : s.ShutOn lo hi) (hlo : lo ≤ i) (hlt : i < hi) :
    Directive.usingCall? s i (hi + 1) = Directive.usingCall? s i hi := by
  obtain ⟨u, hu, hcloses⟩ := h.closes
  unfold Directive.usingCall?
  by_cases hend : i + 2 = hi
  · obtain ⟨word, hword⟩ := h.closed.token (show lo ≤ i + 1 by omega) (by omega)
    rw [if_pos (by omega), if_neg (by omega), hword, hend, token_eq_ok_iff.mpr hu]
    simp only [Bind.bind, Except.bind]
    rw [Lexeme.isMark_eq_false_of_closes? hcloses rfl, Bool.and_false, if_neg Bool.false_ne_true]
  · have hiff : i + 2 < hi + 1 ↔ i + 2 < hi := by omega
    simp only [hiff]

lemma usingWord?_succ (h : s.ShutOn lo hi) (hlo : lo ≤ i) (hlt : i < hi) :
    Directive.usingWord? s i (hi + 1) = Directive.usingWord? s i hi := by
  obtain ⟨u, hu, hcloses⟩ := h.closes
  unfold Directive.usingWord?
  rw [if_pos (by omega)]
  by_cases hend : i + 1 = hi
  · rw [if_neg (by omega), hend, token_eq_ok_iff.mpr hu]
    simp only [Bind.bind, Except.bind]
    rw [Lexeme.isIdentifier_eq_false_of_closes? hcloses, if_neg Bool.false_ne_true]
  · obtain ⟨first, hfirst⟩ := h.closed.token (show lo ≤ i + 1 by omega) (by omega)
    have hdotted := h.dottedTail_le s.size (show i + 1 + 1 ≤ hi by omega)
    obtain ⟨k, hk, hskip, hskip'⟩ := h.exists_skipArguments
      (show lo ≤ i + 1 + 1 + 2 * (s.dottedTail s.size (i + 1 + 1)).length by omega) hdotted
    rw [if_pos (by omega), hfirst]
    simp only [Bind.bind, Except.bind]
    rw [dotted_of_get? (token_eq_ok_iff.mp hfirst)]
    simp only [hskip, hskip', Nat.min_eq_left hk, Nat.min_eq_left (show k ≤ hi + 1 by omega)]

lemma payloadAt?_succ (h : s.ShutOn lo hi) (hlo : lo ≤ i) (hi' : i ≤ hi) :
    Directive.payloadAt? s i (hi + 1) = Directive.payloadAt? s i hi := by
  obtain ⟨u, hu, hcloses⟩ := h.closes
  unfold Directive.payloadAt?
  rw [if_neg (by omega)]
  rcases Nat.lt_or_eq_of_le hi' with hlt | rfl
  · rw [if_neg (by omega), h.usingCall?_succ hlo hlt, h.usingWord?_succ hlo hlt]
  · rw [if_pos (le_refl i), hu]
    simp only
    rw [Lexeme.isMark_eq_false_of_closes? hcloses rfl, Lexeme.isWord_eq_false_of_closes? hcloses]
    rfl

lemma exists_closer (h : s.ShutOn lo hi) (hlo : lo ≤ i) (hlt : i < hi)
    (hparen : s.hasMark i "(" = true) : ∃ c, s.closer i = .ok c ∧ i < c ∧ c < hi := by
  obtain ⟨t, ht⟩ := h.closed.token hlo hlt
  rw [hasMark_eq_any, token_eq_ok_iff.mp ht, Option.any_some] at hparen
  exact h.closed.closer hlo hlt ht (by rw [hparen, Bool.true_or])

lemma goto?_succ (h : s.ShutOn lo hi) (hlo : lo ≤ i) (hlt : i + 1 < hi)
    (hparen : s.hasMark (i + 1) "(" = true) :
    Directive.goto? s states i (hi + 1) = Directive.goto? s states i hi := by
  obtain ⟨c, hc, hic, hch⟩ := h.exists_closer (show lo ≤ i + 1 by omega) hlt hparen
  unfold Directive.goto?
  rw [hc]
  simp only [Bind.bind, Except.bind]
  rw [h.payloadAt?_succ (show lo ≤ c + 1 by omega) (by omega)]

lemma stay_succ (h : s.ShutOn lo hi) {hasCall : Bool} (hlo : lo ≤ i) (hlt : i < hi)
    (hparen : hasCall = true → i + 1 < hi ∧ s.hasMark (i + 1) "(" = true) :
    Directive.stay s hasCall i (hi + 1) = Directive.stay s hasCall i hi := by
  unfold Directive.stay
  cases hasCall with
  | false =>
    rw [if_neg Bool.false_ne_true, if_neg Bool.false_ne_true,
      h.payloadAt?_succ (show lo ≤ i + 1 by omega) hlt]
  | true =>
    obtain ⟨c, hc, hic, hch⟩ := h.exists_closer (show lo ≤ i + 1 by omega) (hparen rfl).1
      (hparen rfl).2
    rw [if_pos rfl, if_pos rfl, hc]
    simp only [Bind.bind, Except.bind]
    rw [h.payloadAt?_succ (show lo ≤ c + 1 by omega) (by omega)]

lemma enter?_of_closes (h : s.ShutOn lo hi) (hlo : lo ≤ i) (hend : i + 3 = hi) :
    Directive.enter? s states i = .ok none := by
  obtain ⟨u, hu, hcloses⟩ := h.closes
  obtain ⟨dot, hdot⟩ := h.closed.token (show lo ≤ i + 1 by omega) (by omega)
  obtain ⟨enter, henter⟩ := h.closed.token (show lo ≤ i + 2 by omega) (by omega)
  unfold Directive.enter?
  rw [hdot, henter, hend, token_eq_ok_iff.mpr hu]
  simp only [Bind.bind, Except.bind]
  rw [Lexeme.isMark_eq_false_of_closes? hcloses rfl, Bool.and_false, if_neg Bool.false_ne_true]

/-- A directive is the same when the bracket that closes around it is in the range. -/
theorem directiveAt?_succ (h : s.ShutOn lo hi) (hlo : lo ≤ i) (hlt : i < hi) :
    Directive.at? s states i (hi + 1) = Directive.at? s states i hi := by
  obtain ⟨u, hu, hcloses⟩ := h.closes
  obtain ⟨t, ht⟩ := h.closed.token hlo hlt
  have hcall : (decide (i + 1 < hi + 1) && s.hasMark (i + 1) "(") =
      (decide (i + 1 < hi) && s.hasMark (i + 1) "(") := by
    by_cases hend : i + 1 = hi
    · rw [hend, hasMark_eq_any, hu, Option.any_some, Lexeme.isMark_eq_false_of_closes? hcloses rfl,
        Bool.and_false, Bool.and_false]
    · rw [decide_eq_true (by omega), decide_eq_true (by omega)]
  unfold Directive.at?
  rw [ht]
  simp only [Bind.bind, Except.bind]
  rw [hcall]
  generalize hhas : (decide (i + 1 < hi) && s.hasMark (i + 1) "(") = hasCall
  have hparen : hasCall = true → i + 1 < hi ∧ s.hasMark (i + 1) "(" = true := by
    rintro rfl
    simpa using hhas
  rw [h.stay_succ hlo hlt hparen]
  have hgoto : (t.text == "goto" && hasCall) = true →
      Directive.goto? s states i (hi + 1) = Directive.goto? s states i hi := by
    intro hgoto
    rw [Bool.and_eq_true] at hgoto
    exact h.goto?_succ hlo (hparen hgoto.2).1 (hparen hgoto.2).2
  by_cases hend : i + 3 = hi
  · by_cases htarget : t.text = "Target"
    · have henter : Directive.enter? s states i = .ok none := h.enter?_of_closes hlo hend
      simp [htarget, hend, henter]
    · have hno : (t.text == "Target") = false := by simpa using htarget
      simp only [hno, Bool.false_and]
      split_ifs with _ hg <;> first | rfl | exact hgoto hg
  · have hiff : i + 3 < hi + 1 ↔ i + 3 < hi := by omega
    simp only [hiff]
    split_ifs with _ hg <;> first | rfl | exact hgoto hg

theorem call?_succ (h : s.ShutOn lo hi) (hlo : lo ≤ i) (hlt : i < hi) :
    Directive.call? s bound i (hi + 1) = Directive.call? s bound i hi := by
  obtain ⟨u, hu, hcloses⟩ := h.closes
  obtain ⟨t, ht⟩ := h.closed.token hlo hlt
  have hdenied : Directive.denied s i (hi + 1) = Directive.denied s i hi := by
    unfold Directive.denied
    by_cases hend : i + 1 = hi
    · rw [hend, hu, Option.any_some, deniesCall_eq_false_of_closes? hcloses, Bool.and_false,
        Bool.and_false]
    · rw [decide_eq_true (by omega), decide_eq_true (by omega)]
  rw [Directive.call?_eq (token_eq_ok_iff.mp ht), Directive.call?_eq (token_eq_ok_iff.mp ht),
    hdenied]

end ShutOn

end Stream

/-! ### Braces around a range -/

namespace Directive

variable {s : Stream} {states : StateIndex} {bound : List String} {i close stop : Nat} {t : Token}

lemma at?_of_not_identifier (ht : s.get? i = some t) (hident : t.isIdentifier = false) :
    at? s states i stop = .ok none := by
  unfold at?
  rw [Stream.token_eq_ok_iff.mpr ht]
  simp only [Bind.bind, Except.bind]
  rw [hident, Bool.not_false, Bool.true_or, if_pos rfl]

lemma call?_of_not_identifier (ht : s.get? i = some t) (hident : t.isIdentifier = false) :
    call? s bound i stop = .ok none := by
  rw [call?_eq ht, hident, Bool.not_false, Bool.true_or, if_pos rfl]

lemma firstIn_congr {search search' : Nat → Except Error (Option Action)} {is : List Nat}
    (h : ∀ i ∈ is, search i = search' i) : firstIn search is = firstIn search' is := by
  induction is with
  | nil => rfl
  | cons i is ih =>
    rw [firstIn_cons, firstIn_cons, h i List.mem_cons_self,
      ih fun k hk => h k (List.mem_cons_of_mem _ hk)]

lemma firstIn_concat {search : Nat → Except Error (Option Action)} {is : List Nat} {k : Nat}
    (h : search k = .ok none) : firstIn search (is ++ [k]) = firstIn search is := by
  induction is with
  | nil =>
    rw [List.nil_append, firstIn_cons, h]
    rfl
  | cons i is ih => rw [List.cons_append, firstIn_cons, firstIn_cons, ih]

lemma firstIn_braced {search search' : Nat → Except Error (Option Action)} (hlt : i < close)
    (hopen : search i = .ok none) (hclose : search close = .ok none)
    (h : ∀ k, i + 1 ≤ k → k < close → search k = search' k) :
    firstIn search (List.range' i (close + 1 - i)) =
      firstIn search' (List.range' (i + 1) (close - (i + 1))) := by
  have hrange : List.range' i (close + 1 - i) =
      i :: (List.range' (i + 1) (close - (i + 1)) ++ [close]) := by
    rw [show close + 1 - i = close - (i + 1) + 1 + 1 by omega, List.range'_succ,
      List.range'_concat, Nat.one_mul, show i + 1 + (close - (i + 1)) = close by omega]
  rw [hrange, firstIn_cons, hopen]
  change firstIn search (List.range' (i + 1) (close - (i + 1)) ++ [close]) = _
  rw [firstIn_concat hclose]
  apply firstIn_congr
  intro k hk
  rw [List.mem_range'_1] at hk
  exact h k hk.1 (by omega)

/-- Between braces the same directive or call is found as with them. -/
theorem find?_braced (hopen : s.get? i = some t) (hident : t.isIdentifier = false)
    (h : s.ShutOn (i + 1) close) (hlt : i < close) :
    find? s states bound i (close + 1) = find? s states bound (i + 1) close := by
  obtain ⟨u, hu, hcloses⟩ := h.closes
  have hlast := Lexeme.isIdentifier_eq_false_of_closes? hcloses
  have hdirective : firstIn (at? s states · (close + 1)) (List.range' i (close + 1 - i)) =
      firstIn (at? s states · close) (List.range' (i + 1) (close - (i + 1))) :=
    firstIn_braced hlt (at?_of_not_identifier hopen hident) (at?_of_not_identifier hu hlast)
      fun k => h.directiveAt?_succ
  have hcall : firstIn (call? s bound · (close + 1)) (List.range' i (close + 1 - i)) =
      firstIn (call? s bound · close) (List.range' (i + 1) (close - (i + 1))) :=
    firstIn_braced hlt (call?_of_not_identifier hopen hident) (call?_of_not_identifier hu hlast)
      fun k => h.call?_succ
  unfold find?
  simp only [hdirective, hcall]

end Directive

namespace Body

variable {read : Reader} {s : Stream} {states : StateIndex} {bound : List String}
  {i close stop : Nat}

/-- A branching starts at this token, in a range that ends before `stop`. -/
def startsBranching (s : Stream) (stop i : Nat) (t : Token) : Bool :=
  decide (i + 1 < stop) && (t.isWord "match" && s.hasMark (i + 1) leftBrace ||
    t.isWord "if" && s.hasMark (i + 1) "(")

/-- Some branching starts where the brackets of the range are least deep. -/
def isBranching (s : Stream) (start stop : Nat) : Bool :=
  (s.part start (stop - start)).any fun x =>
    x.2.depth == leastDepth (s.part start (stop - start)) && startsBranching s stop x.1 x.2

lemma branchesWith_of_not_isBranching (hsize : stop ≤ s.size) (h : isBranching s i stop = false) :
    branchesWith read s states i stop bound =
      (Directive.find? s states bound i stop).map fun a => a.toList.map fun a => ⟨none, a⟩ := by
  by_cases hlt : i < stop
  · refine branchesWith_of_none hlt (Stream.range_eq_part hsize) rfl ?_
    have hno : ∀ x ∈ s.part i (stop - i), x.2.depth = leastDepth (s.part i (stop - i)) →
        x.1 + 1 < stop → (x.2.isWord "match" && s.hasMark (x.1 + 1) leftBrace) = false ∧
          (x.2.isWord "if" && s.hasMark (x.1 + 1) "(") = false := by
      intro x hx hd hstop
      have hstarts := List.any_eq_false.mp h x hx
      simp only [beq_iff_eq.mpr hd, Bool.true_and, startsBranching, decide_eq_true hstop,
        Bool.not_eq_true, Bool.or_eq_false_iff] at hstarts
      exact hstarts
    apply branching_eq_none
    · intro x hx hd hstop hword
      simpa [hword] using (hno x hx hd hstop).1
    · intro x hx hd hstop hword
      simpa [hword] using (hno x hx hd hstop).2
  · have hindices : List.range' i (stop - i) = [] := by
      rw [Nat.sub_eq_zero_of_le (by omega)]
      rfl
    unfold branchesWith Directive.find?
    rw [if_pos (by omega), hindices]
    rfl

lemma isBranching_braced (hs : s.Nested) (hbrace : s.hasMark i leftBrace = true)
    (hclose : s.closer i = .ok close) : isBranching s i (close + 1) = false := by
  obtain ⟨hic, hsize⟩ := hs.lt_closer hclose
  obtain ⟨t, ht⟩ : ∃ t, s.get? i = some t := ⟨_, Stream.get?_of_lt (hic.trans hsize)⟩
  obtain ⟨u, hu⟩ : ∃ u, s.get? close = some u := ⟨_, Stream.get?_of_lt hsize⟩
  rw [Stream.Says.hasMark_of_word ht] at hbrace
  obtain ⟨hdepth, hcloses⟩ := hs.depth_closer hclose ht hu
  -- All between the braces lies deeper than they do.
  have hdeep : ∀ x ∈ s.part (i + 1) (close - i), t.depth < x.2.depth ∨ x = (close, u) := by
    intro x hx
    obtain ⟨hlo, hhi, hget⟩ := Stream.mem_part.mp hx
    by_cases hlt : x.1 < close
    · exact .inl (hs.depth_lt_between hclose ht hlo hlt hget)
    · have hend : x.1 = close := by omega
      rw [hend, hu, Option.some.injEq] at hget
      exact .inr (Prod.ext hend hget.symm)
  have hleast : leastDepth ((i, t) :: s.part (i + 1) (close - i)) = t.depth := by
    apply leastDepth_cons
    intro x hx
    rcases hdeep x hx with hlt | rfl
    · exact hlt.le
    · exact hdepth.ge
  unfold isBranching
  rw [show close + 1 - i = close - i + 1 by omega, Stream.part_succ ht, hleast, List.any_cons,
    Bool.or_eq_false_iff, List.any_eq_false]
  have hword (w : String) : t.isWord w = false :=
    Bool.eq_false_iff.mpr (mt Lexeme.isWord_iff.mp (by
      rw [Lexeme.isMark_iff.mp hbrace]; exact fun hw => by cases hw))
  constructor
  · simp [startsBranching, hword]
  · intro x hx
    rcases hdeep x hx with hlt | rfl
    · simp [hlt.ne']
    · simp [startsBranching]

/-- A range in braces is read as if it had no branching. -/
theorem branchesWith_braced (hs : s.Nested) (hbalance : s.problems = [])
    (hbrace : s.hasMark i leftBrace = true) (hclose : s.closer i = .ok close) :
    branchesWith read s states i (close + 1) bound =
      (Directive.find? s states bound (i + 1) close).map fun a =>
        a.toList.map fun a => ⟨none, a⟩ := by
  obtain ⟨hic, hsize⟩ := hs.lt_closer hclose
  obtain ⟨t, ht⟩ : ∃ t, s.get? i = some t := ⟨_, Stream.get?_of_lt (hic.trans hsize)⟩
  have hident : t.isIdentifier = false := by
    rw [Stream.Says.hasMark_of_word ht, Lexeme.isMark_iff] at hbrace
    have hk : t.kind = .mark := congrArg Word.kind hbrace
    simp [Lexeme.isIdentifier, hk]
  rw [branchesWith_of_not_isBranching hsize (isBranching_braced hs hbrace hclose),
    Directive.find?_braced ht hident (.of_closer hs hbalance hclose) hic]

/-- Clauses of an arm whose body has one outcome at most, without a label, are labelled with its
event. -/
lemma ofArm_of_unlabelled {head : Blocks.BlockHead} {a : Arm} {clauses : List Clause}
    {findings : List Finding}
    (hbranches : ∀ bound bs, branches s states (a.arrow + 1) a.stop bound = .ok bs →
      bs.length ≤ 1 ∧ ∀ b ∈ bs, b.label = none)
    (h : Blocks.ofArm s states head a = .ok (clauses, findings)) :
    clauses.length ≤ 1 ∧ ∀ c ∈ clauses, Pattern.event s (a.start + 1) a.arrow = .ok c.event := by
  unfold Blocks.ofArm at h
  obtain ⟨event, hevent, h⟩ := bind_eq_ok_iff.mp h
  obtain ⟨first, -, h⟩ := bind_eq_ok_iff.mp h
  obtain ⟨bound, -, h⟩ := bind_eq_ok_iff.mp h
  obtain ⟨bs, hbs, h⟩ := bind_eq_ok_iff.mp h
  obtain ⟨hlen, hnone⟩ := hbranches bound bs hbs
  split_ifs at h with hempty
  · cases h
    simp
  · cases h
    refine ⟨by rwa [List.length_map], fun c hc => ?_⟩
    obtain ⟨b, hb, rfl⟩ := List.mem_map.mp hc
    rw [hevent]
    simp [Branch.labelled, hnone b hb]

/-- A body in braces gives at most one outcome, without a label: its first directive, or else its
first call. That is what the body gives without the braces if it does not branch. A clause with such
a body has at most one edge, which is labelled with the event alone. -/
theorem branches_braced (lexemes : List Lexeme) (states : StateIndex) (i close : Nat) :
    let s := Stream.ofLexemes lexemes
    s.problems = [] → s.hasMark i leftBrace = true → s.closer i = .ok close →
    (∀ bound, branches s states i (close + 1) bound =
      (Directive.find? s states bound (i + 1) close).map fun a =>
        a.toList.map fun a => ⟨none, a⟩) ∧
    (isBranching s (i + 1) close = false →
      ∀ bound, branches s states i (close + 1) bound = branches s states (i + 1) close bound) ∧
    (∀ bound bs, branches s states i (close + 1) bound = .ok bs →
      bs.length ≤ 1 ∧ ∀ b ∈ bs, b.label = none) ∧
    ∀ (head : Blocks.BlockHead) (a : Arm) (clauses : List Clause) (findings : List Finding),
      a.arrow + 1 = i → a.stop = close + 1 →
      Blocks.ofArm s states head a = .ok (clauses, findings) →
      clauses.length ≤ 1 ∧ ∀ c ∈ clauses, Pattern.event s (a.start + 1) a.arrow = .ok c.event := by
  intro s hbalance hbrace hclose
  have hs : s.Nested := Stream.nested_ofLexemes lexemes
  have hbraced : ∀ bound, branches s states i (close + 1) bound =
      (Directive.find? s states bound (i + 1) close).map fun a =>
        a.toList.map fun a => ⟨none, a⟩ :=
    fun bound => branchesWith_braced hs hbalance hbrace hclose
  have hunlabelled : ∀ bound bs, branches s states i (close + 1) bound = .ok bs →
      bs.length ≤ 1 ∧ ∀ b ∈ bs, b.label = none :=
    fun bound bs hbs => unlabelled_of_action (hbraced bound ▸ hbs)
  refine ⟨hbraced, fun hno bound => ?_, hunlabelled, ?_⟩
  · rw [hbraced bound]
    exact (branchesWith_of_not_isBranching (hs.lt_closer hclose).2.le hno).symm
  · rintro head a clauses findings rfl hstop h
    exact ofArm_of_unlabelled (hstop ▸ hunlabelled) h

/-- `{ if (x) goto(A) else stay() }`. -/
def bracedChoice : List Word :=
  .mark leftBrace :: (Unbraced.words (.ifElse ⟨[.name "x"], balanced_name "x"⟩ (.leaf (.goto ⟨"A", []⟩))
    (.leaf .stay)) ++ [.mark rightBrace])

/-- Between the braces there are two outcomes, and with them only the first, without its label. -/
theorem branches_bracedChoice :
    (Stream.ofLexemes (bracedChoice.map lexemeOf)).closer 0 = .ok 13 ∧
    branches (Stream.ofLexemes (bracedChoice.map lexemeOf)) .empty 0 14 [] =
      .ok [⟨none, .goto "A" none⟩] ∧
    branches (Stream.ofLexemes (bracedChoice.map lexemeOf)) .empty 1 13 [] =
      .ok [⟨some "x", .goto "A" none⟩, ⟨some "else", .stay none⟩] := by
  exact ⟨rfl, rfl, rfl⟩

/-- `{ goto(A) }`. -/
def bracedGoto : List Word :=
  .mark leftBrace :: ((Leaf.goto ⟨"A", []⟩).words ++ [.mark rightBrace])

theorem branches_bracedGoto :
    branches (Stream.ofLexemes (bracedGoto.map lexemeOf)) .empty 0 6 [] =
      branches (Stream.ofLexemes (bracedGoto.map lexemeOf)) .empty 1 5 [] := by
  have h := branches_braced (bracedGoto.map lexemeOf) .empty 0 5 rfl rfl rfl
  exact h.2.1 rfl []

end Body

end ActorDiagram
