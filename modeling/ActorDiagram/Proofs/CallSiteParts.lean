import Mathlib
import ActorDiagram.Proofs.CallSite
import ActorDiagram.Proofs.SpliceStates

/-!
# The parts of a call site

What is read in the two parts that texts around a call site differ in. Neither the call nor the body
declares anything; the call is read as a call, and the body as it is read for the helper.
-/

namespace ActorDiagram

/-! ### Places where nothing is declared -/

lemma Lexeme.isWord_eq_false {t : Lexeme} (h : t.isIdentifier = false) (w : String) :
    t.isWord w = false := by
  rw [Bool.eq_false_iff] at h ⊢
  exact mt Lexeme.isIdentifier_of_isWord h

lemma Lexeme.isWordOf_of_subset {t : Lexeme} {ws ws' : List String} (h : t.isWordOf ws = false)
    (hws : ws' ⊆ ws) : t.isWordOf ws' = false := by
  rw [Bool.eq_false_iff] at h ⊢
  refine mt (fun hword => ?_) h
  have hword := Lexeme.isWordOf_eq_true.mp hword
  exact Lexeme.isWordOf_eq_true.mpr ⟨hword.1, hws hword.2⟩

lemma Lexeme.isWord_of_isWordOf {t : Lexeme} {ws : List String} {w : String}
    (h : t.isWordOf ws = false) (hw : w ∈ ws) : t.isWord w = false := by
  rw [Bool.eq_false_iff] at h ⊢
  refine mt (fun hword => ?_) h
  obtain ⟨hkind, rfl⟩ := Lexeme.isWord_eq_true.mp hword
  exact Lexeme.isWordOf_eq_true.mpr ⟨hkind, hw⟩

section Nothing

variable {s : Stream} {i : Nat}

lemma Blocks.blockHead?_eq_none (hi : i < s.size)
    (h : ∀ t u, s.get? i = some t → s.get? (i + 2) = some u →
      (t.isWord "when" && u.isIdentifier) = false) (states : StateIndex) :
    blockHead? s states i = .ok none := by
  have ht := Stream.get?_of_lt hi
  unfold blockHead?
  rw [Stream.token_eq_ok_iff.mpr ht]
  simp only [Bind.bind, Except.bind]
  cases hu : s.get? (i + 2) with
  | none => rfl
  | some u =>
    simp only
    rw [if_neg]
    intro hall
    have := h _ u ht hu
    simp_all

lemma Helper.nameAt?_eq_none (h : ∀ t u, s.get? i = some t → s.get? (i + 1) = some u →
    (t.isWord "def" && u.isIdentifier) = false) : nameAt? s i = none := by
  unfold nameAt?
  cases ht : s.get? i with
  | none => rfl
  | some t =>
    cases hu : s.get? (i + 1) with
    | none => rfl
    | some u =>
      simp only
      rw [h t u ht hu]
      rfl

lemma StateIndex.declHead?_eq_none {first : Token}
    (h : ∀ k t u, (k = i ∨ k = i + 1 ∧ first.isWord "case" = true) → s.get? k = some t →
      s.get? (k + 1) = some u → (t.isWordOf ["object", "class"] && u.isIdentifier) = false) :
    declHead? s i first = none := by
  unfold declHead?
  simp only
  generalize hk : (if first.isWord "case" then i + 1 else i) = k
  have hk' : k = i ∨ k = i + 1 ∧ first.isWord "case" = true := by
    split_ifs at hk with hcase
    · exact .inr ⟨hk.symm, hcase⟩
    · exact .inl hk.symm
  cases ht : s.get? k with
  | none => rfl
  | some t =>
    cases hu : s.get? (k + 1) with
    | none => rfl
    | some u =>
      simp only
      rw [h k t u hk' ht hu]
      rfl

lemma TypeFact.at?_eq_none (hi : i < s.size) (h : ∀ t u, s.get? i = some t →
    s.get? (i + 1) = some u → t.isIdentifier = true →
      u.isIdentifier = false ∧ u.isMark "[" = false) : at? s i = .ok none := by
  have ht := Stream.get?_of_lt hi
  unfold at?
  rw [Stream.token_eq_ok_iff.mpr ht]
  simp only [Bind.bind, Except.bind]
  split_ifs with hmachine htype
  · refine argumentAt?_of_not_bracket ?_
    rw [Stream.hasMark_eq_any, Option.any_eq_false]
    intro u hu
    simp [(h _ u ht hu (Lexeme.isIdentifier_of_isWordOf hmachine)).2]
  · unfold declaredAt?
    cases hu : s.get? (i + 1) with
    | none => rfl
    | some u =>
      obtain ⟨hno, -⟩ := h _ u ht hu (Lexeme.isIdentifier_of_isWordOf htype)
      simp [hno]
  · rfl

end Nothing

namespace CallSite.Inlines

variable {c : CallSite} {ls ls' : List Lexeme}

/-! ### The call -/

lemma call_bracket (h : c.Inlines ls ls') {k : Nat} {t : Token} (hk : c.before.length < k)
    (hlt : k < c.before.length + 3) (ht : (Stream.ofLexemes ls).get? k = some t) :
    t.isIdentifier = false ∧ t.isMark "[" = false := by
  obtain ⟨d, hcall⟩ := h.says_call
  obtain ⟨u, hu, hw⟩ := hcall.get?_of_lt (k := k) (by omega) (by simpa [callOf] using hlt)
  rw [ht] at hu
  cases hu
  have hmark : t.word = .mark "(" ∨ t.word = .mark ")" := by
    obtain hj | hj : k - c.before.length = 1 ∨ k - c.before.length = 2 := by omega
    · rw [hj] at hw
      exact .inl (Option.some.inj hw).symm
    · rw [hj] at hw
      exact .inr (Option.some.inj hw).symm
  rcases hmark with hw | hw
  all_goals
    rw [Lexeme.isIdentifier, Lexeme.isMark, show t.kind = .mark from congrArg Word.kind hw,
      show t.text = _ from congrArg Word.text hw]
    decide

lemma call_next (h : c.Inlines ls ls') {k j : Nat} {t u : Token} (hk : c.before.length ≤ k)
    (hlt : k < c.before.length + 3) (hj : j = 1 ∨ j = 2)
    (ht : (Stream.ofLexemes ls).get? k = some t) (hu : (Stream.ofLexemes ls).get? (k + j) = some u)
    (hident : t.isIdentifier = true) : u.isIdentifier = false ∧ u.isMark "[" = false := by
  rcases Nat.eq_or_lt_of_le hk with rfl | hlt'
  · exact h.call_bracket (by omega) (by omega) hu
  · rw [(h.call_bracket hlt' hlt ht).1] at hident
    cases hident

lemma call_no_block (h : c.Inlines ls ls') (states : StateIndex) {k : Nat}
    (hk : c.before.length ≤ k) (hlt : k < c.before.length + 3) :
    Blocks.blockHead? (Stream.ofLexemes ls) states k = .ok none := by
  have hsize := h.splice.le_size
  refine Blocks.blockHead?_eq_none (by omega) ?_ states
  intro t u ht hu
  rw [Bool.and_eq_false_iff]
  by_cases hident : t.isIdentifier = true
  · exact .inr (h.call_next hk hlt (.inr rfl) ht hu hident).1
  · exact .inl (Lexeme.isWord_eq_false (by simpa using hident) _)

lemma call_no_function (h : c.Inlines ls ls') {k : Nat} (hk : c.before.length ≤ k)
    (hlt : k < c.before.length + 3) : Helper.nameAt? (Stream.ofLexemes ls) k = none := by
  apply Helper.nameAt?_eq_none
  intro t u ht hu
  rw [Bool.and_eq_false_iff]
  by_cases hident : t.isIdentifier = true
  · exact .inr (h.call_next hk hlt (.inl rfl) ht hu hident).1
  · exact .inl (Lexeme.isWord_eq_false (by simpa using hident) _)

lemma call_no_type (h : c.Inlines ls ls') {k : Nat} (hk : c.before.length ≤ k)
    (hlt : k < c.before.length + 3) : TypeFact.at? (Stream.ofLexemes ls) k = .ok none := by
  have hsize := h.splice.le_size
  apply TypeFact.at?_eq_none (by omega)
  intro t u ht hu hident
  exact h.call_next hk hlt (.inl rfl) ht hu hident

lemma call_no_state (h : c.Inlines ls ls') {k : Nat} {first : Token} (hk : c.before.length ≤ k)
    (hlt : k < c.before.length + 3) (hfirst : (Stream.ofLexemes ls).get? k = some first) :
    StateIndex.declHead? (Stream.ofLexemes ls) k first = none := by
  apply StateIndex.declHead?_eq_none
  rintro k' t u hk' ht hu
  rw [Bool.and_eq_false_iff]
  by_cases hident : t.isIdentifier = true
  · right
    rcases hk' with rfl | ⟨rfl, hcase⟩
    · exact (h.call_next hk hlt (.inl rfl) ht hu hident).1
    · rw [(h.call_next hk hlt (.inl rfl) hfirst ht (Lexeme.isIdentifier_of_isWord hcase)).1] at hident
      cases hident
  · left
    exact Bool.eq_false_iff.mpr (mt Lexeme.isIdentifier_of_isWordOf hident)

/-! ### The body -/

lemma body_get (h : c.Inlines ls ls') {k : Nat} {t : Token} (hk : c.before.length ≤ k)
    (hlt : k < c.before.length + c.body.length)
    (ht : (Stream.ofLexemes ls').get? k = some t) :
    c.body[k - c.before.length]? = some t.word := by
  obtain ⟨d, hbody⟩ := h.says_body
  obtain ⟨u, hu, hw⟩ := hbody.get?_of_lt hk hlt
  rw [ht] at hu
  cases hu
  exact hw

lemma body_not_declaring (h : c.Inlines ls ls') {k : Nat} {t : Token} (hk : c.before.length ≤ k)
    (hlt : k < c.before.length + c.body.length)
    (ht : (Stream.ofLexemes ls').get? k = some t) : t.isWordOf declaringWords = false := by
  by_contra hword
  rw [Bool.not_eq_false] at hword
  have hw : t.word = .name t.text := Lexeme.isIdentifier_iff.mp (Lexeme.isIdentifier_of_isWordOf hword)
  refine h.not_declaring _ (Lexeme.isWordOf_eq_true.mp hword).2 ?_
  rw [← hw]
  exact List.mem_of_getElem? (h.body_get hk hlt ht)

lemma body_no_block (h : c.Inlines ls ls') (states : StateIndex) {k : Nat}
    (hk : c.before.length ≤ k) (hlt : k < c.before.length + c.body.length) :
    Blocks.blockHead? (Stream.ofLexemes ls') states k = .ok none := by
  have hsize := h.splice.le_size'
  refine Blocks.blockHead?_eq_none (by omega) ?_ states
  intro t u ht _
  rw [Lexeme.isWord_of_isWordOf (h.body_not_declaring hk hlt ht) (by decide), Bool.false_and]

lemma body_no_function (h : c.Inlines ls ls') {k : Nat} (hk : c.before.length ≤ k)
    (hlt : k < c.before.length + c.body.length) :
    Helper.nameAt? (Stream.ofLexemes ls') k = none := by
  apply Helper.nameAt?_eq_none
  intro t u ht _
  rw [Lexeme.isWord_of_isWordOf (h.body_not_declaring hk hlt ht) (by decide), Bool.false_and]

lemma body_no_state (h : c.Inlines ls ls') {k : Nat} {first : Token} (hk : c.before.length ≤ k)
    (hlt : k < c.before.length + c.body.length)
    (hfirst : (Stream.ofLexemes ls').get? k = some first) :
    StateIndex.declHead? (Stream.ofLexemes ls') k first = none := by
  apply StateIndex.declHead?_eq_none
  rintro k' t u hk' ht _
  have hinside : c.before.length ≤ k' ∧ k' < c.before.length + c.body.length := by
    rcases hk' with rfl | ⟨rfl, hcase⟩
    · exact ⟨hk, hlt⟩
    · refine ⟨by omega, ?_⟩
      by_contra hge
      -- As the last word, the `case` would stand outside all brackets.
      have hlast := h.body_get hk hlt hfirst
      rw [Lexeme.isWord_iff.mp hcase, show k - c.before.length = c.body.length - 1 by omega,
        ← List.getLast?_eq_getElem?] at hlast
      have hsplit := List.dropLast_append_getLast? _ hlast
      have hbalanced := h.balanced
      rw [← hsplit] at hbalanced
      apply h.no_case
      rw [← hsplit]
      exact mem_topLevel (hbalanced.of_concat (Word.isPlain_name _)) (Word.isPlain_name _)
  rw [Lexeme.isWordOf_of_subset (h.body_not_declaring hinside.1 hinside.2 ht) (by decide),
    Bool.false_and]

/-! ### What stands around -/

lemma quiet_arrow (h : c.Inlines ls ls') :
    (∀ t, (Stream.ofLexemes ls).before? c.before.length = some t → Window.quietBefore t = true) ∧
      ∀ t, (Stream.ofLexemes ls').before? c.before.length = some t →
        Window.quietBefore t = true := by
  obtain ⟨d, d', hcall, hbody⟩ := h.says_after_arrow
  have hquiet : ∀ {s : Stream} {e : Nat} {ws : List Word},
      s.Says e c.arm.arrow (.arrow :: ws) →
      ∀ t, s.before? c.before.length = some t → Window.quietBefore t = true := by
    intro s e ws hsays t ht
    obtain ⟨u, hu, hw, -⟩ := hsays.head (by decide)
    rw [← h.arrow, show s.before? (c.arm.arrow + 1) = s.get? c.arm.arrow from rfl, hu] at ht
    cases ht
    rw [Window.quietBefore, Lexeme.isMark, Lexeme.isWordOf,
      show t.kind = .operator from congrArg Word.kind hw]
    rfl
  exact ⟨hquiet hcall, hquiet hbody⟩

lemma quiet_stop (h : c.Inlines ls ls') {t : Token}
    (ht : (Stream.ofLexemes ls').get? (c.before.length + c.body.length) = some t) :
    Window.quietAfter t = true ∧ t.isMark "[" = false := by
  obtain ⟨arms, harms, harm⟩ := h.mem
  obtain ⟨-, -, -, -, hstop⟩ := Arm.found_of_ofBlock harms harm
  have hlock := h.splice.lockstep
  have hend : Spliced c.before.length 3 c.body.length c.arm.stop
      (c.before.length + c.body.length) := by
    have hstop : c.arm.stop = c.before.length + 3 := h.stop
    exact .inr ⟨by omega, by omega⟩
  have hget := hlock.get _ _ hend
  rw [ht] at hget
  cases hu : (Stream.ofLexemes ls).get? c.arm.stop with
  | none =>
    rw [hu] at hget
    cases hget
  | some u =>
    rw [hu] at hget
    cases hget with
    | some halike =>
      rw [Window.quietAfter, ← halike.isMark, ← halike.isMark, ← halike.isWord]
      rcases hstop with hclose | ⟨v, hv, hcase⟩
      · have hcloses : u.word.closes?.isSome = true := by
          obtain ⟨hic, hcs⟩ := hlock.nested.lt_closer hclose
          exact hlock.nested.isSome_closes? hclose (Stream.get?_of_lt (hic.trans hcs)) hu
        refine ⟨Window.quietAfter_of_closes? hcloses, ?_⟩
        by_contra hmark
        rw [Bool.not_eq_false] at hmark
        rw [Helper.closes?_of_group (by rw [hmark, Bool.or_true])] at hcloses
        cases hcloses
      · rw [hu] at hv
        cases hv
        refine ⟨Window.quietAfter_of_isWord hcase (by decide), ?_⟩
        simp [Lexeme.isMark, (Lexeme.isWord_eq_true.mp hcase).1]

/-! ### What is read -/

lemma body_machines (h : c.Inlines ls ls') {j : Nat} (hj : c.before.length ≤ j)
    (hlt : j < c.before.length + c.body.length) :
    ∃ fact, TypeFact.at? (Stream.ofLexemes ls') j = .ok fact ∧
      (fact = none ∨ ∃ name, fact = some (.stateType name)) ∧
      ∃ k, (k < c.before.length ∨ c.before.length + c.body.length ≤ k) ∧
        k < (Stream.ofLexemes ls').size ∧ TypeFact.at? (Stream.ofLexemes ls') k = .ok fact := by
  obtain ⟨d, harm⟩ := h.says_body
  obtain ⟨e, i, hdef, hout⟩ := h.says_definition'
  obtain ⟨hbody, hbefore, hafter⟩ := hdef.body_of_definition h.balanced
  have hplace : ∀ p q, sameWords.place p q := fun _ _ => trivial
  have hfits := harm.fits hplace hbody h.balanced h.quiet_arrow.2 hbefore
    (fun t ht => (h.quiet_stop ht).1) fun t ht => (hafter t ht).1
  have hbracket : ∀ {s : Stream} {k : Nat}, (∀ t, s.get? k = some t → t.isMark "[" = false) →
      s.hasMark k "[" = false := by
    intro s k hno
    rw [Stream.hasMark_eq_any]
    cases ht : s.get? k with
    | none => rfl
    | some t => exact hno t ht
  obtain ⟨fact, hfact, hfact', hkind⟩ := hfits.machineAt? (i := j)
    (j := i + 6 + (j - c.before.length)) (by simp only [Window.At]; omega) hlt
    (fun t ht => Lexeme.isWordOf_of_subset (h.body_not_declaring hj hlt ht) (by decide))
    (hbracket fun t ht => (h.quiet_stop ht).2) (hbracket fun t ht => (hafter t ht).2)
  have hsize := hdef.le_size
  rw [length_definitionOf] at hsize
  exact ⟨fact, hfact, hkind, _, by omega, by omega, hfact'⟩

lemma call_branches (h : c.Inlines ls ls') (states : StateIndex) {bound : List String}
    (hbound : Pattern.boundNames (Stream.ofLexemes ls) (c.arm.start + 1) c.arm.arrow = .ok bound) :
    Body.branches (Stream.ofLexemes ls) states c.before.length (c.before.length + 3) bound =
      .ok [⟨none, .call c.name⟩] := by
  obtain ⟨d, hcall⟩ := h.says_call
  exact Body.branches_of_callOf hcall h.callable (h.unbound bound hbound) h.quiet_arrow.1

/-- The body is read as it is read for the helper, whatever names are bound around it. -/
theorem body_branches (h : c.Inlines ls ls') {states states' : StateIndex}
    (hstates : states.unplaced = states'.unplaced) {t : Token} {f : Helper}
    (hf : Helper.at? (Stream.ofLexemes ls) states c.place t = .ok (some f))
    (hfree : CallFree f.branches) :
    ∃ bs, (∀ bound, Body.branches (Stream.ofLexemes ls') states' c.before.length
        (c.before.length + c.body.length) bound = .ok bs) ∧
      List.Forall₂ (Branch.Alike sameWords) f.branches bs := by
  obtain ⟨d, harm⟩ := h.says_body
  obtain ⟨e, hdef⟩ := h.says_definition
  obtain ⟨hbody, hbefore, hafter⟩ := hdef.body_of_definition h.balanced
  have hplace : ∀ p q, sameWords.place p q := fun _ _ => trivial
  have hfits := hbody.fits hplace harm h.balanced hbefore h.quiet_arrow.2
    (fun t ht => (hafter t ht).1) fun t ht => (h.quiet_stop ht).1
  have hagree := hfits.branches hstates (c.place + 6) c.before.length
    (c.place + 6 + c.body.length) (c.before.length + c.body.length) [] (by simp only [Window.At]; omega)
    (by simp only [Window.At]; omega)
  rw [Helper.branches_of_definition hdef h.balanced hf] at hagree
  rcases Agree.cases hagree with ⟨bs, bs', hbs, hbs', halike⟩ | ⟨e, e', he, -⟩
  · cases hbs
    refine ⟨bs', fun bound => ?_, halike⟩
    exact Body.branches_of_subset _ _ _ _ [] bound bs' (List.nil_subset _) hbs'
      (callFree_of_alike halike hfree)
  · cases he

lemma armSite (h : c.Inlines ls ls') : Stream.Splice.ArmSite (Stream.ofLexemes ls)
    (Stream.ofLexemes ls') c.before.length 3 c.body.length c.brace c.arm where
  mem := h.mem
  arrow := h.arrow
  stop := h.stop
  no_case k t u _ hk hlt ht _ := by
    by_contra hcase
    rw [Bool.not_eq_false] at hcase
    obtain ⟨d, hcall⟩ := h.says_call
    obtain ⟨v, hv, hw⟩ := hcall.get?_of_lt hk hlt
    rw [ht] at hv
    cases hv
    have hmem := List.mem_of_getElem? hw
    rw [Lexeme.isWord_iff.mp hcase] at hmem
    have hname : c.name = "case" := by
      simpa [callOf, Word.name, Word.mark, eq_comm] using hmem
    exact h.callable.not_reserved (by rw [hname]; decide)
  no_case' k t u hu hk hlt ht hd := by
    by_contra hcase
    rw [Bool.not_eq_false] at hcase
    obtain ⟨-, d, -, hbody⟩ := h.says_after_arrow
    obtain ⟨a, ha, -, had⟩ := hbody.head (by decide)
    have hbody := hbody.tail (by decide)
    have hbefore : Spliced c.before.length 3 c.body.length c.arm.arrow c.arm.arrow :=
      .inl ⟨rfl, by have := h.arrow; omega⟩
    obtain ⟨a', ha', halike⟩ := h.splice.lockstep.exists_get hbefore hu
    rw [ha] at ha'
    cases ha'
    have hdepth : u.depth = a.depth := by simpa using halike.depth
    rw [h.arrow] at hbody
    have hw := Lexeme.isWord_iff.mp hcase
    have hmem := (hbody.depth_of_balanced h.balanced hk hlt ht).2 (by omega)
      (by rw [hw]; exact Word.isPlain_name _)
    rw [hw] at hmem
    exact h.no_case hmem

lemma brace_eq (h : c.Inlines ls ls') {states : StateIndex} {i close : Nat}
    {head : Blocks.BlockHead}
    (hhead : Blocks.blockHead? (Stream.ofLexemes ls) states i = .ok (some head))
    (hclose : (Stream.ofLexemes ls).closer head.brace = .ok close)
    (hlt : head.brace < c.before.length) (hle : c.before.length ≤ close) :
    head.brace = c.brace := by
  have harrow := h.arrow
  have hnested := Stream.nested_ofLexemes ls
  obtain ⟨d, -, hcall, -⟩ := h.says_after_arrow
  obtain ⟨t, ht, htw, -⟩ := hcall.head (by decide)
  have hne : head.brace ≠ c.arm.arrow := by
    intro heq
    rw [heq] at hclose
    have hcloses := (hnested.depth_closer hclose ht
      (Stream.get?_of_lt (hnested.lt_closer hclose).2)).2
    rw [show t.text = "=>" from congrArg Word.text htw, Word.closes?] at hcloses
    unfold openingOf? leftBrace at hcloses
    split_ifs at hcloses <;> simp at hcloses
  have hbrace := Blocks.braceAt?_of_blockHead? hhead
  have hi : i < ls.length := by
    by_contra hge
    have hnone : (Stream.ofLexemes ls).get? i = none := by
      apply Array.getElem?_eq_none
      have hsize := Stream.size_ofLexemes ls
      unfold Stream.size at hsize
      omega
    unfold Blocks.braceAt? at hbrace
    rw [hnone] at hbrace
    cases hbrace
  have haround : Blocks.around (Stream.ofLexemes ls) i c.arm.arrow = true := by
    unfold Blocks.around
    rw [hbrace]
    simp only [hclose, Bool.and_eq_true, decide_eq_true_eq]
    omega
  rw [h.no_other i hi haround] at hbrace
  exact (Option.some.inj hbrace).symm

end CallSite.Inlines

end ActorDiagram
