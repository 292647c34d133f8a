import Mathlib
import ActorDiagram.Drawing
import ActorDiagram.Proofs.Matching
import ActorDiagram.Proofs.Results

/-!
# Extent of functions

Where the head of a function ends and where its body stands. Both are read from the `def` on; what
they go past belongs to the function.
-/

namespace ActorDiagram

namespace Helper

lemma headEndFrom_of_none {s : Stream} {depth fuel i : Nat} (hi : s.get? i = none) :
    headEndFrom s depth fuel i = .ok .missing := by
  cases fuel with
  | zero => rfl
  | succ fuel => rw [headEndFrom, hi]

/-- Place that a head leads to. -/
def HeadEnd.index? : HeadEnd → Option Nat
  | .braces i => some i
  | .equals i => some i
  | .missing => none

lemma le_of_headEndFrom {s : Stream} (hs : s.Nested) {depth fuel i k : Nat} {e : HeadEnd}
    (h : headEndFrom s depth fuel i = .ok e) (hk : e.index? = some k) : i ≤ k := by
  induction fuel generalizing i with
  | zero =>
    cases h
    cases hk
  | succ fuel ih =>
    cases ht : s.get? i with
    | none =>
      rw [headEndFrom_of_none ht] at h
      cases h
      cases hk
    | some t =>
      rw [headEndFrom, ht] at h
      simp only at h
      split_ifs at h
      · obtain ⟨c, hc, h⟩ := bind_eq_ok_iff.mp h
        have := (hs.lt_closer hc).1
        have := ih h
        omega
      · cases h
        cases hk
        exact le_refl _
      · cases h
        cases hk
        exact le_refl _
      · cases h
        cases hk
      · have := ih h
        omega

/-- Body of a function at this depth whose head ends like this. -/
def bodyFrom (s : Stream) (depth : Nat) : HeadEnd → Except Error (Option (Nat × Nat))
  | .missing => .ok none
  | .braces brace => (bracedBody s brace).map some
  | .equals sign =>
    match s.get? (sign + 1) with
    | none => .ok none
    | some first =>
      if first.isMark leftBrace then (bracedBody s (sign + 1)).map some
      else .ok (some (plainBody s depth (sign + 1)))

lemma body?_eq (s : Stream) (i : Nat) :
    body? s i = (do
      let word ← s.token i
      let e ← headEndFrom s word.depth s.size (i + 2)
      bodyFrom s word.depth e) := by
  unfold body?
  apply bind_congr
  intro word
  apply bind_congr
  intro e
  cases e <;> rfl

/-- The body without braces from `start` ends at the first token that ends one. -/
lemma plainBody_spec (s : Stream) (depth start : Nat) :
    (plainBody s depth start).1 = start ∧ start ≤ (plainBody s depth start).2 ∧
      (∀ k, start ≤ k → k < (plainBody s depth start).2 →
        ∃ t, s.get? k = some t ∧ endsAt depth t = false) ∧
      ∀ t, s.get? (plainBody s depth start).2 = some t → endsAt depth t = true := by
  have hget : ∀ k, (s.slice start s.size)[k]? = s.get? (start + k) := by
    intro k
    unfold Stream.slice Stream.get? Stream.size
    rw [Array.getElem?_toList, Array.getElem?_extract]
    split_ifs with hk
    · rfl
    · exact (Array.getElem?_eq_none (by omega)).symm
  unfold plainBody
  generalize s.slice start s.size = l at hget
  generalize htake : l.takeWhile (fun t => !endsAt depth t) = u
  generalize hdrop : l.dropWhile (fun t => !endsAt depth t) = v
  have hsplit : u ++ v = l := by rw [← htake, ← hdrop, List.takeWhile_append_dropWhile]
  refine ⟨rfl, Nat.le_add_right _ _, ?_, ?_⟩
  · intro k hk hlt
    simp only at hlt
    have hm : k - start < u.length := by omega
    refine ⟨u[k - start], ?_, ?_⟩
    · have hk' := hget (k - start)
      rw [← hsplit, List.getElem?_append_left hm, List.getElem?_eq_getElem hm] at hk'
      rw [hk', show start + (k - start) = k by omega]
    · have hmem : u[k - start] ∈ l.takeWhile fun t => !endsAt depth t := by
        rw [htake]
        exact List.getElem_mem hm
      simpa using List.mem_takeWhile_imp hmem
  · intro t ht
    simp only at ht
    rw [← hget, ← hsplit, List.getElem?_append_right (le_refl _), Nat.sub_self] at ht
    have hnot := List.head?_dropWhile_not (fun t => !endsAt depth t) l
    rw [hdrop, List.head?_eq_getElem?, ht] at hnot
    simpa using hnot

lemma plainBody_le_size {s : Stream} {i : Nat} {t : Token} (depth : Nat) (ht : s.get? i = some t) :
    (plainBody s depth i).2 ≤ s.size := by
  obtain ⟨-, hle, hbody, -⟩ := plainBody_spec s depth i
  rcases Nat.eq_or_lt_of_le hle with heq | hlt
  · rw [← heq]
    exact le_of_lt (Stream.lt_of_get? ht)
  · obtain ⟨u, hu, -⟩ := hbody ((plainBody s depth i).2 - 1) (by omega) (by omega)
    have := Stream.lt_of_get? hu
    omega

/-- A body stands in the braces where the head ends or right after them, or it has no braces. -/
theorem bodyFrom_cases {s : Stream} {depth : Nat} {e : HeadEnd} {p : Nat × Nat}
    (h : bodyFrom s depth e = .ok (some p)) : ∃ m, e.index? = some m ∧
      ((∃ b, (b = m ∨ b = m + 1) ∧ s.closer b = .ok p.2 ∧ p.1 = b + 1) ∨
        p = plainBody s depth (m + 1) ∧ ∃ t, s.get? (m + 1) = some t) := by
  have hbraced : ∀ b, (bracedBody s b).map some = .ok (some p) →
      s.closer b = .ok p.2 ∧ p.1 = b + 1 := by
    intro b h
    obtain ⟨q, hq, h⟩ := map_eq_ok_iff.mp h
    obtain ⟨c, hc, hq⟩ := map_eq_ok_iff.mp hq
    cases h
    cases hq
    exact ⟨hc, rfl⟩
  cases e with
  | missing => cases h
  | braces b =>
    obtain ⟨hc, hp⟩ := hbraced b h
    exact ⟨b, rfl, .inl ⟨b, .inl rfl, hc, hp⟩⟩
  | equals b =>
    refine ⟨b, rfl, ?_⟩
    simp only [bodyFrom] at h
    cases hf : s.get? (b + 1) with
    | none =>
      rw [hf] at h
      cases h
    | some first =>
      rw [hf] at h
      simp only at h
      split_ifs at h
      · obtain ⟨hc, hp⟩ := hbraced (b + 1) h
        exact .inl ⟨b + 1, .inr rfl, hc, hp⟩
      · cases h
        exact .inr ⟨rfl, first, rfl⟩

lemma lt_of_bodyFrom {s : Stream} (hs : s.Nested) {depth m : Nat} {e : HeadEnd} {p : Nat × Nat}
    (hm : e.index? = some m) (h : bodyFrom s depth e = .ok (some p)) : m < p.1 ∧ p.1 ≤ p.2 := by
  obtain ⟨m', hm', hp⟩ := bodyFrom_cases h
  rw [hm] at hm'
  cases hm'
  rcases hp with ⟨b, hb, hc, hp⟩ | ⟨rfl, -⟩
  · have := (hs.lt_closer hc).1
    omega
  · obtain ⟨hstart, hle, -⟩ := plainBody_spec s depth (m + 1)
    omega

lemma le_of_body? {s : Stream} (hs : s.Nested) {i : Nat} {p : Nat × Nat}
    (h : body? s i = .ok (some p)) : p.1 ≤ p.2 := by
  rw [body?_eq] at h
  obtain ⟨word, -, h⟩ := bind_eq_ok_iff.mp h
  obtain ⟨e, -, h⟩ := bind_eq_ok_iff.mp h
  obtain ⟨m, hm, -⟩ := bodyFrom_cases h
  exact (lt_of_bodyFrom hs hm h).2

/-! ### What a head goes past -/

/-- A token that ends the head of a function at this depth, before a body or without one. -/
def endsHead (depth : Nat) (t : Token) : Bool :=
  endsAt depth t || (t.depth == depth && (t.isMark leftBrace || t.isOperator "="))

/-- The head of the function whose `def` is at `i` goes past the token at `k`. -/
def inHead (s : Stream) (i k : Nat) : Bool :=
  decide (i + 2 ≤ k) && (match s.get? i with
    | some word => (s.slice (i + 2) (k + 1)).all fun t => !endsHead word.depth t
    | none => false)

/-- The token at `k` stands in the body of the function whose `def` is at `i`. -/
def inBody (s : Stream) (i k : Nat) : Bool :=
  match body? s i with
  | .ok (some (start, stop)) => decide (start ≤ k) && decide (k < stop)
  | _ => false

/-- From `i` to `k`, no token ends the head of a function at this depth. -/
def HeadSpans (s : Stream) (depth i k : Nat) : Prop :=
  ∀ m t, i ≤ m → m ≤ k → s.get? m = some t → endsHead depth t = false

section Extent

variable {s : Stream} {depth i k c : Nat} {t word name : Token}

lemma endsHead_of_lt (h : depth < t.depth) : endsHead depth t = false := by
  unfold endsHead endsAt
  rw [decide_eq_false (by omega), beq_false_of_ne (by omega)]
  rfl

lemma endsHead_of_mark (hk : t.kind = .mark) (hx : t.text ≠ leftBrace) (hd : depth ≤ t.depth) :
    endsHead depth t = false := by
  have hword : t.isWordOf bodyTerminators = false := by
    simp [Lexeme.isWordOf, hk]
  have hbrace : t.isMark leftBrace = false := by simp [Lexeme.isMark, hx]
  have hoperator : t.isOperator "=" = false := by simp [Lexeme.isOperator, hk]
  unfold endsHead endsAt
  rw [hword, hbrace, hoperator, decide_eq_false (by omega)]
  simp

lemma headSpans_self (ht : s.get? i = some t) (h : endsHead depth t = false) :
    HeadSpans s depth i i := by
  intro m u hm hmi hu
  obtain rfl : m = i := by omega
  rw [ht] at hu
  cases hu
  exact h

lemma HeadSpans.trans {m : Nat} (h : HeadSpans s depth i k) (h' : HeadSpans s depth (k + 1) m) :
    HeadSpans s depth i m := by
  intro j u hj hjm hu
  by_cases hjk : j ≤ k
  · exact h j u hj hjk hu
  · exact h' j u (by omega) hjm hu

lemma closes?_of_group (h : (t.isMark "(" || t.isMark "[") = true) : t.word.closes? = none :=
  Word.closes?_eq_none_of_isOpening (Lexeme.isOpening_of_group h)

lemma headSpans_of_group (hs : s.Nested) (ht : s.get? i = some t)
    (hgroup : (t.isMark "(" || t.isMark "[") = true) (hc : s.closer i = .ok c)
    (hd : depth ≤ t.depth) : HeadSpans s depth i c := by
  intro m u hm hmc hu
  have hmark : t.kind = .mark ∧ (t.text = "(" ∨ t.text = "[") := by
    simp only [Bool.or_eq_true, Lexeme.isMark_eq_true] at hgroup
    tauto
  rcases Nat.eq_or_lt_of_le hm with rfl | him
  · rw [ht] at hu
    cases hu
    refine endsHead_of_mark hmark.1 ?_ hd
    rcases hmark.2 with hx | hx <;> rw [hx] <;> decide
  rcases Nat.eq_or_lt_of_le hmc with rfl | hlt
  · have hdepth := (hs.depth_closer hc ht hu).1
    have hsome := hs.isSome_closes? hc ht hu
    have hk := Lexeme.kind_of_closes? hsome
    refine endsHead_of_mark hk ?_ (by omega)
    intro hx
    have hopening := Lexeme.isOpening_of_isMark (Lexeme.isMark_eq_true.mpr ⟨hk, hx⟩) (by decide)
    rw [Word.closes?_eq_none_of_isOpening hopening] at hsome
    cases hsome
  · have := hs.depth_lt_between hc ht him hlt hu
    exact endsHead_of_lt (by omega)

/-- After a token that lies this deep, only a closing bracket lies less deep. -/
lemma deep_next (hs : s.Nested) (ht : s.get? i = some t) (hd : depth ≤ t.depth) :
    ∀ u, s.get? (i + 1) = some u → u.word.closes? = none → depth ≤ u.depth := by
  intro u hu hcloses
  by_contra hlt
  have := hs.closes_of_depth_lt ht hu (by omega)
  rw [hcloses] at this
  cases this

lemma deep_of_not_endsAt (h : endsAt depth t = false) : depth ≤ t.depth := by
  simp only [endsAt, Bool.or_eq_false_iff, decide_eq_false_iff_not] at h
  omega

/-- No token before the place that a head leads to ends the head, and the token there lies as deep
as the function. -/
theorem spans_of_headEndFrom (hs : s.Nested) {fuel m : Nat} {e : HeadEnd}
    (hdeep : ∀ u, s.get? i = some u → u.word.closes? = none → depth ≤ u.depth)
    (h : headEndFrom s depth fuel i = .ok e) (hm : e.index? = some m) :
    (∀ k, k < m → HeadSpans s depth i k) ∧ ∃ u, s.get? m = some u ∧ depth ≤ u.depth ∧
      (u.isMark leftBrace || u.isOperator "=") = true := by
  have hplain : ∀ {u : Token}, (u.isMark leftBrace || u.isOperator "=") = true →
      u.word.closes? = none := by
    intro u hu
    rcases Bool.or_eq_true_iff.mp hu with hu | hu
    · exact Word.closes?_eq_none_of_isOpening (Lexeme.isOpening_of_isMark hu (by decide))
    · simp [Word.closes?, Lexeme.word, (Lexeme.isOperator_eq_true.mp hu).1]
  induction fuel generalizing i with
  | zero =>
    cases h
    cases hm
  | succ fuel ih =>
    cases ht : s.get? i with
    | none =>
      rw [headEndFrom_of_none ht] at h
      cases h
      cases hm
    | some t =>
      have hstop : i = m → (t.isMark leftBrace || t.isOperator "=") = true →
          (∀ k, k < m → HeadSpans s depth i k) ∧ ∃ u, s.get? m = some u ∧ depth ≤ u.depth ∧
            (u.isMark leftBrace || u.isOperator "=") = true := by
        rintro rfl hsign
        refine ⟨fun k hk j u hj hjk => by omega, t, ht, hdeep t ht (hplain hsign), hsign⟩
      rw [headEndFrom, ht] at h
      simp only at h
      split_ifs at h with hgroup hbrace hequals hends
      · obtain ⟨c, hc, h⟩ := bind_eq_ok_iff.mp h
        have hcs := (hs.lt_closer hc).2
        have hd := hdeep t ht (closes?_of_group hgroup)
        have hlast := Stream.get?_of_lt hcs
        have hdepth := (hs.depth_closer hc ht hlast).1
        obtain ⟨hspans, hend⟩ := ih (deep_next hs hlast (by omega)) h
        refine ⟨fun k hk => ?_, hend⟩
        exact (headSpans_of_group hs ht hgroup hc hd).trans (hspans k hk)
      · cases h
        exact hstop (Option.some.inj hm) (by rw [hbrace, Bool.true_or])
      · cases h
        exact hstop (Option.some.inj hm) (by rw [hequals, Bool.or_true])
      · cases h
        cases hm
      · simp only [Bool.not_eq_true] at hbrace hequals hends
        obtain ⟨hspans, hend⟩ := ih (deep_next hs ht (deep_of_not_endsAt hends)) h
        refine ⟨fun k hk => ?_, hend⟩
        exact (headSpans_self ht (by simp [endsHead, hends, hbrace, hequals])).trans (hspans k hk)

lemma deep_of_nameAt? (hs : s.Nested) (hw : s.get? i = some word) (hn : nameAt? s i = some name) :
    ∀ u, s.get? (i + 2) = some u → u.word.closes? = none → word.depth ≤ u.depth := by
  unfold nameAt? at hn
  rw [hw] at hn
  cases hname : s.get? (i + 1) with
  | none =>
    rw [hname] at hn
    cases hn
  | some t =>
    rw [hname] at hn
    simp only at hn
    split_ifs at hn with hdef
    rw [Bool.and_eq_true] at hdef
    have hcloses : t.word.closes? = none := by
      have hk : t.kind = .identifier := Lexeme.isIdentifier_eq_true.mp hdef.2
      simp [Word.closes?, Lexeme.word, hk]
    exact deep_next hs hname (deep_next hs hw (le_refl _) t hname hcloses)

lemma inHead_of_headSpans (hw : s.get? i = some word) (hik : i + 2 ≤ k)
    (h : HeadSpans s word.depth (i + 2) k) : inHead s i k = true := by
  unfold inHead
  rw [hw, decide_eq_true hik, Bool.true_and, List.all_eq_true]
  intro u hu
  obtain ⟨m, hm⟩ := List.mem_iff_getElem?.mp hu
  unfold Stream.slice at hm
  rw [Array.getElem?_toList, Array.getElem?_extract] at hm
  split_ifs at hm with hlt
  simp [h (i + 2 + m) u (by omega) (by omega) hm]

end Extent

end Helper

end ActorDiagram
