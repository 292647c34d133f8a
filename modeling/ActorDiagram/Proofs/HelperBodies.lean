import Mathlib
import ActorDiagram.Proofs.BracketReport
import ActorDiagram.Proofs.Enclosed
import ActorDiagram.Proofs.Turns
import ActorDiagram.Proofs.Yields

/-!
# Bodies of helpers

Where brackets balance, the body of a function has its brackets to itself and stays inside those around
the function, with braces and without. Its head is read to an end, one bracketed group after the other.
-/

namespace ActorDiagram.Helper

/-- A turn of the reading of a head at this depth: where the head leads, or the index to go on from. -/
def headTurn (s : Stream) (depth i : Nat) : Except Error (HeadEnd ⊕ Nat) :=
  match s.get? i with
  | none => .ok (.inl .missing)
  | some t =>
    if t.isMark "(" || t.isMark "[" then (s.closer i).map fun close => .inr (close + 1)
    else if t.isMark leftBrace then .ok (.inl (.braces i))
    else if t.isOperator "=" then .ok (.inl (.equals i))
    else if endsAt depth t then .ok (.inl .missing)
    else .ok (.inr (i + 1))

/-- The head of the function whose `def` is at `i` leads to `m`. It lies as deep as the function, and what it
opens it closes. -/
structure HeadTo (s : Stream) (i depth m : Nat) : Prop where
  le : i + 2 ≤ m
  deep : ∀ k t, i < k → k ≤ m → s.get? k = some t → depth ≤ t.depth
  closed : ∀ o c, i + 2 ≤ o → o < m → s.closer o = .ok c → c < m

/-- Body of a function at this depth whose `def` is at `i`. It has its brackets to itself and stays inside
all that are around the function; without braces it ends before the first word that ends a body. -/
structure OwnBody (s : Stream) (i depth start stop : Nat) : Prop where
  lt_start : i < start
  le : start ≤ stop
  le_size : stop ≤ s.size
  opened : ∀ k t, start ≤ k → k < stop → s.get? k = some t → t.opens = true →
    ∃ c, s.closer k = .ok c ∧ k < c ∧ c < stop
  closed : ∀ k t, start ≤ k → k < stop → s.get? k = some t → t.closes = true →
    ∃ o, s.closer o = .ok k ∧ start ≤ o ∧ o < k
  enclosed : ∀ o c, s.closer o = .ok c → o < i → i < c → o < start ∧ stop ≤ c
  braced : s.hasMark (start - 1) leftBrace = true → s.closer (start - 1) = .ok stop
  plain : s.hasMark (start - 1) leftBrace = false → ∀ k t, start ≤ k → k < stop → s.get? k = some t →
    depth ≤ t.depth ∧ (t.depth = depth → t.isWordOf bodyTerminators = false)

variable {s : Stream} {ts : List Lexeme} {i k m o c depth fuel start stop : Nat} {e : HeadEnd}
  {t word name : Token}

/-! ### The reading of a head -/

lemma headEndFrom_succ (s : Stream) (depth fuel i : Nat) : headEndFrom s depth (fuel + 1) i =
    headTurn s depth i >>= Sum.elim .ok (headEndFrom s depth fuel) := by
  rw [headEndFrom, headTurn]
  cases s.get? i with
  | none => rfl
  | some t =>
    simp only
    split_ifs
    · cases s.closer i <;> rfl
    all_goals rfl

/-- The reading of a head ends: it goes past groups and single tokens, and there are only so many. -/
theorem headTurn_ends (hs : s.Nested) (depth : Nat) :
    Ends (fun _ => True) s.size id (headTurn s depth) (headEndFrom s depth s.size) := by
  refine Ends.of_fuel _ ?_ (fun fuel i => headEndFrom_succ s depth fuel i) ?_
  · intro i j _ hturn
    unfold headTurn at hturn
    cases ht : s.get? i with
    | none => simp [ht] at hturn
    | some t =>
      have hi : i < s.size := Stream.lt_of_get? ht
      rw [ht] at hturn
      simp only at hturn
      split_ifs at hturn
      · obtain ⟨close, hclose, heq⟩ := map_eq_ok_iff.mp hturn
        cases heq
        have := hs.lt_closer hclose
        refine ⟨trivial, show i < close + 1 ∧ close + 1 ≤ s.size from ?_⟩
        omega
      all_goals cases hturn
      exact ⟨trivial, Nat.lt_succ_self i, hi⟩
  · intro fuel i _ hi
    have hnone : s.get? i = none := Stream.get?_eq_none hi
    rw [headEndFrom_of_none hnone, headEndFrom_of_none hnone]

lemma sign_of_headEndFrom (h : headEndFrom s depth fuel i = .ok e) (hm : e.index? = some m) :
    ∃ t, s.get? m = some t ∧
      (e = .braces m ∧ t.isMark leftBrace = true ∨ e = .equals m ∧ t.isOperator "=" = true) := by
  induction fuel generalizing i with
  | zero =>
    cases h
    cases hm
  | succ fuel ih =>
    cases ht : s.get? i with
    | none =>
      rw [headEndFrom_of_none ht] at h
      cases h
      cases hm
    | some t =>
      rw [headEndFrom, ht] at h
      simp only at h
      split_ifs at h with hgroup hbrace hequals
      · obtain ⟨close, -, h⟩ := bind_eq_ok_iff.mp h
        exact ih h
      · cases h
        cases hm
        exact ⟨t, ht, .inl ⟨rfl, hbrace⟩⟩
      · cases h
        cases hm
        exact ⟨t, ht, .inr ⟨rfl, hequals⟩⟩
      · cases h
        cases hm
      · exact ih h

lemma mark_of_closer (hc : (Stream.ofLexemes ts).closer i = .ok c)
    (ht : (Stream.ofLexemes ts).get? i = some t) :
    t.isMark "(" = true ∨ t.isMark "[" = true ∨ t.isMark leftBrace = true := by
  have hopening := (BracketState.paired_run ts).fits i t _ ht (Stream.closer_eq_ok_iff.mp hc)
  simp only [BracketRole.Fits, Word.isOpening, Bool.and_eq_true, beq_iff_eq] at hopening
  obtain ⟨hk, htext⟩ := hopening
  have hk : t.kind = .mark := hk
  rcases closingOf?_isSome_iff.mp htext with hx | hx | hx
  all_goals
    have hx : t.text = _ := hx
    simp [Lexeme.isMark_eq_true, hk, hx]

lemma closer_lt_of_headEndFrom (h : headEndFrom (Stream.ofLexemes ts) depth fuel i = .ok e)
    (hm : e.index? = some m) (hio : i ≤ o) (hom : o < m)
    (hc : (Stream.ofLexemes ts).closer o = .ok c) : c < m := by
  induction fuel generalizing i with
  | zero =>
    cases h
    cases hm
  | succ fuel ih =>
    cases ht : (Stream.ofLexemes ts).get? i with
    | none =>
      rw [headEndFrom_of_none ht] at h
      cases h
      cases hm
    | some t =>
      rw [headEndFrom, ht] at h
      simp only at h
      split_ifs at h with hgroup hbrace
      · obtain ⟨d, hd, h⟩ := bind_eq_ok_iff.mp h
        have hdm := le_of_headEndFrom (Stream.nested_ofLexemes ts) h hm
        rcases Nat.lt_or_ge d o with hlt | hge
        · exact ih h hlt
        rcases hio.eq_or_lt with rfl | hlt
        · rw [hd] at hc
          cases hc
          omega
        · have := Stream.pairs_apart (Stream.mem_pairs_iff_closer.mpr hd)
            (Stream.mem_pairs_iff_closer.mpr hc) hlt
          omega
      · cases h
        cases hm
        omega
      · cases h
        cases hm
        omega
      · cases h
        cases hm
      · rcases hio.eq_or_lt with rfl | hlt
        · simp only [Bool.or_eq_true, not_or] at hgroup
          rcases mark_of_closer hc ht with hmark | hmark | hmark
          · exact absurd hmark hgroup.1
          · exact absurd hmark hgroup.2
          · exact absurd hmark hbrace
        · exact ih h hlt

/-- From its name on to the place that it leads to, a head lies as deep as the function. -/
lemma depth_le_of_headEndFrom (hs : s.Nested) (hw : s.get? i = some word)
    (hn : nameAt? s i = some name) (h : headEndFrom s word.depth fuel (i + 2) = .ok e)
    (hm : e.index? = some m) (hik : i < k) (hkm : k ≤ m) (ht : s.get? k = some t) :
    word.depth ≤ t.depth := by
  obtain ⟨hspans, u, hu, hd, -⟩ := spans_of_headEndFrom hs (deep_of_nameAt? hs hw hn) h hm
  rcases Nat.lt_or_ge k (i + 2) with hlt | hge
  · obtain rfl : k = i + 1 := by omega
    refine deep_next hs hw (le_refl _) t ht ?_
    unfold nameAt? at hn
    rw [hw, ht] at hn
    simp only at hn
    split_ifs at hn with hdef
    have hk : t.kind = .identifier := Lexeme.isIdentifier_eq_true.mp (Bool.and_eq_true_iff.mp hdef).2
    simp [Word.closes?, Lexeme.word, hk]
  rcases hkm.eq_or_lt with rfl | hlt
  · rw [hu] at ht
    cases ht
    exact hd
  · have hends := hspans k hlt k t hge (le_refl k) ht
    rw [endsHead, Bool.or_eq_false_iff] at hends
    exact deep_of_not_endsAt hends.1

/-! ### Bodies -/

lemma exists_headEndFrom (hs : s.Nested) (hbalance : s.problems = []) (depth fuel i : Nat) :
    ∃ e, headEndFrom s depth fuel i = .ok e := by
  induction fuel generalizing i with
  | zero => exact ⟨_, rfl⟩
  | succ fuel ih =>
    cases ht : s.get? i with
    | none => exact ⟨_, headEndFrom_of_none ht⟩
    | some t =>
      rw [headEndFrom, ht]
      simp only
      split_ifs with hgroup
      · obtain ⟨c, hc⟩ := hs.exists_closer hbalance ht (Lexeme.isOpening_of_group hgroup)
        rw [hc]
        exact ih (c + 1)
      · exact ⟨_, rfl⟩
      · exact ⟨_, rfl⟩
      · exact ⟨_, rfl⟩
      · exact ih (i + 1)

lemma exists_body (hs : s.Nested) (hbalance : s.problems = []) (hw : s.get? i = some word) :
    ∃ b, body? s i = .ok b := by
  have hbraced : ∀ k t, s.get? k = some t → t.isMark leftBrace = true →
      ∃ b, (bracedBody s k).map some = .ok b := by
    intro k t ht hmark
    obtain ⟨c, hc⟩ := hs.exists_closer hbalance ht (Lexeme.isOpening_of_isMark hmark (by decide))
    rw [bracedBody, hc]
    exact ⟨_, rfl⟩
  obtain ⟨e, he⟩ := exists_headEndFrom hs hbalance word.depth s.size (i + 2)
  rw [body?_eq, Stream.token_eq_ok_iff.mpr hw]
  simp only [Bind.bind, Except.bind, he]
  cases e with
  | missing => exact ⟨_, rfl⟩
  | braces brace =>
    obtain ⟨t, ht, ⟨-, hbrace⟩ | ⟨heq, -⟩⟩ := sign_of_headEndFrom he rfl
    · exact hbraced brace t ht hbrace
    · cases heq
  | equals sign =>
    rw [bodyFrom]
    cases hfirst : s.get? (sign + 1) with
    | none => exact ⟨_, rfl⟩
    | some first =>
      simp only
      split_ifs with hbrace
      · exact hbraced (sign + 1) first hfirst hbrace
      · exact ⟨_, rfl⟩

lemma exists_opener (hbalance : (Stream.ofLexemes ts).problems = [])
    (ht : (Stream.ofLexemes ts).get? k = some t) (hcloses : t.closes = true) :
    ∃ o, (Stream.ofLexemes ts).closer o = .ok k := by
  rw [← Lexeme.isSome_closes?_word] at hcloses
  obtain ⟨role, hrole, hfits⟩ := Stream.exists_role ht
  have hnotOpening : t.word.isOpening = false :=
    Word.isOpening_eq_false_of_closes? (Option.eq_some_of_isSome hcloses)
  cases role with
  | plain => simp [BracketRole.Fits, Word.isPlain, hnotOpening, Option.isSome_iff_ne_none.mp hcloses] at hfits
  | opener c => simp [BracketRole.Fits, hnotOpening] at hfits
  | closer o =>
    exact ⟨o, Stream.closer_eq_ok_iff.mpr (((BracketState.paired_run ts).partner o k).mp hrole)⟩
  | unclosed => simp [BracketRole.Fits, hnotOpening] at hfits
  | unexpected => exact absurd hrole ((Stream.problems_eq_nil_iff_kept.mp hbalance).1.expected k)

/-- A body is in the braces that the head leads to, or follows its sign `=` up to the first token that ends
it. -/
lemma body_cases (hw : (Stream.ofLexemes ts).get? i = some word)
    (hn : nameAt? (Stream.ofLexemes ts) i = some name)
    (h : body? (Stream.ofLexemes ts) i = .ok (some (start, stop))) :
    ∃ m, HeadTo (Stream.ofLexemes ts) i word.depth m ∧
      ((∃ b, (b = m ∨ b = m + 1) ∧ (Stream.ofLexemes ts).hasMark b leftBrace = true ∧ start = b + 1 ∧
          (Stream.ofLexemes ts).closer b = .ok stop) ∨
        ∃ t, (Stream.ofLexemes ts).get? m = some t ∧ t.isOperator "=" = true ∧ start = m + 1 ∧
          stop = (plainBody (Stream.ofLexemes ts) word.depth (m + 1)).2 ∧ stop ≤ (Stream.ofLexemes ts).size) := by
  have hs := Stream.nested_ofLexemes ts
  rw [body?_eq] at h
  obtain ⟨word', hw', h⟩ := bind_eq_ok_iff.mp h
  rw [Stream.token_eq_ok_iff, hw] at hw'
  cases hw'
  obtain ⟨e, he, h⟩ := bind_eq_ok_iff.mp h
  obtain ⟨m, hm, -⟩ := bodyFrom_cases h
  refine ⟨m, ⟨le_of_headEndFrom hs he hm, fun k t => ?_, fun o c => ?_⟩, ?_⟩
  · exact depth_le_of_headEndFrom hs hw hn he hm
  · exact closer_lt_of_headEndFrom he hm
  have hbraced : ∀ b t, (Stream.ofLexemes ts).get? b = some t → t.isMark leftBrace = true →
      (bracedBody (Stream.ofLexemes ts) b).map some = .ok (some (start, stop)) →
      (Stream.ofLexemes ts).hasMark b leftBrace = true ∧ start = b + 1 ∧
        (Stream.ofLexemes ts).closer b = .ok stop := by
    intro b t ht hmark hbody
    obtain ⟨p, hp, heq⟩ := map_eq_ok_iff.mp hbody
    obtain ⟨c, hc, hpair⟩ := map_eq_ok_iff.mp hp
    cases heq
    cases hpair
    exact ⟨by rw [Stream.hasMark, ht]; exact hmark, rfl, hc⟩
  obtain ⟨t, ht, ⟨rfl, hbrace⟩ | ⟨rfl, hequals⟩⟩ := sign_of_headEndFrom he hm
  · exact .inl ⟨m, .inl rfl, hbraced m t ht hbrace h⟩
  · simp only [bodyFrom] at h
    cases hfirst : (Stream.ofLexemes ts).get? (m + 1) with
    | none =>
      rw [hfirst] at h
      cases h
    | some first =>
      rw [hfirst] at h
      simp only at h
      split_ifs at h with hbrace
      · exact .inl ⟨m + 1, .inr rfl, hbraced (m + 1) first hfirst hbrace h⟩
      · cases h
        exact .inr ⟨t, ht, hequals, rfl, rfl, plainBody_le_size word.depth hfirst⟩

lemma kind_of_closer (hc : (Stream.ofLexemes ts).closer i = .ok c)
    (ht : (Stream.ofLexemes ts).get? i = some t) : t.kind = .mark := by
  obtain ⟨-, u, -, hu, -, hk, -⟩ := Stream.pair_kind (Stream.mem_pairs_iff_closer.mpr hc)
  rw [ht] at hu
  cases hu
  exact hk

lemma ne_of_closer (hw : (Stream.ofLexemes ts).get? i = some word)
    (hn : nameAt? (Stream.ofLexemes ts) i = some name) (hc : (Stream.ofLexemes ts).closer o = .ok c) :
    o ≠ i ∧ o ≠ i + 1 := by
  unfold nameAt? at hn
  rw [hw] at hn
  cases hnext : (Stream.ofLexemes ts).get? (i + 1) with
  | none => simp [hnext] at hn
  | some t =>
    rw [hnext] at hn
    simp only at hn
    split_ifs at hn with hdef
    simp only [Lexeme.isWord, Lexeme.isIdentifier, Bool.and_eq_true, beq_iff_eq] at hdef
    refine ⟨?_, ?_⟩
    · rintro rfl
      have hk := kind_of_closer hc hw
      rw [hdef.1.1] at hk
      cases hk
    · rintro rfl
      have hk := kind_of_closer hc hnext
      rw [hdef.2] at hk
      cases hk

/-- The partner of a bracket around a function lies less deep than it. -/
lemma depth_lt_of_closer (hs : s.Nested) (hw : s.get? i = some word) (hc : s.closer o = .ok c)
    (hoi : o < i) (hic : i < c) {u : Token} (hu : s.get? c = some u) : u.depth < word.depth := by
  have hlt := hs.lt_closer hc
  have ho := Stream.get?_of_lt (show o < s.size by omega)
  rw [(hs.depth_closer hc ho hu).1]
  exact hs.depth_lt_between hc ho hoi hic hw

lemma endsAt_of_plainBody (hk : start ≤ k) (hlt : k < (plainBody s depth start).2)
    (ht : s.get? k = some t) : endsAt depth t = false := by
  obtain ⟨u, hu, hends⟩ := (plainBody_spec s depth start).2.2.1 k hk hlt
  rw [ht] at hu
  cases hu
  exact hends

lemma start_le_of_body (hw : (Stream.ofLexemes ts).get? i = some word)
    (hn : nameAt? (Stream.ofLexemes ts) i = some name)
    (h : body? (Stream.ofLexemes ts) i = .ok (some (start, stop)))
    (ho : (Stream.ofLexemes ts).closer o = .ok k) (hk : start ≤ k) (hlt : k < stop) : start ≤ o := by
  have hs := Stream.nested_ofLexemes ts
  have hok := hs.lt_closer ho
  obtain ⟨m, hhead, ⟨b, hb, -, rfl, hc⟩ | ⟨t, ht, hequals, rfl, rfl, -⟩⟩ := body_cases hw hn h
  · by_contra hob
    rcases Nat.lt_or_ge o b with hlt' | hge
    · have := Stream.pairs_apart (Stream.mem_pairs_iff_closer.mpr ho)
        (Stream.mem_pairs_iff_closer.mpr hc) hlt'
      omega
    · obtain rfl : o = b := by omega
      rw [ho] at hc
      cases hc
      omega
  · by_contra hom
    have him := hhead.le
    have hu := Stream.get?_of_lt hok.2
    have hd := deep_of_not_endsAt (endsAt_of_plainBody hk hlt hu)
    obtain ⟨hne, hne'⟩ := ne_of_closer hw hn ho
    rcases Nat.lt_trichotomy o m with hlt' | rfl | hgt
    · rcases Nat.lt_or_ge o (i + 2) with hlt'' | hge
      · -- the bracket stands before the function, so its partner lies less deep
        have := depth_lt_of_closer hs hw ho (by omega) (by omega) hu
        omega
      · have := hhead.closed o k hge hlt' ho
        omega
    · have hmark := kind_of_closer ho ht
      rw [(Lexeme.isOperator_eq_true.mp hequals).1] at hmark
      cases hmark
    · omega

lemma stop_le_of_body (hw : (Stream.ofLexemes ts).get? i = some word)
    (hn : nameAt? (Stream.ofLexemes ts) i = some name)
    (h : body? (Stream.ofLexemes ts) i = .ok (some (start, stop)))
    (ho : (Stream.ofLexemes ts).closer o = .ok c) (hoi : o < i) (hic : i < c) : stop ≤ c := by
  have hs := Stream.nested_ofLexemes ts
  have hu := Stream.get?_of_lt (hs.lt_closer ho).2
  have hless := depth_lt_of_closer hs hw ho hoi hic hu
  obtain ⟨m, hhead, hbody⟩ := body_cases hw hn h
  have him := hhead.le
  have hmc : m < c := by
    by_contra hcm
    have := hhead.deep c _ hic (by omega) hu
    omega
  rcases hbody with ⟨b, hb, -, -, hc⟩ | ⟨-, -, -, -, rfl, -⟩
  · have := Stream.pairs_apart (Stream.mem_pairs_iff_closer.mpr ho)
      (Stream.mem_pairs_iff_closer.mpr hc) (by omega)
    omega
  · by_contra hlt
    have := deep_of_not_endsAt (endsAt_of_plainBody hmc (Nat.lt_of_not_le hlt) hu)
    omega

/-- Where brackets balance, every function is looked at without failure, and the body that it has is its
own. -/
theorem body_own (hbalance : (Stream.ofLexemes ts).problems = [])
    (hw : (Stream.ofLexemes ts).get? i = some word) (hn : nameAt? (Stream.ofLexemes ts) i = some name) :
    (∃ b, body? (Stream.ofLexemes ts) i = .ok b) ∧
    (∀ start stop, body? (Stream.ofLexemes ts) i = .ok (some (start, stop)) →
      OwnBody (Stream.ofLexemes ts) i word.depth start stop) ∧
    Ends (fun _ => True) (Stream.ofLexemes ts).size id (headTurn (Stream.ofLexemes ts) word.depth)
      (headEndFrom (Stream.ofLexemes ts) word.depth (Stream.ofLexemes ts).size) := by
  have hs := Stream.nested_ofLexemes ts
  refine ⟨exists_body hs hbalance hw, fun start stop h => ?_, headTurn_ends hs word.depth⟩
  obtain ⟨d, hpart⟩ := Stream.Enclosed.of_body hs hn h
  obtain ⟨m, hhead, hbody⟩ := body_cases hw hn h
  have him := hhead.le
  have hstart : i < start := by
    rcases hbody with ⟨b, hb, -, rfl, -⟩ | ⟨-, -, -, rfl, -⟩ <;> omega
  refine ⟨hstart, hpart.le, hpart.le_size, ?_, ?_, ?_, ?_, ?_⟩
  · intro k t hk hlt ht ho
    rw [← Lexeme.isOpening_word] at ho
    exact hpart.closer hs hbalance hk hlt ht ho
  · intro k t hk hlt ht hcloses
    obtain ⟨o, ho⟩ := exists_opener hbalance ht hcloses
    exact ⟨o, ho, start_le_of_body hw hn h ho hk hlt, (hs.lt_closer ho).1⟩
  · intro o c ho hoi hic
    exact ⟨hoi.trans hstart, stop_le_of_body hw hn h ho hoi hic⟩
  · intro hmark
    rcases hbody with ⟨b, -, -, rfl, hc⟩ | ⟨t, ht, hequals, rfl, -⟩
    · exact hc
    · rw [Nat.add_sub_cancel, Stream.hasMark, ht] at hmark
      have hkind := (Lexeme.isMark_eq_true.mp hmark).1
      rw [(Lexeme.isOperator_eq_true.mp hequals).1] at hkind
      cases hkind
  · intro hno k t hk hlt ht
    rcases hbody with ⟨b, -, hmark, rfl, -⟩ | ⟨-, -, -, rfl, rfl, -⟩
    · rw [Nat.add_sub_cancel, hmark] at hno
      cases hno
    · have hends := endsAt_of_plainBody hk hlt ht
      refine ⟨deep_of_not_endsAt hends, fun hd => ?_⟩
      simp only [endsAt, hd, beq_self_eq_true, Bool.true_and, Bool.or_eq_false_iff] at hends
      exact hends.2

/-- A function without braces, with brackets in its head and in its body, before one with braces. -/
def twoHelpers : String := "class M \x7b def pick(n: Int) = goto(n) \x7b A \x7d def stop() \x7b end \x7d \x7d"

lemma twoHelpers_run : (Lexeme.ofText twoHelpers).map (fun ts =>
    let s := Stream.ofLexemes ts
    (s.problems.length, (s.get? 3).map (·.depth), (nameAt? s 3).isSome,
      decide (body? s 3 = .ok (some (11, 18))))) = .ok (0, some 1, true, true) := by decide +kernel

theorem body_own_twoHelpers : ∃ ts, Lexeme.ofText twoHelpers = .ok ts ∧
    body? (Stream.ofLexemes ts) 3 = .ok (some (11, 18)) ∧ OwnBody (Stream.ofLexemes ts) 3 1 11 18 := by
  obtain ⟨ts, hts, hrun⟩ := map_eq_ok_iff.mp twoHelpers_run
  simp only [Prod.mk.injEq, List.length_eq_zero_iff, Option.map_eq_some_iff,
    Option.isSome_iff_exists, decide_eq_true_eq] at hrun
  obtain ⟨hbalance, ⟨word, hw, hd⟩, ⟨name, hn⟩, hbody⟩ := hrun
  have hown := (body_own hbalance hw hn).2.1 11 18 hbody
  rw [hd] at hown
  exact ⟨ts, hts, hbody, hown⟩

end ActorDiagram.Helper
