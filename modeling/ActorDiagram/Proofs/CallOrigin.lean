import Mathlib
import ActorDiagram.Proofs.BoundNames
import ActorDiagram.Proofs.IdleBranching
import ActorDiagram.Proofs.NoSilentLoss
import ActorDiagram.Proofs.TypeClause

/-!
# Where calls come from

Every call among the outcomes of a range stands at a place in a range that is searched as a whole,
because no branching in it has an outcome. No name is called that is bound where the search starts:
the names bound outside, and those of all `match` arms that are entered on the way. The names of a
`match` inside the searched range are not bound there.
-/

namespace ActorDiagram

lemma Lexeme.isOpening_eq_false {t : Lexeme} (h : t.kind ≠ .mark) : t.word.isOpening = false := by
  rw [Word.isOpening, Bool.and_eq_false_iff]
  exact .inl (beq_eq_false_iff_ne.mpr h)

lemma Lexeme.isOpening_eq_false_of_isWord {t : Lexeme} {x : String} (h : t.isWord x = true) :
    t.word.isOpening = false := by
  apply isOpening_eq_false
  rw [isWord, Bool.and_eq_true, beq_iff_eq] at h
  rw [h.1]
  decide

lemma levelAfter_concat_le {ts : List Lexeme} {t : Lexeme} (h : t.word.isOpening = false) :
    levelAfter (ts ++ [t]) ≤ levelAfter ts := by
  unfold levelAfter
  rw [BracketState.run_concat]
  rcases ((BracketState.run ts).move_step t).stack with ⟨ho, -⟩ | ⟨-, hsuffix⟩
  · simp [h] at ho
  · exact hsuffix.length_le

namespace Stream

variable {s : Stream} {d i k m q start start' stop stop' : Nat} {a : Arm} {names : List String}

/-! ### Depths of ranges -/

/-- Only an opening bracket raises the depth. -/
def RaisedByOpenings (s : Stream) : Prop :=
  ∀ k t t', s.get? k = some t → s.get? (k + 1) = some t' → t.word.isOpening = false →
    t'.depth ≤ t.depth

lemma raisedByOpenings_ofLexemes (ts : List Lexeme) : (ofLexemes ts).RaisedByOpenings := by
  intro k t t' ht ht' hopen
  have hlt := lt_of_get? ht'
  rw [size_ofLexemes] at hlt
  obtain ⟨pre, x, y, post, rfl, rfl⟩ : ∃ pre x y post, ts = pre ++ x :: y :: post ∧ pre.length = k :=
    ⟨ts.take k, ts[k], ts[k + 1], ts.drop (k + 2), by simp, by simp; omega⟩
  rw [get?_ofLexemes] at ht
  have hget := get?_ofLexemes (pre ++ [x]) post y
  rw [List.append_assoc, List.singleton_append, List.length_append, List.length_singleton, ht'] at hget
  cases ht
  cases hget
  have hx : x.word.isOpening = false := hopen
  simp only [hx, Bool.false_eq_true, if_false]
  split_ifs with hy
  · exact le_refl _
  · exact levelAfter_concat_le (by simpa using hy)

/-- No token of the range lies less deep than `d`. -/
def DeepOn (s : Stream) (d start stop : Nat) : Prop :=
  ∀ k t, start ≤ k → k < stop → s.get? k = some t → d ≤ t.depth

lemma mem_of_range {tokens : List (Nat × Token)} (h : s.range start stop = .ok tokens)
    {x : Nat × Token} : x ∈ tokens ↔ start ≤ x.1 ∧ x.1 < stop ∧ s.get? x.1 = some x.2 := by
  have hall := forall₂_of_mapM_eq_ok h
  constructor
  · intro hx
    obtain ⟨i, hi, hget⟩ := exists_of_mem_left hall.flip hx
    obtain ⟨t, ht, rfl⟩ := map_eq_ok_iff.mp hget
    rw [List.mem_range'_1] at hi
    exact ⟨hi.1, show i < stop by omega, token_eq_ok_iff.mp ht⟩
  · rintro ⟨hle, hlt, hget⟩
    obtain ⟨y, hy, hxy⟩ := exists_of_mem_left hall (List.mem_range'_1.mpr ⟨hle, by omega⟩)
    rw [token_eq_ok_iff.mpr hget] at hxy
    cases hxy
    exact hy

/-- The place lies in a range, or in a pair of brackets that opens in it. -/
def Reaches (s : Stream) (start stop k : Nat) : Prop :=
  start ≤ k ∧ (k < stop ∨ ∃ i c, s.closer i = .ok c ∧ start ≤ i ∧ i < stop ∧ i < k ∧ k < c)

namespace Reaches

lemma lt (h : s.Reaches start stop k) : start < stop := by
  obtain ⟨hle, hlt | ⟨i, c, -, hi, hlt, -⟩⟩ := h <;> omega

lemma mono (h : s.Reaches start' stop' k) (hstart : start ≤ start') (hstop : stop' ≤ stop) :
    s.Reaches start stop k := by
  obtain ⟨hle, hlt | ⟨i, c, hc, hi, hlt, hin⟩⟩ := h
  · exact ⟨by omega, .inl (by omega)⟩
  · exact ⟨by omega, .inr ⟨i, c, hc, by omega, by omega, hin⟩⟩

lemma lt_closer (hs : s.Nested) (h : s.Reaches start stop k) {c : Nat} (hc : s.closer i = .ok c)
    (hi : i < start) (hstop : stop ≤ c) : k < c := by
  obtain ⟨hle, hlt | ⟨j, c', hc', hj, hlt, hjk, hkc⟩⟩ := h
  · omega
  · have := hs.closer_lt_closer hc (show i < j by omega) (by omega) hc'
    omega

lemma lt_of_arm (hs : s.Nested) {brace : Nat} {arms : List Arm} (harms : Arm.ofBlock s brace = .ok arms)
    (ha : a ∈ arms) (h : s.Reaches (a.arrow + 1) a.stop k) : k < a.stop := by
  obtain ⟨close, opening, hclose, hopening, harrow, -, hle, hstop⟩ := Arm.extent_of_ofBlock hs harms ha
  rcases hstop with heq | ⟨t, ht, hdepth, -⟩
  · rw [heq]
    exact h.lt_closer hs hclose (by omega) hle
  · obtain ⟨hk, hlt | ⟨i, c, hc, hi, hlt, hik, hkc⟩⟩ := h
    · exact hlt
    · by_contra hge
      obtain ⟨u, hu⟩ : ∃ u, s.get? i = some u := ⟨_, get?_of_lt (hlt.trans (lt_of_get? ht))⟩
      have := hs.depth_lt_between hclose hopening (show brace < i by omega) (by omega) hu
      have := hs.depth_lt_between hc hu hlt (show a.stop < c by omega) ht
      omega

end Reaches

/-! ### Arms around a place -/

/-- The word `match` at `m` has a block with this arm, whose pattern binds these names. -/
structure MatchArm (s : Stream) (m : Nat) (a : Arm) (names : List String) : Prop where
  word : s.isWordAt m "match" = true
  brace : s.hasMark (m + 1) leftBrace = true
  arm : ∃ arms, Arm.ofBlock s (m + 1) = .ok arms ∧ a ∈ arms
  names : Pattern.boundNames s (a.start + 1) a.arrow = .ok names

/-- No token in the block of a `match` is as little deep as all from the brace on. Such a token before the
end of an arm stands before the `match`, or is the word itself. -/
lemma MatchArm.le_of_deepOn (hs : s.Nested) (h : s.MatchArm m a names) {g : Token}
    (hq : s.get? q = some g) (hopen : g.word.isOpening = false) (hdeep : s.DeepOn g.depth (m + 1) q)
    (hqk : q < k) (hk : k < a.stop) : q ≤ m := by
  by_contra hlt
  obtain ⟨arms, harms, ha⟩ := h.arm
  obtain ⟨close, opening, hclose, hopening, -, -, hle, -⟩ := Arm.extent_of_ofBlock hs harms ha
  have hne : m + 1 ≠ q := by
    rintro rfl
    obtain ⟨t, ht, hbrace⟩ := hasMark_eq_true_iff.mp h.brace
    rw [hq] at ht
    cases ht
    rw [Lexeme.isOpening_of_isMark hbrace (by decide)] at hopen
    cases hopen
  have hle' := hdeep (m + 1) opening (le_refl _) (by omega) hopening
  have := hs.depth_lt_between hclose hopening (show m + 1 < q by omega) (by omega) hq
  omega

end Stream

/-! ### One search -/

/-- What a directive does. -/
def Action.isDirective : Action → Bool
  | .goto _ _ | .stay _ | .stop _ _ => true
  | .call _ | .unresolved _ => false

namespace Directive

variable {s : Stream} {states : StateIndex} {bound : List String} {i start stop : Nat} {name : String}

lemma isDirective_of_goto? {a : Action} (h : goto? s states i stop = .ok (some a)) :
    a.isDirective = true := by
  obtain ⟨target, -, h⟩ := bind_eq_ok_iff.mp h
  cases target with
  | none => cases h
  | some target =>
    obtain ⟨close, -, h⟩ := bind_eq_ok_iff.mp h
    obtain ⟨payload, -, h⟩ := bind_eq_ok_iff.mp h
    cases h
    rfl

lemma isDirective_of_enter? {a : Action} (h : enter? s states i = .ok (some a)) :
    a.isDirective = true := by
  unfold enter? at h
  obtain ⟨dot, -, h⟩ := bind_eq_ok_iff.mp h
  obtain ⟨enter, -, h⟩ := bind_eq_ok_iff.mp h
  obtain ⟨paren, -, h⟩ := bind_eq_ok_iff.mp h
  split_ifs at h
  · obtain ⟨target, -, h⟩ := bind_eq_ok_iff.mp h
    cases target with
    | none => cases h
    | some target =>
      obtain ⟨close, -, h⟩ := bind_eq_ok_iff.mp h
      obtain ⟨comma, -, h⟩ := bind_eq_ok_iff.mp h
      cases h
      rfl
  · cases h

lemma isDirective_of_stay {hasCall : Bool} {a : Action}
    (h : Directive.stay s hasCall i stop = .ok a) : a.isDirective = true := by
  unfold Directive.stay at h
  split_ifs at h
  · obtain ⟨close, -, h⟩ := bind_eq_ok_iff.mp h
    obtain ⟨payload, -, rfl⟩ := map_eq_ok_iff.mp h
    rfl
  · obtain ⟨payload, -, rfl⟩ := map_eq_ok_iff.mp h
    rfl

lemma isDirective_of_stop {word : String} {hasCall : Bool} {a : Action}
    (h : Directive.stop s word hasCall i = .ok a) : a.isDirective = true := by
  unfold Directive.stop at h
  split_ifs at h
  · obtain ⟨close, -, h⟩ := bind_eq_ok_iff.mp h
    cases h
    rfl
  · cases h
    rfl

lemma isDirective_of_at? {a : Action} (h : at? s states i stop = .ok (some a)) :
    a.isDirective = true := by
  obtain ⟨t, -, h⟩ := bind_eq_ok_iff.mp h
  simp only at h
  split_ifs at h
  · cases h
  · exact isDirective_of_goto? h
  · exact isDirective_of_enter? h
  · obtain ⟨b, hb, heq⟩ := map_eq_ok_iff.mp h
    cases heq
    exact isDirective_of_stay hb
  · obtain ⟨b, hb, heq⟩ := map_eq_ok_iff.mp h
    cases heq
    exact isDirective_of_stop hb
  · cases h

lemma exists_call?_of_find? (h : find? s states bound start stop = .ok (some (.call name))) :
    ∃ k, start ≤ k ∧ k < stop ∧ call? s bound k stop = .ok (some (.call name)) ∧
      ∀ j, start ≤ j → j < k → call? s bound j stop = .ok none := by
  rcases find?_eq_some_iff.mp h with ⟨k, -, -, hk, -⟩ | ⟨-, hcall⟩
  · exact absurd (isDirective_of_at? hk) Bool.false_ne_true
  · exact hcall

end Directive

namespace Body

variable {s : Stream} {states : StateIndex} {read : Reader} {d i stop start fuel limit : Nat}
  {bound : List String} {bs bs' : List Branch} {name label : String}

/-! ### Runs of the reader -/

lemma leastDepth_le {tokens : List (Nat × Token)} {x : Nat × Token} (hx : x ∈ tokens) :
    leastDepth tokens ≤ x.2.depth := by
  have hfold : ∀ (rest : List (Nat × Token)) (least : Nat),
      (rest.foldl (fun least x => min least x.2.depth) least) ≤ least ∧
        ∀ y ∈ rest, (rest.foldl (fun least x => min least x.2.depth) least) ≤ y.2.depth := by
    intro rest
    induction rest with
    | nil => exact fun least => ⟨le_refl _, by simp⟩
    | cons z rest ih =>
      intro least
      obtain ⟨hle, hall⟩ := ih (min least z.2.depth)
      rw [List.foldl_cons, List.forall_mem_cons]
      exact ⟨hle.trans (Nat.min_le_left _ _), hle.trans (Nat.min_le_right _ _), hall⟩
  cases tokens with
  | nil => cases hx
  | cons y rest =>
    obtain ⟨hle, hall⟩ := hfold rest y.2.depth
    rcases List.mem_cons.mp hx with rfl | hx
    · exact hle
    · exact hall x hx

/-- Outcomes of a range come from a `match` or `if` of the least depth. -/
lemma exists_of_branching {tokens : List (Nat × Token)}
    (h : branching read s bound stop d tokens = .ok (some bs)) :
    ∃ i t, (i, t) ∈ tokens ∧ t.depth = d ∧ i + 1 < stop ∧
      ((t.isWord "match" = true ∧ s.hasMark (i + 1) leftBrace = true ∧
          ∃ arms, Arm.ofBlock s (i + 1) = .ok arms ∧ ofArms read s bound arms = .ok bs) ∨
        (t.isWord "if" = true ∧ conditional read s bound stop s.size i = .ok bs)) := by
  induction tokens with
  | nil => cases h
  | cons x rest ih =>
    obtain ⟨i, t⟩ := x
    unfold branching at h
    split_ifs at h with hdepth hlast hmatch hif
    · obtain ⟨j, u, hmem, hfound⟩ := ih h
      exact ⟨j, u, List.mem_cons_of_mem _ hmem, hfound⟩
    · cases h
    all_goals
      simp only [bne_iff_ne, ne_eq, not_not, Bool.or_eq_true, decide_eq_true_eq, not_or] at hdepth hlast
    · obtain ⟨arms, harms, h⟩ := bind_eq_ok_iff.mp h
      obtain ⟨found, hfound, h⟩ := bind_eq_ok_iff.mp h
      split_ifs at h
      · cases h
      · cases h
        rw [Bool.and_eq_true] at hmatch
        exact ⟨i, t, List.mem_cons_self, hdepth, by omega,
          .inl ⟨hmatch.1, hmatch.2, arms, harms, hfound⟩⟩
    · obtain ⟨found, hfound, h⟩ := bind_eq_ok_iff.mp h
      split_ifs at h
      · cases h
      · cases h
        rw [Bool.and_eq_true] at hif
        exact ⟨i, t, List.mem_cons_self, hdepth, by omega, .inr ⟨hif.1, hfound⟩⟩
    · obtain ⟨j, u, hmem, hfound⟩ := ih h
      exact ⟨j, u, List.mem_cons_of_mem _ hmem, hfound⟩

lemma exists_arm_of_mem {arms : List Arm} (h : ofArms read s bound arms = .ok bs) {b : Branch}
    (hb : b ∈ bs) :
    ∃ a ∈ arms, ∃ names inner, Pattern.boundNames s (a.start + 1) a.arrow = .ok names ∧
      read (a.arrow + 1) a.stop (bound ++ names) = .ok inner ∧ ∃ c ∈ inner, b.action = c.action := by
  induction arms generalizing bs with
  | nil =>
    cases h
    cases hb
  | cons a rest ih =>
    unfold ofArms at h
    obtain ⟨label, -, h⟩ := bind_eq_ok_iff.mp h
    obtain ⟨names, hnames, h⟩ := bind_eq_ok_iff.mp h
    obtain ⟨inner, hinner, h⟩ := bind_eq_ok_iff.mp h
    obtain ⟨others, hothers, h⟩ := bind_eq_ok_iff.mp h
    cases h
    rcases List.mem_append.mp hb with hb | hb
    · obtain ⟨c, hc, rfl⟩ := List.mem_map.mp hb
      exact ⟨a, List.mem_cons_self, names, inner, hnames, hinner, c, hc, rfl⟩
    · obtain ⟨a', ha', hfound⟩ := ih hothers hb
      exact ⟨a', List.mem_cons_of_mem _ ha', hfound⟩

/-- Where an arm ends: nowhere new, behind its braces, or at an `else` as deep as its first token. -/
lemma armStop_cases {e : Nat} (h : armStop s i stop = .ok e) :
    stop ≤ i ∧ e = stop ∨ i < stop ∧ ∃ first, s.get? i = some first ∧
      ((first.isMark leftBrace = true ∧ ∃ c, s.closer i = .ok c ∧ e = c + 1) ∨
        (first.isMark leftBrace = false ∧ (e = stop ∨ i ≤ e ∧ e < stop ∧
          ∃ t, s.get? e = some t ∧ t.depth = first.depth))) := by
  unfold armStop at h
  split_ifs at h with hle
  · cases h
    exact .inl ⟨hle, rfl⟩
  · obtain ⟨first, hfirst, h⟩ := bind_eq_ok_iff.mp h
    refine .inr ⟨by omega, first, Stream.token_eq_ok_iff.mp hfirst, ?_⟩
    split_ifs at h with hbrace
    · obtain ⟨c, hc, rfl⟩ := map_eq_ok_iff.mp h
      exact .inl ⟨hbrace, c, hc, rfl⟩
    · obtain ⟨tokens, htokens, h⟩ := bind_eq_ok_iff.mp h
      refine .inr ⟨by simpa using hbrace, ?_⟩
      cases hfind : tokens.find? fun x => x.2.depth == first.depth && x.2.isWord "else" with
      | none =>
        rw [hfind] at h
        cases h
        exact .inl rfl
      | some x =>
        rw [hfind] at h
        cases h
        obtain ⟨hlo, hhi, hget⟩ := (Stream.mem_of_range htokens).mp (List.mem_of_find?_eq_some hfind)
        have htest := List.find?_some hfind
        rw [Bool.and_eq_true, beq_iff_eq] at htest
        exact .inr ⟨hlo, hhi, x.2, hget, htest.1⟩

lemma depth_else_le (hs : s.Nested) (hraised : s.RaisedByOpenings) {q e : Nat} {g u : Token}
    (hq : s.get? q = some g) (hopen : g.word.isOpening = false) (he : armStop s (q + 1) stop = .ok e)
    (hlt : e < stop) (hu : s.get? e = some u) : q < e ∧ u.depth ≤ g.depth := by
  rcases armStop_cases he with
    ⟨-, rfl⟩ | ⟨-, first, hfirst, ⟨-, c, hc, rfl⟩ | ⟨-, rfl | ⟨hle, -, t, ht, hdepth⟩⟩⟩
  · omega
  · obtain ⟨hqc, hsize⟩ := hs.lt_closer hc
    obtain ⟨v, hv⟩ : ∃ v, s.get? c = some v := ⟨_, Stream.get?_of_lt hsize⟩
    obtain ⟨hdepth, hcloses⟩ := hs.depth_closer hc hfirst hv
    have := hraised q g first hq hfirst hopen
    have := hraised c v u hv hu (Word.isOpening_eq_false_of_closes? hcloses)
    exact ⟨by omega, by omega⟩
  · omega
  · rw [hu] at ht
    cases ht
    have := hraised q g first hq hfirst hopen
    exact ⟨by omega, by omega⟩

/-- An arm starts behind the token before it, or behind its brace, and reaches nothing that the rest
of the range does not reach. -/
lemma reaches_of_withoutBraces (hs : s.Nested) {q e first last k : Nat}
    (he : armStop s (q + 1) stop = .ok e) (h : withoutBraces s (q + 1) e = .ok (first, last))
    (hreach : s.Reaches first last k) :
    s.Reaches (q + 1) stop k ∧ (first = q + 1 ∨ first = q + 2 ∧ s.hasMark (q + 1) leftBrace = true) := by
  unfold withoutBraces at h
  split_ifs at h with hlt
  · obtain ⟨t, ht, h⟩ := bind_eq_ok_iff.mp h
    rw [Stream.token_eq_ok_iff] at ht
    split_ifs at h with hbrace
    · obtain ⟨c, hc, h⟩ := bind_eq_ok_iff.mp h
      cases h
      have hkc := hreach.lt_closer hs hc (by omega) (le_refl _)
      have hkq := hreach.1
      have hstop : q + 1 < stop := by
        rcases armStop_cases he with ⟨hle, heq⟩ | ⟨hlt, -⟩ <;> omega
      exact ⟨⟨by omega, .inr ⟨q + 1, last, hc, le_refl _, hstop, by omega, hkc⟩⟩,
        .inr ⟨rfl, Stream.hasMark_eq_true_iff.mpr ⟨t, ht, hbrace⟩⟩⟩
    · cases h
      have hle : e ≤ stop := by
        rcases armStop_cases he with
          ⟨-, heq⟩ | ⟨-, first, hfirst, ⟨hbrace', -⟩ | ⟨-, heq | ⟨-, hlt, -⟩⟩⟩
        · omega
        · rw [ht] at hfirst
          cases hfirst
          exact absurd hbrace' hbrace
        · omega
        · omega
      exact ⟨hreach.mono (le_refl _) hle, .inl rfl⟩
  · cases h
    exact absurd hreach.lt hlt

/-! ### Origins -/

/-- Where a call stands, the range that is searched for it, and the names bound there. -/
structure CallOrigin where
  place : Nat
  start : Nat
  stop : Nat
  bound : List String

/-- No branching in the range of this origin has an outcome, and its one action is the call. -/
def CallOrigin.IsSearched (o : CallOrigin) (s : Stream) (states : StateIndex) (name : String) : Prop :=
  Directive.find? s states o.bound o.start o.stop = .ok (some (.call name)) ∧
    ∃ limit tokens, s.range o.start o.stop = .ok tokens ∧
      branching (branchesWithin s states limit) s o.bound o.stop (leastDepth tokens) tokens = .ok none

/-- The origin of a call that is an outcome of a range with bound names: the first name that is called
in what is searched. All names are bound there that are bound outside or by a `match` arm around the
call, if the `match` stands before what is searched. -/
structure CallOrigin.Gives (o : CallOrigin) (s : Stream) (states : StateIndex) (start stop : Nat)
    (bound : List String) (name : String) : Prop where
  start_le : start ≤ o.start
  le_place : o.start ≤ o.place
  place_lt : o.place < o.stop
  reaches : s.Reaches start stop o.place
  call : Directive.call? s o.bound o.place o.stop = .ok (some (.call name))
  first : ∀ j, o.start ≤ j → j < o.place → Directive.call? s o.bound j o.stop = .ok none
  searched : o.IsSearched s states name
  bound_subset : bound ⊆ o.bound
  names_subset : ∀ m a names, s.MatchArm m a names → start ≤ m → m < o.start → a.arrow < o.place →
    o.place < a.stop → names ⊆ o.bound

/-- An origin in a range inside a range. The arms in between have to have bound their names. -/
lemma CallOrigin.Gives.widen {o : CallOrigin} {start' stop' : Nat} {bound' : List String}
    (h : o.Gives s states start' stop' bound' name) (hstart : start ≤ start') (hbound : bound ⊆ bound')
    (hreach : s.Reaches start stop o.place)
    (hnames : ∀ m a names, s.MatchArm m a names → start ≤ m → m < start' → a.arrow < o.place →
      o.place < a.stop → names ⊆ bound') : o.Gives s states start stop bound name where
  start_le := hstart.trans h.start_le
  le_place := h.le_place
  place_lt := h.place_lt
  reaches := hreach
  call := h.call
  first := h.first
  searched := h.searched
  bound_subset := List.Subset.trans hbound h.bound_subset
  names_subset m a names harm hm hlt harrow hstop := by
    rcases Nat.lt_or_ge m start' with hout | hin
    · exact List.Subset.trans (hnames m a names harm hm hout harrow hstop) h.bound_subset
    · exact h.names_subset m a names harm hin hlt harrow hstop

/-- Every call among these outcomes of a range has an origin. -/
def Traced (s : Stream) (states : StateIndex) (start stop : Nat) (bound : List String)
    (bs : List Branch) : Prop :=
  ∀ b ∈ bs, ∀ name, b.action = .call name → ∃ o : CallOrigin, o.Gives s states start stop bound name

lemma traced_append : Traced s states start stop bound (bs ++ bs') ↔
    Traced s states start stop bound bs ∧ Traced s states start stop bound bs' :=
  List.forall_mem_append

/-- Every call that this reader gives has an origin. -/
def Traces (s : Stream) (states : StateIndex) (read : Reader) : Prop :=
  ∀ start stop bound bs, read start stop bound = .ok bs → Traced s states start stop bound bs

lemma traced_arm (hs : s.Nested) (hread : Traces s states read) (hdeep : s.DeepOn d start stop)
    {q e : Nat} {g : Token} (hstart : start ≤ q) (hq : s.get? q = some g) (hopen : g.word.isOpening = false)
    (hmatch : g.isWord "match" = false) (hg : g.depth ≤ d) (he : armStop s (q + 1) stop = .ok e)
    (h : arm read s bound label (q + 1) e = .ok bs) : Traced s states start stop bound bs := by
  unfold arm at h
  obtain ⟨⟨first, last⟩, hrange, h⟩ := bind_eq_ok_iff.mp h
  obtain ⟨inner, hinner, h⟩ := bind_eq_ok_iff.mp h
  cases h
  intro b hb name hname
  obtain ⟨c, hc, rfl⟩ := List.mem_map.mp hb
  obtain ⟨o, ho⟩ := hread _ _ _ _ hinner c hc name hname
  obtain ⟨hreach, hfirst⟩ := reaches_of_withoutBraces hs he hrange ho.reaches
  have := ho.reaches.1
  have := hreach.lt
  refine ⟨o, ho.widen (by omega) (List.Subset.refl _) (hreach.mono (by omega) (le_refl _)) ?_⟩
  -- A `match` before the arm has no block that goes into it, as the token before the arm is not deep.
  intro m a names harm hm hlt _ hstop
  exfalso
  have hle := harm.le_of_deepOn hs hq hopen
    (fun k t hk hkq ht => hg.trans (hdeep k t (by omega) (by omega) ht)) (by omega) hstop
  rcases Nat.eq_or_lt_of_le hle with rfl | hgt
  · obtain ⟨t, ht, hword⟩ := Stream.isWordAt_eq_true_iff.mp harm.word
    rw [hq] at ht
    cases ht
    rw [hmatch] at hword
    cases hword
  · obtain ⟨rfl, hbrace⟩ := hfirst.resolve_left (by omega)
    obtain rfl : m = q + 1 := by omega
    obtain ⟨t, ht, hword⟩ := Stream.isWordAt_eq_true_iff.mp harm.word
    obtain ⟨t', ht', hmark⟩ := Stream.hasMark_eq_true_iff.mp hbrace
    rw [ht] at ht'
    cases ht'
    rw [Lexeme.isWord_iff] at hword
    rw [Lexeme.isMark_iff, hword] at hmark
    cases hmark

lemma traced_conditional (hs : s.Nested) (hraised : s.RaisedByOpenings) (hread : Traces s states read)
    (hdeep : s.DeepOn d start stop) {t : Token} (hstart : start ≤ i) (ht : s.get? i = some t)
    (hif : t.isWord "if" = true) (hd : t.depth ≤ d) (h : conditional read s bound stop fuel i = .ok bs) :
    Traced s states start stop bound bs := by
  induction fuel generalizing i t bs with
  | zero => cases h
  | succ fuel ih =>
    rw [conditional_succ] at h
    obtain ⟨close, hclose, h⟩ := bind_eq_ok_iff.mp h
    obtain ⟨thenEnd, hend, h⟩ := bind_eq_ok_iff.mp h
    obtain ⟨branches, hbranches, h⟩ := bind_eq_ok_iff.mp h
    obtain ⟨hic, hsize⟩ := hs.lt_closer hclose
    obtain ⟨paren, hparen⟩ : ∃ u, s.get? (i + 1) = some u := ⟨_, Stream.get?_of_lt (hic.trans hsize)⟩
    obtain ⟨g, hg⟩ : ∃ u, s.get? close = some u := ⟨_, Stream.get?_of_lt hsize⟩
    obtain ⟨hdepth, hcloses⟩ := hs.depth_closer hclose hparen hg
    have hle := hraised i t paren ht hparen (Lexeme.isOpening_eq_false_of_isWord hif)
    have hopen := Word.isOpening_eq_false_of_closes? hcloses
    have hthen : Traced s states start stop bound branches :=
      traced_arm hs hread hdeep (by omega) hg hopen
        (Lexeme.isWord_eq_false_of_closes? (Option.isSome_of_eq_some hcloses) _) (by omega) hend hbranches
    split_ifs at h with hno hchain
    · cases h
      exact hthen
    all_goals
      simp only [Bool.not_eq_true', Bool.not_eq_false, Bool.and_eq_true, decide_eq_true_eq,
        Option.any_eq_true] at hno
      obtain ⟨hlt, u, hu, helse⟩ := hno
      obtain ⟨hgt, hud⟩ := depth_else_le hs hraised hg hopen hend hlt hu
      have hopen' := Lexeme.isOpening_eq_false_of_isWord helse
    · obtain ⟨others, hothers, h⟩ := bind_eq_ok_iff.mp h
      cases h
      rw [startsIf_eq, Bool.and_eq_true, Option.any_eq_true] at hchain
      obtain ⟨v, hv, hvif⟩ := hchain.1
      have := hraised thenEnd u v hu hv hopen'
      exact traced_append.mpr ⟨hthen, ih (by omega) hv hvif (by omega) hothers⟩
    · obtain ⟨elseEnd, hend', h⟩ := bind_eq_ok_iff.mp h
      obtain ⟨others, hothers, h⟩ := bind_eq_ok_iff.mp h
      cases h
      have hmatch : u.isWord "match" = false := by
        rw [Lexeme.isWord_iff] at helse
        rw [Bool.eq_false_iff, ne_eq, Lexeme.isWord_iff, helse]
        decide
      exact traced_append.mpr
        ⟨hthen, traced_arm hs hread hdeep (by omega) hu hopen' hmatch (by omega) hend' hothers⟩

lemma traced_ofArms (hs : s.Nested) (hread : Traces s states read) (hdeep : s.DeepOn d start stop)
    {t : Token} (hstart : start ≤ i) (hstop : i + 1 < stop) (ht : s.get? i = some t)
    (hmatch : t.isWord "match" = true) (hd : t.depth ≤ d) {arms : List Arm}
    (harms : Arm.ofBlock s (i + 1) = .ok arms) (h : ofArms read s bound arms = .ok bs) :
    Traced s states start stop bound bs := by
  intro b hb name hname
  obtain ⟨a, ha, names, inner, hnames, hinner, c, hc, hbc⟩ := exists_arm_of_mem h hb
  obtain ⟨o, ho⟩ := hread _ _ _ _ hinner c hc name (hbc.symm.trans hname)
  obtain ⟨close, opening, hclose, hopening, hia, -, hac, -⟩ := Arm.extent_of_ofBlock hs harms ha
  obtain ⟨opening', hopening', hsa, ⟨arrow, harrow, harrowd, hop⟩, -⟩ := Arm.found_of_ofBlock harms ha
  rw [hopening] at hopening'
  cases hopening'
  have hplace := ho.reaches.lt_of_arm hs harms ha
  have := ho.reaches.1
  refine ⟨o, ho.widen (by omega) (List.subset_append_left _ _)
    ⟨by omega, .inr ⟨i + 1, close, hclose, by omega, hstop, by omega, by omega⟩⟩ ?_⟩
  intro m a' names' harm hm hlt harrow' hstop'
  have hle := harm.le_of_deepOn hs ht (Lexeme.isOpening_eq_false_of_isWord hmatch)
    (fun k u hk hki hu => hd.trans (hdeep k u (by omega) (by omega) hu)) (by omega) hstop'
  rcases Nat.eq_or_lt_of_le hle with rfl | hgt
  · -- The same `match`: the arm is the one that is read.
    obtain ⟨arms', harms', ha'⟩ := harm.arm
    rw [harms] at harms'
    cases harms'
    obtain ⟨-, -, hsa', -⟩ := Arm.found_of_ofBlock harms ha'
    obtain rfl := Arm.eq_of_overlap harms ha ha' (show a.start < o.place by omega) hplace.le (by omega)
      hstop'.le
    rw [harm.names] at hnames
    cases hnames
    exact List.subset_append_right _ _
  · -- A `match` in the pattern: its block does not go past the arrow.
    have hoperator : arrow.kind = .operator := (Lexeme.isOperator_eq_true.mp hop).1
    have hin := harm.le_of_deepOn hs harrow (Lexeme.isOpening_eq_false (by rw [hoperator]; decide))
      (fun k u hk hka hu => by
        have := hs.depth_lt_between hclose hopening (show i + 1 < k by omega) (by omega) hu
        omega) (by omega) hstop'
    obtain rfl : m = a.arrow := by omega
    obtain ⟨u, hu, hword⟩ := Stream.isWordAt_eq_true_iff.mp harm.word
    rw [harrow] at hu
    cases hu
    rw [Lexeme.isWord, hoperator] at hword
    cases hword

lemma traces_succ (hs : s.Nested) (hraised : s.RaisedByOpenings)
    (hread : Traces s states (branchesWithin s states limit)) :
    Traces s states (branchesWithin s states (limit + 1)) := by
  intro start stop bound bs h
  rw [branchesWithin] at h
  unfold branchesWith at h
  split_ifs at h with hempty
  · cases h
    intro b hb
    cases hb
  · obtain ⟨tokens, htokens, h⟩ := bind_eq_ok_iff.mp h
    obtain ⟨found, hfound, h⟩ := bind_eq_ok_iff.mp h
    have hdeep : s.DeepOn (leastDepth tokens) start stop := fun k t hk hkt ht =>
      leastDepth_le ((Stream.mem_of_range htokens (x := (k, t))).mpr ⟨hk, hkt, ht⟩)
    cases found with
    | some branches =>
      cases h
      obtain ⟨i, t, hmem, hd, hlt, hbranching⟩ := exists_of_branching hfound
      obtain ⟨hle, -, ht⟩ := (Stream.mem_of_range htokens).mp hmem
      rcases hbranching with ⟨hmatch, -, arms, harms, harm⟩ | ⟨hif, hchain⟩
      · exact traced_ofArms hs hread hdeep hle hlt ht hmatch hd.le harms harm
      · exact traced_conditional hs hraised hread hdeep hle ht hif hd.le hchain
    | none =>
      obtain ⟨action, haction, h⟩ := bind_eq_ok_iff.mp h
      cases h
      intro b hb name hname
      obtain ⟨a, ha, rfl⟩ := List.mem_map.mp hb
      rw [Option.mem_toList] at ha
      cases ha
      cases hname
      obtain ⟨k, hk, hkt, hcall, hfirst⟩ := Directive.exists_call?_of_find? haction
      exact ⟨⟨k, start, stop, bound⟩, le_refl _, hk, hkt, ⟨hk, .inl hkt⟩, hcall, hfirst,
        ⟨haction, limit, tokens, htokens, hfound⟩, List.Subset.refl _,
        fun m a names _ hm hlt => absurd hm (Nat.not_le_of_lt hlt)⟩

lemma traces_branchesWithin (hs : s.Nested) (hraised : s.RaisedByOpenings) (limit : Nat) :
    Traces s states (branchesWithin s states limit) := by
  induction limit with
  | zero =>
    intro start stop bound bs h
    cases h
  | succ limit ih => exact traces_succ hs hraised ih

/-- A call that a range with bound names gives is of none of them. It stands at a place that is found in
a range without outcomes of branchings, and a `match` arm around it that binds its name is the arm of a
`match` in that range. -/
structure UnboundCall (s : Stream) (states : StateIndex) (start stop : Nat) (bound : List String)
    (name : String) : Prop where
  notMem : name ∉ bound
  origin : ∃ o : CallOrigin, o.Gives s states start stop bound name ∧ name ∉ o.bound ∧
    (∃ t, s.get? o.place = some t ∧ t.isIdentifier = true ∧ t.text = name) ∧
      ∀ m a names, s.MatchArm m a names → start ≤ m → a.arrow < o.place → o.place < a.stop →
        name ∈ names → o.start ≤ m

lemma CallOrigin.Gives.unboundCall {o : CallOrigin} (h : o.Gives s states start stop bound name) :
    UnboundCall s states start stop bound name := by
  obtain ⟨t, hcalled, hname⟩ := Directive.call?_eq_some_iff.mp h.call
  cases hname
  have hfree := hcalled.unbound
  refine ⟨fun hmem => hfree (h.bound_subset hmem), o, h, hfree,
    ⟨t, hcalled.get, hcalled.identifier, rfl⟩, ?_⟩
  intro m a names harm hm harrow hstop hmem
  by_contra hlt
  exact hfree (h.names_subset m a names harm hm (by omega) harrow hstop hmem)

theorem unboundCall_of_branches (hs : s.Nested) (hraised : s.RaisedByOpenings)
    (h : branches s states start stop bound = .ok bs) {b : Branch} (hb : b ∈ bs)
    (hname : b.action = .call name) : UnboundCall s states start stop bound name := by
  obtain ⟨o, ho⟩ := traces_branchesWithin hs hraised nestingLimit _ _ _ _ h b hb name hname
  exact ho.unboundCall

end Body

/-! ### Clauses and helpers -/

/-- A clause of an arm of a transition block, whose pattern binds these names. -/
structure Blocks.ClauseOf (s : Stream) (states : StateIndex) (c : Clause) (head : Blocks.BlockHead)
    (a : Arm) (names : List String) : Prop where
  gives : ∃ cs fs, Blocks.ArmGives s states head a cs fs ∧ c ∈ cs
  names : Pattern.boundNames s (a.start + 1) a.arrow = .ok names

/-- A helper whose definition is at `i`, with its body and its parameters. -/
structure Helper.DefinedAt (s : Stream) (states : StateIndex) (f : Helper) (i start stop : Nat)
    (params : List String) : Prop where
  name : ∃ t, Helper.nameAt? s i = some t ∧ f.name = t.text
  body : Helper.body? s i = .ok (some (start, stop))
  parameters : Helper.parameters s i = .ok params
  branches : Body.branches s states start stop params = .ok f.branches

section

variable {s : Stream} {states : StateIndex} {name : String}

lemma Blocks.exists_clauseOf {blocks : Blocks} {findings : List Finding}
    (h : Blocks.ofStream s states = .ok (blocks, findings)) {c : Clause} (hc : c ∈ blocks.clauses) :
    ∃ head a names, Blocks.ClauseOf s states c head a names ∧
      ∃ bs, Body.branches s states (a.arrow + 1) a.stop names = .ok bs ∧ ∃ b ∈ bs, c.action = b.action := by
  obtain ⟨head, a, cs, fs, harm, hc⟩ := (Blocks.exists_armGives h).1 c hc
  obtain ⟨event, first, names, bs, -, -, hnames, hbs, hgives⟩ := Blocks.ofArm_cases harm.gives
  refine ⟨head, a, names, ⟨⟨cs, fs, harm, hc⟩, hnames⟩, bs, hbs, ?_⟩
  rcases hgives with ⟨-, rfl, -⟩ | ⟨-, -, rfl⟩
  · cases hc
  · obtain ⟨b, hb, rfl⟩ := List.mem_map.mp hc
    exact ⟨b, hb, rfl⟩

lemma Helper.exists_definedAt {known helpers : List Helper} {is : List Nat}
    (h : Helper.collect s states known is = .ok helpers) {f : Helper} (hf : f ∈ helpers) :
    f ∈ known ∨ ∃ i start stop params, Helper.DefinedAt s states f i start stop params := by
  induction is generalizing known with
  | nil =>
    cases h
    exact .inl hf
  | cons i is ih =>
    rw [collect] at h
    split at h
    · exact ih h
    · rename_i t ht
      split_ifs at h
      · exact ih h
      · obtain ⟨body, hbody, h⟩ := bind_eq_ok_iff.mp h
        cases body with
        | none => exact ih h
        | some range =>
          obtain ⟨start, stop⟩ := range
          obtain ⟨params, hparams, h⟩ := bind_eq_ok_iff.mp h
          obtain ⟨branches, hbranches, h⟩ := bind_eq_ok_iff.mp h
          rcases ih h with hknown | hdefined
          · rcases List.mem_append.mp hknown with hknown | hmem
            · exact .inl hknown
            · rw [List.mem_singleton.mp hmem]
              exact .inr ⟨i, start, stop, params, ⟨t, ht, rfl⟩, hbody, hparams, hbranches⟩
          · exact .inr hdefined

/-- What is called among the outcomes of ranges, by clauses and by helpers is bound by nothing that was
entered on the way to the call. -/
structure CallsUnbound (s : Stream) (states : StateIndex) : Prop where
  ranges : ∀ start stop bound bs, Body.branches s states start stop bound = .ok bs → ∀ b ∈ bs,
    ∀ name, b.action = .call name → Body.UnboundCall s states start stop bound name
  clauses : ∀ blocks findings, Blocks.ofStream s states = .ok (blocks, findings) → ∀ c ∈ blocks.clauses,
    ∀ name, c.action = .call name → ∃ head a names, Blocks.ClauseOf s states c head a names ∧
      Body.UnboundCall s states (a.arrow + 1) a.stop names name
  helpers : ∀ helpers, Helper.ofStream s states = .ok helpers → ∀ f ∈ helpers, ∀ b ∈ f.branches,
    ∀ name, b.action = .call name → ∃ i start stop params,
      Helper.DefinedAt s states f i start stop params ∧
        Body.UnboundCall s states start stop params name

/-- No bound name of a text is called, unless the arm that binds it belongs to a `match` inside a range
whose branchings have no outcomes. -/
theorem callsUnbound_ofText {text : String} (h : Stream.ofText text = .ok s) (states : StateIndex) :
    CallsUnbound s states := by
  obtain ⟨ts, -, rfl⟩ := map_eq_ok_iff.mp h
  have hs := Stream.nested_ofLexemes ts
  have hraised := Stream.raisedByOpenings_ofLexemes ts
  refine ⟨?_, ?_, ?_⟩
  · intro start stop bound bs hbs b hb name hname
    exact Body.unboundCall_of_branches hs hraised hbs hb hname
  · intro blocks findings hblocks c hc name hname
    obtain ⟨head, a, names, hclause, bs, hbs, b, hb, haction⟩ := Blocks.exists_clauseOf hblocks hc
    exact ⟨head, a, names, hclause,
      Body.unboundCall_of_branches hs hraised hbs hb (haction.symm.trans hname)⟩
  · intro helpers hhelpers f hf b hb name hname
    rcases Helper.exists_definedAt hhelpers hf with hknown | ⟨i, start, stop, params, hdefined⟩
    · cases hknown
    · exact ⟨i, start, stop, params, hdefined,
        Body.unboundCall_of_branches hs hraised hdefined.branches hb hname⟩

end

/-- A helper and a clause that call others from the arms of a `match`, and give bound names as well. -/
def nestedCalls : String :=
  "def route(p) = p match \x7b case Some(q) => again(q) case _ => p \x7d\n" ++
    "when(A) \x7b case Event(Go, d) => d match \x7b case Left(e) => route(e) case r => r \x7d \x7d"

theorem callsUnbound_nestedCalls : ∃ s blocks findings helpers, Stream.ofText nestedCalls = .ok s ∧
    Blocks.ofStream s .empty = .ok (blocks, findings) ∧ Helper.ofStream s .empty = .ok helpers ∧
    (∃ c ∈ blocks.clauses, ∃ head a names, Blocks.ClauseOf s .empty c head a names ∧
      Body.UnboundCall s .empty (a.arrow + 1) a.stop names "route") ∧
    ∃ f ∈ helpers, ∃ i start stop params, Helper.DefinedAt s .empty f i start stop params ∧
      Body.UnboundCall s .empty start stop params "again" := by
  have hrun : (Stream.ofText nestedCalls).map (fun s => (Blocks.ofStream s .empty,
      Helper.ofStream s .empty)) = .ok (.ok (⟨[⟨"A", "Go", .call "route", 2⟩], ["A"]⟩, []),
        .ok [⟨"route", [⟨some "Some(q)", .call "again"⟩], 1⟩]) := by decide +kernel
  obtain ⟨s, h, hrun⟩ := map_eq_ok_iff.mp hrun
  obtain ⟨hblocks, hhelpers⟩ := Prod.mk.inj hrun
  have hcalls := callsUnbound_ofText h .empty
  refine ⟨s, _, _, _, h, hblocks, hhelpers, ⟨_, List.mem_singleton_self _, ?_⟩, _,
    List.mem_singleton_self _, ?_⟩
  · exact hcalls.clauses _ _ hblocks _ (List.mem_singleton_self _) "route" rfl
  · exact hcalls.helpers _ hhelpers _ (List.mem_singleton_self _) _ (List.mem_singleton_self _) "again"
      rfl

/-- A `match` whose one arm gives what its pattern binds. -/
def idleMatch : String := "x match \x7b case y => y \x7d"

set_option synthInstance.maxSize 2000 in
lemma idleMatch_run : (Stream.ofText idleMatch).map (fun s => ((s.isWordAt 1 "match",
    s.hasMark 2 leftBrace, Arm.ofBlock s 2, Pattern.boundNames s 4 5),
    ((s.get? 6).map fun t => (t.isIdentifier, t.text)), Body.branches s .empty 0 s.size [],
    (List.range s.size).filter fun k => Directive.call? s [] k s.size = .ok (some (.call "y")))) =
    .ok ((true, true, .ok [⟨3, 5, 7⟩], .ok ["y"]), some (true, "y"), .ok [⟨none, .call "y"⟩], [6]) := by
  decide +kernel

/-- A `match` without outcomes is searched as a whole, and the bound name in its arm is called. -/
theorem call_of_boundName : ∃ s a t, Stream.ofText idleMatch = .ok s ∧ s.MatchArm 1 a ["y"] ∧
    s.get? 6 = some t ∧ t.isIdentifier = true ∧ t.text = "y" ∧ a.arrow < 6 ∧ 6 < a.stop ∧
    Body.branches s .empty 0 s.size [] = .ok [⟨none, .call "y"⟩] ∧
    ∀ k < s.size, Directive.call? s [] k s.size = .ok (some (.call "y")) → k = 6 := by
  obtain ⟨s, h, hrun⟩ := map_eq_ok_iff.mp idleMatch_run
  simp only [Prod.mk.injEq, Option.map_eq_some_iff] at hrun
  obtain ⟨⟨hword, hbrace, harms, hnames⟩, ⟨t, ht, hident, htext⟩, hbranches, honly⟩ := hrun
  refine ⟨s, ⟨3, 5, 7⟩, t, h, ⟨hword, hbrace, ⟨_, harms, List.mem_singleton_self _⟩, hnames⟩, ht, hident,
    htext, by decide, by decide, hbranches, fun k hk hcall => ?_⟩
  have hmem : k ∈ (List.range s.size).filter fun k =>
      Directive.call? s [] k s.size = .ok (some (.call "y")) :=
    List.mem_filter.mpr ⟨List.mem_range.mpr hk, by simpa using hcall⟩
  rw [honly] at hmem
  exact List.mem_singleton.mp hmem

end ActorDiagram
