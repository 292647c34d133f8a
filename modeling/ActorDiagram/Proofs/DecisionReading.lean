import Mathlib
import ActorDiagram.Proofs.DirectiveForms

/-!
# Reading a decision tree

What the reader of bodies does on the tokens of a tree, one lemma for each way a tree is built.
-/

namespace ActorDiagram.Body

/-! ### The first branching of a range -/

/-- Outcomes of a branching, or what an action gives when there are none. -/
def orElse (branches : Except Error (List Branch)) (action : Except Error (Option Action)) :
    Except Error (List Branch) := do
  let bs ← branches
  if bs.isEmpty then action.map fun a => a.toList.map fun a => ⟨none, a⟩ else .ok bs

lemma orElse_eq_left {x : Except Error (List Branch)} {y : Except Error (Option Action)}
    (h : ∀ bs, x = .ok bs → bs ≠ []) : orElse x y = x := by
  unfold orElse
  cases x with
  | error e => rfl
  | ok bs =>
    change (if bs.isEmpty then _ else _) = _
    rw [if_neg (by simpa using h bs rfl)]

/-- Outcomes under a label, and others after them. -/
def joined (label : String) (branches others : Except Error (List Branch)) :
    Except Error (List Branch) := do
  let bs ← branches
  let cs ← others
  .ok (bs.map (Branch.under label) ++ cs)

section Branching

variable {read : Reader} {s : Stream} {states : StateIndex} {bound : List String}
  {d i stop : Nat} {t t' : Token} {tokens : List (Nat × Token)}

lemma leastDepth_cons (h : ∀ x ∈ tokens, t.depth ≤ x.2.depth) :
    leastDepth ((i, t) :: tokens) = t.depth := by
  change tokens.foldl (fun least x => min least x.2.depth) t.depth = t.depth
  induction tokens with
  | nil => rfl
  | cons x tokens ih =>
    rw [List.foldl_cons, Nat.min_eq_left (h x List.mem_cons_self)]
    exact ih fun y hy => h y (List.mem_cons_of_mem _ hy)

lemma leastDepth_part {ws : List Word} (h : s.Says d i ws) (hws : Balanced ws) (hne : ws ≠ []) :
    leastDepth (s.part i ws.length) = d := by
  obtain ⟨t, ht, -, htd⟩ := h.head_of_balanced hws hne
  have hle := fun x => h.le_depth hws (x := x)
  obtain ⟨n, hn⟩ := Nat.exists_eq_succ_of_ne_zero (mt List.eq_nil_of_length_eq_zero hne)
  rw [hn, Stream.part_succ ht] at hle ⊢
  rw [leastDepth_cons, htd]
  intro x hx
  rw [htd]
  exact hle x (List.mem_cons_of_mem _ hx)

lemma branching_eq_none
    (hmatch : ∀ x ∈ tokens, x.2.depth = d → x.1 + 1 < stop → x.2.isWord "match" = true →
      s.hasMark (x.1 + 1) leftBrace = false)
    (hif : ∀ x ∈ tokens, x.2.depth = d → x.1 + 1 < stop → x.2.isWord "if" = true →
      s.hasMark (x.1 + 1) "(" = false) :
    branching read s bound stop d tokens = .ok none := by
  induction tokens with
  | nil => rfl
  | cons x tokens ih =>
    obtain ⟨i, t⟩ := x
    have ih := ih (fun y hy => hmatch y (List.mem_cons_of_mem _ hy))
      fun y hy => hif y (List.mem_cons_of_mem _ hy)
    rw [branching]
    by_cases hd : t.depth = d
    · rw [if_neg (by simp [hd])]
      by_cases hstop : stop ≤ i + 1 || (s.get? (i + 1)).isNone
      · rw [if_pos hstop]
      · rw [if_neg hstop]
        have hlt : i + 1 < stop := by
          simp only [Bool.or_eq_true, decide_eq_true_eq, not_or] at hstop
          omega
        have h₁ : (t.isWord "match" && s.hasMark (i + 1) leftBrace) = false := by
          by_cases hw : t.isWord "match" = true
          · rw [hmatch (i, t) List.mem_cons_self hd hlt hw, Bool.and_false]
          · rw [Bool.eq_false_iff.mpr hw, Bool.false_and]
        have h₂ : (t.isWord "if" && s.hasMark (i + 1) "(") = false := by
          by_cases hw : t.isWord "if" = true
          · rw [hif (i, t) List.mem_cons_self hd hlt hw, Bool.and_false]
          · rw [Bool.eq_false_iff.mpr hw, Bool.false_and]
        rw [h₁, h₂, if_neg Bool.false_ne_true, if_neg Bool.false_ne_true, ih]
    · rw [if_pos (by simpa using hd), ih]

lemma branching_skip (ht' : s.get? (i + 1) = some t') (hlt : i + 1 < stop)
    (hbrace : t'.isMark leftBrace = false) (hparen : t'.isMark "(" = false) :
    branching read s bound stop d ((i, t) :: tokens) = branching read s bound stop d tokens := by
  rw [branching]
  by_cases hd : t.depth = d
  · have hstop : (decide (stop ≤ i + 1) || (s.get? (i + 1)).isNone) = false := by
      rw [ht', Option.isNone_some, Bool.or_false, decide_eq_false (by omega)]
    rw [if_neg (by simp [hd]), hstop, Stream.Says.hasMark_of_word ht',
      Stream.Says.hasMark_of_word ht', hbrace, hparen]
    simp
  · rw [if_pos (by simpa using hd)]

lemma branching_match (hd : t.depth = d) (ht : t.word = .name "match")
    (ht' : s.get? (i + 1) = some t') (hlt : i + 1 < stop) (hbrace : t'.isMark leftBrace = true) :
    branching read s bound stop d ((i, t) :: tokens) = (do
      let arms ← Arm.ofBlock s (i + 1)
      let branches ← ofArms read s bound arms
      .ok (if branches.isEmpty then none else some branches)) := by
  have hstop : (decide (stop ≤ i + 1) || (s.get? (i + 1)).isNone) = false := by
    rw [ht', Option.isNone_some, Bool.or_false, decide_eq_false (by omega)]
  rw [branching, if_neg (by simp [hd]), hstop, if_neg Bool.false_ne_true,
    Stream.Says.hasMark_of_word ht', hbrace, Lexeme.isWord_iff.mpr ht]
  rfl

lemma branching_if (hd : t.depth = d) (ht : t.word = .name "if")
    (ht' : s.get? (i + 1) = some t') (hlt : i + 1 < stop) (hparen : t'.isMark "(" = true) :
    branching read s bound stop d ((i, t) :: tokens) = (do
      let branches ← conditional read s bound stop s.size i
      .ok (if branches.isEmpty then none else some branches)) := by
  have hstop : (decide (stop ≤ i + 1) || (s.get? (i + 1)).isNone) = false := by
    rw [ht', Option.isNone_some, Bool.or_false, decide_eq_false (by omega)]
  have hmatch : t.isWord "match" = false :=
    Bool.eq_false_iff.mpr (mt Lexeme.isWord_iff.mp (by rw [ht]; decide))
  rw [branching, if_neg (by simp [hd]), hstop, if_neg Bool.false_ne_true, hmatch,
    Bool.false_and, if_neg Bool.false_ne_true, Stream.Says.hasMark_of_word ht', hparen,
    Lexeme.isWord_iff.mpr ht]
  rfl

lemma branchesWith_of_range (hlt : i < stop) (hrange : s.range i stop = .ok tokens)
    (hleast : leastDepth tokens = d) {branches : Except Error (List Branch)}
    (h : branching read s bound stop d tokens = (do
      let bs ← branches
      .ok (if bs.isEmpty then none else some bs))) :
    branchesWith read s states i stop bound =
      orElse branches (Directive.find? s states bound i stop) := by
  unfold branchesWith orElse
  rw [if_neg (by omega), hrange]
  simp only [Bind.bind, Except.bind]
  rw [hleast, h]
  cases branches with
  | error e => rfl
  | ok bs =>
    simp only [Bind.bind, Except.bind]
    cases bs.isEmpty with
    | false => rfl
    | true =>
      simp only [if_true]
      cases Directive.find? s states bound i stop <;> rfl

/-- Without a branching, the reader has at most one outcome, which is unlabelled. -/
lemma branchesWith_of_none (hlt : i < stop) (hrange : s.range i stop = .ok tokens)
    (hleast : leastDepth tokens = d) (h : branching read s bound stop d tokens = .ok none) :
    branchesWith read s states i stop bound =
      (Directive.find? s states bound i stop).map fun a => a.toList.map fun a => ⟨none, a⟩ := by
  have horElse : branchesWith read s states i stop bound =
      orElse (.ok []) (Directive.find? s states bound i stop) :=
    branchesWith_of_range hlt hrange hleast h
  rw [horElse]
  rfl

end Branching

/-! ### Trees with `match` -/

section Matching

variable {read : Reader} {s : Stream} {states : StateIndex} {bound : List String} {d i stop : Nat}

lemma branching_subject {x : String} {xs : List String} {ws : List Word}
    {tokens : List (Nat × Token)}
    (h : s.Says d i (.name x :: (DottedName.tailWords xs ++ .name "match" :: ws)))
    (hlt : i + 1 + 2 * xs.length < stop) :
    branching read s bound stop d (s.part i (1 + 2 * xs.length) ++ tokens) =
      branching read s bound stop d tokens := by
  obtain ⟨t, ht, -, -⟩ := h.head rfl
  induction xs generalizing i x t with
  | nil =>
    obtain ⟨t', ht', htw', -⟩ := (h.tail rfl).head rfl
    have hno (m : String) : t'.isMark m = false :=
      Bool.eq_false_iff.mpr (mt Lexeme.isMark_iff.mp (by rw [htw']; exact fun hw => by cases hw))
    rw [List.length_nil, Nat.mul_zero, Stream.part_succ ht, List.cons_append,
      branching_skip ht' hlt (hno _) (hno _)]
    rfl
  | cons y ys ih =>
    have hdot := h.tail rfl
    obtain ⟨t', ht', htw', -⟩ := hdot.head rfl
    have hy := hdot.tail Word.isPlain_dot
    obtain ⟨t'', ht'', htw'', -⟩ := hy.head rfl
    rw [List.length_cons] at hlt
    have hno {m : String} (hm : m ≠ ".") : t'.isMark m = false := by
      refine Bool.eq_false_iff.mpr (mt Lexeme.isMark_iff.mp ?_)
      rw [htw']
      exact fun hw => hm (congrArg Word.text hw).symm
    have hno' (m : String) : t''.isMark m = false :=
      Bool.eq_false_iff.mpr (mt Lexeme.isMark_iff.mp (by rw [htw'']; exact fun hw => by cases hw))
    rw [List.length_cons, show 1 + 2 * (ys.length + 1) = 1 + 2 * ys.length + 1 + 1 by omega,
      Stream.part_succ ht, Stream.part_succ ht', List.cons_append, List.cons_append,
      branching_skip ht' (by omega) (hno (by decide)) (hno (by decide)),
      branching_skip ht'' (by omega) (hno' _) (hno' _), ih hy (by omega) t'' ht'']

lemma says_matching {subject : DottedName} {arms : Arms}
    (h : s.Says d i (Tree.matching subject arms).words) :
    s.Says (d + 1) (i + subject.words.length + 2) arms.words := by
  have hblock := h.right_of_balanced subject.balanced_match.1
  obtain ⟨-, hin, -⟩ :=
    hblock.bracket isOpening_leftBrace closes?_rightBrace arms.balanced_words
  rw [List.length_append, List.length_singleton] at hin
  exact hin.left

/-- A tree with `match` is read arm by arm. -/
theorem branchesWith_matching {subject : DottedName} {arms : Arms}
    (h : s.Says d i (Tree.matching subject arms).words) :
    branchesWith read s states i (i + (Tree.matching subject arms).words.length) bound =
      orElse (ofArms read s bound (arms.found (i + subject.words.length + 2)))
        (Directive.find? s states bound i (i + (Tree.matching subject arms).words.length)) := by
  have hne : (Tree.matching subject arms).words ≠ [] := by simp [Tree.words, bracedArm]
  have hlen : (Tree.matching subject arms).words.length =
      subject.words.length + (1 + (1 + (arms.words.length + 1))) := by
    simp [Tree.words, bracedArm]
    omega
  have hmatch : s.Says d (i + subject.words.length)
      (.name "match" :: .mark leftBrace :: (arms.words ++ [.mark rightBrace])) := by
    refine Stream.Says.right_of_balanced (u := subject.words) ?_ subject.balanced_words
    simpa [Tree.words, bracedArm] using h
  obtain ⟨t, ht, htw, htd⟩ := hmatch.head rfl
  have hblock := hmatch.tail rfl
  obtain ⟨t', ht', htw', -⟩ := hblock.head (by decide)
  apply branchesWith_of_range (by omega) h.range (leastDepth_part h (Tree.balanced_words _) hne)
  have hsubject : s.Says d i (.name subject.first :: (DottedName.tailWords subject.others ++
      .name "match" :: .mark leftBrace :: (arms.words ++ [.mark rightBrace]))) := by
    simpa [Tree.words, bracedArm, DottedName.words] using h
  rw [hlen, Stream.part_add, DottedName.length_words, branching_subject hsubject (by omega),
    ← DottedName.length_words, Nat.add_comm 1, Stream.part_succ ht,
    branching_match htd htw ht' (by omega) (Lexeme.isMark_iff.mpr htw'), Arms.ofBlock_eq hblock]
  rfl

end Matching

/-! ### Trees with `if` -/

section Conditional

variable {read : Reader} {s : Stream} {states : StateIndex} {bound : List String}
  {d i j k stop fuel : Nat} {c ws v : List Word}

lemma armStop_braced (h : s.Says d i (.mark leftBrace :: (ws ++ .mark rightBrace :: v)))
    (hws : Balanced ws) (hlt : i < stop) : armStop s i stop = .ok (i + 1 + ws.length + 1) := by
  obtain ⟨t, ht, htw, -⟩ := h.head (by decide)
  obtain ⟨hclose, -, -⟩ := h.bracket isOpening_leftBrace closes?_rightBrace hws
  unfold armStop
  rw [if_neg (by omega), Stream.token_eq_ok_iff.mpr ht]
  simp only [Bind.bind, Except.bind]
  rw [if_pos (Lexeme.isMark_iff.mpr htw), hclose]
  rfl

lemma withoutBraces_braced (h : s.Says d i (.mark leftBrace :: (ws ++ .mark rightBrace :: v)))
    (hws : Balanced ws) (hlt : i < stop) :
    withoutBraces s i stop = .ok (i + 1, i + 1 + ws.length) := by
  obtain ⟨t, ht, htw, -⟩ := h.head (by decide)
  obtain ⟨hclose, -, -⟩ := h.bracket isOpening_leftBrace closes?_rightBrace hws
  unfold withoutBraces
  rw [if_pos hlt, Stream.token_eq_ok_iff.mpr ht]
  simp only [Bind.bind, Except.bind]
  rw [if_pos (Lexeme.isMark_iff.mpr htw), hclose]

lemma joined_nil (label : String) (x : Except Error (List Branch)) :
    joined label x (.ok []) = x.map (List.map (Branch.under label)) := by
  unfold joined
  cases x with
  | error e => rfl
  | ok bs =>
    simp only [Bind.bind, Except.bind, Except.map, List.append_nil]

lemma arm_eq (h : withoutBraces s i stop = .ok (j, k)) (label : String) :
    arm read s bound label i stop = joined label (read j k bound) (.ok []) := by
  unfold arm
  rw [h, joined_nil]
  cases hread : read j k bound <;> simp [Bind.bind, Except.bind, Except.map, hread]

/-- `if` with what stands between its brackets. -/
def ifHead (c : List Word) : List Word := .name "if" :: .mark "(" :: (c ++ [.mark ")"])

lemma length_ifHead (c : List Word) : (ifHead c).length = c.length + 3 := by
  simp [ifHead]

lemma balanced_ifHead (hc : Balanced c) :
    Balanced (ifHead c) ∧ topLevel (ifHead c) = [.name "if"] := balanced_parens hc

lemma says_ifHead (h : s.Says d i (ifHead c ++ v)) (hc : Balanced c) :
    s.closer (i + 1) = .ok (i + 2 + c.length) ∧
    s.text (i + 2) (i + 2 + c.length) = textOfWords c ∧ s.Says d (i + (ifHead c).length) v := by
  have hrest := h.right_of_balanced (balanced_ifHead hc).1
  have hwords : ifHead c ++ v = .name "if" :: .mark "(" :: (c ++ .mark ")" :: v) := by
    simp [ifHead]
  rw [hwords] at h
  obtain ⟨hclose, hcond, -⟩ := (h.tail rfl).bracket (by decide) (by decide) hc
  exact ⟨hclose, hcond.left.text, hrest⟩

lemma says_conditional {c : Condition} {body : Tree}
    (h : s.Says d i (bracedArm c.head body.words v)) :
    s.Says d (i + c.head.length)
      (.mark leftBrace :: (body.words ++ .mark rightBrace :: v)) ∧
    s.Says (d + 1) (i + c.head.length + 1) body.words ∧
    s.Says d (i + c.head.length + 1 + body.words.length + 1) v := by
  have hbrace := h.right_of_balanced c.balanced_head.1
  obtain ⟨-, hbody, hrest⟩ :=
    hbrace.bracket isOpening_leftBrace closes?_rightBrace body.balanced_words
  exact ⟨hbrace, hbody.left, hrest⟩

/-- What is read behind an arm that ends at `i`: nothing, or what an `else` there gives. -/
def afterArm (read : Reader) (s : Stream) (bound : List String) (stop fuel i : Nat) :
    Except Error (List Branch) :=
  if !(decide (i < stop) && (s.get? i).any (·.isWord "else")) then .ok []
  else if startsIf s (i + 1) then conditional read s bound stop fuel (i + 1)
  else do
    let last ← armStop s (i + 1) stop
    arm read s bound "else" (i + 1) last

/-- An `if` gives its arm, and then what is read behind it. -/
theorem conditional_eq_joined (h : s.Says d i (ifHead c ++ v)) (hc : Balanced c) {last : Nat}
    (hlast : armStop s (i + (ifHead c).length) stop = .ok last)
    (harm : withoutBraces s (i + (ifHead c).length) last = .ok (j, k)) :
    conditional read s bound stop (fuel + 1) i =
      joined (textOfWords c) (read j k bound) (afterArm read s bound stop fuel last) := by
  obtain ⟨hclose, htext, -⟩ := says_ifHead h hc
  have hafter : i + 2 + c.length + 1 = i + (ifHead c).length := by
    rw [length_ifHead]
    omega
  rw [conditional_succ, hclose]
  simp only [Bind.bind, Except.bind]
  rw [htext, hafter, hlast]
  simp only
  rw [arm_eq harm, joined_nil]
  unfold joined afterArm
  cases read j k bound with
  | error e => rfl
  | ok bs =>
    simp only [Bind.bind, Except.bind, Except.map]
    split_ifs
    · simp
    · cases conditional read s bound stop fuel (last + 1) <;> rfl
    · cases armStop s (last + 1) stop <;> rfl

lemma afterArm_of_le (h : stop ≤ i) : afterArm read s bound stop fuel i = .ok [] := by
  unfold afterArm
  rw [decide_eq_false (by omega)]
  rfl

lemma afterArm_elseIf (h : s.Says d i (.name "else" :: (ifHead c ++ v))) (hlt : i < stop) :
    afterArm read s bound stop fuel i = conditional read s bound stop fuel (i + 1) := by
  have hnext : s.Says d (i + 1) (.name "if" :: (.mark "(" :: (c ++ [.mark ")"]) ++ v)) := h.tail rfl
  obtain ⟨t, ht, htw, -⟩ := h.head rfl
  obtain ⟨t', ht', htw', -⟩ := hnext.head rfl
  unfold afterArm
  rw [ht, Option.any_some, Lexeme.isWord_iff.mpr htw, decide_eq_true hlt, startsIf_eq, ht',
    Option.any_some, Lexeme.isWord_iff.mpr htw', (hnext.tail rfl).hasMark]
  rfl

lemma afterArm_else (h : s.Says d i (.name "else" :: v)) (hlt : i < stop) {t : Token}
    (ht : s.get? (i + 1) = some t) (hif : t.word ≠ .name "if") {last : Nat}
    (hlast : armStop s (i + 1) stop = .ok last) (harm : withoutBraces s (i + 1) last = .ok (j, k)) :
    afterArm read s bound stop fuel i = joined "else" (read j k bound) (.ok []) := by
  obtain ⟨t', ht', htw, -⟩ := h.head rfl
  have hstarts : startsIf s (i + 1) = false := by
    rw [startsIf_eq, ht, Option.any_some, Bool.eq_false_iff.mpr (mt Lexeme.isWord_iff.mp hif),
      Bool.false_and]
  unfold afterArm
  rw [ht', Option.any_some, Lexeme.isWord_iff.mpr htw, decide_eq_true hlt, hstarts, hlast]
  exact arm_eq harm "else"

lemma branchesWith_if (h : s.Says d i (ifHead c ++ v)) (hws : Balanced (ifHead c ++ v)) :
    branchesWith read s states i (i + (ifHead c ++ v).length) bound =
      orElse (conditional read s bound (i + (ifHead c ++ v).length) s.size i)
        (Directive.find? s states bound i (i + (ifHead c ++ v).length)) := by
  have hwords : ifHead c ++ v = .name "if" :: .mark "(" :: (c ++ .mark ")" :: v) := by
    simp [ifHead]
  rw [hwords] at h hws ⊢
  obtain ⟨t, ht, htw, htd⟩ := h.head rfl
  obtain ⟨t', ht', htw', -⟩ := (h.tail rfl).head (by decide)
  have hlt : i + 1 < i + (Word.name "if" :: Word.mark "(" :: (c ++ .mark ")" :: v)).length := by
    simp
  apply branchesWith_of_range (by omega) h.range (leastDepth_part h hws (List.cons_ne_nil _ _))
  rw [List.length_cons, Stream.part_succ ht,
    branching_if htd htw ht' (by simp) (Lexeme.isMark_iff.mpr htw')]

/-- Outcomes of what follows an arm of an `if`, when it stands at this index. -/
def ofChain (read : Reader) (bound : List String) : Nat → Chain → Except Error (List Branch)
  | _, .done => .ok []
  | i, .otherwise body =>
    joined "else" (read (i + 2) (i + 2 + body.words.length) bound) (.ok [])
  | i, .elseIf c body rest =>
    let start := i + 1 + c.head.length + 1
    joined c.label (read start (start + body.words.length) bound)
      (ofChain read bound (start + body.words.length + 1) rest)

/-- The arms of an `if` are read in order. -/
theorem conditional_eq {i fuel : Nat} {c : Condition} {body : Tree} : ∀ {rest : Chain},
    s.Says d i (bracedArm c.head body.words rest.words) →
    stop = i + (bracedArm c.head body.words rest.words).length →
    (bracedArm c.head body.words rest.words).length ≤ fuel →
    conditional read s bound stop fuel i =
      joined c.label (read (i + c.head.length + 1) (i + c.head.length + 1 + body.words.length) bound)
        (ofChain read bound (i + c.head.length + 1 + body.words.length + 1) rest)
  | rest, h, hstop, hfuel => by
    obtain ⟨hbrace, -, hrest⟩ := says_conditional h
    rw [length_bracedArm] at hstop hfuel
    obtain ⟨fuel, rfl⟩ : ∃ n, fuel = n + 1 := ⟨fuel - 1, by omega⟩
    have hlast := armStop_braced hbrace body.balanced_words (show _ < stop by omega)
    have harm := withoutBraces_braced hbrace body.balanced_words
      (show _ < i + c.head.length + 1 + body.words.length + 1 by omega)
    rw [conditional_eq_joined h c.balanced hlast harm]
    refine congrArg (joined _ _) ?_
    cases rest with
    | done =>
      rw [Chain.words, List.length_nil] at hstop
      exact afterArm_of_le (by omega)
    | otherwise last =>
      rw [Chain.words, length_bracedArm, List.length_singleton, List.length_nil] at hstop
      have hblock := hrest.tail rfl
      obtain ⟨t, ht, htw, -⟩ := hblock.head (by decide)
      exact afterArm_else hrest (by omega) ht (by rw [htw]; decide)
        (armStop_braced hblock last.balanced_words (by omega))
        (withoutBraces_braced hblock last.balanced_words (by omega))
    | elseIf c' body' rest' =>
      rw [Chain.words, List.length_cons] at hstop hfuel
      exact (afterArm_elseIf hrest (by omega)).trans
        (conditional_eq (hrest.tail rfl) (by omega) (by omega))

lemma says_otherwise {body : Tree} (h : s.Says d i (Chain.otherwise body).words) :
    s.Says d (i + 1) (.mark leftBrace :: (body.words ++ [.mark rightBrace])) ∧
      s.Says (d + 1) (i + 2) body.words := by
  have hblock := h.right_of_balanced (balanced_name "else")
  obtain ⟨-, hin, -⟩ :=
    hblock.bracket isOpening_leftBrace closes?_rightBrace body.balanced_words
  exact ⟨hblock, hin.left⟩

/-- A tree with `if` is read arm by arm. -/
theorem branchesWith_conditional {c : Condition} {body : Tree} {rest : Chain}
    (h : s.Says d i (Tree.conditional c body rest).words) :
    branchesWith read s states i (i + (Tree.conditional c body rest).words.length) bound =
      orElse (joined c.label
          (read (i + c.head.length + 1) (i + c.head.length + 1 + body.words.length) bound)
          (ofChain read bound (i + c.head.length + 1 + body.words.length + 1) rest))
        (Directive.find? s states bound i (i + (Tree.conditional c body rest).words.length)) := by
  have hsize := h.le_size
  rw [← conditional_eq h rfl (show _ ≤ s.size by rw [← Tree.words]; omega)]
  exact branchesWith_if h (Tree.conditional c body rest).balanced_words

end Conditional

/-! ### Leaves -/

section Leaves

variable {read : Reader} {s : Stream} {states : StateIndex} {bound : List String} {d i : Nat}

/-- Result whose failure does not tell a place. -/
def unplace {α : Type} (x : Except Error α) : Except Error α := x.mapError Error.unplaced

lemma unplace_lookup (ref : String) (line column : Option Int) :
    unplace (states.lookup ref line column) = states.lookup ref none none := by
  unfold StateIndex.lookup
  split
  · rfl
  · split <;> rfl

lemma unplace_action_form (l : Leaf) (line column : Option Int) :
    unplace (l.form.action states line column) = l.action states := by
  cases l with
  | goto target =>
    change unplace ((states.lookup target.text line column).map _) =
      (states.lookup target.text none none).map _
    rw [← unplace_lookup target.text line column]
    cases states.lookup target.text line column <;> rfl
  | stay => rfl
  | stop => rfl

lemma at?_of_words {l : Leaf} (h : s.Says d i l.words) (hdot : s.followsMark i "." = false) :
    unplace (Directive.at? s states i (i + l.words.length)) = (l.action states).map some := by
  rw [← l.words_form] at h ⊢
  obtain ⟨t, -, hread⟩ := Directive.at?_of_says states h hdot
  rw [hread, ← unplace_action_form l (some t.line) (some t.column)]
  cases l.form.action states (some t.line) (some t.column) <;> rfl

lemma find?_of_at? {n : Nat} {x : Except Error Action} (hn : n ≠ 0)
    (h : unplace (Directive.at? s states i (i + n)) = x.map some) :
    unplace (Directive.find? s states bound i (i + n)) = x.map some := by
  obtain ⟨n, rfl⟩ := Nat.exists_eq_succ_of_ne_zero hn
  unfold Directive.find?
  rw [Nat.add_sub_cancel_left, List.range'_succ]
  simp only [Directive.firstIn_cons]
  cases hat : Directive.at? s states i (i + (n + 1)) with
  | error e =>
    rw [hat] at h
    exact h
  | ok a =>
    rw [hat] at h
    cases x with
    | error e => cases h
    | ok a' =>
      cases h
      rfl

lemma branching_leaf {l : Leaf} (h : s.Says d i l.words) (stop : Nat) :
    branching read s bound stop d (s.part i l.words.length) = .ok none := by
  obtain ⟨x, hx, -, hmatch, hif⟩ := l.topLevel_words
  have hword (w : String) (hw : x ≠ w) (y : Nat × Token) (hy : y ∈ s.part i l.words.length)
      (hd : y.2.depth = d) : ¬y.2.isWord w = true := by
    rw [Lexeme.isWord_iff]
    refine h.not_at_depth l.balanced_words (Word.isPlain_name w) ?_ hy hd
    rw [hx, List.mem_singleton]
    exact fun heq => hw (congrArg Word.text heq).symm
  apply branching_eq_none
  · intro y hy hd _ hy'
    exact absurd hy' (hword "match" hmatch y hy hd)
  · intro y hy hd _ hy'
    exact absurd hy' (hword "if" hif y hy hd)

lemma branchesWith_leaf {l : Leaf} (h : s.Says d i l.words) :
    branchesWith read s states i (i + l.words.length) bound =
      (Directive.find? s states bound i (i + l.words.length)).map fun a =>
        a.toList.map fun a => ⟨none, a⟩ := by
  have hlen := List.length_pos_iff.mpr l.words_ne_nil
  exact branchesWith_of_none (by omega) h.range (leastDepth_part h l.balanced_words l.words_ne_nil)
    (branching_leaf h _)

end Leaves

end ActorDiagram.Body
