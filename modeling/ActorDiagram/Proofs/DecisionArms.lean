import Mathlib
import ActorDiagram.Proofs.DecisionTree
import ActorDiagram.Proofs.WindowBody

/-!
# Arms of a decision tree

Where the arms of a `match` are found, what their patterns are read as, and where the arms of an `if`
end.
-/

namespace ActorDiagram

/-! ### Tests of words -/

namespace Lexeme

variable {t : Lexeme} {x : String}

lemma isWord_iff : t.isWord x = true ↔ t.word = .name x := by
  simp [isWord, word, Word.name]

lemma isMark_iff : t.isMark x = true ↔ t.word = .mark x := by
  simp [isMark, word, Word.mark]

lemma isOperator_iff : t.isOperator "=>" = true ↔ t.word = .arrow := by
  simp [isOperator, word, Word.arrow]

lemma isIdentifier_iff : t.isIdentifier = true ↔ t.word = .name t.text := by
  simp [isIdentifier, word, Word.name]

lemma isIdentifier_of_word (h : t.word = .name x) : t.isIdentifier = true := by
  rw [isIdentifier_iff, h, show t.text = x from congrArg Word.text h]

end Lexeme

namespace Stream

lemma followsMark_of_get? {s : Stream} {i : Nat} {t : Token} (ht : s.get? i = some t)
    (hw : t.word ≠ .mark ".") : s.followsMark (i + 1) "." = false := by
  rw [followsMark_eq_any, before?, if_neg (by omega), Nat.add_sub_cancel, ht, Option.any_some]
  exact Bool.eq_false_iff.mpr (mt Lexeme.isMark_iff.mp hw)

lemma followsMark_ofLexemes {before : List Lexeme} (after : List Lexeme)
    (hdot : ∀ t ∈ before.getLast?, t.word ≠ .mark ".") :
    (ofLexemes (before ++ after)).followsMark before.length "." = false := by
  rcases List.eq_nil_or_concat before with rfl | ⟨init, t, rfl⟩
  · rfl
  · have hget := get?_ofLexemes init after t
    rw [List.concat_eq_append, List.append_assoc, List.length_append]
    refine followsMark_of_get? hget ?_
    exact hdot t (by simp)

end Stream

namespace Stream.Says

variable {s : Stream} {d i k n : Nat} {ws u v : List Word} {w : Word}

lemma closes?_of_balanced {w : Word} (h : Balanced (w :: ws)) : w.closes? = none := by
  rw [Balanced, openAfter_cons] at h
  obtain ⟨o, hw, -⟩ := Option.bind_eq_some_iff.mp h
  cases hc : w.closes? with
  | none => rfl
  | some b =>
    unfold Word.nest at hw
    rw [if_neg (by simp [Word.isOpening_eq_false_of_closes? hc])] at hw
    simp [hc] at hw

lemma head_of_balanced (h : s.Says d i ws) (hws : Balanced ws) (hne : ws ≠ []) :
    ∃ t, s.get? i = some t ∧ ws.head? = some t.word ∧ t.depth = d := by
  cases ws with
  | nil => exact absurd rfl hne
  | cons w ws =>
    obtain ⟨t, ht, htw, htd⟩ := h.head (closes?_of_balanced hws)
    exact ⟨t, ht, by rw [htw]; rfl, htd⟩

lemma not_at_depth (h : s.Says d i ws) (hws : Balanced ws) (hw : w.isPlain = true)
    (hmem : w ∉ topLevel ws) {x : Nat × Token} (hx : x ∈ s.part i ws.length)
    (hd : x.2.depth = d) : x.2.word ≠ w := by
  intro hxw
  obtain ⟨hi, hn, hget⟩ := mem_part.mp hx
  have hplain : x.2.word.isPlain = true := by rw [hxw, hw]
  have := (h.depth_of_balanced hws hi hn hget).2 hd hplain
  rw [hxw] at this
  exact hmem this

lemma le_depth (h : s.Says d i ws) (hws : Balanced ws) {x : Nat × Token}
    (hx : x ∈ s.part i ws.length) : d ≤ x.2.depth := by
  obtain ⟨hi, hn, hget⟩ := mem_part.mp hx
  exact (h.depth_of_balanced hws hi hn hget).1

lemma hasMark_of_word {t : Token} {x : String} (ht : s.get? i = some t) :
    s.hasMark i x = t.isMark x := by
  unfold Stream.hasMark
  rw [ht]

lemma hasMark (h : s.Says d i (.mark "(" :: ws)) : s.hasMark i "(" = true := by
  obtain ⟨t, ht, htw, -⟩ := h.head (by decide)
  rw [hasMark_of_word ht, Lexeme.isMark_iff, htw]

end Stream.Says

/-! ### Patterns -/

namespace CasePattern

variable {s : Stream} {d i : Nat} {p : CasePattern}

lemma words_ne_nil (p : CasePattern) : p.words ≠ [] := by
  intro h
  have := p.label_ne
  rw [h] at this
  exact this (by decide)

lemma guardStart_eq (h : s.Says d i p.words) :
    Pattern.guardStart s i (i + p.words.length) = .ok (i + p.words.length) := by
  obtain ⟨t, ht, -, htd⟩ := h.head_of_balanced p.balanced p.words_ne_nil
  have hlen := List.length_pos_iff.mpr p.words_ne_nil
  unfold Pattern.guardStart Stream.depthAt
  rw [if_pos (by omega), Stream.token_eq_ok_iff.mpr ht, h.range]
  have hnone : ((s.part i p.words.length).find? fun x =>
      x.2.depth == t.depth && x.2.isWord "if") = none := by
    rw [List.find?_eq_none]
    intro x hx hif
    rw [Bool.and_eq_true, beq_iff_eq, Lexeme.isWord_iff, htd] at hif
    refine h.not_at_depth p.balanced (Word.isPlain_name "if") ?_ hx hif.1 hif.2
    intro hmem
    exact (p.topLevel_ne _ hmem).2.2 rfl
  simp only [Bind.bind, Except.bind, Except.map]
  rw [hnone]
  rfl

/-- A pattern labels its arm with its text. -/
theorem text_eq (h : s.Says d i p.words) :
    Pattern.text s i (i + p.words.length) = .ok p.label := by
  unfold Pattern.text
  rw [guardStart_eq h]
  simp only [Bind.bind, Except.bind]
  rw [h.text]
  rfl

end CasePattern

lemma startsLowerCase_of_ne {x : String} (h : x ≠ "") :
    ∃ b, Directive.startsLowerCase x = .ok b := by
  unfold Directive.startsLowerCase
  cases hx : x.toList with
  | nil => exact absurd (String.toList_eq_nil_iff.mp hx) h
  | cons c cs => exact ⟨_, rfl⟩

section BoundNames

variable {s : Stream} {d stop : Nat} {tokens : List (Nat × Token)}

lemma boundNamesFrom_ok (h : ∀ x ∈ tokens, x.2.word ≠ .name "") (names : List String) :
    ∃ names', Pattern.boundNamesFrom s d stop names tokens = .ok names' := by
  induction tokens generalizing names with
  | nil => exact ⟨names, rfl⟩
  | cons x tokens ih =>
    obtain ⟨i, t⟩ := x
    have ih := ih fun y hy => h y (List.mem_cons_of_mem _ hy)
    rw [Pattern.boundNamesFrom]
    by_cases hguard : (t.depth == d && t.isWord "if") = true
    · exact ⟨names, by rw [if_pos hguard]⟩
    · rw [if_neg hguard]
      by_cases hid : t.isIdentifier = true
      · have hempty : t.text ≠ "" := by
          intro hx
          apply h (i, t) List.mem_cons_self
          rw [← hx]
          exact Lexeme.isIdentifier_iff.mp hid
        obtain ⟨lower, hlower⟩ := startsLowerCase_of_ne hempty
        rw [if_pos hid, hlower]
        change ∃ names', (if (lower && Pattern.standsAlone s i stop) = true then _ else _) = _
        split
        · exact ih _
        · exact ih _
      · rw [if_neg hid]
        exact ih names

/-- An identifier without a first letter stops the reading, unless a guard comes before it. -/
lemma boundNamesFrom_empty (hguard : ∀ x ∈ tokens, x.2.depth = d → x.2.word ≠ .name "if")
    (hempty : ∃ x ∈ tokens, x.2.word = .name "") (names : List String) :
    Pattern.boundNamesFrom s d stop names tokens = .error .emptyIdentifier := by
  induction tokens generalizing names with
  | nil =>
    obtain ⟨x, hx, -⟩ := hempty
    simp at hx
  | cons x tokens ih =>
    obtain ⟨i, t⟩ := x
    have hif : (t.depth == d && t.isWord "if") = false := by
      by_contra hif
      rw [Bool.not_eq_false, Bool.and_eq_true, beq_iff_eq, Lexeme.isWord_iff] at hif
      exact hguard (i, t) List.mem_cons_self hif.1 hif.2
    rw [Pattern.boundNamesFrom, hif, if_neg Bool.false_ne_true]
    by_cases hword : t.word = .name ""
    · have hid : t.isIdentifier = true := Lexeme.isIdentifier_iff.mpr
        (by rw [hword, show t.text = "" from congrArg Word.text hword])
      rw [if_pos hid, show t.text = "" from congrArg Word.text hword]
      rfl
    · have htail : ∃ y ∈ tokens, y.2.word = .name "" := by
        obtain ⟨y, hy, hyw⟩ := hempty
        rcases List.mem_cons.mp hy with rfl | hy
        · exact absurd hyw hword
        · exact ⟨y, hy, hyw⟩
      have ih := ih (fun y hy => hguard y (List.mem_cons_of_mem _ hy)) htail
      by_cases hid : t.isIdentifier = true
      · have hne : t.text ≠ "" := by
          intro hx
          apply hword
          rw [← hx]
          exact Lexeme.isIdentifier_iff.mp hid
        obtain ⟨lower, hlower⟩ := startsLowerCase_of_ne hne
        rw [if_pos hid, hlower]
        change (if (lower && Pattern.standsAlone s i stop) = true then _ else _) = _
        split
        · exact ih _
        · exact ih _
      · rw [if_neg hid]
        exact ih names

end BoundNames

namespace CasePattern

variable {s : Stream} {d i : Nat} {p : CasePattern}

lemma boundNames_eq (h : s.Says d i p.words) :
    Pattern.boundNames s i (i + p.words.length) =
      Pattern.boundNamesFrom s d (i + p.words.length) [] (s.part i p.words.length) := by
  obtain ⟨t, ht, -, htd⟩ := h.head_of_balanced p.balanced p.words_ne_nil
  have hlen := List.length_pos_iff.mpr p.words_ne_nil
  unfold Pattern.boundNames Stream.depthAt
  rw [if_pos (by omega), Stream.token_eq_ok_iff.mpr ht, h.range]
  simp only [Bind.bind, Except.bind, Except.map, htd]

lemma mem_words_iff (h : s.Says d i p.words) (w : Word) :
    w ∈ p.words ↔ ∃ x ∈ s.part i p.words.length, x.2.word = w := by
  constructor
  · intro hw
    obtain ⟨k, hk, hkw⟩ := List.getElem_of_mem hw
    obtain ⟨t, ht, htw⟩ := h.get?_of_lt (show i ≤ i + k by omega) (by omega)
    refine ⟨(i + k, t), Stream.mem_part.mpr ⟨by omega, by simpa using hk, ht⟩, ?_⟩
    rw [show i + k - i = k by omega, List.getElem?_eq_getElem hk, hkw] at htw
    exact (Option.some.inj htw).symm
  · rintro ⟨x, hx, rfl⟩
    obtain ⟨hi, hn, hget⟩ := Stream.mem_part.mp hx
    obtain ⟨t, ht, htw⟩ := h.get?_of_lt hi hn
    rw [hget] at ht
    cases ht
    exact List.mem_of_getElem? htw

theorem boundNames_ok (h : s.Says d i p.words) (hp : p.isNamed = true) :
    ∃ names, Pattern.boundNames s i (i + p.words.length) = .ok names := by
  rw [boundNames_eq h]
  apply boundNamesFrom_ok
  intro x hx hxw
  have hmem := (mem_words_iff h _).mpr ⟨x, hx, hxw⟩
  have := List.all_eq_true.mp hp _ hmem
  simp at this

/-- An empty identifier in a pattern is an error of the reader. -/
theorem boundNames_error (h : s.Says d i p.words) (hp : p.isNamed = false) :
    Pattern.boundNames s i (i + p.words.length) = .error .emptyIdentifier := by
  rw [boundNames_eq h]
  apply boundNamesFrom_empty
  · intro x hx hd
    refine h.not_at_depth p.balanced (Word.isPlain_name "if") ?_ hx hd
    intro hmem
    exact (p.topLevel_ne _ hmem).2.2 rfl
  · obtain ⟨w, hw, hwe⟩ := List.all_eq_false.mp hp
    obtain ⟨x, hx, hxw⟩ := (mem_words_iff h w).mp hw
    exact ⟨x, hx, by rw [hxw]; simpa using hwe⟩

end CasePattern

/-! ### Starts of arms -/

/-- Where the parts of a dotted name at `i` are the word `case`. -/
def DottedName.caseIndices : Nat → List String → List Nat
  | _, [] => []
  | i, x :: xs => (if x = "case" then [i] else []) ++ caseIndices (i + 2) xs

lemma DottedName.caseIndices_eq_nil {xs : List String} (h : "case" ∉ xs) (i : Nat) :
    caseIndices i xs = [] := by
  induction xs generalizing i with
  | nil => rfl
  | cons x xs ih =>
    rw [List.mem_cons, not_or] at h
    rw [caseIndices, if_neg (Ne.symm h.1), ih h.2]
    rfl

/-- Where the tree at `i` looks like the start of an arm. -/
def Tree.stray (i : Nat) : Tree → List Nat
  | .matching subject _ => DottedName.caseIndices i subject.parts
  | _ => []

lemma Tree.stray_of_isWhole {T : Tree} (h : T.isWhole = true) (i : Nat) : T.stray i = [] := by
  cases T with
  | leaf l => rfl
  | conditional c body rest => rfl
  | matching subject arms => exact DottedName.caseIndices_eq_nil (by simpa [isWhole] using h) i

/-- Indices that look like the starts of arms. -/
def Arms.starts (i : Nat) : Arms → List Nat
  | .one p body => i :: body.stray (i + p.head.length)
  | .more p body rest => i :: (body.stray (i + p.head.length) ++
      rest.starts (i + p.head.length + body.words.length))

/-- A token that looks like the start of an arm in a block whose tokens lie at this depth. -/
def startsArm (s : Stream) (d : Nat) (x : Nat × Token) : Bool :=
  x.2.depth == d && Arm.starts s x.1 x.2

section Starts

variable {s : Stream} {d i : Nat}

lemma starts_eq_false {t : Token} (h : t.word ≠ .name "case") : Arm.starts s i t = false := by
  rw [Arm.starts_eq, Bool.eq_false_iff.mpr (mt Lexeme.isWord_iff.mp h), Bool.false_and]

lemma starts_of_next {t t' : Token} (h : t.word = .name "case") (ht' : s.get? (i + 1) = some t')
    (hnext : t'.word ≠ .name "object" ∧ t'.word ≠ .name "class") : Arm.starts s i t = true := by
  have hof : t'.isWordOf ["object", "class"] = false := by
    have h₁ := Bool.eq_false_iff.mpr (mt Lexeme.isWord_iff.mp hnext.1)
    have h₂ := Bool.eq_false_iff.mpr (mt Lexeme.isWord_iff.mp hnext.2)
    unfold Lexeme.isWord at h₁ h₂
    unfold Lexeme.isWordOf
    cases hk : t'.kind == .identifier with
    | false => rfl
    | true =>
      rw [hk, Bool.true_and, beq_eq_false_iff_ne] at h₁ h₂
      simp [h₁, h₂]
  rw [Arm.starts_eq, Lexeme.isWord_iff.mpr h, ht', Option.any_some, hof]
  rfl

lemma filter_startsArm_eq_nil {ws : List Word} (h : s.Says d i ws) (hws : Balanced ws)
    (hcase : .name "case" ∉ topLevel ws) :
    (s.part i ws.length).filter (startsArm s d) = [] := by
  rw [List.filter_eq_nil_iff]
  intro x hx hstart
  unfold startsArm at hstart
  rw [Bool.and_eq_true, beq_iff_eq] at hstart
  have hword := h.not_at_depth hws (Word.isPlain_name "case") hcase hx hstart.1
  rw [starts_eq_false hword] at hstart
  exact absurd hstart.2 Bool.false_ne_true

lemma starts_of_filter_cons {x : String} {t t' : Token} (htw : t.word = .name x)
    (htd : t.depth = d) (ht' : s.get? (i + 1) = some t')
    (hnext : t'.word ≠ .name "object" ∧ t'.word ≠ .name "class") (tokens : List (Nat × Token)) :
    (((i, t) :: tokens).filter (startsArm s d)).map (·.1) =
      (if x = "case" then [i] else []) ++ (tokens.filter (startsArm s d)).map (·.1) := by
  by_cases hx : x = "case"
  · have hstart : startsArm s d (i, t) = true := by
      unfold startsArm
      rw [starts_of_next (by rw [htw, hx]) ht' hnext]
      simp [htd]
    rw [List.filter_cons_of_pos hstart, if_pos hx]
    rfl
  · have hstart : startsArm s d (i, t) = false := by
      unfold startsArm
      rw [starts_eq_false (by rw [htw]; exact fun hw => hx (congrArg Word.text hw)), Bool.and_false]
    rw [List.filter_cons_of_neg (by simp [hstart]), if_neg hx]
    rfl

/-- In a subject, every part that is the word `case` looks like the start of an arm. -/
lemma starts_of_subject {x : String} {xs : List String} {ws : List Word}
    (h : s.Says d i (.name x :: (DottedName.tailWords xs ++ .name "match" :: ws))) :
    ((s.part i (1 + 2 * xs.length)).filter (startsArm s d)).map (·.1) =
      DottedName.caseIndices i (x :: xs) := by
  obtain ⟨t, ht, htw, htd⟩ := h.head rfl
  induction xs generalizing i x t with
  | nil =>
    obtain ⟨t', ht', htw', -⟩ := (h.tail rfl).head rfl
    rw [List.length_nil, Nat.mul_zero, Stream.part_succ ht,
      starts_of_filter_cons htw htd ht' (by rw [htw']; decide)]
    rfl
  | cons y ys ih =>
    have hdot := h.tail rfl
    obtain ⟨t', ht', htw', -⟩ := hdot.head rfl
    have hy := hdot.tail Word.isPlain_dot
    obtain ⟨t'', ht'', htw'', htd''⟩ := hy.head rfl
    have hskip : startsArm s d (i + 1, t') = false := by
      unfold startsArm
      rw [starts_eq_false (by rw [htw']; decide), Bool.and_false]
    rw [List.length_cons, show 1 + 2 * (ys.length + 1) = 1 + 2 * ys.length + 1 + 1 by omega,
      Stream.part_succ ht, Stream.part_succ ht', DottedName.caseIndices,
      starts_of_filter_cons htw htd ht' (by rw [htw']; decide),
      List.filter_cons_of_neg (by simp [hskip]), ih hy t'' ht'' htw'' htd'']

theorem Tree.starts_of_words {T : Tree} (h : s.Says d i T.words) :
    ((s.part i T.words.length).filter (startsArm s d)).map (·.1) = T.stray i := by
  by_cases hwhole : T.isWhole = true
  · have hcase : .name "case" ∉ topLevel T.words := by
      intro hmem
      have := (Tree.mem_topLevel hmem).2 rfl
      simp [hwhole] at this
    rw [filter_startsArm_eq_nil h T.balanced_words hcase, Tree.stray_of_isWhole hwhole]
    rfl
  · cases T with
    | leaf l => exact absurd rfl hwhole
    | conditional c body rest => exact absurd rfl hwhole
    | matching subject arms =>
      have hsplit : (Tree.matching subject arms).words = subject.words ++
          bracedArm [.name "match"] arms.words [] := by
        simp [Tree.words, bracedArm]
      have hbalanced : Balanced (bracedArm [.name "match"] arms.words []) :=
        balanced_bracedArm (balanced_name "match") arms.balanced_words
          balanced_nil
      have hcase : .name "case" ∉ topLevel (bracedArm [.name "match"] arms.words []) := by
        rw [topLevel_bracedArm (balanced_name "match")
          arms.balanced_words]
        decide
      rw [hsplit] at h ⊢
      rw [List.length_append, Stream.part_add, List.filter_append,
        filter_startsArm_eq_nil (h.right_of_balanced subject.balanced_words) hbalanced hcase,
        List.append_nil, subject.length_words]
      exact starts_of_subject h

lemma CasePattern.says_head {p : CasePattern} {ws : List Word} (h : s.Says d i (p.head ++ ws)) :
    (∃ t, s.get? i = some t ∧ t.word = .name "case" ∧ t.depth = d) ∧
    s.Says d (i + 1) p.words ∧
    (∃ t, s.get? (i + 1 + p.words.length) = some t ∧ t.word = .arrow ∧ t.depth = d) ∧
    s.Says d (i + p.head.length) ws := by
  have hrest := h.right_of_balanced p.balanced_head
  rw [CasePattern.head, List.cons_append] at h
  have hp := h.tail (Word.isPlain_name "case")
  rw [List.append_assoc] at hp
  exact ⟨h.head rfl, hp.left, (hp.right_of_balanced p.balanced).head (by decide), hrest⟩

lemma CasePattern.starts_of_head {p : CasePattern} {ws : List Word}
    (h : s.Says d i (p.head ++ ws)) :
    ((s.part i p.head.length).filter (startsArm s d)).map (·.1) = [i] := by
  obtain ⟨⟨t, ht, htw, htd⟩, hp, ⟨t', ht', htw', -⟩, -⟩ := says_head h
  obtain ⟨u, hu, huw, -⟩ := hp.head_of_balanced p.balanced p.words_ne_nil
  have hcase : .name "case" ∉ topLevel p.words := fun hmem => (p.topLevel_ne _ hmem).2.1 rfl
  have harrow : startsArm s d (i + 1 + p.words.length, t') = false := by
    unfold startsArm
    rw [starts_eq_false (by rw [htw']; decide), Bool.and_false]
  rw [p.length_head, Stream.part_succ ht,
    starts_of_filter_cons htw htd hu (p.head_ne _ (by rw [huw]; rfl)), Stream.part_add,
    List.filter_append, filter_startsArm_eq_nil hp p.balanced hcase, Stream.part_succ ht',
    List.filter_cons_of_neg (by simp [harrow])]
  rfl

/-- In a block, the arms start where their `case` stands, and where a subject looks like it. -/
theorem Arms.starts_of_words {i : Nat} : ∀ {arms : Arms}, s.Says d i arms.words →
    ((s.part i arms.words.length).filter (startsArm s d)).map (·.1) = arms.starts i
  | .one p body, h => by
    obtain ⟨-, -, -, hbody⟩ := CasePattern.says_head h
    rw [Arms.words, List.length_append, Stream.part_add, List.filter_append, List.map_append,
      CasePattern.starts_of_head h, Tree.starts_of_words hbody]
    rfl
  | .more p body rest, h => by
    obtain ⟨-, -, -, hmore⟩ := CasePattern.says_head h
    have hrest := hmore.right_of_balanced body.balanced_words
    rw [Arms.words, List.length_append, List.length_append, Stream.part_add, Stream.part_add,
      List.filter_append, List.filter_append, List.map_append, List.map_append,
      CasePattern.starts_of_head h, Tree.starts_of_words hmore.left, Arms.starts_of_words hrest]
    rfl

end Starts

/-! ### Arms found -/

/-- Where the tree at `i` ends when it is the body of an arm. -/
def Tree.armStop (i : Nat) (T : Tree) : Nat := (T.stray i).head?.getD (i + T.words.length)

/-- Arms found in a block whose arms start at `i`. -/
def Arms.found (i : Nat) : Arms → List Arm
  | .one p body => [⟨i, i + 1 + p.words.length, body.armStop (i + p.head.length)⟩]
  | .more p body rest => ⟨i, i + 1 + p.words.length, body.armStop (i + p.head.length)⟩ ::
      rest.found (i + p.head.length + body.words.length)

section Found

variable {s : Stream} {d i j n stop : Nat} {rest : List Nat} {arms : List Arm}

lemma getD_head?_append {xs ys : List Nat} {k : Nat} (h : ys.head?.getD stop = k) :
    (xs ++ ys).head?.getD stop = xs.head?.getD k := by
  cases xs with
  | nil => exact h
  | cons x xs => rfl

/-- What looks like the start of an arm and has no arrow after it is left out. -/
lemma ofStarts_append {xs : List Nat} (hxs : ∀ k ∈ xs, j ≤ k ∧ k < j + n) (hsize : j + n ≤ s.size)
    (harrow : ∀ x ∈ s.part j n, x.2.depth = d → x.2.word ≠ .arrow)
    (hnext : rest.head?.getD stop = j + n) (h : Arm.ofStarts s d stop rest = .ok arms) :
    Arm.ofStarts s d stop (xs ++ rest) = .ok arms := by
  induction xs with
  | nil => exact h
  | cons k xs ih =>
    have ih := ih fun x hx => hxs x (List.mem_cons_of_mem _ hx)
    have hk := hxs k List.mem_cons_self
    have hle : xs.head?.getD (j + n) ≤ j + n := by
      cases xs with
      | nil => exact le_refl _
      | cons x xs => exact Nat.le_of_lt (hxs x (by simp)).2
    rw [List.cons_append, Arm.ofStarts]
    simp only [getD_head?_append hnext]
    rw [Stream.range_eq_part (by omega), ih]
    have hnone : ((s.part (k + 1) (xs.head?.getD (j + n) - (k + 1))).find? fun x =>
        x.2.depth == d && x.2.isOperator "=>") = none := by
      rw [List.find?_eq_none]
      intro x hx hfound
      rw [Bool.and_eq_true, beq_iff_eq, Lexeme.isOperator_iff] at hfound
      obtain ⟨hi, hn, hget⟩ := Stream.mem_part.mp hx
      exact harrow x (Stream.mem_part.mpr ⟨by omega, by omega, hget⟩) hfound.1 hfound.2
    simp only [Bind.bind, Except.bind]
    rw [hnone]

lemma Tree.mem_stray {T : Tree} (h : s.Says d i T.words) {k : Nat} (hk : k ∈ T.stray i) :
    i ≤ k ∧ k < i + T.words.length := by
  rw [← Tree.starts_of_words h] at hk
  obtain ⟨x, hx, rfl⟩ := List.mem_map.mp hk
  obtain ⟨hi, hn, -⟩ := Stream.mem_part.mp (List.mem_filter.mp hx).1
  exact ⟨hi, hn⟩

lemma Tree.armStop_le {T : Tree} (h : s.Says d i T.words) :
    i ≤ T.armStop i ∧ T.armStop i ≤ i + T.words.length := by
  unfold armStop
  cases hs : T.stray i with
  | nil => exact ⟨Nat.le_add_right _ _, le_refl _⟩
  | cons k ks =>
    have := Tree.mem_stray h (show k ∈ T.stray i by rw [hs]; simp)
    exact ⟨this.1, Nat.le_of_lt this.2⟩

lemma ofStarts_arm {p : CasePattern} {body : Tree} (h : s.Says d i (p.head ++ body.words))
    (hnext : rest.head?.getD stop = i + p.head.length + body.words.length)
    (harms : Arm.ofStarts s d stop rest = .ok arms) :
    Arm.ofStarts s d stop (i :: (body.stray (i + p.head.length) ++ rest)) =
      .ok (⟨i, i + 1 + p.words.length, body.armStop (i + p.head.length)⟩ :: arms) := by
  obtain ⟨-, hp, ⟨t, ht, htw, htd⟩, hbody⟩ := CasePattern.says_head h
  obtain ⟨hle, hle'⟩ := Tree.armStop_le hbody
  have hsize := hbody.le_size
  have hrest := ofStarts_append (fun k hk => Tree.mem_stray hbody hk) hsize
    (fun x hx => hbody.not_at_depth body.balanced_words Word.isPlain_arrow
      (fun hmem => (Tree.mem_topLevel hmem).1 rfl) hx) hnext harms
  rw [p.length_head] at hle hle' hsize hrest hnext ⊢
  rw [Arm.ofStarts]
  have hstop : (body.stray (i + (p.words.length + 2)) ++ rest).head?.getD stop =
      body.armStop (i + (p.words.length + 2)) := getD_head?_append hnext
  simp only [hstop]
  have hnone : ((s.part (i + 1) p.words.length).find? fun x =>
      x.2.depth == d && x.2.isOperator "=>") = none := by
    rw [List.find?_eq_none]
    intro x hx hfound
    rw [Bool.and_eq_true, beq_iff_eq, Lexeme.isOperator_iff] at hfound
    exact hp.not_at_depth p.balanced Word.isPlain_arrow
      (fun hmem => (p.topLevel_ne _ hmem).1 rfl) hx hfound.1 hfound.2
  have hfound : (t.depth == d && t.isOperator "=>") = true := by
    rw [Lexeme.isOperator_iff.mpr htw, htd]
    simp
  have hlen : body.armStop (i + (p.words.length + 2)) - (i + 1) =
      p.words.length + (body.armStop (i + (p.words.length + 2)) - (i + p.words.length + 2) + 1) := by
    omega
  rw [Stream.range_eq_part (by omega), hrest, hlen, Stream.part_add, Stream.part_succ ht]
  simp only [Bind.bind, Except.bind, List.find?_append, hnone, Option.none_or]
  rw [List.find?_cons_of_pos (by exact hfound)]

lemma Arms.starts_eq_cons (arms : Arms) : ∃ ks, arms.starts i = i :: ks := by
  cases arms with
  | one p body => exact ⟨_, rfl⟩
  | more p body rest => exact ⟨_, rfl⟩

theorem Arms.ofStarts_starts {i : Nat} : ∀ {arms : Arms}, s.Says d i arms.words →
    stop = i + arms.words.length → Arm.ofStarts s d stop (arms.starts i) = .ok (arms.found i)
  | .one p body, h, hstop => by
    rw [Arms.words, List.length_append] at hstop
    have hnext : ([] : List Nat).head?.getD stop = i + p.head.length + body.words.length := by
      rw [List.head?_nil, Option.getD_none]
      omega
    have harm := ofStarts_arm h hnext rfl
    rw [List.append_nil] at harm
    exact harm
  | .more p body rest, h, hstop => by
    rw [Arms.words, List.length_append, List.length_append] at hstop
    have hmore := h.right_of_balanced p.balanced_head
    have hrest := hmore.right_of_balanced body.balanced_words
    have harms := Arms.ofStarts_starts hrest (show stop = _ by omega)
    rw [Arms.words, ← List.append_assoc] at h
    refine ofStarts_arm h.left ?_ harms
    obtain ⟨ks, hks⟩ := rest.starts_eq_cons (i := i + p.head.length + body.words.length)
    rw [hks]
    rfl

/-- The arms of a block are found where they are written. -/
theorem Arms.ofBlock_eq {arms : Arms} {v : List Word}
    (h : s.Says d i (.mark leftBrace :: (arms.words ++ .mark rightBrace :: v))) :
    Arm.ofBlock s i = .ok (arms.found (i + 1)) := by
  obtain ⟨hclose, hinside, -⟩ :=
    h.bracket isOpening_leftBrace closes?_rightBrace arms.balanced_words
  have hin := hinside.left
  obtain ⟨t, ht, -, htd⟩ := h.head (by decide)
  have hstarts : (((s.part (i + 1) arms.words.length).filter fun x =>
      x.2.depth == t.depth + 1 && Arm.starts s x.1 x.2).map (·.1)) = arms.starts (i + 1) := by
    rw [htd]
    exact Arms.starts_of_words hin
  unfold Arm.ofBlock
  rw [hclose, Stream.token_eq_ok_iff.mpr ht]
  simp only [Bind.bind, Except.bind]
  rw [hin.range]
  simp only
  rw [hstarts, htd]
  exact Arms.ofStarts_starts hin rfl

end Found

end ActorDiagram
