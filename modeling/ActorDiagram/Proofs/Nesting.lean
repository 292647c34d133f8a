import Mathlib
import ActorDiagram.Source.Stream

/-!
# Nesting of brackets

What the bracket matcher knows after any lexemes: a bracket is closed after it is opened, at its own
depth, and everything between the two lies deeper.
-/

namespace ActorDiagram

/-! ### Words -/

/-- What a token says: its kind and its text. -/
structure Word where
  kind : TokenKind
  text : String
  deriving Repr, DecidableEq, Inhabited

def Lexeme.word (t : Lexeme) : Word := ⟨t.kind, t.text⟩

namespace Word

/-- An opening bracket. -/
def isOpening (w : Word) : Bool := w.kind == .mark && (closingOf? w.text).isSome

/-- Opening bracket that a closing one asks for. -/
def closes? (w : Word) : Option String := if w.kind = .mark then openingOf? w.text else none

/-- A word that is no bracket. -/
def isPlain (w : Word) : Bool := !w.isOpening && w.closes?.isNone

end Word

lemma closingOf?_isSome_iff {a : String} :
    (closingOf? a).isSome ↔ a = "(" ∨ a = "[" ∨ a = leftBrace := by
  unfold closingOf?
  split_ifs <;> simp_all

lemma openingOf?_isSome_iff {a : String} :
    (openingOf? a).isSome ↔ a = ")" ∨ a = "]" ∨ a = rightBrace := by
  unfold openingOf?
  split_ifs <;> simp_all

lemma Word.closes?_eq_none_of_isOpening {w : Word} (h : w.isOpening = true) :
    w.closes? = none := by
  simp only [Word.isOpening, Bool.and_eq_true, beq_iff_eq] at h
  unfold Word.closes?
  rw [if_pos h.1]
  rcases closingOf?_isSome_iff.mp h.2 with ht | ht | ht <;> rw [ht] <;> decide

lemma Lexeme.isOpening_of_isMark {t : Lexeme} {text : String} (h : t.isMark text = true)
    (htext : text ∈ ["(", "[", leftBrace]) : t.word.isOpening = true := by
  obtain ⟨hkind, rfl⟩ := isMark_eq_true.mp h
  simp only [List.mem_cons, List.not_mem_nil, or_false] at htext
  rw [Word.isOpening, word, hkind, closingOf?_isSome_iff.mpr htext]
  rfl

lemma Lexeme.isOpening_of_group {t : Lexeme} (h : (t.isMark "(" || t.isMark "[") = true) :
    t.word.isOpening = true := by
  rcases Bool.or_eq_true_iff.mp h with h | h
  · exact isOpening_of_isMark h (by decide)
  · exact isOpening_of_isMark h (by decide)

namespace Lexeme

section Closing

variable {t : Lexeme} (h : t.word.closes?.isSome = true)
include h

lemma kind_of_closes? : t.kind = .mark := by
  by_contra hk
  rw [Word.closes?, if_neg (by exact hk)] at h
  simp at h

lemma isMark_eq_false_of_closes? {m : String} (hm : openingOf? m = none) : t.isMark m = false := by
  rw [Bool.eq_false_iff, Ne, isMark_eq_true]
  rintro ⟨hk, rfl⟩
  rw [Word.closes?, if_pos (by exact hk)] at h
  simp [show t.word.text = t.text from rfl, hm] at h

lemma isIdentifier_eq_false_of_closes? : t.isIdentifier = false := by
  rw [isIdentifier, kind_of_closes? h]
  rfl

lemma isWord_eq_false_of_closes? (text : String) : t.isWord text = false := by
  rw [isWord, kind_of_closes? h]
  rfl

lemma isWordOf_eq_false_of_closes? (texts : List String) : t.isWordOf texts = false := by
  rw [isWordOf, kind_of_closes? h]
  rfl

lemma not_name_of_closes? : (t.isMark "." || t.isIdentifier) = false := by
  rw [isMark_eq_false_of_closes? h rfl, isIdentifier_eq_false_of_closes? h]
  rfl

end Closing

end Lexeme

/-! ### One step of the matcher -/

namespace BracketState

theorem step_eq (s : BracketState) (t : Lexeme) :
    s.step t = if t.word.isOpening then s.readOpener t
      else match t.word.closes? with
        | some wanted => s.readCloser t wanted
        | none => s.push t .plain := by
  unfold step Word.isOpening Word.closes?
  by_cases hk : t.kind = .mark
  · have hword : t.word.kind = .mark := hk
    rw [if_pos hk, if_pos hword, hword]
    rfl
  · simp [Lexeme.word, hk]

lemma getElem?_push_tokens (s : BracketState) (t : Lexeme) (role : BracketRole) (k : Nat) :
    (s.push t role).tokens[k]? =
      if k = s.tokens.size then some ⟨t, s.stack.length⟩ else s.tokens[k]? :=
  Array.getElem?_push

lemma getElem?_push_roles (s : BracketState) (t : Lexeme) (role : BracketRole) (k : Nat) :
    (s.push t role).roles[k]? = if k = s.roles.size then some role else s.roles[k]? :=
  Array.getElem?_push

/-- Bracket matching when the innermost open bracket of a kind is closed. -/
def close (s : BracketState) (t : Lexeme) (i : Nat) (rest : List (String × Nat)) : BracketState :=
  { s with stack := rest, roles := s.roles.setIfInBounds i (.opener s.tokens.size) }.push t (.closer i)

lemma readCloser_of_dropWhile {s : BracketState} {t : Lexeme} {wanted b : String} {i : Nat}
    {rest : List (String × Nat)} (h : s.stack.dropWhile (·.1 != wanted) = (b, i) :: rest) :
    s.readCloser t wanted = s.close t i rest := by
  unfold readCloser
  rw [h]
  rfl

/-- What one step does. -/
inductive Move (s : BracketState) (t : Lexeme) : BracketState → Prop
  | plain (h : t.word.isPlain = true) : Move s t (s.push t .plain)
  | opening (h : t.word.isOpening = true) : Move s t (s.readOpener t)
  | unexpected {b : String} (h : t.word.closes? = some b) (hnone : ∀ x ∈ s.stack, x.1 ≠ b) :
    Move s t (s.push t .unexpected)
  | closing {above rest : List (String × Nat)} {b : String} {i : Nat} (h : t.word.closes? = some b)
    (hs : s.stack = above ++ (b, i) :: rest) (habove : ∀ x ∈ above, x.1 ≠ b) :
    Move s t (s.close t i rest)

theorem move_step (s : BracketState) (t : Lexeme) : s.Move t (s.step t) := by
  rw [step_eq]
  split_ifs with ho
  · exact .opening ho
  · cases hc : t.word.closes? with
    | none => exact .plain (by simp [Word.isPlain, ho, hc])
    | some b =>
      cases hdrop : s.stack.dropWhile (·.1 != b) with
      | nil =>
        have hread : s.readCloser t b = s.push t .unexpected := by
          unfold readCloser
          rw [hdrop]
        simp only [hread]
        exact .unexpected hc (by simpa using List.dropWhile_eq_nil_iff.mp hdrop)
      | cons x rest =>
        have hsplit := List.takeWhile_append_dropWhile (p := (·.1 != b)) (l := s.stack)
        have hb := List.head?_dropWhile_not (·.1 != b) s.stack
        rw [hdrop] at hsplit hb
        obtain rfl : x.1 = b := by simpa using hb
        simp only [readCloser_of_dropWhile hdrop]
        exact .closing hc hsplit.symm fun y hy => by simpa using List.mem_takeWhile_imp hy

/-! ### What every run keeps -/

/-- The brackets read so far are nested. Under every open bracket lies its token, at the depth of
the brackets around it, and all after it lies deeper; the same holds between the brackets of a
pair. -/
structure Nested (s : BracketState) : Prop where
  size_eq : s.roles.size = s.tokens.size
  open_lt : ∀ (u : List (String × Nat)) (b : String) (i : Nat) (v : List (String × Nat)),
    s.stack = u ++ (b, i) :: v → i < s.tokens.size
  open_token : ∀ (u : List (String × Nat)) (b : String) (i : Nat) (v : List (String × Nat))
    (t : Token), s.stack = u ++ (b, i) :: v → s.tokens[i]? = some t →
    t.depth = v.length ∧ t.text = b ∧ t.word.isOpening = true
  open_above : ∀ (u : List (String × Nat)) (b : String) (i : Nat) (v : List (String × Nat))
    (k : Nat) (t : Token), s.stack = u ++ (b, i) :: v → i < k → s.tokens[k]? = some t →
    v.length < t.depth
  pair_lt : ∀ i c : Nat, s.roles[i]? = some (.opener c) → i < c ∧ c < s.tokens.size
  pair_token : ∀ (i c : Nat) (t t' : Token), s.roles[i]? = some (.opener c) → s.tokens[i]? = some t →
    s.tokens[c]? = some t' → t'.depth = t.depth ∧ t'.word.closes? = some t.text
  pair_between : ∀ (i c : Nat) (t : Token) (k : Nat) (t' : Token),
    s.roles[i]? = some (.opener c) → s.tokens[i]? = some t → i < k → k < c → s.tokens[k]? = some t' → t.depth < t'.depth
  opening_role : ∀ (i : Nat) (t : Token), s.tokens[i]? = some t → t.word.isOpening = true →
    s.roles[i]? = some .unclosed ∨ ∃ c, s.roles[i]? = some (.opener c)
  drop : ∀ (k : Nat) (t t' : Token), s.tokens[k]? = some t → s.tokens[k + 1]? = some t' →
    t'.depth < t.depth → t'.word.closes?.isSome
  last_le : ∀ (k : Nat) (t : Token), k + 1 = s.tokens.size → s.tokens[k]? = some t → t.depth ≤ s.stack.length

theorem nested_init : Nested init := by
  constructor <;> simp [init]

section Roles

variable {s : BracketState} {t : Lexeme} {i j c : Nat} {rest : List (String × Nat)}

lemma Nested.getElem?_size (h : s.Nested) : s.roles[s.tokens.size]? = none :=
  Array.getElem?_eq_none (by rw [h.size_eq])

lemma Nested.roles_push (h : s.Nested) (t : Lexeme) (role : BracketRole) (j : Nat) :
    (s.push t role).roles[j]? = if j = s.tokens.size then some role else s.roles[j]? := by
  rw [getElem?_push_roles, h.size_eq]

lemma Nested.roles_close (h : s.Nested) (hi : i < s.tokens.size) (rest : List (String × Nat)) (j : Nat) :
    (s.close t i rest).roles[j]? = if j = s.tokens.size then some (.closer i)
      else if j = i then some (.opener s.tokens.size) else s.roles[j]? := by
  unfold BracketState.close
  rw [getElem?_push_roles]
  simp only [Array.size_setIfInBounds, h.size_eq, Array.getElem?_setIfInBounds]
  by_cases hj : j = i
  · subst hj
    simp [hi]
  · simp [hj, Ne.symm hj]

lemma Nested.opener_of_close (h : s.Nested) (hi : i < s.tokens.size)
    (hr : (s.close t i rest).roles[j]? = some (.opener c)) :
    (j = i ∧ c = s.tokens.size) ∨ s.roles[j]? = some (.opener c) := by
  rw [h.roles_close hi] at hr
  split_ifs at hr with hj hji
  · cases hr
  · cases hr
    exact .inl ⟨hji, rfl⟩
  · exact .inr hr

end Roles

/-- A token that changes nothing about what is open, under a role without a partner. -/
theorem Nested.push {s : BracketState} (h : s.Nested) (t : Lexeme) (role : BracketRole)
    (hopening : t.word.isOpening = true → role = .unclosed) (hrole : ∀ c, role ≠ .opener c) :
    (s.push t role).Nested where
  size_eq := by simp [BracketState.push, h.size_eq]
  open_lt u b i v hs := by
    have := h.open_lt u b i v hs
    simp only [BracketState.push, Array.size_push]
    omega
  open_token u b i v t' hs ht := by
    have hlt := h.open_lt u b i v hs
    rw [getElem?_push_tokens, if_neg (by omega)] at ht
    exact h.open_token u b i v t' hs ht
  open_above u b i v k t' hs hik ht := by
    rw [getElem?_push_tokens] at ht
    split_ifs at ht with hk
    · cases ht
      change s.stack = _ at hs
      simp only [hs, List.length_append, List.length_cons]
      omega
    · exact h.open_above u b i v k t' hs hik ht
  pair_lt i c hr := by
    rw [h.roles_push] at hr
    split_ifs at hr with hi
    · exact absurd (Option.some.inj hr) (hrole c)
    · have := h.pair_lt i c hr
      simp only [BracketState.push, Array.size_push]
      omega
  pair_token i c t₁ t₂ hr h₁ h₂ := by
    rw [h.roles_push] at hr
    split_ifs at hr with hi
    · exact absurd (Option.some.inj hr) (hrole c)
    · have hlt := h.pair_lt i c hr
      rw [getElem?_push_tokens, if_neg (by omega)] at h₁ h₂
      exact h.pair_token i c t₁ t₂ hr h₁ h₂
  pair_between i c t₁ k t₂ hr h₁ hik hkc h₂ := by
    rw [h.roles_push] at hr
    split_ifs at hr with hi
    · exact absurd (Option.some.inj hr) (hrole c)
    · have hlt := h.pair_lt i c hr
      rw [getElem?_push_tokens, if_neg (by omega)] at h₁ h₂
      exact h.pair_between i c t₁ k t₂ hr h₁ hik hkc h₂
  opening_role i t' ht ho := by
    rw [getElem?_push_tokens] at ht
    rw [h.roles_push]
    split_ifs at ht with hi
    · cases ht
      rw [if_pos hi, hopening ho]
      exact .inl rfl
    · rw [if_neg hi]
      exact h.opening_role i t' ht ho
  drop k t₁ t₂ h₁ h₂ hd := by
    rw [getElem?_push_tokens] at h₁ h₂
    split_ifs at h₂ with hk
    · rw [if_neg (by omega)] at h₁
      cases h₂
      have := h.last_le k t₁ hk h₁
      simp only at hd
      omega
    · split_ifs at h₁ with hk'
      · rw [Array.getElem?_eq_none (by omega)] at h₂
        simp at h₂
      · exact h.drop k t₁ t₂ h₁ h₂ hd
  last_le k t' hk ht := by
    simp only [BracketState.push, Array.size_push, Nat.add_right_cancel_iff] at hk
    rw [getElem?_push_tokens, if_pos hk] at ht
    cases ht
    exact le_refl _

theorem Nested.readOpener {s : BracketState} (h : s.Nested) (t : Lexeme)
    (hopening : t.word.isOpening = true) : (s.readOpener t).Nested :=
  -- What is said of pairs does not look at what is open, so it is that of the token pushed.
  { h.push t .unclosed (fun _ => rfl) (by simp) with
    open_lt := by
      intro u b i v hs
      simp only [BracketState.readOpener, BracketState.push, Array.size_push]
      rcases List.cons_eq_append_iff.mp hs with ⟨-, hv⟩ | ⟨u', -, hs⟩
      · cases hv
        omega
      · have := h.open_lt u' b i v hs
        omega
    open_token := by
      intro u b i v t' hs ht
      rw [BracketState.readOpener, getElem?_push_tokens] at ht
      rcases List.cons_eq_append_iff.mp hs with ⟨-, hv⟩ | ⟨u', -, hs⟩
      · cases hv
        rw [if_pos rfl] at ht
        cases ht
        exact ⟨rfl, rfl, hopening⟩
      · have hlt := h.open_lt u' b i v hs
        rw [if_neg (by omega)] at ht
        exact h.open_token u' b i v t' hs ht
    open_above := by
      intro u b i v k t' hs hik ht
      rw [BracketState.readOpener, getElem?_push_tokens] at ht
      rcases List.cons_eq_append_iff.mp hs with ⟨-, hv⟩ | ⟨u', -, hs⟩
      · cases hv
        rw [if_neg (by omega), Array.getElem?_eq_none (by omega)] at ht
        cases ht
      · split_ifs at ht with hk
        · cases ht
          simp only [hs, List.length_append, List.length_cons]
          omega
        · exact h.open_above u' b i v k t' hs hik ht
    last_le := by
      intro k t' hk ht
      simp only [BracketState.readOpener, BracketState.push, Array.size_push,
        Nat.add_right_cancel_iff] at hk
      rw [BracketState.readOpener, getElem?_push_tokens, if_pos hk] at ht
      cases ht
      exact Nat.le_succ _ }

/-- The innermost bracket of a kind is closed; brackets opened inside it stay open for good. -/
theorem Nested.close {s : BracketState} (h : s.Nested) (t : Lexeme) {u : List (String × Nat)}
    {b : String} {i : Nat} {rest : List (String × Nat)} (hs : s.stack = u ++ (b, i) :: rest)
    (hcloses : t.word.closes? = some b) :
    (s.close t i rest).Nested := by
  have hi := h.open_lt u b i rest hs
  have hrest : ∀ {u' b' j v}, rest = u' ++ (b', j) :: v →
      s.stack = (u ++ (b, i) :: u') ++ (b', j) :: v := by
    intro u' b' j v hv
    rw [hs, hv, List.append_assoc, List.cons_append]
  have htokens : ∀ k : Nat, (s.close t i rest).tokens[k]? =
      if k = s.tokens.size then some ⟨t, rest.length⟩ else s.tokens[k]? :=
    fun k => Array.getElem?_push
  have hsize : (s.close t i rest).tokens.size = s.tokens.size + 1 := Array.size_push _
  constructor
  case size_eq =>
    simp [BracketState.close, BracketState.push, h.size_eq]
  case open_lt =>
    intro u' b' j v hv
    have := h.open_lt _ b' j v (hrest hv)
    omega
  case open_token =>
    intro u' b' j v t' hv ht
    have hlt := h.open_lt _ b' j v (hrest hv)
    rw [htokens, if_neg (by omega)] at ht
    exact h.open_token _ b' j v t' (hrest hv) ht
  case open_above =>
    intro u' b' j v k t' hv hjk ht
    rw [htokens] at ht
    split_ifs at ht with hk
    · cases ht
      change rest = _ at hv
      simp only [hv, List.length_append, List.length_cons]
      omega
    · exact h.open_above _ b' j v k t' (hrest hv) hjk ht
  case pair_lt =>
    intro j c hr
    rcases h.opener_of_close hi hr with ⟨rfl, rfl⟩ | hr
    · omega
    · have := h.pair_lt j c hr
      omega
  case pair_token =>
    intro j c t₁ t₂ hr h₁ h₂
    rw [htokens] at h₁ h₂
    rcases h.opener_of_close hi hr with ⟨rfl, rfl⟩ | hr
    · rw [if_neg (by omega)] at h₁
      rw [if_pos rfl] at h₂
      cases h₂
      obtain ⟨hdepth, htext, _⟩ := h.open_token u b j rest t₁ hs h₁
      exact ⟨hdepth.symm, by rw [htext]; exact hcloses⟩
    · have hlt := h.pair_lt j c hr
      rw [if_neg (by omega)] at h₁ h₂
      exact h.pair_token j c t₁ t₂ hr h₁ h₂
  case pair_between =>
    intro j c t₁ k t₂ hr h₁ hjk hkc h₂
    rw [htokens] at h₁ h₂
    rcases h.opener_of_close hi hr with ⟨rfl, rfl⟩ | hr
    · rw [if_neg (by omega)] at h₁ h₂
      rw [(h.open_token u b j rest t₁ hs h₁).1]
      exact h.open_above u b j rest k t₂ hs hjk h₂
    · have hlt := h.pair_lt j c hr
      rw [if_neg (by omega)] at h₁ h₂
      exact h.pair_between j c t₁ k t₂ hr h₁ hjk hkc h₂
  case opening_role =>
    intro j t' ht ho
    rw [htokens] at ht
    rw [h.roles_close hi]
    split_ifs at ht with hj
    · cases ht
      exact absurd hcloses (by rw [Word.closes?_eq_none_of_isOpening ho]; simp)
    · rw [if_neg hj]
      split_ifs
      · exact .inr ⟨_, rfl⟩
      · exact h.opening_role j t' ht ho
  case drop =>
    intro k t₁ t₂ h₁ h₂ hd
    rw [htokens] at h₁ h₂
    split_ifs at h₂ with hk
    · cases h₂
      exact Option.isSome_of_eq_some hcloses
    · split_ifs at h₁ with hk'
      · rw [Array.getElem?_eq_none (by omega)] at h₂
        cases h₂
      · exact h.drop k t₁ t₂ h₁ h₂ hd
  case last_le =>
    intro k t' hk ht
    rw [htokens, if_pos (by omega)] at ht
    cases ht
    exact le_refl _

theorem Nested.move {s s' : BracketState} {t : Lexeme} (h : s.Nested) (hmove : s.Move t s') :
    s'.Nested := by
  cases hmove with
  | plain hplain => exact h.push t .plain (fun ho => by simp [Word.isPlain, ho] at hplain) (by simp)
  | opening ho => exact h.readOpener t ho
  | unexpected hc _ =>
    exact h.push t .unexpected (fun ho => by simp [Word.closes?_eq_none_of_isOpening ho] at hc)
      (by simp)
  | closing hc hs _ => exact h.close t hs hc

theorem Nested.step {s : BracketState} (h : s.Nested) (t : Lexeme) : (s.step t).Nested :=
  h.move (s.move_step t)

theorem nested_run (ts : List Lexeme) : (run ts).Nested := by
  have hall : ∀ s : BracketState, s.Nested → (ts.foldl step s).Nested := by
    induction ts with
    | nil => exact fun s hs => hs
    | cons t ts ih => exact fun s hs => ih _ (hs.step t)
  exact hall init nested_init

end BracketState

end ActorDiagram
