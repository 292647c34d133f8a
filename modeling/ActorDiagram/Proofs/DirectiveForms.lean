import Mathlib
import ActorDiagram.Proofs.DecisionArms

/-!
# Forms of directives

How directives are written, with the state that they name, their arguments and their payload, and what is
read of each form: the reader of directives gives back what the form says.
-/

namespace ActorDiagram

namespace Directive

/-! ### Forms -/

/-- What stands in a list of arguments: it is balanced and has a text. -/
structure Argument where
  words : List Word
  balanced : Balanced words
  text_ne : textOfWords words ≠ ""

def Argument.text (a : Argument) : String := textOfWords a.words

/-- Balanced words between the parentheses or square brackets behind a name. -/
structure Bracketed where
  square : Bool
  inner : List Word
  balanced : Balanced inner

namespace Bracketed

def opening (b : Bracketed) : Word := .mark (if b.square then "[" else "(")

def closing (b : Bracketed) : Word := .mark (if b.square then "]" else ")")

def words (b : Bracketed) : List Word := b.opening :: (b.inner ++ [b.closing])

end Bracketed

/-- A dotted name with brackets behind it. -/
structure Expression where
  name : DottedName
  groups : List Bracketed

namespace Expression

def words (e : Expression) : List Word := e.name.words ++ e.groups.flatMap Bracketed.words

def text (e : Expression) : String := textOfWords e.words

end Expression

/-- Words in parentheses. -/
def parens (ws : List Word) : List Word := .mark "(" :: (ws ++ [.mark ")"])

/-- What stands behind a directive to say what data goes with it. -/
inductive Payload where
  | absent
  /-- `using expr` -/
  | infixed (e : Expression)
  /-- `.using(expr)` -/
  | selected (a : Argument)

namespace Payload

def words : Payload → List Word
  | absent => []
  | infixed e => .name "using" :: e.words
  | selected a => .mark "." :: .name "using" :: parens a.words

def text? : Payload → Option String
  | absent => none
  | infixed e => some e.text
  | selected a => some a.text

end Payload

/-- Words that stop the machine. -/
inductive StopWord where
  | stop
  | success
  | failure
  deriving DecidableEq

def StopWord.text : StopWord → String
  | stop => "stop"
  | success => "stopSuccess"
  | failure => "stopFailure"

/-- Parentheses that a directive may have. -/
inductive Arguments where
  | absent
  | empty
  | given (a : Argument)

namespace Arguments

def inner : Arguments → List Word
  | absent | empty => []
  | given a => a.words

def words : Arguments → List Word
  | absent => []
  | empty => parens []
  | given a => parens a.words

def text? : Arguments → Option String
  | absent | empty => none
  | given a => some a.text

end Arguments

/-- A directive as it is written. -/
inductive Form where
  /-- `goto(State)` with a payload -/
  | goto (target : DottedName) (payload : Payload)
  /-- `Target.enter(State)` or `Target.enter(State, data)` -/
  | enter (target : DottedName) (data : Option Argument)
  /-- `stay` or `stay()` with a payload -/
  | stay (called : Bool) (payload : Payload)
  /-- `stop`, `stopSuccess` or `stopFailure` with a reason -/
  | stop (word : StopWord) (reason : Arguments)

namespace Form

/-- Second argument behind its comma. -/
def dataWords : Option Argument → List Word
  | none => []
  | some a => .mark "," :: a.words

def words : Form → List Word
  | goto target payload => .name "goto" :: (parens target.words ++ payload.words)
  | enter target data =>
    .name "Target" :: .mark "." :: .name "enter" :: parens (target.words ++ dataWords data)
  | stay called payload => .name "stay" :: ((if called then parens [] else []) ++ payload.words)
  | stop word reason => .name word.text :: reason.words

/-- How far behind its first word a directive names its state. -/
def stateOffset : Form → Nat
  | goto _ _ => 2
  | enter _ _ => 4
  | stay _ _ | stop _ _ => 0

/-- What a directive says. A state that is not declared is named as it is written, and an ambiguous one is
reported at the given place. -/
def action (states : StateIndex) (line column : Option Int) : Form → Except Error Action
  | goto target payload => (states.lookup target.text line column).map fun id =>
      .goto (id.getD target.text) payload.text?
  | enter target data => (states.lookup target.text line column).map fun id =>
      .goto (id.getD target.text) (data.map Argument.text)
  | stay _ payload => .ok (.stay payload.text?)
  | stop word reason => .ok (.stop
      (word == .failure || word == .stop && reason.inner.contains (.name "Failure")) reason.text?)

end Form

/-! ### Dotted names and brackets -/

section Parts

variable {s : Stream} {d i stop : Nat}

lemma says_parens {ws v : List Word} (h : s.Says d i (parens ws ++ v)) (hws : Balanced ws) :
    s.hasMark i "(" = true ∧ s.closer i = .ok (i + 1 + ws.length) ∧
      s.Says (d + 1) (i + 1) (ws ++ .mark ")" :: v) ∧ s.Says d (i + (parens ws).length) v := by
  have hcons : s.Says d i (.mark "(" :: (ws ++ .mark ")" :: v)) := by simpa [parens] using h
  obtain ⟨hclose, hin, hrest⟩ := hcons.bracket (by decide) (by decide) hws
  refine ⟨hcons.hasMark, hclose, hin, ?_⟩
  rwa [show i + (parens ws).length = i + 1 + ws.length + 1 by simp [parens]; omega]

lemma length_parens (ws : List Word) : (parens ws).length = ws.length + 2 := by simp [parens]

lemma dottedTail_of_tailWords {xs : List String} (h : s.Says d i (DottedName.tailWords xs)) (fuel : Nat) :
    s.dottedTail (xs.length + fuel) i = xs ++ s.dottedTail fuel (i + 2 * xs.length) := by
  induction xs generalizing i with
  | nil => simp
  | cons x xs ih =>
    obtain ⟨t, ht, htw, -⟩ := h.head (by decide)
    have hname := h.tail Word.isPlain_dot
    obtain ⟨t', ht', htw', -⟩ := hname.head rfl
    rw [List.length_cons, Nat.add_right_comm, Stream.dottedTail, ht, ht']
    simp only
    rw [Lexeme.isMark_iff.mpr htw, Lexeme.isIdentifier_of_word htw', Bool.true_and, if_pos rfl,
      ih (hname.tail rfl), show t'.text = x from congrArg Word.text htw', List.cons_append,
      show i + 1 + 1 + 2 * xs.length = i + 2 * (xs.length + 1) by omega]

/-- A name is read at least as far as it is said, and no further if no dot comes behind it. -/
lemma dotted_of_words {n : DottedName} (h : s.Says d i n.words) :
    (∃ text next, s.dotted i = .ok (text, next) ∧ i + n.words.length ≤ next) ∧
    (s.hasMark (i + n.words.length) "." = false →
      s.dotted i = .ok (n.text, i + n.words.length)) := by
  obtain ⟨t, ht, htw, -⟩ := h.head rfl
  have htail := h.tail rfl
  have hsize := htail.le_size
  have hlength := n.length_words
  rw [DottedName.length_tailWords] at hsize
  have hread := dottedTail_of_tailWords htail (s.size - n.others.length)
  rw [show n.others.length + (s.size - n.others.length) = s.size by omega,
    show i + 1 + 2 * n.others.length = i + n.words.length by omega] at hread
  have hdotted := Stream.dotted_of_get? ht
  rw [hread] at hdotted
  refine ⟨⟨_, _, hdotted, ?_⟩, fun hno => ?_⟩
  · rw [List.length_append]
    omega
  · have hend : s.dottedTail (s.size - n.others.length) (i + n.words.length) = [] := by
      cases hu : s.get? (i + n.words.length) with
      | none => exact Stream.dottedTail_of_none hu
      | some u =>
        rw [Stream.Says.hasMark_of_word hu] at hno
        exact Stream.dottedTail_of_some hu hno
    rw [hend, List.append_nil, show t.text = n.first from congrArg Word.text htw] at hdotted
    rw [hdotted, hlength, show i + 1 + 2 * n.others.length = i + (1 + 2 * n.others.length) by omega]
    rfl

lemma Bracketed.isOpening (b : Bracketed) : b.opening.isOpening = true := by
  unfold opening
  cases b.square <;> decide

lemma Bracketed.closes?_closing (b : Bracketed) : b.closing.closes? = some b.opening.text := by
  unfold opening closing
  cases b.square <;> decide

lemma Bracketed.balanced_words (b : Bracketed) : Balanced b.words :=
  Balanced.bracket b.isOpening b.closes?_closing b.balanced

lemma Bracketed.length_words (b : Bracketed) : b.words.length = b.inner.length + 2 := by
  simp [words]

lemma skipArgumentsFrom_of_groups {groups : List Bracketed} {fuel : Nat}
    (h : s.Says d i (groups.flatMap Bracketed.words)) (hfuel : groups.length ≤ fuel)
    (hstop : stop = i + (groups.flatMap Bracketed.words).length) :
    s.skipArgumentsFrom stop fuel i = .ok stop := by
  induction groups generalizing i fuel with
  | nil =>
    obtain rfl : stop = i := by simpa using hstop
    cases fuel with
    | zero => rfl
    | succ fuel => rw [Stream.skipArgumentsFrom, if_neg (lt_irrefl _)]
  | cons b groups ih =>
    obtain ⟨fuel, rfl⟩ : ∃ n, fuel = n + 1 := ⟨fuel - 1, by rw [List.length_cons] at hfuel; omega⟩
    rw [List.flatMap_cons] at h hstop
    have hrest := h.right_of_balanced b.balanced_words
    have hcons : s.Says d i (b.opening :: (b.inner ++ b.closing :: groups.flatMap Bracketed.words)) := by
      simpa [Bracketed.words] using h
    obtain ⟨t, ht, htw, -⟩ := hcons.head (Word.closes?_eq_none_of_isOpening b.isOpening)
    obtain ⟨hclose, -, -⟩ := hcons.bracket b.isOpening b.closes?_closing b.balanced
    have hopens : (t.isMark "(" || t.isMark "[") = true := by
      rw [Bool.or_eq_true, Lexeme.isMark_iff, Lexeme.isMark_iff, htw, Bracketed.opening]
      cases b.square <;> simp
    have hlength := b.length_words
    rw [List.length_append] at hstop
    rw [List.length_cons] at hfuel
    rw [show i + b.words.length = i + 1 + b.inner.length + 1 by omega] at hrest
    rw [Stream.skipArgumentsFrom, if_pos (by omega), Stream.token_eq_ok_iff.mpr ht]
    simp only [Bind.bind, Except.bind]
    rw [if_pos hopens, hclose]
    exact ih hrest (by omega) (by omega)

end Parts

/-! ### Payloads -/

section Payloads

variable {s : Stream} {d i : Nat}

lemma payloadAt?_of_get? {t : Token} {stop : Nat} (ht : s.get? i = some t) (hlt : i < stop) :
    payloadAt? s i stop = if t.isMark "." then usingCall? s i stop
      else if t.isWord "using" then usingWord? s i stop else .ok none := by
  unfold payloadAt?
  rw [if_neg (by omega), ht]

lemma payloadAt?_of_ge {stop : Nat} (h : stop ≤ i) : payloadAt? s i stop = .ok none := by
  unfold payloadAt?
  rw [if_pos h]

lemma skipArguments_of_le {next stop : Nat} (h : stop ≤ next) : s.skipArguments next stop = .ok next := by
  unfold Stream.skipArguments
  cases s.size with
  | zero => rfl
  | succ n => rw [Stream.skipArgumentsFrom, if_neg (by omega)]

lemma length_groups_le (groups : List Bracketed) :
    groups.length ≤ (groups.flatMap Bracketed.words).length := by
  have hsum := List.length_le_sum_of_one_le (groups.map fun b => b.words.length) fun n hn => by
    obtain ⟨b, -, rfl⟩ := List.mem_map.mp hn
    rw [b.length_words]
    omega
  rwa [List.length_map, ← List.length_flatMap] at hsum

/-- Expressions that end a range are read to its end: a bracket ends the name, or the range does and the
name may be read beyond that. -/
lemma exists_skip_of_words {e : Expression} (h : s.Says d i e.words) : ∃ text next last,
    s.dotted i = .ok (text, next) ∧ s.skipArguments next (i + e.words.length) = .ok last ∧
      min last (i + e.words.length) = i + e.words.length := by
  have hgroups : s.Says d (i + e.name.words.length) (e.groups.flatMap Bracketed.words) :=
    h.right_of_balanced e.name.balanced_words
  have hlength : e.words.length = e.name.words.length + (e.groups.flatMap Bracketed.words).length := by
    rw [Expression.words, List.length_append]
  obtain ⟨⟨text, next, hread, hnext⟩, hexact⟩ := dotted_of_words h.left
  cases hcases : e.groups with
  | nil =>
    rw [hcases, List.flatMap_nil, List.length_nil] at hlength
    exact ⟨text, next, next, hread, skipArguments_of_le (by omega), Nat.min_eq_right (by omega)⟩
  | cons b groups =>
    have hdot : s.hasMark (i + e.name.words.length) "." = false := by
      rw [hcases, List.flatMap_cons, Bracketed.words, List.cons_append] at hgroups
      obtain ⟨u, hu, huw, -⟩ := hgroups.head (Word.closes?_eq_none_of_isOpening b.isOpening)
      rw [Stream.Says.hasMark_of_word hu]
      refine Bool.eq_false_iff.mpr (mt Lexeme.isMark_iff.mp ?_)
      rw [huw, Bracketed.opening]
      cases b.square <;> decide
    have hle := length_groups_le e.groups
    have hsize := hgroups.le_size
    exact ⟨e.name.text, _, _, hexact hdot, skipArgumentsFrom_of_groups hgroups (by omega) (by omega),
      Nat.min_self _⟩

lemma usingWord?_of_words {e : Expression} (h : s.Says d i (.name "using" :: e.words)) :
    usingWord? s i (i + 1 + e.words.length) = .ok (some e.text) := by
  have hexpression := h.tail rfl
  have hname : s.Says d (i + 1) e.name.words := hexpression.left
  have hlength : e.name.words.length ≤ e.words.length := by
    rw [Expression.words, List.length_append]
    omega
  have hnamed := e.name.length_words
  obtain ⟨t, ht, htw, -⟩ := hname.head rfl
  obtain ⟨text, next, last, hread, hlast, hmin⟩ := exists_skip_of_words hexpression
  have htext := hexpression.text
  unfold usingWord?
  rw [if_pos (by omega), Stream.token_eq_ok_iff.mpr ht]
  simp only [Bind.bind, Except.bind]
  rw [if_pos (Lexeme.isIdentifier_of_word htw), hread]
  simp only
  rw [hlast]
  simp only
  rw [hmin, htext]
  rfl

lemma nonempty?_text (a : Argument) : Branch.nonempty? (textOfWords a.words) = some a.text :=
  Branch.nonempty?_of_ne a.text_ne

lemma usingCall?_of_words {a : Argument}
    (h : s.Says d i (.mark "." :: .name "using" :: parens a.words)) :
    usingCall? s i (i + 2 + (parens a.words).length) = .ok (some a.text) := by
  have hword := h.tail Word.isPlain_dot
  obtain ⟨t, ht, htw, -⟩ := hword.head rfl
  obtain ⟨hparen, hclose, hin, -⟩ :=
    says_parens ((List.append_nil (parens a.words)).symm ▸ hword.tail rfl) a.balanced
  obtain ⟨u, hu, hmark⟩ := (Option.any_eq_true _ _).mp (Stream.hasMark_eq_any s _ _ ▸ hparen)
  have htext := hin.left.text
  have hlength := length_parens a.words
  unfold usingCall?
  rw [if_pos (by omega), Stream.token_eq_ok_iff.mpr ht, Stream.token_eq_ok_iff.mpr hu]
  simp only [Bind.bind, Except.bind]
  rw [Lexeme.isWord_iff.mpr htw, hmark, Bool.and_self, if_pos rfl, hclose]
  simp only
  rw [htext, nonempty?_text]

/-- A payload that fills the rest of the range is read. -/
theorem payloadAt?_of_words {p : Payload} (h : s.Says d i p.words) :
    payloadAt? s i (i + p.words.length) = .ok p.text? := by
  cases p with
  | absent => exact payloadAt?_of_ge (le_refl _)
  | infixed e =>
    obtain ⟨t, ht, htw, -⟩ := h.head rfl
    have hdot : t.isMark "." = false :=
      Bool.eq_false_iff.mpr (mt Lexeme.isMark_iff.mp (by rw [htw]; decide))
    rw [payloadAt?_of_get? ht (by simp [Payload.words]), hdot, if_neg Bool.false_ne_true,
      if_pos (Lexeme.isWord_iff.mpr htw)]
    have hread := usingWord?_of_words h
    rwa [show i + 1 + e.words.length = i + (Payload.infixed e).words.length by
      rw [Payload.words, List.length_cons]; omega] at hread
  | selected a =>
    obtain ⟨t, ht, htw, -⟩ := h.head (by decide)
    rw [payloadAt?_of_get? ht (by simp [Payload.words]), if_pos (Lexeme.isMark_iff.mpr htw)]
    have hread := usingCall?_of_words h
    rwa [show i + 2 + (parens a.words).length = i + (Payload.selected a).words.length by
      rw [Payload.words, List.length_cons, List.length_cons]; omega] at hread

end Payloads

/-! ### Directives -/

section Forms

variable {s : Stream} {states : StateIndex} {d i : Nat}

variable (states) in
lemma target?_of_words {n : DottedName} {ws v : List Word} (h : s.Says d i (parens (n.words ++ ws) ++ v))
    (hws : Balanced ws) (hdot : ws.head? ≠ some (.mark ".")) :
    ∃ t, s.get? (i + 1) = some t ∧ target? s states i =
      (states.lookup n.text (some t.line) (some t.column)).map fun id => some (id.getD n.text) := by
  obtain ⟨-, hclose, hin, -⟩ := says_parens h (n.balanced_words.append hws)
  rw [List.append_assoc] at hin
  have hname := hin.left
  have hend : s.hasMark (i + 1 + n.words.length) "." = false := by
    have hrest := hin.right_of_balanced n.balanced_words
    obtain ⟨u, hu, huw⟩ := hrest.get?_of_lt (le_refl _) (by simp)
    rw [Stream.Says.hasMark_of_word hu]
    refine Bool.eq_false_iff.mpr fun hmark => hdot ?_
    rw [Lexeme.isMark_iff] at hmark
    rw [Nat.sub_self, hmark] at huw
    cases ws with
    | nil => simp [Word.mark] at huw
    | cons w ws => simpa using huw
  obtain ⟨t, ht, htw, -⟩ := hname.head rfl
  have hnamed := n.length_words
  have hfirst : (decide (i + 1 + (n.words ++ ws).length ≤ i + 1) || !t.isIdentifier) = false := by
    rw [Lexeme.isIdentifier_of_word htw, decide_eq_false (by rw [List.length_append]; omega)]
    rfl
  refine ⟨t, ht, ?_⟩
  unfold target?
  rw [hclose]
  simp only [Bind.bind, Except.bind]
  rw [ht]
  simp only
  rw [hfirst, (dotted_of_words hname).2 hend]
  simp only
  cases states.lookup n.text (some t.line) (some t.column) <;> rfl

variable (states) in
lemma goto?_of_words {target : DottedName} {payload : Payload}
    (h : s.Says d i (Form.goto target payload).words) :
    ∃ t, s.get? (i + 2) = some t ∧ goto? s states i (i + (Form.goto target payload).words.length) =
      ((Form.goto target payload).action states (some t.line) (some t.column)).map some := by
  have hparens : s.Says d (i + 1) (parens (target.words ++ []) ++ payload.words) := by
    rw [List.append_nil]
    exact h.tail rfl
  obtain ⟨t, ht, htarget⟩ := target?_of_words states hparens balanced_nil (by simp)
  rw [List.append_nil] at hparens
  obtain ⟨-, hclose, -, hrest⟩ := says_parens hparens target.balanced_words
  have hpayload := payloadAt?_of_words hrest
  have hlength := length_parens target.words
  rw [show i + 1 + (parens target.words).length = i + 1 + 1 + target.words.length + 1 by omega,
    show i + 1 + 1 + target.words.length + 1 + payload.words.length =
      i + (Form.goto target payload).words.length by
    simp only [Form.words, List.length_cons, List.length_append]; omega] at hpayload
  refine ⟨t, ht, ?_⟩
  unfold goto?
  rw [htarget, hclose, Form.action]
  cases states.lookup target.text (some t.line) (some t.column) with
  | error e => rfl
  | ok id =>
    simp only [Bind.bind, Except.bind, Except.map]
    rw [hpayload]

lemma firstArgumentEnd_of_words {n : DottedName} {data : Option Argument} {v : List Word}
    (h : s.Says d i (n.words ++ Form.dataWords data ++ v)) :
    s.firstArgumentEnd i (i + (n.words ++ Form.dataWords data).length) =
      .ok (i + n.words.length) := by
  have hname := h.left.left
  have hnamed := n.length_words
  have hrange := h.left.range
  obtain ⟨t, ht, -, htd⟩ := hname.head rfl
  have hnone : ((s.part i n.words.length).find? fun x => x.2.depth == t.depth && x.2.isMark ",") =
      none := by
    rw [List.find?_eq_none]
    intro x hx hcomma
    rw [Bool.and_eq_true, beq_iff_eq, Lexeme.isMark_iff, htd] at hcomma
    refine hname.not_at_depth n.balanced_words (by decide) ?_ hx hcomma.1 hcomma.2
    rw [(balanced_of_isPlain n.isPlain_words).2]
    intro hmem
    rcases DottedName.mem_words hmem with hdot | ⟨x, -, hname⟩
    · exact absurd hdot (by decide)
    · cases hname
  have hdepth : s.depthAt i (i + (n.words ++ Form.dataWords data).length) = .ok t.depth := by
    rw [Stream.depthAt, if_pos (by rw [List.length_append]; omega), Stream.token_eq_ok_iff.mpr ht]
    rfl
  unfold Stream.firstArgumentEnd
  rw [hdepth, hrange]
  simp only [Bind.bind, Except.bind]
  rw [List.length_append, Stream.part_add, List.find?_append, hnone, Option.none_or]
  cases data with
  | none => simp [Form.dataWords, Stream.part]
  | some a =>
    rw [List.append_assoc] at h
    obtain ⟨u, hu, huw, hud⟩ := (h.right_of_balanced n.balanced_words).head (by decide)
    rw [Form.dataWords, List.length_cons, Stream.part_succ hu, List.find?_cons_of_pos]
    · rfl
    · rw [Bool.and_eq_true, beq_iff_eq, Lexeme.isMark_iff]
      exact ⟨hud.trans htd.symm, huw⟩

lemma balanced_dataWords : ∀ data, Balanced (Form.dataWords data)
  | none => balanced_nil
  | some a => a.balanced.cons (by decide)

variable (states) in
lemma enter?_of_words {target : DottedName} {data : Option Argument}
    (h : s.Says d i (Form.enter target data).words) :
    ∃ t, s.get? (i + 4) = some t ∧ enter? s states i =
      ((Form.enter target data).action states (some t.line) (some t.column)).map some := by
  have hdot := h.tail rfl
  have henter := hdot.tail Word.isPlain_dot
  have hparens := (List.append_nil (parens (target.words ++ Form.dataWords data))).symm ▸ henter.tail rfl
  have hbalanced := balanced_dataWords data
  obtain ⟨u, hu, huw, -⟩ := hdot.head (by decide)
  obtain ⟨v, hv, hvw, -⟩ := henter.head rfl
  obtain ⟨hparen, hclose, hin, -⟩ := says_parens hparens (target.balanced_words.append hbalanced)
  obtain ⟨w, hw, hmark⟩ := (Option.any_eq_true _ _).mp (Stream.hasMark_eq_any s _ _ ▸ hparen)
  obtain ⟨t, ht, htarget⟩ := target?_of_words states hparens hbalanced
    (by cases data <;> simp [Form.dataWords, Word.mark])
  have hcomma := firstArgumentEnd_of_words hin
  refine ⟨t, ht, ?_⟩
  unfold enter?
  rw [Form.action, Stream.token_eq_ok_iff.mpr hu, Stream.token_eq_ok_iff.mpr hv,
    Stream.token_eq_ok_iff.mpr hw]
  simp only [Bind.bind, Except.bind]
  rw [Lexeme.isMark_iff.mpr huw, Lexeme.isWord_iff.mpr hvw, hmark, Bool.and_self, Bool.and_self,
    if_pos rfl, show i + 3 = i + 1 + 1 + 1 from rfl, htarget]
  cases states.lookup target.text (some t.line) (some t.column) with
  | error e => rfl
  | ok id =>
    simp only [Except.map]
    rw [hclose]
    simp only
    rw [show i + 4 = i + 1 + 1 + 1 + 1 from rfl, hcomma]
    simp only
    cases data with
    | none =>
      rw [Form.dataWords, List.append_nil, if_neg (lt_irrefl _)]
      rfl
    | some a =>
      rw [if_pos (by simp [Form.dataWords])]
      have hdata := (((hin.left).right_of_balanced target.balanced_words).tail (by decide)).text
      rw [show i + 1 + 1 + 1 + 1 + target.words.length + 1 + a.words.length =
        i + 1 + 1 + 1 + 1 + (target.words ++ Form.dataWords (some a)).length by
        simp [Form.dataWords]; omega] at hdata
      rw [hdata, nonempty?_text]
      rfl

lemma stay_of_words {called : Bool} {payload : Payload} (h : s.Says d i (Form.stay called payload).words) :
    Directive.stay s called i (i + (Form.stay called payload).words.length) =
      .ok (.stay payload.text?) := by
  have hrest := h.tail rfl
  cases called with
  | false =>
    have hpayload := payloadAt?_of_words (p := payload) hrest
    rw [show i + 1 + payload.words.length = i + (Form.stay false payload).words.length by
      simp [Form.words]; omega] at hpayload
    unfold Directive.stay
    rw [if_neg Bool.false_ne_true, hpayload]
    rfl
  | true =>
    have hempty : s.Says d (i + 1) (parens [] ++ payload.words) := hrest
    obtain ⟨-, hclose, -, hpayload⟩ := says_parens hempty balanced_nil
    have hpayload := payloadAt?_of_words (p := payload) hpayload
    rw [show i + 1 + (parens []).length + payload.words.length =
      i + (Form.stay true payload).words.length by simp [Form.words]; omega] at hpayload
    unfold Directive.stay
    rw [if_pos rfl, hclose]
    simp only [Bind.bind, Except.bind]
    rw [show i + 1 + 1 + ([] : List Word).length + 1 = i + 1 + (parens []).length from rfl, hpayload]
    rfl

lemma any_isWord_slice {ws : List Word} (h : s.Says d i ws) (x : String) :
    (s.slice i (i + ws.length)).any (fun t => t.isWord x) = ws.contains (.name x) := by
  rw [Bool.eq_iff_iff, List.any_eq_true, List.contains_iff_mem]
  conv_rhs => rw [← h.slice_words, List.mem_map]
  simp only [Lexeme.isWord_iff]

lemma stop_of_words {word : StopWord} {reason : Arguments} (h : s.Says d i (Form.stop word reason).words) :
    Directive.stop s word.text (decide (1 < (Form.stop word reason).words.length)) i =
      .ok (.stop (word == .failure || word == .stop && reason.inner.contains (.name "Failure"))
        reason.text?) := by
  have hfailure : (word.text == "stopFailure") = (word == .failure) := by cases word <;> decide
  have hstop : (word.text == "stop") = (word == .stop) := by cases word <;> decide
  have hrest := h.tail rfl
  unfold Directive.stop
  rw [hfailure, hstop]
  -- Empty parentheses differ from given arguments in the reason only.
  have hparens : ∀ ws, s.Says d (i + 1) (parens ws) → Balanced ws →
      s.closer (i + 1) = .ok (i + 2 + ws.length) ∧ s.Says (d + 1) (i + 2) ws := by
    intro ws hsays hws
    obtain ⟨-, hclose, hin, -⟩ := says_parens ((List.append_nil (parens ws)).symm ▸ hsays) hws
    exact ⟨hclose, hin.left⟩
  cases reason with
  | absent =>
    rw [if_neg (by simp [Form.words, Arguments.words])]
    simp [Arguments.inner, Arguments.text?]
  | empty =>
    obtain ⟨hclose, hin⟩ := hparens [] hrest balanced_nil
    rw [if_pos (by simp [Form.words, Arguments.words, parens]), hclose]
    simp only [Bind.bind, Except.bind]
    rw [any_isWord_slice hin, hin.text]
    rfl
  | given a =>
    obtain ⟨hclose, hin⟩ := hparens a.words hrest a.balanced
    rw [if_pos (by simp [Form.words, Arguments.words, parens]), hclose]
    simp only [Bind.bind, Except.bind]
    rw [any_isWord_slice hin, hin.text, nonempty?_text]
    rfl

lemma at?_of_word {t : Token} {x : String} {stop : Nat} (ht : s.get? i = some t) (htw : t.word = .name x)
    (hdot : s.followsMark i "." = false) : at? s states i stop =
      let hasCall := decide (i + 1 < stop) && s.hasMark (i + 1) "("
      if x == "goto" && hasCall then goto? s states i stop
      else if x == "Target" && decide (i + 3 < stop) then enter? s states i
      else if x == "stay" then (Directive.stay s hasCall i stop).map some
      else if ["stop", "stopSuccess", "stopFailure"].contains x then
        (Directive.stop s x hasCall i).map some
      else .ok none := by
  have htext : t.text = x := congrArg Word.text htw
  unfold at?
  rw [Stream.token_eq_ok_iff.mpr ht]
  simp only [Bind.bind, Except.bind]
  rw [Lexeme.isIdentifier_of_word htw, hdot, htext]
  rfl

lemma called_of_stay {called : Bool} {payload : Payload}
    (h : s.Says d i (Form.stay called payload).words) :
    (decide (i + 1 < i + (Form.stay called payload).words.length) && s.hasMark (i + 1) "(") = called := by
  cases called with
  | true =>
    have hempty : s.Says d (i + 1) (parens [] ++ payload.words) := h.tail rfl
    obtain ⟨hparen, -⟩ := says_parens hempty balanced_nil
    rw [hparen, decide_eq_true (by simp [Form.words, parens])]
    rfl
  | false =>
    cases payload with
    | absent =>
      rw [decide_eq_false (by simp [Form.words, Payload.words])]
      rfl
    | infixed e =>
      obtain ⟨u, hu, huw, -⟩ := (h.tail rfl).head rfl
      rw [Stream.Says.hasMark_of_word hu, Bool.eq_false_iff.mpr (mt Lexeme.isMark_iff.mp
        (by rw [huw]; decide)), Bool.and_false]
    | selected a =>
      obtain ⟨u, hu, huw, -⟩ := (h.tail rfl).head (by decide)
      rw [Stream.Says.hasMark_of_word hu, Bool.eq_false_iff.mpr (mt Lexeme.isMark_iff.mp
        (by rw [huw]; decide)), Bool.and_false]

/-- Parentheses come behind a word for stopping unless it is all that the range has. -/
lemma called_of_stop {word : StopWord} {reason : Arguments} (h : s.Says d i (Form.stop word reason).words) :
    (decide (i + 1 < i + (Form.stop word reason).words.length) && s.hasMark (i + 1) "(") =
      decide (1 < (Form.stop word reason).words.length) := by
  have hparens : ∀ ws, s.Says d (i + 1) (parens ws) → s.hasMark (i + 1) "(" = true :=
    fun ws hsays => Stream.Says.hasMark hsays
  have hlt : decide (i + 1 < i + (Form.stop word reason).words.length) =
      decide (1 < (Form.stop word reason).words.length) := decide_eq_decide.mpr (by omega)
  rw [hlt]
  cases reason with
  | absent => rfl
  | empty => rw [hparens _ (h.tail rfl), Bool.and_true]
  | given a => rw [hparens _ (h.tail rfl), Bool.and_true]

variable (states) in
/-- Every form that fills a range is read as what it says. -/
theorem at?_of_says {f : Form} (h : s.Says d i f.words) (hdot : s.followsMark i "." = false) :
    ∃ t, s.get? (i + f.stateOffset) = some t ∧ at? s states i (i + f.words.length) =
      (f.action states (some t.line) (some t.column)).map some := by
  cases f with
  | goto target payload =>
    obtain ⟨t, ht, htw, -⟩ := h.head rfl
    obtain ⟨hparen, -⟩ := says_parens (h.tail rfl) target.balanced_words
    obtain ⟨u, hu, hread⟩ := goto?_of_words states h
    refine ⟨u, hu, ?_⟩
    rw [at?_of_word ht htw hdot, hparen, decide_eq_true (by simp [Form.words, parens]), ← hread]
    rfl
  | enter target data =>
    obtain ⟨t, ht, htw, -⟩ := h.head rfl
    obtain ⟨u, hu, hread⟩ := enter?_of_words states h
    refine ⟨u, hu, ?_⟩
    have hlt : decide (i + 3 < i + (Form.enter target data).words.length) = true :=
      decide_eq_true (by simp [Form.words, parens])
    rw [at?_of_word ht htw hdot, hlt, ← hread]
    rfl
  | stay called payload =>
    obtain ⟨t, ht, htw, -⟩ := h.head rfl
    refine ⟨t, ht, ?_⟩
    rw [at?_of_word ht htw hdot, called_of_stay h]
    exact congrArg (Except.map some) (stay_of_words h)
  | stop word reason =>
    obtain ⟨t, ht, htw, -⟩ := h.head rfl
    refine ⟨t, ht, ?_⟩
    rw [at?_of_word ht htw hdot, called_of_stop h]
    have hread := stop_of_words h
    cases word <;> exact congrArg (Except.map some) hread

/-- Every form that fills a range of a text, and is no part of a selection, is read as what it says.
Reading it fails if and only if the state that it names is ambiguous, and reports this where the state is
named. -/
theorem at?_reads_form (f : Form) (states : StateIndex) (before body after : List Lexeme)
    (hbody : wordsOf body = f.words) (hdot : ∀ t ∈ before.getLast?, t.word ≠ .mark ".") :
    let s := Stream.ofLexemes (before ++ (body ++ after))
    ∃ t, s.get? (before.length + f.stateOffset) = some t ∧
      at? s states before.length (before.length + body.length) =
        (f.action states (some t.line) (some t.column)).map some := by
  intro s
  have hsays : s.Says (levelAfter before) before.length f.words :=
    ⟨before, body, after, rfl, rfl, rfl, hbody⟩
  have hlen : body.length = f.words.length := by rw [← hbody, wordsOf, List.length_map]
  rw [hlen]
  exact at?_of_says states hsays (Stream.followsMark_ofLexemes (body ++ after) hdot)

/-- The form `Target.enter(Busy, f(n, 1))`. -/
def enterBusy : Form :=
  .enter ⟨"Busy", []⟩
    (some ⟨[.name "f", .mark "(", .name "n", .mark ",", ⟨.number, "1"⟩, .mark ")"], by decide, by decide⟩)

theorem at?_enterBusy :
    at? (Stream.ofLexemes ([⟨.operator, "=>", .start⟩] ++
        (enterBusy.words.map (fun w => ⟨w.kind, w.text, .start⟩) ++ [⟨.mark, ";", .start⟩])))
      ⟨[⟨some "Gate", "Busy", "Gate.Busy", 1, 8⟩]⟩ 1 (1 + 13) =
        .ok (some (.goto "Gate.Busy" (some "f(n, 1)"))) := by
  obtain ⟨t, -, hread⟩ := at?_reads_form enterBusy ⟨[⟨some "Gate", "Busy", "Gate.Busy", 1, 8⟩]⟩
    [⟨.operator, "=>", .start⟩] (enterBusy.words.map fun w => ⟨w.kind, w.text, .start⟩)
    [⟨.mark, ";", .start⟩] (by decide) (by decide)
  exact hread

end Forms

end Directive

/-! ### Leaves -/

namespace Leaf

/-- The directive that a leaf of a tree is. -/
def form : Leaf → Directive.Form
  | goto target => .goto target .absent
  | stay => .stay true .absent
  | stop => .stop .stop .empty

lemma words_form (l : Leaf) : l.form.words = l.words := by
  cases l with
  | goto target => exact congrArg (fun ws => Word.name "goto" :: ws) (List.append_nil _)
  | stay => rfl
  | stop => rfl

end Leaf

end ActorDiagram
