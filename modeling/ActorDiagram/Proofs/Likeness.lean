import Mathlib
import ActorDiagram.Proofs.Results
import ActorDiagram.Proofs.Nesting

/-!
# Runs that agree

When two runs over alike tokens agree: both succeed with related results, or both fail for the same
cause. A `Likeness` says how far tokens are alike, and which places of the two texts correspond.
-/

namespace ActorDiagram

/-- How far two texts are alike: whether literals are written alike too, and which places
correspond. -/
structure Likeness where
  exact : Prop
  place : Position → Position → Prop

namespace Likeness

/-- Lines of corresponding places. -/
def Line (σ : Likeness) (a b : Int) : Prop := ∃ p q, σ.place p q ∧ a = p.line ∧ b = q.line

/-- Failures for one cause, at corresponding places. -/
inductive Fault (σ : Likeness) : Error → Error → Prop
  | source (cause : Cause) {p q : Position} (h : σ.place p q) :
    Fault σ (.source cause (some p.line) (some p.column))
      (.source cause (some q.line) (some q.column))
  | atLine (cause : Cause) {a b : Int} (h : σ.Line a b) :
    Fault σ (.source cause (some a) none) (.source cause (some b) none)
  | nowhere (cause : Cause) : Fault σ (.source cause none none) (.source cause none none)
  | emptyIdentifier : Fault σ .emptyIdentifier .emptyIdentifier
  | noToken : Fault σ .noToken .noToken
  | helperCallLeft (name : String) : Fault σ (.helperCallLeft name) (.helperCallLeft name)
  | unknownNode (id : String) : Fault σ (.unknownNode id) (.unknownNode id)

/-- Both runs succeed with related results, or both fail for the same cause. -/
def Agree (σ : Likeness) {α β : Type} (R : α → β → Prop) : Except Error α → Except Error β → Prop
  | .ok a, .ok b => R a b
  | .error e, .error e' => σ.Fault e e'
  | _, _ => False

end Likeness

/-! ### Agreement -/

section Agree

open Likeness

variable {σ : Likeness} {α β γ δ : Type} {R : α → β → Prop} {S : γ → δ → Prop}
  {x : Except Error α} {y : Except Error β}

lemma Agree.bind {f : α → Except Error γ} {g : β → Except Error δ} (h : σ.Agree R x y)
    (hf : ∀ a b, R a b → σ.Agree S (f a) (g b)) : σ.Agree S (x >>= f) (y >>= g) := by
  cases x with
  | error e =>
    cases y with
    | error e' => exact h
    | ok b => exact h.elim
  | ok a =>
    cases y with
    | error e' => exact h.elim
    | ok b => exact hf a b h

lemma Agree.map {f : α → γ} {g : β → δ} (h : σ.Agree R x y) (hf : ∀ a b, R a b → S (f a) (g b)) :
    σ.Agree S (x.map f) (y.map g) := by
  cases x with
  | error e =>
    cases y with
    | error e' => exact h
    | ok b => exact h.elim
  | ok a =>
    cases y with
    | error e' => exact h.elim
    | ok b => exact hf a b h

lemma Agree.imp {R' : α → β → Prop} (h : σ.Agree R x y) (hr : ∀ a b, R a b → R' a b) :
    σ.Agree R' x y := by
  cases x with
  | error e =>
    cases y with
    | error e' => exact h
    | ok b => exact h.elim
  | ok a =>
    cases y with
    | error e' => exact h.elim
    | ok b => exact hr a b h

lemma Agree.of_ok {a : α} {b : β} (hx : x = .ok a) (hy : y = .ok b) (h : R a b) :
    σ.Agree R x y := by
  rw [hx, hy]
  exact h

lemma Agree.cases (h : σ.Agree R x y) :
    (∃ a b, x = .ok a ∧ y = .ok b ∧ R a b) ∨ ∃ e e', x = .error e ∧ y = .error e' ∧ σ.Fault e e' := by
  cases x with
  | error e =>
    cases y with
    | error e' => exact .inr ⟨e, e', rfl, rfl, h⟩
    | ok b => exact h.elim
  | ok a =>
    cases y with
    | error e' => exact h.elim
    | ok b => exact .inl ⟨a, b, rfl, rfl, h⟩

lemma Agree.mapM {f : α → Except Error γ} {g : β → Except Error δ} {l : List α} {l' : List β}
    (h : List.Forall₂ (fun a b => σ.Agree S (f a) (g b)) l l') :
    σ.Agree (List.Forall₂ S) (l.mapM f) (l'.mapM g) := by
  induction h with
  | nil => exact List.Forall₂.nil
  | cons hab _ ih =>
    rw [List.mapM_cons, List.mapM_cons]
    apply Agree.bind hab
    intro c d hcd
    apply Agree.bind ih
    intro cs ds hcds
    exact List.Forall₂.cons hcd hcds

end Agree

/-! ### Options and lists -/

lemma exists_of_rel_some {α β : Type} {R : α → β → Prop} {a : α} {y : Option β}
    (h : Option.Rel R (some a) y) : ∃ b, y = some b ∧ R a b := by
  cases h with
  | some h => exact ⟨_, rfl, h⟩

lemma eq_none_of_rel_none {α β : Type} {R : α → β → Prop} {y : Option β}
    (h : Option.Rel R none y) : y = none := by
  cases h with
  | none => rfl

section Lists

variable {α β : Type} {R : α → β → Prop} {l : List α} {l' : List β}

lemma find?_of_forall₂ {f : α → Bool} {g : β → Bool} (h : List.Forall₂ R l l')
    (hfg : ∀ a b, R a b → f a = g b) : Option.Rel R (l.find? f) (l'.find? g) := by
  induction h with
  | nil => exact .none
  | cons hab _ ih =>
    rw [List.find?_cons, List.find?_cons, ← hfg _ _ hab]
    cases f _ with
    | true => exact .some hab
    | false => exact ih

lemma map_eq_of_forall₂ {γ : Type} {f : α → γ} {g : β → γ} (h : List.Forall₂ R l l')
    (hfg : ∀ a b, R a b → f a = g b) : l.map f = l'.map g := by
  induction h with
  | nil => rfl
  | cons hab _ ih => rw [List.map_cons, List.map_cons, hfg _ _ hab, ih]

end Lists

/-! ### Alike tokens -/

/-- A literal: what it says matters to nothing but the texts shown. -/
def TokenKind.isLiteral : TokenKind → Bool
  | .number | .string | .character => true
  | .identifier | .mark | .operator => false

/-- Lexemes that say the same at corresponding places. -/
structure Lexeme.Alike (σ : Likeness) (t t' : Lexeme) : Prop where
  kind : t.kind = t'.kind
  text : t.kind.isLiteral = false ∨ σ.exact → t.text = t'.text
  place : σ.place t.start t'.start

/-- Alike tokens, the first under `above` brackets and the second under `above'` of those that do not
count. -/
structure Token.Alike (σ : Likeness) (above above' : Nat) (t t' : Token) : Prop
    extends Lexeme.Alike σ t.toLexeme t'.toLexeme where
  depth : t.depth + above' = t'.depth + above

namespace Lexeme.Alike

variable {σ : Likeness} {t t' : Lexeme}

/-- A test on kind and text gives the same when the kind is that of no literal. -/
lemma test (h : t.Alike σ t') (k : TokenKind) (hk : k.isLiteral = false) (p : String → Bool) :
    (t.kind == k && p t.text) = (t'.kind == k && p t'.text) := by
  rw [← h.kind]
  by_cases hkind : t.kind = k
  · rw [h.text (.inl (by rw [hkind, hk]))]
  · rw [beq_false_of_ne hkind]
    rfl

lemma text_of_kind (h : t.Alike σ t') {k : TokenKind} (hkind : t.kind = k)
    (hk : k.isLiteral = false) : t.text = t'.text :=
  h.text (.inl (by rw [hkind, hk]))

lemma isOpening (h : t.Alike σ t') : t.word.isOpening = t'.word.isOpening :=
  h.test .mark rfl fun x => (closingOf? x).isSome

lemma closes? (h : t.Alike σ t') : t.word.closes? = t'.word.closes? := by
  unfold Word.closes? Lexeme.word
  rw [← h.kind]
  by_cases hk : t.kind = .mark
  · rw [h.text_of_kind hk rfl]
  · rw [if_neg (by exact hk), if_neg (by exact hk)]

end Lexeme.Alike

namespace Token.Alike

variable {σ : Likeness} {above above' : Nat} {t t' u u' : Token}

lemma isIdentifier (h : t.Alike σ above above' t') : t.isIdentifier = t'.isIdentifier := by
  unfold Lexeme.isIdentifier
  rw [h.kind]

lemma isWord (h : t.Alike σ above above' t') (w : String) : t.isWord w = t'.isWord w :=
  h.toAlike.test .identifier rfl (· == w)

lemma isWordOf (h : t.Alike σ above above' t') (ws : List String) : t.isWordOf ws = t'.isWordOf ws :=
  h.toAlike.test .identifier rfl ws.contains

lemma isMark (h : t.Alike σ above above' t') (m : String) : t.isMark m = t'.isMark m :=
  h.toAlike.test .mark rfl (· == m)

lemma isOperator (h : t.Alike σ above above' t') (o : String) :
    t.isOperator o = t'.isOperator o :=
  h.toAlike.test .operator rfl (· == o)

lemma text_of_isIdentifier (h : t.Alike σ above above' t') (ht : t.isIdentifier = true) :
    t.text = t'.text := by
  exact h.text (.inl (by rw [Lexeme.isIdentifier_eq_true.mp ht]; rfl))

lemma isOpening (h : t.Alike σ above above' t') : t.word.isOpening = t'.word.isOpening :=
  h.toAlike.isOpening

lemma word (h : t.Alike σ above above' t') (hexact : σ.exact) : t.word = t'.word := by
  rw [Lexeme.word, Lexeme.word, h.kind, h.text (.inr hexact)]

lemma line (h : t.Alike σ above above' t') : σ.Line t.line t'.line :=
  ⟨t.start, t'.start, h.place, rfl, rfl⟩

lemma depth_beq (h : t.Alike σ above above' t') {d d' : Nat} (hd : d + above' = d' + above) :
    (t.depth == d) = (t'.depth == d') := by
  have := h.depth
  rw [Bool.eq_iff_iff, beq_iff_eq, beq_iff_eq]
  omega

end Token.Alike

end ActorDiagram
