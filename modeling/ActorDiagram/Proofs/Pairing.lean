import Mathlib
import ActorDiagram.Proofs.Partners

/-!
# Runs that give up no bracket

As long as the bracket matcher gives up no bracket, what is open is what the words leave open, and every
token lies as deep as the brackets around it say.
-/

namespace ActorDiagram.BracketState

variable {s s' : BracketState} {t : Lexeme}

/-! ### Brackets that are kept -/

lemma Nested.nodup_stack (h : s.Nested) : (s.stack.map Prod.snd).Nodup := by
  have hall : ∀ v u, s.stack = u ++ v → (v.map Prod.snd).Nodup := by
    intro v
    induction v with
    | nil => exact fun _ _ => List.nodup_nil
    | cons x v ih =>
      intro u hs
      rw [List.map_cons, List.nodup_cons]
      refine ⟨fun hmem => ?_, ih (u ++ [x]) (by rw [hs, List.append_assoc, List.singleton_append])⟩
      obtain ⟨y, hy, heq⟩ := List.mem_map.mp hmem
      exact h.ne_of_mem_rest hs hy heq
  exact hall s.stack [] rfl

/-- No closing bracket was unexpected, and every bracket without a partner is still open. -/
structure Kept (s : BracketState) : Prop where
  unclosed : ∀ i : Nat, s.roles[i]? = some .unclosed → i ∈ s.stack.map Prod.snd
  expected : ∀ i : Nat, s.roles[i]? ≠ some .unexpected

theorem kept_init : init.Kept := by
  constructor <;> simp [init]

lemma Nested.snd_lt (h : s.Nested) {i : Nat} (hi : i ∈ s.stack.map Prod.snd) : i < s.tokens.size := by
  obtain ⟨x, hx, rfl⟩ := List.mem_map.mp hi
  obtain ⟨u, v, hs⟩ := List.append_of_mem hx
  exact h.open_lt u x.1 x.2 v hs

lemma kept_push_iff (h : s.Nested) {role : BracketRole} :
    (s.push t role).Kept ↔ s.Kept ∧ role ≠ .unclosed ∧ role ≠ .unexpected := by
  have hnone := h.getElem?_size
  have hroles := h.roles_push t role
  have hlt : s.tokens.size ∉ s.stack.map Prod.snd := fun hi => absurd (h.snd_lt hi) (Nat.lt_irrefl _)
  have hstack : (s.push t role).stack = s.stack := rfl
  constructor
  · rintro ⟨hunclosed, hexpected⟩
    rw [hstack] at hunclosed
    refine ⟨⟨?_, ?_⟩, ?_, ?_⟩ <;> grind
  · rintro ⟨⟨hunclosed, hexpected⟩, hrole, hrole'⟩
    refine ⟨?_, ?_⟩ <;> grind

lemma kept_readOpener_iff (h : s.Nested) : (s.readOpener t).Kept ↔ s.Kept := by
  have hnone := h.getElem?_size
  have hroles : ∀ i : Nat, (s.readOpener t).roles[i]? =
      if i = s.tokens.size then some .unclosed else s.roles[i]? := h.roles_push t .unclosed
  have hstack : (s.readOpener t).stack.map Prod.snd = s.tokens.size :: s.stack.map Prod.snd := rfl
  constructor
  · rintro ⟨hunclosed, hexpected⟩
    rw [hstack] at hunclosed
    refine ⟨?_, ?_⟩ <;> grind
  · rintro ⟨hunclosed, hexpected⟩
    refine ⟨?_, ?_⟩
    · rw [hstack]
      grind
    · grind

lemma kept_close_iff (h : s.Nested) (hopen : ∀ x ∈ s.stack, s.roles[x.2]? = some .unclosed)
    {above rest : List (String × Nat)} {b : String} {i : Nat} (hs : s.stack = above ++ (b, i) :: rest) :
    (s.close t i rest).Kept ↔ s.Kept ∧ above = [] := by
  have hi := h.open_lt above b i rest hs
  have hnone := h.getElem?_size
  have hi' : s.roles[i]? = some .unclosed := hopen (b, i) (by rw [hs]; simp)
  have hroles := h.roles_close (t := t) hi rest
  have hstack : (s.close t i rest).stack = rest := rfl
  have hnodup := h.nodup_stack
  rw [hs, List.map_append, List.map_cons, List.nodup_append] at hnodup
  constructor
  · rintro ⟨hunclosed, hexpected⟩
    -- What was opened inside the closed bracket is left without a partner, and is open no more.
    have habove : above = [] := by
      rw [List.eq_nil_iff_forall_not_mem]
      intro x hx
      have hmem : x ∈ s.stack := by
        rw [hs]
        exact List.mem_append_left _ hx
      have hlt := h.snd_lt (List.mem_map_of_mem hmem)
      have hx' : x.2 ∈ above.map Prod.snd := List.mem_map_of_mem hx
      have hne : x.2 ≠ i := hnodup.2.2 _ hx' _ List.mem_cons_self
      refine hnodup.2.2 _ hx' _ (List.mem_cons_of_mem _ (hunclosed x.2 ?_)) rfl
      rw [hroles, if_neg (by omega), if_neg hne, hopen x hmem]
    subst habove
    refine ⟨⟨?_, ?_⟩, rfl⟩ <;> grind
  · rintro ⟨⟨hunclosed, hexpected⟩, rfl⟩
    refine ⟨?_, ?_⟩ <;> grind

/-- A step gives up no bracket where the lexeme may stand after what is open. -/
theorem kept_move_iff (h : s.Nested) (hopen : ∀ x ∈ s.stack, s.roles[x.2]? = some .unclosed)
    (hmove : s.Move t s') :
    s'.Kept ↔ s.Kept ∧ t.word.nest (s.stack.map Prod.fst) = some (s'.stack.map Prod.fst) := by
  cases hmove with
  | plain hplain =>
    rw [Word.nest_of_isPlain hplain, kept_push_iff h]
    simp [push]
  | opening ho =>
    rw [Word.nest_of_isOpening ho, kept_readOpener_iff h]
    simp [readOpener, Lexeme.word]
  | @unexpected b hc hnone =>
    have hhead : (s.stack.map Prod.fst).head? ≠ some b := by
      intro hb
      obtain ⟨x, hx, rfl⟩ := List.mem_map.mp (List.mem_of_head? hb)
      exact hnone x hx rfl
    rw [kept_push_iff h, Word.nest_of_head?_ne hc hhead]
    simp
  | @closing above rest b i hc hs habove =>
    rw [kept_close_iff h hopen hs, hs]
    cases above with
    | nil =>
      rw [List.nil_append, List.map_cons, Word.nest_of_closes? hc]
      simp [BracketState.close, push]
    | cons x above =>
      have hhead : (((x :: above) ++ (b, i) :: rest).map Prod.fst).head? ≠ some b := by
        simpa using habove x List.mem_cons_self
      rw [Word.nest_of_head?_ne hc hhead]
      simp

/-- A run gives up no bracket where the words leave open what it has open. -/
theorem kept_run_iff (ts : List Lexeme) :
    (run ts).Kept ↔ openAfter [] (wordsOf ts) = some ((run ts).stack.map Prod.fst) := by
  induction ts using List.reverseRecOn with
  | nil => exact iff_of_true kept_init rfl
  | append_singleton ts t ih =>
    have hwords : wordsOf (ts ++ [t]) = wordsOf ts ++ [t.word] := List.map_append
    rw [run_concat, kept_move_iff (nested_run ts) (unclosed_of_mem_stack ts) (move_step _ t), ih, hwords,
      openAfter_append]
    constructor
    · rintro ⟨hopened, hnest⟩
      rw [hopened, Option.bind_some, openAfter_cons, hnest]
      rfl
    · intro hopened
      -- The words before leave open what the run before has open, whether or not it gave up brackets.
      obtain ⟨o, ho, hnest⟩ := Option.bind_eq_some_iff.mp hopened
      have hnil : init.stack = [] ++ [] := rfl
      obtain ⟨above, hstack, rfl, -⟩ := stack_foldl_step hnil ho
      rw [openAfter_cons] at hnest
      obtain ⟨o, hnest, ho'⟩ := Option.bind_eq_some_iff.mp hnest
      cases ho'
      rw [run, hstack, List.append_nil]
      exact ⟨ho, hnest⟩

/-! ### Depths -/

/-- Brackets that were opened before the token at `k` and are open there. -/
def openAround (s : BracketState) (k : Nat) : Finset Nat :=
  (Finset.range k).filter fun i => (s.roles[i]?).any fun
    | .unclosed => true
    | .opener c => k < c
    | _ => false

lemma mem_openAround {i k : Nat} : i ∈ s.openAround k ↔
    i < k ∧ (s.roles[i]? = some .unclosed ∨ ∃ c, k < c ∧ s.roles[i]? = some (.opener c)) := by
  unfold openAround
  rw [Finset.mem_filter, Finset.mem_range]
  cases s.roles[i]? with
  | none => simp
  | some role => cases role <;> simp

lemma openAround_push (h : s.Nested) (role : BracketRole) {k : Nat} (hk : k ≤ s.tokens.size) :
    (s.push t role).openAround k = s.openAround k := by
  ext i
  rw [mem_openAround, mem_openAround, h.roles_push]
  grind

/-- What is read later is not around a token. -/
lemma openAround_move (h : s.Nested) (hopen : ∀ x ∈ s.stack, s.roles[x.2]? = some .unclosed)
    (hmove : s.Move t s') {k : Nat} (hk : k < s.tokens.size) : s'.openAround k = s.openAround k := by
  cases hmove with
  | plain | opening | unexpected => exact openAround_push (t := t) h _ (Nat.le_of_lt hk)
  | @closing above rest b i hc hs habove =>
    have hi := h.open_lt above b i rest hs
    have hi' : s.roles[i]? = some .unclosed := hopen (b, i) (by rw [hs]; simp)
    ext j
    rw [mem_openAround, mem_openAround, h.roles_close hi]
    grind

/-- Behind the last token, what is open is what no bracket closes. -/
lemma card_openAround (h : s.Nested) (hopen : ∀ x ∈ s.stack, s.roles[x.2]? = some .unclosed)
    (hkept : s.Kept) {k : Nat} (hstack : ∀ x ∈ s.stack, x.2 < k)
    (hpairs : ∀ i c : Nat, s.roles[i]? = some (.opener c) → c ≤ k) :
    (s.openAround k).card = s.stack.length := by
  have hset : s.openAround k = (s.stack.map Prod.snd).toFinset := by
    ext i
    rw [mem_openAround, List.mem_toFinset]
    constructor
    · rintro ⟨hi, hunclosed | ⟨c, hc, hclosed⟩⟩
      · exact hkept.unclosed i hunclosed
      · exact absurd hc (Nat.not_lt.mpr (hpairs i c hclosed))
    · intro hi
      obtain ⟨x, hx, rfl⟩ := List.mem_map.mp hi
      exact ⟨hstack x hx, .inl (hopen x hx)⟩
  rw [hset, List.toFinset_card_of_nodup h.nodup_stack, List.length_map]

/-- Tokens lie as deep as brackets are open around them. -/
def Deep (s : BracketState) : Prop :=
  ∀ (k : Nat) (t : Token), s.tokens[k]? = some t → t.depth = (s.openAround k).card

theorem Deep.step (hd : s.Deep) (h : s.Nested) (hopen : ∀ x ∈ s.stack, s.roles[x.2]? = some .unclosed)
    (t : Lexeme) (hkept : (s.step t).Kept) : (s.step t).Deep := by
  have hlt : ∀ x ∈ s.stack, x.2 < s.tokens.size := fun x hx => h.snd_lt (List.mem_map_of_mem hx)
  intro k u hu
  rw [tokens_step, Array.getElem?_push] at hu
  split_ifs at hu with hk ho
  · -- A bracket is not around itself: its depth is what is open before it.
    subst hk
    cases hu
    have hkept' := ((kept_move_iff h hopen (s.move_step t)).mp hkept).1
    have haround : (s.step t).openAround s.tokens.size = s.openAround s.tokens.size := by
      rw [step_eq, if_pos ho]
      exact openAround_push (t := t) h _ (le_refl _)
    rw [haround]
    exact (card_openAround h hopen hkept' hlt fun i c hc => Nat.le_of_lt (h.pair_lt i c hc).2).symm
  · subst hk
    cases hu
    refine (card_openAround (h.step t) (h.unclosed_move hopen (s.move_step t)) hkept ?_ ?_).symm
    · intro x hx
      rcases (s.move_step t).stack with ⟨ho', -⟩ | ⟨-, hsuffix⟩
      · exact absurd ho' ho
      · exact hlt x (hsuffix.subset hx)
    · intro i c hc
      have hsize := ((h.step t).pair_lt i c hc).2
      rw [tokens_step, Array.size_push] at hsize
      omega
  · have hk := (Array.getElem?_eq_some_iff.mp hu).1
    rw [openAround_move h hopen (s.move_step t) hk]
    exact hd k u hu

theorem deep_run {ts : List Lexeme} (hkept : (run ts).Kept) : (run ts).Deep := by
  induction ts using List.reverseRecOn with
  | nil =>
    intro k t ht
    simp [run, init] at ht
  | append_singleton ts t ih =>
    have hopen := unclosed_of_mem_stack ts
    rw [run_concat] at hkept ⊢
    have hkept' := ((kept_move_iff (nested_run ts) hopen (move_step _ t)).mp hkept).1
    exact (ih hkept').step (nested_run ts) hopen t hkept

end ActorDiagram.BracketState
