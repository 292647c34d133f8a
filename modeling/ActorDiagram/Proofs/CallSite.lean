import Mathlib
import ActorDiagram.Proofs.FirstDefinition
import ActorDiagram.Proofs.InlinedBlocks
import ActorDiagram.Proofs.Layout

/-!
# Call sites

Two texts that differ in the body of one arm: in the first it calls a helper, in the second it is the
body of that helper. Their streams differ in one part after an arrow, and the helper is defined
outside that part.
-/

namespace ActorDiagram

namespace Blocks

/-- Brace of the block that starts at `i`, whatever its state. -/
def braceAt? (s : Stream) (i : Nat) : Option Nat :=
  match s.get? i, s.get? (i + 2) with
  | some word, some first =>
    if word.isWord "when" && s.hasMark (i + 1) "(" && first.isIdentifier then
      match s.closer (i + 1) with
      | .ok close => braceAfter? s close
      | .error _ => none
    else none
  | _, _ => none

/-- The token at `k` stands in the block that starts at `i`. -/
def around (s : Stream) (i k : Nat) : Bool :=
  match braceAt? s i with
  | some brace =>
    match s.closer brace with
    | .ok close => decide (brace < k) && decide (k < close)
    | .error _ => false
  | none => false

lemma braceAt?_of_blockHead? {s : Stream} {states : StateIndex} {i : Nat} {head : BlockHead}
    (h : blockHead? s states i = .ok (some head)) : braceAt? s i = some head.brace := by
  unfold blockHead? at h
  obtain ⟨word, hword, h⟩ := bind_eq_ok_iff.mp h
  rw [Stream.token_eq_ok_iff] at hword
  unfold braceAt?
  rw [hword]
  cases hfirst : s.get? (i + 2) with
  | none =>
    rw [hfirst] at h
    cases h
  | some first =>
    rw [hfirst] at h
    simp only at h ⊢
    split_ifs at h ⊢
    · obtain ⟨close, hclose, h⟩ := bind_eq_ok_iff.mp h
      obtain ⟨dotted, -, h⟩ := bind_eq_ok_iff.mp h
      rw [hclose]
      simp only
      cases hbrace : braceAfter? s close with
      | none =>
        rw [hbrace] at h
        cases h
      | some brace =>
        rw [hbrace] at h
        obtain ⟨resolved, -, h⟩ := bind_eq_ok_iff.mp h
        cases h
        rfl
    · cases h

end Blocks

/-- An arm of a block that calls a helper and does no more, and the body of the helper. -/
structure CallSite where
  name : String
  body : List Word
  /-- Words up to the arrow of the arm. -/
  before : List Word
  /-- Words from the end of the arm on. -/
  after : List Word
  /-- Brace of the block. -/
  brace : Nat
  arm : Arm
  /-- Place of the helper's `def`. -/
  place : Nat

/-- Words that a body to be inlined is without. -/
def declaringWords : List String := ["when", "def", "object", "class", "trait"]

/-- The first lexemes have the call at this site, the second have the body there. -/
structure CallSite.Inlines (c : CallSite) (ls ls' : List Lexeme) : Prop where
  words : wordsOf ls = c.before ++ (callOf c.name ++ c.after)
  words' : wordsOf ls' = c.before ++ (c.body ++ c.after)
  balance : (Stream.ofLexemes ls).problems = []
  balance' : (Stream.ofLexemes ls').problems = []
  /-- The call is the whole body of an arm of a block. -/
  block : ∃ i, Blocks.braceAt? (Stream.ofLexemes ls) i = some c.brace
  mem : ∃ arms, Arm.ofBlock (Stream.ofLexemes ls) c.brace = .ok arms ∧ c.arm ∈ arms
  arrow : c.arm.arrow + 1 = c.before.length
  stop : c.arm.stop = c.before.length + (callOf c.name).length
  no_other : ∀ i < ls.length, Blocks.around (Stream.ofLexemes ls) i c.arm.arrow = true →
    Blocks.braceAt? (Stream.ofLexemes ls) i = some c.brace
  not_in_body : ∀ i < ls.length, (Helper.nameAt? (Stream.ofLexemes ls) i).isSome = true →
    Helper.inBody (Stream.ofLexemes ls) i c.arm.arrow = false
  /-- The helper is defined with the body, and not before. -/
  definition : definitionOf c.name c.body <+: (wordsOf ls).drop c.place
  first : ∀ i < c.place, ∀ t, Helper.nameAt? (Stream.ofLexemes ls) i = some t → t.text = c.name →
    Helper.body? (Stream.ofLexemes ls) i = .ok none
  balanced : Balanced c.body
  no_case : .name "case" ∉ topLevel c.body
  not_declaring : ∀ w ∈ declaringWords, .name w ∉ c.body
  callable : IsCallable c.name
  unbound : ∀ bound, Pattern.boundNames (Stream.ofLexemes ls) (c.arm.start + 1) c.arm.arrow =
    .ok bound → c.name ∉ bound
  /-- The helper says where to go, and calls no other. -/
  branches : ∀ states, StateIndex.ofStream (Stream.ofLexemes ls) = .ok states → ∃ t f,
    Helper.nameAt? (Stream.ofLexemes ls) c.place = some t ∧
      Helper.at? (Stream.ofLexemes ls) states c.place t = .ok (some f) ∧
      f.branches ≠ [] ∧ CallFree f.branches

/-- What is read from the text with the call. -/
structure CallSite.Reading where
  /-- Where the block starts. -/
  block : Nat
  arms : List Arm
  /-- Names that the pattern of the arm binds. -/
  bound : List String
  states : StateIndex
  /-- Name of the helper where it is defined. -/
  token : Token
  helper : Helper

/-- The texts and what is read from them are as a call site needs it; this can be evaluated. -/
def CallSite.Checks (c : CallSite) (r : Reading) (ls ls' : List Lexeme) : Prop :=
  (wordsOf ls = c.before ++ (callOf c.name ++ c.after) ∧
    wordsOf ls' = c.before ++ (c.body ++ c.after) ∧
    (Stream.ofLexemes ls).problems = [] ∧ (Stream.ofLexemes ls').problems = []) ∧
  (Blocks.braceAt? (Stream.ofLexemes ls) r.block = some c.brace ∧
    Arm.ofBlock (Stream.ofLexemes ls) c.brace = .ok r.arms ∧ c.arm ∈ r.arms ∧
    c.arm.arrow + 1 = c.before.length ∧ c.arm.stop = c.before.length + (callOf c.name).length ∧
    (∀ i < ls.length, Blocks.around (Stream.ofLexemes ls) i c.arm.arrow = true →
      Blocks.braceAt? (Stream.ofLexemes ls) i = some c.brace) ∧
    ∀ i < ls.length, (Helper.nameAt? (Stream.ofLexemes ls) i).isSome = true →
      Helper.inBody (Stream.ofLexemes ls) i c.arm.arrow = false) ∧
  (definitionOf c.name c.body <+: (wordsOf ls).drop c.place ∧
    (∀ i < c.place, (Helper.nameAt? (Stream.ofLexemes ls) i).map (·.text) = some c.name →
      Helper.body? (Stream.ofLexemes ls) i = .ok none) ∧
    Balanced c.body ∧ .name "case" ∉ topLevel c.body ∧ (∀ w ∈ declaringWords, .name w ∉ c.body)) ∧
  (IsCallable c.name ∧
    Pattern.boundNames (Stream.ofLexemes ls) (c.arm.start + 1) c.arm.arrow = .ok r.bound ∧
    c.name ∉ r.bound) ∧
  StateIndex.ofStream (Stream.ofLexemes ls) = .ok r.states ∧
    Helper.nameAt? (Stream.ofLexemes ls) c.place = some r.token ∧
    Helper.at? (Stream.ofLexemes ls) r.states c.place r.token = .ok (some r.helper) ∧
    r.helper.branches ≠ []

set_option synthInstance.maxSize 1024 in
instance (c : CallSite) (r : CallSite.Reading) (ls ls' : List Lexeme) :
    Decidable (c.Checks r ls ls') := by
  delta CallSite.Checks
  infer_instance

theorem CallSite.Inlines.of_checks {c : CallSite} {r : CallSite.Reading} {ls ls' : List Lexeme}
    (h : c.Checks r ls ls') (hfree : CallFree r.helper.branches) : c.Inlines ls ls' := by
  obtain ⟨⟨hwords, hwords', hbalance, hbalance'⟩,
    ⟨hblock, harms, hmem, harrow, hstop, hother, hbody⟩,
    ⟨hdefinition, hfirst, hbalanced, hcase, hdeclaring⟩, ⟨hcallable, hbound, hunbound⟩,
    hstates, htoken, hhelper, hne⟩ := h
  refine ⟨hwords, hwords', hbalance, hbalance', ⟨_, hblock⟩, ⟨_, harms, hmem⟩, harrow, hstop, hother,
    hbody, hdefinition, ?_, hbalanced, hcase, hdeclaring, hcallable, ?_, ?_⟩
  · intro i hi t ht htext
    exact hfirst i hi (by rw [ht, Option.map_some, htext])
  · intro bound hbound'
    rw [hbound] at hbound'
    cases hbound'
    exact hunbound
  · intro states hstates'
    rw [hstates] at hstates'
    cases hstates'
    exact ⟨r.token, r.helper, htoken, hhelper, hne, hfree⟩

lemma Stream.says_of_prefix (ls : List Lexeme) (ws : List Word) (i : Nat)
    (h : ws <+: (wordsOf ls).drop i) (hi : i ≤ ls.length) : ∃ d, (ofLexemes ls).Says d i ws := by
  obtain ⟨rest, hrest⟩ := h
  rw [wordsOf, ← List.map_drop] at hrest
  obtain ⟨body, post, hsplit, hbody, -⟩ := List.map_eq_append_iff.mp hrest.symm
  refine ⟨_, ls.take i, body, post, ?_, List.length_take_of_le hi, rfl, hbody⟩
  rw [← hsplit, List.take_append_drop]

namespace CallSite.Inlines

variable {c : CallSite} {ls ls' : List Lexeme}

lemma length_eq (h : c.Inlines ls ls') :
    ls.length = c.before.length + (3 + c.after.length) ∧
      ls'.length = c.before.length + (c.body.length + c.after.length) := by
  have hlen := congrArg List.length h.words
  have hlen' := congrArg List.length h.words'
  simp only [wordsOf, List.length_map, List.length_append] at hlen hlen'
  exact ⟨hlen, hlen'⟩

lemma exists_before (h : c.Inlines ls ls') :
    ∃ pre, c.before = pre ++ [.arrow] ∧ pre.length = c.arm.arrow := by
  obtain ⟨arms, harms, harm⟩ := h.mem
  obtain ⟨-, -, -, ⟨t, ht, -, hop⟩, -⟩ := Arm.found_of_ofBlock harms harm
  have harrow := h.arrow
  have hne : c.before ≠ [] := List.ne_nil_of_length_pos (by omega)
  refine ⟨c.before.dropLast, ?_, by rw [List.length_dropLast]; omega⟩
  -- The token at the arrow says the last of the words before the call.
  obtain ⟨d, hsays⟩ := Stream.says_of_prefix ls c.before 0
    (by rw [h.words, List.drop_zero]; exact List.prefix_append _ _) (Nat.zero_le _)
  obtain ⟨u, hu, hlast⟩ := hsays.get?_of_lt (Nat.zero_le c.arm.arrow) (by omega)
  rw [ht] at hu
  cases hu
  rw [Lexeme.isOperator_iff.mp hop, show c.arm.arrow - 0 = c.before.length - 1 by omega,
    ← List.getLast?_eq_getElem?] at hlast
  exact (List.dropLast_append_getLast? _ hlast).symm

lemma says_after_arrow (h : c.Inlines ls ls') : ∃ d d',
    (Stream.ofLexemes ls).Says d c.arm.arrow (.arrow :: callOf c.name) ∧
      (Stream.ofLexemes ls').Says d' c.arm.arrow (.arrow :: c.body) := by
  obtain ⟨hlen, hlen'⟩ := h.length_eq
  have harrow := h.arrow
  obtain ⟨pre, hpre, hplace⟩ := h.exists_before
  have hdrop : ∀ ws : List Word, (c.before ++ (ws ++ c.after)).drop c.arm.arrow =
      (.arrow :: ws) ++ c.after := by
    intro ws
    rw [hpre, ← hplace, List.append_assoc, List.drop_left]
    rfl
  obtain ⟨d, hd⟩ := Stream.says_of_prefix ls (.arrow :: callOf c.name) c.arm.arrow
    (by rw [h.words, hdrop]; exact List.prefix_append _ _) (by omega)
  obtain ⟨d', hd'⟩ := Stream.says_of_prefix ls' (.arrow :: c.body) c.arm.arrow
    (by rw [h.words', hdrop]; exact List.prefix_append _ _) (by omega)
  exact ⟨d, d', hd, hd'⟩

lemma says_call (h : c.Inlines ls ls') :
    ∃ d, (Stream.ofLexemes ls).Says d c.before.length (callOf c.name) := by
  obtain ⟨d, -, hcall, -⟩ := h.says_after_arrow
  rw [← h.arrow]
  exact ⟨d, hcall.tail (by decide)⟩

lemma says_body (h : c.Inlines ls ls') :
    ∃ d, (Stream.ofLexemes ls').Says d c.before.length c.body := by
  obtain ⟨-, d, -, hbody⟩ := h.says_after_arrow
  rw [← h.arrow]
  exact ⟨d, hbody.tail (by decide)⟩

/-- The streams differ in one part after the arrow of the arm. -/
theorem splice (h : c.Inlines ls ls') :
    Stream.Splice sameWords (Stream.ofLexemes ls) (Stream.ofLexemes ls') c.before.length 3
      c.body.length := by
  obtain ⟨hlen, hlen'⟩ := h.length_eq
  have harrow := h.arrow
  obtain ⟨pre, hpre, -⟩ := h.exists_before
  refine ⟨?_, by omega, by omega, ?_, ?_, h.balance⟩
  · obtain ⟨u, rest, rfl, hu, hrest⟩ := List.map_eq_append_iff.mp h.words
    obtain ⟨m, v, rfl, hm, hv⟩ := List.map_eq_append_iff.mp hrest
    obtain ⟨u', rest', rfl, hu', hrest'⟩ := List.map_eq_append_iff.mp h.words'
    obtain ⟨m', v', rfl, hm', hv'⟩ := List.map_eq_append_iff.mp hrest'
    have hlast : ∃ t, u.getLast? = some t ∧ t.isOperator "=>" = true := by
      rw [hpre] at hu
      obtain ⟨-, a, rfl, -, ha⟩ := List.map_eq_append_iff.mp hu
      obtain ⟨t, rest, rfl, ht, hnil⟩ := List.map_eq_cons_iff.mp ha
      rw [List.map_eq_nil_iff] at hnil
      rw [hnil]
      exact ⟨t, List.getLast?_concat, Lexeme.isOperator_iff.mpr ht⟩
    have hbalanced : Balanced (wordsOf m) := by
      rw [wordsOf, hm]
      exact balanced_callOf c.name
    have hbalanced' : Balanced (wordsOf m') := by
      rw [wordsOf, hm']
      exact h.balanced
    have hlock := Stream.lockstep_of_splice (alike_of_words (hu.trans hu'.symm)) hbalanced
      hbalanced' (alike_of_words (hv.trans hv'.symm)) (.inr hlast)
    have hlengths : u.length = c.before.length ∧ m.length = 3 ∧ m'.length = c.body.length := by
      rw [← hu, ← hm', List.length_map, List.length_map]
      have := congrArg List.length hm
      rw [List.length_map] at this
      exact ⟨rfl, this, rfl⟩
    rwa [hlengths.1, hlengths.2.1, hlengths.2.2] at hlock
  · rw [Stream.size_ofLexemes]
    omega
  · rw [Stream.size_ofLexemes]
    omega

/-! ### The definition -/

lemma length_definitionOf (name : String) (body : List Word) :
    (definitionOf name body).length = 7 + body.length := by
  simp [definitionOf, definitionHead]
  omega

lemma says_definition (h : c.Inlines ls ls') :
    ∃ d, (Stream.ofLexemes ls).Says d c.place (definitionOf c.name c.body) := by
  refine Stream.says_of_prefix ls _ c.place h.definition ?_
  by_contra hlt
  have hempty : (wordsOf ls).drop c.place = [] :=
    List.drop_eq_nil_of_le (by rw [wordsOf, List.length_map]; omega)
  have hprefix := h.definition
  rw [hempty, List.prefix_nil] at hprefix
  have := congrArg List.length hprefix
  rw [length_definitionOf, List.length_nil] at this
  omega

lemma definition_outside (h : c.Inlines ls ls') :
    c.place + (7 + c.body.length) ≤ c.before.length ∨ c.before.length + 3 ≤ c.place := by
  obtain ⟨d, hdef⟩ := h.says_definition
  obtain ⟨e, -, hcall, -⟩ := h.says_after_arrow
  have harrow := h.arrow
  obtain ⟨t, ht, htw, -⟩ := hcall.head (by decide)
  -- The arrow is none of the words of the definition.
  have hbody : ¬ (c.place + 6 ≤ c.arm.arrow ∧ c.arm.arrow < c.place + 6 + c.body.length) := by
    obtain ⟨name, hname, -⟩ := Helper.nameAt?_of_definition hdef
    have hsize := hdef.le_size
    rw [length_definitionOf, Stream.size_ofLexemes] at hsize
    have hout := h.not_in_body c.place (by omega) (by rw [hname]; rfl)
    unfold Helper.inBody at hout
    rw [Helper.body?_of_definition hdef h.balanced] at hout
    simpa using hout
  have hhead : ¬ (c.place ≤ c.arm.arrow ∧ c.arm.arrow < c.place + 6) := by
    rintro ⟨hle, hlt⟩
    obtain ⟨u, hu, huw⟩ := hdef.get?_of_definition (k := c.arm.arrow - c.place) (by omega)
    rw [show c.place + (c.arm.arrow - c.place) = c.arm.arrow by omega, ht] at hu
    cases hu
    have hmem := List.mem_of_getElem? huw
    rw [htw] at hmem
    simp [definitionHead, Word.arrow, Word.name, Word.mark, Word.equals] at hmem
  have hlast : c.arm.arrow ≠ c.place + 6 + c.body.length := by
    intro heq
    obtain ⟨-, -, hinner⟩ := hdef.brackets_of_definition h.balanced
    obtain ⟨u, hu, huw⟩ := hinner.get?_of_lt (k := c.arm.arrow) (by omega) (by simp; omega)
    rw [ht] at hu
    cases hu
    rw [htw, show c.arm.arrow - (c.place + 6) = c.body.length by omega,
      List.getElem?_concat_length] at huw
    exact absurd huw (by decide)
  -- Nor does it start with a word of the call.
  have hstart : ¬ (c.before.length ≤ c.place ∧ c.place < c.before.length + 3) := by
    rintro ⟨hle, hlt⟩
    obtain ⟨u, hu, huw⟩ := hdef.get?_of_definition (k := 0) (by omega)
    obtain ⟨d', hcall'⟩ := h.says_call
    obtain ⟨v, hv, hvw⟩ := hcall'.get?_of_lt hle hlt
    rw [show c.place + 0 = c.place by omega, hv] at hu
    cases hu
    have hmem := List.mem_of_getElem? hvw
    rw [← Option.some.inj huw] at hmem
    have hname : c.name = "def" := by
      simpa [callOf, Word.name, Word.mark, eq_comm] using hmem
    exact h.callable.not_reserved (by rw [hname]; decide)
  omega

/-- The second stream has the same definition, outside the body of the arm. -/
theorem says_definition' (h : c.Inlines ls ls') : ∃ d k,
    (Stream.ofLexemes ls').Says d k (definitionOf c.name c.body) ∧
      (k + (7 + c.body.length) ≤ c.before.length ∨ c.before.length + c.body.length ≤ k) := by
  obtain ⟨hlen, hlen'⟩ := h.length_eq
  have hprefix := h.definition
  have hdef := length_definitionOf c.name c.body
  rw [h.words] at hprefix
  rcases h.definition_outside with hbefore | hafter
  · rw [List.drop_append_of_le_length (by omega)] at hprefix
    have hinside : definitionOf c.name c.body <+: c.before.drop c.place :=
      List.prefix_of_prefix_length_le hprefix (List.prefix_append _ _)
        (by rw [List.length_drop]; omega)
    obtain ⟨d, hd⟩ := Stream.says_of_prefix ls' (definitionOf c.name c.body)
      c.place (by
        rw [h.words', List.drop_append_of_le_length (by omega)]
        exact hinside.trans (List.prefix_append _ _)) (by omega)
    exact ⟨d, c.place, hd, .inl hbefore⟩
  · have hdrop : ∀ ws : List Word, (c.before ++ (ws ++ c.after)).drop
        (c.before.length + ws.length + (c.place - (c.before.length + 3))) =
          c.after.drop (c.place - (c.before.length + 3)) := by
      intro ws
      rw [← List.append_assoc, ← List.length_append, ← List.drop_drop, List.drop_left]
    have hplace : c.place =
        c.before.length + (callOf c.name).length + (c.place - (c.before.length + 3)) := by
      have : (callOf c.name).length = 3 := rfl
      omega
    rw [hplace, hdrop] at hprefix
    have hle := hprefix.length_le
    rw [List.length_drop, hdef] at hle
    obtain ⟨d, hd⟩ := Stream.says_of_prefix ls' (definitionOf c.name c.body)
      (c.before.length + c.body.length + (c.place - (c.before.length + 3)))
      (by rw [h.words', hdrop]; exact hprefix) (by omega)
    exact ⟨d, _, hd, .inr (by omega)⟩

end CallSite.Inlines

end ActorDiagram
