import Mathlib
import ActorDiagram.Proofs.Enclosed
import ActorDiagram.Proofs.Yields

/-!
# Streams inside streams

A stream with balanced brackets may stand in another one, after some tokens and before others. The blocks
that it has on its own are read there too, from heads to payloads: what stands before it is not looked at,
and where an identifier comes after it, no head goes on behind it.
-/

namespace ActorDiagram.Stream

open Window

/-- All of a stream with balanced brackets stands in another one from `k` on, with the same pairs of
brackets. If anything comes right after it, that is an identifier. -/
structure Embeds (σ : Likeness) (k : Nat) (s s' : Stream) : Prop where
  nested : s.Nested
  balanced : s.problems = []
  get : ∀ i t, s.get? i = some t → ∃ t', s'.get? (i + k) = some t' ∧ t.Alike σ 0 0 t'
  closer : ∀ i c, s.closer i = .ok c → s'.closer (i + k) = .ok (c + k)
  after : ∀ t, s'.get? (s.size + k) = some t → t.isIdentifier = true

namespace Embeds

variable {σ : Likeness} {s s' : Stream} {states : StateIndex} {i c k : Nat} {t : Token} {m : String}

/-! ### Tokens and brackets -/

lemma hasMark (h : Embeds σ k s s') (hi : i ≤ s.size) (m : String) :
    s.hasMark i m = s'.hasMark (i + k) m := by
  rw [hasMark_eq_any, hasMark_eq_any]
  rcases Nat.eq_or_lt_of_le hi with rfl | hlt
  · rw [get?_eq_none (le_refl _)]
    cases ht : s'.get? (s.size + k) with
    | none => rfl
    | some t' =>
      have hkind : t'.kind = .identifier := Lexeme.isIdentifier_eq_true.mp (h.after t' ht)
      simp [Lexeme.isMark, hkind]
  · obtain ⟨t', ht', halike⟩ := h.get i _ (get?_of_lt hlt)
    rw [get?_of_lt hlt, ht', Option.any_some, Option.any_some, halike.isMark]

lemma exists_closer (h : Embeds σ k s s') (hm : s.hasMark i m = true)
    (hopening : m ∈ ["(", "[", leftBrace]) :
    ∃ c, s.closer i = .ok c ∧ s'.closer (i + k) = .ok (c + k) ∧ i < c ∧ c < s.size := by
  rw [hasMark_eq_any] at hm
  cases ht : s.get? i with
  | none =>
    rw [ht] at hm
    cases hm
  | some t =>
    rw [ht, Option.any_some] at hm
    obtain ⟨c, hc⟩ := h.nested.exists_closer h.balanced ht (Lexeme.isOpening_of_isMark hm hopening)
    exact ⟨c, hc, h.closer i c hc, h.nested.lt_closer hc⟩

/-- The part between two brackets is a window of the stream and its place. -/
theorem fits (h : Embeds σ k s s') (ht : s.get? i = some t) (hc : s.closer i = .ok c) :
    (Window.mk σ (i + 1) (i + 1 + k) (c - (i + 1)) 0 0).Fits s s' := by
  obtain ⟨hic, hcs⟩ := h.nested.lt_closer hc
  have hpart := Enclosed.of_closer h.nested ht hc
  have hend : i + 1 + (c - (i + 1)) = c := by omega
  obtain ⟨u', hu', huu⟩ := h.get c _ (get?_of_lt hcs)
  have hquiet := hpart.quiet _ (get?_of_lt hcs)
  refine ⟨?_, ?_, .inl ?_, ?_, ?_⟩
  · intro x y hxy hx
    simp only [Window.At] at hxy hx
    obtain rfl : y = x + k := by omega
    obtain ⟨t', ht', halike⟩ := h.get x _ (get?_of_lt (show x < s.size by omega))
    exact ⟨_, t', get?_of_lt _, ht', halike⟩
  · intro x y v hxy hx hv ho
    simp only [Window.At] at hxy hx
    obtain rfl : y = x + k := by omega
    obtain ⟨d, hd, hxd, hdc⟩ := hpart.closer h.nested h.balanced hxy.1 (by omega) hv ho
    have hlast := get?_of_lt (h.nested.lt_closer hd).2
    refine ⟨d, d + k, _, hd, h.closer x d hd, ?_, hxd, by simp only; omega, hlast, ?_⟩
    · simp only [Window.At]
      omega
    · exact h.nested.isSome_closes? hd hv hlast
  · obtain ⟨t', ht', halike⟩ := h.get i t ht
    have hbefore : s.before? (i + 1) = some t := ht
    have hbefore' : s'.before? (i + 1 + k) = some t' := by
      rw [before?, if_neg (by omega), show i + 1 + k - 1 = i + k by omega, ht']
    rw [hbefore, hbefore']
    exact .some halike
  · intro u hu
    simp only [hend] at hu
    exact hpart.quiet u hu
  · intro u hu
    rw [show i + 1 + k + (c - (i + 1)) = c + k by omega, hu'] at hu
    cases hu
    rwa [quietAfter, huu.isMark, huu.isWord] at hquiet

lemma sealed (h : Embeds σ k s s') (hexact : σ.exact) (ht : s.get? i = some t)
    (hc : s.closer i = .ok c) :
    (Window.mk σ (i + 1) (i + 1 + k) (c - (i + 1)) 0 0).Sealed s s' := by
  obtain ⟨hic, hcs⟩ := h.nested.lt_closer hc
  obtain ⟨u', hu', huu⟩ := h.get c _ (get?_of_lt hcs)
  refine ⟨hexact, _, u', ?_, ?_, huu, ?_⟩
  · rw [show i + 1 + (c - (i + 1)) = c by omega]
    exact get?_of_lt hcs
  · rw [show i + 1 + k + (c - (i + 1)) = c + k by omega]
    exact hu'
  · exact h.nested.isSome_closes? hc ht (get?_of_lt hcs)

lemma dotted_of_closer (h : Embeds σ k s s') (ht : s.get? i = some t) (hc : s.closer i = .ok c)
    {first : Token} (hf : s.get? (i + 1) = some first) (hident : first.isIdentifier = true) :
    σ.Agree (fun x y => x.1 = y.1) (s.dotted (i + 1)) (s'.dotted (i + 1 + k)) := by
  obtain ⟨hic, hcs⟩ := h.nested.lt_closer hc
  obtain ⟨last', hlast', hll⟩ := h.get _ _ (get?_of_lt hcs)
  have hne := h.nested.ne_closer_of_name hc hf (by rw [hident, Bool.or_true])
  have hfirst : (Window.mk σ (i + 1) (i + 1 + k) (c - (i + 1)) 0 0).At (i + 1) (i + 1 + k) := by
    simp only [Window.At]
    omega
  have hlast : (Window.mk σ (i + 1) (i + 1 + k) (c - (i + 1)) 0 0).At c (c + k) := by
    simp only [Window.At]
    omega
  exact Agree.imp ((h.fits ht hc).dotted_of_closes? hfirst hlast (by omega) hf hident (get?_of_lt hcs)
    hlast' hll (h.nested.isSome_closes? hc ht (get?_of_lt hcs))) fun _ _ hxy => hxy.1

/-! ### Blocks -/

/-- Places that correspond: `k` tokens apart. -/
abbrev At (k i j : Nat) : Prop := j = i + k

lemma braceAfter? (h : Embeds σ k s s') (hi : i < s.size) :
    Option.Rel (fun b b' => At k b b' ∧ s.hasMark b leftBrace = true) (Blocks.braceAfter? s i)
      (Blocks.braceAfter? s' (i + k)) := by
  unfold Blocks.braceAfter?
  rw [show i + k + 1 = i + 1 + k by omega, ← h.hasMark hi, ← h.hasMark hi]
  by_cases hbrace : s.hasMark (i + 1) leftBrace = true
  · rw [if_pos hbrace, if_pos hbrace]
    exact .some ⟨rfl, hbrace⟩
  · rw [if_neg hbrace, if_neg hbrace]
    by_cases hparen : s.hasMark (i + 1) "(" = true
    · obtain ⟨c, -, -, hic, hcs⟩ := h.exists_closer hparen (by simp)
      rw [show i + k + 2 = i + 2 + k by omega, ← h.hasMark (show i + 2 ≤ s.size by omega)]
      split_ifs with hboth
      · rw [Bool.and_eq_true] at hboth
        exact .some ⟨rfl, hboth.2⟩
      · exact .none
    · rw [if_neg (by simp [hparen]), if_neg (by simp [hparen])]
      exact .none

/-- Heads of blocks are found alike. -/
theorem blockHead? (h : Embeds σ k s s') (states : StateIndex) (hi : i < s.size) :
    σ.Agree (Option.Rel (Blocks.BlockHead.Alike s (At k))) (Blocks.blockHead? s states i)
      (Blocks.blockHead? s' states (i + k)) := by
  have ht := get?_of_lt hi
  obtain ⟨t', ht', halike⟩ := h.get i _ ht
  have hmark := h.hasMark (show i + 1 ≤ s.size by omega) "("
  rw [show i + 1 + k = i + k + 1 by omega] at hmark
  by_cases hwhen : (s.tokens[i].isWord "when" && s.hasMark (i + 1) "(") = true
  · have hwhen' := hwhen
    rw [halike.isWord, hmark] at hwhen'
    obtain ⟨c, hc, hc', hic, hcs⟩ := h.exists_closer (Bool.and_eq_true_iff.mp hwhen).2 (by simp)
    obtain ⟨first, hfirst⟩ : ∃ t, s.get? (i + 2) = some t := ⟨_, get?_of_lt (by omega)⟩
    obtain ⟨first', hfirst', hff⟩ := h.get _ _ hfirst
    unfold Blocks.blockHead?
    rw [token_eq_ok_iff.mpr ht, token_eq_ok_iff.mpr ht', hfirst,
      show i + k + 2 = i + 2 + k by omega, hfirst', show i + k + 1 = i + 1 + k by omega]
    rw [show i + k + 1 = i + 1 + k by omega] at hwhen'
    simp only [Bind.bind, Except.bind, hwhen, hwhen', ← hff.isIdentifier, Bool.true_and]
    by_cases hident : first.isIdentifier = true
    · rw [if_pos hident, if_pos hident, hc, hc']
      apply Agree.bind (h.dotted_of_closer (get?_of_lt (by omega)) hc hfirst hident)
      rintro ⟨ref, next⟩ ⟨_, next'⟩ rfl
      have hbrace := h.braceAfter? hcs
      cases hb : Blocks.braceAfter? s c with
      | none =>
        rw [hb] at hbrace
        simp only [eq_none_of_rel_none hbrace]
        exact .none
      | some brace =>
        rw [hb] at hbrace
        obtain ⟨brace', hb', hbb, hisBrace⟩ := exists_of_rel_some hbrace
        simp only [hb']
        apply Agree.bind (StateIndex.lookup_agree rfl ref hff.place)
        rintro resolved _ rfl
        exact .some ⟨rfl, rfl, hbb, hisBrace⟩
    · rw [if_neg hident, if_neg hident]
      exact .none
  · have hno : (s.tokens[i].isWord "when" && s.hasMark (i + 1) "(") = false := by simpa using hwhen
    have hno' := hno
    rw [halike.isWord, hmark] at hno'
    rw [Blocks.blockHead?_of_not_when ht hno, Blocks.blockHead?_of_not_when ht' hno']
    exact .none

/-- The block that starts at a place has the same clauses and findings where the stream stands. -/
theorem blockAt (h : Embeds σ k s s') (hexact : σ.exact) (states : StateIndex) (hi : i < s.size) :
    σ.Agree (fun x y => Window.Fits.BlocksAlike σ x y ∧
        x.1.clauses.map (·.action) = y.1.clauses.map (·.action))
      (Blocks.blockAt s states i) (Blocks.blockAt s' states (i + k)) := by
  unfold Blocks.blockAt
  apply Agree.bind (h.blockHead? states hi)
  intro head head' hhead
  cases hhead with
  | none => exact ⟨⟨.nil, rfl, .nil⟩, rfl⟩
  | @some d d' hd =>
    obtain ⟨c, hc, hc', hbc, hcs⟩ := h.exists_closer hd.isBrace (by simp)
    have hbrace := get?_of_lt (show d.brace < s.size by omega)
    obtain ⟨b', hb', hbb⟩ := h.get _ _ hbrace
    have hlast := get?_of_lt hcs
    obtain ⟨last', hlast', hll⟩ := h.get _ _ hlast
    have hcloses := h.nested.isSome_closes? hc hbrace hlast
    have hfits := h.fits hbrace hc
    have hplace : d'.brace = d.brace + k := hd.brace
    have harms := hfits.armsBetween (i := d.brace) (j := d'.brace) hc (hplace ▸ hc') hbrace
      (hplace ▸ hb') hlast hlast' hcloses (by rwa [← hll.toAlike.closes?]) hbb.depth
      (by simp only [Window.At]; omega) (by simp only [Window.At]; omega)
    exact Agree.imp (hfits.ofBlock_match rfl hd.ref hd.source harms) fun x y hxy =>
      ⟨hxy.1, hxy.2 (h.sealed hexact hbrace hc)⟩

end Embeds

end ActorDiagram.Stream
