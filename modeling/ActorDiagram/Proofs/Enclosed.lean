import Mathlib
import ActorDiagram.Proofs.LockstepHelper
import ActorDiagram.Proofs.Passage
import ActorDiagram.Proofs.WindowBody

/-!
# Enclosed parts

Parts of a stream in which every opened bracket is closed again: between two brackets, between the
arms of a block, and in the body of a function. Where two streams are in lockstep all along such a
part, it is a window of them. So are the same balanced words at two places.
-/

namespace ActorDiagram

open Window

lemma Window.quietAfter_of_closes? {t : Token} (h : t.word.closes?.isSome = true) :
    quietAfter t = true := by
  rw [quietAfter, Lexeme.isMark_eq_false_of_closes? h rfl, Lexeme.isWord_eq_false_of_closes? h]
  rfl

lemma Window.quietAfter_of_isWordOf {t : Token} {ws : List String} (h : t.isWordOf ws = true)
    (hif : "if" ∉ ws) : quietAfter t = true := by
  rw [Lexeme.isWordOf_eq_true] at h
  have hne : t.text ≠ "if" := by
    intro htext
    rw [htext] at h
    exact hif h.2
  simp [quietAfter, Lexeme.isMark, Lexeme.isWord, h.1, hne]

lemma Window.quietAfter_of_isWord {t : Token} {w : String} (h : t.isWord w = true)
    (hif : w ≠ "if") : quietAfter t = true := by
  rw [Lexeme.isWord_eq_true] at h
  simp [quietAfter, Lexeme.isMark, Lexeme.isWord, h.1, h.2, hif]

namespace Stream

/-- All from `lo` to `hi` lies at least `d` deep, and it ends where the brackets around it do, or at
a word that lies `d` deep. What stands at its end is quiet. -/
structure Enclosed (s : Stream) (d lo hi : Nat) : Prop where
  le : lo ≤ hi
  le_size : hi ≤ s.size
  deep : ∀ k t, lo ≤ k → k < hi → s.get? k = some t → d ≤ t.depth
  stop : ∀ t, s.get? hi = some t → t.depth < d ∨ t.depth = d ∧ t.word.closes? = none
  quiet : ∀ t, s.get? hi = some t → quietAfter t = true

namespace Enclosed

variable {s : Stream} {d lo hi i k : Nat} {t : Token}

lemma closer (hs : s.Nested) (hbalance : s.problems = []) (h : s.Enclosed d lo hi) (hlo : lo ≤ k)
    (hhi : k < hi) (ht : s.get? k = some t) (ho : t.word.isOpening = true) :
    ∃ c, s.closer k = .ok c ∧ k < c ∧ c < hi := by
  obtain ⟨c, hc⟩ := hs.exists_closer hbalance ht ho
  obtain ⟨hkc, hcs⟩ := hs.lt_closer hc
  refine ⟨c, hc, hkc, ?_⟩
  have hd := h.deep k t hlo hhi ht
  obtain ⟨hdepth, hcloses⟩ := hs.depth_closer hc ht (get?_of_lt hcs)
  by_contra hge
  rcases Nat.eq_or_lt_of_le (Nat.le_of_not_lt hge) with rfl | hlt
  · rcases h.stop _ (get?_of_lt hcs) with hstop | ⟨-, hstop⟩
    · omega
    · rw [hcloses] at hstop
      cases hstop
  · have hend := get?_of_lt (hlt.trans hcs)
    have hbetween := hs.depth_lt_between hc ht hhi hlt hend
    rcases h.stop _ hend with hstop | ⟨hstop, -⟩ <;> omega

lemma of_closer (hs : s.Nested) (ht : s.get? i = some t) {c : Nat} (hc : s.closer i = .ok c) :
    s.Enclosed (t.depth + 1) (i + 1) c := by
  obtain ⟨hic, hcs⟩ := hs.lt_closer hc
  obtain ⟨hdepth, hcloses⟩ := hs.depth_closer hc ht (get?_of_lt hcs)
  refine ⟨hic, le_of_lt hcs, ?_, ?_, ?_⟩
  · intro k u hk hkc hu
    exact hs.depth_lt_between hc ht (by omega) hkc hu
  · intro u hu
    rw [get?_of_lt hcs] at hu
    cases hu
    omega
  · intro u hu
    rw [get?_of_lt hcs] at hu
    cases hu
    exact quietAfter_of_closes? (by rw [hcloses]; rfl)

lemma drop (h : s.Enclosed d lo hi) (hlo : lo ≤ k) (hhi : k ≤ hi) : s.Enclosed d k hi :=
  ⟨hhi, h.le_size, fun m u hm => h.deep m u (by omega), h.stop, h.quiet⟩

lemma take (h : s.Enclosed d lo hi) (hlo : lo ≤ k) (hhi : k < hi) (ht : s.get? k = some t)
    (hd : t.depth = d) (hcloses : t.word.closes? = none) (hquiet : quietAfter t = true) :
    s.Enclosed d lo k := by
  refine ⟨hlo, by have := h.le_size; omega, fun m u hm hmk => h.deep m u hm (by omega), ?_, ?_⟩
  · intro u hu
    rw [ht] at hu
    cases hu
    exact .inr ⟨hd, hcloses⟩
  · intro u hu
    rw [ht] at hu
    cases hu
    exact hquiet

end Enclosed

/-- A body without braces is enclosed where its first token, or the sign before it, lies no less deep
than its function. -/
lemma Enclosed.plainBody {s : Stream} (hs : s.Nested) {depth i : Nat} {t : Token}
    (ht : s.get? i = some t) (hd : depth ≤ t.depth) {u : Token} (hu : s.get? (i + 1) = some u) :
    s.Enclosed depth (i + 1) (Helper.plainBody s depth (i + 1)).2 := by
  obtain ⟨-, hle, hbody, hend⟩ := Helper.plainBody_spec s depth (i + 1)
  have hsize := Helper.plainBody_le_size depth hu
  generalize (Helper.plainBody s depth (i + 1)).2 = hi at hle hbody hend hsize
  have hdeep : ∀ k v, i + 1 ≤ k → k < hi → s.get? k = some v → depth ≤ v.depth := by
    intro k v hk hlt hv
    obtain ⟨v', hv', hno⟩ := hbody k hk hlt
    rw [hv] at hv'
    cases hv'
    simp only [Helper.endsAt, Bool.or_eq_false_iff, decide_eq_false_iff_not] at hno
    omega
  -- Where the depth falls below that of the function, a bracket around it is closed.
  have hfall : ∀ v, s.get? hi = some v → v.depth < depth → v.word.closes?.isSome = true := by
    intro v hv hlt
    obtain ⟨last, hlast⟩ : ∃ last, hi = last + 1 := ⟨hi - 1, by omega⟩
    rw [hlast] at hv
    rcases Nat.eq_or_lt_of_le hle with heq | hlt'
    · obtain rfl : last = i := by omega
      exact hs.closes_of_depth_lt ht hv (by omega)
    · have hw := get?_of_lt (show last < s.size by omega)
      have := hdeep last _ (by omega) (by omega) hw
      exact hs.closes_of_depth_lt hw hv (by omega)
  have hstop : ∀ v, s.get? hi = some v → v.depth < depth ∨
      v.depth = depth ∧ v.isWordOf Helper.bodyTerminators = true := by
    intro v hv
    have hends := hend v hv
    simpa only [Helper.endsAt, Bool.or_eq_true, decide_eq_true_eq, Bool.and_eq_true,
      beq_iff_eq] using hends
  refine ⟨hle, hsize, hdeep, ?_, ?_⟩
  · intro v hv
    rcases hstop v hv with hlt | ⟨heq, hword⟩
    · exact .inl hlt
    · refine .inr ⟨heq, ?_⟩
      cases hc : v.word.closes? with
      | none => rfl
      | some b =>
        rw [Lexeme.isWordOf_eq_false_of_closes? (by rw [hc]; rfl)] at hword
        cases hword
  · intro v hv
    rcases hstop v hv with hlt | ⟨-, hword⟩
    · exact quietAfter_of_closes? (hfall v hv hlt)
    · exact quietAfter_of_isWordOf hword (by decide)

lemma Enclosed.of_body {s : Stream} (hs : s.Nested) {i : Nat} {name : Token}
    (hn : Helper.nameAt? s i = some name) {p : Nat × Nat} (h : Helper.body? s i = .ok (some p)) :
    ∃ d, s.Enclosed d p.1 p.2 := by
  obtain ⟨e, m, word, -, hm, -, -, -, hbody, u, hu, hd, -⟩ := Helper.exists_headEnd hs hn h
  obtain ⟨m', hm', hp⟩ := Helper.bodyFrom_cases hbody
  rw [hm] at hm'
  cases hm'
  rcases hp with ⟨b, -, hc, hp⟩ | ⟨rfl, first, hfirst⟩
  · have hb := (hs.lt_closer hc).1.trans (hs.lt_closer hc).2
    rw [hp]
    exact ⟨_, Enclosed.of_closer hs (get?_of_lt hb) hc⟩
  · exact ⟨_, Enclosed.plainBody hs hu hd hfirst⟩

/-- Where two streams are in lockstep all along an enclosed part, it is a window of them. -/
theorem Lockstep.fits {σ : Likeness} {R : Nat → Nat → Prop} {s s' : Stream} (h : Lockstep σ R s s')
    (hbalance : s.problems = []) {d i j n : Nat} (hR : ∀ k, k ≤ n + 1 → R (i + k) (j + k))
    (hpart : s.Enclosed d (i + 1) (i + 1 + n)) :
    (Window.mk σ (i + 1) (j + 1) n 0 0).Fits s s' := by
  have hplace : ∀ {k l}, (Window.mk σ (i + 1) (j + 1) n 0 0).At k l → R k l := by
    intro k l hkl
    have := hR (k - i) (by simp only [Window.At] at hkl; omega)
    rwa [show i + (k - i) = k by simp only [Window.At] at hkl; omega,
      show j + (k - i) = l by simp only [Window.At] at hkl; omega] at this
  have hend : R (i + 1 + n) (j + 1 + n) := by
    have := hR (n + 1) (le_refl _)
    rwa [show i + (n + 1) = i + 1 + n by omega, show j + (n + 1) = j + 1 + n by omega] at this
  refine ⟨?_, ?_, .inl ?_, hpart.quiet, ?_⟩
  · intro k l hkl hk
    have hsize := hpart.le_size
    have ht := get?_of_lt (show k < s.size by simp only at hk; omega)
    obtain ⟨t', ht', halike⟩ := h.exists_get (hplace hkl) ht
    exact ⟨_, t', ht, ht', halike⟩
  · intro k l t hkl hk ht ho
    simp only [Window.At] at hkl hk
    obtain ⟨c, hc, hkc, hchi⟩ := hpart.closer h.nested hbalance hkl.1 hk ht ho
    rcases Agree.cases (h.closer (hplace hkl)) with ⟨c₁, c', hc₁, hc', hcc, -⟩ | ⟨e, e', he, -, -⟩
    · rw [hc] at hc₁
      cases hc₁
      have hat : (Window.mk σ (i + 1) (j + 1) n 0 0).At c (c + j - i) := by
        simp only [Window.At]
        omega
      have hc'' : c' = c + j - i := (h.inOrder.eq_iff hcc (hplace hat)).mp rfl
      have hlast := get?_of_lt (h.nested.lt_closer hc).2
      exact ⟨c, c', _, hc, hc', hc'' ▸ hat, hkc, hchi, hlast, h.nested.isSome_closes? hc ht hlast⟩
    · rw [hc] at he
      cases he
  · have hfirst : R i j := by simpa using hR 0 (Nat.zero_le _)
    have hget := h.get i j hfirst
    simpa [Stream.before?] using hget
  · intro t' ht'
    have hget := h.get _ _ hend
    rw [ht'] at hget
    cases ht : s.get? (i + 1 + n) with
    | none =>
      rw [ht] at hget
      cases hget
    | some t =>
      rw [ht] at hget
      cases hget with
      | some halike =>
        have hquiet := hpart.quiet t ht
        rwa [quietAfter, halike.isMark, halike.isWord] at hquiet

namespace Says

variable {s s' : Stream} {d d' i j : Nat} {ws : List Word}

lemma nested (h : s.Says d i ws) : s.Nested := by
  obtain ⟨pre, body, post, rfl, -⟩ := h
  exact nested_ofLexemes _

/-- A bracket opened in balanced words is closed in them, equally far behind it wherever they are
said. -/
lemma exists_closer (hws : Balanced ws) {k : Nat} {w : Word} (hk : ws[k]? = some w)
    (ho : w.isOpening = true) : ∃ n, k + n < ws.length ∧ 0 < n ∧
      ∀ s d i, Says s d i ws → s.closer (i + k) = .ok (i + k + n) := by
  obtain ⟨hlt, rfl⟩ := List.getElem?_eq_some_iff.mp hk
  obtain ⟨u, v, opened, after, heq, hu, hopen, hnest, hrest⟩ := hws.exists_split hlt
  have hlen := congrArg List.length heq
  rw [Word.nest_of_isOpening ho] at hnest
  cases hnest
  obtain ⟨inner, c, v, rfl, hinner, hcloses, -⟩ :=
    @exists_closing_of_openAfter _ [] _ _ _ hrest (Nat.zero_le _)
  simp only [List.length_append, List.length_cons] at hlen
  refine ⟨inner.length + 1, by omega, by omega, fun s d i h => ?_⟩
  rw [heq] at h
  obtain ⟨hclose, -⟩ := (h.right hopen).bracket ho hcloses hinner
  rw [hu] at hclose
  rw [hclose]
  exact congrArg _ (by omega)

lemma closedOn (h : s.Says d i ws) (hws : Balanced ws) : s.ClosedOn i (i + ws.length) := by
  intro k hk hlt
  obtain ⟨t, ht, hword⟩ := h.get?_of_lt hk hlt
  refine ⟨t, ht, fun ho => ?_⟩
  obtain ⟨n, hn, hpos, hclosers⟩ := exists_closer hws hword ho
  have hclose := hclosers s d i h
  rw [show i + (k - i) = k by omega] at hclose
  exact ⟨k + n, hclose, by omega, by omega⟩

/-- The same balanced words at two places are a window, where what stands around them is quiet. -/
theorem fits {σ : Likeness} (hplace : ∀ p q, σ.place p q) (h : s.Says d i ws) (h' : s'.Says d' j ws)
    (hws : Balanced ws) (hbefore : ∀ t, s.before? i = some t → quietBefore t = true)
    (hbefore' : ∀ t, s'.before? j = some t → quietBefore t = true)
    (hafter : ∀ t, s.get? (i + ws.length) = some t → quietAfter t = true)
    (hafter' : ∀ t, s'.get? (j + ws.length) = some t → quietAfter t = true) :
    (Window.mk σ i j ws.length d d').Fits s s' := by
  refine ⟨?_, ?_, .inr ⟨hbefore, hbefore'⟩, hafter, hafter'⟩
  · intro k l hkl hk
    simp only [Window.At] at hkl hk
    obtain ⟨u, v, opened, after, heq, hu, hopen, hnest, -⟩ :=
      hws.exists_split (show k - i < ws.length by omega)
    rw [heq] at h h'
    obtain ⟨t, ht, htw, htd⟩ := h.get?_append hopen hnest
    obtain ⟨t', ht', htw', htd'⟩ := h'.get?_append hopen hnest
    rw [hu, show i + (k - i) = k by omega] at ht
    rw [hu, show j + (k - i) = l by omega] at ht'
    have hword : t.word = t'.word := htw.trans htw'.symm
    refine ⟨t, t', ht, ht', ⟨kind_eq_of_word hword, fun _ => text_eq_of_word hword, hplace _ _⟩, ?_⟩
    simp only
    omega
  · intro k l t hkl hk ht ho
    simp only [Window.At] at hkl hk
    obtain ⟨t₁, ht₁, hword⟩ := h.get?_of_lt hkl.1 hk
    rw [ht, Option.some.injEq] at ht₁
    subst ht₁
    obtain ⟨n, hn, hpos, hclosers⟩ := exists_closer hws hword ho
    have hclose := hclosers s d i h
    have hclose' := hclosers s' d' j h'
    rw [show i + (k - i) = k by omega] at hclose
    rw [show j + (k - i) = l by omega] at hclose'
    have hlast := Stream.get?_of_lt (h.nested.lt_closer hclose).2
    refine ⟨_, _, _, hclose, hclose', ?_, by omega, ?_, hlast,
      h.nested.isSome_closes? hclose ht hlast⟩
    · simp only [Window.At]
      omega
    · simp only
      omega

end Says

end Stream

end ActorDiagram
