import Mathlib
import ActorDiagram.Proofs.Matching
import ActorDiagram.Proofs.Window

/-!
# Passages

Words that stand at a place of a stream, whatever stands around them: their tokens, depths and
brackets there, and the text of the range that they fill.
-/

namespace ActorDiagram

/-! ### Words outside all brackets -/

/-- Words outside all brackets, when these are open before. -/
def topLevelFrom : List String → List Word → List Word
  | _, [] => []
  | opened, w :: ws =>
    let rest := topLevelFrom ((w.nest opened).getD opened) ws
    if w.isPlain && opened.isEmpty then w :: rest else rest

/-- Words outside all brackets. -/
def topLevel (ws : List Word) : List Word := topLevelFrom [] ws

lemma topLevelFrom_cons {opened o : List String} {w : Word} (h : w.nest opened = some o)
    (ws : List Word) : topLevelFrom opened (w :: ws) =
      (if w.isPlain && opened.isEmpty then [w] else []) ++ topLevelFrom o ws := by
  rw [topLevelFrom, h, Option.getD_some]
  split_ifs <;> rfl

theorem topLevelFrom_append {u : List Word} {opened o : List String}
    (h : openAfter opened u = some o) (v : List Word) :
    topLevelFrom opened (u ++ v) = topLevelFrom opened u ++ topLevelFrom o v := by
  induction u generalizing opened with
  | nil =>
    cases h
    rfl
  | cons w u ih =>
    rw [openAfter_cons] at h
    obtain ⟨o₁, hw, h⟩ := Option.bind_eq_some_iff.mp h
    rw [List.cons_append, topLevelFrom_cons hw, topLevelFrom_cons hw, ih h, List.append_assoc]

lemma topLevelFrom_under {u : List Word} {opened o under : List String}
    (h : openAfter opened u = some o) (hunder : under ≠ []) :
    topLevelFrom (opened ++ under) u = [] := by
  induction u generalizing opened with
  | nil => rfl
  | cons w u ih =>
    rw [openAfter_cons] at h
    obtain ⟨o₁, hw, h⟩ := Option.bind_eq_some_iff.mp h
    have hopen : (opened ++ under).isEmpty = false := by simp [hunder]
    rw [topLevelFrom_cons (Word.nest_append hw under), hopen, Bool.and_false, ih h]
    rfl

@[simp] theorem topLevel_nil : topLevel [] = [] := rfl

theorem topLevel_append {u : List Word} (h : Balanced u) (v : List Word) :
    topLevel (u ++ v) = topLevel u ++ topLevel v :=
  topLevelFrom_append h v

theorem topLevel_cons {w : Word} (h : w.isPlain = true) (ws : List Word) :
    topLevel (w :: ws) = w :: topLevel ws := by
  unfold topLevel
  rw [topLevelFrom_cons (Word.nest_of_isPlain h []), h]
  rfl

theorem topLevel_bracket {o c : Word} {u : List Word} (ho : o.isOpening = true)
    (hc : c.closes? = some o.text) (h : Balanced u) (v : List Word) :
    topLevel (o :: (u ++ c :: v)) = topLevel v := by
  have hplain : o.isPlain = false := by simp [Word.isPlain, ho]
  have hplain' : c.isPlain = false := by simp [Word.isPlain, hc]
  have hu : topLevelFrom ([] ++ [o.text]) u = [] := topLevelFrom_under h (by simp)
  rw [List.nil_append] at hu
  unfold topLevel
  rw [topLevelFrom_cons (Word.nest_of_isOpening ho []), hplain,
    topLevelFrom_append (h.openAfter [o.text]), hu,
    topLevelFrom_cons (Word.nest_of_closes? hc []), hplain']
  rfl

lemma mem_topLevel {u v : List Word} {w : Word} (h : Balanced u) (hw : w.isPlain = true) :
    w ∈ topLevel (u ++ w :: v) := by
  rw [topLevel_append h, topLevel_cons hw]
  simp

/-! ### Parts of a stream -/

/-- A token that says no more than this word. -/
def Word.token (w : Word) : Token := ⟨⟨w.kind, w.text, .start⟩, 0⟩

/-- Normalized text of some words. -/
def textOfWords (ws : List Word) : String := Stream.textOf (ws.map Word.token)

namespace Stream

/-- The tokens from `i` on with their indices, `n` of them as far as they are there. -/
def part (s : Stream) (i n : Nat) : List (Nat × Token) :=
  (List.range' i n).filterMap fun k => (s.get? k).map (k, ·)

variable {s : Stream} {d i k m n : Nat} {t : Token}

lemma part_add : s.part i (m + n) = s.part i m ++ s.part (i + m) n := by
  unfold part
  rw [← List.filterMap_append, List.range'_append_1]

lemma part_split {stop : Nat} (hik : i ≤ k) (hk : k ≤ stop) :
    s.part i (stop - i) = s.part i (k - i) ++ s.part k (stop - k) := by
  rw [show stop - i = k - i + (stop - k) by omega, part_add, Nat.add_sub_of_le hik]

lemma part_succ (ht : s.get? i = some t) : s.part i (n + 1) = (i, t) :: s.part (i + 1) n := by
  unfold part
  rw [List.range'_succ, List.filterMap_cons, ht]
  rfl

lemma mem_part {x : Nat × Token} :
    x ∈ s.part i n ↔ i ≤ x.1 ∧ x.1 < i + n ∧ s.get? x.1 = some x.2 := by
  unfold part
  rw [List.mem_filterMap]
  constructor
  · rintro ⟨k, hk, hx⟩
    obtain ⟨t, ht, rfl⟩ := Option.map_eq_some_iff.mp hx
    have := List.mem_range'_1.mp hk
    exact ⟨this.1, this.2, ht⟩
  · rintro ⟨hi, hn, hx⟩
    exact ⟨x.1, List.mem_range'_1.mpr ⟨hi, hn⟩, by rw [hx]; rfl⟩

lemma range_eq_part {stop : Nat} (h : stop ≤ s.size) :
    s.range i stop = .ok (s.part i (stop - i)) := by
  unfold range
  generalize hn : stop - i = n
  induction n generalizing i with
  | zero => rfl
  | succ n ih =>
    have ht : s.get? i = some s.tokens[i]! := by
      unfold size at h
      rw [get?, getElem!_pos s.tokens i (by omega)]
      exact Array.getElem?_eq_getElem (by omega)
    rw [List.range'_succ, List.mapM_cons, token_eq_ok_iff.mpr ht, ih (by omega), part_succ ht]
    rfl

/-! ### What a stream says -/

/-- From `i` on, where `d` brackets are open, the stream says these words. -/
def Says (s : Stream) (d i : Nat) (ws : List Word) : Prop :=
  ∃ pre body post, s = ofLexemes (pre ++ (body ++ post)) ∧ pre.length = i ∧ levelAfter pre = d ∧
    wordsOf body = ws

namespace Says

variable {u v ws : List Word} {w b : Word} {opened : List String}

lemma left (h : s.Says d i (u ++ v)) : s.Says d i u := by
  obtain ⟨pre, body, post, rfl, hi, hd, hws⟩ := h
  obtain ⟨b, c, rfl, hu, -⟩ := List.map_eq_append_iff.mp hws
  exact ⟨pre, b, c ++ post, by rw [List.append_assoc], hi, hd, hu⟩

lemma right (h : s.Says d i (u ++ v)) (ho : openAfter [] u = some opened) :
    s.Says (d + opened.length) (i + u.length) v := by
  obtain ⟨pre, body, post, rfl, rfl, rfl, hws⟩ := h
  obtain ⟨b, c, rfl, rfl, hv⟩ := List.map_eq_append_iff.mp hws
  refine ⟨pre ++ b, c, post, by simp only [List.append_assoc], ?_, ?_, hv⟩
  · rw [List.length_append, List.length_map]
  · exact levelAfter_append ho

lemma right_of_balanced (h : s.Says d i (u ++ v)) (hu : Balanced u) :
    s.Says d (i + u.length) v :=
  h.right hu

lemma tail (h : s.Says d i (w :: ws)) (hw : w.isPlain = true) : s.Says d (i + 1) ws :=
  right_of_balanced (u := [w]) h (balanced_singleton hw)

/-- Depth of a word: an opening bracket is not inside itself, and a closing one not either. -/
theorem get?_append (h : s.Says d i (u ++ w :: v)) {after : List String}
    (ho : openAfter [] u = some opened) (hw : w.nest opened = some after) :
    ∃ t, s.get? (i + u.length) = some t ∧ t.word = w ∧
      t.depth = d + (if w.isOpening then opened.length else after.length) := by
  obtain ⟨pre, body, post, rfl, rfl, rfl, hws⟩ := h
  obtain ⟨b, c, rfl, rfl, hc⟩ := List.map_eq_append_iff.mp hws
  obtain ⟨t, c, rfl, rfl, hc⟩ := List.map_eq_cons_iff.mp hc
  have hget := get?_ofLexemes (pre ++ b) (c ++ post) t
  rw [List.length_append, List.append_assoc] at hget
  rw [List.length_map, List.append_assoc]
  refine ⟨_, hget, rfl, ?_⟩
  have hlevel : levelAfter (pre ++ b ++ [t]) = levelAfter pre + after.length := by
    rw [List.append_assoc]
    refine levelAfter_append ?_
    rw [wordsOf, List.map_append, openAfter_append, ho, Option.bind_some, List.map_singleton,
      openAfter_cons, hw]
    rfl
  change (if t.word.isOpening then levelAfter (pre ++ b) else levelAfter (pre ++ b ++ [t])) = _
  rw [hlevel, levelAfter_append ho]
  split_ifs <;> rfl

lemma head (h : s.Says d i (w :: ws)) (hw : w.closes? = none) :
    ∃ t, s.get? i = some t ∧ t.word = w ∧ t.depth = d := by
  have hnil : s.Says d i ([] ++ w :: ws) := h
  by_cases ho : w.isOpening = true
  · obtain ⟨t, ht, htw, htd⟩ := hnil.get?_append rfl (Word.nest_of_isOpening ho [])
    rw [if_pos ho] at htd
    exact ⟨t, ht, htw, htd⟩
  · obtain ⟨t, ht, htw, htd⟩ := hnil.get?_append rfl
      (Word.nest_of_isPlain (by simp [Word.isPlain, ho, hw]) [])
    rw [if_neg ho] at htd
    exact ⟨t, ht, htw, htd⟩

lemma get?_of_lt (h : s.Says d i ws) (hik : i ≤ k) (hk : k < i + ws.length) :
    ∃ t, s.get? k = some t ∧ ws[k - i]? = some t.word := by
  obtain ⟨pre, body, post, rfl, rfl, rfl, rfl⟩ := h
  rw [wordsOf, List.length_map] at hk
  have hlt : k - pre.length < body.length := by omega
  have hbody : body.take (k - pre.length) ++ body[k - pre.length] ::
      body.drop (k - pre.length + 1) = body := by
    rw [← List.drop_eq_getElem_cons hlt, List.take_append_drop]
  have hget := get?_ofLexemes (pre ++ body.take (k - pre.length))
    (body.drop (k - pre.length + 1) ++ post) body[k - pre.length]
  rw [List.append_assoc, ← List.cons_append, ← List.append_assoc (body.take _), hbody,
    List.length_append, List.length_take_of_le (by omega),
    show pre.length + (k - pre.length) = k by omega] at hget
  refine ⟨_, hget, ?_⟩
  rw [wordsOf, List.getElem?_map, List.getElem?_eq_getElem hlt]
  rfl

lemma le_size (h : s.Says d i ws) : i + ws.length ≤ s.size := by
  cases hws : ws.length with
  | zero =>
    obtain ⟨pre, body, post, rfl, rfl, -, -⟩ := h
    rw [size_ofLexemes, List.length_append]
    omega
  | succ n =>
    obtain ⟨t, ht, -⟩ := h.get?_of_lt (show i ≤ i + n by omega) (by omega)
    have := lt_of_get? ht
    omega

lemma range (h : s.Says d i ws) : s.range i (i + ws.length) = .ok (s.part i ws.length) := by
  rw [range_eq_part h.le_size, Nat.add_sub_cancel_left]

lemma slice_words (h : s.Says d i ws) : (s.slice i (i + ws.length)).map (·.word) = ws := by
  have hsize := h.le_size
  apply List.ext_getElem?
  intro k
  unfold slice
  rw [List.getElem?_map, Array.getElem?_toList, Array.getElem?_extract]
  unfold size at hsize
  by_cases hk : k < ws.length
  · obtain ⟨t, ht, hw⟩ := h.get?_of_lt (show i ≤ i + k by omega) (by omega)
    rw [if_pos (by omega), show s.tokens[i + k]? = some t from ht]
    rw [show i + k - i = k by omega] at hw
    exact hw.symm
  · rw [if_neg (by omega), List.getElem?_eq_none (by omega)]
    rfl

/-- The text of a range depends on its words only. -/
theorem text (h : s.Says d i ws) : s.text i (i + ws.length) = textOfWords ws := by
  apply textOf_eq_of_words
  rw [h.slice_words, List.map_map]
  exact (List.map_id ws).symm

/-- No word of balanced words is less deep than they are, and one as deep as they are is a bracket or
stands outside all brackets. -/
theorem depth_of_balanced (h : s.Says d i ws) (hws : Balanced ws) (hik : i ≤ k)
    (hk : k < i + ws.length) (ht : s.get? k = some t) :
    d ≤ t.depth ∧ (t.depth = d → t.word.isPlain = true → t.word ∈ topLevel ws) := by
  obtain ⟨u, v, opened, after, heq, hu, hopen, hnest, -⟩ :=
    hws.exists_split (show k - i < ws.length by omega)
  generalize ws[k - i] = w at heq hnest
  rw [heq] at h ⊢
  obtain ⟨t', ht', htw, htd⟩ := h.get?_append hopen hnest
  rw [hu, show i + (k - i) = k by omega, ht] at ht'
  cases ht'
  refine ⟨by omega, ?_⟩
  intro hd hplain
  rw [htw] at hplain ⊢
  rw [Word.nest_of_isPlain hplain] at hnest
  cases hnest
  have hnil : opened = [] := by
    apply List.eq_nil_of_length_eq_zero
    split_ifs at htd <;> omega
  rw [hnil] at hopen
  exact mem_topLevel hopen hplain

/-- A pair of brackets around balanced words. -/
theorem bracket (h : s.Says d i (w :: (u ++ b :: v))) (hw : w.isOpening = true)
    (hb : b.closes? = some w.text) (hu : Balanced u) :
    s.closer i = .ok (i + 1 + u.length) ∧ s.Says (d + 1) (i + 1) (u ++ b :: v) ∧
      s.Says d (i + 1 + u.length + 1) v := by
  have hopen : openAfter [] [w] = some [w.text] := by
    rw [openAfter_cons, Word.nest_of_isOpening hw]
    rfl
  refine ⟨?_, ?_, ?_⟩
  · obtain ⟨pre, body, post, rfl, rfl, rfl, hws⟩ := h
    obtain ⟨o, body, rfl, rfl, hbody⟩ := List.map_eq_cons_iff.mp hws
    obtain ⟨inner, rest, rfl, rfl, hrest⟩ := List.map_eq_append_iff.mp hbody
    obtain ⟨c, rest, rfl, rfl, -⟩ := List.map_eq_cons_iff.mp hrest
    rw [List.cons_append, List.append_assoc, List.cons_append, List.length_map]
    exact closer_ofLexemes hw hb hu
  · exact right (u := [w]) h hopen
  · rw [show w :: (u ++ b :: v) = w :: (u ++ [b]) ++ v by simp] at h
    have := h.right_of_balanced (Balanced.bracket hw hb hu)
    rw [List.length_cons, List.length_append, List.length_singleton] at this
    rw [show i + 1 + u.length + 1 = i + (u.length + 1 + 1) by omega]
    exact this

end Says

end Stream

end ActorDiagram
