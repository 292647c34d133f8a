import Mathlib
import ActorDiagram.Drawing
import ActorDiagram.Proofs.Likeness

/-!
# Windows

A window is a part of one stream that stands in another stream too, under other brackets and at
another place. What is read in it is the same in both.
-/

namespace ActorDiagram

namespace Stream

lemma hasMark_eq_any (s : Stream) (i : Nat) (m : String) :
    s.hasMark i m = (s.get? i).any (·.isMark m) := by
  unfold hasMark
  cases s.get? i <;> rfl

lemma followsMark_eq_any (s : Stream) (i : Nat) (m : String) :
    s.followsMark i m = (s.before? i).any (·.isMark m) := by
  unfold followsMark
  cases s.before? i <;> rfl

/-- Where a token stands, there is fuel left to read it. -/
lemma exists_fuel {s : Stream} {fuel i : Nat} {t : Token} (ht : s.get? i = some t)
    (hfuel : s.size ≤ fuel + i) : ∃ n, fuel = n + 1 := by
  have hi := lt_of_get? ht
  exact ⟨fuel - 1, by omega⟩

/-! ### Names and texts -/

variable {σ : Likeness} {above above' : Nat} {s s' : Stream} {R : Nat → Nat → Prop}

lemma dottedTail_of_none {fuel i : Nat} (hi : s.get? i = none) : s.dottedTail fuel i = [] := by
  cases fuel with
  | zero => rfl
  | succ fuel => rw [dottedTail, hi]

lemma dottedTail_of_some {fuel i : Nat} {t : Token} (hi : s.get? i = some t)
    (ht : t.isMark "." = false) : s.dottedTail fuel i = [] := by
  cases fuel with
  | zero => rfl
  | succ fuel =>
    rw [dottedTail, hi]
    cases s.get? (i + 1) <;> simp [ht]

lemma dotted_of_get? {i : Nat} {t : Token} (ht : s.get? i = some t) :
    s.dotted i = .ok (".".intercalate (t.text :: s.dottedTail s.size (i + 1)),
      i + 1 + 2 * (s.dottedTail s.size (i + 1)).length) := by
  unfold dotted dottedParts
  rw [token_eq_ok_iff.mpr ht]
  rfl

/-- Dotted names are read alike where two streams are in step over dots and names. -/
theorem dottedTail_eq
    (hget : ∀ i j, R i j → Option.Rel (Token.Alike σ above above') (s.get? i) (s'.get? j))
    (hnext : ∀ i j t, R i j → s.get? i = some t → (t.isMark "." || t.isIdentifier) = true →
      R (i + 1) (j + 1))
    {fuel fuel' i j : Nat} (hij : R i j) (hfuel : s.size ≤ fuel + i) (hfuel' : s'.size ≤ fuel' + j) :
    s.dottedTail fuel i = s'.dottedTail fuel' j ∧
      R (i + 2 * (s.dottedTail fuel i).length) (j + 2 * (s.dottedTail fuel i).length) := by
  induction fuel generalizing fuel' i j with
  | zero =>
    have hi : s.get? i = none := get?_eq_none (by omega)
    have hj := eq_none_of_rel_none (hi ▸ hget i j hij)
    rw [dottedTail_of_none hi, dottedTail_of_none hj]
    exact ⟨rfl, hij⟩
  | succ fuel ih =>
    cases hi : s.get? i with
    | none =>
      have hj := eq_none_of_rel_none (hi ▸ hget i j hij)
      rw [dottedTail_of_none hi, dottedTail_of_none hj]
      exact ⟨rfl, hij⟩
    | some dot =>
      obtain ⟨dot', hj, hdot⟩ := exists_of_rel_some (hi ▸ hget i j hij)
      obtain ⟨fuel', rfl⟩ := exists_fuel hj hfuel'
      by_cases hmark : dot.isMark "." = true
      · rw [dottedTail, dottedTail, hi, hj]
        have hij' := hnext i j dot hij hi (by simp [hmark])
        cases hi' : s.get? (i + 1) with
        | none =>
          have hj' := eq_none_of_rel_none (hi' ▸ hget _ _ hij')
          rw [hj']
          exact ⟨rfl, hij⟩
        | some name =>
          obtain ⟨name', hj', hname⟩ := exists_of_rel_some (hi' ▸ hget _ _ hij')
          rw [hj']
          simp only [← hdot.isMark, ← hname.isIdentifier, hmark, Bool.true_and]
          by_cases hident : name.isIdentifier = true
          · have hnext' := hnext _ _ name hij' hi' (by simp [hident])
            obtain ⟨htail, hR⟩ := @ih fuel' _ _ hnext' (by omega) (by omega)
            rw [if_pos hident, if_pos hident, hname.text_of_isIdentifier hident, htail]
            refine ⟨rfl, ?_⟩
            rw [htail] at hR
            rw [List.length_cons, show ∀ k l : Nat, k + 2 * (l + 1) = k + 1 + 1 + 2 * l by omega,
              show ∀ k l : Nat, k + 2 * (l + 1) = k + 1 + 1 + 2 * l by omega]
            exact hR
          · rw [if_neg hident, if_neg hident]
            exact ⟨rfl, hij⟩
      · have hmark' : dot'.isMark "." = false := by
          rw [← hdot.isMark]
          simpa using hmark
        rw [dottedTail_of_some hi (by simpa using hmark), dottedTail_of_some hj hmark']
        exact ⟨rfl, hij⟩

lemma text_eq_of_word {t u : Token} (h : t.word = u.word) : t.text = u.text :=
  congrArg Word.text h

lemma kind_eq_of_word {t u : Token} (h : t.word = u.word) : t.kind = u.kind :=
  congrArg Word.kind h

lemma spaced_eq_of_words {t t' u u' : Token} (h : t.word = t'.word) (hu : u.word = u'.word) :
    spaced t u = spaced t' u' := by
  unfold spaced Lexeme.isOperator
  rw [kind_eq_of_word h, text_eq_of_word h, kind_eq_of_word hu, text_eq_of_word hu]

/-- The text of tokens is made of what they say. -/
lemma textOf_eq_of_words {ts us : List Token}
    (h : ts.map (·.word) = us.map (·.word)) : textOf ts = textOf us := by
  have hafter : ∀ (ts us : List Token) (t u : Token), t.word = u.word →
      ts.map (·.word) = us.map (·.word) → textAfter t ts = textAfter u us := by
    intro ts
    induction ts with
    | nil =>
      intro us t u _ h
      rw [List.map_nil, eq_comm, List.map_eq_nil_iff] at h
      rw [h]
      rfl
    | cons a ts ih =>
      intro us t u htu h
      cases us with
      | nil => simp at h
      | cons b us =>
        rw [List.map_cons, List.map_cons, List.cons.injEq] at h
        rw [textAfter, textAfter, spaced_eq_of_words htu h.1, ih us a b h.1 h.2,
          text_eq_of_word h.1]
  cases ts with
  | nil =>
    rw [List.map_nil, eq_comm, List.map_eq_nil_iff] at h
    rw [h]
  | cons t ts =>
    cases us with
    | nil => simp at h
    | cons u us =>
      rw [List.map_cons, List.map_cons, List.cons.injEq] at h
      rw [textOf, textOf, hafter ts us t u h.1 h.2, text_eq_of_word h.1]

end Stream

/-! ### Windows -/

/-- Part of a stream from `start` on and its copy in another one from `start'` on. The counts of
open brackets around them are `above` and `above'`. -/
structure Window where
  likeness : Likeness
  start : Nat
  start' : Nat
  length : Nat
  above : Nat
  above' : Nat

namespace Window

/-- Tokens in the window and in its copy that say the same. -/
abbrev Alike (w : Window) (t t' : Token) : Prop := t.Alike w.likeness w.above w.above' t'

/-- Place in the window, or right after it, and the same place in the copy. -/
abbrev At (w : Window) (i j : Nat) : Prop :=
  w.start ≤ i ∧ i ≤ w.start + w.length ∧ i + w.start' = j + w.start

/-- A token that no name before a window leans on: no dot, and no word that introduces a name. -/
def quietBefore (t : Token) : Bool := !t.isMark "." && !t.isWordOf ["new", "def", "val", "var"]

/-- A token that no reading up to the end of a window goes on with. -/
def quietAfter (t : Token) : Bool := !t.isMark "(" && !t.isWord "if"

lemma not_paren_of_quietAfter {t : Token} (h : quietAfter t = true) : t.isMark "(" = false := by
  simp only [quietAfter, Bool.and_eq_true, Bool.not_eq_true'] at h
  exact h.1

/-- The two streams hold the window and its copy: the tokens are alike, and every bracket opened in
them is closed in them. What stands after them is quiet, what stands before them too or alike. -/
structure Fits (w : Window) (s s' : Stream) : Prop where
  get : ∀ i j, w.At i j → i < w.start + w.length →
    ∃ t t', s.get? i = some t ∧ s'.get? j = some t' ∧ w.Alike t t'
  closer : ∀ i j t, w.At i j → i < w.start + w.length → s.get? i = some t →
    t.word.isOpening = true → ∃ c c' u, s.closer i = .ok c ∧ s'.closer j = .ok c' ∧ w.At c c' ∧
      i < c ∧ c < w.start + w.length ∧ s.get? c = some u ∧ u.word.closes?.isSome = true
  before : Option.Rel w.Alike (s.before? w.start) (s'.before? w.start') ∨
    (∀ t, s.before? w.start = some t → quietBefore t = true) ∧
      ∀ t, s'.before? w.start' = some t → quietBefore t = true
  after : ∀ t, s.get? (w.start + w.length) = some t → quietAfter t = true
  after' : ∀ t, s'.get? (w.start' + w.length) = some t → quietAfter t = true

/-- Literals are written alike too, and alike closing brackets follow right after the window and its
copy: no reading goes on behind it. -/
def Sealed (w : Window) (s s' : Stream) : Prop :=
  w.likeness.exact ∧ ∃ u u', s.get? (w.start + w.length) = some u ∧
    s'.get? (w.start' + w.length) = some u' ∧ w.Alike u u' ∧ u.word.closes?.isSome = true

/-- Entries of two ranges for tokens that say the same, with places from `lo` to `hi`. -/
structure Twin (w : Window) (s s' : Stream) (lo hi : Nat) (x y : Nat × Token) : Prop where
  place : w.At x.1 y.1
  lower : lo ≤ x.1
  upper : x.1 < hi
  get : s.get? x.1 = some x.2
  get' : s'.get? y.1 = some y.2
  alike : w.Alike x.2 y.2

namespace Fits

variable {w : Window} {s s' : Stream} {i j k l : Nat}

lemma token (h : w.Fits s s') (hij : w.At i j) (hi : i < w.start + w.length) :
    w.likeness.Agree (fun t t' => s.get? i = some t ∧ s'.get? j = some t' ∧ w.Alike t t')
      (s.token i) (s'.token j) := by
  obtain ⟨t, t', ht, ht', halike⟩ := h.get i j hij hi
  exact Agree.of_ok (Stream.token_eq_ok_iff.mpr ht) (Stream.token_eq_ok_iff.mpr ht')
    ⟨ht, ht', halike⟩

lemma exists_close (h : w.Fits s s') (hij : w.At i j) (hi : i < w.start + w.length)
    (ho : s.hasMark i "(" = true ∨ s.hasMark i "[" = true ∨ s.hasMark i leftBrace = true) :
    ∃ c c', s.closer i = .ok c ∧ s'.closer j = .ok c' ∧ w.At c c' ∧ i < c ∧
      c < w.start + w.length ∧ ∃ u, s.get? c = some u ∧ u.word.closes?.isSome = true := by
  obtain ⟨t, t', ht, -, -⟩ := h.get i j hij hi
  have hopening : t.word.isOpening = true := by
    simp only [Stream.hasMark_eq_any, ht, Option.any_some] at ho
    rcases ho with ho | ho | ho <;> exact Lexeme.isOpening_of_isMark ho (by decide)
  obtain ⟨c, c', u, hc, hc', hcc, hic, hcw, hu, hcloses⟩ := h.closer i j t hij hi ht hopening
  exact ⟨c, c', hc, hc', hcc, hic, hcw, u, hu, hcloses⟩

lemma close (h : w.Fits s s') (hij : w.At i j) (hi : i < w.start + w.length)
    (ho : s.hasMark i "(" = true ∨ s.hasMark i "[" = true ∨ s.hasMark i leftBrace = true) :
    w.likeness.Agree (fun c c' => w.At c c' ∧ i < c ∧ c < w.start + w.length ∧
      ∃ u, s.get? c = some u ∧ u.word.closes?.isSome = true) (s.closer i) (s'.closer j) := by
  obtain ⟨c, c', hc, hc', hclose⟩ := h.exists_close hij hi ho
  exact Agree.of_ok hc hc' hclose

lemma hasMark (h : w.Fits s s') (hij : w.At i j) (hi : i < w.start + w.length) (m : String) :
    s.hasMark i m = s'.hasMark j m := by
  obtain ⟨t, t', ht, ht', halike⟩ := h.get i j hij hi
  unfold Stream.hasMark
  rw [ht, ht']
  exact halike.isMark m

/-- A test on the token at a place gives the same, behind the window when it fails on what is
quiet. -/
lemma get?_test (h : w.Fits s s') (hij : w.At i j) (p : Token → Bool)
    (hp : ∀ t t', w.Alike t t' → p t = p t') (hquiet : ∀ t, quietAfter t = true → p t = false) :
    (s.get? i).any p = (s'.get? j).any p := by
  by_cases hi : i < w.start + w.length
  · obtain ⟨t, t', ht, ht', halike⟩ := h.get i j hij hi
    rw [ht, ht']
    exact hp t t' halike
  · have fails : ∀ x : Option Token, (∀ t, x = some t → quietAfter t = true) →
        x.any p = false := by
      intro x hx
      cases x with
      | none => rfl
      | some t => exact hquiet t (hx t rfl)
    obtain rfl : i = w.start + w.length := by omega
    obtain rfl : j = w.start' + w.length := by omega
    rw [fails _ h.after, fails _ h.after']

lemma hasMark_paren (h : w.Fits s s') (hij : w.At i j) : s.hasMark i "(" = s'.hasMark j "(" := by
  rw [Stream.hasMark_eq_any, Stream.hasMark_eq_any]
  apply h.get?_test hij
  · intro t t' halike
    exact halike.isMark "("
  · intro t ht
    exact not_paren_of_quietAfter ht

/-- A test on the token before a place gives the same, before the window when it fails on what is
quiet. -/
lemma before?_test (h : w.Fits s s') (hij : w.At i j) (p : Token → Bool)
    (hp : ∀ t t', w.Alike t t' → p t = p t') (hquiet : ∀ t, quietBefore t = true → p t = false) :
    (s.before? i).any p = (s'.before? j).any p := by
  by_cases hi : i = w.start
  · have fails : ∀ x : Option Token, (∀ t, x = some t → quietBefore t = true) →
        x.any p = false := by
      intro x hx
      cases x with
      | none => rfl
      | some t => exact hquiet t (hx t rfl)
    obtain rfl : j = w.start' := by omega
    subst i
    rcases h.before with halike | ⟨hs, hs'⟩
    · cases ht : s.before? w.start with
      | none =>
        rw [ht] at halike
        rw [eq_none_of_rel_none halike]
      | some t =>
        rw [ht] at halike
        obtain ⟨t', ht', htt⟩ := exists_of_rel_some halike
        rw [ht']
        exact hp t t' htt
    · rw [fails _ hs, fails _ hs']
  · obtain ⟨t, t', ht, ht', halike⟩ := h.get (i - 1) (j - 1) (by omega) (by omega)
    unfold Stream.before?
    rw [if_neg (by omega), if_neg (by omega), ht, ht']
    exact hp t t' halike

lemma followsDot (h : w.Fits s s') (hij : w.At i j) :
    s.followsMark i "." = s'.followsMark j "." := by
  rw [Stream.followsMark_eq_any, Stream.followsMark_eq_any]
  apply h.before?_test hij
  · intro t t' halike
    exact halike.isMark "."
  · intro t ht
    simp only [quietBefore, Bool.and_eq_true, Bool.not_eq_true'] at ht
    exact ht.1

/-! ### Ranges -/

lemma indices (hij : w.At i j) (hkl : w.At k l) :
    List.Forall₂ (fun x y => w.At x y ∧ i ≤ x ∧ x < k) (List.range' i (k - i))
      (List.range' j (l - j)) := by
  have hlen : l - j = k - i := by omega
  rw [hlen]
  generalize hn : k - i = n
  induction n generalizing i j with
  | zero => exact .nil
  | succ n ih =>
    rw [List.range'_succ, List.range'_succ]
    refine .cons ⟨hij, by omega, by omega⟩ ?_
    refine (@ih (i + 1) (j + 1) (by omega) (by omega) (by omega)).imp ?_
    rintro x y ⟨hxy, hix, hxk⟩
    exact ⟨hxy, by omega, hxk⟩

theorem range (h : w.Fits s s') (hij : w.At i j) (hkl : w.At k l) :
    w.likeness.Agree (List.Forall₂ (w.Twin s s' i k)) (s.range i k) (s'.range j l) := by
  unfold Stream.range
  apply Agree.mapM
  refine (indices hij hkl).imp ?_
  rintro x y ⟨hxy, hix, hxk⟩
  apply Agree.map (h.token hxy (by omega))
  rintro t t' ⟨ht, ht', halike⟩
  exact ⟨hxy, hix, hxk, ht, ht', halike⟩

/-- The first place in a range that passes a test, or else the end of the range. -/
lemma first {xs ys : List (Nat × Token)} (hkl : w.At k l)
    (hxs : List.Forall₂ (w.Twin s s' i k) xs ys) {f g : Nat × Token → Bool}
    (hfg : ∀ x y, w.Twin s s' i k x y → f x = g y) :
    w.At (((xs.find? f).map (·.1)).getD k) (((ys.find? g).map (·.1)).getD l) ∧
      ((xs.find? f).map (·.1)).getD k ≤ k ∧
      (i ≤ k → i ≤ ((xs.find? f).map (·.1)).getD k) := by
  have hfind := find?_of_forall₂ hxs hfg
  cases hx : xs.find? f with
  | none =>
    rw [hx] at hfind
    rw [eq_none_of_rel_none hfind]
    exact ⟨hkl, le_refl _, fun hik => hik⟩
  | some x =>
    rw [hx] at hfind
    obtain ⟨y, hy, htwin⟩ := exists_of_rel_some hfind
    rw [hy]
    exact ⟨htwin.place, le_of_lt htwin.upper, fun _ => htwin.lower⟩

lemma depthAt (h : w.Fits s s') (hij : w.At i j) (hkl : w.At k l) :
    w.likeness.Agree (fun d d' => i < k → d + w.above' = d' + w.above)
      (s.depthAt i k) (s'.depthAt j l) := by
  unfold Stream.depthAt
  by_cases hik : i < k
  · rw [if_pos hik, if_pos (by omega)]
    apply Agree.map (h.token hij (by omega))
    rintro t t' ⟨-, -, halike⟩ -
    exact halike.depth
  · rw [if_neg hik, if_neg (by omega)]
    exact fun hik' => absurd hik' hik

lemma slice (h : w.Fits s s') (hij : w.At i j) (hkl : w.At k l) :
    List.Forall₂ w.Alike (s.slice i k) (s'.slice j l) := by
  have hsize : i < k → k ≤ s.tokens.size ∧ l ≤ s'.tokens.size := by
    intro hik
    obtain ⟨t, t', ht, ht', -⟩ := h.get (k - 1) (l - 1) (by omega) (by omega)
    have hlt := (Array.getElem?_eq_some_iff.mp ht).1
    have hlt' := (Array.getElem?_eq_some_iff.mp ht').1
    omega
  unfold Stream.slice
  rw [List.forall₂_iff_get]
  refine ⟨?_, ?_⟩
  · rw [Array.length_toList, Array.length_toList, Array.size_extract, Array.size_extract]
    by_cases hik : i < k
    · have := hsize hik
      omega
    · omega
  · intro m hm hm'
    rw [Array.length_toList, Array.size_extract] at hm
    obtain ⟨t, t', ht, ht', halike⟩ := h.get (i + m) (j + m) (by omega) (by omega)
    obtain ⟨_, rfl⟩ := Array.getElem?_eq_some_iff.mp ht
    obtain ⟨_, rfl⟩ := Array.getElem?_eq_some_iff.mp ht'
    simpa using halike

lemma text (h : w.Fits s s') (hij : w.At i j) (hkl : w.At k l) (hexact : w.likeness.exact) :
    s.text i k = s'.text j l := by
  apply Stream.textOf_eq_of_words
  apply map_eq_of_forall₂ (h.slice hij hkl)
  intro t t' halike
  exact halike.word hexact

lemma firstArgumentEnd (h : w.Fits s s') (hij : w.At i j) (hkl : w.At k l) :
    w.likeness.Agree (fun a b => w.At a b ∧ a ≤ k) (s.firstArgumentEnd i k)
      (s'.firstArgumentEnd j l) := by
  unfold Stream.firstArgumentEnd
  apply Agree.bind (h.depthAt hij hkl)
  intro d d' hd
  apply Agree.bind (h.range hij hkl)
  intro xs ys hxs
  obtain ⟨hat, hle, -⟩ := first (f := fun x => x.2.depth == d && x.2.isMark ",")
    (g := fun y => y.2.depth == d' && y.2.isMark ",") hkl hxs (by
      intro x y hxy
      have hlt : i < k := lt_of_le_of_lt hxy.lower hxy.upper
      rw [hxy.alike.depth_beq (hd hlt), hxy.alike.isMark])
  exact ⟨hat, hle⟩

lemma le_size (h : w.Fits s s') (hij : w.At i j) (hi : i < w.start + w.length) :
    w.start + w.length ≤ s.size ∧ w.start' + w.length ≤ s'.size := by
  obtain ⟨t, t', ht, ht', -⟩ := h.get (w.start + w.length - 1) (w.start' + w.length - 1)
    (by omega) (by omega)
  have hlt := Stream.lt_of_get? ht
  have hlt' := Stream.lt_of_get? ht'
  omega

/-- A dotted name before alike closing brackets, in the window or right after it, is read alike. -/
theorem dotted_of_closes? (h : w.Fits s s') (hij : w.At i j) (hkl : w.At k l) (hik : i < k)
    {t u u' : Token} (ht : s.get? i = some t) (hident : t.isIdentifier = true)
    (hu : s.get? k = some u) (hu' : s'.get? l = some u') (huu : w.Alike u u')
    (hcloses : u.word.closes?.isSome = true) :
    w.likeness.Agree (fun x y => x.1 = y.1 ∧ w.At x.2 y.2 ∧ x.2 ≤ k) (s.dotted i) (s'.dotted j) := by
  obtain ⟨t₁, t', ht₁, ht', halike⟩ := h.get i j hij (by omega)
  rw [ht] at ht₁
  cases ht₁
  have hget : ∀ x y, w.At x y ∧ x ≤ k →
      Option.Rel (Token.Alike w.likeness w.above w.above') (s.get? x) (s'.get? y) := by
    rintro x y ⟨hxy, hxk⟩
    rcases Nat.eq_or_lt_of_le hxk with rfl | hlt
    · obtain rfl : y = l := by omega
      rw [hu, hu']
      exact .some huu
    · obtain ⟨v, v', hv, hv', hvv⟩ := h.get x y hxy (by omega)
      rw [hv, hv']
      exact .some hvv
  have hnext : ∀ x y v, w.At x y ∧ x ≤ k → s.get? x = some v →
      (v.isMark "." || v.isIdentifier) = true → w.At (x + 1) (y + 1) ∧ x + 1 ≤ k := by
    rintro x y v ⟨hxy, hxk⟩ hv hname
    have hne : x ≠ k := by
      rintro rfl
      rw [hu] at hv
      cases hv
      rw [Lexeme.not_name_of_closes? hcloses] at hname
      simp at hname
    omega
  have hstep : w.At (i + 1) (j + 1) ∧ i + 1 ≤ k := by omega
  obtain ⟨htail, hat⟩ := @Stream.dottedTail_eq _ _ _ _ _ (fun x y => w.At x y ∧ x ≤ k) hget hnext
    s.size s'.size _ _ hstep (by omega) (by omega)
  rw [Stream.dotted_of_get? ht, Stream.dotted_of_get? ht', ← htail,
    ← halike.text_of_isIdentifier hident]
  exact ⟨rfl, hat⟩

/-- A dotted name before a closing bracket is read alike. -/
theorem dotted (h : w.Fits s s') (hij : w.At i j) (hkl : w.At k l) (hik : i < k)
    (hk : k < w.start + w.length) {t u : Token} (ht : s.get? i = some t)
    (hident : t.isIdentifier = true) (hu : s.get? k = some u) (hcloses : u.word.closes?.isSome = true) :
    w.likeness.Agree (fun x y => x.1 = y.1 ∧ w.At x.2 y.2 ∧ x.2 ≤ k) (s.dotted i) (s'.dotted j) := by
  obtain ⟨v, u', hv, hu', huu⟩ := h.get k l hkl hk
  rw [hu] at hv
  cases hv
  exact h.dotted_of_closes? hij hkl hik ht hident hu hu' huu hcloses

end Fits

end Window

end ActorDiagram
