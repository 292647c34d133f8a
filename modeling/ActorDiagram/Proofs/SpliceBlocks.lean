import Mathlib
import ActorDiagram.Proofs.SpliceRuns

/-!
# Blocks over a splice

The arms of a block are found alike in two streams that differ in the body of one of them. The other
arms are read alike, and so are the other blocks.
-/

namespace ActorDiagram

/-! ### Arms of one block -/

namespace Arm

lemma ofStarts_disjoint {s : Stream} {depth stop : Nat} {starts : List Nat} {arms : List Arm}
    (h : ofStarts s depth stop starts = .ok arms) (hsorted : starts.Pairwise (· < ·)) :
    (∀ a ∈ arms, a.start ∈ starts) ∧ arms.Pairwise fun a b => a.stop ≤ b.start := by
  induction starts generalizing arms with
  | nil =>
    cases h
    exact ⟨by simp, .nil⟩
  | cons start rest ih =>
    rw [List.pairwise_cons] at hsorted
    unfold ofStarts at h
    obtain ⟨tokens, -, h⟩ := bind_eq_ok_iff.mp h
    obtain ⟨others, hothers, h⟩ := bind_eq_ok_iff.mp h
    obtain ⟨hmem, hdisjoint⟩ := ih hothers hsorted.2
    have hmem' : ∀ a ∈ others, a.start ∈ start :: rest :=
      fun a ha => List.mem_cons_of_mem _ (hmem a ha)
    split at h
    · cases h
      refine ⟨?_, List.pairwise_cons.mpr ⟨?_, hdisjoint⟩⟩
      · intro a ha
        rcases List.mem_cons.mp ha with rfl | ha
        · exact List.mem_cons_self
        · exact hmem' a ha
      · intro b hb
        have hb := hmem b hb
        cases rest with
        | nil => cases hb
        | cons next rest =>
          simp only [List.head?_cons, Option.getD_some]
          rcases List.mem_cons.mp hb with heq | hb
          · exact le_of_eq heq.symm
          · exact le_of_lt ((List.pairwise_cons.mp hsorted.2).1 _ hb)
    · cases h
      exact ⟨hmem', hdisjoint⟩

/-- Arms of a block do not overlap. -/
theorem ofBlock_disjoint {s : Stream} {brace : Nat} {arms : List Arm}
    (h : ofBlock s brace = .ok arms) : arms.Pairwise fun a b => a.stop ≤ b.start := by
  unfold ofBlock at h
  obtain ⟨close, -, h⟩ := bind_eq_ok_iff.mp h
  obtain ⟨opening, -, h⟩ := bind_eq_ok_iff.mp h
  obtain ⟨tokens, htokens, h⟩ := bind_eq_ok_iff.mp h
  refine (ofStarts_disjoint h ?_).2
  have hindices : tokens.map Prod.fst = List.range' (brace + 1) (close - (brace + 1)) := by
    have hall := forall₂_of_mapM_eq_ok htokens
    have hmap := map_eq_of_forall₂ (f := id) (g := Prod.fst) hall (by
      intro k x hx
      obtain ⟨t, -, rfl⟩ := map_eq_ok_iff.mp hx
      rfl)
    rw [← hmap, List.map_id]
  have hsorted : (tokens.map Prod.fst).Pairwise (· < ·) := by
    rw [hindices]
    exact List.pairwise_lt_range'
  exact hsorted.sublist (List.filter_sublist.map _)

lemma eq_of_overlap {s : Stream} {brace k : Nat} {arms : List Arm}
    (h : ofBlock s brace = .ok arms) {a b : Arm} (ha : a ∈ arms) (hb : b ∈ arms)
    (hak : a.start < k) (hka : k ≤ a.stop) (hbk : b.start < k) (hkb : k ≤ b.stop) : a = b := by
  by_contra hne
  have hpair : arms.Pairwise fun a b => a.stop ≤ b.start ∨ b.stop ≤ a.start :=
    (ofBlock_disjoint h).imp fun hab => .inl hab
  have : Std.Symm fun a b : Arm => a.stop ≤ b.start ∨ b.stop ≤ a.start := ⟨fun _ _ => Or.symm⟩
  have := hpair.forall ha hb hne
  omega

lemma filter_starts_eq_nil {s : Stream} {n a d : Nat} (h : ∀ k t, n ≤ k → k < n + a →
    s.get? k = some t → t.depth = d → t.isWord "case" = false) :
    ((s.part n a).filter fun x => x.2.depth == d && starts s x.1 x.2) = [] := by
  rw [List.filter_eq_nil_iff]
  intro x hx
  obtain ⟨hn, hna, hget⟩ := Stream.mem_part.mp hx
  rw [starts_eq]
  by_cases hd : x.2.depth = d
  · simp [h x.1 x.2 hn hna hget hd]
  · simp [hd]

lemma starts_alike {σ : Likeness} {R : Nat → Nat → Prop} {s s' : Stream} {i j : Nat}
    (h : Stream.Lockstep σ R s s') (hij : R i j) {t t' : Token} (ht : s.get? i = some t)
    (halike : t.Alike σ 0 0 t') : starts s i t = starts s' j t' := by
  rw [starts_eq, starts_eq, ← halike.isWord]
  by_cases hcase : t.isWord "case" = true
  · rw [h.any_get? (h.next_of_isWord hij ht hcase) fun _ _ halike => halike.isWordOf _]
  · rw [Bool.not_eq_true] at hcase
    rw [hcase, Bool.false_and, Bool.false_and]

end Arm

namespace Stream.Splice

variable {σ : Likeness} {s s' : Stream} {n m m' i j : Nat} {states states' : StateIndex}

/-- Corresponding places with what stands there. -/
abbrev Entry (σ : Likeness) (n m m' : Nat) (x y : Nat × Token) : Prop :=
  Spliced n m m' x.1 y.1 ∧ x.2.Alike σ 0 0 y.2

lemma part_alike (h : Splice σ s s' n m m') {c : Nat} (hij : Spliced n m m' i j)
    (hside : n ≤ i ∨ i + c ≤ n) (hsize : i + c ≤ s.size) :
    List.Forall₂ (Entry σ n m m') (s.part i c) (s'.part j c) := by
  induction c generalizing i j with
  | zero => exact .nil
  | succ c ih =>
    have ht := get?_of_lt (show i < s.size by omega)
    obtain ⟨t', ht', halike⟩ := h.lockstep.exists_get hij ht
    rw [part_succ ht, part_succ ht']
    refine .cons ⟨hij, halike⟩ ?_
    rcases Nat.eq_zero_or_pos c with rfl | hc
    · exact .nil
    · exact ih (h.spliced_add hij (by omega)) (by omega) (by omega)

/-- Arms at corresponding places of two blocks whose arms lie at this depth. -/
structure ArmAlike (s : Stream) (n m m' d : Nat) (a b : Arm) : Prop where
  start : Spliced n m m' a.start b.start
  arrow : Spliced n m m' a.arrow b.arrow
  stop : Spliced n m m' a.stop b.stop
  start_lt : a.start < a.arrow
  arrow_lt : a.arrow < a.stop
  enclosed : s.Enclosed d (a.start + 1) a.stop
  isArrow : ∃ t, s.get? a.arrow = some t ∧ t.depth = d ∧ t.isOperator "=>" = true

/-- Places where arms start, before `close` and at this depth. -/
abbrev StartAlike (s : Stream) (n m m' d lo close : Nat) (x y : Nat) : Prop :=
  Spliced n m m' x y ∧ lo ≤ x ∧ x < close ∧ ∃ t, s.get? x = some t ∧ t.depth = d ∧
    t.isWord "case" = true

/-- The arrow of an arm is found alike, as no arm has its arrow behind that before the parts. -/
lemma find_arrow (h : Splice σ s s' n m m') {d stop stop' : Nat} (hij : Spliced n m m' i j)
    {t : Token} (ht : s.get? i = some t) (hcase : t.isWord "case" = true)
    (hstop : Spliced n m m' stop stop') (hsize : stop ≤ s.size)
    (harrow : i < n → n ≤ stop → ∃ t, s.get? (n - 1) = some t ∧ t.depth = d) :
    Option.Rel (Entry σ n m m')
      ((s.part (i + 1) (stop - (i + 1))).find? fun x => x.2.depth == d && x.2.isOperator "=>")
      ((s'.part (j + 1) (stop' - (j + 1))).find? fun y => y.2.depth == d && y.2.isOperator "=>") := by
  have hident := Lexeme.isIdentifier_of_isWord hcase
  have hnext := h.lockstep.next_of_isIdentifier hij ht hident
  have htest : ∀ x y : Nat × Token, Entry σ n m m' x y →
      (x.2.depth == d && x.2.isOperator "=>") = (y.2.depth == d && y.2.isOperator "=>") := by
    rintro x y ⟨-, halike⟩
    rw [halike.depth_beq rfl, halike.isOperator]
  have hpos := h.pos_length
  by_cases hside : n ≤ i ∨ stop < n
  · have hlen : stop - (i + 1) = stop' - (j + 1) := by
      clear harrow
      unfold Spliced at hij hstop
      omega
    rw [← hlen]
    rcases Nat.lt_or_ge i stop with hlt | hge
    · exact find?_of_forall₂ (h.part_alike hnext (by omega) (by omega)) htest
    · rw [show stop - (i + 1) = 0 by omega]
      exact .none
  · obtain ⟨a, ha, hdepth⟩ := harrow (by omega) (by omega)
    obtain ⟨a', ha', hop⟩ := h.exists_arrow
    rw [ha] at ha'
    cases ha'
    -- The word that starts the arm is not the arrow, so this stands in the first part of the arm.
    have hne : i ≠ n - 1 := by
      rintro rfl
      rw [ha] at ht
      cases ht
      rw [Lexeme.isIdentifier_eq_true, (Lexeme.isOperator_eq_true.mp hop).1] at hident
      cases hident
    have hi : i = j ∧ n + m ≤ stop ∧ n + m' ≤ stop' := by
      clear harrow
      unfold Spliced at hij hstop
      omega
    obtain ⟨rfl, hle, hle'⟩ := hi
    rw [part_split (show i + 1 ≤ n by omega) (show n ≤ stop by omega),
      part_split (show i + 1 ≤ n by omega) (show n ≤ stop' by omega), List.find?_append, List.find?_append]
    have hfind := find?_of_forall₂ (h.part_alike hnext (c := n - (i + 1)) (by omega) (by omega))
      htest
    have hsome : ((s.part (i + 1) (n - (i + 1))).find? fun x =>
        x.2.depth == d && x.2.isOperator "=>").isSome = true := by
      rw [List.find?_isSome]
      exact ⟨(n - 1, a), mem_part.mpr ⟨by simp only; omega, by simp only; omega, ha⟩,
        by simp [hdepth, hop]⟩
    obtain ⟨x, hx⟩ := Option.isSome_iff_exists.mp hsome
    rw [hx] at hfind ⊢
    obtain ⟨y, hy, hxy⟩ := exists_of_rel_some hfind
    rw [hy]
    exact .some hxy

lemma armsOfStarts (h : Splice σ s s' n m m') {d lo close close' : Nat}
    (hclose : Spliced n m m' close close') (hpart : s.Enclosed d lo close)
    (harrow : ∀ i, lo ≤ i → i < n → n ≤ close → ∃ t, s.get? (n - 1) = some t ∧ t.depth = d)
    {is js : List Nat} (his : List.Forall₂ (StartAlike s n m m' d lo close) is js) :
    σ.Agree (List.Forall₂ (ArmAlike s n m m' d)) (Arm.ofStarts s d close is)
      (Arm.ofStarts s' d close' js) := by
  induction his with
  | nil => exact List.Forall₂.nil
  | @cons i j is js hij hrest ih =>
    obtain ⟨hij, hlo, hlt, t, ht, hdepth, hcase⟩ := hij
    have hstop : Spliced n m m' (is.head?.getD close) (js.head?.getD close') ∧
        is.head?.getD close ≤ close ∧ (i + 1 ≤ is.head?.getD close →
          s.Enclosed d (i + 1) (is.head?.getD close)) := by
      cases hrest with
      | nil => exact ⟨hclose, le_refl _, fun hle => hpart.drop (by omega) hle⟩
      | cons hxy _ =>
        obtain ⟨hxy, -, hx, u, hu, hud, hword⟩ := hxy
        refine ⟨hxy, le_of_lt hx, fun hle => (hpart.drop (by omega) (by omega)).take hle hx hu hud
          ?_ ?_⟩
        · simp [Word.closes?, Lexeme.word, (Lexeme.isWord_eq_true.mp hword).1]
        · exact Window.quietAfter_of_isWord hword (by decide)
    obtain ⟨hstop, hle, henclosed⟩ := hstop
    have hsize := hpart.le_size
    have hsize' : js.head?.getD close' ≤ s'.size := h.le_size_of_spliced hstop (by omega)
    have hfind := h.find_arrow hij ht hcase hstop (by omega)
      (fun hi hn => harrow i hlo hi (by omega))
    unfold Arm.ofStarts
    dsimp only
    rw [range_eq_part (show is.head?.getD close ≤ s.size by omega), range_eq_part hsize']
    apply Agree.bind ih
    intro arms arms' harms
    cases hx : (s.part (i + 1) (is.head?.getD close - (i + 1))).find? fun x =>
        x.2.depth == d && x.2.isOperator "=>" with
    | none =>
      rw [hx] at hfind
      simp only [eq_none_of_rel_none hfind]
      exact harms
    | some x =>
      rw [hx] at hfind
      obtain ⟨y, hy, hxy⟩ := exists_of_rel_some hfind
      obtain ⟨hix, hxs, hget⟩ := mem_part.mp (List.mem_of_find?_eq_some hx)
      have htest := List.find?_some hx
      simp only [Bool.and_eq_true, beq_iff_eq] at htest
      simp only [hy]
      exact .cons ⟨hij, hxy.1, hstop, by simp only; omega, by simp only; omega,
        henclosed (by omega), x.2, hget, htest⟩ harms

lemma starts_alike (h : Splice σ s s' n m m') {c d lo close : Nat} (hij : Spliced n m m' i j)
    (hside : n ≤ i ∨ i + c ≤ n) (hsize : close ≤ s.size) (hlo : lo ≤ i) (hclose : i + c ≤ close) :
    List.Forall₂ (StartAlike s n m m' d lo close)
      (((s.part i c).filter fun x => x.2.depth == d && Arm.starts s x.1 x.2).map Prod.fst)
      (((s'.part j c).filter fun y => y.2.depth == d && Arm.starts s' y.1 y.2).map Prod.fst) := by
  have hpart := h.part_alike (c := c) hij hside (by omega)
  have hmem : ∀ x ∈ s.part i c, lo ≤ x.1 ∧ x.1 < close ∧ s.get? x.1 = some x.2 := by
    intro x hx
    have := mem_part.mp hx
    exact ⟨by omega, by omega, this.2.2⟩
  have hentries := (List.forall₂_and_left _ _).mpr ⟨hmem, hpart⟩
  have hkept := List.rel_filter (p := fun x => x.2.depth == d && Arm.starts s x.1 x.2)
    (q := fun y => y.2.depth == d && Arm.starts s' y.1 y.2) (by
      rintro x y ⟨⟨-, -, hx⟩, hxy, halike⟩
      change (_ = true) ↔ (_ = true)
      rw [halike.depth_beq rfl, Arm.starts_alike h.lockstep hxy hx halike]) hentries
  have hpassed : ∀ x ∈ (s.part i c).filter fun x => x.2.depth == d && Arm.starts s x.1 x.2,
      x.2.depth = d ∧ x.2.isWord "case" = true := by
    intro x hx
    have htest := (List.mem_filter.mp hx).2
    rw [Arm.starts_eq] at htest
    simp only [Bool.and_eq_true, beq_iff_eq] at htest
    exact ⟨htest.1, htest.2.1⟩
  refine List.rel_map ?_ ((List.forall₂_and_left _ _).mpr ⟨hpassed, hkept⟩)
  rintro x y ⟨⟨hdepth, hcase⟩, ⟨hlo, hlt, hx⟩, hxy, -⟩
  exact ⟨hxy, hlo, hlt, x.2, hx, hdepth, hcase⟩

/-- The arms of the block around the parts are alike, when none starts in the parts. -/
theorem armsOfBlock (h : Splice σ s s' n m m') {close : Nat} {opening : Token}
    (hij : Spliced n m m' i j) (ho : s.get? i = some opening) (hc : s.closer i = .ok close)
    (hi : i < n) (hclose : n ≤ close)
    (harrow : ∃ t, s.get? (n - 1) = some t ∧ t.depth = opening.depth + 1)
    (hcase : ∀ k t, n ≤ k → k < n + m → s.get? k = some t → t.depth = opening.depth + 1 →
      t.isWord "case" = false)
    (hcase' : ∀ k t, n ≤ k → k < n + m' → s'.get? k = some t → t.depth = opening.depth + 1 →
      t.isWord "case" = false) :
    σ.Agree (List.Forall₂ (ArmAlike s n m m' (opening.depth + 1))) (Arm.ofBlock s i)
      (Arm.ofBlock s' j) := by
  obtain ⟨opening', ho', halike⟩ := h.lockstep.exists_get hij ho
  have hdepth : opening.depth = opening'.depth := by simpa using halike.depth
  rcases Agree.cases (h.lockstep.closer hij) with
    ⟨c, close', hc₁, hc', hcc, -, hic, hjc⟩ | ⟨e, e', he, -⟩
  swap
  · rw [hc] at he
    cases he
  rw [hc] at hc₁
  cases hc₁
  have hcs := (h.lockstep.nested.lt_closer hc).2
  have hcs' := (h.lockstep.nested'.lt_closer hc').2
  have hpos := h.pos_length
  have hbounds : i = j ∧ n + m ≤ close ∧ n + m' ≤ close' ∧
      close - (n + m) = close' - (n + m') := by
    clear harrow
    unfold Spliced at hij hcc
    omega
  obtain ⟨rfl, hle, hle', hrest⟩ := hbounds
  unfold Arm.ofBlock
  rw [hc, hc', token_eq_ok_iff.mpr ho, token_eq_ok_iff.mpr ho']
  simp only [Bind.bind, Except.bind, ← hdepth]
  rw [range_eq_part (le_of_lt hcs), range_eq_part (le_of_lt hcs')]
  have hsplit : ∀ (s : Stream) {a b : Nat}, n + a ≤ b → s.part (i + 1) (b - (i + 1)) =
      s.part (i + 1) (n - (i + 1)) ++ (s.part n a ++ s.part (n + a) (b - (n + a))) := by
    intro s a b hab
    rw [part_split (show i + 1 ≤ n by omega) (show n ≤ b by omega),
      part_split (Nat.le_add_right n a) hab, Nat.add_sub_cancel_left]
  simp only [hsplit s hle, hsplit s' hle', List.filter_append, Arm.filter_starts_eq_nil hcase,
    Arm.filter_starts_eq_nil hcase',
    List.nil_append, List.map_append]
  refine h.armsOfStarts hcc (Enclosed.of_closer h.lockstep.nested ho hc)
    (fun _ _ _ _ => harrow) ?_
  refine List.rel_append ?_ ?_
  · rcases Nat.eq_or_lt_of_le (show i + 1 ≤ n by omega) with heq | hlt
    · rw [heq, Nat.sub_self]
      exact .nil
    · exact h.starts_alike (.inl ⟨rfl, hlt⟩) (by omega) (le_of_lt hcs) (le_refl _) (by omega)
  · rw [← hrest]
    exact h.starts_alike (.inr ⟨le_refl _, by omega⟩) (by omega) (le_of_lt hcs) (by omega) (by omega)

end Stream.Splice

end ActorDiagram
