import Mathlib
import ActorDiagram.Proofs.Enclosed

/-!
# Runs over a splice

Two streams that differ in one part after an arrow: what is read at corresponding places is put
together alike, as far as the two parts themselves say nothing. So are the helpers of both streams,
when no function goes past the arrow.
-/

namespace ActorDiagram.Stream

/-- Streams that differ in one part after an arrow: from `n` on, `m` tokens of the first stand in
place of `m'` tokens of the second. -/
structure Splice (σ : Likeness) (s s' : Stream) (n m m' : Nat) : Prop where
  lockstep : Lockstep σ (Spliced n m m') s s'
  pos : 0 < n
  pos_length : 0 < m
  le_size : n + m ≤ s.size
  le_size' : n + m' ≤ s'.size
  balance : s.problems = []

namespace Splice

variable {σ : Likeness} {s s' : Stream} {n m m' i j k l : Nat} {states states' : StateIndex}

lemma size_eq (h : Splice σ s s' n m m') : s.size + m' = s'.size + m := by
  have hle := h.le_size
  have hle' := h.le_size'
  have hend : Spliced n m m' s.size (s.size + m' - m) := .inr ⟨hle, by omega⟩
  have hend' : Spliced n m m' (s'.size + m - m') s'.size := .inr ⟨by omega, by omega⟩
  have hlt := h.lockstep.lt_size hend
  have hlt' := h.lockstep.lt_size hend'
  omega

lemma eq_of_not_next (h : Splice σ s s' n m m') (hij : Spliced n m m' i j)
    (hno : ¬ Spliced n m m' (i + 1) (j + 1)) : i + 1 = n ∧ j + 1 = n := by
  have := h.pos
  unfold Spliced at hij hno
  omega

lemma exists_arrow (h : Splice σ s s' n m m') :
    ∃ t, s.get? (n - 1) = some t ∧ t.isOperator "=>" = true := by
  have hpos := h.pos
  have hle := h.le_size
  have ht := get?_of_lt (show n - 1 < s.size by omega)
  refine ⟨_, ht, ?_⟩
  rcases h.lockstep.next (n - 1) (n - 1) _ (.inl ⟨rfl, by omega⟩) ht with harrow | hnext
  · exact harrow
  · have := h.pos_length
    unfold Spliced at hnext
    omega

/-- Places as far behind two corresponding ones correspond as well, unless the arrow is between. -/
lemma spliced_add (h : Splice σ s s' n m m') (hij : Spliced n m m' i j) {c : Nat}
    (hc : n ≤ i ∨ i + c < n) : Spliced n m m' (i + c) (j + c) := by
  have := h.pos_length
  unfold Spliced at hij ⊢
  omega

/-- Two pairs of places on the same side of the arrow are equally far apart. -/
lemma spliced_sub (h : Splice σ s s' n m m') (hij : Spliced n m m' i j)
    (hkl : Spliced n m m' k l) (hik : i ≤ k) (hside : n ≤ i ∨ k < n) : k + j = l + i := by
  have := h.pos_length
  unfold Spliced at hij hkl
  omega

lemma le_size_of_spliced (h : Splice σ s s' n m m') (hij : Spliced n m m' i j)
    (hi : i ≤ s.size) : j ≤ s'.size := by
  have hsize := h.size_eq
  have hle' := h.le_size'
  unfold Spliced at hij
  omega

/-! ### Lists of places -/

lemma range_split (h : Splice σ s s' n m m') : ∃ r,
    List.range s.size = List.range' 0 n ++ (List.range' n m ++ List.range' (n + m) r) ∧
      List.range s'.size = List.range' 0 n ++ (List.range' n m' ++ List.range' (n + m') r) := by
  have hle := h.le_size
  have hsize := h.size_eq
  have hsplit : ∀ a r, List.range' 0 (n + a + r) =
      List.range' 0 n ++ (List.range' n a ++ List.range' (n + a) r) := by
    intro a r
    rw [List.range'_append_1, Nat.add_assoc]
    have := @List.range'_append_1 0 n (a + r)
    rw [Nat.zero_add] at this
    exact this.symm
  refine ⟨s.size - (n + m), ?_, ?_⟩
  · rw [List.range_eq_range', ← hsplit]
    congr 1
    omega
  · rw [List.range_eq_range', ← hsplit]
    congr 1
    omega

lemma forall₂_before : List.Forall₂ (fun i j => i < n ∧ Spliced n m m' i j) (List.range' 0 n)
    (List.range' 0 n) := by
  rw [List.forall₂_same]
  intro i hi
  have := List.mem_range'_1.mp hi
  exact ⟨by omega, .inl ⟨rfl, by omega⟩⟩

lemma forall₂_after (n m m' r : Nat) : List.Forall₂ (Spliced n m m') (List.range' (n + m) r)
    (List.range' (n + m') r) := by
  rw [List.forall₂_iff_get]
  refine ⟨by simp, ?_⟩
  intro i hi hi'
  simp only [List.get_eq_getElem, List.getElem_range']
  exact .inr ⟨by omega, by omega⟩

/-- Runs over all places of both streams agree where those at corresponding places do, and those in
the two parts succeed. -/
theorem mapM_range (h : Splice σ s s' n m m') {α β : Type} {S : α → β → Prop}
    {f : Nat → Except Error α} {g : Nat → Except Error β}
    (hfg : ∀ i j, Spliced n m m' i j → σ.Agree S (f i) (g j)) {as : List α} {bs : List β}
    (has : (List.range' n m).mapM f = .ok as) (hbs : (List.range' n m').mapM g = .ok bs) :
    σ.Agree (fun x y => ∃ u v u' v', x = u ++ (as ++ v) ∧ y = u' ++ (bs ++ v') ∧
        List.Forall₂ S u u' ∧ List.Forall₂ S v v' ∧ ∀ j b, (j < n ∨ n + m' ≤ j) → j < s'.size →
          g j = .ok b → b ∈ u' ++ v')
      ((List.range s.size).mapM f) ((List.range s'.size).mapM g) := by
  obtain ⟨r, hr, hr'⟩ := h.range_split
  rw [hr, hr', List.mapM_append, List.mapM_append, List.mapM_append, List.mapM_append, has, hbs]
  have hmem : ∀ {is : List Nat} {bs : List β}, is.mapM g = .ok bs → ∀ j ∈ is, ∀ b, g j = .ok b →
      b ∈ bs := by
    intro is bs his j hj b hb
    obtain ⟨b', hb', hjb⟩ := exists_of_mem_left (forall₂_of_mapM_eq_ok his) hj
    rw [hb] at hjb
    cases hjb
    exact hb'
  rcases Agree.cases (Agree.mapM (forall₂_before.imp fun i j hij => hfg i j hij.2)) with
    ⟨u, u', hu, hu', huu⟩ | ⟨e, e', he, he', hee⟩
  · rw [hu, hu']
    simp only [Bind.bind, Except.bind]
    rcases Agree.cases (Agree.mapM ((forall₂_after n m m' r).imp hfg)) with
      ⟨v, v', hv, hv', hvv⟩ | ⟨e, e', he, he', hee⟩
    · rw [hv, hv']
      refine ⟨u, v, u', v', rfl, rfl, huu, hvv, ?_⟩
      intro j b hj hsize hb
      rw [List.mem_append]
      rcases hj with hj | hj
      · exact .inl (hmem hu' j (List.mem_range'_1.mpr ⟨by omega, by omega⟩) b hb)
      · have hlen := congrArg List.length hr'
        simp only [List.length_range, List.length_append, List.length_range'] at hlen
        exact .inr (hmem hv' j (List.mem_range'_1.mpr ⟨hj, by omega⟩) b hb)
    · rw [he, he']
      exact hee
  · rw [he, he']
    exact hee

/-! ### Windows on one side -/

/-- Where both streams go on to the same side of the arrow, an enclosed part is a window of them. -/
theorem fits (h : Splice σ s s' n m m') {d hi : Nat} (hij : Spliced n m m' i j)
    (hpart : s.Enclosed d (i + 1) hi) (hside : n ≤ i ∨ hi < n) :
    (Window.mk σ (i + 1) (j + 1) (hi - (i + 1)) 0 0).Fits s s' := by
  have hle := hpart.le
  obtain ⟨c, rfl⟩ : ∃ c, hi = i + 1 + c := ⟨hi - (i + 1), by omega⟩
  rw [Nat.add_sub_cancel_left]
  refine h.lockstep.fits h.balance ?_ hpart
  intro k hk
  exact h.spliced_add hij (by omega)

/-! ### Helpers -/

lemma boundNames_alike (h : Splice σ s s' n m m') {c c' : Nat} (hij : Spliced n m m' i j)
    (hcc : Spliced n m m' c c') (hc : s.closer i = .ok c) (hside : n ≤ i ∨ c < n) :
    σ.Agree Eq (Pattern.boundNames s (i + 1) c) (Pattern.boundNames s' (j + 1) c') := by
  obtain ⟨hic, hcs⟩ := h.lockstep.nested.lt_closer hc
  have hdist := h.spliced_sub hij hcc (le_of_lt hic) hside
  have hpart := Enclosed.of_closer h.lockstep.nested (get?_of_lt (hic.trans hcs)) hc
  refine (h.fits hij hpart hside).boundNames ?_ ?_
  · simp only [Window.At]
    omega
  · simp only [Window.At]
    omega

lemma branches_alike (h : Splice σ s s' n m m') (hstates : states.unplaced = states'.unplaced)
    {name : Token} (hn : Helper.nameAt? s i = some name) {p q : Nat × Nat}
    (hp : Helper.body? s i = .ok (some p)) (hpq : Helper.BodyAlike (Spliced n m m') s p q)
    (hout : Helper.inBody s i (n - 1) = false) (bound : List String) :
    σ.Agree (List.Forall₂ (Branch.Alike σ)) (Body.branches s states p.1 p.2 bound)
      (Body.branches s' states' q.1 q.2 bound) := by
  obtain ⟨⟨k, l, hkl, hpk, hql⟩, hstart, hstop, hsize⟩ := hpq
  have hle := Helper.le_of_body? h.lockstep.nested hp
  have hside : n ≤ k ∨ p.2 < n := by
    by_contra hno
    have hin : p.1 ≤ n - 1 ∧ n - 1 < p.2 := by
      have := h.pos_length
      unfold Spliced at hstart
      omega
    unfold Helper.inBody at hout
    rw [hp] at hout
    simp [hin] at hout
  have hdist := h.spliced_sub hkl hstop (by omega) hside
  obtain ⟨d, hpart⟩ := Enclosed.of_body h.lockstep.nested hn hp
  rw [hpk] at hpart
  refine (h.fits hkl hpart hside).branches hstates _ _ _ _ bound ?_ ?_
  · simp only [Window.At]
    omega
  · simp only [Window.At]
    omega

/-- Functions at corresponding places become alike helpers when they do not go past the arrow. -/
theorem sameAt (h : Splice σ s s' n m m') (hstates : states.unplaced = states'.unplaced)
    (hij : Spliced n m m' i j) (hout : ∀ name, Helper.nameAt? s i = some name →
      (Helper.inHead s i (n - 1) || Helper.inBody s i (n - 1)) = false) :
    Helper.SameAt σ s s' states states' i j := by
  have hname := h.lockstep.nameAt? hij
  unfold Helper.SameAt
  cases hn : Helper.nameAt? s i with
  | none =>
    rw [hn] at hname
    rw [eq_none_of_rel_none hname]
    exact .none
  | some name =>
    rw [hn] at hname
    obtain ⟨name', hn', halike, hident, hnext⟩ := exists_of_rel_some hname
    rw [hn']
    have hout := hout name hn
    simp only [Bool.or_eq_false_iff] at hout
    obtain ⟨hhead, hbody⟩ := hout
    have htext := halike.text_of_isIdentifier hident
    refine .some ⟨htext, ?_⟩
    rcases h.lockstep.body? hij hnext hn with hagree | ⟨k, l, hkl, hno, hcross⟩
    · refine h.lockstep.helperAt? hnext hn htext hagree ?_ ?_
      · intro k l c c' _ hinside hkl _ hcc hc _
        -- The arrow is not in the list of parameters, as the head would go past it.
        refine h.boundNames_alike hkl hcc hc ?_
        by_contra hno
        rw [hinside (n - 1) (by omega) (by omega)] at hhead
        cases hhead
      · intro p q bound hp hq
        rw [hp, hq] at hagree
        cases hagree with
        | some hpq => exact h.branches_alike hstates hn hp hpq hbody bound
    · obtain ⟨hk, -⟩ := h.eq_of_not_next hkl hno
      obtain rfl : k = n - 1 := by omega
      rw [hhead, hbody] at hcross
      cases hcross

/-- Helpers on both sides are alike, when none is defined in the two parts and no function goes past
the arrow. -/
theorem helpersOfStream (h : Splice σ s s' n m m') (hstates : states.unplaced = states'.unplaced)
    (hnone : ∀ i, n ≤ i → i < n + m → Helper.nameAt? s i = none)
    (hnone' : ∀ j, n ≤ j → j < n + m' → Helper.nameAt? s' j = none)
    (hout : ∀ i name, Helper.nameAt? s i = some name →
      (Helper.inHead s i (n - 1) || Helper.inBody s i (n - 1)) = false) :
    σ.Agree (List.Forall₂ (Helper.Alike σ)) (Helper.ofStream s states)
      (Helper.ofStream s' states') := by
  obtain ⟨r, hr, hr'⟩ := h.range_split
  have hskip : ∀ known, Helper.collect s states known (List.range' n m) = .ok known :=
    Helper.collect_of_no_name (fun i hi => hnone i (List.mem_range'_1.mp hi).1 (List.mem_range'_1.mp hi).2)
      states
  have hskip' : ∀ known, Helper.collect s' states' known (List.range' n m') = .ok known :=
    Helper.collect_of_no_name (fun i hi => hnone' i (List.mem_range'_1.mp hi).1 (List.mem_range'_1.mp hi).2)
      states'
  unfold Helper.ofStream
  rw [hr, hr', Helper.collect_append, Helper.collect_append]
  apply Agree.bind (Helper.collect_agree
    (forall₂_before.imp fun i j hij => h.sameAt hstates hij.2 fun name => hout i name) .nil)
  intro known known' hknown
  rw [Helper.collect_append, Helper.collect_append, hskip, hskip']
  exact Helper.collect_agree
    ((forall₂_after _ _ _ r).imp fun i j hij => h.sameAt hstates hij fun name => hout i name) hknown

end Splice

end ActorDiagram.Stream
