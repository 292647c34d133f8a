import Mathlib
import ActorDiagram.Proofs.InlinedClauses
import ActorDiagram.Proofs.SpliceBlocks

/-!
# Blocks in place of a call

Blocks of two streams that differ in the body of one arm, which in the first only calls a helper: the
clauses of the second are those of the first, with the branches of its body in place of the call.
-/

namespace ActorDiagram

namespace Arm

lemma found_of_ofStarts {s : Stream} {depth close : Nat} {starts : List Nat} {arms : List Arm}
    (h : ofStarts s depth close starts = .ok arms) {a : Arm} (ha : a ∈ arms) :
    a.start < a.arrow ∧
      (∃ t, s.get? a.arrow = some t ∧ t.depth = depth ∧ t.isOperator "=>" = true) ∧
      (a.stop = close ∨ a.stop ∈ starts) := by
  induction starts generalizing arms with
  | nil =>
    cases h
    cases ha
  | cons start rest ih =>
    unfold ofStarts at h
    obtain ⟨xs, hxs, h⟩ := bind_eq_ok_iff.mp h
    obtain ⟨others, hothers, h⟩ := bind_eq_ok_iff.mp h
    have hrest : a ∈ others → a.start < a.arrow ∧
        (∃ t, s.get? a.arrow = some t ∧ t.depth = depth ∧ t.isOperator "=>" = true) ∧
        (a.stop = close ∨ a.stop ∈ start :: rest) := by
      intro ha
      obtain ⟨hlt, harrow, hstop⟩ := ih hothers ha
      exact ⟨hlt, harrow, hstop.imp_right (List.mem_cons_of_mem _)⟩
    split at h
    · rename_i arrow t hfind
      cases h
      rcases List.mem_cons.mp ha with rfl | ha
      · obtain ⟨k, hmem, hk⟩ := exists_of_mem_left (forall₂_of_mapM_eq_ok hxs).flip
          (List.mem_of_find?_eq_some hfind)
        obtain ⟨t', ht', heq⟩ := map_eq_ok_iff.mp hk
        cases heq
        have htest := List.find?_some hfind
        simp only [Bool.and_eq_true, beq_iff_eq] at htest
        refine ⟨(List.mem_range'_1.mp hmem).1, ⟨t, Stream.token_eq_ok_iff.mp ht', htest⟩, ?_⟩
        cases rest with
        | nil => exact .inl rfl
        | cons next rest => exact .inr (by simp)
      · exact hrest ha
    · cases h
      exact hrest ha

/-- An arm has its arrow one level inside the brace of its block, and stops at the other brace or
where another arm starts. -/
theorem found_of_ofBlock {s : Stream} {brace : Nat} {arms : List Arm} (h : ofBlock s brace = .ok arms)
    {a : Arm} (ha : a ∈ arms) : ∃ opening, s.get? brace = some opening ∧ a.start < a.arrow ∧
      (∃ t, s.get? a.arrow = some t ∧ t.depth = opening.depth + 1 ∧ t.isOperator "=>" = true) ∧
      (s.closer brace = .ok a.stop ∨ ∃ u, s.get? a.stop = some u ∧ u.isWord "case" = true) := by
  unfold ofBlock at h
  obtain ⟨close, hclose, h⟩ := bind_eq_ok_iff.mp h
  obtain ⟨opening, hopening, h⟩ := bind_eq_ok_iff.mp h
  obtain ⟨tokens, htokens, h⟩ := bind_eq_ok_iff.mp h
  obtain ⟨hlt, harrow, hstop⟩ := found_of_ofStarts h ha
  refine ⟨opening, Stream.token_eq_ok_iff.mp hopening, hlt, harrow, ?_⟩
  rcases hstop with rfl | hmem
  · exact .inl hclose
  · obtain ⟨⟨k, u⟩, hku, rfl⟩ := List.mem_map.mp hmem
    obtain ⟨hmem, htest⟩ := List.mem_filter.mp hku
    obtain ⟨k', -, hk'⟩ := exists_of_mem_left (forall₂_of_mapM_eq_ok htokens).flip hmem
    obtain ⟨u', hu', heq⟩ := map_eq_ok_iff.mp hk'
    cases heq
    simp only [starts_eq, Bool.and_eq_true] at htest
    exact .inr ⟨u, Stream.token_eq_ok_iff.mp hu', htest.2.1⟩

end Arm

lemma Blocks.exists_mapM_blockAt {s : Stream} {states : StateIndex} {i n : Nat}
    (hnone : ∀ k, i ≤ k → k < i + n → blockHead? s states k = .ok none) :
    ∃ parts, (List.range' i n).mapM (blockAt s states) = .ok parts ∧
      ∀ x ∈ parts, x = (⟨[], []⟩, []) := by
  have hat : ∀ k ∈ List.range' i n, blockAt s states k = .ok (⟨[], []⟩, []) := by
    intro k hk
    unfold blockAt
    rw [hnone k (List.mem_range'_1.mp hk).1 (List.mem_range'_1.mp hk).2]
    rfl
  obtain ⟨parts, hparts⟩ := exists_mapM_eq_ok fun k hk => ⟨_, hat k hk⟩
  refine ⟨parts, hparts, fun x hx => ?_⟩
  obtain ⟨k, hk, hkx⟩ := exists_of_mem_left (forall₂_of_mapM_eq_ok hparts).flip hx
  rw [hat k hk] at hkx
  exact (Except.ok.inj hkx).symm

namespace Stream.Splice

variable {σ : Likeness} {s s' : Stream} {n m m' i j d : Nat} {states states' : StateIndex}
  {name : String} {bs : List Branch} {head head' : Blocks.BlockHead} {a b : Arm}

/-- Clauses with the branches in place of a call, and alike findings. -/
abbrev PartInlined (σ : Likeness) (name : String) (bs : List Branch)
    (x y : List Clause × List Finding) : Prop :=
  Inlined σ name bs x.1 y.1 ∧ List.Forall₂ (Finding.Alike σ) x.2 y.2

/-- What the blocks of two streams give: clauses with the branches in place of a call, the same sources
and alike findings. -/
abbrev BlocksInlined (σ : Likeness) (name : String) (bs : List Branch) (x y : Blocks × List Finding) :
    Prop :=
  Inlined σ name bs x.1.clauses y.1.clauses ∧ x.1.sources = y.1.sources ∧
    List.Forall₂ (Finding.Alike σ) x.2 y.2

lemma ofArm_alike (h : Splice σ s s' n m m') (hstates : states.unplaced = states'.unplaced)
    (href : head.ref = head'.ref) (hsource : head.source = head'.source)
    (hab : ArmAlike s n m m' d a b) (hside : n ≤ a.start ∨ a.stop < n) :
    σ.Agree (Window.Fits.ClausesAlike σ) (Blocks.ofArm s states head a)
      (Blocks.ofArm s' states' head' b) := by
  obtain ⟨hstart, harrow, hstop, hlt, hlt', hpart, -⟩ := hab
  have hfits := h.fits hstart hpart hside
  have harrow' := h.spliced_sub hstart harrow (le_of_lt hlt) (by omega)
  have hstop' := h.spliced_sub hstart hstop (by omega) hside
  refine hfits.ofArm hstates href hsource ⟨?_, ?_, ?_, ?_, hlt, hlt'⟩
  · apply Agree.imp (h.lockstep.token hstart)
    rintro t t' ⟨-, -, halike⟩
    exact halike.line
  · simp only [Window.At]
    omega
  · simp only [Window.At]
    omega
  · simp only [Window.At]
    omega

/-- Where the arm in the first stream calls the helper, its clauses in the second are those for the
branches of the body there. -/
theorem ofArm_inlined (h : Splice σ s s' n m m') (hsource : head.source = head'.source)
    (hab : ArmAlike s n m m' d a b) (harrow : a.arrow + 1 = n) (hstop : a.stop = n + m)
    (hcall : ∀ bound, Pattern.boundNames s (a.start + 1) a.arrow = .ok bound →
      Body.branches s states n (n + m) bound = .ok [⟨none, .call name⟩])
    (hbody : ∀ bound, Body.branches s' states' n (n + m') bound = .ok bs) (hne : bs ≠ []) :
    σ.Agree (PartInlined σ name bs) (Blocks.ofArm s states head a)
      (Blocks.ofArm s' states' head' b) := by
  have hpos := h.pos_length
  have hplaces : b.start = a.start ∧ b.arrow = a.arrow ∧ b.stop = n + m' := by
    have hstart := hab.start
    have harrow' := hab.arrow
    have hstop' := hab.stop
    have hlt := hab.start_lt
    clear hcall hbody
    unfold Spliced at hstart harrow' hstop'
    omega
  obtain ⟨hbstart, hbarrow, hbstop⟩ := hplaces
  obtain ⟨t, ht, htd, hop⟩ := hab.isArrow
  have hkind : t.kind = .operator := (Lexeme.isOperator_eq_true.mp hop).1
  have hpattern : s.Enclosed d (a.start + 1) a.arrow := by
    refine hab.enclosed.take hab.start_lt hab.arrow_lt ht htd ?_ ?_
    · simp [Word.closes?, Lexeme.word, hkind]
    · simp [Window.quietAfter, Lexeme.isMark, Lexeme.isWord, hkind]
  have hlt := hab.start_lt
  have hfits := h.fits hab.start hpattern (.inr (by omega))
  have hfirst : (Window.mk σ (a.start + 1) (b.start + 1) (a.arrow - (a.start + 1)) 0 0).At
      (a.start + 1) (b.start + 1) := by
    simp only [Window.At]
    omega
  have hlast : (Window.mk σ (a.start + 1) (b.start + 1) (a.arrow - (a.start + 1)) 0 0).At
      a.arrow b.arrow := by
    simp only [Window.At]
    omega
  unfold Blocks.ofArm
  apply Agree.bind (hfits.event hfirst hlast)
  intro event event' hevent
  apply Agree.bind (h.lockstep.token hab.start)
  rintro t t' ⟨-, -, halike⟩
  rcases Agree.cases (hfits.boundNames hfirst hlast) with
    ⟨bound, bound', hbound, hbound', -⟩ | ⟨e, e', he, he', hee⟩
  · rw [hbound, hbound', harrow, hstop, hbarrow, harrow, hbstop]
    simp only [Bind.bind, Except.bind]
    rw [hcall bound hbound, hbody bound']
    have hempty : bs.isEmpty = false := by simpa using hne
    simp only [List.isEmpty_cons, hempty, Bool.false_eq_true, if_false]
    refine ⟨?_, .nil⟩
    have hc : Clause.Alike σ ⟨head.source, event, .call name, t.line⟩
        ⟨head'.source, event', .call name, t'.line⟩ :=
      ⟨hsource, hevent, rfl, halike.line⟩
    have hinlined := @Inlined.call σ name bs _ _ _ _ hc rfl .nil
    rw [List.append_nil] at hinlined
    exact hinlined
  · rw [he, he']
    exact hee

/-- The arm whose body the streams differ in, and the block around it. -/
structure ArmSite (s s' : Stream) (n m m' : Nat) (brace : Nat) (arm : Arm) : Prop where
  mem : ∃ arms, Arm.ofBlock s brace = .ok arms ∧ arm ∈ arms
  arrow : arm.arrow + 1 = n
  stop : arm.stop = n + m
  no_case : ∀ k t u, s.get? arm.arrow = some u → n ≤ k → k < n + m → s.get? k = some t →
    t.depth = u.depth → t.isWord "case" = false
  no_case' : ∀ k t u, s.get? arm.arrow = some u → n ≤ k → k < n + m' → s'.get? k = some t →
    t.depth = u.depth → t.isWord "case" = false

/-- The block around the arm has the clauses for the branches in place of the call. -/
theorem ofBlock_inlined (h : Splice σ s s' n m m') (hstates : states.unplaced = states'.unplaced)
    (hhead : Blocks.BlockHead.Alike s (Spliced n m m') head head') {arm : Arm}
    (hsite : ArmSite s s' n m m' head.brace arm) {close : Nat}
    (hc : s.closer head.brace = .ok close) (hlt : head.brace < n) (hclose : n ≤ close)
    (hcall : ∀ bound, Pattern.boundNames s (arm.start + 1) arm.arrow = .ok bound →
      Body.branches s states n (n + m) bound = .ok [⟨none, .call name⟩])
    (hbody : ∀ bound, Body.branches s' states' n (n + m') bound = .ok bs) (hne : bs ≠ []) :
    σ.Agree (BlocksInlined σ name bs) (Blocks.ofBlock s states head)
      (Blocks.ofBlock s' states' head') := by
  obtain ⟨arms, harms, harm⟩ := hsite.mem
  have hpos := h.pos_length
  have harrowAt := hsite.arrow
  have hstopAt := hsite.stop
  obtain ⟨opening, hopening, hstart, ⟨t, ht, htd, -⟩, -⟩ := Arm.found_of_ofBlock harms harm
  have harrow : n - 1 = arm.arrow := by omega
  have hagree := h.armsOfBlock hhead.brace hopening hc hlt hclose ⟨t, by rw [harrow]; exact ht, htd⟩
    (fun k u hk hkm hu hud => hsite.no_case k u t ht hk hkm hu (by omega))
    fun k u hk hkm hu hud => hsite.no_case' k u t ht hk hkm hu (by omega)
  unfold Blocks.ofBlock
  rcases Agree.cases hagree with ⟨xs, ys, hxs, hys, hxy⟩ | ⟨e, e', he, -, -⟩
  · rw [harms] at hxs
    cases hxs
    rw [harms, hys]
    have hparts : List.Forall₂ (fun a b => σ.Agree (PartInlined σ name bs)
        (Blocks.ofArm s states head a) (Blocks.ofArm s' states' head' b)) arms ys := by
      refine ((List.forall₂_and_left _ _).mpr ⟨fun a ha => ha, hxy⟩).imp ?_
      rintro a b ⟨ha, hab⟩
      by_cases hside : n ≤ a.start ∨ a.stop < n
      · apply Agree.imp (h.ofArm_alike hstates hhead.ref hhead.source hab hside)
        rintro x y ⟨hclauses, hfindings⟩
        exact ⟨.of_alike hclauses, hfindings⟩
      · have heq : a = arm := Arm.eq_of_overlap harms ha harm (k := n) (by omega) (by omega)
          (by omega) (by omega)
        subst heq
        exact h.ofArm_inlined hhead.source hab harrowAt hstopAt hcall hbody hne
    apply Agree.bind (Agree.mapM hparts)
    intro parts parts' hparts
    refine ⟨?_, by rw [hhead.source], ?_⟩
    · exact .flatMap hparts fun x y hxy => hxy.1
    · exact List.rel_flatMap hparts fun x y hxy => hxy.2
  · rw [harms] at he
    cases he

lemma ofBlock_alike (h : Splice σ s s' n m m') (hstates : states.unplaced = states'.unplaced)
    (hhead : Blocks.BlockHead.Alike s (Spliced n m m') head head') {close : Nat}
    (hc : s.closer head.brace = .ok close) (hside : n ≤ head.brace ∨ close < n) :
    σ.Agree (Window.Fits.BlocksAlike σ) (Blocks.ofBlock s states head)
      (Blocks.ofBlock s' states' head') := by
  obtain ⟨hic, hcs⟩ := h.lockstep.nested.lt_closer hc
  have hopening := get?_of_lt (hic.trans hcs)
  obtain ⟨opening', ho', halike⟩ := h.lockstep.exists_get hhead.brace hopening
  rcases Agree.cases (h.lockstep.closer hhead.brace) with
    ⟨c, close', hc₁, hc', hcc, -⟩ | ⟨e, e', he, -⟩
  · rw [hc] at hc₁
    cases hc₁
    have hlast := get?_of_lt hcs
    obtain ⟨last', hlast', hlastAlike⟩ := h.lockstep.exists_get hcc hlast
    have hcloses := h.lockstep.nested.isSome_closes? hc hopening hlast
    have hdist := h.spliced_sub hhead.brace hcc (le_of_lt hic) hside
    have hfits := h.fits hhead.brace (Enclosed.of_closer h.lockstep.nested hopening hc) hside
    refine hfits.ofBlock hstates hhead.ref hhead.source (hfits.armsBetween hc hc' hopening ho' hlast
      hlast' hcloses (by rwa [← hlastAlike.toAlike.closes?]) halike.depth ?_ ?_)
    · simp only [Window.At]
      omega
    · simp only [Window.At]
      omega
  · rw [hc] at he
    cases he

/-- The block that starts at a place is read alike, or has the clauses for the branches in place of the
call, when no other block is around the arm. -/
lemma blockAt_inlined (h : Splice σ s s' n m m') (hstates : states.unplaced = states'.unplaced)
    {brace : Nat} {arm : Arm} (hsite : ArmSite s s' n m m' brace arm)
    (honly : ∀ head close, Blocks.blockHead? s states i = .ok (some head) →
      s.closer head.brace = .ok close → head.brace < n → n ≤ close → head.brace = brace)
    (hcall : ∀ bound, Pattern.boundNames s (arm.start + 1) arm.arrow = .ok bound →
      Body.branches s states n (n + m) bound = .ok [⟨none, .call name⟩])
    (hbody : ∀ bound, Body.branches s' states' n (n + m') bound = .ok bs) (hne : bs ≠ [])
    (hij : Spliced n m m' i j) :
    σ.Agree (BlocksInlined σ name bs) (Blocks.blockAt s states i) (Blocks.blockAt s' states' j) := by
  unfold Blocks.blockAt
  rcases Agree.cases (h.lockstep.blockHead? hstates hij) with
    ⟨x, y, hx, hy, hxy⟩ | ⟨e, e', hx, hy, he⟩
  · rw [hx, hy]
    cases hxy with
    | none => exact ⟨.nil, rfl, .nil⟩
    | @some head head' hhead =>
      obtain ⟨opening, hb, hmark⟩ := (Option.any_eq_true _ _).mp ((hasMark_eq_any ..) ▸ hhead.isBrace)
      obtain ⟨close, hc⟩ := h.lockstep.nested.exists_closer h.balance hb
        (Lexeme.isOpening_of_isMark hmark (by decide))
      by_cases hside : n ≤ head.brace ∨ close < n
      · apply Agree.imp (h.ofBlock_alike hstates hhead hc hside)
        rintro x y ⟨hclauses, hsources, hfindings⟩
        exact ⟨.of_alike hclauses, hsources, hfindings⟩
      · have heq := honly head close hx hc (by omega) (by omega)
        rw [← heq] at hsite
        exact h.ofBlock_inlined hstates hhead hsite hc (by omega) (by omega) hcall hbody hne
  · rw [hx, hy]
    exact he

/-- Blocks on both sides, alike but for the arm that calls the helper in the first, when no other
block is around it and none starts in the parts. -/
theorem blocksOfStream (h : Splice σ s s' n m m') (hstates : states.unplaced = states'.unplaced)
    (hbalance : s'.problems = []) {brace : Nat} {arm : Arm}
    (hsite : ArmSite s s' n m m' brace arm)
    (honly : ∀ i head close, Blocks.blockHead? s states i = .ok (some head) →
      s.closer head.brace = .ok close → head.brace < n → n ≤ close → head.brace = brace)
    (hnone : ∀ i, n ≤ i → i < n + m → Blocks.blockHead? s states i = .ok none)
    (hnone' : ∀ j, n ≤ j → j < n + m' → Blocks.blockHead? s' states' j = .ok none)
    (hcall : ∀ bound, Pattern.boundNames s (arm.start + 1) arm.arrow = .ok bound →
      Body.branches s states n (n + m) bound = .ok [⟨none, .call name⟩])
    (hbody : ∀ bound, Body.branches s' states' n (n + m') bound = .ok bs) (hne : bs ≠ []) :
    σ.Agree (BlocksInlined σ name bs) (Blocks.ofStream s states) (Blocks.ofStream s' states') := by
  obtain ⟨as, has, hasEmpty⟩ := Blocks.exists_mapM_blockAt hnone
  obtain ⟨bs', hbs, hbsEmpty⟩ := Blocks.exists_mapM_blockAt hnone'
  have hempty : ∀ {α : Type} {l : List (Blocks × List Finding)} {f : Blocks × List Finding → List α},
      (∀ x ∈ l, x = (⟨[], []⟩, [])) → f (⟨[], []⟩, []) = [] → l.flatMap f = [] := by
    intro α l f hl hf
    rw [List.flatMap_eq_nil_iff]
    intro x hx
    rw [hl x hx, hf]
  unfold Blocks.ofStream
  rw [requireBalance_eq_ok h.balance, requireBalance_eq_ok hbalance]
  apply Agree.bind (h.mapM_range
    (fun i j => h.blockAt_inlined hstates hsite (honly i) hcall hbody hne) has hbs)
  rintro _ _ ⟨u, v, u', v', rfl, rfl, hu, hv, -⟩
  simp only [List.flatMap_append, hempty hasEmpty, hempty hbsEmpty, List.nil_append]
  have hall := List.rel_append hu hv
  rw [← List.flatMap_append, ← List.flatMap_append, ← List.flatMap_append, ← List.flatMap_append,
    ← List.flatMap_append, ← List.flatMap_append]
  refine ⟨.flatMap hall fun x y hxy => hxy.1, ?_, List.rel_flatMap hall fun x y hxy => hxy.2.2⟩
  have hsources : (u ++ v).map (·.1.sources) = (u' ++ v').map (·.1.sources) :=
    map_eq_of_forall₂ hall fun _ _ hxy => hxy.2.1
  simp only [List.flatMap_def, hsources]

end Stream.Splice

end ActorDiagram
