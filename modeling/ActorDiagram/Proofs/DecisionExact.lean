import Mathlib
import ActorDiagram.Proofs.DecisionReading

/-!
# Decision trees are read exactly

The reader of bodies finds one outcome for each leaf of a tree, labelled with the way to it, when the
tree is legible; otherwise it finds something else or fails.
-/

namespace ActorDiagram.Body

variable {read : Reader} {s : Stream} {states : StateIndex} {bound : List String}
  {d i limit : Nat} {u v ways : List Way} {label : String}

/-! ### Arms of a `match` -/

section Arms

variable {p : CasePattern} {found : List Arm} {e : Nat}

lemma ofArms_cons (h : s.Says d (i + 1) p.words) (hp : p.isNamed = true) :
    ∃ names, ofArms read s bound (⟨i, i + 1 + p.words.length, e⟩ :: found) =
      joined p.label (read (i + p.head.length) e (bound ++ names)) (ofArms read s bound found) := by
  obtain ⟨names, hnames⟩ := CasePattern.boundNames_ok h hp
  have harrow : i + (p.words.length + 2) = i + 1 + p.words.length + 1 := by omega
  refine ⟨names, ?_⟩
  rw [ofArms, CasePattern.text_eq h, hnames, p.length_head, harrow]
  rfl

lemma ofArms_unnamed (h : s.Says d (i + 1) p.words) (hp : p.isNamed = false) :
    ofArms read s bound (⟨i, i + 1 + p.words.length, e⟩ :: found) = .error .emptyIdentifier := by
  rw [ofArms, CasePattern.text_eq h, CasePattern.boundNames_error h hp]
  rfl

end Arms

/-! ### Legible trees -/

lemma unplace_joined {x y : Except Error (List Branch)} (hl : label ≠ "") (hu : Labelled u)
    (hx : unplace x = outcomesOf states u) (hy : unplace y = outcomesOf states v) :
    unplace (joined label x y) = outcomesOf states (u.map (Way.under label) ++ v) := by
  rw [outcomesOf_append, outcomesOf_under hl hu, ← hx, ← hy]
  unfold joined
  cases x with
  | error e => rfl
  | ok bs => cases y <;> rfl

lemma unplace_orElse {x : Except Error (List Branch)} (hways : ways ≠ [])
    (hx : unplace x = outcomesOf states ways) (y : Except Error (Option Action)) :
    unplace (orElse x y) = outcomesOf states ways := by
  have hne : ∀ bs, x = .ok bs → bs ≠ [] := by
    rintro bs rfl rfl
    have hlabels := labels_of_outcomesOf hx.symm
    exact hways (List.map_eq_nil_iff.mp hlabels.symm)
  rw [orElse_eq_left hne, hx]

lemma unplace_map {α β : Type} (x : Except Error α) (f : α → β) :
    unplace (x.map f) = (unplace x).map f := by
  cases x <;> rfl

lemma Stream.followsMark_of_brace {ws : List Word} (h : s.Says d i (.mark leftBrace :: ws)) :
    s.followsMark (i + 1) "." = false := by
  obtain ⟨t, ht, htw, -⟩ := h.head (by decide)
  exact Stream.followsMark_of_get? ht (by rw [htw]; decide)

lemma says_arm {p : CasePattern} {body : Tree} {ws : List Word}
    (h : s.Says d i (p.head ++ (body.words ++ ws))) :
    s.Says d (i + 1) p.words ∧ s.Says d (i + p.head.length) body.words ∧
      s.followsMark (i + p.head.length) "." = false ∧
      s.Says d (i + p.head.length + body.words.length) ws := by
  obtain ⟨-, hp, ⟨t, ht, htw, -⟩, hbody⟩ := CasePattern.says_head h
  have hdot := Stream.followsMark_of_get? ht (by rw [htw]; decide)
  have harrow : i + 1 + p.words.length + 1 = i + p.head.length := by
    rw [p.length_head]
    omega
  rw [harrow] at hdot
  exact ⟨hp, hbody.left, hdot, hbody.right_of_balanced body.balanced_words⟩

lemma armStop_of_isWhole {T : Tree} (h : T.isWhole = true) : T.armStop i = i + T.words.length := by
  rw [Tree.armStop, Tree.stray_of_isWhole h]
  rfl

mutual

theorem branchesWithin_tree {bound : List String} {d i limit : Nat} : ∀ {T : Tree},
    s.Says d i T.words → s.followsMark i "." = false → T.nesting ≤ limit → T.isLegible = true →
    unplace (branchesWithin s states limit i (i + T.words.length) bound) = T.outcomes states
  | .leaf l, h, hdot, hlimit, _ => by
    obtain ⟨limit, rfl⟩ : ∃ n, limit = n + 1 := ⟨limit - 1, by rw [Tree.nesting] at hlimit; omega⟩
    have hfind : unplace (Directive.find? s states bound i (i + l.words.length)) =
        (l.action states).map some :=
      find?_of_at? (mt List.eq_nil_of_length_eq_zero l.words_ne_nil) (at?_of_words h hdot)
    rw [branchesWithin, Tree.words, branchesWith_leaf h, unplace_map, hfind, Tree.outcomes,
      Tree.ways, outcomesOf_cons]
    unfold Way.branch
    cases l.action states <;> rfl
  | .conditional c body rest, h, _, hlimit, hlegible => by
    rw [Tree.nesting] at hlimit
    rw [Tree.isLegible, Bool.and_eq_true] at hlegible
    obtain ⟨limit, rfl⟩ : ∃ n, limit = n + 1 := ⟨limit - 1, by omega⟩
    obtain ⟨hbrace, hbody, hrest⟩ := says_conditional h
    rw [branchesWithin, branchesWith_conditional h]
    apply unplace_orElse (Tree.ways_ne_nil _)
    apply unplace_joined c.label_ne body.labelled
    · exact branchesWithin_tree hbody (Stream.followsMark_of_brace hbrace) (by omega) hlegible.1
    · exact ofChain_chain hrest (by omega) hlegible.2
  | .matching subject arms, h, _, hlimit, hlegible => by
    rw [Tree.nesting] at hlimit
    rw [Tree.isLegible] at hlegible
    obtain ⟨limit, rfl⟩ : ∃ n, limit = n + 1 := ⟨limit - 1, by omega⟩
    rw [branchesWithin, branchesWith_matching h]
    apply unplace_orElse (Tree.ways_ne_nil _)
    exact ofArms_arms (says_matching h) (by omega) hlegible

theorem ofChain_chain {bound : List String} {d i limit : Nat} : ∀ {rest : Chain},
    s.Says d i rest.words → rest.nesting ≤ limit → rest.isLegible = true →
    unplace (ofChain (branchesWithin s states limit) bound i rest) = outcomesOf states rest.ways
  | .done, _, _, _ => rfl
  | .otherwise body, h, hlimit, hlegible => by
    rw [Chain.nesting] at hlimit
    rw [Chain.isLegible] at hlegible
    obtain ⟨hbrace, hbody⟩ := says_otherwise h
    have hways : (Chain.otherwise body).ways = body.ways.map (Way.under "else") ++ [] := by
      rw [Chain.ways, List.append_nil]
    rw [hways, ofChain]
    apply unplace_joined (by decide) body.labelled
    · exact branchesWithin_tree hbody (Stream.followsMark_of_brace hbrace) hlimit hlegible
    · rfl
  | .elseIf c body rest, h, hlimit, hlegible => by
    rw [Chain.nesting] at hlimit
    rw [Chain.isLegible, Bool.and_eq_true] at hlegible
    obtain ⟨hbrace, hbody, hrest⟩ := says_conditional (h.tail rfl)
    rw [ofChain]
    apply unplace_joined c.label_ne body.labelled
    · exact branchesWithin_tree hbody (Stream.followsMark_of_brace hbrace) (by omega) hlegible.1
    · exact ofChain_chain hrest (by omega) hlegible.2

theorem ofArms_arms {bound : List String} {d i limit : Nat} : ∀ {arms : Arms},
    s.Says d i arms.words → arms.nesting ≤ limit → arms.isLegible = true →
    unplace (ofArms (branchesWithin s states limit) s bound (arms.found i)) =
      outcomesOf states arms.ways
  | .one p body, h, hlimit, hlegible => by
    rw [Arms.nesting] at hlimit
    simp only [Arms.isLegible, Bool.and_eq_true] at hlegible
    obtain ⟨⟨hnamed, hwhole⟩, hlegible⟩ := hlegible
    rw [Arms.words, ← List.append_nil body.words] at h
    obtain ⟨hp, hbody, hdot, -⟩ := says_arm h
    have hways : (Arms.one p body).ways = body.ways.map (Way.under p.label) ++ [] := by
      rw [Arms.ways, List.append_nil]
    rw [hways, Arms.found, armStop_of_isWhole hwhole]
    obtain ⟨names, hread⟩ := ofArms_cons hp hnamed
    rw [hread]
    apply unplace_joined p.label_ne body.labelled
    · exact branchesWithin_tree hbody hdot hlimit hlegible
    · rfl
  | .more p body rest, h, hlimit, hlegible => by
    rw [Arms.nesting] at hlimit
    simp only [Arms.isLegible, Bool.and_eq_true] at hlegible
    obtain ⟨⟨⟨hnamed, hwhole⟩, hlegible⟩, hothers⟩ := hlegible
    obtain ⟨hp, hbody, hdot, hrest⟩ := says_arm h
    rw [Arms.found, armStop_of_isWhole hwhole]
    obtain ⟨names, hread⟩ := ofArms_cons hp hnamed
    rw [hread]
    apply unplace_joined p.label_ne body.labelled
    · exact branchesWithin_tree hbody hdot (by omega) hlegible
    · exact ofArms_arms hrest (by omega) hothers

end

/-! ### Illegible trees -/

/-- Outcomes that are no more than these ways, and have the labels of all of them only if
`legible`. -/
structure AtMost (legible : Bool) (ways : List Way) (bs : List Branch) : Prop where
  length_le : bs.length ≤ ways.length
  label_ne : ∀ b ∈ bs, b.label ≠ some ""
  legible : bs.map (·.label) = ways.map Way.label → legible = true

/-- At most one outcome without a label is not what ways with labels lead to. -/
lemma AtMost.of_unlabelled {bs : List Branch} (legible : Bool) (hlen : bs.length ≤ 1)
    (hnone : ∀ b ∈ bs, b.label = none) (hways : ways ≠ []) (hpath : ∀ w ∈ ways, w.1 ≠ []) :
    AtMost legible ways bs := by
  refine ⟨hlen.trans (List.length_pos_iff.mpr hways), ?_, ?_⟩
  · intro b hb
    rw [hnone b hb]
    simp
  · intro hlabels
    cases ways with
    | nil => exact absurd rfl hways
    | cons w ways =>
      cases bs with
      | nil => simp at hlabels
      | cons b bs =>
        rw [List.map_cons, List.map_cons, List.cons.injEq, hnone b List.mem_cons_self] at hlabels
        have hw := hpath w List.mem_cons_self
        rw [Way.label, if_neg (by simpa using hw)] at hlabels
        simp at hlabels

lemma joinLabels_inj {x y : Option String} (hl : label ≠ "") (hx : x ≠ some "")
    (hy : y ≠ some "") (h : Branch.joinLabels label x = Branch.joinLabels label y) : x = y := by
  have hsome {a : String} (ha : some a ≠ some "") : Branch.nonempty? a = some a :=
    Branch.nonempty?_of_ne fun heq => ha (by rw [heq])
  unfold Branch.joinLabels at h
  rw [Branch.nonempty?_of_ne hl] at h
  cases x with
  | none =>
    cases y with
    | none => rfl
    | some b =>
      simp only [Option.bind_none, Option.bind_some, hsome hy, Option.some.injEq] at h
      have hlen := congrArg String.length h
      rw [String.length_append, String.length_append, show "/".length = 1 from rfl] at hlen
      omega
  | some a =>
    cases y with
    | none =>
      simp only [Option.bind_none, Option.bind_some, hsome hx, Option.some.injEq] at h
      have hlen := congrArg String.length h
      rw [String.length_append, String.length_append, show "/".length = 1 from rfl] at hlen
      omega
    | some b =>
      simp only [Option.bind_some, hsome hx, hsome hy, Option.some.injEq] at h
      have hlists := congrArg String.toList h
      simp only [String.toList_append, List.append_cancel_left_eq] at hlists
      rw [String.toList_injective hlists]

lemma Labelled.label_ne (h : Labelled ways) : ∀ w ∈ ways, w.label ≠ some "" := by
  rintro ⟨path, leaf⟩ hw
  cases path with
  | nil => simp [Way.label]
  | cons x xs =>
    have hne : "/".intercalate (x :: xs) ≠ "" :=
      intercalate_ne (h _ hw x List.mem_cons_self)
    simp [Way.label, hne]

lemma labels_under {bs : List Branch} (hl : label ≠ "") (hu : Labelled u)
    (hbs : ∀ b ∈ bs, b.label ≠ some "")
    (h : (bs.map (Branch.under label)).map (·.label) = (u.map (Way.under label)).map Way.label) :
    bs.map (·.label) = u.map Way.label := by
  induction bs generalizing u with
  | nil =>
    cases u with
    | nil => rfl
    | cons w u => simp at h
  | cons b bs ih =>
    cases u with
    | nil => simp at h
    | cons w u =>
      simp only [List.map_cons, List.cons.injEq] at h ⊢
      have hw := hu w List.mem_cons_self
      rw [Way.label_under hl hw] at h
      refine ⟨joinLabels_inj hl (hbs b List.mem_cons_self)
        (Labelled.label_ne hu w List.mem_cons_self) h.1, ?_⟩
      exact ih (fun x hx => hu x (List.mem_cons_of_mem _ hx))
        (fun x hx => hbs x (List.mem_cons_of_mem _ hx)) h.2

lemma atMost_nil : AtMost true [] [] := ⟨le_refl _, by simp, fun _ => rfl⟩

lemma AtMost.joined {l₁ l₂ : Bool} {bs cs : List Branch} (hl : label ≠ "") (hu : Labelled u)
    (hbs : AtMost l₁ u bs) (hcs : AtMost l₂ v cs) :
    AtMost (l₁ && l₂) (u.map (Way.under label) ++ v) (bs.map (Branch.under label) ++ cs) := by
  have hb := hbs.length_le
  have hc := hcs.length_le
  refine ⟨?_, ?_, ?_⟩
  · simp only [List.length_append, List.length_map]
    omega
  · intro b hb
    rcases List.mem_append.mp hb with hb | hb
    · obtain ⟨b, -, rfl⟩ := List.mem_map.mp hb
      unfold Branch.under Branch.joinLabels
      rw [Branch.nonempty?_of_ne hl]
      cases b.label.bind Branch.nonempty? <;> simp [hl]
    · exact hcs.label_ne b hb
  · intro h
    have hlen := congrArg List.length h
    simp only [List.map_append, List.length_append, List.length_map] at h hlen
    obtain ⟨h₁, h₂⟩ := List.append_inj h (by simp only [List.length_map]; omega)
    rw [hbs.legible (labels_under hl hu hbs.label_ne h₁), hcs.legible h₂]
    rfl

lemma of_joined {x y : Except Error (List Branch)} {bs : List Branch}
    (h : joined label x y = .ok bs) :
    ∃ as cs, x = .ok as ∧ y = .ok cs ∧ bs = as.map (Branch.under label) ++ cs := by
  unfold joined at h
  obtain ⟨as, hx, h⟩ := bind_eq_ok_iff.mp h
  obtain ⟨cs, hy, h⟩ := bind_eq_ok_iff.mp h
  cases h
  exact ⟨as, cs, hx, hy, rfl⟩

lemma unlabelled_of_action {y : Except Error (Option Action)} {bs : List Branch}
    (h : (y.map fun a => a.toList.map fun a => (⟨none, a⟩ : Branch)) = .ok bs) :
    bs.length ≤ 1 ∧ ∀ b ∈ bs, b.label = none := by
  obtain ⟨a, -, rfl⟩ := map_eq_ok_iff.mp h
  cases a <;> simp

/-- What is read for a branching is at most its ways, also when an action is read instead. -/
lemma atMost_of_orElse {x : Except Error (List Branch)} {y : Except Error (Option Action)}
    {bs : List Branch} {legible : Bool} (hways : ways ≠ []) (hpath : ∀ w ∈ ways, w.1 ≠ [])
    (hx : ∀ as, x = .ok as → AtMost legible ways as) (h : orElse x y = .ok bs) :
    AtMost legible ways bs := by
  unfold orElse at h
  obtain ⟨as, has, h⟩ := bind_eq_ok_iff.mp h
  by_cases hempty : as.isEmpty = true
  · rw [if_pos hempty] at h
    obtain ⟨hlen, hnone⟩ := unlabelled_of_action h
    exact .of_unlabelled legible hlen hnone hways hpath
  · rw [if_neg hempty] at h
    cases h
    exact hx bs has

lemma DottedName.caseIndices_eq_cons {xs : List String} (h : "case" ∈ xs) (i : Nat) :
    ∃ k ks, DottedName.caseIndices i xs = k :: ks ∧ i ≤ k ∧ k + 1 < i + 2 * xs.length := by
  induction xs generalizing i with
  | nil => simp at h
  | cons x xs ih =>
    rw [DottedName.caseIndices, List.length_cons]
    by_cases hx : x = "case"
    · rw [if_pos hx]
      exact ⟨i, _, rfl, le_refl i, by omega⟩
    · rw [if_neg hx]
      obtain ⟨k, ks, hk, hle, hlt⟩ := ih ((List.mem_cons.mp h).resolve_left (Ne.symm hx)) (i + 2)
      exact ⟨k, ks, hk, by omega, by omega⟩

lemma branchesWithin_subject {n : DottedName} {ws : List Word} {e : Nat} {bs : List Branch}
    (h : s.Says d i (n.words ++ ws)) (hie : i ≤ e) (he : e ≤ i + n.words.length)
    (hbs : branchesWithin s states limit i e bound = .ok bs) :
    bs.length ≤ 1 ∧ ∀ b ∈ bs, b.label = none := by
  cases limit with
  | zero => cases hbs
  | succ limit =>
    rw [branchesWithin] at hbs
    rcases Nat.eq_or_lt_of_le hie with rfl | hlt
    · rw [branchesWith, if_pos (le_refl i)] at hbs
      cases hbs
      simp
    · have hmark (m : String) (hm : m ≠ ".") (k : Nat) (hk : i ≤ k) (hke : k < e) :
          s.hasMark k m = false := by
        obtain ⟨t, ht, htw⟩ := h.left.get?_of_lt hk (by omega)
        rw [Stream.Says.hasMark_of_word ht]
        refine Bool.eq_false_iff.mpr (mt Lexeme.isMark_iff.mp ?_)
        rcases DottedName.mem_words (List.mem_of_getElem? htw) with hw | ⟨x, -, hw⟩
        · rw [hw]
          exact fun heq => hm (congrArg Word.text heq).symm
        · rw [hw]
          exact fun heq => by cases heq
      have hsize := h.left.le_size
      have hnone : branching (branchesWithin s states limit) s bound e
          (leastDepth (s.part i (e - i))) (s.part i (e - i)) = .ok none := by
        apply branching_eq_none
        · intro x hx _ hxe _
          exact hmark _ (by decide) _ (by have := (Stream.mem_part.mp hx).1; omega) hxe
        · intro x hx _ hxe _
          exact hmark _ (by decide) _ (by have := (Stream.mem_part.mp hx).1; omega) hxe
      rw [branchesWith_of_none hlt (Stream.range_eq_part (by omega)) rfl hnone] at hbs
      exact unlabelled_of_action hbs

/-- The body of an arm that is cut short has too few labels. -/
lemma atMost_body {body : Tree} {bs : List Branch} (h : s.Says d i body.words)
    (ih : ∀ as, branchesWithin s states limit i (i + body.words.length) bound = .ok as →
      AtMost body.isLegible body.ways as)
    (hbs : branchesWithin s states limit i (body.armStop i) bound = .ok bs) :
    AtMost (body.isWhole && body.isLegible) body.ways bs := by
  by_cases hwhole : body.isWhole = true
  · rw [armStop_of_isWhole hwhole] at hbs
    rw [hwhole, Bool.true_and]
    exact ih bs hbs
  · cases body with
    | leaf l => exact absurd rfl hwhole
    | conditional c body rest => exact absurd rfl hwhole
    | matching subject arms =>
      have hcase : "case" ∈ subject.parts := by simpa [Tree.isWhole] using hwhole
      obtain ⟨k, ks, hks, hik, hk⟩ := DottedName.caseIndices_eq_cons hcase i
      have hstop : (Tree.matching subject arms).armStop i = k := by
        rw [Tree.armStop, Tree.stray, hks]
        rfl
      rw [DottedName.parts, List.length_cons] at hk
      rw [hstop] at hbs
      have hwords : (Tree.matching subject arms).words =
          subject.words ++ bracedArm [.name "match"] arms.words [] := by
        simp [Tree.words, bracedArm]
      rw [hwords] at h
      obtain ⟨hlen, hnone⟩ :=
        branchesWithin_subject h hik (by rw [DottedName.length_words]; omega) hbs
      exact .of_unlabelled _ hlen hnone arms.ways_ne_nil arms.path_ne

mutual

theorem atMost_tree {bound : List String} {d i limit : Nat} {bs : List Branch} : ∀ {T : Tree},
    s.Says d i T.words →
    branchesWithin s states limit i (i + T.words.length) bound = .ok bs →
    AtMost T.isLegible T.ways bs
  | .leaf l, h, hbs => by
    cases limit with
    | zero => cases hbs
    | succ limit =>
      rw [branchesWithin, Tree.words, branchesWith_leaf h] at hbs
      obtain ⟨hlen, hnone⟩ := unlabelled_of_action hbs
      refine ⟨hlen, ?_, fun _ => rfl⟩
      intro b hb
      rw [hnone b hb]
      simp
  | .conditional c body rest, h, hbs => by
    cases limit with
    | zero => cases hbs
    | succ limit =>
      obtain ⟨-, hbody, hrest⟩ := says_conditional h
      rw [branchesWithin, branchesWith_conditional h] at hbs
      refine atMost_of_orElse (Tree.ways_ne_nil _) ?_ ?_ hbs
      · intro w hw
        rcases List.mem_append.mp hw with hw | hw
        · exact path_ne_of_under hw
        · exact rest.path_ne w hw
      · intro bs hjoined
        obtain ⟨as, cs, has, hcs, rfl⟩ := of_joined hjoined
        exact (atMost_tree hbody has).joined c.label_ne body.labelled (atMost_chain hrest hcs)
  | .matching subject arms, h, hbs => by
    cases limit with
    | zero => cases hbs
    | succ limit =>
      rw [branchesWithin, branchesWith_matching h] at hbs
      refine atMost_of_orElse arms.ways_ne_nil arms.path_ne ?_ hbs
      intro as has
      exact atMost_arms (says_matching h) has

theorem atMost_chain {bound : List String} {d i limit : Nat} {bs : List Branch} :
    ∀ {rest : Chain}, s.Says d i rest.words →
    ofChain (branchesWithin s states limit) bound i rest = .ok bs →
    AtMost rest.isLegible rest.ways bs
  | .done, _, hbs => by
    cases hbs
    exact atMost_nil
  | .otherwise body, h, hbs => by
    obtain ⟨-, hbody⟩ := says_otherwise h
    rw [ofChain] at hbs
    obtain ⟨as, cs, has, hcs, rfl⟩ := of_joined hbs
    cases hcs
    have hatMost := (atMost_tree hbody has).joined (show "else" ≠ "" by decide) body.labelled
      atMost_nil
    rw [Bool.and_true, List.append_nil] at hatMost
    exact hatMost
  | .elseIf c body rest, h, hbs => by
    obtain ⟨-, hbody, hrest⟩ := says_conditional (h.tail rfl)
    rw [ofChain] at hbs
    obtain ⟨as, cs, has, hcs, rfl⟩ := of_joined hbs
    exact (atMost_tree hbody has).joined c.label_ne body.labelled (atMost_chain hrest hcs)

theorem atMost_arms {bound : List String} {d i limit : Nat} {bs : List Branch} :
    ∀ {arms : Arms}, s.Says d i arms.words →
    ofArms (branchesWithin s states limit) s bound (arms.found i) = .ok bs →
    AtMost arms.isLegible arms.ways bs
  | .one p body, h, hbs => by
    rw [Arms.words, ← List.append_nil body.words] at h
    obtain ⟨hp, hbody, -, -⟩ := says_arm h
    rw [Arms.found] at hbs
    cases hnamed : p.isNamed with
    | false =>
      rw [ofArms_unnamed hp hnamed] at hbs
      cases hbs
    | true =>
      obtain ⟨names, hread⟩ := ofArms_cons hp hnamed
      rw [hread] at hbs
      obtain ⟨as, cs, has, hcs, rfl⟩ := of_joined hbs
      cases hcs
      have hatMost := (atMost_body hbody (fun _ => atMost_tree hbody) has).joined p.label_ne
        body.labelled atMost_nil
      rw [Bool.and_true, List.append_nil] at hatMost
      rw [Arms.isLegible, hnamed, Bool.true_and]
      exact hatMost
  | .more p body rest, h, hbs => by
    obtain ⟨hp, hbody, -, hrest⟩ := says_arm h
    rw [Arms.found] at hbs
    cases hnamed : p.isNamed with
    | false =>
      rw [ofArms_unnamed hp hnamed] at hbs
      cases hbs
    | true =>
      obtain ⟨names, hread⟩ := ofArms_cons hp hnamed
      rw [hread] at hbs
      obtain ⟨as, cs, has, hcs, rfl⟩ := of_joined hbs
      rw [Arms.isLegible, hnamed, Bool.true_and]
      exact (atMost_body hbody (fun _ => atMost_tree hbody) has).joined p.label_ne body.labelled
        (atMost_arms hrest hcs)

end

/-! ### Reading a tree -/

/-- The outcomes of a tree in a text are read exactly, one for each leaf, if and only if the tree is
legible. A legible tree that names an ambiguous state fails as its first such leaf does. -/
theorem branches_eq_outcomes_iff (T : Tree) (states : StateIndex) (bound : List String)
    (before body after : List Lexeme) (hbody : wordsOf body = T.words)
    (hdot : ∀ t ∈ before.getLast?, t.word ≠ .mark ".") (hdeep : T.nesting ≤ nestingLimit) :
    let found := branches (Stream.ofLexemes (before ++ (body ++ after))) states before.length
      (before.length + body.length) bound
    (∀ outcomes, T.outcomes states = .ok outcomes →
      (found = .ok outcomes ↔ T.isLegible = true)) ∧
    (T.isLegible = true → unplace found = T.outcomes states) := by
  intro found
  have hsays : (Stream.ofLexemes (before ++ (body ++ after))).Says (levelAfter before)
      before.length T.words := ⟨before, body, after, rfl, rfl, rfl, hbody⟩
  have hlen : body.length = T.words.length := by rw [← hbody, wordsOf, List.length_map]
  have hfound : found = branchesWithin (Stream.ofLexemes (before ++ (body ++ after))) states
      nestingLimit before.length (before.length + T.words.length) bound := by
    rw [← hlen]
    rfl
  have hprev := Stream.followsMark_ofLexemes (body ++ after) hdot
  have hexact : T.isLegible = true → unplace found = T.outcomes states := by
    intro hlegible
    rw [hfound]
    exact branchesWithin_tree hsays hprev hdeep hlegible
  refine ⟨?_, hexact⟩
  intro outcomes houtcomes
  constructor
  · intro hok
    rw [hfound] at hok
    exact (atMost_tree hsays hok).legible (labels_of_outcomesOf houtcomes)
  · intro hlegible
    have hunplaced := hexact hlegible
    rw [houtcomes] at hunplaced
    cases hf : found with
    | error e =>
      rw [hf] at hunplaced
      cases hunplaced
    | ok bs =>
      rw [hf] at hunplaced
      cases hunplaced
      rfl

/-! ### Two bodies -/

/-- Lexeme that says this word. -/
def lexemeOf (w : Word) : Lexeme := ⟨w.kind, w.text, .start⟩

/-- The body of `=> s match { case Ping => if (x) { goto(A) } else { stay() } case q => stop() }`. -/
def pingTree : Tree :=
  .matching ⟨"s", []⟩
    (.more ⟨[.name "Ping"], by decide, by decide, by decide, by decide⟩
      (.conditional ⟨[.name "x"], by decide, by decide⟩ (.leaf (.goto ⟨"A", []⟩))
        (.otherwise (.leaf .stay)))
      (.one ⟨[.name "q"], by decide, by decide, by decide, by decide⟩ (.leaf .stop)))

theorem branches_pingTree :
    branches (Stream.ofLexemes ([lexemeOf .arrow] ++ (pingTree.words.map lexemeOf ++ []))) .empty 1
        (1 + (pingTree.words.map lexemeOf).length) [] =
      .ok [⟨some "Ping/x", .goto "A" none⟩, ⟨some "Ping/else", .stay none⟩,
        ⟨some "q", .stop false none⟩] := by
  have h := branches_eq_outcomes_iff pingTree .empty [] [lexemeOf .arrow]
    (pingTree.words.map lexemeOf) [] (by decide) (by decide) (by decide)
  exact (h.1 _ rfl).mpr rfl

/-- A `match` whose one pattern starts with an identifier between back quotes that is empty. -/
def unnamedTree : Tree :=
  .matching ⟨"s", []⟩
    (.one ⟨[.name "", ⟨.operator, "::"⟩, .name "x"], by decide, by decide, by decide, by decide⟩
      (.leaf .stay))

theorem branches_unnamedTree :
    unnamedTree.outcomes .empty = .ok [⟨some " :: x", .stay none⟩] ∧
    branches (Stream.ofLexemes (unnamedTree.words.map lexemeOf)) .empty 0
      unnamedTree.words.length [] = .error .emptyIdentifier := by
  exact ⟨rfl, rfl⟩

end ActorDiagram.Body
