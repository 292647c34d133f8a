import Mathlib
import ActorDiagram.Proofs.WindowDirective

/-!
# Bodies in a window

Patterns, arms and the outcomes of bodies are read alike in a window and in its copy.
-/

namespace ActorDiagram

lemma Pattern.event_eq (s : Stream) (start stop : Nat) :
    Pattern.event s start stop = (do
      let stop ← Pattern.guardStart s start stop
      if (s.get? start).any (·.isWord "Event") && start + 1 < stop && s.hasMark (start + 1) "(" then
        let close ← s.closer (start + 1)
        let argumentEnd ← s.firstArgumentEnd (start + 2) close
        .ok (stripQuotes (s.text (start + 2) argumentEnd))
      else .ok (stripQuotes (s.text start stop))) := by
  unfold Pattern.event
  cases s.get? start <;> rfl

lemma Arm.starts_eq (s : Stream) (i : Nat) (t : Token) :
    Arm.starts s i t =
      (t.isWord "case" && !(s.get? (i + 1)).any (·.isWordOf ["object", "class"])) := by
  unfold Arm.starts
  cases s.get? (i + 1) <;> rfl

lemma Body.startsIf_eq (s : Stream) (i : Nat) :
    Body.startsIf s i = ((s.get? i).any (·.isWord "if") && s.hasMark (i + 1) "(") := by
  unfold Body.startsIf
  cases s.get? i <;> rfl

lemma Body.conditional_succ (read : Body.Reader) (s : Stream) (bound : List String)
    (stop fuel i : Nat) :
    Body.conditional read s bound stop (fuel + 1) i = (do
      let close ← s.closer (i + 1)
      let thenEnd ← Body.armStop s (close + 1) stop
      let branches ← Body.arm read s bound (s.text (i + 2) close) (close + 1) thenEnd
      if !(decide (thenEnd < stop) && (s.get? thenEnd).any (·.isWord "else")) then .ok branches
      else if Body.startsIf s (thenEnd + 1) then
        let others ← Body.conditional read s bound stop fuel (thenEnd + 1)
        .ok (branches ++ others)
      else
        let elseEnd ← Body.armStop s (thenEnd + 1) stop
        let others ← Body.arm read s bound "else" (thenEnd + 1) elseEnd
        .ok (branches ++ others)) := by
  rw [Body.conditional]
  apply bind_congr
  intro close
  apply bind_congr
  intro thenEnd
  apply bind_congr
  intro branches
  cases s.get? thenEnd <;> rfl

lemma Window.not_if_of_quietAfter {t : Token} (h : quietAfter t = true) :
    t.isWord "if" = false := by
  simp only [quietAfter, Bool.and_eq_true, Bool.not_eq_true'] at h
  exact h.2

namespace Window.Fits

variable {w : Window} {s s' : Stream} {states states' : StateIndex} {i j k l : Nat}

/-! ### Patterns -/

lemma guardStart (h : w.Fits s s') (hij : w.At i j) (hkl : w.At k l) :
    w.likeness.Agree (fun a b => w.At a b ∧ a ≤ k) (Pattern.guardStart s i k)
      (Pattern.guardStart s' j l) := by
  unfold Pattern.guardStart
  apply Agree.bind (h.depthAt hij hkl)
  intro d d' hd
  apply Agree.bind (h.range hij hkl)
  intro xs ys hxs
  obtain ⟨hat, hle, -⟩ := first (f := fun x => x.2.depth == d && x.2.isWord "if")
    (g := fun y => y.2.depth == d' && y.2.isWord "if") hkl hxs (by
      intro x y hxy
      have hlt : i < k := lt_of_le_of_lt hxy.lower hxy.upper
      rw [hxy.alike.depth_beq (hd hlt), hxy.alike.isWord])
  exact ⟨hat, hle⟩

theorem patternText (h : w.Fits s s') (hij : w.At i j) (hkl : w.At k l) :
    w.likeness.Agree (fun x y => w.likeness.exact → x = y) (Pattern.text s i k)
      (Pattern.text s' j l) := by
  unfold Pattern.text
  apply Agree.bind (h.guardStart hij hkl)
  rintro a b ⟨hab, -⟩
  intro hexact
  rw [h.text hij hab hexact]

theorem event (h : w.Fits s s') (hij : w.At i j) (hkl : w.At k l) :
    w.likeness.Agree (fun x y => w.likeness.exact → x = y) (Pattern.event s i k)
      (Pattern.event s' j l) := by
  rw [Pattern.event_eq, Pattern.event_eq]
  apply Agree.bind (h.guardStart hij hkl)
  rintro a b ⟨hab, hak⟩
  have hcond : ((s.get? i).any (·.isWord "Event") && decide (i + 1 < a) && s.hasMark (i + 1) "(") =
      ((s'.get? j).any (·.isWord "Event") && decide (j + 1 < b) && s'.hasMark (j + 1) "(") := by
    have hlt : decide (i + 1 < a) = decide (j + 1 < b) := decide_eq_decide.mpr (by omega)
    rw [← hlt]
    by_cases hia : i + 1 < a
    · obtain ⟨t, t', ht, ht', halike⟩ := h.get i j hij (by omega)
      have hnext : w.At (i + 1) (j + 1) := by omega
      rw [ht, ht', Option.any_some, Option.any_some, halike.isWord, h.hasMark_paren hnext]
    · rw [decide_eq_false hia]
      simp
  simp only [← hcond]
  by_cases hevent : ((s.get? i).any (·.isWord "Event") && decide (i + 1 < a) &&
      s.hasMark (i + 1) "(") = true
  · rw [if_pos hevent, if_pos hevent]
    simp only [Bool.and_eq_true, decide_eq_true_eq] at hevent
    have hnext : w.At (i + 1) (j + 1) := by omega
    apply Agree.bind (h.close hnext (by omega) (.inl hevent.2))
    rintro c c' ⟨hcc, hic, hcw, -⟩
    have hfirst : w.At (i + 2) (j + 2) := by omega
    apply Agree.bind (h.firstArgumentEnd hfirst hcc)
    rintro e e' ⟨hee, -⟩
    intro hexact
    rw [h.text hfirst hee hexact]
  · rw [if_neg hevent, if_neg hevent]
    intro hexact
    rw [h.text hij hab hexact]

lemma boundNamesFrom (h : w.Fits s s') {lo : Nat} (hkl : w.At k l) {d d' : Nat}
    (hd : lo < k → d + w.above' = d' + w.above) {xs ys : List (Nat × Token)}
    (hxs : List.Forall₂ (w.Twin s s' lo k) xs ys) (names : List String) :
    w.likeness.Agree Eq (Pattern.boundNamesFrom s d k names xs)
      (Pattern.boundNamesFrom s' d' l names ys) := by
  induction hxs generalizing names with
  | nil => exact rfl
  | @cons x y xs ys hxy _ ih =>
    obtain ⟨i, t⟩ := x
    obtain ⟨j, t'⟩ := y
    have hij : w.At i j := hxy.place
    have hik : i < k := hxy.upper
    have halike : w.Alike t t' := hxy.alike
    have hstands : Pattern.standsAlone s i k = Pattern.standsAlone s' j l := by
      have hlt : decide (i + 1 < k) = decide (j + 1 < l) := decide_eq_decide.mpr (by omega)
      unfold Pattern.standsAlone
      rw [h.followsDot hij, ← hlt]
      by_cases hnext : i + 1 < k
      · have hnext' : w.At (i + 1) (j + 1) := by omega
        rw [h.hasMark hnext' (by omega), h.hasMark hnext' (by omega)]
      · rw [decide_eq_false hnext, Bool.false_and, Bool.false_and]
    rw [Pattern.boundNamesFrom, Pattern.boundNamesFrom,
      halike.depth_beq (hd (lt_of_le_of_lt hxy.lower hxy.upper)), halike.isWord]
    by_cases hguard : (t'.depth == d' && t'.isWord "if") = true
    · rw [if_pos hguard, if_pos hguard]
      rfl
    · rw [if_neg hguard, if_neg hguard, ← halike.isIdentifier]
      by_cases hident : t.isIdentifier = true
      · rw [if_pos hident, if_pos hident, ← halike.text_of_isIdentifier hident, hstands]
        apply Agree.bind (startsLowerCase_agree t.text)
        rintro lower _ rfl
        split_ifs
        · exact ih _
        · exact ih _
      · rw [if_neg hident, if_neg hident]
        exact ih _

theorem boundNames (h : w.Fits s s') (hij : w.At i j) (hkl : w.At k l) :
    w.likeness.Agree Eq (Pattern.boundNames s i k) (Pattern.boundNames s' j l) := by
  unfold Pattern.boundNames
  apply Agree.bind (h.depthAt hij hkl)
  intro d d' hd
  apply Agree.bind (h.range hij hkl)
  intro xs ys hxs
  exact h.boundNamesFrom hkl hd hxs []

end Window.Fits

/-! ### Arms -/

/-- Tokens on both sides whose lines correspond. -/
abbrev Window.SameLine (w : Window) (s s' : Stream) (i j : Nat) : Prop :=
  w.likeness.Agree (fun t t' => w.likeness.Line t.line t'.line) (s.token i) (s'.token j)

/-- Arms at the same place of a window and of its copy. The word that starts them may stand right
before the window. -/
structure Window.ArmTwin (w : Window) (s s' : Stream) (a b : Arm) : Prop where
  line : w.SameLine s s' a.start b.start
  first : w.At (a.start + 1) (b.start + 1)
  arrow : w.At a.arrow b.arrow
  stop : w.At a.stop b.stop
  start_lt : a.start < a.arrow
  arrow_lt : a.arrow < a.stop

namespace Window.Fits

variable {w : Window} {s s' : Stream} {states states' : StateIndex} {i j k l : Nat}

lemma armsOfStarts_cons (h : w.Fits s s') {d d' : Nat} (hd : d + w.above' = d' + w.above)
    (hkl : w.At k l) (hline : w.SameLine s s' i j) (hfirst : w.At (i + 1) (j + 1)) {is js : List Nat}
    (his : List.Forall₂ (fun x y => w.At x y ∧ x < w.start + w.length) is js)
    (hrest : w.likeness.Agree (List.Forall₂ (w.ArmTwin s s')) (Arm.ofStarts s d k is)
      (Arm.ofStarts s' d' l js)) :
    w.likeness.Agree (List.Forall₂ (w.ArmTwin s s')) (Arm.ofStarts s d k (i :: is))
      (Arm.ofStarts s' d' l (j :: js)) := by
  have hstop : w.At (is.head?.getD k) (js.head?.getD l) := by
    cases his with
    | nil => exact hkl
    | cons hxy _ => exact hxy.1
  unfold Arm.ofStarts
  apply Agree.bind (h.range hfirst hstop)
  intro xs ys hxs
  apply Agree.bind hrest
  intro arms arms' harms
  have hfind := find?_of_forall₂ (f := fun x => x.2.depth == d && x.2.isOperator "=>")
    (g := fun y => y.2.depth == d' && y.2.isOperator "=>") hxs (by
      intro x y hxy
      rw [hxy.alike.depth_beq hd, hxy.alike.isOperator])
  cases hx : xs.find? fun x => x.2.depth == d && x.2.isOperator "=>" with
  | none =>
    rw [hx] at hfind
    simp only [eq_none_of_rel_none hfind]
    exact harms
  | some x =>
    rw [hx] at hfind
    obtain ⟨y, hy, hxy⟩ := exists_of_rel_some hfind
    simp only [hy]
    exact List.Forall₂.cons ⟨hline, hfirst, hxy.place, hstop, by have := hxy.lower; simp only; omega,
      hxy.upper⟩ harms

lemma armsOfStarts (h : w.Fits s s') {d d' : Nat} (hd : d + w.above' = d' + w.above)
    (hkl : w.At k l) {is js : List Nat}
    (his : List.Forall₂ (fun x y => w.At x y ∧ x < w.start + w.length) is js) :
    w.likeness.Agree (List.Forall₂ (w.ArmTwin s s')) (Arm.ofStarts s d k is)
      (Arm.ofStarts s' d' l js) := by
  induction his with
  | nil => exact List.Forall₂.nil
  | cons hij hrest ih =>
    obtain ⟨hij, hi⟩ := hij
    refine h.armsOfStarts_cons hd hkl ?_ (by omega) hrest ih
    apply Agree.imp (h.token hij hi)
    rintro t t' ⟨-, -, halike⟩
    exact halike.line

/-- Arms between two brackets around a part of the window. -/
theorem armsBetween (h : w.Fits s s') {close close' : Nat} {t t' : Token}
    (hc : s.closer i = .ok close) (hc' : s'.closer j = .ok close')
    (ht : s.get? i = some t) (ht' : s'.get? j = some t') {u u' : Token}
    (hu : s.get? close = some u) (hu' : s'.get? close' = some u')
    (hcloses : u.word.closes?.isSome = true) (hcloses' : u'.word.closes?.isSome = true)
    (hdepth : t.depth + w.above' = t'.depth + w.above) (hfirst : w.At (i + 1) (j + 1))
    (hclose : w.At close close') :
    w.likeness.Agree (List.Forall₂ (w.ArmTwin s s')) (Arm.ofBlock s i) (Arm.ofBlock s' j) := by
  unfold Arm.ofBlock
  rw [hc, hc', Stream.token_eq_ok_iff.mpr ht, Stream.token_eq_ok_iff.mpr ht']
  apply Agree.bind (h.range hfirst hclose)
  intro xs ys hxs
  have hd : t.depth + 1 + w.above' = t'.depth + 1 + w.above := by omega
  have hstarts : List.Forall₂ (w.Twin s s' (i + 1) close)
      (xs.filter fun x => x.2.depth == t.depth + 1 && Arm.starts s x.1 x.2)
      (ys.filter fun y => y.2.depth == t'.depth + 1 && Arm.starts s' y.1 y.2) := by
    refine List.rel_filter ?_ hxs
    intro x y hxy
    have hx : x.1 < close := hxy.upper
    have hxy' : w.At x.1 y.1 := hxy.place
    have hnext : w.At (x.1 + 1) (y.1 + 1) := by omega
    have hdecl : (s.get? (x.1 + 1)).any (·.isWordOf ["object", "class"]) =
        (s'.get? (y.1 + 1)).any (·.isWordOf ["object", "class"]) := by
      by_cases hlast : x.1 + 1 < close
      · obtain ⟨v, v', hv, hv', hvv⟩ := h.get _ _ hnext (by omega)
        rw [hv, hv']
        exact hvv.isWordOf _
      · obtain rfl : close = x.1 + 1 := by omega
        obtain rfl : close' = y.1 + 1 := by omega
        rw [hu, hu', Option.any_some, Option.any_some, Lexeme.isWordOf_eq_false_of_closes? hcloses,
          Lexeme.isWordOf_eq_false_of_closes? hcloses']
    have hstarts : Arm.starts s x.1 x.2 = Arm.starts s' y.1 y.2 := by
      rw [Arm.starts_eq, Arm.starts_eq, hdecl, hxy.alike.isWord]
    change (_ = true) ↔ (_ = true)
    rw [hxy.alike.depth_beq hd, hstarts]
  refine h.armsOfStarts hd hclose ?_
  refine List.rel_map ?_ hstarts
  intro x y hxy
  have hx : x.1 < close := hxy.upper
  have hxy' : w.At x.1 y.1 := hxy.place
  exact ⟨hxy', show x.1 < w.start + w.length by omega⟩

theorem armsOfBrace (h : w.Fits s s') (hij : w.At i j) (hi : i < w.start + w.length)
    (hbrace : s.hasMark i leftBrace = true) :
    w.likeness.Agree (List.Forall₂ (w.ArmTwin s s')) (Arm.ofBlock s i) (Arm.ofBlock s' j) := by
  obtain ⟨t, t', ht, ht', halike⟩ := h.get i j hij hi
  obtain ⟨c, c', hc, hc', hcc, hic, hcw, u, hu, hcloses⟩ :=
    h.exists_close hij hi (.inr (.inr hbrace))
  obtain ⟨v, u', hv, hu', huu⟩ := h.get c c' hcc hcw
  rw [hu] at hv
  cases hv
  have hfirst : w.At (i + 1) (j + 1) := by omega
  exact h.armsBetween hc hc' ht ht' hu hu' hcloses (by rwa [← huu.toAlike.closes?]) halike.depth
    hfirst hcc

/-! ### Bodies -/

/-- Outcomes on both sides, alike one by one. -/
abbrev BranchesAlike (w : Window) : List Branch → List Branch → Prop :=
  List.Forall₂ (Branch.Alike w.likeness)

/-- Readers of inner ranges that agree on the window and its copy. -/
def ReadersAgree (w : Window) (read read' : Body.Reader) : Prop :=
  ∀ i j k l bound, w.At i j → w.At k l →
    w.likeness.Agree (BranchesAlike w) (read i k bound) (read' j l bound)

/-- Outcomes on both sides, alike one by one and in a sealed window the same. -/
abbrev SameBranches (w : Window) (s s' : Stream) (bs bs' : List Branch) : Prop :=
  BranchesAlike w bs bs' ∧ (w.Sealed s s' → bs = bs')

lemma SameBranches.nil : SameBranches w s s' [] [] := ⟨.nil, fun _ => rfl⟩

lemma SameBranches.append {bs bs' others others' : List Branch} (h : SameBranches w s s' bs bs')
    (hothers : SameBranches w s s' others others') :
    SameBranches w s s' (bs ++ others) (bs' ++ others') :=
  ⟨List.rel_append h.1 hothers.1, fun hs => by rw [h.2 hs, hothers.2 hs]⟩

lemma SameBranches.under {bs bs' : List Branch} (h : SameBranches w s s' bs bs')
    {label label' : String} (hlabel : w.likeness.exact → label = label') :
    SameBranches w s s' (bs.map (·.under label)) (bs'.map (·.under label')) :=
  ⟨List.rel_map (fun _ _ hbb => hbb.under hlabel) h.1, fun hs => by rw [h.2 hs, hlabel hs.1]⟩

/-- Readers of inner ranges with the same outcomes on the window and its copy. -/
def ReadersMatch (w : Window) (s s' : Stream) (read read' : Body.Reader) : Prop :=
  ∀ i j k l bound, w.At i j → w.At k l →
    w.likeness.Agree (SameBranches w s s') (read i k bound) (read' j l bound)

lemma leastDepth {lo hi : Nat} {xs ys : List (Nat × Token)}
    (h : List.Forall₂ (w.Twin s s' lo hi) xs ys) (hne : xs ≠ []) :
    Body.leastDepth xs + w.above' = Body.leastDepth ys + w.above := by
  have hfold : ∀ {xs ys : List (Nat × Token)} {d d' : Nat},
      List.Forall₂ (w.Twin s s' lo hi) xs ys → d + w.above' = d' + w.above →
      xs.foldl (fun least x => min least x.2.depth) d + w.above' =
        ys.foldl (fun least y => min least y.2.depth) d' + w.above := by
    intro xs ys d d' hxs hd
    induction hxs generalizing d d' with
    | nil => exact hd
    | cons hxy _ ih =>
      have := hxy.alike.depth
      exact ih (show min _ _ + w.above' = min _ _ + w.above by omega)
  cases h with
  | nil => exact absurd rfl hne
  | cons hxy hrest => exact hfold hrest hxy.alike.depth

lemma armStop (h : w.Fits s s') (hij : w.At i j) (hkl : w.At k l) :
    w.likeness.Agree (fun a b => w.At a b ∧ (a < k → i ≤ a)) (Body.armStop s i k)
      (Body.armStop s' j l) := by
  unfold Body.armStop
  by_cases hempty : k ≤ i
  · rw [if_pos hempty, if_pos (by omega)]
    exact ⟨hkl, fun hlt => absurd hlt (lt_irrefl k)⟩
  · rw [if_neg hempty, if_neg (by omega)]
    apply Agree.bind (h.token hij (by omega))
    rintro t t' ⟨ht, -, halike⟩
    rw [← halike.isMark]
    by_cases hbrace : t.isMark leftBrace = true
    · rw [if_pos hbrace, if_pos hbrace]
      have hmark : s.hasMark i leftBrace = true := by
        rw [Stream.hasMark_eq_any, ht]
        exact hbrace
      apply Agree.map (h.close hij (by omega) (.inr (.inr hmark)))
      rintro c c' ⟨hcc, hic, hcw, -⟩
      omega
    · rw [if_neg hbrace, if_neg hbrace]
      apply Agree.bind (h.range hij hkl)
      intro xs ys hxs
      obtain ⟨hat, -, hle⟩ := first (f := fun x => x.2.depth == t.depth && x.2.isWord "else")
        (g := fun y => y.2.depth == t'.depth && y.2.isWord "else") hkl hxs (by
          intro x y hxy
          rw [hxy.alike.depth_beq halike.depth, hxy.alike.isWord])
      exact ⟨hat, fun _ => hle (by omega)⟩

lemma withoutBraces (h : w.Fits s s') (hij : w.At i j) (hkl : w.At k l) :
    w.likeness.Agree (fun x y => w.At x.1 y.1 ∧ w.At x.2 y.2) (Body.withoutBraces s i k)
      (Body.withoutBraces s' j l) := by
  unfold Body.withoutBraces
  by_cases hik : i < k
  · rw [if_pos hik, if_pos (by omega)]
    apply Agree.bind (h.token hij (by omega))
    rintro t t' ⟨ht, -, halike⟩
    rw [← halike.isMark]
    by_cases hbrace : t.isMark leftBrace = true
    · rw [if_pos hbrace, if_pos hbrace]
      have hmark : s.hasMark i leftBrace = true := by
        rw [Stream.hasMark_eq_any, ht]
        exact hbrace
      apply Agree.bind (h.close hij (by omega) (.inr (.inr hmark)))
      rintro c c' ⟨hcc, hic, hcw, -⟩
      have hnext : w.At (i + 1) (j + 1) := by omega
      exact ⟨hnext, hcc⟩
    · rw [if_neg hbrace, if_neg hbrace]
      exact ⟨hij, hkl⟩
  · rw [if_neg hik, if_neg (by omega)]
    exact ⟨hij, hkl⟩

lemma bodyArm {read read' : Body.Reader} (hread : ReadersMatch w s s' read read') (h : w.Fits s s')
    (bound : List String) {label label' : String} (hlabel : w.likeness.exact → label = label')
    (hij : w.At i j) (hkl : w.At k l) :
    w.likeness.Agree (SameBranches w s s') (Body.arm read s bound label i k)
      (Body.arm read' s' bound label' j l) := by
  unfold Body.arm
  apply Agree.bind (h.withoutBraces hij hkl)
  rintro ⟨a, b⟩ ⟨a', b'⟩ ⟨ha, hb⟩
  apply Agree.bind (hread _ _ _ _ bound ha hb)
  intro bs bs' hbs
  exact hbs.under hlabel

lemma ofArms {read read' : Body.Reader} (hread : ReadersMatch w s s' read read') (h : w.Fits s s')
    (bound : List String) {arms arms' : List Arm}
    (harms : List.Forall₂ (w.ArmTwin s s') arms arms') :
    w.likeness.Agree (SameBranches w s s') (Body.ofArms read s bound arms)
      (Body.ofArms read' s' bound arms') := by
  induction harms with
  | nil => exact .nil
  | @cons a b _ _ hab _ ih =>
    obtain ⟨-, hfirst, harrow, hstop, hlt, hlt'⟩ := hab
    have hbody : w.At (a.arrow + 1) (b.arrow + 1) := by omega
    unfold Body.ofArms
    apply Agree.bind (h.patternText hfirst harrow)
    intro label label' hlabel
    apply Agree.bind (h.boundNames hfirst harrow)
    rintro names _ rfl
    apply Agree.bind (hread _ _ _ _ _ hbody hstop)
    intro bs bs' hbs
    apply Agree.bind ih
    intro others others' hothers
    exact (hbs.under hlabel).append hothers

lemma startsIf (h : w.Fits s s') (hij : w.At i j) : Body.startsIf s i = Body.startsIf s' j := by
  have hword : (s.get? i).any (·.isWord "if") = (s'.get? j).any (·.isWord "if") := by
    apply h.get?_test hij
    · intro t t' halike
      exact halike.isWord "if"
    · intro t ht
      exact not_if_of_quietAfter ht
  rw [Body.startsIf_eq, Body.startsIf_eq, hword]
  by_cases hi : i < w.start + w.length
  · have hnext : w.At (i + 1) (j + 1) := by omega
    rw [h.hasMark_paren hnext]
  · have hnone : (s.get? i).any (·.isWord "if") = false := by
      obtain rfl : i = w.start + w.length := by omega
      cases ht : s.get? (w.start + w.length) with
      | none => rfl
      | some t => exact not_if_of_quietAfter (h.after t ht)
    rw [← hword, hnone, Bool.false_and, Bool.false_and]

lemma startsIf_lt (h : w.Fits s s') (hij : w.At i j) (hif : Body.startsIf s i = true) :
    i + 1 < w.start + w.length := by
  rw [Body.startsIf_eq, Bool.and_eq_true, Stream.hasMark_eq_any] at hif
  have hlast : ∀ p : Token → Bool, (∀ t, quietAfter t = true → p t = false) →
      (s.get? (w.start + w.length)).any p = false := by
    intro p hp
    cases ht : s.get? (w.start + w.length) with
    | none => rfl
    | some t => exact hp t (h.after t ht)
  by_contra hge
  rcases Nat.eq_or_lt_of_le hij.2.1 with heq | hlt
  · rw [heq, hlast _ fun t ht => not_if_of_quietAfter ht] at hif
    simp at hif
  · obtain rfl : i = w.start + w.length - 1 := by omega
    rw [show w.start + w.length - 1 + 1 = w.start + w.length by omega,
      hlast _ fun t ht => not_paren_of_quietAfter ht] at hif
    simp at hif

/-- A chain is read alike, with any fuel that reaches the end of the window on either side. -/
theorem conditional {read read' : Body.Reader} (hread : ReadersMatch w s s' read read')
    (h : w.Fits s s') (bound : List String) (hkl : w.At k l) {fuel fuel' : Nat} (hij : w.At i j)
    (hif : Body.startsIf s i = true) (hi : i + 1 < w.start + w.length)
    (hfuel : w.start + w.length ≤ fuel + i) (hfuel' : w.start' + w.length ≤ fuel' + j) :
    w.likeness.Agree (SameBranches w s s') (Body.conditional read s bound k fuel i)
      (Body.conditional read' s' bound l fuel' j) := by
  induction fuel generalizing fuel' i j with
  | zero => omega
  | succ fuel ih =>
    obtain ⟨fuel', rfl⟩ : ∃ n, fuel' = n + 1 := ⟨fuel' - 1, by omega⟩
    have hparen : s.hasMark (i + 1) "(" = true := by
      rw [Body.startsIf_eq, Bool.and_eq_true] at hif
      exact hif.2
    have hnext : w.At (i + 1) (j + 1) := by omega
    rw [Body.conditional_succ, Body.conditional_succ]
    apply Agree.bind (h.close hnext hi (.inl hparen))
    rintro c c' ⟨hcc, hic, hcw, -⟩
    have hcondition : w.At (i + 2) (j + 2) := by omega
    have harm : w.At (c + 1) (c' + 1) := by omega
    apply Agree.bind (h.armStop harm hkl)
    rintro e e' ⟨hee, hle⟩
    apply Agree.bind (bodyArm hread h bound (fun hexact => h.text hcondition hcc hexact) harm hee)
    intro bs bs' hbs
    have helse : (decide (e < k) && (s.get? e).any (·.isWord "else")) =
        (decide (e' < l) && (s'.get? e').any (·.isWord "else")) := by
      have hlt : decide (e < k) = decide (e' < l) := decide_eq_decide.mpr (by omega)
      rw [← hlt]
      by_cases hek : e < k
      · obtain ⟨t, t', ht, ht', halike⟩ := h.get e e' hee (by omega)
        rw [ht, ht', Option.any_some, Option.any_some, halike.isWord]
      · rw [decide_eq_false hek, Bool.false_and, Bool.false_and]
    rw [← helse]
    by_cases hno : (!(decide (e < k) && (s.get? e).any (·.isWord "else"))) = true
    · rw [if_pos hno, if_pos hno]
      exact hbs
    · rw [if_neg hno, if_neg hno]
      have hek : e < k := by
        simp only [Bool.not_eq_true', Bool.not_eq_false, Bool.and_eq_true,
          decide_eq_true_eq] at hno
        exact hno.1
      have hce := hle hek
      have hother : w.At (e + 1) (e' + 1) := by omega
      rw [← h.startsIf hother]
      by_cases hchain : Body.startsIf s (e + 1) = true
      · rw [if_pos hchain, if_pos hchain]
        have hlast : e + 1 + 1 < w.start + w.length := h.startsIf_lt hother hchain
        apply Agree.bind (ih hother hchain hlast (by omega) (by omega))
        intro others others' hothers
        exact hbs.append hothers
      · rw [if_neg hchain, if_neg hchain]
        apply Agree.bind (h.armStop hother hkl)
        rintro f f' ⟨hff, -⟩
        apply Agree.bind (bodyArm hread h bound (fun _ => rfl) hother hff)
        intro others others' hothers
        exact hbs.append hothers

/-- Outcomes on both sides, where there are any. -/
abbrev SomeBranches (w : Window) (s s' : Stream) :
    Option (List Branch) → Option (List Branch) → Prop :=
  Option.Rel (SameBranches w s s')

lemma SameBranches.ite_isEmpty {bs bs' : List Branch} (h : SameBranches w s s' bs bs') :
    SomeBranches w s s' (if bs.isEmpty then none else some bs)
      (if bs'.isEmpty then none else some bs') := by
  obtain ⟨halike, hsame⟩ := h
  cases halike with
  | nil => exact .none
  | cons hbb hrest => exact .some ⟨.cons hbb hrest, hsame⟩

theorem branching {read read' : Body.Reader} (hread : ReadersMatch w s s' read read')
    (h : w.Fits s s') (bound : List String) (hkl : w.At k l) {lo d d' : Nat}
    {xs ys : List (Nat × Token)} (hd : xs ≠ [] → d + w.above' = d' + w.above)
    (hxs : List.Forall₂ (w.Twin s s' lo k) xs ys) :
    w.likeness.Agree (SomeBranches w s s') (Body.branching read s bound k d xs)
      (Body.branching read' s' bound l d' ys) := by
  induction hxs with
  | nil => exact .none
  | @cons x y xs ys hxy _ ih =>
    obtain ⟨i, t⟩ := x
    obtain ⟨j, t'⟩ := y
    have hij : w.At i j := hxy.place
    have hik : i < k := hxy.upper
    have halike : w.Alike t t' := hxy.alike
    have hd : d + w.above' = d' + w.above := hd (List.cons_ne_nil _ _)
    replace ih := ih fun _ => hd
    unfold Body.branching
    rw [bne, bne, halike.depth_beq hd]
    by_cases hdepth : (!(t'.depth == d')) = true
    · rw [if_pos hdepth, if_pos hdepth]
      exact ih
    · rw [if_neg hdepth, if_neg hdepth]
      by_cases hlast : k ≤ i + 1
      · rw [if_pos (by simp [hlast]), if_pos (by simp [show l ≤ j + 1 by omega])]
        exact .none
      · have hnext : w.At (i + 1) (j + 1) := by omega
        have hlt : i + 1 < w.start + w.length := by omega
        obtain ⟨u, u', hu, hu', -⟩ := h.get _ _ hnext hlt
        have hgo : ¬(decide (k ≤ i + 1) || (s.get? (i + 1)).isNone) = true := by simp [hlast, hu]
        have hgo' : ¬(decide (l ≤ j + 1) || (s'.get? (j + 1)).isNone) = true := by
          simp [show ¬ l ≤ j + 1 by omega, hu']
        rw [if_neg hgo, if_neg hgo', ← halike.isWord, ← halike.isWord, ← h.hasMark hnext hlt,
          ← h.hasMark hnext hlt]
        by_cases hmatch : (t.isWord "match" && s.hasMark (i + 1) leftBrace) = true
        · rw [if_pos hmatch, if_pos hmatch]
          rw [Bool.and_eq_true] at hmatch
          apply Agree.bind (h.armsOfBrace hnext hlt hmatch.2)
          intro arms arms' harms
          apply Agree.bind (ofArms hread h bound harms)
          intro bs bs' hbs
          exact hbs.ite_isEmpty
        · rw [if_neg hmatch, if_neg hmatch]
          by_cases hif : (t.isWord "if" && s.hasMark (i + 1) "(") = true
          · rw [if_pos hif, if_pos hif]
            obtain ⟨hsize, hsize'⟩ := h.le_size hij (by omega)
            have hstarts : Body.startsIf s i = true := by
              rw [Body.startsIf_eq, hxy.get]
              exact hif
            apply Agree.bind (conditional hread h bound hkl hij hstarts hlt (by omega) (by omega))
            intro bs bs' hbs
            exact hbs.ite_isEmpty
          · rw [if_neg hif, if_neg hif]
            exact ih

lemma branchesWith {read read' : Body.Reader} (hread : ReadersMatch w s s' read read')
    (h : w.Fits s s') (hstates : states.unplaced = states'.unplaced) :
    ReadersMatch w s s' (Body.branchesWith read s states) (Body.branchesWith read' s' states') := by
  intro i j k l bound hij hkl
  unfold Body.branchesWith
  by_cases hempty : k ≤ i
  · rw [if_pos hempty, if_pos (by omega)]
    exact .nil
  · rw [if_neg hempty, if_neg (by omega)]
    apply Agree.bind (h.range hij hkl)
    intro xs ys hxs
    apply Agree.bind (branching hread h bound hkl (leastDepth hxs) hxs)
    intro bs bs' hbs
    cases hbs with
    | some hbs => exact hbs
    | none =>
      apply Agree.bind (h.find? hstates bound hij hkl)
      intro a a' haa
      rcases haa.sides with ⟨rfl, rfl⟩ | ⟨b, b', rfl, rfl, hbare, hsame⟩
      · exact .nil
      · refine ⟨.cons ⟨hbare, fun _ => rfl⟩ .nil, fun hs => ?_⟩
        rw [hsame hs]

theorem branchesWithin (h : w.Fits s s') (hstates : states.unplaced = states'.unplaced)
    (limit : Nat) :
    ReadersMatch w s s' (Body.branchesWithin s states limit) (Body.branchesWithin s' states' limit) := by
  induction limit with
  | zero =>
    intro i j k l bound _ _
    exact .nowhere _
  | succ limit ih => exact branchesWith ih h hstates

/-- The outcomes of a range in the window are those of the same range in its copy. -/
theorem branches_match (h : w.Fits s s') (hstates : states.unplaced = states'.unplaced) :
    ReadersMatch w s s' (Body.branches s states) (Body.branches s' states') :=
  h.branchesWithin hstates _

theorem branches (h : w.Fits s s') (hstates : states.unplaced = states'.unplaced) :
    ReadersAgree w (Body.branches s states) (Body.branches s' states') :=
  fun i j k l bound hij hkl => Agree.imp (h.branches_match hstates i j k l bound hij hkl)
    fun _ _ hbs => hbs.1

/-! ### Clauses -/

/-- Clauses and findings on both sides, alike one by one. -/
abbrev ClausesAlike (σ : Likeness) (x y : List Clause × List Finding) : Prop :=
  List.Forall₂ (Clause.Alike σ) x.1 y.1 ∧ List.Forall₂ (Finding.Alike σ) x.2 y.2

/-- An arm has the same clauses and findings on both sides; in a sealed window their actions are the
same with payloads and reasons. -/
theorem ofArm_match (h : w.Fits s s') (hstates : states.unplaced = states'.unplaced)
    {head head' : Blocks.BlockHead} (href : head.ref = head'.ref)
    (hsource : head.source = head'.source) {a b : Arm} (hab : w.ArmTwin s s' a b) :
    w.likeness.Agree (fun x y => ClausesAlike w.likeness x y ∧
        (w.Sealed s s' → x.1.map (·.action) = y.1.map (·.action)))
      (Blocks.ofArm s states head a) (Blocks.ofArm s' states' head' b) := by
  obtain ⟨hline, hfirst, harrow, hstop, hlt, hlt'⟩ := hab
  have hbody : w.At (a.arrow + 1) (b.arrow + 1) := by omega
  unfold Blocks.ofArm
  apply Agree.bind (h.event hfirst harrow)
  intro event event' hevent
  apply Agree.bind hline
  intro t t' hline
  apply Agree.bind (h.boundNames hfirst harrow)
  rintro bound _ rfl
  apply Agree.bind (h.branches_match hstates _ _ _ _ bound hbody hstop)
  rintro bs bs' ⟨hbs, hsame⟩
  cases hbs with
  | nil =>
    refine ⟨⟨.nil, .cons ⟨rfl, ?_, .some hline, rfl⟩ .nil⟩, fun _ => rfl⟩
    intro hexact
    unfold Blocks.noAction
    rw [hevent hexact, href]
  | @cons b₀ b₀' bs bs' hb hbs =>
    have hall : BranchesAlike w (b₀ :: bs) (b₀' :: bs') := .cons hb hbs
    have hlen : (b₀ :: bs).length = (b₀' :: bs').length := hall.length_eq
    refine ⟨⟨?_, .nil⟩, fun hs => ?_⟩
    · rw [hlen]
      refine List.rel_map ?_ hall
      intro x y hxy
      exact ⟨hsource, fun hexact => hxy.labelled hevent _ hexact, hxy.1, hline⟩
    · simp only [List.map_map]
      rw [hsame hs]
      rfl

theorem ofArm (h : w.Fits s s') (hstates : states.unplaced = states'.unplaced)
    {head head' : Blocks.BlockHead} (href : head.ref = head'.ref)
    (hsource : head.source = head'.source) {a b : Arm} (hab : w.ArmTwin s s' a b) :
    w.likeness.Agree (ClausesAlike w.likeness) (Blocks.ofArm s states head a)
      (Blocks.ofArm s' states' head' b) :=
  Agree.imp (h.ofArm_match hstates href hsource hab) fun _ _ hxy => hxy.1

/-- Blocks on both sides with the findings about them, alike one by one. -/
abbrev BlocksAlike (σ : Likeness) (x y : Blocks × List Finding) : Prop :=
  List.Forall₂ (Clause.Alike σ) x.1.clauses y.1.clauses ∧ x.1.sources = y.1.sources ∧
    List.Forall₂ (Finding.Alike σ) x.2 y.2

theorem ofBlock_match (h : w.Fits s s') (hstates : states.unplaced = states'.unplaced)
    {head head' : Blocks.BlockHead} (href : head.ref = head'.ref)
    (hsource : head.source = head'.source)
    (harms : w.likeness.Agree (List.Forall₂ (w.ArmTwin s s')) (Arm.ofBlock s head.brace)
      (Arm.ofBlock s' head'.brace)) :
    w.likeness.Agree (fun x y => BlocksAlike w.likeness x y ∧
        (w.Sealed s s' → x.1.clauses.map (·.action) = y.1.clauses.map (·.action)))
      (Blocks.ofBlock s states head) (Blocks.ofBlock s' states' head') := by
  unfold Blocks.ofBlock
  apply Agree.bind harms
  intro arms arms' harms
  apply Agree.bind (Agree.mapM (harms.imp fun a b hab => h.ofArm_match hstates href hsource hab))
  intro parts parts' hparts
  refine ⟨⟨?_, by rw [hsource], ?_⟩, fun hs => ?_⟩
  · exact List.rel_flatMap hparts fun x y hxy => hxy.1.1
  · exact List.rel_flatMap hparts fun x y hxy => hxy.1.2
  · have hactions := map_eq_of_forall₂ hparts fun x y hxy => hxy.2 hs
    rw [List.map_flatMap, List.map_flatMap, List.flatMap_def, List.flatMap_def, hactions]

theorem ofBlock (h : w.Fits s s') (hstates : states.unplaced = states'.unplaced)
    {head head' : Blocks.BlockHead} (href : head.ref = head'.ref)
    (hsource : head.source = head'.source)
    (harms : w.likeness.Agree (List.Forall₂ (w.ArmTwin s s')) (Arm.ofBlock s head.brace)
      (Arm.ofBlock s' head'.brace)) :
    w.likeness.Agree (BlocksAlike w.likeness) (Blocks.ofBlock s states head)
      (Blocks.ofBlock s' states' head') :=
  Agree.imp (h.ofBlock_match hstates href hsource harms) fun _ _ hxy => hxy.1

end Window.Fits

end ActorDiagram
