import Mathlib
import ActorDiagram.Proofs.BodyYields
import ActorDiagram.Proofs.BracedBody
import ActorDiagram.Proofs.InlinedBlocks

/-!
# Branchings without actions

An `if` or `match` whose arms hold no directive and no call has no outcomes. The reader stops at the
first branching of a body: where that has no outcomes, the body is read as one without branchings,
and the branchings behind it are not seen.
-/

namespace ActorDiagram

/-! ### Ranges that hold no action -/

/-- An arm can end here: before `case` or `else`, or at a closing bracket. -/
def Stream.endsArm (s : Stream) (i : Nat) : Bool :=
  (s.get? i).any fun t => t.isWordOf ["case", "else"] || t.word.closes?.isSome

lemma Stream.endsArm_of_isWord {s : Stream} {i : Nat} {t : Token} {w : String}
    (ht : s.get? i = some t) (hw : t.isWord w = true) (hmem : w ∈ ["case", "else"]) :
    s.endsArm i = true := by
  obtain ⟨hkind, rfl⟩ := Lexeme.isWord_eq_true.mp hw
  rw [endsArm, ht, Option.any_some, Lexeme.isWordOf_eq_true.mpr ⟨hkind, hmem⟩, Bool.true_or]

/-- Arms of a block lie one after the other inside it, each up to its end or to the next `case`. -/
lemma Arm.extent_of_ofBlock {s : Stream} (hs : s.Nested) {brace : Nat} {arms : List Arm}
    (h : Arm.ofBlock s brace = .ok arms) {a : Arm} (ha : a ∈ arms) : ∃ close opening,
      s.closer brace = .ok close ∧ s.get? brace = some opening ∧ brace < a.arrow ∧
      a.arrow < a.stop ∧ a.stop ≤ close ∧ (a.stop = close ∨
        ∃ t, s.get? a.stop = some t ∧ t.depth = opening.depth + 1 ∧ t.isWord "case" = true) := by
  unfold Arm.ofBlock at h
  obtain ⟨close, hclose, h⟩ := bind_eq_ok_iff.mp h
  obtain ⟨opening, hopening, h⟩ := bind_eq_ok_iff.mp h
  have hsize := (hs.lt_closer hclose).2.le
  rw [Stream.range_eq_part hsize] at h
  change Arm.ofStarts s (opening.depth + 1) close (((s.part (brace + 1) (close - (brace + 1))).filter
    fun x => x.2.depth == opening.depth + 1 && Arm.starts s x.1 x.2).map (·.1)) = .ok arms at h
  have hstarts : ∀ k ∈ ((s.part (brace + 1) (close - (brace + 1))).filter fun x =>
      x.2.depth == opening.depth + 1 && Arm.starts s x.1 x.2).map (·.1), (brace + 1 ≤ k ∧ k < close) ∧
        ∃ t, s.get? k = some t ∧ t.depth = opening.depth + 1 ∧ t.isWord "case" = true := by
    intro k hk
    obtain ⟨x, hx, rfl⟩ := List.mem_map.mp hk
    obtain ⟨hpart, htest⟩ := List.mem_filter.mp hx
    obtain ⟨hle, hlt, hget⟩ := Stream.mem_part.mp hpart
    rw [Arm.starts_eq] at htest
    simp only [Bool.and_eq_true, beq_iff_eq] at htest
    exact ⟨⟨hle, by omega⟩, x.2, hget, htest.1, htest.2.1⟩
  have hin := Stream.Nested.ofStarts hsize (opening.depth + 1) fun k hk => (hstarts k hk).1
  rw [h] at hin
  obtain ⟨hstart, harrow, hlast, hle⟩ := hin a ha
  obtain ⟨-, -, hstop⟩ := Arm.found_of_ofStarts h ha
  exact ⟨close, opening, hclose, Stream.token_eq_ok_iff.mp hopening, by omega, hlast, hle,
    hstop.imp_right fun hk => (hstarts _ hk).2⟩

/-- No directive and no call is read from `lo` to `hi`, wherever an arm in between may end. -/
def Silent (s : Stream) (states : StateIndex) (bound : List String) (lo hi : Nat) : Prop :=
  ∀ i stop, lo ≤ i → i < stop → stop ≤ hi → s.endsArm stop = true →
    Directive.at? s states i stop = .ok none ∧ Directive.call? s bound i stop = .ok none

/-- The body of an arm without an action. -/
structure Idle (s : Stream) (states : StateIndex) (bound : List String) (lo hi : Nat) : Prop where
  le : lo ≤ hi
  nested : s.Nested
  closed : s.ClosedOn lo hi
  ends : s.endsArm hi = true
  silent : Silent s states bound lo hi

lemma yields_self {α : Type} (x : Except Error α) : Yields (fun _ => True) x fun a => x = .ok a := by
  cases x with
  | error e => trivial
  | ok a => rfl

namespace Body

/-- No outcome, if the reading does not fail. -/
abbrev Fruitless (x : Except Error (List Branch)) : Prop := Yields (fun _ => True) x (· = [])

lemma fruitless_ok : Fruitless (.ok []) := rfl

lemma Fruitless.append {x y : Except Error (List Branch)} (hx : Fruitless x) (hy : Fruitless y)
    (f : Branch → Branch) : Fruitless (do
      let bs ← x
      let cs ← y
      .ok (bs.map f ++ cs)) := by
  refine hx.bind fun bs hbs => hy.bind fun cs hcs => ?_
  rw [hbs, hcs]
  rfl

lemma fruitless_ofArms {read : Reader} {s : Stream} {bound : List String} {arms : List Arm}
    (h : ∀ a ∈ arms, ∀ names, Pattern.boundNames s (a.start + 1) a.arrow = .ok names →
      Fruitless (read (a.arrow + 1) a.stop (bound ++ names))) :
    Fruitless (ofArms read s bound arms) := by
  induction arms with
  | nil => rfl
  | cons a arms ih =>
    have h := List.forall_mem_cons.mp h
    unfold ofArms
    refine (yields_self _).bind fun label _ => (yields_self _).bind fun names hnames => ?_
    exact (h.1 names hnames).append (ih h.2) _

end Body

namespace Idle

open Body

variable {s : Stream} {states : StateIndex} {bound bound' : List String} {read : Reader}
  {lo hi i j k start stop last : Nat}

lemma le_size (h : Idle s states bound lo hi) : hi ≤ s.size := by
  have hends := h.ends
  unfold Stream.endsArm at hends
  cases ht : s.get? hi with
  | none => simp [ht] at hends
  | some t => exact (Stream.lt_of_get? ht).le

lemma of_subset (h : Idle s states bound lo hi) (hbound : bound ⊆ bound') :
    Idle s states bound' lo hi := by
  refine ⟨h.le, h.nested, h.closed, h.ends, fun i stop hlo hlt hstop hends => ?_⟩
  obtain ⟨hat, hcall⟩ := h.silent i stop hlo hlt hstop hends
  exact ⟨hat, Directive.call?_of_subset hbound hcall⟩

lemma find? (h : Idle s states bound lo hi) (hlo : lo ≤ start) (hhi : stop ≤ hi)
    (hends : s.endsArm stop = true) : Directive.find? s states bound start stop = .ok none := by
  have hin : ∀ i ∈ List.range' start (stop - start), lo ≤ i ∧ i < stop := by
    intro i hi
    rw [List.mem_range'_1] at hi
    omega
  have hat : Directive.firstIn (Directive.at? s states · stop)
      (List.range' start (stop - start)) = .ok none :=
    Directive.firstIn_eq_none_iff.mpr fun i hi =>
      (h.silent i stop (hin i hi).1 (hin i hi).2 hhi hends).1
  unfold Directive.find?
  simp only [hat, Bind.bind, Except.bind]
  exact Directive.firstIn_eq_none_iff.mpr fun i hi =>
    (h.silent i stop (hin i hi).1 (hin i hi).2 hhi hends).2

/-- A bracket is closed before the range ends, at a place where an arm can end. -/
lemma closer (h : Idle s states bound lo hi) (hlo : lo ≤ i) (hlt : i < hi) {m : String}
    (hopen : s.hasMark i m = true) (hm : m ∈ ["(", "[", leftBrace]) {c : Nat}
    (hclose : s.closer i = .ok c) : i < c ∧ c < hi ∧ s.endsArm c = true := by
  obtain ⟨t, ht, hclosed⟩ := h.closed i hlo hlt
  rw [Stream.hasMark_eq_any, ht, Option.any_some] at hopen
  obtain ⟨c', hc', hic, hch⟩ := hclosed (Lexeme.isOpening_of_isMark hopen hm)
  rw [hclose] at hc'
  cases hc'
  obtain ⟨u, hu⟩ : ∃ u, s.get? c = some u := ⟨_, Stream.get?_of_lt (h.nested.lt_closer hclose).2⟩
  refine ⟨hic, hch, ?_⟩
  rw [Stream.endsArm, hu, Option.any_some, h.nested.isSome_closes? hclose ht hu, Bool.or_true]

/-! ### Arms -/

/-- A range in an idle one, up to a place where an arm can end. -/
def Within (s : Stream) (lo hi start stop : Nat) : Prop :=
  lo ≤ start ∧ lo ≤ stop ∧ stop ≤ hi ∧ s.endsArm stop = true

lemma withoutBraces_of_not_brace {t : Token} (ht : s.token start = .ok t)
    (hbrace : t.isMark leftBrace = false) : withoutBraces s start last = .ok (start, last) := by
  unfold withoutBraces
  rw [ht]
  split_ifs
  · simp [Bind.bind, Except.bind, hbrace]
  · rfl

lemma armRange (h : Idle s states bound lo hi) (hin : Within s lo hi start stop) :
    Yields (fun _ => True) (armStop s start stop) fun last => lo ≤ last ∧
      Yields (fun _ => True) (withoutBraces s start last) fun range =>
        Within s lo hi range.1 range.2 := by
  obtain ⟨hstart, hlo, hhi, hends⟩ := hin
  unfold armStop
  refine Yields.ite (fun hle => ⟨hlo, ?_⟩) fun hlt => ?_
  · unfold withoutBraces
    rw [if_neg (by omega)]
    exact ⟨hstart, hlo, hhi, hends⟩
  · refine (yields_self (s.token start)).bind fun first hfirst => ?_
    refine Yields.ite (fun hbrace => ?_) fun hbrace => ?_
    · refine (yields_self (s.closer start)).map fun c hc => ?_
      have hopen : s.hasMark start leftBrace = true := by
        rw [Stream.hasMark_eq_any, Stream.token_eq_ok_iff.mp hfirst, Option.any_some, hbrace]
      obtain ⟨hsc, hch, hcends⟩ := h.closer hstart (by omega) hopen (by decide) hc
      refine ⟨by omega, ?_⟩
      unfold withoutBraces
      rw [if_pos (by omega), hfirst]
      simp only [Bind.bind, Except.bind, hbrace, if_true, hc]
      exact ⟨by omega, by omega, by omega, hcends⟩
    · have hplain : ∀ last, withoutBraces s start last = .ok (start, last) := fun last =>
        withoutBraces_of_not_brace hfirst (Bool.eq_false_iff.mpr hbrace)
      refine (yields_self (s.range start stop)).bind fun tokens htokens => ?_
      rw [Stream.range_eq_part (hhi.trans h.le_size), Except.ok.injEq] at htokens
      cases hfind : tokens.find? fun x => x.2.depth == first.depth && x.2.isWord "else" with
      | none =>
        refine ⟨hlo, ?_⟩
        rw [hplain]
        exact ⟨hstart, hlo, hhi, hends⟩
      | some x =>
        have hx := List.mem_of_find?_eq_some hfind
        rw [← htokens, Stream.mem_part] at hx
        have helse := (Bool.and_eq_true _ _ ▸ List.find?_some hfind).2
        have hxends := Stream.endsArm_of_isWord hx.2.2 helse (by decide)
        refine ⟨show lo ≤ x.1 by omega, ?_⟩
        change Yields _ (withoutBraces s start x.1) _
        rw [hplain]
        exact ⟨hstart, by omega, by omega, hxends⟩

/-- A reader that finds nothing in an idle range. -/
def Passes (read : Reader) (s : Stream) (bound : List String) (lo hi : Nat) : Prop :=
  ∀ start stop bound', bound ⊆ bound' → Within s lo hi start stop →
    Fruitless (read start stop bound')

lemma arm (hread : Passes read s bound lo hi) (hbound : bound ⊆ bound') (label : String)
    (hrange : Yields (fun _ => True) (withoutBraces s start last) fun range =>
      Within s lo hi range.1 range.2) : Fruitless (Body.arm read s bound' label start last) := by
  unfold Body.arm
  refine hrange.bind fun range hrange => ?_
  refine (hread _ _ _ hbound hrange).bind fun bs hbs => ?_
  rw [hbs]
  rfl

lemma conditional (h : Idle s states bound lo hi) (hread : Passes read s bound lo hi)
    (hbound : bound ⊆ bound') (hlo : lo ≤ stop) (hhi : stop ≤ hi) (hends : s.endsArm stop = true)
    (fuel : Nat) (hi : lo ≤ i) : Fruitless (Body.conditional read s bound' stop fuel i) := by
  induction fuel generalizing i with
  | zero => trivial
  | succ fuel ih =>
    rw [Body.conditional_succ]
    refine (yields_self (s.closer (i + 1))).bind fun close hclose => ?_
    have hlt := (h.nested.lt_closer hclose).1
    refine (h.armRange ⟨by omega, hlo, hhi, hends⟩).bind fun last hlast => ?_
    refine (arm hread hbound _ hlast.2).bind fun bs hbs => ?_
    rw [hbs]
    refine Yields.ite (fun _ => rfl) fun _ => Yields.ite (fun _ => ?_) fun _ => ?_
    · refine (ih (by omega)).bind fun cs hcs => ?_
      rw [hcs]
      rfl
    · refine (h.armRange ⟨by omega, hlo, hhi, hends⟩).bind fun last hlast => ?_
      refine (arm hread hbound _ hlast.2).bind fun cs hcs => ?_
      rw [hcs]
      rfl

lemma armsOfBlock (h : Idle s states bound lo hi) {brace : Nat} (hlo : lo ≤ brace) (hlt : brace < hi)
    (hbrace : s.hasMark brace leftBrace = true) : Yields (fun _ => True) (Arm.ofBlock s brace)
      fun arms => ∀ a ∈ arms, Within s lo hi (a.arrow + 1) a.stop := by
  refine (yields_self _).imp fun arms harms a ha => ?_
  obtain ⟨close, opening, hclose, -, hstart, hlast, hle, hstop⟩ :=
    Arm.extent_of_ofBlock h.nested harms ha
  obtain ⟨-, hch, hcends⟩ := h.closer hlo hlt hbrace (by decide) hclose
  refine ⟨by omega, by omega, by omega, ?_⟩
  rcases hstop with heq | ⟨t, ht, -, hcase⟩
  · rw [heq]
    exact hcends
  · exact Stream.endsArm_of_isWord ht hcase (by decide)

/-! ### Bodies -/

lemma branching (h : Idle s states bound lo hi) (hread : Passes read s bound lo hi)
    (hbound : bound ⊆ bound') (hlo : lo ≤ stop) (hhi : stop ≤ hi) (hends : s.endsArm stop = true)
    (depth : Nat) {tokens : List (Nat × Token)} (htokens : ∀ x ∈ tokens, lo ≤ x.1) :
    Yields (fun _ => True) (Body.branching read s bound' stop depth tokens) (· = none) := by
  have hnone {x : Except Error (List Branch)} (hx : Fruitless x) : Yields (fun _ => True) (do
      let bs ← x
      .ok (if bs.isEmpty then none else some bs)) (· = none) := by
    refine hx.bind fun bs hbs => ?_
    rw [hbs]
    rfl
  induction tokens with
  | nil => rfl
  | cons x tokens ih =>
    obtain ⟨i, t⟩ := x
    have hlo' := htokens (i, t) List.mem_cons_self
    have ih := ih fun y hy => htokens y (List.mem_cons_of_mem _ hy)
    unfold Body.branching
    refine Yields.ite (fun _ => ih) fun _ => Yields.ite (fun _ => rfl) fun hlast =>
      Yields.ite (fun hmatch => ?_) fun _ => Yields.ite (fun _ => ?_) fun _ => ih
    · simp only [Bool.or_eq_true, decide_eq_true_eq, not_or, not_le] at hlast
      rw [Bool.and_eq_true] at hmatch
      refine (h.armsOfBlock (by omega) (by omega) hmatch.2).bind fun arms harms => ?_
      exact hnone (fruitless_ofArms fun a ha names _ =>
        hread _ _ _ (List.subset_append_of_subset_left _ hbound) (harms a ha))
    · exact hnone (h.conditional hread hbound hlo hhi hends _ hlo')

/-- In an idle range, nothing is found. -/
theorem branchesWithin (h : Idle s states bound lo hi) (limit : Nat) :
    Passes (Body.branchesWithin s states limit) s bound lo hi := by
  induction limit with
  | zero => exact fun _ _ _ _ _ => trivial
  | succ limit ih =>
    rintro start stop bound' hbound ⟨hstart, hlo, hhi, hends⟩
    unfold Body.branchesWithin Body.branchesWith
    refine Yields.ite (fun _ => rfl) fun hlt => ?_
    rw [Stream.range_eq_part (hhi.trans h.le_size)]
    have htokens : ∀ x ∈ s.part start (stop - start), lo ≤ x.1 := by
      intro x hx
      have := (Stream.mem_part.mp hx).1
      omega
    refine (h.branching ih hbound hlo hhi hends _ htokens).bind fun found hfound => ?_
    rw [hfound]
    simp only
    rw [(h.of_subset hbound).find? hstart hhi hends]
    rfl

end Idle

/-! ### Statements that branch -/

/-- `if (c) { body }`, or `subject match { block }` where nothing branches in the subject. -/
inductive Statement where
  | conditional (c body : List Word) (hc : Balanced c) (hbody : Balanced body)
  | matching (subject block : List Word) (hsubject : Balanced subject)
      (hplain : .name "match" ∉ topLevel subject ∧ .name "if" ∉ topLevel subject)
      (hblock : Balanced block)

namespace Statement

def words : Statement → List Word
  | conditional c body _ _ => bracedArm (Body.ifHead c) body []
  | matching subject block _ _ _ => bracedArm (subject ++ [.name "match"]) block []

/-- No arm of the statement, when it stands at `i`, holds an action. -/
def IsSilent (s : Stream) (states : StateIndex) (bound : List String) (i : Nat) : Statement → Prop
  | conditional c body _ _ =>
    let start := i + (Body.ifHead c).length + 1
    Silent s states bound start (start + body.length)
  | matching subject _ _ _ _ => ∀ arms, Arm.ofBlock s (i + subject.length + 1) = .ok arms →
    ∀ a ∈ arms, ∀ names, Pattern.boundNames s (a.start + 1) a.arrow = .ok names →
      Silent s states (bound ++ names) (a.arrow + 1) a.stop

lemma balanced_words (N : Statement) : Balanced N.words := by
  cases N with
  | conditional c body hc hbody =>
    exact balanced_bracedArm (Body.balanced_ifHead hc).1 hbody balanced_nil
  | matching subject block hsubject hplain hblock =>
    exact balanced_bracedArm (hsubject.append (balanced_name "match")) hblock
      balanced_nil

end Statement

lemma Tree.path_ne {T : Tree} (hT : ∀ l, T ≠ .leaf l) : ∀ w ∈ T.ways, w.1 ≠ [] := by
  cases T with
  | leaf l => exact absurd rfl (hT l)
  | conditional c body rest =>
    intro w hw
    exact (List.mem_append.mp hw).elim path_ne_of_under (rest.path_ne w)
  | matching subject arms => exact arms.path_ne

namespace Body

variable {read : Reader} {s : Stream} {states : StateIndex} {bound : List String}
  {d i stop limit : Nat} {u v body block : List Word} {tokens : List (Nat × Token)}

lemma eq_of_orElse {x : Except Error (List Branch)} {y : Except Error (Option Action)}
    {bs : List Branch} (hx : Fruitless x) (h : orElse x y = .ok bs) :
    (y.map fun a => a.toList.map fun a => ⟨none, a⟩) = .ok bs := by
  cases x with
  | error e => cases h
  | ok as =>
    cases (show as = [] from hx)
    exact h

lemma branching_append (h : ∀ x ∈ tokens, x.2.depth = d → x.1 + 1 < stop ∧
      (s.get? (x.1 + 1)).isSome = true ∧ x.2.isWord "match" = false ∧ x.2.isWord "if" = false)
    (rest : List (Nat × Token)) : branching read s bound stop d (tokens ++ rest) =
      branching read s bound stop d rest := by
  induction tokens with
  | nil => rfl
  | cons x tokens ih =>
    obtain ⟨i, t⟩ := x
    have hx := h (i, t) List.mem_cons_self
    have ih := ih fun y hy => h y (List.mem_cons_of_mem _ hy)
    rw [List.cons_append, branching]
    by_cases hd : t.depth = d
    · obtain ⟨hlt, hnext, hmatch, hif⟩ := hx hd
      have hstop : (decide (stop ≤ i + 1) || (s.get? (i + 1)).isNone) = false := by
        rw [decide_eq_false (by omega), Option.isNone_eq_false_iff.mpr hnext]
        rfl
      rw [if_neg (by simp [hd]), hstop, if_neg Bool.false_ne_true, hmatch, hif, Bool.false_and,
        Bool.false_and, if_neg Bool.false_ne_true, if_neg Bool.false_ne_true, ih]
    · rw [if_pos (by simpa using hd), ih]

lemma afterArm_of_not_else {fuel : Nat} (h : (s.get? i).any (·.isWord "else") = false) :
    afterArm read s bound stop fuel i = .ok [] := by
  unfold afterArm
  rw [h, Bool.and_false]
  rfl

/-! ### Arms of a statement -/

lemma endsArm_of_says (h : s.Says d i (body ++ .mark rightBrace :: v)) :
    s.endsArm (i + body.length) = true := by
  obtain ⟨t, ht, hword⟩ := h.get?_of_lt (show i ≤ i + body.length by omega) (by simp)
  rw [Nat.add_sub_cancel_left, List.getElem?_append_right (le_refl _), Nat.sub_self] at hword
  have hcloses : t.word.closes?.isSome = true := by
    rw [← Option.some.inj hword, closes?_rightBrace]
    rfl
  rw [Stream.endsArm, ht, Option.any_some, hcloses, Bool.or_true]

lemma idle_body (h : s.Says d i (body ++ .mark rightBrace :: v)) (hbody : Balanced body)
    (hsilent : Silent s states bound i (i + body.length)) :
    Idle s states bound i (i + body.length) :=
  ⟨by omega, h.nested, h.left.closedOn hbody, endsArm_of_says h, hsilent⟩

lemma idle_arm (h : s.Says d i (.mark leftBrace :: (block ++ .mark rightBrace :: v)))
    (hblock : Balanced block) {arms : List Arm} (harms : Arm.ofBlock s i = .ok arms) {a : Arm}
    (ha : a ∈ arms) (hsilent : Silent s states bound (a.arrow + 1) a.stop) :
    Idle s states bound (a.arrow + 1) a.stop := by
  have hs := h.nested
  obtain ⟨close, opening, hclose, hopening, hstart, hlast, hle, hstop⟩ :=
    Arm.extent_of_ofBlock hs harms ha
  obtain ⟨hclose', hin, -⟩ := h.bracket isOpening_leftBrace closes?_rightBrace hblock
  rw [hclose, Except.ok.injEq] at hclose'
  obtain ⟨t, ht, -, rfl⟩ := h.head (by decide)
  rw [hopening, Option.some.injEq] at ht
  subst ht
  refine ⟨hlast, hs, fun k hlo hlt => ?_, ?_, hsilent⟩
  · obtain ⟨t, ht, hpair⟩ := hin.left.closedOn hblock k (by omega) (by omega)
    refine ⟨t, ht, fun ho => ?_⟩
    obtain ⟨c, hc, hkc, hcb⟩ := hpair ho
    refine ⟨c, hc, hkc, ?_⟩
    have hdeep := (hin.left.depth_of_balanced hblock (by omega) (by omega) ht).1
    rcases hstop with heq | ⟨u, hu, hud, hcase⟩
    · omega
    · -- The `case` that ends the arm is in none of its brackets.
      by_contra hge
      rcases Nat.eq_or_lt_of_le (Nat.le_of_not_lt hge) with rfl | hgt
      · have hno := Lexeme.isWord_eq_false_of_closes? (hs.isSome_closes? hc ht hu) "case"
        rw [hcase] at hno
        cases hno
      · have := hs.depth_lt_between hc ht hlt hgt hu
        omega
  · rcases hstop with heq | ⟨u, hu, -, hcase⟩
    · rw [heq, hclose']
      exact endsArm_of_says hin
    · exact Stream.endsArm_of_isWord hu hcase (by decide)

/-! ### A statement and what follows it -/

lemma branchesWith_bracedIf {c : List Word}
    (h : s.Says d i (ifHead c ++ .mark leftBrace :: (body ++ .mark rightBrace :: v)))
    (hc : Balanced c) (hbody : Balanced body) (hv : Balanced v)
    (helse : v.head? ≠ some (.name "else")) {n : Nat}
    (hn : n = (ifHead c ++ .mark leftBrace :: (body ++ .mark rightBrace :: v)).length) :
    branchesWith read s states i (i + n) bound =
      orElse (joined (textOfWords c) (read (i + (ifHead c).length + 1)
        (i + (ifHead c).length + 1 + body.length) bound) (.ok []))
        (Directive.find? s states bound i (i + n)) := by
  have hws : Balanced (ifHead c ++ .mark leftBrace :: (body ++ .mark rightBrace :: v)) :=
    (balanced_bracedArm (balanced_ifHead hc).1 hbody hv)
  have hlen : n = (ifHead c).length + 1 + body.length + 1 + v.length := by
    simp [hn]
    omega
  have hsize := h.le_size
  obtain ⟨fuel, hfuel⟩ : ∃ fuel, s.size = fuel + 1 := ⟨s.size - 1, by omega⟩
  have hbrace := (says_ifHead h hc).2.2
  obtain ⟨-, -, hrest⟩ := hbrace.bracket isOpening_leftBrace closes?_rightBrace hbody
  have hlast := armStop_braced hbrace hbody (show _ < i + n by omega)
  have harm := withoutBraces_braced hbrace hbody
    (show _ < i + (ifHead c).length + 1 + body.length + 1 by omega)
  have hafter : afterArm read s bound (i + n) fuel
      (i + (ifHead c).length + 1 + body.length + 1) = .ok [] := by
    by_cases hnil : v = []
    · rw [hnil, List.length_nil] at hlen
      exact afterArm_of_le (by omega)
    · obtain ⟨t, ht, hword, -⟩ := hrest.head_of_balanced hv hnil
      apply afterArm_of_not_else
      rw [ht, Option.any_some, Bool.eq_false_iff, ne_eq, Lexeme.isWord_iff]
      intro hname
      exact helse (hword.trans (congrArg some hname))
  rw [hn, branchesWith_if h hws, ← hn, hfuel, conditional_eq_joined h hc hlast harm, hafter]

lemma branchesWith_match {subject : List Word}
    (h : s.Says d i (subject ++ .name "match" :: .mark leftBrace :: v))
    (hws : Balanced (subject ++ .name "match" :: .mark leftBrace :: v)) (hsubject : Balanced subject)
    (hplain : .name "match" ∉ topLevel subject ∧ .name "if" ∉ topLevel subject) {n : Nat}
    (hn : n = (subject ++ .name "match" :: .mark leftBrace :: v).length) :
    branchesWith read s states i (i + n) bound =
      orElse (do
        let arms ← Arm.ofBlock s (i + subject.length + 1)
        ofArms read s bound arms) (Directive.find? s states bound i (i + n)) := by
  have hlen : n = subject.length + (v.length + 1 + 1) := by simp [hn]
  have hmatch := h.right_of_balanced hsubject
  obtain ⟨t, ht, htw, htd⟩ := hmatch.head rfl
  obtain ⟨t', ht', htw', -⟩ := (hmatch.tail rfl).head (by decide)
  have hskip : ∀ x ∈ s.part i subject.length, x.2.depth = d → x.1 + 1 < i + n ∧
      (s.get? (x.1 + 1)).isSome = true ∧ x.2.isWord "match" = false ∧ x.2.isWord "if" = false := by
    intro x hx hd
    obtain ⟨hlo, hhi, -⟩ := Stream.mem_part.mp hx
    have hword {w : String} (hw : .name w ∉ topLevel subject) : x.2.isWord w = false :=
      Bool.eq_false_iff.mpr (mt Lexeme.isWord_iff.mp
        (h.left.not_at_depth hsubject (Word.isPlain_name w) hw hx hd))
    obtain ⟨u, hu, -⟩ := h.get?_of_lt (show i ≤ x.1 + 1 by omega) (by omega)
    exact ⟨by omega, by rw [hu]; rfl, hword hplain.1, hword hplain.2⟩
  have hrange := h.range
  have hleast := leastDepth_part h hws (by simp)
  rw [← hn] at hrange hleast
  apply branchesWith_of_range (by omega) hrange hleast
  rw [hlen, Stream.part_add, ← hlen, branching_append hskip, Stream.part_succ ht,
    branching_match htd htw ht' (by omega) (Lexeme.isMark_iff.mpr htw')]
  cases Arm.ofBlock s (i + subject.length + 1) <;> rfl

/-- Behind a statement without actions no branching is seen: what is read is one action at most. -/
theorem branchesWithin_statement {N : Statement} (h : s.Says d i (N.words ++ v)) (hv : Balanced v)
    (helse : v.head? ≠ some (.name "else")) (hsilent : N.IsSilent s states bound i)
    {bs : List Branch}
    (hbs : branchesWithin s states limit i (i + (N.words ++ v).length) bound = .ok bs) :
    ((Directive.find? s states bound i (i + (N.words ++ v).length)).map fun a =>
      a.toList.map fun a => ⟨none, a⟩) = .ok bs := by
  obtain ⟨limit, rfl⟩ : ∃ n, limit = n + 1 := by
    cases limit with
    | zero => cases hbs
    | succ n => exact ⟨n, rfl⟩
  have hws := N.balanced_words.append hv
  rw [branchesWithin] at hbs
  cases N with
  | conditional c body hc hbody =>
    have hwords : (Statement.conditional c body hc hbody).words ++ v =
        ifHead c ++ .mark leftBrace :: (body ++ .mark rightBrace :: v) := by
      simp [Statement.words, bracedArm]
    rw [hwords] at h hbs ⊢
    rw [branchesWith_bracedIf h hc hbody hv helse rfl] at hbs
    have hbrace := (says_ifHead h hc).2.2
    obtain ⟨-, hin, -⟩ := hbrace.bracket isOpening_leftBrace closes?_rightBrace hbody
    have hidle := idle_body hin hbody hsilent
    refine eq_of_orElse (Fruitless.append ?_ fruitless_ok _) hbs
    exact hidle.branchesWithin limit _ _ bound (List.Subset.refl _)
      ⟨le_refl _, hidle.le, le_refl _, hidle.ends⟩
  | matching subject block hsubject hplain hblock =>
    have hwords : (Statement.matching subject block hsubject hplain hblock).words ++ v =
        subject ++ .name "match" :: .mark leftBrace :: (block ++ .mark rightBrace :: v) := by
      simp [Statement.words, bracedArm]
    rw [hwords] at h hws hbs ⊢
    rw [branchesWith_match h hws hsubject hplain rfl] at hbs
    have hbrace := (h.right_of_balanced hsubject).tail rfl
    refine eq_of_orElse ((yields_self _).bind fun arms harms => ?_) hbs
    refine fruitless_ofArms fun a ha names hnames => ?_
    have hidle := idle_arm hbrace hblock harms ha (hsilent arms harms a ha names hnames)
    exact hidle.branchesWithin limit _ _ _ (List.Subset.refl _)
      ⟨le_refl _, hidle.le, le_refl _, hidle.ends⟩

/-! ### Two readings of a body -/

lemma exists_label {T : Tree} (hT : ∀ l, T ≠ .leaf l) {bs : List Branch}
    (h : T.outcomes states = .ok bs) : ∃ b ∈ bs, b.label ≠ none := by
  have hlabels := labels_of_outcomesOf h
  obtain ⟨w, hw⟩ := List.exists_mem_of_ne_nil _ T.ways_ne_nil
  have hmem : w.label ∈ bs.map (·.label) := by
    rw [hlabels]
    exact List.mem_map_of_mem hw
  obtain ⟨b, hb, hlabel⟩ := List.mem_map.mp hmem
  refine ⟨b, hb, ?_⟩
  rw [hlabel, Way.label, if_neg (by simpa using Tree.path_ne hT w hw)]
  exact Option.some_ne_none _

lemma followsMark_statement {N : Statement} (h : s.Says d i (N.words ++ v)) :
    s.followsMark (i + N.words.length) "." = false := by
  obtain ⟨init, hinit⟩ : ∃ init, N.words = init ++ [.mark rightBrace] := by
    cases N with
    | conditional c body => exact ⟨ifHead c ++ .mark leftBrace :: body, by simp [Statement.words, bracedArm]⟩
    | matching subject block =>
      exact ⟨subject ++ [.name "match"] ++ .mark leftBrace :: block, by simp [Statement.words, bracedArm]⟩
  rw [hinit, List.append_assoc, List.singleton_append] at h
  obtain ⟨t, ht, hword⟩ := h.get?_of_lt (show i ≤ i + init.length by omega) (by simp)
  rw [Nat.add_sub_cancel_left, List.getElem?_append_right (le_refl _), Nat.sub_self] at hword
  rw [hinit, List.length_append, List.length_singleton, ← Nat.add_assoc]
  exact Stream.followsMark_of_get? ht (by rw [← Option.some.inj hword]; decide)

/-- A body that starts with a statement without actions gives one unlabelled action at most, whatever
follows. So a tree that branches is never read alike behind such a statement and on its own. -/
theorem branches_statement (N : Statement) (T : Tree) (states : StateIndex) (bound : List String)
    (before body after : List Lexeme) (hbody : wordsOf body = N.words ++ T.words)
    (hT : ∀ l, T ≠ .leaf l) (helse : T.words.head? ≠ some (.name "else")) :
    let s := Stream.ofLexemes (before ++ (body ++ after))
    let middle := before.length + N.words.length
    let stop := before.length + body.length
    N.IsSilent s states bound before.length →
    (∀ bs, branches s states before.length stop bound = .ok bs →
      ((Directive.find? s states bound before.length stop).map fun a =>
        a.toList.map fun a => ⟨none, a⟩) = .ok bs) ∧
    (T.isLegible = true → T.nesting ≤ nestingLimit →
      unplace (branches s states middle stop bound) = T.outcomes states ∧
      ∀ bs, branches s states middle stop bound = .ok bs →
        branches s states before.length stop bound ≠ .ok bs) := by
  intro s middle stop hsilent
  have hsays : s.Says (levelAfter before) before.length (N.words ++ T.words) :=
    ⟨before, body, after, rfl, rfl, rfl, hbody⟩
  have hlen : body.length = (N.words ++ T.words).length := by rw [← hbody, wordsOf, List.length_map]
  have hflat : ∀ bs, branches s states before.length stop bound = .ok bs →
      ((Directive.find? s states bound before.length stop).map fun a =>
        a.toList.map fun a => ⟨none, a⟩) = .ok bs := by
    intro bs hbs
    have hstop : stop = before.length + (N.words ++ T.words).length := congrArg _ hlen
    rw [hstop] at hbs ⊢
    exact branchesWithin_statement hsays T.balanced_words helse hsilent hbs
  refine ⟨hflat, fun hlegible hdeep => ?_⟩
  have htree : s.Says (levelAfter before) middle T.words := hsays.right_of_balanced N.balanced_words
  have hstop : stop = middle + T.words.length := by
    rw [List.length_append] at hlen
    omega
  have hread : unplace (branches s states middle stop bound) = T.outcomes states := by
    rw [hstop]
    exact branchesWithin_tree htree (followsMark_statement hsays) hdeep hlegible
  refine ⟨hread, fun bs halone hbs => ?_⟩
  rw [halone] at hread
  obtain ⟨b, hb, hlabel⟩ := exists_label hT hread.symm
  exact hlabel ((unlabelled_of_action (hflat bs hbs)).2 b hb)

/-- `if (x) { count = 1 }`. -/
def countStatement : Statement :=
  .conditional [.name "x"] [.name "count", ⟨.operator, "="⟩, ⟨.number, "1"⟩] (balanced_name "x")
    (by decide)

/-- `if (y) { goto(A) } else { stay() }`. -/
def choiceTree : Tree :=
  .conditional ⟨[.name "y"], by decide, by decide⟩ (.leaf (.goto ⟨"A", []⟩)) (.otherwise (.leaf .stay))

/-- Words of the two. -/
def countThenChoice : List Word := countStatement.words ++ choiceTree.words

theorem branches_countThenChoice :
    branches (Stream.ofLexemes ([] ++ (countThenChoice.map lexemeOf ++ []))) .empty 9
        (0 + (countThenChoice.map lexemeOf).length) [] =
      .ok [⟨some "y", .goto "A" none⟩, ⟨some "else", .stay none⟩] ∧
    branches (Stream.ofLexemes ([] ++ (countThenChoice.map lexemeOf ++ []))) .empty 0
        (0 + (countThenChoice.map lexemeOf).length) [] ≠
      .ok [⟨some "y", .goto "A" none⟩, ⟨some "else", .stay none⟩] := by
  have hsilent : countStatement.IsSilent
      (Stream.ofLexemes ([] ++ (countThenChoice.map lexemeOf ++ []))) .empty [] 0 := by
    intro i stop hlo hlt hstop hends
    have hlo : 5 ≤ i := hlo
    have hstop : stop ≤ 8 := hstop
    obtain rfl : stop = 8 := by
      by_contra hne
      interval_cases stop <;> first | omega | exact absurd hends (by decide)
    interval_cases i <;> exact ⟨rfl, rfl⟩
  have h := branches_statement countStatement choiceTree .empty [] [] (countThenChoice.map lexemeOf)
    [] (by decide) (by simp [choiceTree]) (by decide) hsilent
  exact ⟨rfl, (h.2 rfl (by decide)).2 _ rfl⟩

/-- The `stay()` of the second `if` is lost, and so is the condition of its `goto(A)`. -/
theorem countThenChoice_flat :
    branches (Stream.ofLexemes (countThenChoice.map lexemeOf)) .empty 9 countThenChoice.length [] =
      .ok [⟨some "y", .goto "A" none⟩, ⟨some "else", .stay none⟩] ∧
    branches (Stream.ofLexemes (countThenChoice.map lexemeOf)) .empty 0 countThenChoice.length [] =
      .ok [⟨none, .goto "A" none⟩] := by
  exact ⟨rfl, rfl⟩

end Body

end ActorDiagram
