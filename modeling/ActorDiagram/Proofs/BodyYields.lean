import Mathlib
import ActorDiagram.Proofs.LockstepHelper
import ActorDiagram.Proofs.WindowBody
import ActorDiagram.Proofs.Yields

/-!
# How the reading of transitions can fail

The readers of directives, patterns, bodies, blocks and helpers, one after the other: each gives a
result on every range of the stream, or fails as a reader of the stream may.
-/

namespace ActorDiagram.Stream.Nested

variable {s : Stream} {states : StateIndex} {bound : List String} {i start stop : Nat} {t : Token}

/-! ### Arguments and payloads -/

lemma depthAt (hstop : stop ≤ s.size) : Runs s (s.depthAt start stop) := by
  unfold Stream.depthAt
  refine Yields.ite (fun hlt => ?_) fun _ => trivial
  exact (token (show start < s.size by omega)).map fun _ _ => trivial

lemma firstArgumentEnd (hstop : stop ≤ s.size) : Runs s (s.firstArgumentEnd start stop) := by
  unfold Stream.firstArgumentEnd
  refine (depthAt hstop).bind fun depth _ => ?_
  exact (range hstop).bind fun tokens _ => trivial

lemma skipArgumentsFrom (hs : s.Nested) (hstop : stop ≤ s.size) (fuel i : Nat) :
    Runs s (s.skipArgumentsFrom stop fuel i) := by
  induction fuel generalizing i with
  | zero => trivial
  | succ fuel ih =>
    unfold Stream.skipArgumentsFrom
    refine Yields.ite (fun hlt => ?_) fun _ => trivial
    refine (token (show i < s.size by omega)).bind fun t ht => ?_
    refine Yields.ite (fun ho => ?_) fun _ => trivial
    rw [Bool.or_eq_true] at ho
    rcases ho with ho | ho
    · exact (hs.closer_of_isMark ht ho (by decide)).bind fun c _ => ih (c + 1)
    · exact (hs.closer_of_isMark ht ho (by decide)).bind fun c _ => ih (c + 1)

theorem payloadAt? (hs : s.Nested) (hstop : stop ≤ s.size) :
    Runs s (Directive.payloadAt? s i stop) := by
  unfold Directive.payloadAt?
  refine Yields.ite (fun _ => trivial) fun hlt => ?_
  cases s.get? i with
  | none => trivial
  | some t =>
    refine Yields.ite (fun _ => ?_) fun _ => Yields.ite (fun _ => ?_) fun _ => trivial
    · unfold Directive.usingCall?
      refine Yields.ite (fun hlt => ?_) fun _ => trivial
      refine (token (show i + 1 < s.size by omega)).bind fun word _ => ?_
      refine (token (show i + 2 < s.size by omega)).bind fun paren hparen => ?_
      refine Yields.ite (fun ho => ?_) fun _ => trivial
      rw [Bool.and_eq_true] at ho
      exact (hs.closer_of_isMark hparen ho.2 (by decide)).bind fun _ _ => trivial
    · unfold Directive.usingWord?
      refine Yields.ite (fun hlt => ?_) fun _ => trivial
      refine (token (show i + 1 < s.size by omega)).bind fun first hfirst => ?_
      refine Yields.ite (fun _ => ?_) fun _ => trivial
      refine (dotted hfirst).bind fun x _ => ?_
      exact (hs.skipArgumentsFrom hstop _ _).bind fun _ _ => trivial

/-! ### Directives and calls -/

lemma target? (hs : s.Nested) (hparen : s.hasMark i "(" = true) :
    Runs s (Directive.target? s states i) := by
  unfold Directive.target?
  refine (hs.closer_of_hasMark hparen (by decide)).bind fun close _ => ?_
  cases hfirst : s.get? (i + 1) with
  | none => trivial
  | some first =>
    refine Yields.ite (fun _ => trivial) fun _ => ?_
    refine (dotted hfirst).bind fun x _ => ?_
    exact (lookup s states _ _ _).bind fun _ _ => trivial

/-- A directive is found at a token or not. -/
theorem directiveAt? (hs : s.Nested) (hi : i < stop) (hstop : stop ≤ s.size) :
    Runs s (Directive.at? s states i stop) := by
  have hcall : (decide (i + 1 < stop) && s.hasMark (i + 1) "(") = true →
      s.hasMark (i + 1) "(" = true := fun h => (Bool.and_eq_true _ _ ▸ h).2
  unfold Directive.at?
  refine (token (show i < s.size by omega)).bind fun t _ => ?_
  refine Yields.ite (fun _ => trivial) fun _ => ?_
  refine Yields.ite (fun hgoto => ?_) fun _ => Yields.ite (fun henter => ?_) fun _ =>
    Yields.ite (fun _ => ?_) fun _ => Yields.ite (fun _ => ?_) fun _ => trivial
  · rw [Bool.and_eq_true] at hgoto
    unfold Directive.goto?
    refine (hs.target? (hcall hgoto.2)).bind fun target _ => ?_
    cases target with
    | none => trivial
    | some target =>
      refine (hs.closer_of_hasMark (hcall hgoto.2) (by decide)).bind fun close _ => ?_
      exact (hs.payloadAt? hstop).bind fun _ _ => trivial
  · simp only [Bool.and_eq_true, decide_eq_true_eq] at henter
    unfold Directive.enter?
    refine (token (show i + 1 < s.size by omega)).bind fun dot _ => ?_
    refine (token (show i + 2 < s.size by omega)).bind fun enter _ => ?_
    refine (token (show i + 3 < s.size by omega)).bind fun paren hparen => ?_
    refine Yields.ite (fun ho => ?_) fun _ => trivial
    rw [Bool.and_eq_true] at ho
    have hmark : s.hasMark (i + 3) "(" = true := by
      rw [hasMark, hparen]
      exact ho.2
    refine (hs.target? hmark).bind fun target _ => ?_
    cases target with
    | none => trivial
    | some target =>
      refine (hs.closer_of_hasMark hmark (by decide)).bind fun close hclose => ?_
      exact (firstArgumentEnd (le_of_lt hclose.2)).bind fun _ _ => trivial
  · unfold Directive.stay
    refine Yields.map (P := fun _ => True) ?_ fun _ _ => trivial
    refine Yields.ite (fun ho => ?_) fun _ => ?_
    · refine (hs.closer_of_hasMark (hcall ho) (by decide)).bind fun close _ => ?_
      exact (hs.payloadAt? hstop).map fun _ _ => trivial
    · exact (hs.payloadAt? hstop).map fun _ _ => trivial
  · unfold Directive.stop
    refine Yields.map (P := fun _ => True) ?_ fun _ _ => trivial
    refine Yields.ite (fun ho => ?_) fun _ => trivial
    exact (hs.closer_of_hasMark (hcall ho) (by decide)).bind fun _ _ => trivial

lemma startsLowerCase (ht : s.get? i = some t) (hident : t.isIdentifier = true) :
    Runs s (Directive.startsLowerCase t.text) := by
  unfold Directive.startsLowerCase
  cases hletters : t.text.toList with
  | nil => exact ⟨i, t, ht, hident, String.toList_eq_nil_iff.mp hletters⟩
  | cons c cs => trivial

lemma call? (hi : i < s.size) : Runs s (Directive.call? s bound i stop) := by
  unfold Directive.call?
  refine (token hi).bind fun t ht => ?_
  refine Yields.ite (fun _ => trivial) fun hident => ?_
  simp only [Bool.or_eq_true, Bool.not_eq_true', not_or, Bool.not_eq_false] at hident
  refine (startsLowerCase ht hident.1).bind fun lower _ => ?_
  exact Yields.ite (fun _ => trivial) fun _ => trivial

lemma firstIn {search : Nat → Except Error (Option Action)} {is : List Nat}
    (h : ∀ i ∈ is, Runs s (search i)) : Runs s (Directive.firstIn search is) := by
  induction is with
  | nil => trivial
  | cons i is ih =>
    refine (h i List.mem_cons_self).bind fun found _ => ?_
    cases found with
    | none => exact ih fun i' hi' => h i' (List.mem_cons_of_mem _ hi')
    | some action => trivial

/-- The one directive or call of a range is looked for. -/
theorem find? (hs : s.Nested) (hstop : stop ≤ s.size) :
    Runs s (Directive.find? s states bound start stop) := by
  have hlt : ∀ i ∈ List.range' start (stop - start), i < stop := by
    intro i hi
    rw [List.mem_range'_1] at hi
    omega
  unfold Directive.find?
  refine (firstIn fun i hi => hs.directiveAt? (hlt i hi) hstop).bind fun found _ => ?_
  cases found with
  | none =>
    refine firstIn fun i hi => call? ?_
    have := hlt i hi
    omega
  | some action => trivial

/-! ### Patterns and arms -/

lemma guardStart (hstop : stop ≤ s.size) : Yields s.Fault (Pattern.guardStart s start stop)
    fun guard => guard ≤ s.size := by
  unfold Pattern.guardStart
  refine (depthAt hstop).bind fun depth _ => ?_
  refine (range hstop).bind fun tokens htokens => ?_
  cases hfind : tokens.find? fun x => x.2.depth == depth && x.2.isWord "if" with
  | none => exact hstop
  | some x =>
    have hx := htokens x (List.mem_of_find?_eq_some hfind)
    exact le_of_lt (hx.2.1.trans_le hstop)

lemma event (hs : s.Nested) (hstop : stop ≤ s.size) : Runs s (Pattern.event s start stop) := by
  unfold Pattern.event
  refine (guardStart hstop).bind fun guard hguard => ?_
  refine Yields.ite (fun hevent => ?_) fun _ => trivial
  simp only [Bool.and_eq_true] at hevent
  refine (hs.closer_of_hasMark hevent.2 (by decide)).bind fun close hclose => ?_
  exact (firstArgumentEnd (le_of_lt hclose.2)).bind fun _ _ => trivial

lemma patternText (hstop : stop ≤ s.size) : Runs s (Pattern.text s start stop) := by
  unfold Pattern.text
  exact (guardStart hstop).bind fun guard _ => trivial

theorem boundNames (hstop : stop ≤ s.size) : Runs s (Pattern.boundNames s start stop) := by
  unfold Pattern.boundNames
  refine (depthAt hstop).bind fun depth _ => ?_
  refine (range hstop).bind fun tokens htokens => ?_
  have hget : ∀ x ∈ tokens, s.get? x.1 = some x.2 := fun x hx => (htokens x hx).2.2
  generalize ([] : List String) = names
  clear htokens
  induction tokens generalizing names with
  | nil => trivial
  | cons x rest ih =>
    obtain ⟨i, t⟩ := x
    have hrest := ih fun x hx => hget x (List.mem_cons_of_mem _ hx)
    unfold Pattern.boundNamesFrom
    refine Yields.ite (fun _ => trivial) fun _ => Yields.ite (fun hident => ?_) fun _ => hrest names
    refine (startsLowerCase (hget (i, t) List.mem_cons_self) hident).bind fun lower _ => ?_
    exact Yields.ite (fun _ => hrest _) fun _ => hrest _

/-- The arm lies in a range. -/
def ArmIn (start stop : Nat) (a : Arm) : Prop :=
  start ≤ a.start ∧ a.start < a.arrow ∧ a.arrow < a.stop ∧ a.stop ≤ stop

lemma ofStarts (hstop : stop ≤ s.size) (depth : Nat) {starts : List Nat}
    (hstarts : ∀ i ∈ starts, start ≤ i ∧ i < stop) :
    Yields s.Fault (Arm.ofStarts s depth stop starts) fun arms => ∀ a ∈ arms, ArmIn start stop a := by
  induction starts with
  | nil => exact fun a ha => absurd ha List.not_mem_nil
  | cons first rest ih =>
    have hend : rest.head?.getD stop ≤ stop := by
      cases rest with
      | nil => exact le_refl stop
      | cons next rest => exact le_of_lt (hstarts next (by simp)).2
    unfold Arm.ofStarts
    refine (range (hend.trans hstop)).bind fun tokens htokens => ?_
    refine (ih fun i hi => hstarts i (List.mem_cons_of_mem _ hi)).bind fun arms harms => ?_
    cases hfind : tokens.find? fun x => x.2.depth == depth && x.2.isOperator "=>" with
    | none => exact harms
    | some x =>
      obtain ⟨hle, hlt, -⟩ := htokens x (List.mem_of_find?_eq_some hfind)
      intro a ha
      rcases List.mem_cons.mp ha with rfl | ha
      · exact ⟨(hstarts first (by simp)).1, hle, hlt, hend⟩
      · exact harms a ha

/-- The arms of a block in braces lie in the stream. -/
theorem armsOfBlock (hs : s.Nested) {brace : Nat} (hbrace : s.hasMark brace leftBrace = true) :
    Yields s.Fault (Arm.ofBlock s brace) fun arms => ∀ a ∈ arms, ArmIn (brace + 1) s.size a := by
  unfold Arm.ofBlock
  refine (hs.closer_of_hasMark hbrace (by decide)).bind fun close hclose => ?_
  refine (token (show brace < s.size by omega)).bind fun opening _ => ?_
  refine (range (le_of_lt hclose.2)).bind fun tokens htokens => ?_
  have hstarts : ∀ i ∈ (tokens.filter fun x =>
      x.2.depth == opening.depth + 1 && Arm.starts s x.1 x.2).map (·.1), brace + 1 ≤ i ∧ i < close := by
    intro i hi
    obtain ⟨x, hx, rfl⟩ := List.mem_map.mp hi
    obtain ⟨hle, hlt, -⟩ := htokens x (List.mem_filter.mp hx).1
    exact ⟨hle, hlt⟩
  refine (ofStarts (le_of_lt hclose.2) _ hstarts).imp fun arms harms a ha => ?_
  obtain ⟨h₁, h₂, h₃, h₄⟩ := harms a ha
  exact ⟨h₁, h₂, h₃, h₄.trans (le_of_lt hclose.2)⟩

/-! ### Bodies -/

/-- A reader that gives a result on every range of the stream. -/
def Reads (s : Stream) (read : Body.Reader) : Prop :=
  ∀ start stop bound, stop ≤ s.size → Runs s (read start stop bound)

lemma armStop (hs : s.Nested) (hstop : stop ≤ s.size) :
    Yields s.Fault (Body.armStop s start stop) fun k => k ≤ s.size := by
  unfold Body.armStop
  refine Yields.ite (fun _ => hstop) fun hlt => ?_
  refine (token (show start < s.size by omega)).bind fun first hfirst => ?_
  refine Yields.ite (fun ho => ?_) fun _ => ?_
  · exact (hs.closer_of_isMark hfirst ho (by decide)).map fun c hc => by omega
  · refine (range hstop).bind fun tokens htokens => ?_
    cases hfind : tokens.find? fun x => x.2.depth == first.depth && x.2.isWord "else" with
    | none => exact hstop
    | some x =>
      have hx := htokens x (List.mem_of_find?_eq_some hfind)
      exact le_of_lt (hx.2.1.trans_le hstop)

lemma bodyArm (hs : s.Nested) {read : Body.Reader} (hread : Reads s read) (label : String)
    (hstop : stop ≤ s.size) : Runs s (Body.arm read s bound label start stop) := by
  unfold Body.arm
  refine Yields.bind (P := fun x : Nat × Nat => x.2 ≤ s.size) ?_ fun x hx =>
    (hread _ _ _ hx).bind fun _ _ => trivial
  unfold Body.withoutBraces
  refine Yields.ite (fun hlt => ?_) fun _ => hstop
  refine (token (show start < s.size by omega)).bind fun first hfirst => ?_
  refine Yields.ite (fun ho => ?_) fun _ => hstop
  exact (hs.closer_of_isMark hfirst ho (by decide)).bind fun close hclose => le_of_lt hclose.2

lemma ofArms {read : Body.Reader} (hread : Reads s read) {arms : List Arm}
    (harms : ∀ a ∈ arms, ArmIn start s.size a) : Runs s (Body.ofArms read s bound arms) := by
  induction arms with
  | nil => trivial
  | cons a rest ih =>
    obtain ⟨-, -, harrow, hstop⟩ := harms a (by simp)
    have harrow' : a.arrow ≤ s.size := by omega
    unfold Body.ofArms
    refine (patternText harrow').bind fun label _ => ?_
    refine (boundNames harrow').bind fun names _ => ?_
    refine (hread _ _ _ hstop).bind fun branches _ => ?_
    exact (ih fun a ha => harms a (List.mem_cons_of_mem _ ha)).bind fun _ _ => trivial

lemma conditional (hs : s.Nested) {read : Body.Reader} (hread : Reads s read)
    (hstop : stop ≤ s.size) (fuel : Nat) (hparen : s.hasMark (i + 1) "(" = true) :
    Runs s (Body.conditional read s bound stop fuel i) := by
  induction fuel generalizing i with
  | zero => trivial
  | succ fuel ih =>
    rw [Body.conditional_succ]
    refine (hs.closer_of_hasMark hparen (by decide)).bind fun close _ => ?_
    refine (hs.armStop hstop).bind fun thenEnd hthen => ?_
    refine (hs.bodyArm hread _ hthen).bind fun branches _ => ?_
    refine Yields.ite (fun _ => trivial) fun _ => Yields.ite (fun hif => ?_) fun _ => ?_
    · rw [Body.startsIf, Bool.and_eq_true] at hif
      exact (ih hif.2).bind fun _ _ => trivial
    · refine (hs.armStop hstop).bind fun elseEnd helse => ?_
      exact (hs.bodyArm hread _ helse).bind fun _ _ => trivial

lemma branching (hs : s.Nested) {read : Body.Reader} (hread : Reads s read) (hstop : stop ≤ s.size)
    (depth : Nat) (tokens : List (Nat × Token)) :
    Runs s (Body.branching read s bound stop depth tokens) := by
  induction tokens with
  | nil => trivial
  | cons x rest ih =>
    obtain ⟨i, t⟩ := x
    unfold Body.branching
    refine Yields.ite (fun _ => ih) fun _ => Yields.ite (fun _ => trivial) fun _ =>
      Yields.ite (fun hmatch => ?_) fun _ => Yields.ite (fun hif => ?_) fun _ => ih
    · rw [Bool.and_eq_true] at hmatch
      refine (hs.armsOfBlock hmatch.2).bind fun arms harms => ?_
      exact (ofArms hread harms).bind fun _ _ => trivial
    · rw [Bool.and_eq_true] at hif
      exact (hs.conditional hread hstop _ hif.2).bind fun _ _ => trivial

lemma branchesWithin (hs : s.Nested) (limit : Nat) :
    Reads s (Body.branchesWithin s states limit) := by
  induction limit with
  | zero => exact fun _ _ _ _ => trivial
  | succ limit ih =>
    intro start stop bound hstop
    unfold Body.branchesWithin Body.branchesWith
    refine Yields.ite (fun _ => trivial) fun _ => ?_
    refine (range hstop).bind fun tokens _ => ?_
    refine (hs.branching ih hstop _ _).bind fun found _ => ?_
    cases found with
    | none => exact (hs.find? hstop).bind fun _ _ => trivial
    | some branches => trivial

/-- The outcomes of every range of the stream are read. -/
theorem branches (hs : s.Nested) : Reads s (Body.branches s states) := hs.branchesWithin _

/-! ### Blocks -/

lemma blockHead? (hs : s.Nested) (hi : i < s.size) : Yields s.Fault (Blocks.blockHead? s states i)
    fun head => ∀ h, head = some h → s.hasMark h.brace leftBrace = true := by
  unfold Blocks.blockHead?
  refine (token hi).bind fun word _ => ?_
  cases hfirst : s.get? (i + 2) with
  | none => exact fun h hh => by cases hh
  | some first =>
    refine Yields.ite (fun hwhen => ?_) fun _ h hh => by cases hh
    simp only [Bool.and_eq_true] at hwhen
    refine (hs.closer_of_hasMark hwhen.1.2 (by decide)).bind fun close _ => ?_
    refine (dotted hfirst).bind fun x _ => ?_
    cases hbrace : Blocks.braceAfter? s close with
    | none => exact fun h hh => by cases hh
    | some brace =>
      refine (lookup s states _ _ _).bind fun resolved _ => ?_
      intro h hh
      cases hh
      unfold Blocks.braceAfter? at hbrace
      split_ifs at hbrace with h₁ h₂
      · cases hbrace
        exact h₁
      · cases hbrace
        exact (Bool.and_eq_true _ _ ▸ h₂).2

lemma ofArm (hs : s.Nested) (head : Blocks.BlockHead) {a : Arm} (ha : ArmIn start s.size a) :
    Runs s (Blocks.ofArm s states head a) := by
  obtain ⟨-, hstart, harrow, hstop⟩ := ha
  have harrow' : a.arrow ≤ s.size := by omega
  unfold Blocks.ofArm
  refine (hs.event harrow').bind fun event _ => ?_
  refine (token (show a.start < s.size by omega)).bind fun first _ => ?_
  refine (boundNames harrow').bind fun bound _ => ?_
  refine (hs.branches _ _ _ hstop).bind fun branches _ => ?_
  exact Yields.ite (fun _ => trivial) fun _ => trivial

lemma blockAt (hs : s.Nested) (hi : i < s.size) : Runs s (Blocks.blockAt s states i) := by
  unfold Blocks.blockAt
  refine (hs.blockHead? hi).bind fun head hhead => ?_
  cases head with
  | none => trivial
  | some head =>
    unfold Blocks.ofBlock
    refine (hs.armsOfBlock (hhead head rfl)).bind fun arms harms => ?_
    refine (Yields.mapM (Q := fun _ _ => True) fun a ha => ?_).bind fun _ _ => trivial
    exact hs.ofArm head (harms a ha)

/-- A stream that passes the balance check balances. -/
theorem requireBalance (s : Stream) : Yields s.Fault s.requireBalance fun _ => s.problems = [] := by
  unfold Stream.requireBalance
  cases hproblems : s.problems with
  | nil => exact rfl
  | cons p rest =>
    have hcause : p.cause = .unclosedBracket ∨ ∃ text, p.cause = .unexpectedBracket text := by
      have hmem : p ∈ s.problems := by rw [hproblems]; exact List.mem_cons_self
      obtain ⟨⟨t, role⟩, -, hp⟩ := List.mem_filterMap.mp hmem
      cases role <;> simp only [problem?, reduceCtorEq, Option.some.injEq] at hp
      · exact .inl (by rw [← hp])
      · exact .inr ⟨t.text, by rw [← hp]⟩
    rcases hcause with hcause | ⟨text, hcause⟩
    · simp [Yields, Fault, hcause, hproblems]
    · simp [Yields, Fault, hcause]

/-- The clauses of a stream are read, and then it balances. -/
theorem blocks (hs : s.Nested) (states : StateIndex) :
    Yields s.Fault (Blocks.ofStream s states) fun _ => s.problems = [] := by
  unfold Blocks.ofStream
  refine (requireBalance s).bind fun _ hbalance => ?_
  refine (Yields.mapM (Q := fun _ _ => True) fun i hi => ?_).bind fun _ _ => hbalance
  exact hs.blockAt (List.mem_range.mp hi)

/-! ### Helpers -/

lemma parametersFrom (hs : s.Nested) (fuel i : Nat) (names : List String) :
    Runs s (Helper.parametersFrom s names fuel i) := by
  induction fuel generalizing i names with
  | zero => trivial
  | succ fuel ih =>
    unfold Helper.parametersFrom
    cases ht : s.get? i with
    | none => trivial
    | some t =>
      refine Yields.ite (fun ho => ?_) fun _ => Yields.ite (fun ho => ?_) fun _ => trivial
      · refine (hs.closer_of_isMark ht ho (by decide)).bind fun close hclose => ?_
        exact (boundNames (le_of_lt hclose.2)).bind fun more _ => ih _ _
      · exact (hs.closer_of_isMark ht ho (by decide)).bind fun close _ => ih _ _

lemma headEndFrom (hs : s.Nested) (depth fuel i : Nat) :
    Yields s.Fault (Helper.headEndFrom s depth fuel i) fun e =>
      ∀ k, e = .braces k → s.hasMark k leftBrace = true := by
  induction fuel generalizing i with
  | zero => exact fun k hk => by cases hk
  | succ fuel ih =>
    unfold Helper.headEndFrom
    cases ht : s.get? i with
    | none => exact fun k hk => by cases hk
    | some t =>
      refine Yields.ite (fun ho => ?_) fun _ => Yields.ite (fun hbrace => ?_) fun _ =>
        Yields.ite (fun _ k hk => by cases hk) fun _ => Yields.ite (fun _ k hk => by cases hk) fun _ => ih _
      · rw [Bool.or_eq_true] at ho
        rcases ho with ho | ho
        · exact (hs.closer_of_isMark ht ho (by decide)).bind fun c _ => ih _
        · exact (hs.closer_of_isMark ht ho (by decide)).bind fun c _ => ih _
      · intro k hk
        cases hk
        rw [hasMark, ht]
        exact hbrace

lemma bodyOf? (hs : s.Nested) (hi : i < s.size) : Yields s.Fault (Helper.body? s i)
    fun body => ∀ p, body = some p → p.2 ≤ s.size := by
  have hbraced : ∀ k, s.hasMark k leftBrace = true →
      Yields s.Fault ((Helper.bracedBody s k).map some) fun body => ∀ p, body = some p → p.2 ≤ s.size := by
    intro k hk
    unfold Helper.bracedBody
    refine Yields.map (P := fun p => p.2 ≤ s.size) ?_ fun p hp q hq => by cases hq; exact hp
    exact (hs.closer_of_hasMark hk (by decide)).map fun c hc => le_of_lt hc.2
  unfold Helper.body?
  refine (token hi).bind fun word _ => ?_
  refine (hs.headEndFrom word.depth _ _).bind fun e he => ?_
  cases e with
  | missing => exact fun p hp => by cases hp
  | braces brace => exact hbraced brace (he brace rfl)
  | equals sign =>
    simp only
    cases hfirst : s.get? (sign + 1) with
    | none => exact fun p hp => by cases hp
    | some first =>
      refine Yields.ite (fun hbrace => ?_) fun _ => ?_
      · refine hbraced (sign + 1) ?_
        rw [hasMark, hfirst]
        exact hbrace
      · intro p hp
        cases hp
        exact Helper.plainBody_le_size word.depth hfirst

lemma collect (hs : s.Nested) {is : List Nat} (his : ∀ i ∈ is, i < s.size) (known : List Helper) :
    Runs s (Helper.collect s states known is) := by
  induction is generalizing known with
  | nil => trivial
  | cons i is ih =>
    have hrest := fun known => ih (fun i hi => his i (List.mem_cons_of_mem _ hi)) known
    unfold Helper.collect
    cases Helper.nameAt? s i with
    | none => exact hrest known
    | some name =>
      refine Yields.ite (fun _ => hrest known) fun _ => ?_
      refine (hs.bodyOf? (his i (by simp))).bind fun body hbody => ?_
      cases body with
      | none => exact hrest known
      | some p =>
        refine Yields.bind (P := fun _ => True) (hs.parametersFrom _ _ _) fun bound _ => ?_
        exact (hs.branches _ _ _ (hbody p rfl)).bind fun branches _ => hrest _

/-- The helpers of a stream are read. -/
theorem helpers (hs : s.Nested) (states : StateIndex) : Runs s (Helper.ofStream s states) :=
  hs.collect (fun _ hi => List.mem_range.mp hi) []

end ActorDiagram.Stream.Nested
