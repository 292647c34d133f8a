import Mathlib
import ActorDiagram.Proofs.CallOrigin
import ActorDiagram.Proofs.Turns

/-!
# The reading of bodies ends

What is read inside a range starts later than the range, though it may reach beyond its end. So there is
one way only to read bodies without a limit, and the limit on nesting changes nothing but that it may be
reported. The loops over a chain of `if`s and over groups of arguments move on with every turn.
-/

namespace ActorDiagram.Body

/-- The limit on nesting is reported. -/
def TooDeep {α : Type} (x : Except Error α) : Prop := x = .error (.source .nestedTooDeeply none none)

/-- Two runs give the same, except that the first may report the limit on nesting, if there is one. -/
def SameUpTo {α : Type} (limited : Prop) (x y : Except Error α) : Prop := x = y ∨ limited ∧ TooDeep x

/-- Two readers give the same on all ranges that start in the stream and later than `start`. -/
def SameAfter (limited : Prop) (s : Stream) (start : Nat) (read read' : Reader) : Prop :=
  ∀ first last bound, start < first → first ≤ s.size →
    SameUpTo limited (read first last bound) (read' first last bound)

/-- A turn of the reading of a chain: the outcomes of the `if` at `i` after those read so far, and where
the next `if` of the chain is, or those of the whole chain. -/
def chainTurn (read : Reader) (s : Stream) (bound : List String) (stop : Nat) :
    Nat × List Branch → Except Error (List Branch ⊕ Nat × List Branch)
  | (i, done) => do
    let close ← s.closer (i + 1)
    let thenEnd ← armStop s (close + 1) stop
    let branches ← arm read s bound (s.text (i + 2) close) (close + 1) thenEnd
    if !(decide (thenEnd < stop) && (s.get? thenEnd).any (·.isWord "else")) then
      .ok (.inl (done ++ branches))
    else if startsIf s (thenEnd + 1) then .ok (.inr (thenEnd + 1, done ++ branches))
    else
      let elseEnd ← armStop s (thenEnd + 1) stop
      let others ← arm read s bound "else" (thenEnd + 1) elseEnd
      .ok (.inl (done ++ (branches ++ others)))

/-- A turn of the search for the end of some groups of arguments before `stop`. -/
def argumentTurn (s : Stream) (stop i : Nat) : Except Error (Nat ⊕ Nat) :=
  if i < stop then do
    let t ← s.token i
    if t.isMark "(" || t.isMark "[" then (s.closer i).map fun close => .inr (close + 1)
    else .ok (.inl i)
  else .ok (.inl i)

variable {s : Stream} {states : StateIndex} {bound : List String} {limited : Prop}
  {read read' : Reader} {i start stop e depth : Nat}

/-! ### Runs that give the same -/

namespace SameUpTo

variable {α β : Type} {x y : Except Error α}

lemma refl (x : Except Error α) : SameUpTo limited x x := .inl rfl

lemma bind {f g : α → Except Error β} (h : SameUpTo limited x y)
    (hf : ∀ a, y = .ok a → SameUpTo limited (f a) (g a)) : SameUpTo limited (x >>= f) (y >>= g) := by
  rcases h with rfl | ⟨hlimited, hx⟩
  · cases x with
    | error e => exact .inl rfl
    | ok a => exact hf a rfl
  · exact .inr ⟨hlimited, by rw [hx]; rfl⟩

end SameUpTo

/-! ### Ranges inside a range -/

lemma same_arm (hs : s.Nested) (h : SameAfter limited s start read read') (hlt : start < i)
    (hi : i ≤ s.size) (label : String) :
    SameUpTo limited (arm read s bound label i stop) (arm read' s bound label i stop) := by
  unfold arm
  apply (SameUpTo.refl _).bind
  rintro ⟨first, last⟩ hrange
  have hfirst : start < first ∧ first ≤ s.size := by
    unfold withoutBraces at hrange
    split_ifs at hrange
    · obtain ⟨t, ht, hrange⟩ := bind_eq_ok_iff.mp hrange
      split_ifs at hrange
      · obtain ⟨c, hc, hrange⟩ := bind_eq_ok_iff.mp hrange
        have := hs.lt_closer hc
        cases hrange
        omega
      · cases hrange
        exact ⟨hlt, hi⟩
    · cases hrange
      exact ⟨hlt, hi⟩
  exact (h first last bound hfirst.1 hfirst.2).bind fun _ _ => .refl _

lemma same_ofArms (h : SameAfter limited s start read read') {arms : List Arm}
    (harms : ∀ a ∈ arms, start < a.arrow + 1 ∧ a.arrow + 1 ≤ s.size) :
    SameUpTo limited (ofArms read s bound arms) (ofArms read' s bound arms) := by
  induction arms with
  | nil => exact .refl _
  | cons a arms ih =>
    unfold ofArms
    apply (SameUpTo.refl _).bind
    intro label _
    apply (SameUpTo.refl _).bind
    intro names _
    obtain ⟨hlt, hle⟩ := harms a List.mem_cons_self
    apply (h _ _ _ hlt hle).bind
    intro branches _
    exact (ih fun a' ha' => harms a' (List.mem_cons_of_mem _ ha')).bind fun _ _ => .refl _

lemma le_of_armStop (hs : s.Nested) (he : armStop s i stop = .ok e)
    (helse : (decide (e < stop) && (s.get? e).any (·.isWord "else")) = true) : i ≤ e ∧ e < s.size := by
  rw [Bool.and_eq_true, decide_eq_true_eq] at helse
  have hsize : e < s.size := by
    obtain ⟨t, ht, -⟩ := (Option.any_eq_true _ _).mp helse.2
    exact Stream.lt_of_get? ht
  refine ⟨?_, hsize⟩
  rcases armStop_cases he with ⟨hle, rfl⟩ | ⟨hlt, -, -, ⟨-, c, hc, rfl⟩ | ⟨-, rfl | ⟨hle, -⟩⟩⟩
  · omega
  · have := hs.lt_closer hc
    omega
  · omega
  · exact hle

lemma same_conditional (hs : s.Nested) (h : SameAfter limited s start read read') (hi : start ≤ i)
    (fuel : Nat) : SameUpTo limited (conditional read s bound stop fuel i)
      (conditional read' s bound stop fuel i) := by
  induction fuel generalizing i with
  | zero => exact .refl _
  | succ fuel ih =>
    rw [conditional_succ, conditional_succ]
    apply (SameUpTo.refl _).bind
    intro close hclose
    have hlt := hs.lt_closer hclose
    apply (SameUpTo.refl _).bind
    intro thenEnd hthen
    apply (same_arm hs h (by omega) (by omega) _).bind
    intro branches _
    by_cases helse : (decide (thenEnd < stop) && (s.get? thenEnd).any (·.isWord "else")) = true
    · have hle := le_of_armStop hs hthen helse
      rw [helse]
      simp only [Bool.not_true, Bool.false_eq_true, if_false]
      split_ifs
      · exact (ih (by omega)).bind fun _ _ => .refl _
      · apply (SameUpTo.refl _).bind
        intro elseEnd _
        exact (same_arm hs h (by omega) (by omega) _).bind fun _ _ => .refl _
    · rw [Bool.not_eq_true] at helse
      rw [helse]
      exact .refl _

lemma same_branching (hs : s.Nested) (h : SameAfter limited s start read read')
    {tokens : List (Nat × Token)} (htokens : ∀ x ∈ tokens, start ≤ x.1) :
    SameUpTo limited (branching read s bound stop depth tokens)
      (branching read' s bound stop depth tokens) := by
  induction tokens with
  | nil => exact .refl _
  | cons x tokens ih =>
    obtain ⟨i, t⟩ := x
    have hi : start ≤ i := htokens (i, t) List.mem_cons_self
    have hrest := ih fun x hx => htokens x (List.mem_cons_of_mem _ hx)
    unfold branching
    split_ifs
    · exact hrest
    · exact .refl _
    · apply (SameUpTo.refl _).bind
      intro arms harms
      apply (same_ofArms h fun a ha => ?_).bind
      · exact fun _ _ => .refl _
      · obtain ⟨close, -, hclose, -, hlt, hlt', hle, -⟩ := Arm.extent_of_ofBlock hs harms ha
        have := hs.lt_closer hclose
        omega
    · exact (same_conditional hs h hi _).bind fun _ _ => .refl _
    · exact hrest

/-- Of what is read inside a range, only that counts which starts later. -/
theorem same_branchesWith (hs : s.Nested) (h : SameAfter limited s start read read') :
    SameUpTo limited (branchesWith read s states start stop bound)
      (branchesWith read' s states start stop bound) := by
  unfold branchesWith
  split_ifs
  · exact .refl _
  · apply (SameUpTo.refl _).bind
    intro tokens htokens
    apply (same_branching hs h fun x hx => ((Stream.mem_of_range htokens).mp hx).1).bind
    exact fun _ _ => .refl _

/-! ### Reading without a limit -/

/-- A reader that reads the ranges inside a range as it reads the range. -/
def ReadsItself (s : Stream) (states : StateIndex) (read : Reader) : Prop :=
  read = branchesWith read s states

/-- Where nothing but later ranges counts, the limit on nesting matters no more. -/
lemma branchesWithin_congr (hs : s.Nested) {limit limit' : Nat} (hlimit : s.size - start < limit)
    (hlimit' : s.size - start < limit') : branchesWithin s states limit start stop bound =
      branchesWithin s states limit' start stop bound := by
  induction limit generalizing limit' start stop bound with
  | zero => omega
  | succ limit ih =>
    obtain ⟨limit', rfl⟩ : ∃ n, limit' = n + 1 := ⟨limit' - 1, by omega⟩
    have hlater : SameAfter False s start (branchesWithin s states limit) (branchesWithin s states limit') :=
      fun first last names hlt hle => .inl (ih (by omega) (by omega))
    exact (same_branchesWith hs hlater).resolve_right fun h => h.1

/-- A reader that reads itself gives what is read with a limit that is not reached. -/
lemma ReadsItself.eq_branchesWithin (hs : s.Nested) (h : ReadsItself s states read) {limit : Nat}
    (hlimit : s.size - start < limit) :
    read start stop bound = branchesWithin s states limit start stop bound := by
  induction limit generalizing start stop bound with
  | zero => omega
  | succ limit ih =>
    have hlater : SameAfter False s start read (branchesWithin s states limit) :=
      fun first last names hlt hle => .inl (ih (by omega))
    rw [h]
    exact (same_branchesWith hs hlater).resolve_right fun h => h.1

/-- There is one reader that reads itself. -/
theorem existsUnique_readsItself (hs : s.Nested) (states : StateIndex) : ∃! read, ReadsItself s states read := by
  refine ⟨branchesWithin s states (s.size + 1), ?_, fun read h => ?_⟩
  · funext start stop bound
    have hcongr : branchesWithin s states (s.size + 1) start stop bound =
        branchesWithin s states (s.size + 2) start stop bound :=
      branchesWithin_congr hs (by omega) (by omega)
    exact hcongr
  · funext start stop bound
    exact h.eq_branchesWithin hs (by omega)

/-- A limit on nesting changes nothing, or is reported. -/
lemma ReadsItself.same (hs : s.Nested) (h : ReadsItself s states read) (limit : Nat) :
    SameUpTo True (branchesWithin s states limit start stop bound) (read start stop bound) := by
  induction limit generalizing start stop bound with
  | zero => exact .inr ⟨trivial, rfl⟩
  | succ limit ih =>
    rw [h]
    exact same_branchesWith hs fun _ _ _ _ _ => ih

/-! ### Loops -/

lemma lt_of_startsIf (h : startsIf s i = true) : i < s.size := by
  rw [startsIf_eq, Bool.and_eq_true] at h
  obtain ⟨t, ht, -⟩ := (Option.any_eq_true _ _).mp h.1
  exact Stream.lt_of_get? ht

/-- The reading of a chain ends: each of its `if`s comes after the one before. -/
theorem chainTurn_ends (hs : s.Nested) (read : Reader) (bound : List String) (stop : Nat) :
    Ends (fun x => x.1 < s.size) s.size Prod.fst (chainTurn read s bound stop)
      (fun x : Nat × List Branch => (conditional read s bound stop s.size x.1).map (x.2 ++ ·)) := by
  refine Ends.of_fuel (fun fuel (x : Nat × List Branch) =>
    (conditional read s bound stop fuel x.1).map (x.2 ++ ·)) ?_ ?_ ?_
  · rintro ⟨i, done⟩ ⟨j, done'⟩ - hturn
    obtain ⟨close, hclose, hturn⟩ := bind_eq_ok_iff.mp hturn
    obtain ⟨thenEnd, hthen, hturn⟩ := bind_eq_ok_iff.mp hturn
    obtain ⟨branches, -, hturn⟩ := bind_eq_ok_iff.mp hturn
    split_ifs at hturn with hno hif
    · cases hturn
    · cases hturn
      rw [Bool.not_eq_true, Bool.not_eq_false'] at hno
      have hlt := hs.lt_closer hclose
      have hle := le_of_armStop hs hthen hno
      have hsize := lt_of_startsIf hif
      exact ⟨hsize, show i < thenEnd + 1 by omega, hsize.le⟩
    · obtain ⟨elseEnd, -, hturn⟩ := bind_eq_ok_iff.mp hturn
      obtain ⟨others, -, hturn⟩ := bind_eq_ok_iff.mp hturn
      cases hturn
  · rintro fuel ⟨i, done⟩
    simp only [conditional_succ, chainTurn]
    cases s.closer (i + 1) with
    | error e => rfl
    | ok close =>
      simp only [Bind.bind, Except.bind]
      cases armStop s (close + 1) stop with
      | error e => rfl
      | ok thenEnd =>
        simp only
        cases arm read s bound (s.text (i + 2) close) (close + 1) thenEnd with
        | error e => rfl
        | ok branches =>
          simp only
          split_ifs
          · rfl
          · simp only [Sum.elim_inr]
            cases conditional read s bound stop fuel (thenEnd + 1) with
            | error e => rfl
            | ok others => simp [Except.map]
          · cases armStop s (thenEnd + 1) stop with
            | error e => rfl
            | ok elseEnd =>
              simp only
              cases arm read s bound "else" (thenEnd + 1) elseEnd <;> rfl
  · intro fuel x hx hle
    omega

/-- The search for the end of some arguments goes from group to group. -/
theorem argumentTurn_ends (hs : s.Nested) (hstop : stop ≤ s.size) :
    Ends (fun _ => True) s.size id (argumentTurn s stop) (s.skipArgumentsFrom stop s.size) := by
  refine Ends.of_fuel _ ?_ ?_ ?_
  · intro i j _ hturn
    unfold argumentTurn at hturn
    split_ifs at hturn
    · obtain ⟨t, -, hturn⟩ := bind_eq_ok_iff.mp hturn
      split_ifs at hturn
      · obtain ⟨close, hclose, heq⟩ := map_eq_ok_iff.mp hturn
        cases heq
        have := hs.lt_closer hclose
        refine ⟨trivial, show i < close + 1 ∧ close + 1 ≤ s.size from ?_⟩
        omega
      · cases hturn
    · cases hturn
  · intro fuel i
    rw [Stream.skipArgumentsFrom, argumentTurn]
    split_ifs
    · cases s.token i with
      | error e => rfl
      | ok t =>
        simp only [Bind.bind, Except.bind]
        split_ifs
        · cases s.closer i <;> rfl
        · rfl
    · rfl
  · intro fuel i _ hle
    cases fuel with
    | zero => rfl
    | succ fuel => rw [Stream.skipArgumentsFrom, Stream.skipArgumentsFrom, if_neg (by simp only [id] at hle; omega)]

/-- Every body is read to an end, wherever its brackets stand. Of the ranges inside a range only such
count as start later, so one reader reads itself; what bodies give is what it gives, or the report that
they nest too deeply. The loops of the reading move on with each of their turns. -/
theorem reading_ends (ts : List Lexeme) (states : StateIndex) :
    (∀ read read' start stop bound, SameAfter False (Stream.ofLexemes ts) start read read' →
      branchesWith read (Stream.ofLexemes ts) states start stop bound =
        branchesWith read' (Stream.ofLexemes ts) states start stop bound) ∧
    (∃! read, ReadsItself (Stream.ofLexemes ts) states read) ∧
    (∀ read, ReadsItself (Stream.ofLexemes ts) states read → ∀ start stop bound,
      (∀ limit, (Stream.ofLexemes ts).size - start < limit →
        branchesWithin (Stream.ofLexemes ts) states limit start stop bound = read start stop bound) ∧
      SameUpTo True (branches (Stream.ofLexemes ts) states start stop bound) (read start stop bound)) ∧
    (∀ read bound stop, Ends (fun x => x.1 < (Stream.ofLexemes ts).size) (Stream.ofLexemes ts).size Prod.fst
      (chainTurn read (Stream.ofLexemes ts) bound stop) (fun x : Nat × List Branch =>
        (conditional read (Stream.ofLexemes ts) bound stop (Stream.ofLexemes ts).size x.1).map (x.2 ++ ·))) ∧
    ∀ stop, stop ≤ (Stream.ofLexemes ts).size → Ends (fun _ => True) (Stream.ofLexemes ts).size id
      (argumentTurn (Stream.ofLexemes ts) stop)
      ((Stream.ofLexemes ts).skipArgumentsFrom stop (Stream.ofLexemes ts).size) := by
  have hs := Stream.nested_ofLexemes ts
  refine ⟨?_, existsUnique_readsItself hs states, ?_, chainTurn_ends hs, fun stop => argumentTurn_ends hs⟩
  · intro read read' start stop bound h
    exact (same_branchesWith hs h).resolve_right fun hdeep => hdeep.1
  · intro read h start stop bound
    exact ⟨fun limit hlimit => (h.eq_branchesWithin hs hlimit).symm, h.same hs nestingLimit⟩

/-- A chain with a block in an arm and a bracket that was never opened. -/
def strayChain : String := "if (a) goto(A) else if (b) x match \x7b case n => goto(B) \x7d ] else stop()"

lemma strayChain_run : (Lexeme.ofText strayChain).map (fun ts =>
    ((Stream.ofLexemes ts).size, (Stream.ofLexemes ts).problems.length,
      decide (branchesWithin (Stream.ofLexemes ts) ⟨[]⟩ 40 0 29 [] =
        .ok [⟨some "a", .goto "A" none⟩, ⟨some "b/n", .goto "B" none⟩, ⟨some "else", .stop false none⟩]))) =
    .ok (29, 1, true) := by decide +kernel

theorem reading_ends_strayChain : ∃ ts, Lexeme.ofText strayChain = .ok ts ∧
    (Stream.ofLexemes ts).problems.length = 1 ∧ ∃ read, ReadsItself (Stream.ofLexemes ts) ⟨[]⟩ read ∧
      read 0 29 [] =
        .ok [⟨some "a", .goto "A" none⟩, ⟨some "b/n", .goto "B" none⟩, ⟨some "else", .stop false none⟩] := by
  obtain ⟨ts, hts, hrun⟩ := map_eq_ok_iff.mp strayChain_run
  simp only [Prod.mk.injEq, decide_eq_true_eq] at hrun
  obtain ⟨hsize, hproblems, hbranches⟩ := hrun
  obtain ⟨-, ⟨read, hread, -⟩, hall, -⟩ := reading_ends ts ⟨[]⟩
  refine ⟨ts, hts, hproblems, read, hread, ?_⟩
  rw [← (hall read hread 0 29 []).1 40 (by omega), hbranches]

end ActorDiagram.Body
