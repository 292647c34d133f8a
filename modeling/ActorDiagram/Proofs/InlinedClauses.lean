import Mathlib
import ActorDiagram.Proofs.BoundNames
import ActorDiagram.Proofs.DecisionReading
import ActorDiagram.Proofs.GraphAlike

/-!
# Clauses in place of a call

A body that only calls a helper is one clause, followed later through the helper's branches. Where the
body says what the helper's body says, its clauses are these branches from the start.
-/

namespace ActorDiagram

/-! ### Reading a call -/

/-- Words of a call without arguments. -/
def callOf (name : String) : List Word := [.name name, .mark "(", .mark ")"]

/-- Words that say where a machine goes, in small letters. -/
def directiveWords : List String := ["goto", "stay", "stop", "stopSuccess", "stopFailure"]

/-- A name that a call is read from. -/
structure IsCallable (name : String) : Prop where
  lower : Directive.startsLowerCase name = .ok true
  not_reserved : name ∉ wordsNotCalled
  not_directive : name ∉ directiveWords

instance (name : String) : Decidable (IsCallable name) :=
  decidable_of_iff (Directive.startsLowerCase name = .ok true ∧ name ∉ wordsNotCalled ∧
    name ∉ directiveWords)
    ⟨fun ⟨h, h', h''⟩ => ⟨h, h', h''⟩, fun ⟨h, h', h''⟩ => ⟨h, h', h''⟩⟩

section Call

variable {s : Stream} {states : StateIndex} {bound : List String} {name : String} {d i : Nat}

lemma balanced_callOf (name : String) : Balanced (callOf name) :=
  Balanced.cons (Word.isPlain_name name) (by decide)

lemma topLevel_callOf (name : String) : topLevel (callOf name) = [.name name] := by
  unfold callOf
  rw [topLevel_cons (Word.isPlain_name name)]
  rfl

lemma Directive.eq_none_of_mark {stop : Nat} {t : Token} (ht : s.get? i = some t)
    (hno : t.isIdentifier = false) :
    at? s states i stop = .ok none ∧ call? s bound i stop = .ok none := by
  unfold at? call?
  rw [Stream.token_eq_ok_iff.mpr ht]
  simp only [Bind.bind, Except.bind, hno]
  exact ⟨rfl, rfl⟩

/-- A word that does not say where a machine goes is no directive. Only `Target` could be one, with more
behind it. -/
lemma Directive.at?_of_not_directive {stop : Nat} {t : Token} (ht : s.get? i = some t)
    (hno : t.text ∉ directiveWords) (hroom : stop ≤ i + 3) : at? s states i stop = .ok none := by
  simp only [directiveWords, List.mem_cons, List.not_mem_nil, or_false, not_or] at hno
  obtain ⟨hgoto, hstay, hstop, hsuccess, hfailure⟩ := hno
  unfold at?
  rw [Stream.token_eq_ok_iff.mpr ht]
  simp [Bind.bind, Except.bind, hgoto, hstay, hstop, hsuccess, hfailure, hroom]

/-- Before a round bracket, and behind nothing that introduces it, a name is called. -/
lemma Directive.call?_of_callable {stop : Nat} {t u : Token} (ht : s.get? i = some t)
    (hident : t.isIdentifier = true) (hname : IsCallable t.text) (hbound : t.text ∉ bound)
    (hu : s.get? (i + 1) = some u) (hparen : u.isMark "(" = true)
    (hbefore : ∀ t, s.before? i = some t → Window.quietBefore t = true) :
    call? s bound i stop = .ok (some (.call t.text)) := by
  have hintroduced : introduced s i = false := by
    unfold introduced
    cases hb : s.before? i with
    | none => rfl
    | some b => simp [hbefore b hb]
  have hdenied : denied s i stop = false := by
    unfold denied
    rw [hu]
    simp [deniesCall, hparen]
  rw [call?_eq ht, hident, hintroduced, hdenied, hname.lower]
  simp [Except.map, hname.not_reserved, hbound]

lemma Body.branching_callOf (h : s.Says d i (callOf name)) (hname : IsCallable name)
    (read : Body.Reader) :
    Body.branching read s bound (i + 3) d (s.part i 3) = .ok none := by
  have hword (w : String) (hw : name ≠ w) (x : Nat × Token) (hx : x ∈ s.part i 3)
      (hd : x.2.depth = d) : ¬ x.2.isWord w = true := by
    rw [Lexeme.isWord_iff]
    refine h.not_at_depth (balanced_callOf name) (Word.isPlain_name w) ?_ hx hd
    rw [topLevel_callOf, List.mem_singleton]
    exact fun heq => hw (congrArg Word.text heq).symm
  have hreserved : ∀ w ∈ wordsNotCalled, name ≠ w := by
    rintro w hw rfl
    exact hname.not_reserved hw
  apply Body.branching_eq_none
  · intro x hx hd _ hx'
    exact absurd hx' (hword "match" (hreserved _ (by decide)) x hx hd)
  · intro x hx hd _ hx'
    exact absurd hx' (hword "if" (hreserved _ (by decide)) x hx hd)

/-- A body that says no more than a call of a helper does what the helper does. -/
theorem Body.branches_of_callOf (h : s.Says d i (callOf name)) (hname : IsCallable name)
    (hbound : name ∉ bound) (hbefore : ∀ t, s.before? i = some t → Window.quietBefore t = true) :
    Body.branches s states i (i + 3) bound = .ok [⟨none, .call name⟩] := by
  obtain ⟨t, ht, htw, -⟩ := h.head rfl
  have hparen : s.Says d (i + 1) [.mark "(", .mark ")"] := h.tail (Word.isPlain_name name)
  obtain ⟨u, hu, huw, -⟩ := hparen.head (by decide)
  obtain ⟨v, hv, hvw⟩ := h.get?_of_lt (k := i + 2) (by omega) (by simp [callOf])
  have hvw' : v.word = .mark ")" := by
    rw [show i + 2 - i = 2 by omega] at hvw
    exact (Option.some.inj hvw).symm
  obtain rfl : name = t.text := (congrArg Word.text htw).symm
  -- The name is called; neither it nor its brackets are a directive.
  have hdirective : Directive.at? s states i (i + 3) = .ok none :=
    Directive.at?_of_not_directive ht hname.not_directive (le_refl _)
  have hcall : Directive.call? s bound i (i + 3) = .ok (some (.call t.text)) :=
    Directive.call?_of_callable ht (Lexeme.isIdentifier_of_word htw) hname hbound hu
      (Lexeme.isMark_iff.mpr huw) hbefore
  have hmark {w : Token} {m : String} (hw : w.word = .mark m) : w.isIdentifier = false := by
    have hk : w.kind = .mark := congrArg Word.kind hw
    simp [Lexeme.isIdentifier, hk]
  obtain ⟨hu₁, hu₂⟩ := @Directive.eq_none_of_mark s states bound (i + 1) (i + 3) u hu (hmark huw)
  obtain ⟨hv₁, hv₂⟩ := @Directive.eq_none_of_mark s states bound (i + 2) (i + 3) v hv (hmark hvw')
  have hfind : Directive.find? s states bound i (i + 3) = .ok (some (.call t.text)) := by
    unfold Directive.find?
    rw [Nat.add_sub_cancel_left, show List.range' i 3 = [i, i + 1, i + 2] from rfl]
    simp only [Directive.firstIn_cons, hdirective, hu₁, hv₁, hcall, Bind.bind, Except.bind]
    rfl
  have hleast : Body.leastDepth (s.part i 3) = d :=
    Body.leastDepth_part h (balanced_callOf t.text) (by simp [callOf])
  have hrange : s.range i (i + 3) = .ok (s.part i 3) := h.range
  change Body.branchesWith _ s states i (i + 3) bound = _
  rw [Body.branchesWith_of_none (by omega) hrange hleast (Body.branching_callOf h hname _), hfind]
  rfl

end Call

/-! ### Clauses for the branches of a body -/

/-- Clauses for the branches of a body, in place of this clause. -/
def Clause.taking (c : Clause) (bs : List Branch) : List Clause :=
  bs.map fun b => ⟨c.source, b.labelled c.event (1 < bs.length), b.action, c.line⟩

/-- Clauses on both sides, alike one by one, but that where the first calls this helper, the clauses
for these branches may stand. -/
inductive Inlined (σ : Likeness) (name : String) (bs : List Branch) :
    List Clause → List Clause → Prop
  | nil : Inlined σ name bs [] []
  | alike {c c' : Clause} {cs cs' : List Clause} (h : c.Alike σ c') (rest : Inlined σ name bs cs cs') :
    Inlined σ name bs (c :: cs) (c' :: cs')
  | call {c c' : Clause} {cs cs' : List Clause} (h : c.Alike σ c') (hcall : c.action = .call name)
    (rest : Inlined σ name bs cs cs') : Inlined σ name bs (c :: cs) (c'.taking bs ++ cs')

namespace Inlined

variable {σ : Likeness} {name : String} {bs : List Branch} {cs cs' ds ds' : List Clause}

lemma of_alike (h : List.Forall₂ (Clause.Alike σ) cs cs') : Inlined σ name bs cs cs' := by
  induction h with
  | nil => exact .nil
  | cons hc _ ih => exact .alike hc ih

lemma append (h : Inlined σ name bs cs cs') (h' : Inlined σ name bs ds ds') :
    Inlined σ name bs (cs ++ ds) (cs' ++ ds') := by
  induction h with
  | nil => exact h'
  | alike hc _ ih => exact .alike hc ih
  | call hc hcall _ ih =>
    rw [List.append_assoc]
    exact .call hc hcall ih

lemma flatMap {α β : Type} {R : α → β → Prop} {f : α → List Clause} {g : β → List Clause}
    {l : List α} {l' : List β} (h : List.Forall₂ R l l')
    (hfg : ∀ x y, R x y → Inlined σ name bs (f x) (g y)) :
    Inlined σ name bs (l.flatMap f) (l'.flatMap g) := by
  induction h with
  | nil => exact .nil
  | cons hxy _ ih =>
    rw [List.flatMap_cons, List.flatMap_cons]
    exact (hfg _ _ hxy).append ih

end Inlined

lemma callFree_of_alike {σ : Likeness} {bs bs' : List Branch}
    (h : List.Forall₂ (Branch.Alike σ) bs bs') (hfree : CallFree bs) : CallFree bs' := by
  induction h with
  | nil => exact fun b hb => by cases hb
  | @cons b b' bs bs' hb _ ih =>
    intro x hx
    rcases List.mem_cons.mp hx with rfl | hx
    · rcases Action.call_or_not hb.1 with ⟨name, hcall, -⟩ | ⟨-, hno⟩
      · exact absurd hcall (hfree b List.mem_cons_self name)
      · exact hno
    · exact ih (fun y hy => hfree y (List.mem_cons_of_mem _ hy)) x hx

/-- A call is followed to what the clauses for the helper's branches are followed to. -/
lemma Clause.Alike.expand_taking {σ : Likeness} {c c' : Clause} (h : c.Alike σ c') {name : String}
    (hcall : c.action = .call name) {helpers : List Helper} {f : Helper}
    (hf : helpers.find? (·.name == name) = some f) (hne : f.branches ≠ [])
    (hfree : CallFree f.branches) {bs : List Branch}
    (hbs : List.Forall₂ (Branch.Alike σ) f.branches bs) (helpers' : List Helper) :
    StepsAlike σ (c.expand helpers) ((c'.taking bs).flatMap (Clause.expand helpers')) := by
  have hexpand : c.expand helpers = f.branches.map (c.takeBranch f) := by
    unfold Clause.expand Clause.expandCall
    rw [hcall]
    simp only [hf]
    rw [if_neg (by simpa using hne)]
  have hfree' := callFree_of_alike hbs hfree
  have htaking : (c'.taking bs).flatMap (Clause.expand helpers') = bs.map fun b =>
      (⟨c'.source, b.labelled c'.event (1 < bs.length), b.action, c'.line⟩, []) := by
    unfold Clause.taking
    rw [List.flatMap_map, List.map_eq_flatMap]
    apply List.flatMap_congr
    intro b hb
    exact Clause.expand_of_not_call helpers' (hfree' b hb)
  rw [hexpand, htaking]
  refine List.rel_map ?_ ((List.forall₂_and_left _ _).mpr ⟨hfree, hbs⟩)
  rintro b b' ⟨hno, hb⟩
  rw [Clause.takeBranch_of_not_call c f hno, hbs.length_eq]
  exact ⟨⟨h.source, fun hexact => hb.labelled h.event _ hexact, hb.1, h.line⟩, .nil⟩

/-- Clauses with calls are followed to what the clauses with the branches are followed to. -/
theorem Inlined.expand {σ : Likeness} {name : String} {bs : List Branch} {cs cs' : List Clause}
    (h : Inlined σ name bs cs cs') {helpers helpers' : List Helper}
    (hhelpers : List.Forall₂ (Helper.Alike σ) helpers helpers') {f : Helper}
    (hf : helpers.find? (·.name == name) = some f) (hne : f.branches ≠ [])
    (hfree : CallFree f.branches) (hbs : List.Forall₂ (Branch.Alike σ) f.branches bs) :
    StepsAlike σ (cs.flatMap (Clause.expand helpers)) (cs'.flatMap (Clause.expand helpers')) := by
  induction h with
  | nil => exact .nil
  | alike hc _ ih =>
    rw [List.flatMap_cons, List.flatMap_cons]
    exact List.rel_append (hc.expand hhelpers) ih
  | call hc hcall _ ih =>
    rw [List.flatMap_cons, List.flatMap_append]
    exact List.rel_append (hc.expand_taking hcall hf hne hfree hbs helpers') ih

end ActorDiagram
