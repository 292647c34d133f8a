import Mathlib
import ActorDiagram.Proofs.LineBreak
import ActorDiagram.Proofs.Succession

/-!
# Blocks are independent

Where two texts stand on lines of their own, one after the other, each block is read as in its own text.
Clauses, sources and findings are those of the first text and then those of the second, further down, and
the first failure is that of the first text that has one.
-/

namespace ActorDiagram

/-! ### Results further down -/

/-- Clause some lines further down. -/
def Clause.forward (n : Nat) (c : Clause) : Clause := { c with line := c.line + n }

/-- Finding some lines further down. -/
def Finding.forward (n : Nat) (f : Finding) : Finding := { f with line := f.line.map (· + (n : Int)) }

/-- Issue some lines further down. -/
def Issue.forward (n : Nat) (i : Issue) : Issue := { i with line := i.line.map (· + (n : Int)) }

lemma IssueRules.apply_forward (rules : IssueRules) (n : Nat) (fs : List Finding) :
    rules.apply (fs.map (·.forward n)) = (rules.apply fs).map (·.forward n) := by
  unfold apply
  rw [List.filterMap_map, List.map_filterMap]
  congr 1
  funext f
  simp only [Function.comp_apply, issue?, Finding.forward]
  split <;> rfl

namespace Blocks

/-- Blocks with their findings, some lines further down. -/
def forward (n : Nat) (x : Blocks × List Finding) : Blocks × List Finding :=
  (⟨x.1.clauses.map (·.forward n), x.1.sources⟩, x.2.map (·.forward n))

/-- Blocks with their findings, and after them others. -/
def append (x y : Blocks × List Finding) : Blocks × List Finding :=
  (⟨x.1.clauses ++ y.1.clauses, x.1.sources ++ y.1.sources⟩, x.2 ++ y.2)

/-- Blocks of all parts. -/
def joined (parts : List (Blocks × List Finding)) : Blocks × List Finding :=
  (⟨parts.flatMap (·.1.clauses), parts.flatMap (·.1.sources)⟩, parts.flatMap (·.2))

/-- Run on a text and then on another one that starts `n` lines further down. The first failure counts. -/
def inTurn (n : Nat) (x y : Except Error (Blocks × List Finding)) : Except Error (Blocks × List Finding) :=
  do
    let first ← x
    let second ← (y.map (forward n)).mapError (Error.forward n)
    .ok (append first second)

end Blocks

namespace Likeness

/-- Texts that are the same, one of them further on. -/
def further (k n : Nat) : Likeness := ⟨True, fun p q => q = p.forward k n⟩

variable {k n : Nat}

lemma eq_of_line {a b : Int} (h : (further k n).Line a b) : b = a + n := by
  obtain ⟨p, _, rfl, rfl, rfl⟩ := h
  simp [Position.forward]

lemma eq_of_fault {e e' : Error} (h : (further k n).Fault e e') : e' = e.forward n := by
  cases h with
  | @source cause p q h =>
    obtain rfl : q = p.forward k n := h
    simp [Error.forward, Position.forward]
  | atLine cause h => simp [Error.forward, eq_of_line h]
  | nowhere | emptyIdentifier | noToken | helperCallLeft | unknownNode => rfl

/-- Runs that agree, where the results of one tell those of the other. -/
lemma eq_of_agree {α β : Type} {R : α → β → Prop} {x : Except Error α} {y : Except Error β}
    (h : (further k n).Agree R x y) {f : α → β} (hf : ∀ a b, R a b → b = f a) :
    y = (x.map f).mapError (Error.forward n) := by
  rcases Agree.cases h with ⟨a, b, rfl, rfl, hab⟩ | ⟨e, e', rfl, rfl, hfault⟩
  · rw [hf a b hab]
    rfl
  · rw [eq_of_fault hfault]
    rfl

lemma clauses_eq {cs cs' : List Clause} (h : List.Forall₂ (Clause.Alike (further k n)) cs cs')
    (hactions : cs.map (·.action) = cs'.map (·.action)) : cs' = cs.map (·.forward n) := by
  induction h with
  | nil => rfl
  | @cons c c' cs cs' hcc _ ih =>
    simp only [List.map_cons, List.cons.injEq] at hactions
    rw [List.map_cons, ← ih hactions.2, List.cons.injEq]
    refine ⟨?_, rfl⟩
    obtain ⟨hsource, hevent, -, hline⟩ := hcc
    have hline := eq_of_line hline
    have hevent := hevent trivial
    cases c
    cases c'
    simp only at hsource hevent hline hactions
    rw [Clause.forward, hsource, hevent, hline, hactions.1]

lemma findings_eq {fs fs' : List Finding} (h : List.Forall₂ (Finding.Alike (further k n)) fs fs') :
    fs' = fs.map (·.forward n) := by
  induction h with
  | nil => rfl
  | @cons f f' fs fs' hff _ ih =>
    rw [List.map_cons, ← ih, List.cons.injEq]
    refine ⟨?_, rfl⟩
    obtain ⟨hcode, hmessage, hline, hhint⟩ := hff
    have hmessage := hmessage trivial
    have hline : f'.line = f.line.map (· + (n : Int)) := by
      cases hl : f.line with
      | none =>
        rw [hl] at hline
        rw [eq_none_of_rel_none hline]
        rfl
      | some a =>
        rw [hl] at hline
        obtain ⟨b, hb, hab⟩ := exists_of_rel_some hline
        rw [hb, eq_of_line hab]
        rfl
    cases f
    cases f'
    simp only at hcode hmessage hline hhint
    rw [Finding.forward, hcode, hmessage, hline, hhint]

end Likeness

/-! ### Blocks of both texts -/

namespace Blocks

variable {s s' : Stream} {states : StateIndex} {i k m n : Nat}

lemma forward_zero (x : Except Error (Blocks × List Finding)) :
    (x.map (forward 0)).mapError (Error.forward 0) = x := by
  have hclause : ∀ c : Clause, c.forward 0 = c := fun c => by simp [Clause.forward]
  have hfinding : ∀ f : Finding, f.forward 0 = f := fun f => by simp [Finding.forward]
  cases x with
  | ok x => simp [Except.map, Except.mapError, forward, hclause, hfinding]
  | error e => cases e <;> simp [Except.map, Except.mapError, Error.forward]

/-- A block is read where its stream stands as it is read on its own. -/
theorem blockAt_of_embeds (h : Stream.Embeds (Likeness.further k n) m s s') (states : StateIndex)
    (hi : i < s.size) :
    blockAt s' states (i + m) = ((blockAt s states i).map (forward n)).mapError (Error.forward n) := by
  refine Likeness.eq_of_agree (h.blockAt trivial states hi) ?_
  rintro ⟨⟨clauses, sources⟩, findings⟩ ⟨⟨clauses', sources'⟩, findings'⟩
    ⟨⟨hclauses, hsources, hfindings⟩, hactions⟩
  simp only at hclauses hsources hfindings hactions
  rw [forward, Likeness.clauses_eq hclauses hactions, Likeness.findings_eq hfindings, hsources]

lemma mapM_forward {α β γ : Type} (f : β → γ) (g : α → Except Error β) (n : Nat) (l : List α) :
    l.mapM (fun a => ((g a).map f).mapError (Error.forward n)) =
      ((l.mapM g).map (List.map f)).mapError (Error.forward n) := by
  induction l with
  | nil => rfl
  | cons a l ih =>
    rw [List.mapM_cons, List.mapM_cons, ih]
    cases g a with
    | error e => rfl
    | ok b => cases l.mapM g <;> rfl

lemma mapM_congr {α β : Type} {f g : α → Except Error β} {l : List α} (h : ∀ a ∈ l, f a = g a) :
    l.mapM f = l.mapM g := by
  induction l with
  | nil => rfl
  | cons a l ih =>
    rw [List.mapM_cons, List.mapM_cons, h a List.mem_cons_self,
      ih fun b hb => h b (List.mem_cons_of_mem a hb)]

lemma mapM_blockAt_of_embeds (h : Stream.Embeds (Likeness.further k n) m s s') (states : StateIndex) :
    (List.range s.size).mapM (blockAt s' states ∘ (m + ·)) =
      (((List.range s.size).mapM (blockAt s states)).map (List.map (forward n))).mapError
        (Error.forward n) := by
  rw [← mapM_forward]
  refine mapM_congr fun i hi => ?_
  rw [Function.comp_apply, Nat.add_comm]
  exact blockAt_of_embeds h states (List.mem_range.mp hi)

lemma ofStream_of_problems (h : s.problems = []) (states : StateIndex) :
    ofStream s states = ((List.range s.size).mapM (blockAt s states)).map joined := by
  unfold ofStream Stream.requireBalance
  rw [h]
  rfl

lemma joined_append (xs ys : List (Blocks × List Finding)) :
    joined (xs ++ ys) = append (joined xs) (joined ys) := by
  simp only [joined, append, List.flatMap_append]

lemma joined_forward (n : Nat) (xs : List (Blocks × List Finding)) :
    joined (xs.map (forward n)) = forward n (joined xs) := by
  simp only [joined, forward, List.flatMap_map, List.map_flatMap]

variable {ts us : List Lexeme}

/-- Lexemes on lines of their own give the blocks that they give alone. -/
theorem ofStream_append (h : (Stream.ofLexemes ts).problems = [])
    (h' : (Stream.ofLexemes us).problems = []) (hfirst : ∀ t, us.head? = some t → t.isIdentifier = true)
    (k n : Nat) (states : StateIndex) :
    (Stream.ofLexemes (ts ++ us.map (·.forward k n))).problems = [] ∧
    ofStream (Stream.ofLexemes (ts ++ us.map (·.forward k n))) states =
      inTurn n (ofStream (Stream.ofLexemes ts) states) (ofStream (Stream.ofLexemes us) states) := by
  have hus : List.Forall₂ (Lexeme.Alike (Likeness.further k n)) us (us.map (·.forward k n)) := by
    rw [List.forall₂_map_right_iff, List.forall₂_same]
    exact fun t _ => ⟨rfl, fun _ => rfl, rfl⟩
  have hbalance := Stream.problems_append h h' hus
  have hfirst' : ∀ t, (us.map (·.forward k n)).head? = some t → t.isIdentifier = true := by
    intro t ht
    rw [List.head?_map, Option.map_eq_some_iff] at ht
    obtain ⟨u, hu, rfl⟩ := ht
    exact hfirst u hu
  have hleft := Stream.embeds_left (Likeness.further 0 0) h hfirst' fun _ => rfl
  have hright := Stream.embeds_right h h' hus
  refine ⟨hbalance, ?_⟩
  rw [ofStream_of_problems hbalance, ofStream_of_problems h, ofStream_of_problems h']
  simp only [Stream.size_ofLexemes, List.length_append, List.length_map, List.range_add]
  rw [List.mapM_append, List.mapM_map]
  have hparts : (List.range ts.length).mapM
      (blockAt (Stream.ofLexemes (ts ++ us.map (·.forward k n))) states) =
      (List.range ts.length).mapM (blockAt (Stream.ofLexemes ts) states) := by
    refine mapM_congr fun i hi => ?_
    rw [List.mem_range, ← Stream.size_ofLexemes ts] at hi
    exact (blockAt_of_embeds hleft states hi).trans (forward_zero _)
  have hparts' := mapM_blockAt_of_embeds hright states
  rw [Stream.size_ofLexemes] at hparts'
  rw [hparts, hparts']
  cases (List.range ts.length).mapM (blockAt (Stream.ofLexemes ts) states) with
  | error e => rfl
  | ok xs =>
    cases (List.range us.length).mapM (blockAt (Stream.ofLexemes us) states) with
    | error e => rfl
    | ok ys =>
      change Except.ok (joined (xs ++ ys.map (forward n))) =
        Except.ok (append (joined xs) (forward n (joined ys)))
      rw [joined_append, joined_forward]

/-- Blocks with the issues that a log makes of the findings about them. -/
def logged (rules : IssueRules) (x : Blocks × List Finding) : Blocks × List Issue :=
  (x.1, rules.apply x.2)

lemma logged_append_forward (rules : IssueRules) (n : Nat) (x y : Blocks × List Finding) :
    logged rules (append x (forward n y)) =
      (⟨x.1.clauses ++ y.1.clauses.map (·.forward n), x.1.sources ++ y.1.sources⟩,
        rules.apply x.2 ++ (rules.apply y.2).map (·.forward n)) := by
  rw [← IssueRules.apply_forward]
  exact congrArg (Prod.mk _) List.filterMap_append

/-- Blocks are read by themselves: a text with another one below it, which begins with an identifier,
gives the clauses, sources and issues of the first and then those of the second, as many lines further
down as stand above it. A failure is that of the first text, or else that of the second further down. -/
theorem ofStream_append_break {text text' : String} {s s' : Stream} (hs : Stream.ofText text = .ok s)
    (hs' : Stream.ofText text' = .ok s') (h : s.problems = []) (h' : s'.problems = [])
    (hfirst : ∀ t, s'.get? 0 = some t → t.isIdentifier = true) :
    ∃ whole, Stream.ofText (text ++ "\n" ++ text') = .ok whole ∧ whole.problems = [] ∧
      ∀ states rules, (ofStream whole states).map (logged rules) = (do
        let (blocks, issues) ← (ofStream s states).map (logged rules)
        let (blocks', issues') ← ((ofStream s' states).map (logged rules)).mapError
          (Error.forward (Lexeme.lineCount text))
        .ok (⟨blocks.clauses ++ blocks'.clauses.map (·.forward (Lexeme.lineCount text)),
            blocks.sources ++ blocks'.sources⟩,
          issues ++ issues'.map (·.forward (Lexeme.lineCount text)))) := by
  obtain ⟨ts, hts, rfl⟩ := map_eq_ok_iff.mp hs
  obtain ⟨us, hus, rfl⟩ := map_eq_ok_iff.mp hs'
  have hfirst' : ∀ t, us.head? = some t → t.isIdentifier = true := by
    intro t ht
    obtain ⟨us, rfl⟩ := List.head?_eq_some_iff.mp ht
    exact hfirst _ (Stream.get?_ofLexemes [] us t)
  have happend := ofStream_append h h' hfirst' (text.toList.length + 1) (Lexeme.lineCount text)
  refine ⟨_, map_eq_ok_iff.mpr ⟨_, Lexeme.ofText_append_break hts hus, rfl⟩,
    (happend StateIndex.empty).1, fun states rules => ?_⟩
  rw [(happend states).2, inTurn]
  cases ofStream (Stream.ofLexemes ts) states with
  | error e => rfl
  | ok x =>
    cases ofStream (Stream.ofLexemes us) states with
    | error e => rfl
    | ok y =>
      change Except.ok (logged rules (append x (forward _ y))) = _
      rw [logged_append_forward]
      rfl

/-- A block with a remark after it. -/
def guardedBlock : String := "when(A)\x7b\n  case Go(d)=>goto(B)using d\x7d // B is next"

/-- A block whose second arm does nothing. -/
def branchingBlock : String :=
  "when(B)\x7b\ncase Back(d)=>if(d>0)stay()else goto(A)\ncase Odd=>\x7d"

/-- A block that goes to any of two states. -/
def strayBlock : String := "when(B)\x7bcase K=>\ngoto(C)\x7d"

/-- States of the blocks, two of them with the same local name. -/
def fourStates : StateIndex :=
  ⟨[⟨none, "A", "A", 1, 1⟩, ⟨none, "B", "B", 2, 1⟩, ⟨some "G", "C", "G.C", 3, 1⟩,
    ⟨some "H", "C", "H.C", 4, 1⟩]⟩

/-- What is read of a text: whether it is balanced and begins with an identifier, and its blocks. -/
def reading (text : String) :
    Except Error (List BracketFault × Bool × Except Error (Blocks × List Issue)) :=
  (Stream.ofText text).map fun s =>
    (s.problems, (s.get? 0).all (·.isIdentifier), (ofStream s fourStates).map (logged {}))

lemma reading_guardedBlock : reading guardedBlock =
    .ok ([], true, .ok (⟨[⟨"A", "Go(d)", .goto "B" (some "d"), 2⟩], ["A"]⟩, [])) := by
  decide +kernel

lemma reading_branchingBlock : reading branchingBlock = .ok ([], true, .ok
    (⟨[⟨"B", "Back(d)/d > 0", .stay none, 2⟩, ⟨"B", "Back(d)/else", .goto "A" none, 2⟩], ["B"]⟩,
      [⟨noAction ⟨"B", "B", 0⟩ "Odd" 3, .warning⟩])) := by
  decide +kernel

lemma reading_strayBlock : reading strayBlock = .ok ([], true,
    .error (.source (.ambiguousReference "C" ["G.C", "H.C"]) (some 2) (some 6))) := by
  decide +kernel

lemma exists_of_reading {text : String} {r : Except Error (Blocks × List Issue)}
    (h : reading text = .ok ([], true, r)) : ∃ s, Stream.ofText text = .ok s ∧ s.problems = [] ∧
      (∀ t, s.get? 0 = some t → t.isIdentifier = true) ∧
      (ofStream s fourStates).map (logged {}) = r := by
  obtain ⟨s, hs, hread⟩ := map_eq_ok_iff.mp h
  simp only [Prod.mk.injEq] at hread
  refine ⟨s, hs, hread.1, fun t ht => ?_, hread.2.2⟩
  rw [← hread.2.1, ht, Option.all_some]

theorem ofStream_append_break_guardedBlock :
    (∃ s, Stream.ofText (guardedBlock ++ "\n" ++ branchingBlock) = .ok s ∧
      (ofStream s fourStates).map (logged {}) = .ok
        (⟨[⟨"A", "Go(d)", .goto "B" (some "d"), 2⟩, ⟨"B", "Back(d)/d > 0", .stay none, 4⟩,
          ⟨"B", "Back(d)/else", .goto "A" none, 4⟩], ["A", "B"]⟩,
          [⟨noAction ⟨"B", "B", 0⟩ "Odd" 5, .warning⟩])) ∧
    ∃ s, Stream.ofText (guardedBlock ++ "\n" ++ strayBlock) = .ok s ∧
      (ofStream s fourStates).map (logged {}) =
        .error (.source (.ambiguousReference "C" ["G.C", "H.C"]) (some 4) (some 6)) := by
  obtain ⟨s, hs, hbalance, -, hread⟩ := exists_of_reading reading_guardedBlock
  constructor
  · obtain ⟨s', hs', hbalance', hfirst, hread'⟩ := exists_of_reading reading_branchingBlock
    obtain ⟨whole, hwhole, -, hblocks⟩ := ofStream_append_break hs hs' hbalance hbalance' hfirst
    refine ⟨whole, hwhole, ?_⟩
    rw [hblocks, hread, hread']
    rfl
  · obtain ⟨s', hs', hbalance', hfirst, hread'⟩ := exists_of_reading reading_strayBlock
    obtain ⟨whole, hwhole, -, hblocks⟩ := ofStream_append_break hs hs' hbalance hbalance' hfirst
    refine ⟨whole, hwhole, ?_⟩
    rw [hblocks, hread, hread']
    rfl

end Blocks

end ActorDiagram
