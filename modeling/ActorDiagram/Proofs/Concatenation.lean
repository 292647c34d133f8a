import Mathlib
import ActorDiagram.Proofs.BracketReport

/-!
# Texts one after the other

A text on lines of its own, after one whose opening brackets are all closed, has its tokens, pairs and
problems as if it stood alone, only further on.
-/

namespace ActorDiagram

/-! ### Further on -/

/-- Role of a token where all tokens are counted from `m` on. -/
def BracketRole.forward (m : Nat) : BracketRole → BracketRole
  | .opener c => .opener (c + m)
  | .closer i => .closer (i + m)
  | role => role

/-- Token some characters and lines further on. -/
def Token.forward (k n : Nat) (t : Token) : Token := { t with start := t.start.forward k n }

/-- Problem some lines further on. -/
def BracketFault.forward (n : Nat) (p : BracketFault) : BracketFault := { p with line := p.line + n }

/-! ### Bracket matching that starts anew -/

namespace BracketState

variable {s u : BracketState} {k n : Nat}

/-- What has been matched so far, and behind it what is matched since then. -/
def followedBy (s : BracketState) (k n : Nat) (u : BracketState) : BracketState where
  stack := u.stack.map fun x => (x.1, x.2 + s.tokens.size)
  tokens := s.tokens ++ u.tokens.map (·.forward k n)
  roles := s.roles ++ u.roles.map (·.forward s.tokens.size)

lemma size_followedBy : (s.followedBy k n u).tokens.size = u.tokens.size + s.tokens.size := by
  simp [followedBy, Nat.add_comm]

lemma push_followedBy (t : Lexeme) (role : BracketRole) :
    (s.followedBy k n u).push (t.forward k n) (role.forward s.tokens.size) =
      s.followedBy k n (u.push t role) := by
  simp only [followedBy, push, Array.map_push, Array.append_push, List.length_map]
  rfl

lemma close_followedBy (h : s.roles.size = s.tokens.size) (rest : List (String × Nat)) (i : Nat)
    (role : BracketRole) : s.followedBy k n { u with stack := rest, roles := u.roles.setIfInBounds i role } =
      { s.followedBy k n u with
        stack := rest.map fun x => (x.1, x.2 + s.tokens.size)
        roles := (s.followedBy k n u).roles.setIfInBounds (i + s.tokens.size)
          (role.forward s.tokens.size) } := by
  unfold followedBy
  rw [Array.setIfInBounds_append_right (by omega), h, Nat.add_sub_cancel, Array.map_setIfInBounds]

/-- A step is the same behind what has been matched before. -/
theorem step_followedBy (h : s.roles.size = s.tokens.size) (t : Lexeme) :
    (s.followedBy k n u).step (t.forward k n) = s.followedBy k n (u.step t) := by
  have hpush := push_followedBy (s := s) (u := u) (k := k) (n := n) t
  have hword : (t.forward k n).word = t.word := rfl
  rw [step_eq, step_eq, hword]
  by_cases ho : t.word.isOpening = true
  · rw [if_pos ho, if_pos ho]
    simp only [readOpener, size_followedBy]
    rw [show BracketRole.unclosed = BracketRole.unclosed.forward s.tokens.size from rfl, hpush]
    rfl
  · rw [if_neg ho, if_neg ho]
    cases t.word.closes? with
    | none => exact hpush .plain
    | some wanted =>
      have hdrop : (s.followedBy k n u).stack.dropWhile (·.1 != wanted) =
          (u.stack.dropWhile (·.1 != wanted)).map fun x => (x.1, x.2 + s.tokens.size) :=
        List.dropWhile_map
      simp only [readCloser, hdrop, size_followedBy]
      cases u.stack.dropWhile (·.1 != wanted) with
      | nil => exact hpush .unexpected
      | cons x rest =>
        simp only [List.map_cons]
        rw [← push_followedBy, close_followedBy h]
        rfl

theorem run_followedBy {ts : List Lexeme} (h : (run ts).stack = []) (us : List Lexeme) :
    run (ts ++ us.map (·.forward k n)) = (run ts).followedBy k n (run us) := by
  induction us using List.reverseRecOn with
  | nil =>
    rw [List.map_nil, List.append_nil, show run [] = init from rfl]
    simp only [followedBy, init, List.map_nil, Array.map_empty, Array.append_empty]
    rw [← h]
  | append_singleton us t ih =>
    rw [List.map_append, ← List.append_assoc, List.map_singleton, run_concat, run_concat, ih,
      step_followedBy (nested_run ts).size_eq]

end BracketState

namespace Stream

variable {s s' : Stream} {k n : Nat}

/-- A stream, and behind it another one. -/
def followedBy (s : Stream) (k n : Nat) (s' : Stream) : Stream :=
  ⟨s.tokens ++ s'.tokens.map (·.forward k n), s.roles ++ s'.roles.map (·.forward s.size)⟩

lemma pairs_followedBy (h : s.roles.size = s.size) :
    (s.followedBy k n s').pairs = s.pairs ++ s'.pairs.map fun p => (p.1 + s.size, p.2 + s.size) := by
  unfold pairs followedBy
  rw [Array.toList_append, List.zipIdx_append, List.filterMap_append, Array.toList_map, List.zipIdx_map,
    List.zipIdx_eq_map_add (i := 0 + s.roles.toList.length), List.map_filterMap, List.map_map,
    List.filterMap_map]
  congr 2
  funext ⟨role, i⟩
  cases role <;> simp [BracketRole.forward, h, Nat.add_comm]

lemma problems_followedBy (h : s.roles.size = s.size) :
    (s.followedBy k n s').problems = s.problems ++ s'.problems.map (·.forward n) := by
  unfold problems followedBy
  rw [Array.toList_append, Array.toList_append, List.zip_append h.symm, List.filterMap_append,
    Array.toList_map, Array.toList_map, List.zip_map, List.filterMap_map, List.map_filterMap]
  congr 2
  funext ⟨t, role⟩
  cases role <;> rfl

theorem ofLexemes_followedBy {ts : List Lexeme} (h : (BracketState.run ts).stack = []) (us : List Lexeme) :
    ofLexemes (ts ++ us.map (·.forward k n)) = (ofLexemes ts).followedBy k n (ofLexemes us) := by
  unfold ofLexemes
  rw [BracketState.run_followedBy h]
  rfl

lemma stack_eq_nil_of_closed {ts : List Lexeme} (h : ∀ i t, (ofLexemes ts).get? i = some t →
    t.opens = true → i ∈ (ofLexemes ts).pairs.map Prod.fst) : (BracketState.run ts).stack = [] := by
  rw [List.eq_nil_iff_forall_not_mem]
  intro x hx
  have hlt := (BracketState.nested_run ts).snd_lt (List.mem_map_of_mem hx)
  have hrole : (ofLexemes ts).roles[x.2]? = some .unclosed := BracketState.unclosed_of_mem_stack ts x hx
  have ht := get?_of_lt (s := ofLexemes ts) hlt
  have ho := (BracketState.paired_run ts).fits x.2 _ _ ht hrole
  obtain ⟨c, hc⟩ := mem_openings.mp (h x.2 _ ht ((Lexeme.isOpening_word _).symm.trans ho))
  rw [hrole] at hc
  cases hc

/-- After a text whose opening brackets are all closed and a line break, a text has the same tokens, pairs
and problems as on its own, further on, and the same failure. -/
theorem ofText_append_line {text : String} (h : ofText text = .ok s)
    (hclosed : ∀ i t, s.get? i = some t → t.opens = true → i ∈ s.pairs.map Prod.fst) (text' : String) :
    (∀ s', ofText text' = .ok s' → ∃ whole, ofText (text ++ "\n" ++ text') = .ok whole ∧
      whole.tokens = s.tokens ++
        s'.tokens.map (·.forward (text.toList.length + 1) (Lexeme.lineCount text)) ∧
      whole.pairs = s.pairs ++ s'.pairs.map (fun p => (p.1 + s.size, p.2 + s.size)) ∧
      whole.problems = s.problems ++ s'.problems.map (·.forward (Lexeme.lineCount text))) ∧
    ∀ e, ofText text' = .error e →
      ofText (text ++ "\n" ++ text') = .error (e.forward (Lexeme.lineCount text)) := by
  obtain ⟨ts, hts, rfl⟩ := map_eq_ok_iff.mp h
  have hsize := (BracketState.nested_run ts).size_eq
  have hwhole := Lexeme.ofText_append hts text'
  constructor
  · intro s' h'
    obtain ⟨us, hus, rfl⟩ := map_eq_ok_iff.mp h'
    rw [hus] at hwhole
    refine ⟨(ofLexemes ts).followedBy (text.toList.length + 1) (Lexeme.lineCount text) (ofLexemes us), ?_, rfl,
      pairs_followedBy hsize, problems_followedBy hsize⟩
    rw [ofText, hwhole, ← ofLexemes_followedBy (stack_eq_nil_of_closed hclosed)]
    rfl
  · intro e h'
    have hlexemes : Lexeme.ofText text' = .error e := by
      unfold ofText at h'
      cases hus : Lexeme.ofText text' with
      | error e' =>
        rw [hus] at h'
        cases h'
        rfl
      | ok us =>
        rw [hus] at h'
        cases h'
    rw [hlexemes] at hwhole
    rw [ofText, hwhole]
    rfl

/-- A closing bracket too many, a comment over two lines and a string over two lines with a bracket in it. -/
def strayClosing : String := ") /* (\n*/ f(x) \"\"\"\n(\"\"\""

lemma strayClosing_run : (ofText strayClosing).map (fun s =>
    (s.tokens.toList.zipIdx.all fun x => !x.1.opens || (s.pairs.map Prod.fst).contains x.2,
      s.pairs, s.size)) = .ok (true, [(2, 4)], 6) := by decide +kernel

lemma openPair_run : (ofText "([)").map (fun s => (s.pairs, s.problems)) =
    .ok ([(0, 2)], [⟨.unclosedBracket, 1, 2⟩]) := by decide +kernel

lemma openComment_run : ofText "a /*" = .error (.source .unterminatedComment (some 1) (some 3)) := by
  rfl

theorem ofText_append_line_strayClosing :
    (∃ whole, ofText (strayClosing ++ "\n" ++ "([)") = .ok whole ∧ whole.pairs = [(2, 4), (6, 8)] ∧
      ⟨.unclosedBracket, 4, 2⟩ ∈ whole.problems) ∧
    ofText (strayClosing ++ "\n" ++ "a /*") = .error (.source .unterminatedComment (some 4) (some 3)) := by
  obtain ⟨s, h, hrun⟩ := map_eq_ok_iff.mp strayClosing_run
  simp only [Prod.mk.injEq] at hrun
  obtain ⟨hall, hpairs, hsize⟩ := hrun
  have hclosed : ∀ i t, s.get? i = some t → t.opens = true → i ∈ s.pairs.map Prod.fst := by
    intro i t ht ho
    have ht : s.tokens[i]? = some t := ht
    have hmem : (t, i) ∈ s.tokens.toList.zipIdx := by
      rw [List.mk_mem_zipIdx_iff_getElem?, Array.getElem?_toList, ht]
    simpa [ho] using List.all_eq_true.mp hall _ hmem
  have hlines : Lexeme.lineCount strayClosing = 3 := by decide +kernel
  constructor
  · obtain ⟨s', h', hrun'⟩ := map_eq_ok_iff.mp openPair_run
    rw [Prod.mk.injEq] at hrun'
    obtain ⟨whole, hwhole, -, hpairs', hproblems⟩ := (ofText_append_line h hclosed "([)").1 s' h'
    refine ⟨whole, hwhole, ?_, ?_⟩
    · rw [hpairs', hpairs, hrun'.1, hsize]
      rfl
    · rw [hproblems, hrun'.2, hlines]
      exact List.mem_append_right _ List.mem_cons_self
  · rw [(ofText_append_line h hclosed "a /*").2 _ openComment_run, hlines]
    rfl

end Stream

end ActorDiagram
