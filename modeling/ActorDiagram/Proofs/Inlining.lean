import Mathlib
import ActorDiagram.Proofs.CallSiteParts

/-!
# Inlining

A helper that is called as the whole body of an arm may be written out there: the text with the
helper's body in the arm has the same diagram as the text with the call, when no function goes past
the arm.
-/

namespace ActorDiagram

namespace CallSite.Inlines

variable {c : CallSite} {ls ls' : List Lexeme}

/-- A text with the call and the text with the helper's body in its place have models of one graph,
with the same findings, when no head of a function goes past the arrow. -/
theorem modelOfStream (h : c.Inlines ls ls')
    (hhead : ∀ i < ls.length, (Helper.nameAt? (Stream.ofLexemes ls) i).isSome = true →
      Helper.inHead (Stream.ofLexemes ls) i c.arm.arrow = false) :
    sameWords.Agree (fun x y => x.graph = y.graph ∧
        List.Forall₂ (Finding.Alike sameWords) x.findings y.findings)
      (Model.ofStream (Stream.ofLexemes ls)) (Model.ofStream (Stream.ofLexemes ls')) := by
  have hsplice := h.splice
  have harrow := h.arrow
  have hstates := hsplice.statesOfStream
    (hsplice.typesOfStream (fun i hi hlt => h.call_no_type hi hlt)
      fun j hj hlt => h.body_machines hj hlt)
    (fun i t hi hlt => h.call_no_state hi hlt) fun j t hj hlt => h.body_no_state hj hlt
  unfold Model.ofStream
  rcases Agree.cases hstates with ⟨states, states', hs, hs', hstates⟩ | ⟨e, e', he, he', hee⟩
  swap
  · rw [he, he']
    exact hee
  obtain ⟨t, f, hname, hf, hne, hfree⟩ := h.branches states hs
  obtain ⟨bs, hbs, hbranches⟩ := h.body_branches hstates hf hfree
  have hne' : bs ≠ [] := by
    rintro rfl
    exact hne (List.forall₂_nil_right_iff.mp hbranches)
  rw [hs, hs']
  simp only [Bind.bind, Except.bind]
  have hblocks := hsplice.blocksOfStream hstates h.balance' h.armSite
    (fun i head close => h.brace_eq) (fun i hi hlt => h.call_no_block states hi hlt)
    (fun j hj hlt => h.body_no_block states' hj hlt) (fun bound => h.call_branches states) hbs hne'
  rcases Agree.cases hblocks with ⟨⟨blocks, findings⟩, ⟨blocks', findings'⟩, hb, hb', hclauses,
    hsources, hfindings⟩ | ⟨e, e', he, he', hee⟩
  swap
  · rw [he, he']
    exact hee
  rw [hb, hb']
  simp only at hclauses hsources hfindings ⊢
  rcases Agree.cases (hsplice.lockstep.checkFound (.inl ⟨rfl, hsplice.pos⟩) hstates hsources) with
    ⟨_, _, hfound, hfound', -⟩ | ⟨e, e', he, he', hee⟩
  swap
  · rw [he, he']
    exact hee
  rw [hfound, hfound']
  have hhelpers := hsplice.helpersOfStream hstates (fun i hi hlt => h.call_no_function hi hlt)
    (fun j hj hlt => h.body_no_function hj hlt) (by
      intro i name hn
      have hi := Helper.lt_size_of_nameAt? hn
      have hsome : (Helper.nameAt? (Stream.ofLexemes ls) i).isSome = true := by rw [hn]; rfl
      rw [Stream.size_ofLexemes] at hi
      rw [show c.before.length - 1 = c.arm.arrow by omega, hhead i hi hsome,
        h.not_in_body i hi hsome]
      rfl)
  rcases Agree.cases hhelpers with ⟨helpers, helpers', hh, hh', hhelpers⟩ | ⟨e, e', he, he', hee⟩
  swap
  · rw [he, he']
    exact hee
  rw [hh, hh']
  simp only
  -- The helper that the call is followed to is the one with the body.
  obtain ⟨d, hdef⟩ := h.says_definition
  obtain ⟨t', ht', htext⟩ := Helper.nameAt?_of_definition hdef
  rw [hname] at ht'
  cases ht'
  have hfind := Helper.find?_of_first hh hname hf fun i hi u hu hut =>
    h.first i hi u hu (hut.trans htext)
  rw [htext] at hfind
  have hsteps := hclauses.expand hhelpers hfind hne hfree hbranches
  obtain ⟨htransitions, hcalls⟩ := Blocks.followHelpers_of_steps hsteps
  rw [← hsources]
  apply Agree.bind (Graph.ofClauses_alike hstates blocks.sources htransitions)
  rintro ⟨graph, stateFindings⟩ ⟨graph', stateFindings'⟩ ⟨hgraph, hstateFindings⟩
  exact ⟨hgraph.eq trivial, List.rel_append (List.rel_append hfindings hcalls) hstateFindings⟩

end CallSite.Inlines

/-- A helper that is called as the whole body of an arm may be written out there: the text with the
call and the text with the helper's body are drawn alike or refused for the same reason, when the arm
stands in no function, neither in its body nor in its head. -/
theorem Drawing.sameRun_of_inlines {text text' : String} {ls ls' : List Lexeme}
    (h : Lexeme.ofText text = .ok ls) (h' : Lexeme.ofText text' = .ok ls') {c : CallSite}
    (hc : c.Inlines ls ls')
    (hhead : ∀ i < ls.length, (Helper.nameAt? (Stream.ofLexemes ls) i).isSome = true →
      Helper.inHead (Stream.ofLexemes ls) i c.arm.arrow = false)
    (settings : Settings) : SameRun (ofText text settings) (ofText text' settings) :=
  sameRun_of_models h h' trivial (hc.modelOfStream hhead) settings

/-! ### A decision in place of a call -/

/-- Lexemes of a text, none where it is faulty. -/
def lexemesOf (text : String) : List Lexeme := (Lexeme.ofText text).toOption.getD []

lemma ofText_eq_lexemesOf {text : String} (h : (Lexeme.ofText text).toOption.isSome = true) :
    Lexeme.ofText text = .ok (lexemesOf text) := by
  unfold lexemesOf
  cases hls : Lexeme.ofText text with
  | error e =>
    rw [hls] at h
    cases h
  | ok ls => rfl

/-- A block whose arm calls a helper. -/
def decisionCall : String :=
  "case object A when(A)\x7bcase G=>f()\x7ddef f()=\x7bif(x)goto(A)else stay()\x7d"

/-- The block with the helper's body in the arm. -/
def decisionInlined : String :=
  "case object A when(A)\x7bcase G=>if(x)goto(A)else stay()\x7ddef f()=\x7bif(x)goto(A)else stay()\x7d"

/-- Words of the helper's body. -/
def decisionBody : List Word :=
  [.name "if", .mark "(", .name "x", .mark ")", .name "goto", .mark "(", .name "A", .mark ")",
    .name "else", .name "stay", .mark "(", .mark ")"]

def decisionSite : CallSite where
  name := "f"
  body := decisionBody
  before := [.name "case", .name "object", .name "A", .name "when", .mark "(", .name "A", .mark ")",
    .mark leftBrace, .name "case", .name "G", .arrow]
  after := .mark rightBrace :: definitionOf "f" decisionBody
  brace := 7
  arm := ⟨8, 10, 14⟩
  place := 15

def decisionReading : CallSite.Reading where
  block := 3
  arms := [⟨8, 10, 14⟩]
  bound := []
  states := ⟨[⟨none, "A", "A", 1, 13⟩]⟩
  token := ⟨⟨.identifier, "f", ⟨38, 1, 39⟩⟩, 0⟩
  helper := ⟨"f", [⟨some "x", .goto "A" none⟩, ⟨some "else", .stay none⟩], 1⟩

lemma decisionSite_inlines :
    decisionSite.Inlines (lexemesOf decisionCall) (lexemesOf decisionInlined) := by
  have hchecks : decisionSite.Checks decisionReading (lexemesOf decisionCall)
      (lexemesOf decisionInlined) := by decide +kernel
  exact .of_checks hchecks (by simp [CallFree, decisionReading])

theorem Drawing.sameRun_decisionInlined :
    Lexeme.ofText decisionCall = .ok (lexemesOf decisionCall) ∧
      Lexeme.ofText decisionInlined = .ok (lexemesOf decisionInlined) ∧
      decisionSite.Inlines (lexemesOf decisionCall) (lexemesOf decisionInlined) ∧
      (∀ i < (lexemesOf decisionCall).length,
        (Helper.nameAt? (Stream.ofLexemes (lexemesOf decisionCall)) i).isSome = true →
          Helper.inHead (Stream.ofLexemes (lexemesOf decisionCall)) i decisionSite.arm.arrow = false) ∧
      ∀ settings, SameRun (ofText decisionCall settings) (ofText decisionInlined settings) := by
  have h := @ofText_eq_lexemesOf decisionCall (by decide +kernel)
  have h' := @ofText_eq_lexemesOf decisionInlined (by decide +kernel)
  have hhead : ∀ i < (lexemesOf decisionCall).length,
      (Helper.nameAt? (Stream.ofLexemes (lexemesOf decisionCall)) i).isSome = true →
        Helper.inHead (Stream.ofLexemes (lexemesOf decisionCall)) i decisionSite.arm.arrow = false := by
    decide +kernel
  exact ⟨h, h', decisionSite_inlines, hhead,
    @sameRun_of_inlines _ _ _ _ h h' _ decisionSite_inlines hhead⟩

/-! ### A function in the pattern -/

/-- A block whose first arm has a function in its pattern, and calls a helper. -/
def coveredCall : String :=
  "case object A when(A)\x7bcase def g=>f()case Q=>g()\x7ddef f()=\x7bx=goto(A)\x7d"

/-- The block with the helper's body in the arm. -/
def coveredInlined : String :=
  "case object A when(A)\x7bcase def g=>x=goto(A)case Q=>g()\x7ddef f()=\x7bx=goto(A)\x7d"

/-- Words of the helper's body. -/
def coveredBody : List Word :=
  [.name "x", .equals, .name "goto", .mark "(", .name "A", .mark ")"]

def coveredSite : CallSite where
  name := "f"
  body := coveredBody
  before := [.name "case", .name "object", .name "A", .name "when", .mark "(", .name "A", .mark ")",
    .mark leftBrace, .name "case", .name "def", .name "g", .arrow]
  after := .name "case" :: .name "Q" :: .arrow :: (callOf "g" ++
    .mark rightBrace :: definitionOf "f" coveredBody)
  brace := 7
  arm := ⟨8, 11, 15⟩
  place := 22

def coveredReading : CallSite.Reading where
  block := 3
  arms := [⟨8, 11, 15⟩, ⟨15, 17, 21⟩]
  bound := ["def", "g"]
  states := ⟨[⟨none, "A", "A", 1, 13⟩]⟩
  token := ⟨⟨.identifier, "f", ⟨53, 1, 54⟩⟩, 0⟩
  helper := ⟨"f", [⟨none, .goto "A" none⟩], 1⟩

/-- The head of a function goes on until something ends it. Here that is a sign in the body of the
arm, by which the function gets a body of its own, and calls of it lead somewhere. -/
theorem CallSite.coveredInlined_targets :
    Lexeme.ofText coveredCall = .ok (lexemesOf coveredCall) ∧
      Lexeme.ofText coveredInlined = .ok (lexemesOf coveredInlined) ∧
      coveredSite.Inlines (lexemesOf coveredCall) (lexemesOf coveredInlined) ∧
      (Drawing.ofText coveredCall {}).map (fun d => d.graph.edges.map (·.target)) =
        .ok ["A", "A", "?unknown"] ∧
      (Drawing.ofText coveredInlined {}).map (fun d => d.graph.edges.map (·.target)) =
        .ok ["A", "A", "A"] := by
  have hchecks : coveredSite.Checks coveredReading (lexemesOf coveredCall)
      (lexemesOf coveredInlined) := by decide +kernel
  exact ⟨ofText_eq_lexemesOf (by decide +kernel), ofText_eq_lexemesOf (by decide +kernel),
    .of_checks hchecks (by simp [CallFree, coveredReading]), by decide +kernel, by decide +kernel⟩

end ActorDiagram
