import Mathlib
import ActorDiagram.Proofs.Layout
import ActorDiagram.Proofs.MermaidIds

/-!
# Literals

What strings, characters and numbers say never makes a state or a transition. Two texts that differ
in their literals only tell of the same machine, stage by stage: the same states, clauses that do the
same, the same helpers, the same kinds of findings and the same nodes and edges. Labels, payloads,
messages and places may differ, and with them whether the machine is drawn: a literal may hold a
reference that is too long.
-/

namespace ActorDiagram

/-! ### Texts with the same words but for literals -/

/-- Word of a lexeme, where literals say nothing. -/
def Lexeme.shape (t : Lexeme) : Word := ⟨t.kind, if t.kind.isLiteral then "" else t.text⟩

/-- Likeness of texts with the same words but for literals. -/
def sameShapes : Likeness := ⟨False, fun _ _ => True⟩

lemma alike_of_shapes {ls ls' : List Lexeme} (h : ls.map Lexeme.shape = ls'.map Lexeme.shape) :
    List.Forall₂ (Lexeme.Alike sameShapes) ls ls' := by
  have hshapes : List.Forall₂ (fun t t' => t.shape = t'.shape) ls ls' := by
    rw [← List.forall₂_eq_eq_eq, List.forall₂_map_left_iff, List.forall₂_map_right_iff] at h
    exact h
  refine hshapes.imp ?_
  intro t t' ht
  rw [Lexeme.shape, Lexeme.shape, Word.mk.injEq] at ht
  refine ⟨ht.1, ?_, trivial⟩
  rintro (hliteral | hexact)
  · rw [← ht.1, hliteral] at ht
    exact ht.2
  · exact hexact.elim

/-! ### What is left of a run -/

/-- Cause of a failure without the message of an issue. -/
def Cause.silent : Cause → Cause
  | .escalated _ code => .escalated "" code
  | cause => cause

/-- Failure without its place and without the message of an issue. -/
def Error.silent : Error → Error
  | .source cause _ _ => .source cause.silent none none
  | e => e

/-- What a run comes to, as far as `keep` tells of its result. -/
def gist {α β : Type} (keep : α → β) : Except Error α → Except Error β
  | .ok a => .ok (keep a)
  | .error e => .error e.silent

lemma Likeness.Fault.silent {σ : Likeness} {e e' : Error} (h : σ.Fault e e') :
    e.silent = e'.silent := by
  cases h <;> rfl

lemma Agree.gist_eq {σ : Likeness} {α β : Type} {R : α → α → Prop} {keep : α → β}
    {x y : Except Error α} (h : σ.Agree R x y) (hkeep : ∀ a b, R a b → keep a = keep b) :
    gist keep x = gist keep y := by
  rcases Agree.cases h with ⟨a, b, rfl, rfl, hab⟩ | ⟨e, e', rfl, rfl, he⟩
  · rw [gist, gist, hkeep a b hab]
  · rw [gist, gist, he.silent]

/-- Runs of one gist both give a result, or both fail for the same cause. -/
lemma gist_cases {α β γ : Type} {keep : α → γ} {keep' : β → γ} {x : Except Error α} {y : Except Error β}
    (h : gist keep x = gist keep' y) : (∃ a b, x = .ok a ∧ y = .ok b ∧ keep a = keep' b) ∨
      ∃ e e', x = .error e ∧ y = .error e' ∧ e.silent = e'.silent := by
  cases x with
  | ok a =>
    cases y with
    | ok b => exact .inl ⟨a, b, rfl, rfl, Except.ok.inj h⟩
    | error e => cases h
  | error e =>
    cases y with
    | ok b => cases h
    | error e' => exact .inr ⟨e, e', rfl, rfl, Except.error.inj h⟩

/-- State of a clause and what it does, without labels and payloads. -/
def Clause.move (c : Clause) : String × Action := (c.source, c.action.bare)

/-- Name of a helper and what its branches do. -/
def Helper.moves (f : Helper) : String × List Action := (f.name, f.branches.map (·.action.bare))

/-- Nodes, entry state and ends of the edges of a graph. -/
def Graph.shape (g : Graph) : List String × Option String × List (String × String) :=
  (g.nodes, g.initial, g.edges.map fun e => (e.source, e.target))

/-- States of the blocks, moves of the clauses and kinds of the findings. -/
def Blocks.moves (x : Blocks × List Finding) :
    List String × List (String × Action) × List String :=
  (x.1.sources, x.1.clauses.map Clause.move, x.2.map (·.code))

/-- Shape of a model's graph and kinds of its findings. -/
def Model.shape (m : Model) : (List String × Option String × List (String × String)) × List String :=
  (m.graph.shape, m.findings.map (·.code))

/-- Shape of a model's graph and kinds of the issues that rules keep of its findings. -/
def Model.shapeUnder (rules : IssueRules) (m : Model) :
    (List String × Option String × List (String × String)) × List (String × Severity) :=
  (m.graph.shape, (rules.apply m.findings).map fun issue => (issue.code, issue.severity))

/-- Shape of a drawing's graph and kinds of its issues. -/
def Drawing.shape (d : Drawing) :
    (List String × Option String × List (String × String)) × List (String × Severity) :=
  (d.graph.shape, d.issues.map fun issue => (issue.code, issue.severity))

/-- Two streams tell of the same machine, stage by stage. A stage that fails for one fails for the
other, for the same cause. -/
structure SameMachine (s s' : Stream) : Prop where
  types : gist id (StateTypes.ofStream s) = gist id (StateTypes.ofStream s')
  states : gist StateIndex.unplaced (StateIndex.ofStream s) =
    gist StateIndex.unplaced (StateIndex.ofStream s')
  blocks : gist Blocks.moves (StateIndex.ofStream s >>= Blocks.ofStream s) =
    gist Blocks.moves (StateIndex.ofStream s' >>= Blocks.ofStream s')
  helpers : gist (List.map Helper.moves) (StateIndex.ofStream s >>= fun states =>
      Blocks.ofStream s states >>= fun _ => Helper.ofStream s states) =
    gist (List.map Helper.moves) (StateIndex.ofStream s' >>= fun states =>
      Blocks.ofStream s' states >>= fun _ => Helper.ofStream s' states)
  model : gist Model.shape (Model.ofStream s) = gist Model.shape (Model.ofStream s')

/-! ### Streams in lockstep tell of the same machine -/

variable {σ : Likeness}

lemma Graph.Alike.shape_eq {g g' : Graph} (h : g.Alike σ g') : g.shape = g'.shape := by
  rw [Graph.shape, Graph.shape, h.nodes, h.initial,
    map_eq_of_forall₂ h.edges fun e e' he => by rw [he.source, he.target]]

theorem Stream.Lockstep.sameMachine {s s' : Stream} (h : Lockstep σ Eq s s')
    (hmarks : σ.exact ∨ s.StraysClose) : SameMachine s s' where
  types := Agree.gist_eq h.typesOfStream fun _ _ htypes => htypes
  states := Agree.gist_eq h.statesOfStream fun _ _ hstates => hstates
  blocks := by
    refine Agree.gist_eq (Agree.bind h.statesOfStream fun _ _ => h.blocksOfStream hmarks) ?_
    rintro x y ⟨-, hclauses, hsources, hfindings⟩
    have hmoves := map_eq_of_forall₂ (f := Clause.move) (g := Clause.move) hclauses fun c c' hc => by
      rw [Clause.move, Clause.move, hc.source, hc.action]
    rw [Blocks.moves, Blocks.moves, hsources, hmoves,
      map_eq_of_forall₂ hfindings fun _ _ hf => hf.code]
  helpers := by
    have hagree := Agree.bind h.statesOfStream fun states states' hstates =>
      Agree.bind (h.blocksOfStream hmarks hstates) fun _ _ hblocks =>
        h.helpersOfStream hblocks.1 hstates
    refine Agree.gist_eq hagree ?_
    intro fs fs' hfs
    refine map_eq_of_forall₂ hfs ?_
    intro f f' hf
    rw [Helper.moves, Helper.moves, hf.name, map_eq_of_forall₂ hf.branches fun _ _ hb => hb.1]
  model := by
    refine Agree.gist_eq (h.modelOfStream_alike hmarks) ?_
    rintro m m' ⟨hgraph, hfindings⟩
    rw [Model.shape, Model.shape, hgraph.shape_eq,
      map_eq_of_forall₂ hfindings fun _ _ hf => hf.code]

/-! ### Drawings -/

lemma Mermaid.Layout.endpoint_agree (l : Layout) (mark node : String) :
    σ.Agree Eq (l.endpoint mark node) (l.endpoint mark node) := by
  unfold endpoint
  split
  · rfl
  · split
    · rfl
    · exact .unknownNode node

lemma Mermaid.Layout.add_agree (names : List (String × String)) (nodes : List String) (l : Layout) :
    σ.Agree Eq (nodes.foldlM (add names) l) (nodes.foldlM (add names) l) := by
  induction nodes generalizing l with
  | nil => exact rfl
  | cons node nodes ih =>
    have hadd : σ.Agree Eq (l.add names node) (l.add names node) := by
      unfold add
      split_ifs
      · rfl
      · rfl
      · split
        · exact .unknownNode node
        · rfl
    rw [List.foldlM_cons]
    apply Agree.bind hadd
    rintro l _ rfl
    exact ih l

/-- The runs agree, unless one of them meets a reference that is too long. -/
def Likeness.AgreeOrLong (σ : Likeness) {α β : Type} (R : α → β → Prop) (x : Except Error α)
    (y : Except Error β) : Prop :=
  σ.Agree R x y ∨ (∃ count, x = .error (.manyDigits count)) ∨ ∃ count, y = .error (.manyDigits count)

section AgreeOrLong

variable {α β γ δ : Type} {R : α → β → Prop} {S : γ → δ → Prop} {x : Except Error α} {y : Except Error β}

lemma AgreeOrLong.bind {f : α → Except Error γ} {g : β → Except Error δ} (h : σ.AgreeOrLong R x y)
    (hf : ∀ a b, R a b → σ.AgreeOrLong S (f a) (g b)) : σ.AgreeOrLong S (x >>= f) (y >>= g) := by
  rcases h with h | ⟨count, rfl⟩ | ⟨count, rfl⟩
  · rcases Agree.cases h with ⟨a, b, rfl, rfl, hab⟩ | ⟨e, e', rfl, rfl, he⟩
    · exact hf a b hab
    · exact .inl he
  · exact .inr (.inl ⟨count, rfl⟩)
  · exact .inr (.inr ⟨count, rfl⟩)

lemma AgreeOrLong.mapM {f : α → Except Error γ} {g : β → Except Error δ} {l : List α} {l' : List β}
    (h : List.Forall₂ (fun a b => σ.AgreeOrLong S (f a) (g b)) l l') :
    σ.AgreeOrLong (List.Forall₂ S) (l.mapM f) (l'.mapM g) := by
  induction h with
  | nil => exact .inl List.Forall₂.nil
  | cons hab _ ih =>
    rw [List.mapM_cons, List.mapM_cons]
    apply AgreeOrLong.bind hab
    intro c d hcd
    apply AgreeOrLong.bind ih
    intro cs ds hcds
    exact .inl (List.Forall₂.cons hcd hcds)

/-- Runs that fail for nothing but references that are too long. -/
lemma AgreeOrLong.of_long (hx : ∀ e, x = .error e → ∃ count, e = .manyDigits count)
    (hy : ∀ e, y = .error e → ∃ count, e = .manyDigits count) :
    σ.AgreeOrLong (fun _ _ => True) x y := by
  cases hxe : x with
  | error e =>
    obtain ⟨count, rfl⟩ := hx e hxe
    exact .inr (.inl ⟨count, rfl⟩)
  | ok a =>
    cases hye : y with
    | error e =>
      obtain ⟨count, rfl⟩ := hy e hye
      exact .inr (.inr ⟨count, rfl⟩)
    | ok b => exact .inl trivial

end AgreeOrLong

/-- Whether a graph can be drawn depends on its labels only where one has a reference that is too
long. -/
theorem Mermaid.diagram_agree {g g' : Graph} (h : g.Alike σ g') (appearance : Appearance) :
    σ.AgreeOrLong (fun _ _ => True) (diagram g appearance) (diagram g' appearance) := by
  have hempty : g.clauseEdges.isEmpty = g'.clauseEdges.isEmpty := by
    have hedges : List.Forall₂ (Edge.Alike σ) g.clauseEdges g'.clauseEdges := by
      refine List.rel_filter ?_ h.edges
      intro e e' he
      simp only [he.source]
    rw [Bool.eq_iff_iff, List.isEmpty_iff_length_eq_zero, List.isEmpty_iff_length_eq_zero,
      hedges.length_eq]
  have hlayout : Layout.ofGraph g = Layout.ofGraph g' := by
    unfold Layout.ofGraph shownNames
    rw [h.nodes, h.stateNames]
  unfold diagram
  rw [hempty, hlayout]
  split_ifs
  · exact .inl trivial
  · apply AgreeOrLong.bind (.inl (Layout.add_agree _ _ _))
    rintro l _ rfl
    have hlines : σ.AgreeOrLong (fun _ _ => True) l.lines l.lines := by
      have hlong : ∀ e, l.lines = .error e → ∃ count, e = .manyDigits count := by
        intro e he
        obtain ⟨decl, -, hline⟩ := exists_mem_of_mapM_eq_error he
        obtain ⟨count, hcount, -⟩ := Layout.overlong_of_line hline
        exact ⟨count, hcount⟩
      exact AgreeOrLong.of_long hlong hlong
    have hedges : σ.AgreeOrLong (List.Forall₂ fun _ _ => True) (g.edges.mapM l.edge)
        (g'.edges.mapM l.edge) := by
      apply AgreeOrLong.mapM
      refine h.edges.imp ?_
      intro e e' he
      unfold Layout.edge
      rw [he.source, he.target]
      apply AgreeOrLong.bind (.inl (l.endpoint_agree _ _))
      rintro source _ rfl
      apply AgreeOrLong.bind (.inl (l.endpoint_agree _ _))
      rintro target _ rfl
      have hlong : ∀ label fault, edgeLine source target label = .error fault →
          ∃ count, fault = .manyDigits count := by
        intro label fault hfault
        obtain ⟨count, hcount, -⟩ := overlong_of_edgeLine hfault
        exact ⟨count, hcount⟩
      exact AgreeOrLong.of_long (hlong _) (hlong _)
    exact AgreeOrLong.bind hlines fun _ _ _ => AgreeOrLong.bind hedges fun _ _ _ => .inl trivial

/-- Whether an issue is an error does not depend on its message. -/
lemma Drawing.checkIssues_silent {issues issues' : List Issue} (h : IssuesAlike σ issues issues') :
    gist id (checkIssues issues) = gist id (checkIssues issues') := by
  have herrors : IssuesAlike σ (Issue.errors issues) (Issue.errors issues') := by
    unfold Issue.errors
    refine List.rel_filter ?_ h
    intro x y hxy
    simp only [hxy.2]
  unfold checkIssues
  cases he : Issue.errors issues with
  | nil =>
    rw [he] at herrors
    rw [List.forall₂_nil_left_iff.mp herrors]
  | cons x rest =>
    rw [he] at herrors
    obtain ⟨y, rest', ⟨hxy, -⟩, -, hy⟩ := List.forall₂_cons_left_iff.mp herrors
    rw [hy]
    simp only [gist, Error.silent, Cause.silent, hxy.code]

/-- Contents of literals never make states or transitions: two texts with the same words but for
literals tell of the same machine, stage by stage, with the same nodes, edges and, under all rules, kinds
of issues. They are drawn alike or refused for the same cause, unless one of them has a reference that is too
long. -/
theorem Drawing.sameMachine_of_shapes {text text' : String} {ls ls' : List Lexeme}
    (h : Lexeme.ofText text = .ok ls) (h' : Lexeme.ofText text' = .ok ls')
    (hshapes : ls.map Lexeme.shape = ls'.map Lexeme.shape) :
    SameMachine (Stream.ofLexemes ls) (Stream.ofLexemes ls') ∧
      (∀ rules, gist (Model.shapeUnder rules) (Model.ofStream (Stream.ofLexemes ls)) =
        gist (Model.shapeUnder rules) (Model.ofStream (Stream.ofLexemes ls'))) ∧
      ∀ settings, gist shape (ofText text settings) = gist shape (ofText text' settings) ∨
        (∃ count, ofText text settings = .error (.manyDigits count)) ∨
        ∃ count, ofText text' settings = .error (.manyDigits count) := by
  have hlock := Stream.lockstep_of_alike (alike_of_shapes hshapes)
  have hmarks : sameShapes.exact ∨ (Stream.ofLexemes ls).StraysClose :=
    .inr (Stream.straysClose_ofLexemes ls)
  have hmodels := hlock.modelOfStream_alike hmarks
  have hkinds : ∀ (rules : IssueRules) {fs fs' : List Finding}, List.Forall₂ (Finding.Alike sameShapes) fs fs' →
      (rules.apply fs).map (fun x => (x.code, x.severity)) =
        (rules.apply fs').map fun x => (x.code, x.severity) := fun rules _ _ hfindings =>
    map_eq_of_forall₂ (rules.apply_alike hfindings) fun x y hxy => by rw [hxy.1.code, hxy.2]
  refine ⟨hlock.sameMachine hmarks, fun rules => Agree.gist_eq hmodels ?_, ?_⟩
  · rintro m m' ⟨hgraph, hfindings⟩
    rw [Model.shapeUnder, Model.shapeUnder, hgraph.shape_eq, hkinds rules hfindings]
  intro settings
  unfold ofText Stream.ofText
  rw [h, h']
  simp only [Except.map, Bind.bind, Except.bind]
  rcases Agree.cases hmodels with
    ⟨m, m', hm, hm', hgraph, hfindings⟩ | ⟨e, e', hm, hm', hee⟩
  · rw [hm, hm']
    have hissues := settings.rules.apply_alike hfindings
    simp only
    rcases gist_cases (checkIssues_silent hissues) with ⟨_, _, hc, hc', -⟩ | ⟨e, e', hc, hc', hee⟩
    · rw [hc, hc']
      simp only
      rcases Mermaid.diagram_agree hgraph settings.appearance with hdiagram | ⟨count, hd⟩ | ⟨count, hd⟩
      · refine .inl ?_
        rcases Agree.cases hdiagram with ⟨_, _, hd, hd', -⟩ | ⟨e, e', hd, hd', hee⟩
        · rw [hd, hd']
          simp only [gist, shape, hgraph.shape_eq, hkinds settings.rules hfindings]
        · rw [hd, hd']
          exact congrArg Except.error hee.silent
      · rw [hd]
        exact .inr (.inl ⟨count, rfl⟩)
      · rw [hd]
        exact .inr (.inr ⟨count, rfl⟩)
    · rw [hc, hc']
      exact .inl (congrArg Except.error hee)
  · rw [hm, hm']
    exact .inl (congrArg Except.error hee.silent)

/-- An arm for a text and a helper with a number. -/
def greetingBlock : String :=
  "case object A when(A)\x7bcase \"hi\"=>f()case 'x'=>stop(7)\x7d def f()=if(n==1)goto(A)else goto(B)"

/-- The same block with a directive in the text, another letter and other numbers. -/
def directiveBlock : String :=
  "case object A when(A)\x7bcase \"goto(B)\"=>f()case '='=>stop(0)\x7d def f()=if(n==2)goto(A)else goto(B)"

lemma greetingBlock_shapes :
    ((Lexeme.ofText greetingBlock).toOption.map (·.map Lexeme.shape)).isSome ∧
      (Lexeme.ofText greetingBlock).toOption.map (·.map Lexeme.shape) =
        (Lexeme.ofText directiveBlock).toOption.map (·.map Lexeme.shape) := by decide +kernel

lemma greetingBlock_drawn : (Drawing.ofText greetingBlock {}).toOption.isSome ∧
    (Drawing.ofText directiveBlock {}).toOption.isSome := by decide +kernel

theorem Drawing.sameMachine_directiveBlock : ∃ ls ls',
    Lexeme.ofText greetingBlock = .ok ls ∧ Lexeme.ofText directiveBlock = .ok ls' ∧
      ls.map Lexeme.shape = ls'.map Lexeme.shape ∧
      SameMachine (Stream.ofLexemes ls) (Stream.ofLexemes ls') ∧
      gist shape (ofText greetingBlock {}) = gist shape (ofText directiveBlock {}) := by
  obtain ⟨hsome, hshapes⟩ := greetingBlock_shapes
  cases h : Lexeme.ofText greetingBlock with
  | error e => simp [h, Except.toOption] at hsome
  | ok ls =>
    cases h' : Lexeme.ofText directiveBlock with
    | error e => simp [h, h', Except.toOption] at hshapes
    | ok ls' =>
      simp only [h, h', Except.toOption, Option.map_some, Option.some.injEq] at hshapes
      obtain ⟨hmachine, -, hdrawn⟩ := Drawing.sameMachine_of_shapes h h' hshapes
      refine ⟨ls, ls', rfl, rfl, hshapes, hmachine, (hdrawn {}).resolve_right ?_⟩
      obtain ⟨hok, hok'⟩ := greetingBlock_drawn
      rintro (⟨count, hcount⟩ | ⟨count, hcount⟩)
      · simp [hcount, Except.toOption] at hok
      · simp [hcount, Except.toOption] at hok'

end ActorDiagram
