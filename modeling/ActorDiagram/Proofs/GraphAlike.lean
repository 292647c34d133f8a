import Mathlib
import ActorDiagram.Proofs.Unplaced

/-!
# Graphs of alike clauses

Clauses that are alike are followed through helpers to transitions that are alike, and transitions
that are alike are drawn as the same edges.
-/

namespace ActorDiagram

variable {σ : Likeness}

/-! ### Following helpers -/

/-- What takes the place of a clause on both sides: alike transitions with alike findings. -/
abbrev StepsAlike (σ : Likeness) : List (Transition × List Finding) →
    List (Transition × List Finding) → Prop :=
  List.Forall₂ fun x y => x.1.Alike σ y.1 ∧ List.Forall₂ (Finding.Alike σ) x.2 y.2

lemma Clause.expand_of_not_call {c : Clause} (helpers : List Helper)
    (h : ∀ name, c.action ≠ .call name) :
    c.expand helpers = [(⟨c.source, c.event, c.action, c.line⟩, [])] := by
  unfold Clause.expand
  split
  · rename_i name hname
    exact absurd hname (h name)
  · rfl

lemma Clause.takeBranch_of_not_call (c : Clause) (helper : Helper) {b : Branch}
    (h : ∀ name, b.action ≠ .call name) :
    c.takeBranch helper b =
      (⟨c.source, b.labelled c.event (1 < helper.branches.length), b.action, c.line⟩, []) := by
  unfold Clause.takeBranch
  split
  · rename_i name hname
    exact absurd hname (h name)
  · rfl

namespace Clause.Alike

variable {c c' : Clause}

lemma unresolvedFinding (h : c.Alike σ c') (name reason : String) :
    (c.unresolvedFinding name reason).Alike σ (c'.unresolvedFinding name reason) := by
  refine ⟨rfl, ?_, .some h.line, rfl⟩
  intro hexact
  unfold Clause.unresolvedFinding
  rw [h.event hexact]

lemma lost (h : c.Alike σ c') (name reason : String) :
    StepsAlike σ
      [(⟨c.source, c.event, .unresolved name, c.line⟩, [c.unresolvedFinding name reason])]
      [(⟨c'.source, c'.event, .unresolved name, c'.line⟩, [c'.unresolvedFinding name reason])] :=
  .cons ⟨⟨h.source, h.event, rfl, h.line⟩, .cons (h.unresolvedFinding name reason) .nil⟩ .nil

lemma takeBranch (h : c.Alike σ c') {helper helper' : Helper} (hhelper : helper.Alike σ helper')
    {b b' : Branch} (hb : b.Alike σ b') :
    (c.takeBranch helper b).1.Alike σ (c'.takeBranch helper' b').1 ∧
      List.Forall₂ (Finding.Alike σ) (c.takeBranch helper b).2 (c'.takeBranch helper' b').2 := by
  have hlabel : σ.exact → b.labelled c.event (1 < helper.branches.length) =
      b'.labelled c'.event (1 < helper'.branches.length) := by
    intro hexact
    rw [hhelper.branches.length_eq]
    exact hb.labelled h.event _ hexact
  rcases Action.call_or_not hb.1 with ⟨callee, hx, hy⟩ | ⟨hx, hy⟩
  · unfold Clause.takeBranch
    rw [hx, hy]
    refine ⟨⟨h.source, hlabel, rfl, h.line⟩, .cons ⟨rfl, ?_, .some h.line, rfl⟩ .nil⟩
    intro _
    unfold Clause.nestedFinding
    rw [hhelper.name]
  · rw [Clause.takeBranch_of_not_call c helper hx, Clause.takeBranch_of_not_call c' helper' hy]
    exact ⟨⟨h.source, hlabel, hb.1, h.line⟩, .nil⟩

theorem expandCall (h : c.Alike σ c') {helpers helpers' : List Helper}
    (hhelpers : List.Forall₂ (Helper.Alike σ) helpers helpers') (name : String) :
    StepsAlike σ (c.expandCall helpers name) (c'.expandCall helpers' name) := by
  have hfind := find?_of_forall₂ (f := fun f => f.name == name) (g := fun f => f.name == name)
    hhelpers (by
      intro f f' hf
      rw [hf.name])
  unfold Clause.expandCall
  simp only
  cases hx : helpers.find? (·.name == name) with
  | none =>
    rw [hx] at hfind
    rw [eq_none_of_rel_none hfind]
    exact h.lost name "is not defined"
  | some helper =>
    rw [hx] at hfind
    obtain ⟨helper', hx', hhelper⟩ := exists_of_rel_some hfind
    rw [hx']
    simp only
    have hempty : helper.branches.isEmpty = helper'.branches.isEmpty := by
      rw [Bool.eq_iff_iff, List.isEmpty_iff_length_eq_zero, List.isEmpty_iff_length_eq_zero,
        hhelper.branches.length_eq]
    rw [hempty]
    split_ifs
    · exact h.lost name "issues no transition"
    · refine List.rel_map ?_ hhelper.branches
      intro b b' hb
      exact h.takeBranch hhelper hb

/-- Alike clauses are followed to alike transitions. -/
theorem expand (h : c.Alike σ c') {helpers helpers' : List Helper}
    (hhelpers : List.Forall₂ (Helper.Alike σ) helpers helpers') :
    StepsAlike σ (c.expand helpers) (c'.expand helpers') := by
  rcases Action.call_or_not h.action with ⟨name, hx, hy⟩ | ⟨hx, hy⟩
  · unfold Clause.expand
    rw [hx, hy]
    exact h.expandCall hhelpers name
  · rw [Clause.expand_of_not_call helpers hx, Clause.expand_of_not_call helpers' hy]
    exact .cons ⟨⟨h.source, h.event, h.action, h.line⟩, .nil⟩ .nil

end Clause.Alike

lemma Blocks.followHelpers_of_steps {blocks blocks' : Blocks} {helpers helpers' : List Helper}
    (h : StepsAlike σ (blocks.clauses.flatMap (Clause.expand helpers))
      (blocks'.clauses.flatMap (Clause.expand helpers'))) :
    List.Forall₂ (Transition.Alike σ) (blocks.followHelpers helpers).1
        (blocks'.followHelpers helpers').1 ∧
      List.Forall₂ (Finding.Alike σ) (blocks.followHelpers helpers).2
        (blocks'.followHelpers helpers').2 :=
  ⟨List.rel_map (fun _ _ hxy => hxy.1) h, List.rel_flatMap h fun _ _ hxy => hxy.2⟩

theorem Blocks.followHelpers_alike {blocks blocks' : Blocks}
    (hclauses : List.Forall₂ (Clause.Alike σ) blocks.clauses blocks'.clauses)
    {helpers helpers' : List Helper} (hhelpers : List.Forall₂ (Helper.Alike σ) helpers helpers') :
    List.Forall₂ (Transition.Alike σ) (blocks.followHelpers helpers).1
        (blocks'.followHelpers helpers').1 ∧
      List.Forall₂ (Finding.Alike σ) (blocks.followHelpers helpers).2
        (blocks'.followHelpers helpers').2 :=
  followHelpers_of_steps (List.rel_flatMap hclauses fun _ _ hc => hc.expand hhelpers)

/-! ### Edges -/

/-- Edges between the same nodes. -/
structure Edge.Alike (σ : Likeness) (e e' : Edge) : Prop where
  source : e.source = e'.source
  target : e.target = e'.target
  label : σ.exact → e.label = e'.label

/-- Graphs of the same nodes with edges between the same nodes. -/
structure Graph.Alike (σ : Likeness) (g g' : Graph) : Prop where
  nodes : g.nodes = g'.nodes
  initial : g.initial = g'.initial
  stateNames : g.stateNames = g'.stateNames
  edges : List.Forall₂ (Edge.Alike σ) g.edges g'.edges

namespace Graph

variable {states states' : StateIndex}

lemma edgeOf_bare (states : StateIndex) (t : Transition) :
    edgeOf states t = edgeOf states { t with action := t.action.bare } := by
  unfold edgeOf
  cases t.action <;> rfl

lemma unknownSourceFinding_alike {t t' : Transition} (h : t.Alike σ t') :
    (unknownSourceFinding t).Alike σ (unknownSourceFinding t') := by
  refine ⟨rfl, ?_, .some h.line, rfl⟩
  intro hexact
  unfold unknownSourceFinding
  rw [h.source, h.label hexact]

lemma unknownTargetFinding_alike {t t' : Transition} (h : t.Alike σ t') (target : String) :
    (unknownTargetFinding t target).Alike σ (unknownTargetFinding t' target) := by
  refine ⟨rfl, ?_, .some h.line, rfl⟩
  intro hexact
  unfold unknownTargetFinding
  rw [h.label hexact]

lemma edgeOf_alike (hstates : states.unplaced = states'.unplaced) {t t' : Transition}
    (h : t.Alike σ t') :
    σ.Agree (Sum.LiftRel (Edge.Alike σ) (Finding.Alike σ)) (edgeOf states t)
      (edgeOf states' t') := by
  have hcontains : states.contains = states'.contains := by
    rw [← StateIndex.contains_unplaced, hstates, StateIndex.contains_unplaced]
  have hsame : ∀ u u' : Transition, u.Alike σ u' → u.action = u'.action →
      σ.Agree (Sum.LiftRel (Edge.Alike σ) (Finding.Alike σ)) (edgeOf states u)
        (edgeOf states' u') := by
    intro u u' hu haction
    unfold edgeOf
    rw [hcontains, hu.source, haction]
    split_ifs
    · cases u'.action with
      | goto target _ =>
        simp only
        split_ifs
        · exact .inl ⟨rfl, rfl, hu.label⟩
        · exact .inr (unknownTargetFinding_alike hu target)
      | stay _ => exact .inl ⟨rfl, rfl, hu.label⟩
      | stop _ _ => exact .inl ⟨rfl, rfl, fun hexact => by rw [hu.label hexact]⟩
      | call name => exact .helperCallLeft name
      | unresolved _ => exact .inl ⟨rfl, rfl, hu.label⟩
    · exact .inr (unknownSourceFinding_alike hu)
  rw [edgeOf_bare states t, edgeOf_bare states' t']
  refine hsame _ _ ⟨h.source, h.label, ?_, h.line⟩ h.action
  rw [h.action]

lemma hasUnknown_alike (hstates : states.unplaced = states'.unplaced) {ts ts' : List Transition}
    (h : List.Forall₂ (Transition.Alike σ) ts ts') :
    hasUnknown states ts = hasUnknown states' ts' := by
  have hcontains : states.contains = states'.contains := by
    rw [← StateIndex.contains_unplaced, hstates, StateIndex.contains_unplaced]
  unfold hasUnknown
  induction h with
  | nil => rfl
  | @cons t t' ts ts' ht _ ih =>
    rw [List.any_cons, List.any_cons, ih, hcontains, ht.source]
    have haction := ht.action
    cases hb : t.action <;> cases hb' : t'.action <;> simp [hb, hb', Action.bare] at haction <;> rfl

/-- Alike transitions give the same graph. -/
theorem ofClauses_alike (hstates : states.unplaced = states'.unplaced) (sources : List String)
    {ts ts' : List Transition} (h : List.Forall₂ (Transition.Alike σ) ts ts') :
    σ.Agree (fun x y => Graph.Alike σ x.1 y.1 ∧ List.Forall₂ (Finding.Alike σ) x.2 y.2)
      (ofClauses states sources ts) (ofClauses states' sources ts') := by
  have hids : states.ids = states'.ids := by
    rw [← StateIndex.ids_unplaced, hstates, StateIndex.ids_unplaced]
  have hnames : states.stateNames = states'.stateNames := by
    rw [← StateIndex.stateNames_unplaced, hstates, StateIndex.stateNames_unplaced]
  have hinitial : initialState states sources = initialState states' sources := by
    unfold initialState
    rw [hids, ← StateIndex.contains_unplaced, hstates, StateIndex.contains_unplaced]
  unfold ofClauses
  apply Agree.bind (Agree.mapM (h.imp fun t t' ht => edgeOf_alike hstates ht))
  intro parts parts' hparts
  have hedges : List.Forall₂ (Edge.Alike σ) (parts.filterMap Sum.getLeft?)
      (parts'.filterMap Sum.getLeft?) := by
    refine List.rel_filterMap ?_ hparts
    intro x y hxy
    cases hxy with
    | inl he => exact .some he
    | inr hf => exact .none
  have hfindings : List.Forall₂ (Finding.Alike σ) (parts.filterMap Sum.getRight?)
      (parts'.filterMap Sum.getRight?) := by
    refine List.rel_filterMap ?_ hparts
    intro x y hxy
    cases hxy with
    | inl he => exact .none
    | inr hf => exact .some hf
  refine ⟨⟨?_, hinitial, hnames, ?_⟩, hfindings⟩
  · rw [hids, hasUnknown_alike hstates h]
  · rw [hinitial]
    refine List.rel_append ?_ hedges
    exact List.forall₂_same.mpr fun e _ => ⟨rfl, rfl, fun _ => rfl⟩

lemma Alike.eq {g g' : Graph} (h : Graph.Alike σ g g') (hexact : σ.exact) : g = g' := by
  have hedges : g.edges = g'.edges := by
    rw [← List.forall₂_eq_eq_eq]
    refine h.edges.imp ?_
    intro e e' he
    cases e
    cases e'
    simp only [Edge.mk.injEq]
    exact ⟨he.source, he.target, he.label hexact⟩
  cases g
  cases g'
  simp only [Graph.mk.injEq]
  exact ⟨h.nodes, hedges, h.initial, h.stateNames⟩

end Graph

end ActorDiagram
