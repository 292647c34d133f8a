import Mathlib
import ActorDiagram.Drawing
import ActorDiagram.Proofs.Results

/-!
# Stages of a run

A run that makes a drawing is a run of each stage. `Stages` holds what the stages give, from the
stream of the text to the clauses with helpers followed.
-/

namespace ActorDiagram

/-- What the stages of a run on a text give before the graph is drawn. -/
structure Stages (text : String) where
  stream : Stream
  states : StateIndex
  blocks : Blocks
  clauseFindings : List Finding
  helpers : List Helper
  stream_eq : Stream.ofText text = .ok stream
  states_eq : StateIndex.ofStream stream = .ok states
  blocks_eq : Blocks.ofStream stream states = .ok (blocks, clauseFindings)
  helpers_eq : Helper.ofStream stream states = .ok helpers

namespace Stages

variable {text : String}

/-- Clauses with helpers followed. -/
def transitions (r : Stages text) : List Transition := (r.blocks.followHelpers r.helpers).1

/-- Findings about calls of helpers. -/
def callFindings (r : Stages text) : List Finding := (r.blocks.followHelpers r.helpers).2

end Stages

theorem Model.ofStream_eq_ok {s : Stream} {m : Model} (h : Model.ofStream s = .ok m) :
    ∃ states blocks clauseFindings helpers stateFindings,
      StateIndex.ofStream s = .ok states ∧
      Blocks.ofStream s states = .ok (blocks, clauseFindings) ∧
      Helper.ofStream s states = .ok helpers ∧
      Graph.ofClauses states blocks.sources (blocks.followHelpers helpers).1 =
        .ok (m.graph, stateFindings) ∧
      m.findings = clauseFindings ++ (blocks.followHelpers helpers).2 ++ stateFindings := by
  unfold Model.ofStream at h
  obtain ⟨states, hstates, h⟩ := bind_eq_ok_iff.mp h
  obtain ⟨⟨blocks, clauseFindings⟩, hblocks, h⟩ := bind_eq_ok_iff.mp h
  obtain ⟨_, _, h⟩ := bind_eq_ok_iff.mp h
  obtain ⟨helpers, hhelpers, h⟩ := bind_eq_ok_iff.mp h
  obtain ⟨⟨graph, stateFindings⟩, hgraph, h⟩ := bind_eq_ok_iff.mp h
  cases h
  exact ⟨states, blocks, clauseFindings, helpers, stateFindings, hstates, hblocks, hhelpers,
    hgraph, rfl⟩

/-- The graph of a model is made of clauses over the states of its stream. -/
lemma Model.exists_ofClauses {s : Stream} {states : StateIndex} {m : Model}
    (hstates : StateIndex.ofStream s = .ok states) (hm : Model.ofStream s = .ok m) :
    ∃ sources ts findings, Graph.ofClauses states sources ts = .ok (m.graph, findings) := by
  obtain ⟨states', blocks, _, helpers, findings, hstates', -, -, hgraph, -⟩ := Model.ofStream_eq_ok hm
  obtain rfl : states' = states := Except.ok.inj (hstates'.symm.trans hstates)
  exact ⟨blocks.sources, _, findings, hgraph⟩

/-- A drawing comes out of the stages, its graph and issues from the last of them. -/
theorem Drawing.exists_stages {text : String} {settings : Settings} {d : Drawing}
    (h : Drawing.ofText text settings = .ok d) :
    ∃ (r : Stages text) (stateFindings : List Finding),
      Graph.ofClauses r.states r.blocks.sources r.transitions = .ok (d.graph, stateFindings) ∧
      d.issues =
        settings.rules.apply (r.clauseFindings ++ r.callFindings ++ stateFindings) := by
  unfold Drawing.ofText at h
  obtain ⟨s, hs, h⟩ := bind_eq_ok_iff.mp h
  obtain ⟨m, hm, h⟩ := bind_eq_ok_iff.mp h
  obtain ⟨_, _, h⟩ := bind_eq_ok_iff.mp h
  obtain ⟨markup, _, h⟩ := bind_eq_ok_iff.mp h
  obtain ⟨states, blocks, clauseFindings, helpers, stateFindings, hstates, hblocks, hhelpers,
    hgraph, hfindings⟩ := Model.ofStream_eq_ok hm
  cases h
  refine ⟨⟨s, states, blocks, clauseFindings, helpers, hs, hstates, hblocks, hhelpers⟩,
    stateFindings, hgraph, ?_⟩
  rw [hfindings]
  rfl

end ActorDiagram
