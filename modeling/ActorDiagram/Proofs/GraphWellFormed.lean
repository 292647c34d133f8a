import Mathlib
import ActorDiagram.Proofs.Answers

/-!
# Well-formed graphs

The parts of a graph are put together apart from each other: nodes, edges, and the mark that an edge
leads to the unknown node. Where states are distinct and keep off the graph's own nodes, the parts fit,
and every graph is drawn unless a reference in it is too long.
-/

namespace ActorDiagram

namespace Graph

/-- State that the entry leads to: the first source of a block that is declared, or the first declared
state if no source is. -/
def IsInitial (states : StateIndex) (sources : List String) (id : String) : Prop :=
  (∃ before after, sources = before ++ id :: after ∧ id ∈ states.ids ∧ ∀ x ∈ before, x ∉ states.ids) ∨
    (∀ x ∈ sources, x ∉ states.ids) ∧ states.ids.head? = some id

/-- Nodes are distinct and in order, with the unknown node only for an edge that leads there. Both ends
of an edge are nodes. The first edge is the only one that leaves the entry, no edge enters it, and none
leaves the stop or the unknown node. -/
structure WellFormed (states : StateIndex) (sources : List String) (g : Graph) : Prop where
  nodes_eq : g.nodes = entryNode :: states.ids ++
    (if ∃ e ∈ g.edges, e.target = unknownNode then [unknownNode] else []) ++ [stopNode]
  nodup_nodes : g.nodes.Nodup
  ends_mem : ∀ e ∈ g.edges, e.source ∈ g.nodes ∧ e.target ∈ g.nodes
  initial_iff : ∀ id, g.initial = some id ↔ IsInitial states sources id
  entry_edge : states.ids ≠ [] → ∃ initial drawn, g.initial = some initial ∧
    g.edges = ⟨entryNode, initial, ""⟩ :: drawn ∧ ∀ e ∈ drawn, e.source ≠ entryNode
  edges_of_empty : states.ids = [] → g.edges = []
  target_ne : ∀ e ∈ g.edges, e.target ≠ entryNode
  source_ne : ∀ e ∈ g.edges, e.source ≠ stopNode ∧ e.source ≠ unknownNode

variable {states : StateIndex} {sources : List String} {ts : List Transition} {g : Graph}
  {findings : List Finding}

/-! ### The entry state -/

lemma initial_of_ofClauses (h : ofClauses states sources ts = .ok (g, findings)) :
    g.initial = initialState states sources := by
  unfold ofClauses at h
  obtain ⟨parts, -, h⟩ := bind_eq_ok_iff.mp h
  cases h
  rfl

theorem initialState_eq_some_iff {id : String} :
    initialState states sources = some id ↔ IsInitial states sources id := by
  unfold initialState IsInitial
  cases hfind : sources.find? states.contains with
  | none =>
    have hnone : ∀ x ∈ sources, x ∉ states.ids := by
      simpa [StateIndex.contains] using hfind
    refine ⟨fun h => .inr ⟨hnone, h⟩, ?_⟩
    rintro (⟨before, after, rfl, hid, -⟩ | ⟨-, h⟩)
    · exact absurd hid (hnone id (by simp))
    · exact h
  | some source =>
    obtain ⟨hsource, before, after, hsplit, hbefore⟩ := List.find?_eq_some_iff_append.mp hfind
    have hsource : source ∈ states.ids := by simpa [StateIndex.contains] using hsource
    have hbefore : ∀ x ∈ before, x ∉ states.ids := by simpa [StateIndex.contains] using hbefore
    constructor
    · rintro heq
      cases heq
      exact .inl ⟨before, after, hsplit, hsource, hbefore⟩
    · rintro (⟨before', after', hsplit', hid, hbefore'⟩ | ⟨hnone, -⟩)
      · have hfind' : sources.find? states.contains = some id :=
          List.find?_eq_some_iff_append.mpr ⟨by simpa [StateIndex.contains] using hid, before', after',
            hsplit', by simpa [StateIndex.contains] using hbefore'⟩
        exact hfind.symm.trans hfind'
      · exact absurd hsource (hnone source (by simp [hsplit]))

lemma exists_initialState (sources : List String) (h : states.ids ≠ []) :
    ∃ id, initialState states sources = some id := by
  unfold initialState
  cases sources.find? states.contains with
  | none => exact ⟨_, List.head?_eq_some_head h⟩
  | some source => exact ⟨source, rfl⟩

/-! ### The unknown node -/

/-- The graph has an unknown node just for the edges that lead there. -/
theorem OwnNodesFree.hasUnknown_iff (hfree : OwnNodesFree states)
    (h : ofClauses states sources ts = .ok (g, findings)) :
    hasUnknown states ts = true ↔ ∃ e ∈ g.edges, e.target = unknownNode := by
  constructor
  · intro hhas
    obtain ⟨t, ht, hunknown⟩ := List.any_eq_true.mp hhas
    rw [Bool.and_eq_true] at hunknown
    obtain ⟨hsource, hunresolved⟩ := hunknown
    obtain ⟨parts, hparts, hedges, -⟩ := ofClauses_eq_ok h
    obtain ⟨part, hpart, hsettled⟩ := exists_of_mem_left hparts ht
    cases haction : t.action with
    | goto | stay | stop | call => simp [haction] at hunresolved
    | unresolved name =>
      cases part with
      | inl e =>
        refine ⟨e, ?_, ?_⟩
        · rw [hedges]
          exact List.mem_append_right _ (List.mem_filterMap.mpr ⟨_, hpart, rfl⟩)
        · have htarget := hsettled.2
          rw [haction] at htarget
          exact htarget.1
      | inr f =>
        obtain ⟨-, ⟨-, hundeclared⟩ | ⟨-, _, _, hgoto, -⟩⟩ := hsettled
        · rw [hsource] at hundeclared
          cases hundeclared
        · rw [haction] at hgoto
          cases hgoto
  · rintro ⟨e, he, htarget⟩
    rcases ends_of_mem_edges h he with ⟨-, hid⟩ | ⟨-, hid | hstop | ⟨-, hhas⟩⟩
    · exact absurd htarget (hfree.ne_unknownNode hid)
    · exact absurd htarget (hfree.ne_unknownNode hid)
    · rw [hstop] at htarget
      exact absurd htarget (by decide)
    · exact hhas

/-! ### All parts together -/

theorem wellFormed_of_ofClauses (hids : states.ids.Nodup) (hfree : OwnNodesFree states)
    (h : ofClauses states sources ts = .ok (g, findings)) : g.WellFormed states sources := by
  have hnodes := (nodes_of_ofClauses h).1
  have hentry := initial_of_ofClauses h
  have hunknown := hfree.hasUnknown_iff h
  obtain ⟨drawn, hedges, hinitial, hdrawn, hends⟩ := edges_of_ofClauses h
  have hid : ∀ id ∈ states.ids, id ∈ g.nodes := fun id hid => mem_nodes_of_mem_ids h hid
  have hdrawn_empty : states.ids = [] → drawn = [] := by
    intro hempty
    refine List.eq_nil_iff_forall_not_mem.mpr fun e he => ?_
    have hsource := (hends e he).1
    rw [hempty] at hsource
    cases hsource
  refine {
    nodes_eq := ?nodes, nodup_nodes := hfree.nodup_nodes hids h, ends_mem := ?ends,
    initial_iff := fun id => by rw [hentry, initialState_eq_some_iff],
    entry_edge := ?entry, edges_of_empty := ?empty, target_ne := ?target, source_ne := ?source }
  case nodes =>
    simp only [← hunknown]
    exact hnodes
  case ends =>
    intro e he
    rcases ends_of_mem_edges h he with ⟨hsource, htarget⟩ | ⟨hsource, htarget⟩
    · rw [hsource]
      exact ⟨by simp [hnodes], hid _ htarget⟩
    · refine ⟨hid _ hsource, ?_⟩
      rcases htarget with htarget | hstop | ⟨htarget, hhas⟩
      · exact hid _ htarget
      · simp [hnodes, hstop]
      · simp [hnodes, htarget, hhas]
  case entry =>
    intro hne
    obtain ⟨initial, hi⟩ := exists_initialState sources hne
    rw [← hentry] at hi
    refine ⟨initial, drawn, hi, by rw [hedges, hi]; rfl, ?_⟩
    exact fun e he => hfree.ne_entryNode (hends e he).1
  case empty =>
    intro hempty
    have hnone : g.initial = none := by
      refine Option.eq_none_iff_forall_ne_some.mpr fun id hi => ?_
      have hmem := hinitial id hi
      rw [hempty] at hmem
      cases hmem
    rw [hedges, hnone, hdrawn_empty hempty]
    rfl
  case target =>
    intro e he
    rcases ends_of_mem_edges h he with ⟨-, htarget⟩ | ⟨-, htarget | hstop | ⟨htarget, -⟩⟩
    · exact hfree.ne_entryNode htarget
    · exact hfree.ne_entryNode htarget
    · rw [hstop]
      decide
    · rw [htarget]
      decide
  case source =>
    intro e he
    rcases ends_of_mem_edges h he with ⟨hsource, -⟩ | ⟨hsource, -⟩
    · rw [hsource]
      decide
    · exact ⟨hfree.ne_stopNode hsource, hfree.ne_unknownNode hsource⟩

/-- Clauses that call no helper make a well-formed graph, whatever their states, actions and sources.
It is drawn, unless the name of a state or the label of an edge has a reference that is too long. -/
theorem exists_wellFormed (states : StateIndex) (sources : List String) (ts : List Transition)
    (hids : states.ids.Nodup) (hfree : OwnNodesFree states)
    (hcalls : ∀ t ∈ ts, ∀ name, t.action ≠ .call name) :
    ∃ g findings, ofClauses states sources ts = .ok (g, findings) ∧ g.WellFormed states sources ∧
      ∀ appearance, (∃ markup, Mermaid.diagram g appearance = .ok markup) ∨
        ∃ count, Mermaid.diagram g appearance = .error (.manyDigits count) ∧
          Mermaid.HasOverlong g count := by
  obtain ⟨⟨g, findings⟩, h⟩ := exists_ofClauses states sources hcalls
  refine ⟨g, findings, h, wellFormed_of_ofClauses hids hfree h, fun appearance => ?_⟩
  have hyields := Mermaid.diagram_yields h hids appearance
  cases hdiagram : Mermaid.diagram g appearance with
  | ok markup => exact .inl ⟨markup, rfl⟩
  | error e =>
    rw [hdiagram] at hyields
    rcases hyields with ⟨hnode, hmem⟩ | hlong
    · refine absurd hmem (hfree _ ?_)
      simp only [List.mem_cons, List.not_mem_nil, or_false] at hnode
      rcases hnode with rfl | rfl <;> simp [ownNodes]
    · exact .inr ⟨_, rfl, hlong⟩

/-- Two states, the second inside a group. -/
def twoStates : StateIndex := ⟨[⟨none, "A", "A", 1, 1⟩, ⟨some "G", "B", "G.B", 2, 1⟩]⟩

/-- A clause for every way to be drawn or left out. -/
def twoStatesClauses : List Transition :=
  [⟨"G.B", "K", .goto "A" none, 3⟩, ⟨"C", "K", .stay none, 4⟩, ⟨"A", "L", .goto "C" none, 5⟩,
    ⟨"A", "M", .unresolved "f", 6⟩, ⟨"A", "N", .stop true none, 7⟩, ⟨"A", "O", .stay none, 8⟩]

lemma twoStates_run : (ofClauses twoStates ["C", "G.B"] twoStatesClauses).toOption.map (fun x =>
    (x.1.nodes, x.1.edges, x.2.length, (Mermaid.diagram x.1 {}).toOption.isSome)) =
    some ([entryNode, "A", "G.B", unknownNode, stopNode],
      [⟨entryNode, "G.B", ""⟩, ⟨"G.B", "A", "K"⟩, ⟨"A", unknownNode, "M"⟩,
        ⟨"A", stopNode, "N (stop: failure)"⟩, ⟨"A", "A", "O"⟩], 2, true) := by decide +kernel

theorem exists_wellFormed_twoStates : ∃ g, g.nodes = [entryNode, "A", "G.B", unknownNode, stopNode] ∧
    g.edges.length = 5 ∧ g.WellFormed twoStates ["C", "G.B"] ∧
      ∃ markup, Mermaid.diagram g {} = .ok markup := by
  obtain ⟨g, findings, h, hwell, hdrawn⟩ :=
    exists_wellFormed twoStates ["C", "G.B"] twoStatesClauses (by decide)
      (by unfold OwnNodesFree; decide) (by simp [twoStatesClauses])
  have hrun := twoStates_run
  rw [h] at hrun
  simp only [Except.toOption, Option.map_some, Option.some.injEq, Prod.mk.injEq] at hrun
  refine ⟨g, hrun.1, by rw [hrun.2.1]; rfl, hwell, (hdrawn {}).resolve_right ?_⟩
  rintro ⟨count, hcount, -⟩
  simp [hcount] at hrun

end Graph

end ActorDiagram
