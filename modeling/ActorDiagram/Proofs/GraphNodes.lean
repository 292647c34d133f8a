import Mathlib
import ActorDiagram.Drawing
import ActorDiagram.Proofs.Declared
import ActorDiagram.Proofs.MermaidIds
import ActorDiagram.Proofs.NoSilentLoss

/-!
# Nodes of a graph

A graph tells its own nodes from declared states by their names only. No identifier is spelled like
one of them, unless it stands in back quotes; where none is declared, nodes are distinct, the edges
of clauses are those that do not leave the entry, and there are ids for both ends of every edge.
-/

namespace ActorDiagram

namespace Graph

/-- Nodes that stand for no declared state. -/
def ownNodes : List String := [entryNode, stopNode, unknownNode]

/-- No state is declared under the name of one of these nodes. -/
def OwnNodesFree (states : StateIndex) : Prop := ∀ node ∈ ownNodes, node ∉ states.ids

/-- A state with the name of one of these nodes is written in back quotes. -/
theorem quotedIn_of_mem_ownNodes {text : String} {s : Stream} {states : StateIndex}
    (hs : Stream.ofText text = .ok s) (hstates : StateIndex.ofStream s = .ok states)
    {node : String} (hown : node ∈ ownNodes) (hid : node ∈ states.ids) :
    Lexeme.QuotedIn text.toList node.toList := by
  obtain ⟨d, hd, rfl⟩ := List.mem_map.mp hid
  have hnamed := (StateIndex.namedIn_of_ofStream hstates).1 d hd
  have hplain : '.' ∉ d.id.toList ∧ Lexeme.isBareWord d.id.toList = false := by
    generalize d.id = node at hown
    simp only [ownNodes, List.mem_cons, List.not_mem_nil, or_false] at hown
    rcases hown with rfl | rfl | rfl <;> exact ⟨by decide, by decide⟩
  have hname := hnamed.name
  rw [← hnamed.id_eq_name hplain.1] at hname
  refine (hname.spelling hs).resolve_left ?_
  simp [hplain.2]

variable {states : StateIndex} {sources : List String} {ts : List Transition} {g : Graph}
  {findings : List Finding} {e : Edge}

/-- The nodes of the graph are the states of a table between the entry and the stop node, with the
unknown node or without it. -/
structure Over (states : StateIndex) (unknown : Bool) (g : Graph) : Prop where
  nodes_eq : g.nodes = entryNode :: states.ids ++ (if unknown then [unknownNode] else []) ++ [stopNode]
  stateNames_eq : g.stateNames = states.stateNames

/-! ### Where edges lead -/

theorem nodes_of_ofClauses (h : ofClauses states sources ts = .ok (g, findings)) :
    g.nodes = entryNode :: states.ids ++ (if hasUnknown states ts then [unknownNode] else []) ++
      [stopNode] ∧ g.stateNames = states.stateNames := by
  unfold ofClauses at h
  obtain ⟨parts, -, h⟩ := bind_eq_ok_iff.mp h
  cases h
  exact ⟨rfl, rfl⟩

lemma over_of_ofClauses (h : ofClauses states sources ts = .ok (g, findings)) :
    g.Over states (hasUnknown states ts) :=
  ⟨(nodes_of_ofClauses h).1, (nodes_of_ofClauses h).2⟩

lemma mem_ids_of_initialState {initial : String} (h : initialState states sources = some initial) :
    initial ∈ states.ids := by
  unfold initialState at h
  cases hfind : sources.find? states.contains with
  | none =>
    rw [hfind] at h
    exact List.mem_of_head? h
  | some source =>
    rw [hfind, Option.some.injEq] at h
    subst source
    simpa [StateIndex.contains] using List.find?_some hfind

/-- The edge of a clause leaves a declared state; it leads to one, to the stop node or, if the graph
has it, to the unknown node. -/
lemma ends_of_edgeOf {t : Transition} (ht : t ∈ ts) (h : edgeOf states t = .ok (.inl e)) :
    e.source ∈ states.ids ∧ (e.target ∈ states.ids ∨ e.target = stopNode ∨
      e.target = unknownNode ∧ hasUnknown states ts = true) := by
  unfold edgeOf at h
  by_cases hsource : states.contains t.source = true
  · have hmem : t.source ∈ states.ids := by simpa [StateIndex.contains] using hsource
    rw [if_pos hsource] at h
    cases haction : t.action with
    | goto target payload =>
      simp only [haction] at h
      by_cases htarget : states.contains target = true
      · rw [if_pos htarget] at h
        cases h
        exact ⟨hmem, .inl (by simpa [StateIndex.contains] using htarget)⟩
      · rw [if_neg htarget] at h
        cases h
    | stay payload =>
      simp only [haction] at h
      cases h
      exact ⟨hmem, .inl hmem⟩
    | stop failure reason =>
      simp only [haction] at h
      cases h
      exact ⟨hmem, .inr (.inl rfl)⟩
    | call name => simp [haction] at h
    | unresolved name =>
      simp only [haction] at h
      cases h
      refine ⟨hmem, .inr (.inr ⟨rfl, ?_⟩)⟩
      exact List.any_eq_true.mpr ⟨t, ht, by simp [hsource, haction]⟩
  · rw [if_neg hsource] at h
    cases h

/-- Edges in order: the one from the entry, and those of the clauses. -/
theorem edges_of_ofClauses (h : ofClauses states sources ts = .ok (g, findings)) :
    ∃ drawn : List Edge, g.edges = entryEdges g.initial ++ drawn ∧
      (∀ initial, g.initial = some initial → initial ∈ states.ids) ∧
      (∃ parts, List.Forall₂ (Transition.SettledBy states) ts parts ∧
        drawn = parts.filterMap Sum.getLeft?) ∧
      ∀ e ∈ drawn, e.source ∈ states.ids ∧ (e.target ∈ states.ids ∨ e.target = stopNode ∨
        e.target = unknownNode ∧ hasUnknown states ts = true) := by
  unfold ofClauses at h
  obtain ⟨parts, hparts, h⟩ := bind_eq_ok_iff.mp h
  cases h
  have hmembers := forall₂_of_mapM_eq_ok hparts
  refine ⟨_, rfl, fun initial hinitial => mem_ids_of_initialState hinitial,
    ⟨parts, hmembers.imp fun t part hpart => settledBy_of_edgeOf hpart, rfl⟩, ?_⟩
  intro e he
  obtain ⟨part, hpart, hleft⟩ := List.mem_filterMap.mp he
  cases part with
  | inr f => simp at hleft
  | inl e' =>
    cases hleft
    obtain ⟨t, ht, hedge⟩ := exists_of_mem_left hmembers.flip hpart
    exact ends_of_edgeOf ht hedge

/-- An edge leads from the entry to a declared state, or it is that of a clause. -/
theorem ends_of_mem_edges (h : ofClauses states sources ts = .ok (g, findings)) (he : e ∈ g.edges) :
    (e.source = entryNode ∧ e.target ∈ states.ids) ∨
      e.source ∈ states.ids ∧ (e.target ∈ states.ids ∨ e.target = stopNode ∨
        e.target = unknownNode ∧ hasUnknown states ts = true) := by
  obtain ⟨drawn, hedges, hinitial, -, hends⟩ := edges_of_ofClauses h
  rw [hedges, List.mem_append] at he
  rcases he with he | he
  · simp only [entryEdges, List.mem_map, Option.mem_toList] at he
    obtain ⟨initial, hi, rfl⟩ := he
    exact .inl ⟨rfl, hinitial initial hi⟩
  · exact .inr (hends e he)

lemma mem_nodes_of_mem_ids (h : ofClauses states sources ts = .ok (g, findings)) {id : String}
    (hid : id ∈ states.ids) : id ∈ g.nodes := by
  rw [(nodes_of_ofClauses h).1]
  simp [hid]

/-! ### Nodes and edges, where no state takes the name of another node -/

namespace OwnNodesFree

variable (hfree : OwnNodesFree states)

include hfree

lemma ne_entryNode {id : String} (hid : id ∈ states.ids) : id ≠ entryNode :=
  fun heq => hfree entryNode (by simp [ownNodes]) (heq ▸ hid)

lemma ne_stopNode {id : String} (hid : id ∈ states.ids) : id ≠ stopNode :=
  fun heq => hfree stopNode (by simp [ownNodes]) (heq ▸ hid)

lemma ne_unknownNode {id : String} (hid : id ∈ states.ids) : id ≠ unknownNode :=
  fun heq => hfree unknownNode (by simp [ownNodes]) (heq ▸ hid)

lemma isDrawn {id : String} (hid : id ∈ states.ids) : Mermaid.isDrawn id = true := by
  simp [Mermaid.isDrawn, hfree.ne_entryNode hid, hfree.ne_stopNode hid]

lemma drawn_over {unknown : Bool} (h : g.Over states unknown) :
    g.nodes.filter Mermaid.isDrawn = states.ids ++ (if unknown then [unknownNode] else []) := by
  have hids : states.ids.filter Mermaid.isDrawn = states.ids :=
    List.filter_eq_self.mpr fun id hid => hfree.isDrawn hid
  rw [h.nodes_eq, List.filter_append, List.filter_append, List.filter_cons_of_neg (by decide), hids,
    List.filter_cons_of_neg (by decide), List.filter_nil, List.append_nil]
  split_ifs <;> rfl

lemma unknownNode_mem_iff {unknown : Bool} (h : g.Over states unknown) :
    unknownNode ∈ g.nodes ↔ unknown = true := by
  have hmem : unknownNode ∉ states.ids := hfree unknownNode (by simp [ownNodes])
  rw [h.nodes_eq]
  split_ifs with hhas
  · simp [hhas]
  · simp [hhas, hmem, show unknownNode ≠ entryNode by decide, show unknownNode ≠ stopNode by decide]

theorem drawn_nodes (h : ofClauses states sources ts = .ok (g, findings)) :
    g.nodes.filter Mermaid.isDrawn =
      states.ids ++ (if unknownNode ∈ g.nodes then [unknownNode] else []) := by
  have hover := over_of_ofClauses h
  rw [hfree.drawn_over hover]
  simp only [hfree.unknownNode_mem_iff hover]

/-- Nodes are distinct. -/
theorem nodup_over (hids : states.ids.Nodup) {unknown : Bool} (h : g.Over states unknown) :
    g.nodes.Nodup := by
  rw [h.nodes_eq, List.cons_append, List.cons_append, List.nodup_cons, List.append_assoc,
    List.nodup_append]
  have hends : ∀ node ∈ (if unknown then [unknownNode] else []) ++ [stopNode],
      node = unknownNode ∨ node = stopNode := by
    intro node hnode
    split_ifs at hnode with hunknown
    · simpa using hnode
    · exact .inr (by simpa using hnode)
  refine ⟨?_, hids, ?_, ?_⟩
  · intro hmem
    rcases List.mem_append.mp hmem with hmem | hmem
    · exact hfree.ne_entryNode hmem rfl
    · exact absurd (hends _ hmem) (by decide)
  · split_ifs <;> decide
  · rintro id hid node hnode rfl
    rcases hends _ hnode with heq | heq
    · exact hfree.ne_unknownNode hid heq
    · exact hfree.ne_stopNode hid heq

theorem nodup_nodes (hids : states.ids.Nodup)
    (h : ofClauses states sources ts = .ok (g, findings)) : g.nodes.Nodup :=
  hfree.nodup_over hids (over_of_ofClauses h)

/-- The edges that leave no entry are those of the clauses. -/
theorem clauseEdges_eq (h : ofClauses states sources ts = .ok (g, findings)) :
    ∃ parts, List.Forall₂ (Transition.SettledBy states) ts parts ∧
      g.clauseEdges = parts.filterMap Sum.getLeft? := by
  obtain ⟨drawn, hedges, -, ⟨parts, hparts, hdrawn⟩, hends⟩ := edges_of_ofClauses h
  refine ⟨parts, hparts, ?_⟩
  have hentry : (entryEdges g.initial).filter (·.source != entryNode) = [] := by
    simp [entryEdges]
  have hall : drawn.filter (·.source != entryNode) = drawn := by
    rw [List.filter_eq_self]
    intro e he
    simpa using hfree.ne_entryNode (hends e he).1
  rw [clauseEdges, hedges, List.filter_append, hentry, hall, List.nil_append, hdrawn]

end OwnNodesFree

end Graph

/-! ### Names in a diagram -/

namespace Mermaid

variable {s : Stream} {states : StateIndex} {sources : List String} {ts : List Transition} {g : Graph}
  {findings : List Finding}

lemma eq_of_count_name_eq_one {decls : List DeclaredState} {d d' : DeclaredState}
    (hd : d ∈ decls) (hd' : d' ∈ decls) (hname : d'.name = d.name)
    (h : (decls.map (·.name)).count d.name = 1) : d' = d := by
  rw [List.count_eq_countP, List.countP_map, List.countP_eq_length_filter,
    List.length_eq_one_iff] at h
  obtain ⟨only, honly⟩ := h
  have hmem : ∀ x ∈ decls, x.name = d.name → x = only := by
    intro x hx hx'
    have hx := List.mem_filter.mpr ⟨hx, (by simpa using hx' :
      ((· == d.name) ∘ (·.name)) x = true)⟩
    rw [honly] at hx
    exact List.mem_singleton.mp hx
  rw [hmem d hd rfl, hmem d' hd' hname]

/-- What a state is drawn by: its name, if no other state has it, or its id. -/
lemma exists_of_mem_shownNames (hnames : g.stateNames = states.stateNames) (hids : states.ids.Nodup)
    {x : String × String} (hx : x ∈ shownNames g) : ∃ d ∈ states.decls, x.1 = d.id ∧
      ((states.decls.map (·.name)).count d.name = 1 ∧ x.2 = d.name ∨
        (states.decls.map (·.name)).count d.name ≠ 1 ∧ x.2 = d.id) := by
  unfold shownNames at hx
  rw [hnames, StateIndex.stateNames_of_nodup hids] at hx
  have hlocals : (states.decls.map fun d => (d.id, d.name)).map (·.2) =
      states.decls.map (·.name) := by
    rw [List.map_map]
    rfl
  simp only [hlocals, List.map_map, List.mem_map, Function.comp_apply] at hx
  obtain ⟨d, hd, rfl⟩ := hx
  refine ⟨d, hd, rfl, ?_⟩
  by_cases hcount : (states.decls.map (·.name)).count d.name = 1
  · exact .inl ⟨hcount, if_pos (by simpa using hcount)⟩
  · exact .inr ⟨hcount, if_neg (by simpa using hcount)⟩

lemma break_notMem_shownNames (hnames : g.stateNames = states.stateNames) (hids : states.ids.Nodup)
    (hnamed : ∀ d ∈ states.decls, d.NamedIn s) (hbreak : ∀ word, s.HasWord word → '\n' ∉ word.toList) :
    ∀ x ∈ shownNames g, '\n' ∉ x.2.toList := by
  intro x hx hmem
  obtain ⟨d, hd, -, ⟨-, hname⟩ | ⟨-, hname⟩⟩ := exists_of_mem_shownNames hnames hids hx
  · rw [hname] at hmem
    exact hbreak _ (hnamed d hd).name hmem
  · rw [hname] at hmem
    rcases (hnamed d hd).mem_id hmem with hdot | ⟨word, hword, hmem⟩
    · exact absurd hdot (by decide)
    · exact hbreak word hword hmem

/-- A name that is an id of its own belongs to one state only. -/
theorem namesApart_of_qualified (hnames : g.stateNames = states.stateNames) (hids : states.ids.Nodup)
    (hqualified : ∀ d ∈ states.decls, d.id = qualify d.scope d.name)
    (hbreak : ∀ d ∈ states.decls, '\n' ∉ d.name.toList) : NamesApart (shownNames g) := by
  -- An id without a dot is a name, so it is the name of the state, whichever way it is drawn.
  have hname_eq : ∀ {name : String}, canBeId name = true → ∀ d ∈ states.decls,
      (name = d.name ∨ name = d.id) → d.name = name := by
    rintro name hbare d hd (heq | heq)
    · exact heq.symm
    · have hdot := dot_notMem_of_canBeId hbare
      rw [heq, hqualified d hd] at hdot
      rw [heq, hqualified d hd, qualify_eq_name hdot]
  constructor
  · intro x hx hbare
    obtain ⟨d, hd, -, hkind⟩ := exists_of_mem_shownNames hnames hids hx
    rw [← hname_eq hbare d hd (hkind.imp (·.2) (·.2))]
    exact hbreak d hd
  · intro node node' name hx hx' hbare
    obtain ⟨d, hd, hnode, hkind⟩ := exists_of_mem_shownNames hnames hids hx
    obtain ⟨d', hd', hnode', hkind'⟩ := exists_of_mem_shownNames hnames hids hx'
    have hd_name := hname_eq hbare d hd (hkind.imp (·.2) (·.2))
    have hd'_name := hname_eq hbare d' hd' (hkind'.imp (·.2) (·.2))
    have hsame : d'.name = d.name := hd'_name.trans hd_name.symm
    simp only at hnode hnode'
    rcases hkind with ⟨hcount, -⟩ | ⟨hcount, hid⟩
    · rw [hnode, hnode', eq_of_count_name_eq_one hd hd' hsame hcount]
    · rw [← hsame] at hcount
      obtain ⟨-, hid'⟩ := hkind'.resolve_left fun h => hcount h.1
      rw [hnode, hnode', ← hid, ← hid']

lemma shownName?_isSome {unknown : Bool} (h : g.Over states unknown) (hids : states.ids.Nodup)
    {node : String} (hnode : node ∈ g.nodes) (hdrawn : isDrawn node = true) :
    (shownName? (shownNames g) node).isSome = true := by
  obtain ⟨hnodes, hnames⟩ := h
  unfold shownName?
  by_cases hunknown : node = Graph.unknownNode
  · rw [if_pos hunknown]
    rfl
  · have hid : node ∈ states.ids := by
      rw [hnodes, List.cons_append, List.cons_append, List.mem_cons, List.mem_append, List.mem_append,
        List.mem_singleton] at hnode
      simp only [isDrawn, Bool.and_eq_true, bne_iff_ne] at hdrawn
      rcases hnode with heq | (hid | hmem) | heq
      · exact absurd heq hdrawn.1
      · exact hid
      · split_ifs at hmem
        · exact absurd (List.mem_singleton.mp hmem) hunknown
        · simp at hmem
      · exact absurd heq hdrawn.2
    obtain ⟨d, hd, rfl⟩ := List.mem_map.mp hid
    rw [if_neg hunknown, Option.isSome_map, List.find?_isSome]
    unfold shownNames
    rw [hnames, StateIndex.stateNames_of_nodup hids]
    exact ⟨_, List.mem_map_of_mem (List.mem_map_of_mem hd), by simp⟩

/-- Where both ends of an edge have ids, it is written unless a reference in its label is too long. -/
lemma overlong_of_edge {l : Layout} {e : Edge} {source target : String} {fault : Error}
    (hsource : l.endpoint Graph.entryNode e.source = .ok source)
    (htarget : l.endpoint Graph.stopNode e.target = .ok target) (h : l.edge e = .error fault) :
    ∃ count, fault = .manyDigits count ∧ Text.Reference.Overlong e.label.toList count := by
  unfold Layout.edge at h
  rw [hsource, htarget] at h
  exact overlong_of_edgeLine h

/-- Diagram of a graph with edges of clauses, by its layout. It is not drawn where a reference is too
long. -/
theorem diagram_of_layout (hne : g.clauseEdges ≠ []) {l : Layout} (hl : Layout.ofGraph g = .ok l)
    (hends : ∀ e ∈ g.edges, (∃ id, l.endpoint Graph.entryNode e.source = .ok id) ∧
      ∃ id, l.endpoint Graph.stopNode e.target = .ok id) (appearance : Appearance) :
    (∃ decls edges, l.lines = .ok decls ∧ g.edges.mapM l.edge = .ok edges ∧
      diagram g appearance = .ok (joinLines (headLines appearance ++ decls ++ edges))) ∨
    ∃ count, diagram g appearance = .error (.manyDigits count) ∧ HasOverlong g count := by
  unfold diagram
  rw [if_neg (by simpa using hne), hl]
  simp only [Bind.bind, Except.bind]
  rcases Layout.lines_cases hl with ⟨decls, hdecls⟩ | ⟨count, hcount, hlong⟩
  · rw [hdecls]
    cases hedges : g.edges.mapM l.edge with
    | ok edges => exact .inl ⟨decls, edges, rfl, rfl, rfl⟩
    | error fault =>
      obtain ⟨e, he, hedge⟩ := exists_mem_of_mapM_eq_error hedges
      obtain ⟨⟨source, hsource⟩, target, htarget⟩ := hends e he
      obtain ⟨count, rfl, hlong⟩ := overlong_of_edge hsource htarget hedge
      exact .inr ⟨count, rfl, .inr ⟨e, he, hlong⟩⟩
  · rw [hcount]
    exact .inr ⟨count, rfl, .inl hlong⟩

/-- A graph whose states keep off the other nodes has a layout with an id for every end of an
edge. -/
theorem exists_layout {text : String} (hs : Stream.ofText text = .ok s)
    (hstates : StateIndex.ofStream s = .ok states) (hfree : Graph.OwnNodesFree states)
    (h : Graph.ofClauses states sources ts = .ok (g, findings)) :
    ∃ l, Layout.ofGraph g = .ok l ∧ l.Sound (shownNames g) g.nodes ∧ g.nodes.Nodup ∧
      ∀ e ∈ g.edges, (∃ id, l.endpoint Graph.entryNode e.source = .ok id) ∧
        ∃ id, l.endpoint Graph.stopNode e.target = .ok id := by
  obtain ⟨hnamed, hids⟩ := StateIndex.namedIn_of_ofStream hstates
  obtain ⟨hnodes, hnames⟩ := Graph.nodes_of_ofClauses h
  have hnodup := hfree.nodup_nodes hids h
  have happart := namesApart_of_qualified hnames hids (fun d hd => (hnamed d hd).id_eq)
    fun d hd => (hnamed d hd).name.break_notMem hs
  obtain ⟨l, hl, hsound⟩ := Layout.exists_sound hnodup happart fun node hnode hdrawn =>
    shownName?_isSome (Graph.over_of_ofClauses h) hids hnode hdrawn
  refine ⟨l, hl, hsound, hnodup, ?_⟩
  have hendpoint : ∀ mark node, node ∈ g.nodes → isDrawn node = true →
      ∃ id, l.endpoint mark node = .ok id := by
    intro mark node hnode hdrawn
    obtain ⟨id, hid⟩ := hsound.exists_idOf? hnodup hnode hdrawn
    unfold Layout.endpoint
    by_cases hmark : node = mark
    · exact ⟨_, if_pos hmark⟩
    · exact ⟨id, by rw [if_neg hmark, hid]⟩
  have hstate : ∀ mark id, id ∈ states.ids → ∃ id', l.endpoint mark id = .ok id' :=
    fun mark id hid => hendpoint mark id (Graph.mem_nodes_of_mem_ids h hid) (hfree.isDrawn hid)
  intro e he
  rcases Graph.ends_of_mem_edges h he with ⟨hentry, htarget⟩ | ⟨hsource, htarget⟩
  · exact ⟨⟨_, if_pos hentry⟩, hstate _ _ htarget⟩
  · refine ⟨hstate _ _ hsource, ?_⟩
    rcases htarget with hid | hstop | ⟨hunknown, hhas⟩
    · exact hstate _ _ hid
    · exact ⟨_, if_pos hstop⟩
    · refine hendpoint _ _ ?_ (by rw [hunknown]; decide)
      rw [hnodes, if_pos hhas, hunknown]
      simp

end Mermaid

/-! ### Identifiers that no state can take by accident -/

/-- The graph's own nodes keep apart from the states of a text, unless a state is written in back
quotes with the name of one. Then nodes are distinct, the edges of clauses are those that leave no
entry, and the diagram has an id for both ends of every edge. It is drawn unless a reference in it is too
long. -/
theorem Graph.ownNodes_apart {text : String} {s : Stream} {states : StateIndex}
    (hs : Stream.ofText text = .ok s) (hstates : StateIndex.ofStream s = .ok states) :
    (∀ node ∈ ownNodes, node ∈ states.ids → Lexeme.QuotedIn text.toList node.toList) ∧
    (OwnNodesFree states → ∀ sources ts g findings,
      ofClauses states sources ts = .ok (g, findings) →
      g.nodes.Nodup ∧
      (∃ parts, List.Forall₂ (Transition.SettledBy states) ts parts ∧
        g.clauseEdges = parts.filterMap Sum.getLeft?) ∧
      (∃ l, Mermaid.Layout.ofGraph g = .ok l ∧ ∀ e ∈ g.edges,
        (∃ id, l.endpoint entryNode e.source = .ok id) ∧
        ∃ id, l.endpoint stopNode e.target = .ok id) ∧
      ∀ appearance, (∃ markup, Mermaid.diagram g appearance = .ok markup) ∨
        ∃ count, Mermaid.diagram g appearance = .error (.manyDigits count) ∧
          Mermaid.HasOverlong g count) := by
  refine ⟨fun node hown hid => quotedIn_of_mem_ownNodes hs hstates hown hid, ?_⟩
  intro hfree sources ts g findings h
  obtain ⟨l, hl, -, hnodup, hends⟩ := Mermaid.exists_layout hs hstates hfree h
  refine ⟨hnodup, hfree.clauseEdges_eq h, ⟨l, hl, hends⟩, fun appearance => ?_⟩
  by_cases hempty : g.clauseEdges = []
  · exact .inl ⟨Mermaid.noTransitions, by simp [Mermaid.diagram, hempty]⟩
  · refine (Mermaid.diagram_of_layout hempty hl hends appearance).imp_left ?_
    rintro ⟨decls, edges, -, -, hdrawn⟩
    exact ⟨_, hdrawn⟩

/-- A state in back quotes with a harmless name, and a call that leads nowhere. -/
def quotedBlock : String :=
  "object G\x7bcase object `a-b`\x7d case object A when(A)\x7bcase K=>goto(`a-b`)case L=>f()\x7d"

lemma quotedBlock_run : (Stream.ofText quotedBlock >>= fun s => StateIndex.ofStream s >>= fun states =>
    Model.ofStream s >>= fun m => (Mermaid.diagram m.graph {}).map fun markup =>
      (states.ids, m.graph.clauseEdges.length, markup)) =
    .ok (["G.a-b", "A"], 2, "stateDiagram-v2\n  state \"a-b\" as a_b\n  A\n  state \"?\" as Unknown\n" ++
      "  [*] --> A\n  A --> a_b : K\n  A --> Unknown : L\n") := by decide +kernel

theorem Graph.ownNodes_apart_quotedBlock : ∃ s states m,
    Stream.ofText quotedBlock = .ok s ∧ StateIndex.ofStream s = .ok states ∧
    Model.ofStream s = .ok m ∧ states.ids = ["G.a-b", "A"] ∧ OwnNodesFree states ∧
    m.graph.nodes.Nodup ∧ m.graph.clauseEdges.length = 2 ∧
    ∃ markup, Mermaid.diagram m.graph {} = .ok markup := by
  obtain ⟨s, hs, hrun⟩ := bind_eq_ok_iff.mp quotedBlock_run
  obtain ⟨states, hstates, hrun⟩ := bind_eq_ok_iff.mp hrun
  obtain ⟨m, hm, hrun⟩ := bind_eq_ok_iff.mp hrun
  obtain ⟨markup, hd, hrun⟩ := map_eq_ok_iff.mp hrun
  obtain ⟨hids, hedges, -⟩ : _ ∧ _ ∧ _ := by simpa only [Prod.mk.injEq] using hrun
  have hfree : OwnNodesFree states := by
    rw [OwnNodesFree, hids]
    decide
  obtain ⟨sources, ts, findings, hgraph⟩ := Model.exists_ofClauses hstates hm
  obtain ⟨hnodup, -, -, hdiagram⟩ := (Graph.ownNodes_apart hs hstates).2 hfree _ _ _ _ hgraph
  refine ⟨s, states, m, hs, hstates, hm, hids, hfree, hnodup, hedges, (hdiagram {}).resolve_right ?_⟩
  rintro ⟨count, hcount, -⟩
  cases hd.symm.trans hcount

/-- A state in back quotes that takes the name of the stop node. -/
def stopBlock : String := "case object `[*]stop` when(`[*]stop`)\x7bcase G=>stay()\x7d"

/-- The state is taken for the stop node: it has no declaration, and its edge cannot be drawn. -/
theorem Graph.stopNode_taken : ((Stream.ofText stopBlock >>= fun s =>
    StateIndex.ofStream s >>= fun states =>
    (Model.ofStream s).map fun m =>
      (states.ids, m.graph.nodes, m.graph.clauseEdges.length, match Mermaid.diagram m.graph {} with
        | .ok _ => none
        | .error e => some e)).toOption) =
    some ([stopNode], [entryNode, stopNode, stopNode], 1, some (.unknownNode stopNode)) := by
  decide +kernel

end ActorDiagram
