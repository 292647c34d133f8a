import Mathlib
import ActorDiagram.Proofs.Entities
import ActorDiagram.Proofs.GraphNodes
import ActorDiagram.Proofs.Likeness

/-!
# Reading a diagram back

The lines of a diagram can be told apart and read: no name or label breaks a line or looks like an
arrow, and each edge line gives back the ends of its edge and the normalized label. Only a name or a label
with a reference that is too long keeps a diagram from being drawn.
-/

namespace ActorDiagram

/-- The second edge is the first with its label as it is drawn. -/
def Edge.Normalized (e drawn : Edge) : Prop :=
  drawn.source = e.source ∧ drawn.target = e.target ∧
    Mermaid.normalize e.label.toList = .ok drawn.label.toList

namespace Mermaid

/-! ### A reader of lines -/

/-- Ends and label of an edge line, as they are written. -/
def splitEdge? : List Char → Option (List Char × List Char × List Char)
  | ' ' :: ' ' :: cs =>
    let source := cs.takeWhile (· != ' ')
    match cs.drop source.length with
    | ' ' :: '-' :: '-' :: '>' :: ' ' :: cs =>
      let target := cs.takeWhile (· != ' ')
      match cs.drop target.length with
      | [] => some (source, target, [])
      | ' ' :: ':' :: ' ' :: label => some (source, target, label)
      | _ => none
    | _ => none
  | _ => none

/-- What follows the last space of a line: the id that a declaration gives. -/
def lastWord (line : String) : String :=
  String.ofList (line.toList.reverse.takeWhile (· != ' ')).reverse

/-- Node that is meant by an id, or by the mark for a node without declaration. -/
def nodeOf? (declared : List (String × String)) (mark id : String) : Option String :=
  if id = "[*]" then some mark else (declared.find? (·.2 == id)).map (·.1)

/-- Edge that a line says, by the ids of the declared nodes. -/
def readEdge? (declared : List (String × String)) (line : String) : Option Edge := do
  let (source, target, label) ← splitEdge? line.toList
  let source ← nodeOf? declared Graph.entryNode (String.ofList source)
  let target ← nodeOf? declared Graph.stopNode (String.ofList target)
  some ⟨source, target, String.ofList (unescape label)⟩

/-- An arrow starts at the character of this index. -/
def ArrowAt (line : String) (k : Nat) : Prop := ['-', '-', '>'] <+: line.toList.drop k

/-! ### Words in lines -/

/-- An id, or the mark for a node without declaration. -/
def IsEnd (id : String) : Prop := id = "[*]" ∨ IsId id

lemma IsId.notMem {id : String} (h : IsId id) {c : Char} (hc : isIdPart c = false) :
    c ∉ id.toList := by
  intro hmem
  rw [h.parts c hmem] at hc
  exact absurd hc (by decide)

lemma IsEnd.notMem {id : String} (h : IsEnd id) {c : Char} (hc : c ∈ [' ', '>', '\n']) :
    c ∉ id.toList := by
  rcases h with rfl | hid
  · fin_cases hc <;> decide
  · fin_cases hc <;> exact hid.notMem (by decide)

lemma takeWhile_word {word rest : List Char} (h : ' ' ∉ word) :
    (word ++ ' ' :: rest).takeWhile (· != ' ') = word := by
  rw [List.takeWhile_append_of_pos, List.takeWhile_cons_of_neg (by simp), List.append_nil]
  intro c hc
  simpa using fun heq : c = ' ' => h (heq ▸ hc)

lemma takeWhile_word_end {word : List Char} (h : ' ' ∉ word) :
    word.takeWhile (· != ' ') = word := by
  rw [List.takeWhile_eq_self_iff]
  intro c hc
  simpa using fun heq : c = ' ' => h (heq ▸ hc)

lemma lastWord_append {line id : String} (h : ' ' ∉ id.toList) :
    lastWord (line ++ " " ++ id) = id := by
  have hword : ' ' ∉ id.toList.reverse := by simpa using h
  unfold lastWord
  simp only [String.toList_append, List.reverse_append, String.reduceToList, List.reverse_cons,
    List.reverse_nil, List.nil_append, List.singleton_append]
  rw [takeWhile_word hword, List.reverse_reverse, String.ofList_toList]

lemma lastWord_of_declaredBy {names : List (String × String)} {node id line : String}
    (h : DeclaredBy names node id line) (hid : IsId id) : lastWord line = id := by
  have hspace : ' ' ∉ id.toList := hid.notMem (by decide)
  obtain ⟨_, ⟨name, -, ⟨rfl, rfl⟩ | rfl⟩, hline⟩ := h
  · cases hline
    have hstate : stateLine id = " " ++ " " ++ id := rfl
    rw [hstate, lastWord_append hspace]
  · obtain ⟨text, -, rfl⟩ := map_eq_ok_iff.mp hline
    have halias : "  state \"" ++ text ++ "\" as " ++ id = "  state \"" ++ text ++ "\" as" ++ " " ++ id := by
      simp [String.append_assoc]
    rw [halias, lastWord_append hspace]

/-! ### Edge lines -/

variable {source target label line : String} {u : List Char}

/-- Characters of an edge line after its arrow, with the normalized label. -/
def edgeRest (target label : String) (u : List Char) : List Char :=
  ' ' :: (target.toList ++ if label.isEmpty then [] else ' ' :: ':' :: ' ' :: escape true u)

/-- An edge line is written with the normalized label. -/
lemma exists_normalize_of_edgeLine (h : edgeLine source target label = .ok line) :
    ∃ u, normalize label.toList = .ok u ∧ line.toList =
      (' ' :: ' ' :: (source.toList ++ [' '])) ++ '-' :: '-' :: '>' :: edgeRest target label u := by
  unfold edgeLine at h
  split_ifs at h with hempty
  · cases h
    refine ⟨[], ?_, ?_⟩
    · rw [String.isEmpty_iff.mp hempty]
      rfl
    · simp [edgeRest, hempty, String.toList_append]
  · obtain ⟨text, htext, rfl⟩ := map_eq_ok_iff.mp h
    obtain ⟨u, hu, rfl⟩ := escaped_eq_ok_iff.mp htext
    exact ⟨u, hu, by simp [edgeRest, hempty, String.toList_append]⟩

lemma splitEdge?_eq (hsource : ' ' ∉ source.toList) (htarget : ' ' ∉ target.toList)
    (hline : line.toList =
      (' ' :: ' ' :: (source.toList ++ [' '])) ++ '-' :: '-' :: '>' :: edgeRest target label u) :
    splitEdge? line.toList = some (source.toList, target.toList,
      if label.isEmpty then [] else escape true u) := by
  have hline : line.toList = ' ' :: ' ' :: (source.toList ++ ' ' :: '-' :: '-' :: '>' :: ' ' ::
      (target.toList ++ if label.isEmpty then [] else ' ' :: ':' :: ' ' :: escape true u)) := by
    rw [hline]
    simp [edgeRest]
  rw [hline, splitEdge?]
  simp only [takeWhile_word hsource, List.drop_left]
  split_ifs
  · simp only [List.append_nil, takeWhile_word_end htarget, List.drop_length]
  · simp only [takeWhile_word htarget, List.drop_left]

lemma existsUnique_arrowAt {v : List Char}
    (h : line.toList = u ++ '-' :: '-' :: '>' :: v) (hu : '>' ∉ u) (hv : '>' ∉ v) :
    ∃! k, ArrowAt line k := by
  refine ⟨u.length, ⟨v, by rw [h, List.drop_left]; rfl⟩, ?_⟩
  rintro k ⟨rest, hrest⟩
  have hget : line.toList[k + 2]? = some '>' := by
    rw [← List.getElem?_drop, ← hrest]
    rfl
  have hline : line.toList = (u ++ ['-', '-']) ++ '>' :: v := by rw [h]; simp
  have hu' : '>' ∉ u ++ ['-', '-'] := by simp [hu]
  rw [hline] at hget
  rcases Nat.lt_trichotomy (k + 2) (u ++ ['-', '-']).length with hlt | heq | hgt
  · rw [List.getElem?_append_left hlt] at hget
    exact absurd (List.mem_of_getElem? hget) hu'
  · simp only [List.length_append, List.length_cons, List.length_nil] at heq
    omega
  · rw [List.getElem?_append_right (by omega)] at hget
    obtain ⟨m, hm⟩ := Nat.exists_eq_add_of_lt hgt
    rw [show k + 2 - (u ++ ['-', '-']).length = m + 1 by omega, List.getElem?_cons_succ] at hget
    exact absurd (List.mem_of_getElem? hget) hv

lemma not_arrowAt (h : '>' ∉ line.toList) (k : Nat) : ¬ ArrowAt line k := by
  rintro ⟨rest, hrest⟩
  have hmem : '>' ∈ line.toList.drop k := by
    rw [← hrest]
    simp
  exact h (List.mem_of_mem_drop hmem)

lemma notMem_edgeRest (htarget : IsEnd target) (hu : normalize label.toList = .ok u) {c : Char}
    (hc : c ∈ ['>', '\n']) : c ∉ edgeRest target label u := by
  have hlabel : c ∉ escape true u := by
    fin_cases hc
    · exact notMem_escape (by decide)
    · exact break_notMem_escape true hu
  have htarget' : c ∉ target.toList := htarget.notMem (List.mem_cons_of_mem _ hc)
  unfold edgeRest
  fin_cases hc <;> split_ifs <;> simp_all

/-- An edge line has one arrow and no line break, and it splits into its ends and its label. -/
lemma edgeLine_spec (hsource : IsEnd source) (htarget : IsEnd target)
    (h : edgeLine source target label = .ok line) :
    (∃! k, ArrowAt line k) ∧ '\n' ∉ line.toList ∧ ∃ u, normalize label.toList = .ok u ∧
      splitEdge? line.toList = some (source.toList, target.toList,
        if label.isEmpty then [] else escape true u) := by
  obtain ⟨u, hu, hline⟩ := exists_normalize_of_edgeLine h
  refine ⟨?_, ?_, u, hu, splitEdge?_eq (hsource.notMem (by decide)) (htarget.notMem (by decide)) hline⟩
  · refine existsUnique_arrowAt hline ?_ (notMem_edgeRest htarget hu (by decide))
    simp [hsource.notMem (show '>' ∈ [' ', '>', '\n'] by decide)]
  · rw [hline]
    simp [hsource.notMem (show '\n' ∈ [' ', '>', '\n'] by decide),
      notMem_edgeRest htarget hu (show '\n' ∈ ['>', '\n'] by decide)]

/-! ### Head and declarations -/

lemma break_notMem_headLines (appearance : Appearance) :
    ∀ line ∈ headLines appearance, '\n' ∉ line.toList := by
  obtain ⟨direction, theme, title⟩ := appearance
  have htheme : ∀ theme, '\n' ∉ (themeLine theme).toList := by
    intro theme
    have hjson := Text.break_notMem_jsonString theme
    have hkey := Text.break_notMem_jsonString "theme"
    unfold themeLine initLine
    simp [Value.json, Value.jsonEntries, Value.jsonKey, Text.sortByKey, Text.insertByKey,
      String.toList_append, hjson, hkey]
  have hdirection : ∀ d : Direction, '\n' ∉ (directionLine d.name).toList := by
    intro d
    cases d <;> decide
  intro line hline
  simp only [headLines, List.mem_append, List.mem_singleton] at hline
  rcases hline with (hline | rfl) | hline
  · cases theme with
    | none => simp at hline
    | some theme =>
      simp only at hline
      split_ifs at hline
      · simp at hline
      · rw [List.mem_singleton.mp hline]
        exact htheme theme
  · decide
  · cases direction with
    | none => simp at hline
    | some d =>
      rw [List.mem_singleton.mp hline]
      exact hdirection d

lemma arrow_notMem_headLines (appearance : Appearance) :
    ∀ line ∈ headLines { appearance with theme := none }, '>' ∉ line.toList := by
  obtain ⟨direction, theme, title⟩ := appearance
  intro line hline
  cases direction with
  | none =>
    simp only [headLines, List.nil_append, List.append_nil, List.mem_singleton] at hline
    rw [hline]
    decide
  | some d =>
    simp only [headLines, List.nil_append, List.mem_append, List.mem_singleton] at hline
    rcases hline with rfl | rfl
    · decide
    · cases d <;> decide

lemma notMem_of_declaredBy {names : List (String × String)} {node id : String}
    (h : DeclaredBy names node id line) (hid : IsId id) {c : Char} (hc : c ∈ ['>', '\n']) :
    c ∉ line.toList := by
  have hc' : c ∉ id.toList := by
    fin_cases hc <;> exact hid.notMem (by decide)
  obtain ⟨_, ⟨name, -, ⟨rfl, rfl⟩ | rfl⟩, hline⟩ := h
  · cases hline
    fin_cases hc <;> simpa [stateLine, String.toList_append] using hc'
  · obtain ⟨text, htext, rfl⟩ := map_eq_ok_iff.mp hline
    obtain ⟨u, hu, rfl⟩ := escaped_eq_ok_iff.mp htext
    have hname : c ∉ escape false u := by
      fin_cases hc
      · exact notMem_escape (by decide)
      · exact break_notMem_escape false hu
    fin_cases hc <;> simp_all [String.toList_append]

/-! ### Whole diagrams -/

/-- What the lines of a diagram say: one declaration for each drawn node in order, each under the
name of its node, then one line for each edge in order. No line has a line break in it, an arrow
stands in the edge lines only, once in each, and each edge line is read as its edge, by the ids that
the declarations give. -/
structure Lines (g : Graph) (appearance : Appearance) (decls edges : List String) : Prop where
  declares : List.Forall₂ (fun node line => ∃ id, DeclaredBy (shownNames g) node id line)
    (g.nodes.filter isDrawn) decls
  break_notMem : ∀ line ∈ headLines appearance ++ decls ++ edges, '\n' ∉ line.toList
  no_arrow : ∀ line ∈ headLines { appearance with theme := none } ++ decls, ∀ k, ¬ ArrowAt line k
  one_arrow : ∀ line ∈ edges, ∃! k, ArrowAt line k
  reads : List.Forall₂ (fun e line => ∃ drawn, e.Normalized drawn ∧
    readEdge? ((g.nodes.filter isDrawn).zip (decls.map lastWord)) line = some drawn) g.edges edges

namespace Layout

variable {names : List (String × String)} {nodes : List String} {l : Layout}

lemma Sound.zip_lastWord (h : l.Sound names nodes) {decls : List String} (hdecls : l.lines = .ok decls) :
    (nodes.filter isDrawn).zip (decls.map lastWord) = l.ids := by
  have hwords : decls.map lastWord = l.ids.map Prod.snd := by
    have hpairs : List.Forall₂ (fun x line => x.2 = lastWord line) l.ids decls :=
      ((List.forall₂_and_left _ _).mpr ⟨fun x hx => h.isId x hx, h.declaredBy hdecls⟩).imp
        fun x line hx => (lastWord_of_declaredBy hx.2 hx.1).symm
    exact (map_eq_of_forall₂ hpairs fun _ _ hx => hx).symm
  exact (List.zip_of_prod h.nodes_eq hwords.symm).symm

lemma Sound.nodeOf?_endpoint (h : l.Sound names nodes) (hnodup : nodes.Nodup) {mark node id : String}
    (hend : l.endpoint mark node = .ok id) : IsEnd id ∧ nodeOf? l.ids mark id = some node := by
  unfold endpoint at hend
  by_cases hmark : node = mark
  · rw [if_pos hmark, Except.ok.injEq] at hend
    rw [← hend, hmark]
    exact ⟨.inl rfl, if_pos rfl⟩
  · rw [if_neg hmark] at hend
    cases hid : l.idOf? node with
    | none => simp [hid] at hend
    | some id' =>
      simp only [hid, Except.ok.injEq] at hend
      subst id'
      have hmem := (h.idOf?_eq_some_iff hnodup).mp hid
      have hisId := h.isId _ hmem
      refine ⟨.inr hisId, ?_⟩
      have hne : id ≠ "[*]" := by
        rintro rfl
        exact absurd hisId.head (show ¬ "[*]".toList.head?.any isIdStart = true by decide)
      obtain ⟨x, hx⟩ : ∃ x, l.ids.find? (·.2 == id) = some x :=
        Option.isSome_iff_exists.mp (List.find?_isSome.mpr ⟨(node, id), hmem, by simp⟩)
      have hsame : x.2 = id := by simpa using List.find?_some hx
      rw [List.inj_on_of_nodup_map h.ids_nodup (List.mem_of_find?_eq_some hx) hmem hsame] at hx
      rw [nodeOf?, if_neg hne, hx]
      rfl

lemma Sound.edge_spec (h : l.Sound names nodes) (hnodup : nodes.Nodup) {e : Edge} {line : String}
    (hline : l.edge e = .ok line) : (∃! k, ArrowAt line k) ∧ '\n' ∉ line.toList ∧
      ∃ drawn, e.Normalized drawn ∧ readEdge? l.ids line = some drawn := by
  unfold edge at hline
  obtain ⟨source, hsource, hline⟩ := bind_eq_ok_iff.mp hline
  obtain ⟨target, htarget, hline⟩ := bind_eq_ok_iff.mp hline
  obtain ⟨hsourceEnd, hsourceNode⟩ := h.nodeOf?_endpoint hnodup hsource
  obtain ⟨htargetEnd, htargetNode⟩ := h.nodeOf?_endpoint hnodup htarget
  obtain ⟨harrow, hbreak, u, hu, hsplit⟩ := edgeLine_spec hsourceEnd htargetEnd hline
  refine ⟨harrow, hbreak, ⟨e.source, e.target, String.ofList u⟩, ⟨rfl, rfl, ?_⟩, ?_⟩
  · rw [hu, String.toList_ofList]
  · have hlabel : unescape (if e.label.isEmpty then [] else escape true u) = u := by
      split_ifs with hempty
      · rw [String.isEmpty_iff.mp hempty] at hu
        cases hu
        rfl
      · exact unescape_escape u
    unfold readEdge?
    rw [hsplit]
    simp only [Option.bind_eq_bind, Option.bind_some, String.ofList_toList, hsourceNode, htargetNode,
      hlabel]

/-- The lines of a sound layout and of the edges. -/
theorem Sound.lines {g : Graph} (h : l.Sound (shownNames g) g.nodes) (hnodup : g.nodes.Nodup)
    {decls edges : List String} (hdecls : l.lines = .ok decls) (hedges : g.edges.mapM l.edge = .ok edges)
    (appearance : Appearance) : Lines g appearance decls edges := by
  have hdecl : ∀ line ∈ decls, ∃ x ∈ l.ids, DeclaredBy (shownNames g) x.1 x.2 line := by
    intro line hline
    exact exists_of_mem_left (h.declaredBy hdecls).flip hline
  have hlines : List.Forall₂ (fun e line => (∃! k, ArrowAt line k) ∧ '\n' ∉ line.toList ∧
      ∃ drawn, e.Normalized drawn ∧ readEdge? l.ids line = some drawn) g.edges edges :=
    (forall₂_of_mapM_eq_ok hedges).imp fun e line hline => h.edge_spec hnodup hline
  have hedge : ∀ line ∈ edges, (∃! k, ArrowAt line k) ∧ '\n' ∉ line.toList := by
    intro line hline
    obtain ⟨e, -, harrow, hbreak, -⟩ := exists_of_mem_left hlines.flip hline
    exact ⟨harrow, hbreak⟩
  constructor
  · rw [← h.nodes_eq, List.forall₂_map_left_iff]
    exact (h.declaredBy hdecls).imp fun x line hx => ⟨x.2, hx⟩
  · intro line hline
    rcases List.mem_append.mp hline with hline | hline
    · rcases List.mem_append.mp hline with hline | hline
      · exact break_notMem_headLines appearance line hline
      · obtain ⟨x, hx, hdeclared⟩ := hdecl line hline
        exact notMem_of_declaredBy hdeclared (h.isId x hx) (by decide)
    · exact (hedge line hline).2
  · intro line hline
    apply not_arrowAt
    rcases List.mem_append.mp hline with hline | hline
    · exact arrow_notMem_headLines appearance line hline
    · obtain ⟨x, hx, hdeclared⟩ := hdecl line hline
      exact notMem_of_declaredBy hdeclared (h.isId x hx) (by decide)
  · exact fun line hline => (hedge line hline).1
  · rw [h.zip_lastWord hdecls]
    exact hlines.imp fun e line hline => hline.2.2

end Layout

/-- A diagram says which edges its graph has. A graph without edges of clauses has one fixed diagram;
any other one has lines that each edge can be read from, with a declaration for each state and for the
unknown node if the graph has it, unless the name of a state or the label of an edge has a reference that is
too long. -/
theorem diagram_reads {text : String} {s : Stream} {states : StateIndex} {sources : List String}
    {ts : List Transition} {g : Graph} {findings : List Finding} (hs : Stream.ofText text = .ok s)
    (hstates : StateIndex.ofStream s = .ok states) (hfree : Graph.OwnNodesFree states)
    (hg : Graph.ofClauses states sources ts = .ok (g, findings)) (appearance : Appearance) :
    (g.clauseEdges = [] → diagram g appearance = .ok noTransitions) ∧
    (g.clauseEdges ≠ [] →
      (∃ decls edges : List String,
        diagram g appearance = .ok (joinLines (headLines appearance ++ decls ++ edges)) ∧
        Lines g appearance decls edges) ∨
      ∃ count, diagram g appearance = .error (.manyDigits count) ∧ HasOverlong g count) ∧
    g.nodes.filter isDrawn =
      states.ids ++ (if Graph.unknownNode ∈ g.nodes then [Graph.unknownNode] else []) := by
  refine ⟨?_, ?_, hfree.drawn_nodes hg⟩
  · intro hempty
    simp [diagram, hempty]
  · intro hne
    obtain ⟨l, hl, hsound, hnodup, hends⟩ := exists_layout hs hstates hfree hg
    refine (diagram_of_layout hne hl hends appearance).imp_left ?_
    rintro ⟨decls, edges, hdecls, hedges, hdrawn⟩
    exact ⟨decls, edges, hdrawn, hsound.lines hnodup hdecls hedges appearance⟩

/-- A label that looks like an edge, with a semicolon and a character reference. -/
def arrowBlock : String :=
  "case object A when(A)\x7bcase \"A --> B; &lt;\"=>stay() case F=>f()\x7d"

example : (Drawing.ofText arrowBlock {}).toOption.map (·.markup) =
    some ("stateDiagram-v2\n  A\n  state \"?\" as Unknown\n  [*] --> A\n" ++
      "  A --> A : A --#gt; B#59; #lt;\n  A --> Unknown : F\n") := by decide +kernel

theorem diagram_reads_arrowBlock : ∃ s states g sources ts findings,
    Stream.ofText arrowBlock = .ok s ∧ StateIndex.ofStream s = .ok states ∧
    Graph.OwnNodesFree states ∧ Graph.ofClauses states sources ts = .ok (g, findings) ∧
    g.clauseEdges ≠ [] ∧ ∃ decls edges,
      diagram g {} = .ok (joinLines (headLines {} ++ decls ++ edges)) ∧ Lines g {} decls edges := by
  have hrun : (Stream.ofText arrowBlock >>= fun s => StateIndex.ofStream s >>= fun states =>
      Model.ofStream s >>= fun m => (diagram m.graph {}).map fun _ =>
        (states.ids, m.graph.clauseEdges.isEmpty)) = .ok (["A"], false) := by decide +kernel
  obtain ⟨s, hs, hrun⟩ := bind_eq_ok_iff.mp hrun
  obtain ⟨states, hstates, hrun⟩ := bind_eq_ok_iff.mp hrun
  obtain ⟨m, hm, hrun⟩ := bind_eq_ok_iff.mp hrun
  obtain ⟨markup, hd, hrun⟩ := map_eq_ok_iff.mp hrun
  obtain ⟨hids, hne⟩ : _ ∧ _ := by simpa only [Prod.mk.injEq, List.isEmpty_eq_false_iff] using hrun
  have hfree : Graph.OwnNodesFree states := by
    rw [Graph.OwnNodesFree, hids]
    decide
  obtain ⟨sources, ts, findings, hgraph⟩ := Model.exists_ofClauses hstates hm
  refine ⟨s, states, m.graph, sources, ts, findings, hs, hstates, hfree, hgraph, hne, ?_⟩
  refine ((diagram_reads hs hstates hfree hgraph {}).2.1 hne).resolve_right ?_
  rintro ⟨count, hcount, -⟩
  cases hd.symm.trans hcount

end Mermaid

end ActorDiagram
