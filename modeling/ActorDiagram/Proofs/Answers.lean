import Mathlib
import ActorDiagram.Proofs.BodyYields
import ActorDiagram.Proofs.GraphNodes

/-!
# Answers to any text

A report is made of every text, except where an identifier in back quotes is empty or takes the name
of the entry or stop node, and where a name or a label has a reference that is too long. Reading a text,
following helpers and drawing the graph each fail in no other way.
-/

namespace ActorDiagram

/-! ### Lexemes -/

/-- Only the text can be at fault while it is cut into lexemes. -/
theorem Lexeme.scan_yields (fuel : Nat) (p : Position) (cs : List Char) :
    Yields (fun e => ∃ cause line column, e = .source cause line column) (scan fuel p cs)
      fun _ => True := by
  induction fuel generalizing p cs with
  | zero => cases cs <;> trivial
  | succ fuel ih =>
    cases cs with
    | nil => trivial
    | cons c cs =>
      unfold scan
      cases piece c cs with
      | error cause => exact ⟨cause, _, _, rfl⟩
      | ok found =>
        cases found with
        | gap n => exact ih _ _
        | lexeme kind word n =>
          have hrest := ih (p.after ((c :: cs).take n)) ((c :: cs).drop n)
          simp only
          cases hscan : scan fuel (p.after ((c :: cs).take n)) ((c :: cs).drop n) with
          | ok rest => trivial
          | error e =>
            rw [hscan] at hrest
            exact hrest

/-! ### Helpers are followed to the end -/

lemma Clause.action_of_expand (helpers : List Helper) (c : Clause) {part : Transition × List Finding}
    (h : part ∈ c.expand helpers) (name : String) : part.1.action ≠ .call name := by
  rcases c.expand_cases helpers with ⟨hcall, heq⟩ | ⟨callee, -, ⟨reason, -, heq⟩ | ⟨f, -, -, heq⟩⟩ <;>
    rw [heq] at h
  · rw [List.mem_singleton.mp h]
    exact hcall name
  · rw [List.mem_singleton.mp h]
    exact fun hname => (by cases hname)
  · obtain ⟨b, -, rfl⟩ := List.mem_map.mp h
    rcases c.takeBranch_cases f b with ⟨callee, -, htaken⟩ | ⟨hcall, htaken⟩ <;> rw [htaken]
    · exact fun hname => (by cases hname)
    · exact hcall name

/-- No call of a helper is left in the transitions. -/
theorem Blocks.action_of_followHelpers (blocks : Blocks) (helpers : List Helper) {t : Transition}
    (h : t ∈ (blocks.followHelpers helpers).1) (name : String) : t.action ≠ .call name := by
  unfold followHelpers at h
  obtain ⟨part, hpart, rfl⟩ := List.mem_map.mp h
  obtain ⟨c, -, hpart⟩ := List.mem_flatMap.mp hpart
  exact c.action_of_expand helpers hpart name

/-- Transitions without calls of helpers make a graph. -/
theorem Graph.exists_ofClauses (states : StateIndex) (sources : List String) {ts : List Transition}
    (h : ∀ t ∈ ts, ∀ name, t.action ≠ .call name) :
    ∃ x, ofClauses states sources ts = .ok x := by
  have hedge : ∀ t ∈ ts, ∃ part, edgeOf states t = .ok part := by
    intro t ht
    unfold edgeOf
    split_ifs
    · cases haction : t.action with
      | goto target payload =>
        simp only
        split_ifs <;> exact ⟨_, rfl⟩
      | call name => exact absurd haction (h t ht name)
      | stay | stop | unresolved => exact ⟨_, rfl⟩
    · exact ⟨_, rfl⟩
  obtain ⟨parts, hparts⟩ := exists_mapM_eq_ok hedge
  unfold ofClauses
  rw [hparts]
  exact ⟨_, rfl⟩

/-! ### Diagrams -/

namespace Mermaid

variable {s : Stream} {states : StateIndex} {sources : List String} {ts : List Transition} {g : Graph}
  {findings : List Finding}

lemma Layout.nodes_of_add {names : List (String × String)} {node : String}
    (hshown : isDrawn node = true → (shownName? names node).isSome = true) (l : Layout) :
    ∃ l', add names l node = .ok l' ∧
      l'.ids.map Prod.fst = l.ids.map Prod.fst ++ [node].filter isDrawn := by
  unfold add
  by_cases hown : node = Graph.entryNode ∨ node = Graph.stopNode
  · have hdrawn : isDrawn node = false := by
      rcases hown with rfl | rfl <;> rfl
    exact ⟨l, if_pos hown, by simp [hdrawn]⟩
  · have hdrawn : isDrawn node = true := by
      simpa [isDrawn, not_or] using hown
    rw [if_neg hown]
    by_cases hunknown : node = Graph.unknownNode
    · exact ⟨_, if_pos hunknown, by simp [addAlias, hdrawn]⟩
    · have hshown := hshown hdrawn
      simp only [shownName?, if_neg hunknown, Option.isSome_map] at hshown
      obtain ⟨x, hfind⟩ := Option.isSome_iff_exists.mp hshown
      rw [if_neg hunknown, hfind]
      refine ⟨_, rfl, ?_⟩
      split_ifs <;> simp [addAlias, addBare, hdrawn]

lemma Layout.nodes_of_foldlM {names : List (String × String)} {nodes : List String}
    (hshown : ∀ node ∈ nodes, isDrawn node = true → (shownName? names node).isSome = true)
    (l : Layout) : ∃ l', nodes.foldlM (add names) l = .ok l' ∧
      l'.ids.map Prod.fst = l.ids.map Prod.fst ++ nodes.filter isDrawn := by
  induction nodes generalizing l with
  | nil => exact ⟨l, rfl, by simp⟩
  | cons node nodes ih =>
    obtain ⟨l₁, hadd, h₁⟩ := nodes_of_add (hshown node List.mem_cons_self) l
    obtain ⟨l', hrest, h'⟩ := ih (fun n hn => hshown n (List.mem_cons_of_mem _ hn)) l₁
    refine ⟨l', ?_, ?_⟩
    · rw [List.foldlM_cons, hadd]
      exact hrest
    · rw [h', h₁, List.append_assoc, ← List.filter_append, List.singleton_append]

/-- An edge end is missing in a layout only if it is the entry or the stop node, on the wrong side of
the edge. -/
lemma Layout.endpoint_yields {l : Layout} {nodes : List String}
    (hl : l.ids.map Prod.fst = nodes.filter isDrawn) (mark : String) {node : String} (hnode : node ∈ nodes) :
    Yields (fun e => e = .unknownNode node ∧ node ≠ mark ∧
      (node = Graph.entryNode ∨ node = Graph.stopNode)) (l.endpoint mark node) fun _ => True := by
  unfold endpoint
  refine Yields.ite (fun _ => trivial) fun hmark => ?_
  cases hid : l.idOf? node with
  | some id => trivial
  | none =>
    refine ⟨rfl, hmark, ?_⟩
    by_contra hown
    have hdrawn : isDrawn node = true := by simpa [isDrawn, not_or] using hown
    have hmem : node ∈ l.ids.map Prod.fst := by
      rw [hl]
      exact List.mem_filter.mpr ⟨hnode, hdrawn⟩
    obtain ⟨x, hx, hx'⟩ := List.mem_map.mp hmem
    unfold idOf? at hid
    rw [Option.map_eq_none_iff, List.find?_eq_none] at hid
    exact hid x (List.mem_reverse.mpr hx) (by simpa using hx')

/-- What keeps the graph of these states from being drawn: a state with the name of the entry or the stop
node, or a reference that is too long. -/
inductive Undrawable (states : StateIndex) (g : Graph) : Error → Prop
  | ownNode {node : String} (h : node ∈ [Graph.entryNode, Graph.stopNode]) (hid : node ∈ states.ids) :
    Undrawable states g (.unknownNode node)
  | manyDigits {count : Nat} (h : HasOverlong g count) : Undrawable states g (.manyDigits count)

/-- The diagram of a graph is drawn, unless one of these keeps it from that. -/
theorem diagram_yields (h : Graph.ofClauses states sources ts = .ok (g, findings))
    (hids : states.ids.Nodup) (appearance : Appearance) :
    Yields (Undrawable states g) (diagram g appearance) fun _ => True := by
  obtain ⟨hnodes, -⟩ := Graph.nodes_of_ofClauses h
  obtain ⟨l, hl, hcovered⟩ := Layout.nodes_of_foldlM
    (fun node hnode hdrawn => shownName?_isSome (Graph.over_of_ofClauses h) hids hnode hdrawn)
    ⟨((shownNames g).map (·.2)).filter canBeId, [], []⟩
  have hstate : ∀ mark id, id ∈ states.ids →
      Yields (Undrawable states g) (l.endpoint mark id) fun _ => True := by
    intro mark id hid
    have hend := Layout.endpoint_yields hcovered mark (Graph.mem_nodes_of_mem_ids h hid)
    cases hx : l.endpoint mark id with
    | ok _ => trivial
    | error e =>
      rw [hx] at hend
      obtain ⟨rfl, -, hown⟩ := hend
      exact Undrawable.ownNode (by simpa using hown) hid
  unfold diagram
  refine Yields.ite (fun _ => trivial) fun _ => ?_
  have hlayout : Layout.ofGraph g = .ok l := hl
  refine Yields.bind_of_eq_ok hlayout ?_
  refine Yields.bind (P := fun _ => True) ?_ fun _ _ => ?_
  · rcases Layout.lines_cases hlayout with ⟨decls, hdecls⟩ | ⟨count, hcount, hlong⟩
    · rw [hdecls]
      trivial
    · rw [hcount]
      exact Undrawable.manyDigits (.inl hlong)
  refine Yields.bind (P := fun _ => True) ?_ fun _ _ => trivial
  refine (Yields.mapM (Q := fun _ _ => True) fun e he => ?_).imp fun _ _ => trivial
  have hwritten : ∀ source target,
      Yields (Undrawable states g) (edgeLine source target e.label) fun _ => True := by
    intro source target
    cases hline : edgeLine source target e.label with
    | ok line => trivial
    | error fault =>
      obtain ⟨count, rfl, hlong⟩ := overlong_of_edgeLine hline
      exact Undrawable.manyDigits (.inr ⟨e, he, hlong⟩)
  unfold Layout.edge
  rcases Graph.ends_of_mem_edges h he with ⟨hentry, htarget⟩ | ⟨hsource, htarget⟩
  · rw [show l.endpoint Graph.entryNode e.source = .ok "[*]" from if_pos hentry]
    exact (hstate _ _ htarget).bind fun _ _ => hwritten _ _
  · refine (hstate _ _ hsource).bind fun _ _ => ?_
    refine Yields.bind (P := fun _ => True) ?_ fun _ _ => hwritten _ _
    rcases htarget with hid | hstop | ⟨hunknown, hhas⟩
    · exact hstate _ _ hid
    · rw [show l.endpoint Graph.stopNode e.target = .ok "[*]" from if_pos hstop]
      trivial
    · have hmem' : e.target ∈ g.nodes := by
        rw [hnodes, if_pos hhas, hunknown]
        simp
      have hend := Layout.endpoint_yields hcovered Graph.stopNode hmem'
      cases hx : l.endpoint Graph.stopNode e.target with
      | ok _ => trivial
      | error e' =>
        rw [hx, hunknown] at hend
        exact absurd hend.2.2 (by decide)

end Mermaid

/-! ### Whole runs -/

/-- Failures that a drawing may end with: the text is at fault, it has an identifier in back quotes that
is empty or is spelled like the entry or the stop node, or its graph has a name or a label with a reference
that is too long. -/
inductive Drawing.Fault (text : String) : Error → Prop
  | source (cause : Cause) (line column : Option Int) : Fault text (.source cause line column)
  | emptyIdentifier (h : Lexeme.QuotedIn text.toList []) : Fault text .emptyIdentifier
  | ownNode {node : String} (h : node ∈ [Graph.entryNode, Graph.stopNode])
      (hquoted : Lexeme.QuotedIn text.toList node.toList) : Fault text (.unknownNode node)
  | manyDigits {s : Stream} {m : Model} {count : Nat} (hs : Stream.ofText text = .ok s)
      (hm : Model.ofStream s = .ok m) (hlong : Mermaid.HasOverlong m.graph count) :
    Fault text (.manyDigits count)

lemma Drawing.Fault.of_stream {text : String} {s : Stream} (hs : Stream.ofText text = .ok s) {e : Error}
    (h : s.Fault e) : Drawing.Fault text e := by
  cases e with
  | source cause line column => exact .source cause line column
  | emptyIdentifier =>
    have hword : s.HasWord "" := h
    exact .emptyIdentifier ((hword.spelling hs).resolve_left (by decide))
  | noToken | helperCallLeft | unknownNode | manyDigits => exact absurd h id

/-- A drawing is made of a text, or it fails in one of these ways. -/
theorem Drawing.ofText_yields (text : String) (settings : Settings) :
    Yields (Fault text) (ofText text settings) fun _ => True := by
  unfold ofText
  have hstream : Yields (Fault text) (Stream.ofText text) fun s => Stream.ofText text = .ok s ∧ s.Nested := by
    unfold Stream.ofText
    cases hscan : Lexeme.ofText text with
    | error e =>
      have hfault := Lexeme.scan_yields text.toList.length .start text.toList
      rw [show Lexeme.scan text.toList.length .start text.toList = .error e from hscan] at hfault
      obtain ⟨cause, line, column, rfl⟩ := hfault
      exact .source cause line column
    | ok ts => exact ⟨rfl, Stream.nested_ofLexemes ts⟩
  refine hstream.bind fun s ⟨hs, hnested⟩ => ?_
  have hweaken : ∀ {α : Type} {x : Except Error α} {P : α → Prop}, Yields s.Fault x P →
      Yields (Fault text) x P := fun h => h.weaken fun e he => Fault.of_stream hs he
  have hmodel : Yields (Fault text) (Model.ofStream s) fun m => ∃ states sources ts findings,
      StateIndex.ofStream s = .ok states ∧
        Graph.ofClauses states sources ts = .ok (m.graph, findings) := by
    unfold Model.ofStream
    cases hstates : StateIndex.ofStream s with
    | error e =>
      have hfault := hnested.stateIndex
      rw [hstates] at hfault
      exact Fault.of_stream hs hfault
    | ok states =>
      refine Yields.bind_of_eq_ok rfl ?_
      refine Yields.bind (P := fun _ => True) (hweaken ((hnested.blocks states).imp fun _ _ => trivial))
        fun ⟨blocks, clauseFindings⟩ _ => ?_
      refine Yields.bind (P := fun _ => True) ?_ fun _ _ => ?_
      · unfold Model.checkFound
        exact Yields.ite (fun _ => .source _ _ _) fun _ => trivial
      refine (hweaken (hnested.helpers states)).bind fun helpers _ => ?_
      obtain ⟨⟨g, findings⟩, hg⟩ := Graph.exists_ofClauses states blocks.sources
        fun t ht => blocks.action_of_followHelpers helpers ht
      refine Yields.bind_of_eq_ok hg ?_
      exact ⟨states, blocks.sources, _, findings, rfl, hg⟩
  refine hmodel.bind_eq fun m hm ⟨states, sources, ts, findings, hstates, hg⟩ => ?_
  refine Yields.bind (P := fun _ => True) ?_ fun _ _ => ?_
  · unfold checkIssues
    split
    · trivial
    · exact .source _ _ _
  refine Yields.bind (P := fun _ => True) ?_ fun _ _ => trivial
  refine (Mermaid.diagram_yields hg (StateIndex.namedIn_of_ofStream hstates).2 _).weaken ?_
  rintro _ (⟨hnode, hid⟩ | hlong)
  · refine .ownNode hnode (Graph.quotedIn_of_mem_ownNodes hs hstates ?_ hid)
    simp only [List.mem_cons, List.not_mem_nil, or_false] at hnode
    rcases hnode with rfl | rfl <;> simp [Graph.ownNodes]
  · exact .manyDigits hs hm hlong

/-! ### Balance -/

/-- The reader followed a bracket that is not closed, or asked for a token beyond the end. -/
def Error.IsStray : Error → Prop
  | .source .unclosedBracket _ _ => True
  | .noToken => True
  | _ => False

lemma Stream.Fault.not_isStray {s : Stream} {e : Error} (h : s.Fault e) (hbalance : s.problems = []) :
    ¬ e.IsStray := by
  intro hstray
  cases e with
  | source cause line column =>
    cases cause with
    | unclosedBracket => exact h hbalance
    | _ => exact hstray
  | noToken => exact h
  | _ => exact hstray

lemma Yields.not_isStray {α : Type} {s : Stream} {x : Except Error α} {P : α → Prop}
    (h : Yields s.Fault x P) (hbalance : s.problems = []) {e : Error} (hx : x = .error e) :
    ¬ e.IsStray := by
  subst hx
  exact Stream.Fault.not_isStray h hbalance

/-- Balance is settled by the tokens alone. A drawing is only made of balanced brackets; where they
balance, every opening bracket has a partner after it, and no reader of states, blocks or helpers
follows a bracket without one or asks for a token that is not there. -/
theorem Stream.balance_settled {text : String} {s : Stream} (hs : Stream.ofText text = .ok s) :
    (∀ settings d, Drawing.ofText text settings = .ok d → s.problems = []) ∧
    (s.problems = [] →
      (∀ i t, s.get? i = some t → t.word.isOpening = true →
        ∃ c, s.closer i = .ok c ∧ i < c ∧ c < s.size) ∧
      (∀ e, StateIndex.ofStream s = .error e → ¬ e.IsStray) ∧
      (∀ states e, Blocks.ofStream s states = .error e → ¬ e.IsStray) ∧
      ∀ states e, Helper.ofStream s states = .error e → ¬ e.IsStray) := by
  have hnested : s.Nested := by
    obtain ⟨ts, -, rfl⟩ := map_eq_ok_iff.mp hs
    exact Stream.nested_ofLexemes ts
  constructor
  · intro settings d hd
    obtain ⟨r, -, -⟩ := Drawing.exists_stages hd
    obtain rfl : r.stream = s := Except.ok.inj (r.stream_eq.symm.trans hs)
    have hblocks := hnested.blocks r.states
    rw [r.blocks_eq] at hblocks
    exact hblocks
  · intro hbalance
    refine ⟨?_, fun e he => hnested.stateIndex.not_isStray hbalance he,
      fun states e he => (hnested.blocks states).not_isStray hbalance he,
      fun states e he => (hnested.helpers states).not_isStray hbalance he⟩
    intro i t ht hopening
    obtain ⟨c, hc⟩ := hnested.exists_closer hbalance ht hopening
    exact ⟨c, hc, hnested.lt_closer hc⟩

/-- Blocks, a helper and a reference to any of two states; all brackets are closed. -/
def twinStates : String :=
  "object G\x7bcase object A;case object B\x7dobject H\x7bcase object A\x7d" ++
    "def f(x:Int)=\x7bgoto(B)\x7dwhen(B)\x7bcase K(x)=>f(x)case L=>goto(A)\x7d"

lemma twinStates_run : (Stream.ofText twinStates >>= fun s => (StateIndex.ofStream s).map fun states =>
    (s.problems, (s.get? 2).map (·.word.isOpening), match Blocks.ofStream s states with
      | .ok _ => none
      | .error e => some e)) =
    .ok ([], some true,
      some (.source (.ambiguousReference "A" ["G.A", "H.A"]) (some 1) (some 119))) := by
  decide +kernel

lemma quotedBlock_drawn : (Drawing.ofText quotedBlock {}).isOk = true := by decide +kernel

theorem Stream.balance_settled_twinStates :
    (∃ s, Stream.ofText quotedBlock = .ok s ∧ s.problems = []) ∧
    ∃ s states line column, Stream.ofText twinStates = .ok s ∧ StateIndex.ofStream s = .ok states ∧
      (∃ c, s.closer 2 = .ok c ∧ 2 < c ∧ c < s.size) ∧
      Blocks.ofStream s states = .error (.source (.ambiguousReference "A" ["G.A", "H.A"]) line column) ∧
      ¬ (Error.source (.ambiguousReference "A" ["G.A", "H.A"]) line column).IsStray := by
  constructor
  · have hrun := quotedBlock_drawn
    cases hd : Drawing.ofText quotedBlock {} with
    | error e => simp [hd, Except.isOk, Except.toBool] at hrun
    | ok d =>
      obtain ⟨r, -, -⟩ := Drawing.exists_stages hd
      exact ⟨r.stream, r.stream_eq, (Stream.balance_settled r.stream_eq).1 {} d hd⟩
  · obtain ⟨s, hs, hrun⟩ := bind_eq_ok_iff.mp twinStates_run
    obtain ⟨states, hstates, hrun⟩ := map_eq_ok_iff.mp hrun
    obtain ⟨hbalance, hopening, hfault⟩ : _ ∧ _ ∧ _ := by simpa only [Prod.mk.injEq] using hrun
    obtain ⟨hclosers, -, hblocks, -⟩ := (Stream.balance_settled hs).2 hbalance
    obtain ⟨t, ht, hopening⟩ := Option.map_eq_some_iff.mp hopening
    cases hread : Blocks.ofStream s states with
    | ok blocks => simp [hread] at hfault
    | error e =>
      simp only [hread, Option.some.injEq] at hfault
      subst e
      exact ⟨s, states, _, _, hs, hstates, hclosers 2 t ht hopening, hread, hblocks states _ hread⟩

lemma Diagnosis.prefix_message (d : Diagnosis) : "Parse error: ".toList <+: d.message.toList := by
  unfold message
  simp only [String.append_assoc, String.toList_append]
  exact List.prefix_append _ _

/-- Every text is answered, unless an identifier in back quotes is empty, or is spelled like the entry
or the stop node, or a name or a label in the graph has a reference that is too long. An answer that tells
of a fault has no markup, and its message starts with the words for it. -/
theorem Report.answers (text : String) (settings : Settings) :
    (∃ r, ofText text settings = .ok r ∧ ∀ message, r.fault? = some message →
      r.markup = "" ∧ "Parse error: ".toList <+: message.toList) ∨
    (ofText text settings = .error .emptyIdentifier ∧ Lexeme.QuotedIn text.toList []) ∨
    (∃ node ∈ [Graph.entryNode, Graph.stopNode], ofText text settings = .error (.unknownNode node) ∧
      Lexeme.QuotedIn text.toList node.toList) ∨
    ∃ s m count, Stream.ofText text = .ok s ∧ Model.ofStream s = .ok m ∧
      ofText text settings = .error (.manyDigits count) ∧ Mermaid.HasOverlong m.graph count := by
  unfold ofText
  by_cases hblank : Text.allBlank text.toList = true
  · exact .inl ⟨.empty, if_pos hblank, by simp [fault?]⟩
  · rw [if_neg hblank]
    have hrun := Drawing.ofText_yields text settings
    cases hdrawing : Drawing.ofText text settings with
    | ok drawing => exact .inl ⟨_, rfl, by simp [fault?]⟩
    | error e =>
      rw [hdrawing] at hrun
      cases hrun with
      | source cause line column =>
        refine .inl ⟨_, rfl, ?_⟩
        intro message hmessage
        cases hmessage
        exact ⟨rfl, Diagnosis.prefix_message _⟩
      | emptyIdentifier hquoted => exact .inr (.inl ⟨rfl, hquoted⟩)
      | ownNode hnode hquoted => exact .inr (.inr (.inl ⟨_, hnode, rfl, hquoted⟩))
      | manyDigits hs hm hlong => exact .inr (.inr (.inr ⟨_, _, _, hs, hm, rfl, hlong⟩))

/-- An arm whose pattern is an empty identifier in back quotes. -/
def unnamedArm : String := "case object A when(A)\x7bcase ``=>stay()\x7d"

/-- The empty identifier has no first letter, and no answer is given. -/
theorem Report.unnamedArm_unanswered : ofText unnamedArm {} = .error .emptyIdentifier := by
  have hrun : (match ofText unnamedArm {} with
      | .ok _ => none
      | .error e => some e) = some .emptyIdentifier := by decide +kernel
  cases h : ofText unnamedArm {} with
  | ok r => simp [h] at hrun
  | error e =>
    rw [h] at hrun
    cases hrun
    rfl

end ActorDiagram
