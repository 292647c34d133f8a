import Mathlib
import ActorDiagram.Proofs.Stages

/-!
# No silent loss

Every arm of a transition block leaves a trace in the drawing: an edge of its state under its event,
or an issue at its line. Every clause with helpers followed becomes one edge or one issue, in order.
-/

namespace ActorDiagram

/-! ### From an arm to its clauses -/

lemma Branch.labelled_eq_append (event : String) (fanOut : Bool) (b : Branch) :
    ∃ rest, b.labelled event fanOut = event ++ rest := by
  unfold Branch.labelled
  split
  · rename_i label _
    by_cases h : fanOut = true
    · exact ⟨"/" ++ label, by rw [if_pos h, String.append_assoc]⟩
    · exact ⟨"", by rw [if_neg h, String.append_empty]⟩
  · exact ⟨"", by rw [String.append_empty]⟩

/-- A clause of this block source and line whose event starts with this event. -/
def Clause.StemsFrom (c : Clause) (source event : String) (line : Int) : Prop :=
  c.source = source ∧ c.line = line ∧ ∃ rest, c.event = event ++ rest

/-- An arm gives a clause for each outcome of its body, or a finding if there is none. -/
theorem Blocks.ofArm_cases {s : Stream} {states : StateIndex} {head : Blocks.BlockHead} {a : Arm}
    {cs : List Clause} {fs : List Finding} (h : Blocks.ofArm s states head a = .ok (cs, fs)) :
    ∃ event first names bs, Pattern.event s (a.start + 1) a.arrow = .ok event ∧
      s.get? a.start = some first ∧ Pattern.boundNames s (a.start + 1) a.arrow = .ok names ∧
      Body.branches s states (a.arrow + 1) a.stop names = .ok bs ∧
      (bs = [] ∧ cs = [] ∧ fs = [Blocks.noAction head event first.line] ∨
        bs ≠ [] ∧ fs = [] ∧ cs = bs.map fun b =>
          ⟨head.source, b.labelled event (1 < bs.length), b.action, first.line⟩) := by
  unfold Blocks.ofArm at h
  obtain ⟨event, hevent, h⟩ := bind_eq_ok_iff.mp h
  obtain ⟨first, hfirst, h⟩ := bind_eq_ok_iff.mp h
  obtain ⟨names, hnames, h⟩ := bind_eq_ok_iff.mp h
  obtain ⟨bs, hbs, h⟩ := bind_eq_ok_iff.mp h
  refine ⟨event, first, names, bs, hevent, Stream.token_eq_ok_iff.mp hfirst, hnames, hbs, ?_⟩
  split at h
  · rename_i hempty
    cases h
    exact .inl ⟨List.isEmpty_iff.mp hempty, rfl, rfl⟩
  · rename_i hbranches
    cases h
    exact .inr ⟨by simpa using hbranches, rfl, rfl⟩

theorem Blocks.ofArm_eq_ok {s : Stream} {states : StateIndex} {head : Blocks.BlockHead} {a : Arm}
    {cs : List Clause} {fs : List Finding} (h : Blocks.ofArm s states head a = .ok (cs, fs)) :
    ∃ event first, Pattern.event s (a.start + 1) a.arrow = .ok event ∧
      s.get? a.start = some first ∧
      ((∃ c ∈ cs, c.StemsFrom head.source event first.line) ∨
        ∃ f ∈ fs, f.line = some (first.line : Int)) := by
  obtain ⟨event, first, names, bs, hevent, hfirst, -, -, hgives⟩ := Blocks.ofArm_cases h
  refine ⟨event, first, hevent, hfirst, ?_⟩
  rcases hgives with ⟨-, -, rfl⟩ | ⟨hne, -, rfl⟩
  · exact .inr ⟨_, List.mem_singleton_self _, rfl⟩
  · obtain ⟨b, hb⟩ := List.exists_mem_of_ne_nil bs hne
    exact .inl ⟨_, List.mem_map_of_mem hb, rfl, rfl, b.labelled_eq_append event _⟩

/-- An arm of a transition block gives these clauses and findings. -/
structure Blocks.ArmGives (s : Stream) (states : StateIndex) (head : Blocks.BlockHead) (a : Arm)
    (cs : List Clause) (fs : List Finding) : Prop where
  starts : ∃ i, Blocks.blockHead? s states i = .ok (some head)
  arm : ∃ arms, Arm.ofBlock s head.brace = .ok arms ∧ a ∈ arms
  gives : Blocks.ofArm s states head a = .ok (cs, fs)

/-- All clauses and findings of a stream are given by arms. -/
theorem Blocks.exists_armGives {s : Stream} {states : StateIndex} {blocks : Blocks}
    {findings : List Finding} (h : Blocks.ofStream s states = .ok (blocks, findings)) :
    (∀ c ∈ blocks.clauses, ∃ head a cs fs, Blocks.ArmGives s states head a cs fs ∧ c ∈ cs) ∧
      ∀ f ∈ findings, ∃ head a cs fs, Blocks.ArmGives s states head a cs fs ∧ f ∈ fs := by
  unfold Blocks.ofStream at h
  obtain ⟨_, _, h⟩ := bind_eq_ok_iff.mp h
  obtain ⟨parts, hparts, h⟩ := bind_eq_ok_iff.mp h
  cases h
  have hpart : ∀ part ∈ parts,
      (∀ c ∈ part.1.clauses, ∃ head a cs fs, Blocks.ArmGives s states head a cs fs ∧ c ∈ cs) ∧
        ∀ f ∈ part.2, ∃ head a cs fs, Blocks.ArmGives s states head a cs fs ∧ f ∈ fs := by
    intro part hpart
    obtain ⟨i, _, hat⟩ := exists_of_mem_left (forall₂_of_mapM_eq_ok hparts).flip hpart
    unfold Blocks.blockAt at hat
    obtain ⟨head, hhead, hat⟩ := bind_eq_ok_iff.mp hat
    cases head with
    | none =>
      cases hat
      simp
    | some head =>
      change Blocks.ofBlock s states head = .ok part at hat
      unfold Blocks.ofBlock at hat
      obtain ⟨arms, harms, hat⟩ := bind_eq_ok_iff.mp hat
      obtain ⟨armParts, harmParts, hat⟩ := bind_eq_ok_iff.mp hat
      cases hat
      have harm : ∀ x ∈ armParts, ∃ a, Blocks.ArmGives s states head a x.1 x.2 := by
        intro x hx
        obtain ⟨a, ha, harm⟩ := exists_of_mem_left (forall₂_of_mapM_eq_ok harmParts).flip hx
        exact ⟨a, ⟨i, hhead⟩, ⟨arms, harms, ha⟩, harm⟩
      constructor
      · intro c hc
        obtain ⟨x, hx, hc⟩ := List.mem_flatMap.mp hc
        obtain ⟨a, ha⟩ := harm x hx
        exact ⟨head, a, x.1, x.2, ha, hc⟩
      · intro f hf
        obtain ⟨x, hx, hf⟩ := List.mem_flatMap.mp hf
        obtain ⟨a, ha⟩ := harm x hx
        exact ⟨head, a, x.1, x.2, ha, hf⟩
  constructor
  · intro c hc
    obtain ⟨part, hmem, hc⟩ := List.mem_flatMap.mp hc
    exact (hpart part hmem).1 c hc
  · intro f hf
    obtain ⟨part, hmem, hf⟩ := List.mem_flatMap.mp hf
    exact (hpart part hmem).2 f hf

/-- A recognised block hands the clauses and findings of its arms on. -/
theorem Blocks.exists_arms {s : Stream} {states : StateIndex} {blocks : Blocks}
    {findings : List Finding} (h : Blocks.ofStream s states = .ok (blocks, findings)) {i : Nat}
    {head : Blocks.BlockHead} (hi : Blocks.blockHead? s states i = .ok (some head)) :
    ∃ arms, Arm.ofBlock s head.brace = .ok arms ∧ ∀ a ∈ arms, ∃ cs fs,
      Blocks.ofArm s states head a = .ok (cs, fs) ∧ cs ⊆ blocks.clauses ∧ fs ⊆ findings := by
  unfold Blocks.ofStream at h
  obtain ⟨_, _, h⟩ := bind_eq_ok_iff.mp h
  obtain ⟨parts, hparts, h⟩ := bind_eq_ok_iff.mp h
  cases h
  have hsize : i < s.size := by
    unfold Blocks.blockHead? at hi
    obtain ⟨word, hword, _⟩ := bind_eq_ok_iff.mp hi
    exact Stream.lt_of_get? (Stream.token_eq_ok_iff.mp hword)
  obtain ⟨part, hpart, hat⟩ :=
    exists_of_mem_left (forall₂_of_mapM_eq_ok hparts) (List.mem_range.mpr hsize)
  unfold Blocks.blockAt at hat
  rw [hi] at hat
  change Blocks.ofBlock s states head = .ok part at hat
  unfold Blocks.ofBlock at hat
  obtain ⟨arms, harms, hat⟩ := bind_eq_ok_iff.mp hat
  obtain ⟨armParts, harmParts, hat⟩ := bind_eq_ok_iff.mp hat
  cases hat
  refine ⟨arms, harms, ?_⟩
  intro a ha
  obtain ⟨⟨cs, fs⟩, hmem, harm⟩ := exists_of_mem_left (forall₂_of_mapM_eq_ok harmParts) ha
  refine ⟨cs, fs, harm, ?_, ?_⟩
  · intro c hc
    exact List.mem_flatMap.mpr ⟨_, hpart, List.mem_flatMap.mpr ⟨_, hmem, hc⟩⟩
  · intro f hf
    exact List.mem_flatMap.mpr ⟨_, hpart, List.mem_flatMap.mpr ⟨_, hmem, hf⟩⟩

/-! ### From a clause to its transitions -/

/-- A branch that calls another helper leads nowhere, and any other is taken as it is. -/
lemma Clause.takeBranch_cases (c : Clause) (f : Helper) (b : Branch) :
    (∃ callee, b.action = .call callee ∧ c.takeBranch f b =
      (⟨c.source, b.labelled c.event (1 < f.branches.length), .unresolved callee, c.line⟩,
        [c.nestedFinding f.name callee])) ∨
    ((∀ callee, b.action ≠ .call callee) ∧ c.takeBranch f b =
      (⟨c.source, b.labelled c.event (1 < f.branches.length), b.action, c.line⟩, [])) := by
  unfold takeBranch
  cases haction : b.action with
  | call callee => exact .inl ⟨callee, rfl, rfl⟩
  | goto | stay | stop | unresolved => exact .inr ⟨fun callee h => (by cases h), rfl⟩

/-- All that a clause may give way to: itself, one call that leads nowhere, or the branches of its
helper. -/
lemma Clause.expand_cases (helpers : List Helper) (c : Clause) :
    ((∀ name, c.action ≠ .call name) ∧
      c.expand helpers = [(⟨c.source, c.event, c.action, c.line⟩, [])]) ∨
    ∃ name, c.action = .call name ∧
      ((∃ reason, (∀ f, helpers.find? (·.name == name) = some f → f.branches = []) ∧ c.expand helpers =
          [(⟨c.source, c.event, .unresolved name, c.line⟩, [c.unresolvedFinding name reason])]) ∨
        ∃ f, helpers.find? (·.name == name) = some f ∧ f.branches ≠ [] ∧
          c.expand helpers = f.branches.map (c.takeBranch f)) := by
  unfold expand
  cases haction : c.action with
  | call name =>
    refine .inr ⟨name, rfl, ?_⟩
    simp only [expandCall]
    cases hfind : helpers.find? (·.name == name) with
    | none => exact .inl ⟨_, fun f hf => (by cases hf), rfl⟩
    | some f =>
      by_cases hempty : f.branches.isEmpty = true
      · refine .inl ⟨_, fun f' hf' => ?_, if_pos hempty⟩
        cases hf'
        exact List.isEmpty_iff.mp hempty
      · exact .inr ⟨f, rfl, by simpa using hempty, if_neg hempty⟩
  | goto | stay | stop | unresolved => exact .inl ⟨fun name h => (by cases h), rfl⟩

/-- Following a helper keeps the source and the line, and only adds to the event. -/
theorem Clause.exists_mem_expand (helpers : List Helper) (c : Clause) :
    ∃ part ∈ c.expand helpers, part.1.source = c.source ∧ part.1.line = c.line ∧
      ∃ rest, part.1.label = c.event ++ rest := by
  have hsame : ∃ rest, c.event = c.event ++ rest := ⟨"", String.append_empty.symm⟩
  rcases c.expand_cases helpers with ⟨-, h⟩ | ⟨name, -, ⟨reason, -, h⟩ | ⟨f, -, hne, h⟩⟩ <;> rw [h]
  · exact ⟨_, List.mem_singleton_self _, rfl, rfl, hsame⟩
  · exact ⟨_, List.mem_singleton_self _, rfl, rfl, hsame⟩
  · obtain ⟨b, hb⟩ := List.exists_mem_of_ne_nil f.branches hne
    refine ⟨_, List.mem_map_of_mem hb, ?_⟩
    have hlabel := b.labelled_eq_append c.event (1 < f.branches.length)
    rcases c.takeBranch_cases f b with ⟨callee, -, htaken⟩ | ⟨-, htaken⟩ <;> rw [htaken] <;>
      exact ⟨rfl, rfl, hlabel⟩

theorem Blocks.exists_mem_followHelpers (blocks : Blocks) (helpers : List Helper) {c : Clause}
    {source event : String} {line : Int} (hc : c ∈ blocks.clauses)
    (hs : c.StemsFrom source event line) :
    ∃ t ∈ (blocks.followHelpers helpers).1, t.source = source ∧ t.line = line ∧
      ∃ rest, t.label = event ++ rest := by
  obtain ⟨hsource, hline, rest, hevent⟩ := hs
  obtain ⟨part, hpart, hsource', hline', rest', hlabel⟩ := c.exists_mem_expand helpers
  refine ⟨part.1, ?_, by rw [hsource', hsource], by rw [hline', hline], rest ++ rest', ?_⟩
  · exact List.mem_map_of_mem (List.mem_flatMap.mpr ⟨c, hc, hpart⟩)
  · rw [hlabel, hevent, String.append_assoc]

/-! ### From a transition to its edge or issue -/

/-- The edge that a clause is drawn as. -/
def Transition.DrawnAs (t : Transition) (e : Edge) : Prop :=
  e.source = t.source ∧ match t.action with
    | .goto target _ => e.target = target ∧ e.label = t.label
    | .stay _ => e.target = t.source ∧ e.label = t.label
    | .stop failure _ => e.target = Graph.stopNode ∧ e.label = Graph.endLabel t.label failure
    | .unresolved _ => e.target = Graph.unknownNode ∧ e.label = t.label
    | .call _ => False

/-- The finding that reports an undeclared state of a clause. -/
def Transition.ReportedAs (t : Transition) (states : StateIndex) (f : Finding) : Prop :=
  f.line = some t.line ∧
    ((f.code = Finding.unknownSource ∧ states.contains t.source = false) ∨
      (f.code = Finding.unknownTarget ∧ ∃ target payload, t.action = .goto target payload ∧
        states.contains target = false))

/-- One edge or one finding for a clause. -/
def Transition.SettledBy (states : StateIndex) (t : Transition) : Edge ⊕ Finding → Prop
  | .inl e => t.DrawnAs e
  | .inr f => t.ReportedAs states f

theorem Graph.settledBy_of_edgeOf {states : StateIndex} {t : Transition} {part : Edge ⊕ Finding}
    (h : Graph.edgeOf states t = .ok part) : t.SettledBy states part := by
  unfold Graph.edgeOf at h
  by_cases hsource : states.contains t.source = true
  · rw [if_pos hsource] at h
    cases haction : t.action with
    | goto target payload =>
      simp only [haction] at h
      by_cases htarget : states.contains target = true
      · rw [if_pos htarget] at h
        cases h
        simp [Transition.SettledBy, Transition.DrawnAs, haction]
      · rw [if_neg htarget] at h
        cases h
        exact ⟨rfl, .inr ⟨rfl, target, payload, haction, by simpa using htarget⟩⟩
    | call name => simp [haction] at h
    | stay payload | stop failure reason | unresolved name =>
      simp only [haction] at h
      cases h
      simp [Transition.SettledBy, Transition.DrawnAs, haction]
  · rw [if_neg hsource] at h
    cases h
    exact ⟨rfl, .inl ⟨rfl, by simpa using hsource⟩⟩

theorem Graph.ofClauses_eq_ok {states : StateIndex} {sources : List String}
    {ts : List Transition} {g : Graph} {findings : List Finding}
    (h : Graph.ofClauses states sources ts = .ok (g, findings)) :
    ∃ parts, List.Forall₂ (Transition.SettledBy states) ts parts ∧
      g.edges = Graph.entryEdges g.initial ++ parts.filterMap Sum.getLeft? ∧
      findings = parts.filterMap Sum.getRight? := by
  unfold Graph.ofClauses at h
  obtain ⟨parts, hparts, h⟩ := bind_eq_ok_iff.mp h
  cases h
  refine ⟨parts, ?_, rfl, rfl⟩
  exact (forall₂_of_mapM_eq_ok hparts).imp fun t part hpart => Graph.settledBy_of_edgeOf hpart

lemma Graph.endLabel_eq_append (label : String) (failure : Bool) :
    ∃ rest, Graph.endLabel label failure = label ++ rest := by
  unfold Graph.endLabel
  by_cases h : label.isEmpty = true
  · have hempty : label = "" := by simpa using h
    exact ⟨if failure then "stop: failure" else "stop", by simp [hempty]⟩
  · simp only [if_neg h]
    exact ⟨" (" ++ (if failure then "stop: failure" else "stop") ++ ")",
      by simp only [String.append_assoc]⟩

lemma Transition.DrawnAs.label_eq_append {t : Transition} {e : Edge} (h : t.DrawnAs e) :
    ∃ rest, e.label = t.label ++ rest := by
  obtain ⟨_, h⟩ := h
  have hsame : ∃ rest, t.label = t.label ++ rest := ⟨"", String.append_empty.symm⟩
  cases haction : t.action with
  | stop failure reason =>
    rw [haction] at h
    rw [h.2]
    exact Graph.endLabel_eq_append t.label failure
  | call name =>
    rw [haction] at h
    exact h.elim
  | goto _ _ | stay _ | unresolved _ =>
    rw [haction] at h
    rw [h.2]
    exact hsame

/-! ### Findings and issues -/

/-- Rules that drop nothing and treat nothing as an error keep every finding as a warning. -/
lemma IssueRules.apply_of_empty {rules : IssueRules} (hi : rules.ignore = [])
    (he : rules.escalate = []) (fs : List Finding) :
    rules.apply fs = fs.map fun f => ⟨f, .warning⟩ := by
  unfold IssueRules.apply
  have hissue : rules.issue? = fun f => some ⟨f, .warning⟩ := by
    funext f
    simp [IssueRules.issue?, hi, he]
  rw [hissue, List.filterMap_eq_map']

/-- A finding about an undeclared state of a clause. -/
def Finding.isAboutState (f : Finding) : Bool :=
  f.code == Finding.unknownSource || f.code == Finding.unknownTarget

theorem Blocks.ofStream_findings {s : Stream} {states : StateIndex} {blocks : Blocks}
    {findings : List Finding} (h : Blocks.ofStream s states = .ok (blocks, findings)) :
    ∀ f ∈ findings, f.code = Finding.clauseNoAction := by
  intro f hf
  obtain ⟨head, a, cs, fs, harm, hf⟩ := (Blocks.exists_armGives h).2 f hf
  obtain ⟨event, first, names, bs, -, -, -, -, ⟨-, -, rfl⟩ | ⟨-, rfl, -⟩⟩ := Blocks.ofArm_cases harm.gives
  · rw [List.mem_singleton.mp hf]
    rfl
  · cases hf

theorem Blocks.followHelpers_findings (blocks : Blocks) (helpers : List Helper) :
    ∀ f ∈ (blocks.followHelpers helpers).2, f.code = Finding.unresolvedCall := by
  intro f hf
  obtain ⟨part, hpart, hf⟩ := List.mem_flatMap.mp hf
  obtain ⟨c, _, hpart⟩ := List.mem_flatMap.mp hpart
  rcases c.expand_cases helpers with ⟨-, h⟩ | ⟨name, -, ⟨reason, -, h⟩ | ⟨helper, -, -, h⟩⟩ <;>
    rw [h] at hpart
  · rw [List.mem_singleton.mp hpart] at hf
    cases hf
  · rw [List.mem_singleton.mp hpart] at hf
    rw [List.mem_singleton.mp hf]
    rfl
  · obtain ⟨b, _, rfl⟩ := List.mem_map.mp hpart
    rcases c.takeBranch_cases helper b with ⟨callee, -, htaken⟩ | ⟨-, htaken⟩ <;> rw [htaken] at hf
    · rw [List.mem_singleton.mp hf]
      rfl
    · cases hf

/-! ### The whole run -/

namespace Stages

variable {text : String}

/-- Every arm of every recognised block leaves an edge of the block's state under the arm's event,
or an issue at its line. -/
def ArmsTraced (r : Stages text) (d : Drawing) : Prop :=
  ∀ i head, Blocks.blockHead? r.stream r.states i = .ok (some head) →
    ∃ arms, Arm.ofBlock r.stream head.brace = .ok arms ∧ ∀ a ∈ arms, ∃ event first,
      Pattern.event r.stream (a.start + 1) a.arrow = .ok event ∧
      r.stream.get? a.start = some first ∧
      ((∃ e ∈ d.graph.edges, e.source = head.source ∧ ∃ rest, e.label = event ++ rest) ∨
        ∃ issue ∈ d.issues, issue.line = some (first.line : Int))

/-- The clauses with helpers followed become, one by one and in order, the edges after the one from
the entry and the issues about undeclared states. -/
def ClausesSettled (r : Stages text) (d : Drawing) : Prop :=
  ∃ parts, List.Forall₂ (Transition.SettledBy r.states) r.transitions parts ∧
    d.graph.edges = Graph.entryEdges d.graph.initial ++ parts.filterMap Sum.getLeft? ∧
    d.issues.filter (·.isAboutState) =
      (parts.filterMap Sum.getRight?).map fun f => ⟨f, .warning⟩

end Stages

lemma filter_isAboutState_of_code {fs : List Finding} {code : String}
    (h : ∀ f ∈ fs, f.code = code) (hcode : code ≠ Finding.unknownSource)
    (hcode' : code ≠ Finding.unknownTarget) : fs.filter Finding.isAboutState = [] := by
  rw [List.filter_eq_nil_iff]
  intro f hf
  simp [Finding.isAboutState, h f hf, hcode, hcode']

lemma filter_isAboutState_of_settled {states : StateIndex} {ts : List Transition}
    {parts : List (Edge ⊕ Finding)} (h : List.Forall₂ (Transition.SettledBy states) ts parts) :
    (parts.filterMap Sum.getRight?).filter Finding.isAboutState =
      parts.filterMap Sum.getRight? := by
  rw [List.filter_eq_self]
  intro f hf
  obtain ⟨part, hpart, hf⟩ := List.mem_filterMap.mp hf
  obtain ⟨t, _, ht⟩ := exists_of_mem_left h.flip hpart
  cases part with
  | inl e => simp at hf
  | inr f' =>
    simp only [Sum.getRight?_inr, Option.some.injEq] at hf
    subst f'
    rcases ht.2 with ⟨hcode, _⟩ | ⟨hcode, _⟩ <;> simp [Finding.isAboutState, hcode]

/-- A run whose rules drop nothing and treat nothing as an error accounts for all it reads: for
every arm of a block, and for every clause with helpers followed. -/
theorem Drawing.accounts_for_arms_and_clauses {text : String} {settings : Settings} {d : Drawing}
    (hi : settings.rules.ignore = []) (he : settings.rules.escalate = [])
    (h : Drawing.ofText text settings = .ok d) :
    ∃ r : Stages text, r.ArmsTraced d ∧ r.ClausesSettled d := by
  obtain ⟨r, stateFindings, hgraph, hissues⟩ := Drawing.exists_stages h
  obtain ⟨parts, hparts, hedges, hfindings⟩ := Graph.ofClauses_eq_ok hgraph
  rw [IssueRules.apply_of_empty hi he] at hissues
  refine ⟨r, ?_, parts, hparts, hedges, ?_⟩
  · intro i head hhead
    obtain ⟨arms, harms, hall⟩ := Blocks.exists_arms r.blocks_eq hhead
    refine ⟨arms, harms, ?_⟩
    intro a ha
    obtain ⟨cs, fs, harm, hcs, hfs⟩ := hall a ha
    obtain ⟨event, first, hevent, hfirst, htrace⟩ := Blocks.ofArm_eq_ok harm
    refine ⟨event, first, hevent, hfirst, ?_⟩
    rcases htrace with ⟨c, hc, hstems⟩ | ⟨f, hf, hline⟩
    · obtain ⟨t, ht, hsource, hline, rest, hlabel⟩ :=
        r.blocks.exists_mem_followHelpers r.helpers (hcs hc) hstems
      obtain ⟨part, hpart, hsettled⟩ := exists_of_mem_left hparts ht
      cases part with
      | inl e =>
        left
        obtain ⟨rest', hlabel'⟩ := Transition.DrawnAs.label_eq_append hsettled
        refine ⟨e, ?_, hsettled.1.trans hsource, rest ++ rest', ?_⟩
        · rw [hedges]
          exact List.mem_append_right _ (List.mem_filterMap.mpr ⟨_, hpart, rfl⟩)
        · rw [hlabel', hlabel, String.append_assoc]
      | inr f =>
        right
        refine ⟨⟨f, .warning⟩, ?_, hsettled.1.trans (by rw [hline])⟩
        rw [hissues, hfindings]
        exact List.mem_map_of_mem
          (List.mem_append_right _ (List.mem_filterMap.mpr ⟨_, hpart, rfl⟩))
    · right
      refine ⟨⟨f, .warning⟩, ?_, hline⟩
      rw [hissues]
      exact List.mem_map_of_mem (List.mem_append_left _ (List.mem_append_left _ (hfs hf)))
  · have hcomp : (fun issue : Issue => issue.isAboutState) ∘
        (fun f : Finding => (⟨f, .warning⟩ : Issue)) = Finding.isAboutState := rfl
    have hclause := filter_isAboutState_of_code (Blocks.ofStream_findings r.blocks_eq)
      (by decide) (by decide)
    have hcall := filter_isAboutState_of_code (r.blocks.followHelpers_findings r.helpers)
      (by decide) (by decide)
    rw [hissues, List.filter_map, hcomp, List.filter_append, List.filter_append, hclause,
      Stages.callFindings, hcall, hfindings, filter_isAboutState_of_settled hparts]
    rfl

/-- A helper with two outcomes, an arm that leads to an undeclared state and one without action. -/
def threeArms : String :=
  "case object A when(A)\x7bcase G=>n()case F=>goto(B)case I=>1\x7d def n()=if(k)stay else stop"

lemma threeArms_run : ((Drawing.ofText threeArms {}).toOption.map fun d =>
    (d.graph.edges.length, d.issues.length)) = some (3, 2) := by decide +kernel

theorem Drawing.accounts_for_threeArms : ∃ d, Drawing.ofText threeArms {} = .ok d ∧
    d.graph.edges.length = 3 ∧ d.issues.length = 2 ∧
    ∃ r : Stages threeArms, r.ArmsTraced d ∧ r.ClausesSettled d := by
  have hrun := threeArms_run
  cases h : Drawing.ofText threeArms {} with
  | error e => simp [h, Except.toOption] at hrun
  | ok d =>
    simp only [h, Except.toOption, Option.map_some, Option.some.injEq, Prod.mk.injEq] at hrun
    exact ⟨d, rfl, hrun.1, hrun.2, Drawing.accounts_for_arms_and_clauses rfl rfl h⟩

end ActorDiagram
