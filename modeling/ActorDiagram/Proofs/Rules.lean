import Mathlib
import ActorDiagram.Proofs.Answers

/-!
# Issue rules and the diagram

Rules drop issues or make errors of them, and that is all they do: a drawing under rules is told from
the drawing without rules. The issue that stops a run is the first that is kept and treated as an error.
-/

namespace ActorDiagram

namespace IssueRules

/-- Issues that the rules do not drop. -/
def kept (rules : IssueRules) (issues : List Issue) : List Issue :=
  issues.filter fun i => i.code ∉ rules.ignore

/-- Issue with the severity that the rules give it. -/
def weigh (rules : IssueRules) (i : Issue) : Issue :=
  ⟨i.toFinding, if i.code ∈ rules.escalate then .error else .warning⟩

variable (rules : IssueRules) {issues : List Issue}

lemma apply_empty (fs : List Finding) : IssueRules.apply {} fs = fs.map fun f => ⟨f, .warning⟩ :=
  apply_of_empty rfl rfl fs

/-- Rules drop some of the issues that there are without them, and weigh the others. -/
theorem apply_eq_weigh_kept (fs : List Finding) :
    rules.apply fs = (rules.kept (IssueRules.apply {} fs)).map rules.weigh := by
  rw [apply_empty]
  induction fs with
  | nil => rfl
  | cons f fs ih =>
    unfold apply kept at ih ⊢
    by_cases hignore : f.code ∈ rules.ignore
    · have hdropped : rules.issue? f = none := if_pos (by simpa using hignore)
      rw [List.filterMap_cons_none hdropped, ih, List.map_cons,
        List.filter_cons_of_neg (by simpa using hignore)]
    · have hissue : rules.issue? f = some (rules.weigh ⟨f, .warning⟩) := by
        simp [issue?, weigh, hignore]
      rw [List.filterMap_cons_some hissue, ih, List.map_cons,
        List.filter_cons_of_pos (by simpa using hignore), List.map_cons]

lemma severity_of_mem_kept {fs : List Finding} {i : Issue}
    (h : i ∈ rules.kept (IssueRules.apply {} fs)) : i.severity = .warning := by
  rw [kept, apply_empty] at h
  obtain ⟨f, -, rfl⟩ := List.mem_map.mp (List.mem_filter.mp h).1
  rfl

/-- Warnings that the rules do not treat as errors stay as they are. -/
theorem map_weigh_eq_self (hwarning : ∀ i ∈ issues, i.severity = .warning)
    (hquiet : ∀ i ∈ issues, i.code ∉ rules.escalate) : issues.map rules.weigh = issues := by
  refine (List.map_congr_left fun i hi => ?_).trans (List.map_id issues)
  rw [weigh, if_neg (hquiet i hi), ← hwarning i hi]
  rfl

lemma checkIssues_of_warnings (hwarning : ∀ i ∈ issues, i.severity = .warning) :
    Drawing.checkIssues issues = .ok () := by
  have herrors : Issue.errors issues = [] :=
    List.filter_eq_nil_iff.mpr fun i hi => by simp [hwarning i hi]
  rw [Drawing.checkIssues, herrors]

/-- The first issue that the rules treat as an error stops the run. -/
theorem checkIssues_weigh {i : Issue} (h : issues.find? (fun i => i.code ∈ rules.escalate) = some i) :
    Drawing.checkIssues (issues.map rules.weigh) =
      .error (.source (.escalated i.message i.code) i.line none) := by
  induction issues with
  | nil => simp at h
  | cons j issues ih =>
    by_cases hj : j.code ∈ rules.escalate
    · rw [List.find?_cons_of_pos (by simpa using hj), Option.some.injEq] at h
      subst h
      simp [Drawing.checkIssues, Issue.errors, weigh, hj]
    · rw [List.find?_cons_of_neg (by simpa using hj)] at h
      rw [← ih h, Drawing.checkIssues, Drawing.checkIssues, Issue.errors, Issue.errors, List.map_cons,
        List.filter_cons_of_neg (by simp [weigh, hj])]

end IssueRules

namespace Drawing

variable {text : String} {settings : Settings}

/-- A model that cannot be drawn is not at fault through its source text. -/
lemma not_source_of_diagram {s : Stream} {m : Model} (hm : Model.ofStream s = .ok m)
    (appearance : Appearance) (cause : Cause) (line column : Option Int) :
    Mermaid.diagram m.graph appearance ≠ .error (.source cause line column) := by
  obtain ⟨states, blocks, _, helpers, findings, hstates, -, -, hgraph, -⟩ := Model.ofStream_eq_ok hm
  have hdiagram := Mermaid.diagram_yields hgraph (StateIndex.namedIn_of_ofStream hstates).2 appearance
  intro heq
  rw [heq] at hdiagram
  cases hdiagram

/-- A run on a text that has a model: the issues are checked, and the graph is drawn. -/
lemma ofText_of_model {s : Stream} {m : Model} (hs : Stream.ofText text = .ok s)
    (hm : Model.ofStream s = .ok m) (settings : Settings) :
    ofText text settings = checkIssues (settings.rules.apply m.findings) >>= fun _ =>
      (Mermaid.diagram m.graph settings.appearance).map fun markup =>
        ⟨m.graph, markup, settings.rules.apply m.findings⟩ := by
  unfold ofText
  rw [hs]
  simp only [Bind.bind, Except.bind, hm]
  rfl

/-- Rules for issues never change what is drawn. A text that is at fault without rules is at fault in the
same way under any rules. A drawing that is made without rules is made under rules as well, with the
issues that are kept, unless one of them is treated as an error; the first of these is what the run
then fails with. -/
theorem ofText_under_rules (text : String) (settings : Settings) :
    (∀ cause line column,
      ofText text { settings with rules := {} } = .error (.source cause line column) →
      ofText text settings = .error (.source cause line column)) ∧
    ∀ d, ofText text { settings with rules := {} } = .ok d →
      ((∀ i ∈ settings.rules.kept d.issues, i.code ∉ settings.rules.escalate) →
        ofText text settings = .ok { d with issues := settings.rules.kept d.issues }) ∧
      ∀ i, (settings.rules.kept d.issues).find? (fun i => i.code ∈ settings.rules.escalate) = some i →
        ∃ e, ofText text settings = .error e ∧
          e.diagnosis? = some ⟨i.message ++ " [" ++ i.code ++ "]", i.line, none⟩ := by
  cases hs : Stream.ofText text with
  | error e => simp [ofText, hs, Bind.bind, Except.bind]
  | ok s =>
    cases hm : Model.ofStream s with
    | error e => simp [ofText, hs, hm, Bind.bind, Except.bind]
    | ok m =>
      set issues := IssueRules.apply {} m.findings with hissues
      have hplain : ofText text { settings with rules := {} } =
          (Mermaid.diagram m.graph settings.appearance).map fun markup => ⟨m.graph, markup, issues⟩ := by
        rw [ofText_of_model hs hm]
        have hcheck : checkIssues issues = .ok () := IssueRules.checkIssues_of_warnings fun i hi =>
          IssueRules.severity_of_mem_kept {} (by simpa [IssueRules.kept] using hi)
        simp only [← hissues, hcheck, Bind.bind, Except.bind]
      have hruled := ofText_of_model hs hm settings
      rw [settings.rules.apply_eq_weigh_kept, ← hissues] at hruled
      cases hmarkup : Mermaid.diagram m.graph settings.appearance with
      | error e =>
        have hnot := not_source_of_diagram hm settings.appearance
        rw [hmarkup] at hnot hplain
        rw [hplain]
        refine ⟨?_, by simp [Except.map]⟩
        rintro cause line column heq
        cases heq
        exact absurd rfl (hnot cause line column)
      | ok markup =>
        rw [hmarkup] at hplain hruled
        rw [hplain]
        refine ⟨by simp [Except.map], ?_⟩
        rintro d heq
        cases heq
        have hwarning : ∀ i ∈ settings.rules.kept issues, i.severity = .warning :=
          fun i hi => settings.rules.severity_of_mem_kept hi
        constructor
        · intro hquiet
          rw [hruled, settings.rules.map_weigh_eq_self hwarning hquiet,
            IssueRules.checkIssues_of_warnings hwarning]
          rfl
        · intro i hi
          rw [hruled, settings.rules.checkIssues_weigh hi]
          exact ⟨_, rfl, rfl⟩

/-- A block with an issue of every code. -/
def everyIssue : String :=
  "case object A when(A)\x7bcase K=>goto(B)case L=>f()case M=>1\x7dwhen(C)\x7bcase N=>stay()\x7d"

/-- Rules that drop unknown targets, and would treat them as errors as well. -/
def targetRules : IssueRules := ⟨[Finding.unknownTarget], [Finding.unknownTarget]⟩

/-- Rules that also treat unknown sources as errors. -/
def sourceRules : IssueRules :=
  ⟨[Finding.unknownTarget], [Finding.unknownTarget, Finding.unknownSource]⟩

lemma everyIssue_run : (ofText everyIssue {}).toOption.map (fun d =>
    (d.issues.map (·.code), (targetRules.kept d.issues).all (·.code ∉ targetRules.escalate),
      ((sourceRules.kept d.issues).find? (·.code ∈ sourceRules.escalate)).map fun i =>
        (i.message ++ " [" ++ i.code ++ "]", i.line))) =
    some ([Finding.clauseNoAction, Finding.unresolvedCall, Finding.unknownTarget, Finding.unknownSource],
      true, some ("when(C) refers to an undeclared state; transition 'N' dropped [W_UNKNOWN_SOURCE]",
        some 1)) := by decide +kernel

lemma openBlock_run : (match ofText "when(A)\x7b" {} with
    | .ok _ => none
    | .error e => some e) = some (.source .unclosedBracket (some 1) (some 8)) := by decide +kernel

theorem ofText_under_rules_everyIssue :
    (∃ d, ofText everyIssue {} = .ok d ∧
      d.issues.map (·.code) = [Finding.clauseNoAction, Finding.unresolvedCall, Finding.unknownTarget,
        Finding.unknownSource] ∧
      ofText everyIssue { rules := targetRules } = .ok { d with issues := targetRules.kept d.issues } ∧
      ∃ e, ofText everyIssue { rules := sourceRules } = .error e ∧ e.diagnosis? = some
        ⟨"when(C) refers to an undeclared state; transition 'N' dropped [W_UNKNOWN_SOURCE]",
          some 1, none⟩) ∧
    ofText "when(A)\x7b" { rules := sourceRules } =
      .error (.source .unclosedBracket (some 1) (some 8)) := by
  constructor
  · have hrun := everyIssue_run
    cases hplain : ofText everyIssue {} with
    | error e => simp [hplain, Except.toOption] at hrun
    | ok d =>
      simp only [hplain, Except.toOption, Option.map_some, Option.some.injEq, Prod.mk.injEq] at hrun
      obtain ⟨hcodes, hquiet, hraised⟩ := hrun
      refine ⟨d, rfl, hcodes, ?_, ?_⟩
      · refine ((ofText_under_rules everyIssue { rules := targetRules }).2 d hplain).1 fun i hi => ?_
        simpa using List.all_eq_true.mp hquiet i hi
      · obtain ⟨i, hi, hshown⟩ := Option.map_eq_some_iff.mp hraised
        obtain ⟨e, he, hdiagnosis⟩ :=
          ((ofText_under_rules everyIssue { rules := sourceRules }).2 d hplain).2 i hi
        simp only [Prod.mk.injEq] at hshown
        rw [hshown.1, hshown.2] at hdiagnosis
        exact ⟨e, he, hdiagnosis⟩
  · refine (ofText_under_rules "when(A)\x7b" { rules := sourceRules }).1 _ _ _ ?_
    have hrun := openBlock_run
    cases hplain : ofText "when(A)\x7b" {} with
    | ok d => simp [hplain] at hrun
    | error e =>
      rw [hplain] at hrun
      cases hrun
      exact hplain

end Drawing

end ActorDiagram
