import Mathlib
import ActorDiagram.Proofs.CommandOutcome
import ActorDiagram.Proofs.MarkupEnd
import ActorDiagram.Proofs.OutOption
import ActorDiagram.Proofs.WrittenFile

/-!
# Output in a file and on the screen

A command that draws a diagram into a file, in a form that is asked for, writes the text that it would put on
the screen, unless the form is plain markup and the diagram ends in a blank.
-/

namespace ActorDiagram.Command

open Mermaid (endsBlank)

variable {yaml : Value.Reader} {tree : FileTree} {stdin : String} {arguments : List String}
  {o : Options} {outcome : Outcome} {settings : Settings} {text markup : String} {issues : List Issue}

lemma exists_drawing (h : Report.ofText text settings = .ok (.ok markup issues)) :
    ∃ d, Drawing.ofText text settings = .ok d ∧ d.markup = markup := by
  unfold Report.ofText at h
  split_ifs at h
  · cases h
  · split at h
    · rename_i d hd
      cases h
      exact ⟨d, hd, rfl⟩
    · split at h <;> cases h

/-! ### Two texts of a diagram -/

/-- Plain markup in a file is that on the screen but for a blank before the last line break. -/
lemma exists_front {d : Drawing} (h : Drawing.ofText text settings = .ok d) (title : String) :
    ∃ front, screenText false title d.markup = (front ++ if endsBlank d.graph then " \n" else "\n") ∧
      fileText false title d.markup = front ++ "\n" := by
  obtain ⟨front, hfront, hmarkup⟩ := Drawing.markup_end h
  refine ⟨front, hmarkup, ?_⟩
  have hblanks : Text.isBlank ' ' = true ∧ Text.isBlank '\n' = true := by decide
  have htrim : Text.trimRight d.markup.toList = front.toList := by
    rw [hmarkup, String.toList_append]
    refine hfront.trimRight_append ?_
    cases endsBlank d.graph <;> simp [hblanks]
  change String.ofList (Text.trimRight d.markup.toList) ++ "\n" = _
  rw [htrim, String.ofList_toList]

/-- The two texts of a diagram agree in Markdown, and in plain markup unless it ends in a blank. -/
lemma fileText_eq_screenText_iff {d : Drawing} (h : Drawing.ofText text settings = .ok d)
    (hformat : o.format ≠ .auto) (title : String) :
    (fileText (isMarkdown o) title d.markup = screenText (isMarkdown o) title d.markup ↔
      o.format = .markdown ∨ endsBlank d.graph = false) ∧
    (fileText (isMarkdown o) title d.markup ≠ screenText (isMarkdown o) title d.markup → ∃ front,
      screenText (isMarkdown o) title d.markup = front ++ " \n" ∧
      fileText (isMarkdown o) title d.markup = front ++ "\n") := by
  cases hform : o.format with
  | auto => exact absurd hform hformat
  | markdown =>
    have hmarkdown : isMarkdown o = true := by simp [isMarkdown, hform]
    have hsame : fileText (isMarkdown o) title d.markup = screenText (isMarkdown o) title d.markup := by
      rw [hmarkdown]
      rfl
    exact ⟨iff_of_true hsame (.inl rfl), fun hne => absurd hsame hne⟩
  | plain =>
    have hplain : isMarkdown o = false := by simp [isMarkdown, hform]
    obtain ⟨front, hscreen, hfile⟩ := exists_front h title
    rw [hplain, hscreen, hfile]
    cases endsBlank d.graph with
    | false => exact ⟨iff_of_true rfl (.inr rfl), fun hne => absurd rfl hne⟩
    | true =>
      have hne : front ++ "\n" ≠ front ++ " \n" := by
        intro heq
        simp at heq
      exact ⟨iff_of_false hne (by simp), fun _ => ⟨front, rfl, rfl⟩⟩

/-! ### A command without the output option -/

lemma isMarkdown_onScreen (h : o.format ≠ .auto) : isMarkdown o.onScreen = isMarkdown o := by
  unfold isMarkdown Options.onScreen
  cases hformat : o.format with
  | auto => exact absurd hformat h
  | plain | markdown => rfl

/-- A diagram that is put into a file can be put on the screen. -/
lemma answer_onScreen {path : Path} (hout : o.out = .named path) (hformat : o.format ≠ .auto)
    (h : answer tree o settings (.ok markup issues) = .ok outcome) (hzero : outcome.exitCode = 0) :
    tree.write path (bytesOf (fileText (isMarkdown o) settings.appearance.title markup)) = .ok outcome.tree ∧
    answer tree o.onScreen settings (.ok markup issues) =
      .ok ⟨0, screenText (isMarkdown o) settings.appearance.title markup, outcome.stderr, tree⟩ := by
  unfold answer at h ⊢
  dsimp only at h ⊢
  split_ifs at h ⊢ with hrefused
  · cases h
    cases hzero
  · unfold deliver at h ⊢
    rw [hout] at h
    dsimp only at h
    split at h
    · rename_i tree' hwrite
      cases h
      rw [isMarkdown_onScreen hformat]
      exact ⟨hwrite, rfl⟩
    · cases h

/-- A diagram that is written to a file is found there, and put on the screen by the same command without the
output option, whatever reads the settings. The two texts are the same unless they are plain markup and the
last edge of the diagram has a label of which nothing is written; then the file lacks the blank at the end of
the last line. -/
theorem run_withoutOut {path : Path} (harguments : Options.ofArguments arguments = .ok (some o))
    (hout : o.out = .named path) (hformat : o.format ≠ .auto)
    (hinputs : readInputs yaml tree stdin o = .ok (settings, text))
    (hreport : Report.ofText text (withOptions settings o) = .ok (.ok markup issues))
    (hrun : run yaml tree stdin arguments = .ok outcome) (hzero : outcome.exitCode = 0) :
    ∃ (d : Drawing) (written shown : String),
      Drawing.ofText text (withOptions settings o) = .ok d ∧
      tree.write path (bytesOf written) = .ok outcome.tree ∧
      ((∃ place, outcome.tree.find path = .file place (bytesOf written)) ∨
        outcome.tree.find path = .nullDevice) ∧
      run yaml tree stdin (Options.withoutOut arguments) = .ok ⟨0, shown, outcome.stderr, tree⟩ ∧
      (written = shown ↔ o.format = .markdown ∨ endsBlank d.graph = false) ∧
      (written ≠ shown → ∃ front, shown = front ++ " \n" ∧ written = front ++ "\n") := by
  obtain ⟨d, hd, rfl⟩ := exists_drawing hreport
  have hanswer : answer tree o (withOptions settings o) (.ok d.markup issues) = .ok outcome := by
    rw [run, harguments] at hrun
    simpa only [runWith, hinputs, hreport] using hrun
  obtain ⟨hwrite, hscreen⟩ := answer_onScreen hout hformat hanswer hzero
  refine ⟨d, _, _, hd, hwrite, FileTree.find_write hwrite, ?_, fileText_eq_screenText_iff hd hformat _⟩
  have hinputs' : readInputs yaml tree stdin o.onScreen = .ok (settings, text) := hinputs
  have hsettings : withOptions settings o.onScreen = withOptions settings o := rfl
  rw [run, Options.ofArguments_withoutOut harguments]
  simpa only [runWith, hinputs', hsettings, hreport] using hscreen

/-- A state with one clause. -/
def oneClause (pattern : String) : String := "case object A when(A)\x7bcase " ++ pattern ++ "=>stay()\x7d"

/-- Plain markup in a file. -/
def markupFile : Options := { out := .named ⟨"", ["d.mmd"]⟩, format := .plain }

theorem run_withoutOut_oneClause : ∃ outcome shown,
    run Yaml.reader ⟨[]⟩ (oneClause "G") ["--format", "mmd", "--out", "d.mmd"] = .ok outcome ∧
    run Yaml.reader ⟨[]⟩ (oneClause "G") (Options.withoutOut ["--format", "mmd", "--out", "d.mmd"]) =
      .ok ⟨0, shown, outcome.stderr, ⟨[]⟩⟩ ∧
    FileTree.write ⟨[]⟩ ⟨"", ["d.mmd"]⟩ (bytesOf shown) = .ok outcome.tree := by
  have harguments : Options.ofArguments ["--format", "mmd", "--out", "d.mmd"] = .ok (some markupFile) := by
    decide +kernel
  have hinputs : readInputs Yaml.reader ⟨[]⟩ (oneClause "G") markupFile = .ok ({}, oneClause "G") := by
    decide +kernel
  have hreport : Report.ofText (oneClause "G") (withOptions {} markupFile) =
      .ok (.ok "stateDiagram-v2\n  A\n  [*] --> A\n  A --> A : G\n" []) := by decide +kernel
  have hexit : (run Yaml.reader ⟨[]⟩ (oneClause "G") ["--format", "mmd", "--out", "d.mmd"]).map
      (·.exitCode) = .ok 0 := by decide +kernel
  have hblank : (Drawing.ofText (oneClause "G") (withOptions {} markupFile)).map (fun d => endsBlank d.graph) =
      .ok false := by decide +kernel
  obtain ⟨outcome, hrun, hzero⟩ := map_eq_ok_iff.mp hexit
  obtain ⟨d, written, shown, hd, hwrite, -, hshown, hsame, -⟩ :=
    run_withoutOut harguments rfl nofun hinputs hreport hrun hzero
  rw [hd] at hblank
  rw [hsame.mpr (.inr (Except.ok.inj hblank))] at hwrite
  exact ⟨outcome, shown, hrun, hshown, hwrite⟩

/-- The label is a blank. The last line on the screen ends in it, the one in the file does not. -/
theorem run_blankLabel : ∃ written shown,
    run Yaml.reader ⟨[]⟩ (oneClause "\" \"") ["--format", "mmd", "--out", "d.mmd"] =
      .ok ⟨0, "", "", ⟨[(["d.mmd"], .file (bytesOf written))]⟩⟩ ∧
    run Yaml.reader ⟨[]⟩ (oneClause "\" \"") (Options.withoutOut ["--format", "mmd", "--out", "d.mmd"]) =
      .ok ⟨0, shown, "", ⟨[]⟩⟩ ∧ written ≠ shown :=
  ⟨"stateDiagram-v2\n  A\n  [*] --> A\n  A --> A :\n", "stateDiagram-v2\n  A\n  [*] --> A\n  A --> A : \n",
    by decide +kernel, by decide +kernel, by decide⟩

end ActorDiagram.Command
