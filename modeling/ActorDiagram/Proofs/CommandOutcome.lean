import Mathlib
import ActorDiagram.CommandLine.Run
import ActorDiagram.Proofs.Results
import ActorDiagram.Proofs.StrictOption
import ActorDiagram.Yaml.Document

/-!
# What a command leaves

A command that is refused leaves nothing: no output, and all files as they are. It is refused for its
arguments, its inputs, its source text, or under strict settings for issues. What is accepted with the strict
option is answered in the same way without it. All this holds for any reader of settings. Inputs that cannot
be read are not refused where the reader of settings breaks off: the command breaks off with it.
-/

namespace ActorDiagram.Command

variable {yaml : Value.Reader} {tree : FileTree} {stdin : String} {arguments : List String} {o : Options}
  {out : Outcome}

/-- Why a command with these options is refused. -/
inductive RefusedWith (yaml : Value.Reader) (tree : FileTree) (stdin : String) (o : Options) : Prop
  | inputs {e : ReadError} (h : readInputs yaml tree stdin o = .error e) (hcaught : e.crash? = none)
  | source {settings : Settings} {text : String} {diagnosis : Diagnosis}
    (hread : readInputs yaml tree stdin o = .ok (settings, text))
    (h : Report.ofText text (withOptions settings o) = .ok (.error diagnosis))
  | issues {settings : Settings} {text markup : String} {issues : List Issue}
    (hread : readInputs yaml tree stdin o = .ok (settings, text))
    (hreport : Report.ofText text (withOptions settings o) = .ok (.ok markup issues))
    (hstrict : settings.strict = true ∨ o.strict = true) (h : issues ≠ [])

/-- Why a command is refused. -/
inductive Refused (yaml : Value.Reader) (tree : FileTree) (stdin : String) (arguments : List String) : Prop
  | arguments {e : UsageError} (h : Options.ofArguments arguments = .error e)
  | run {o : Options} (ho : Options.ofArguments arguments = .ok (some o))
    (h : RefusedWith yaml tree stdin o)

/-! ### Refusals -/

lemma exitCode_deliver {settings : Settings} {markup warnings : String}
    (h : deliver tree o settings markup warnings = .ok out) : out.exitCode = 0 := by
  unfold deliver at h
  split at h
  · cases h
    rfl
  · cases h
  · split at h
    · cases h
      rfl
    · cases h

lemma answer_cases {settings : Settings} {report : Report} (h : answer tree o settings report = .ok out) :
    out.exitCode = 0 ∨ (∃ stderr, out = failed tree stderr) ∧
      ((∃ diagnosis, report = .error diagnosis) ∨
        ∃ markup issues, report = .ok markup issues ∧ settings.strict = true ∧ issues ≠ []) := by
  cases report with
  | empty =>
    cases h
    exact .inl rfl
  | error diagnosis =>
    cases h
    exact .inr ⟨⟨_, rfl⟩, .inl ⟨diagnosis, rfl⟩⟩
  | ok markup issues =>
    unfold answer at h
    dsimp only at h
    split_ifs at h with hrefused
    · cases h
      simp only [Bool.and_eq_true, Bool.not_eq_true', List.isEmpty_eq_false_iff] at hrefused
      exact .inr ⟨⟨_, rfl⟩, .inr ⟨markup, issues, rfl, hrefused⟩⟩
    · exact .inl (exitCode_deliver h)

lemma runWith_of_caught {e : ReadError} (h : readInputs yaml tree stdin o = .error e)
    (hcaught : e.crash? = none) : runWith yaml tree stdin o = .ok (failed tree (errorLine e.message)) := by
  simp only [runWith, h, hcaught]

lemma runWith_of_crash {e : ReadError} {kind message : String}
    (h : readInputs yaml tree stdin o = .error e) (hcrash : e.crash? = some (kind, message)) :
    runWith yaml tree stdin o = .error (.crash kind message) := by
  simp only [runWith, h, hcrash]

lemma runWith_cases (h : runWith yaml tree stdin o = .ok out) :
    out.exitCode = 0 ∨ (∃ stderr, out = failed tree stderr) ∧ RefusedWith yaml tree stdin o := by
  cases hread : readInputs yaml tree stdin o with
  | error e =>
    cases hcrash : e.crash? with
    | some crash =>
      rw [runWith_of_crash hread hcrash] at h
      cases h
    | none =>
      rw [runWith_of_caught hread hcrash] at h
      cases h
      exact .inr ⟨⟨_, rfl⟩, .inputs hread hcrash⟩
  | ok inputs =>
    obtain ⟨settings, text⟩ := inputs
    simp only [runWith, hread] at h
    split at h
    · cases h
    · rename_i report hreport
      rcases answer_cases h with hzero | ⟨hfailed, ⟨diagnosis, rfl⟩ | ⟨markup, issues, rfl, hstrict, hissues⟩⟩
      · exact .inl hzero
      · exact .inr ⟨hfailed, .source hread hreport⟩
      · exact .inr ⟨hfailed, .issues hread hreport (Bool.or_eq_true_iff.mp hstrict) hissues⟩

lemma runWith_of_refused (h : RefusedWith yaml tree stdin o) :
    ∃ stderr, runWith yaml tree stdin o = .ok (failed tree stderr) := by
  cases h with
  | inputs hread hcaught => exact ⟨_, runWith_of_caught hread hcaught⟩
  | source hread h =>
    rw [runWith, hread]
    simp only [h]
    exact ⟨_, rfl⟩
  | issues hread hreport hstrict h =>
    rw [runWith, hread]
    simp only [hreport, answer]
    rw [if_pos (by simpa [withOptions] using ⟨hstrict, h⟩)]
    exact ⟨_, rfl⟩

lemma run_cases (h : run yaml tree stdin arguments = .ok out) :
    out.exitCode = 0 ∨ (∃ stderr, out = failed tree stderr) ∧ Refused yaml tree stdin arguments := by
  unfold run at h
  split at h
  · rename_i e he
    cases h
    exact .inr ⟨⟨_, rfl⟩, .arguments he⟩
  · cases h
    exact .inl rfl
  · rename_i o ho
    exact (runWith_cases h).imp_right fun hrefused => ⟨hrefused.1, .run ho hrefused.2⟩

lemma run_of_refused (h : Refused yaml tree stdin arguments) :
    ∃ stderr, run yaml tree stdin arguments = .ok (failed tree stderr) := by
  unfold run
  cases h with
  | arguments h =>
    rw [h]
    exact ⟨_, rfl⟩
  | run ho h =>
    rw [ho]
    exact runWith_of_refused h

/-! ### Inputs that cannot be read -/

section Crash

variable {e : ReadError} {kind message : String}

lemma crash?_decoded {cs : Except Text.Utf8.DecodeError (List Char)} (h : decoded cs = .error e) :
    e.crash? = none := by
  unfold decoded at h
  split at h <;> cases h
  rfl

lemma crash?_readSource {path : Option Path} (h : readSource tree stdin path = .error e) : e.crash? = none := by
  unfold readSource at h
  simp only at h
  split at h
  · cases h
  · split_ifs at h
    split at h
    case h_6 => exact crash?_decoded h
    all_goals
      cases h
      rfl

lemma crash_settingsOf {path : Path} {text : String} (h : settingsOf yaml path text = .error e)
    (hcrash : e.crash? = some (kind, message)) : yaml text = .error (.crash kind message) := by
  unfold settingsOf at h
  split at h
  · rename_i failure hyaml
    cases h
    cases failure with
    | malformed | refused => cases hcrash
    | crash =>
      cases hcrash
      exact hyaml
  · cases h
  · split at h <;> cases h
    cases hcrash
  · cases h
    cases hcrash

lemma crash_readSettings {file : FileOption} (h : readSettings yaml tree file = .error e)
    (hcrash : e.crash? = some (kind, message)) :
    file = .void ∨ ∃ text, yaml text = .error (.crash kind message) := by
  cases file with
  | absent => cases h
  | void => exact .inl rfl
  | named path =>
    refine .inr ?_
    simp only [readSettings] at h
    split at h
    case h_5 => exact ⟨_, crash_settingsOf h hcrash⟩
    case h_6 =>
      rcases bind_eq_error_iff.mp h with h | ⟨text, -, h⟩
      · rw [crash?_decoded h] at hcrash
        cases hcrash
      · exact ⟨text, crash_settingsOf h hcrash⟩
    all_goals
      cases h
      cases hcrash

/-- A crash comes from an option that names no file, or from the reader of settings. -/
theorem crash_readInputs (h : readInputs yaml tree stdin o = .error e)
    (hcrash : e.crash? = some (kind, message)) :
    o.config = .void ∨ ∃ text, yaml text = .error (.crash kind message) := by
  rcases bind_eq_error_iff.mp h with h | ⟨settings, -, h⟩
  · exact crash_readSettings h hcrash
  · rcases bind_eq_error_iff.mp h with h | ⟨text, -, h⟩
    · rw [crash?_readSource h] at hcrash
      cases hcrash
    · cases h

end Crash

/-! ### Without the strict option -/

lemma answer_of_strict {settings settings' : Settings} {report : Report}
    (hsame : settings'.appearance = settings.appearance)
    (hstrict : settings'.strict = true → settings.strict = true)
    (h : answer tree o settings report = .ok out) (hzero : out.exitCode = 0) :
    answer tree o settings' report = .ok out := by
  cases report with
  | empty | error => exact h
  | ok markup issues =>
    unfold answer at h ⊢
    dsimp only at h ⊢
    split_ifs at h with hrefused
    · cases h
      cases hzero
    · rw [if_neg ?_, deliver, hsame]
      · exact h
      · simp only [Bool.and_eq_true, not_and] at hrefused ⊢
        exact fun hs => hrefused (hstrict hs)

/-- What ends well with stricter options is the same without them. -/
lemma runWith_of_strengthened {s : Bool} (h : runWith yaml tree stdin (o.strengthened s) = .ok out)
    (hzero : out.exitCode = 0) : runWith yaml tree stdin o = .ok out := by
  have hinputs : readInputs yaml tree stdin (o.strengthened s) = readInputs yaml tree stdin o := rfl
  cases hread : readInputs yaml tree stdin o with
  | error e =>
    cases hcrash : e.crash? with
    | some crash =>
      rw [runWith_of_crash (hinputs.trans hread) hcrash] at h
      cases h
    | none =>
      rw [runWith_of_caught (hinputs.trans hread) hcrash] at h
      rw [runWith_of_caught hread hcrash, h]
  | ok inputs =>
    obtain ⟨settings, text⟩ := inputs
    unfold runWith at h ⊢
    rw [hinputs, hread] at h
    rw [hread]
    have hreport : Report.ofText text (withOptions settings (o.strengthened s)) =
        Report.ofText text (withOptions settings o) := rfl
    dsimp only at h ⊢
    rw [hreport] at h
    cases hanswer : Report.ofText text (withOptions settings o) with
    | error e => simp [hanswer] at h
    | ok report =>
      simp only [hanswer] at h ⊢
      have ho : answer tree (o.strengthened s) (withOptions settings (o.strengthened s)) report =
          answer tree o (withOptions settings (o.strengthened s)) report := rfl
      have happearance : (withOptions settings o).appearance =
          (withOptions settings (o.strengthened s)).appearance := rfl
      rw [ho] at h
      refine answer_of_strict happearance (fun hstrict => ?_) h hzero
      simp only [withOptions, Options.strengthened, Bool.or_eq_true] at hstrict ⊢
      tauto

theorem run_withoutStrict (h : run yaml tree stdin arguments = .ok out) (hzero : out.exitCode = 0) :
    run yaml tree stdin (Options.withoutStrict arguments) = .ok out := by
  unfold run at h ⊢
  cases hasked : Options.ofArguments arguments with
  | error e =>
    rw [hasked] at h
    cases h
    cases hzero
  | ok asked =>
    rw [hasked] at h
    obtain ⟨s, asked', hasked', rfl⟩ := Options.ofArguments_withoutStrict hasked
    rw [hasked']
    cases asked' with
    | none => exact h
    | some o => exact runWith_of_strengthened h hzero

/-! ### Refused commands -/

/-- Whatever reads the settings, a command with exit code 2 leaves no output and no file changed; there is such
an outcome exactly where the command is refused; and where the exit code is 0, the strict option makes no
difference. Inputs that cannot be read are refused, unless the reader of settings breaks off or no file is named
where one is asked for: then there is no outcome. -/
theorem run_leaves_no_trace (yaml : Value.Reader) (tree : FileTree) (stdin : String) (arguments : List String) :
    (∀ out, run yaml tree stdin arguments = .ok out → out.exitCode = 2 → out.stdout = "" ∧ out.tree = tree) ∧
    ((∃ out, run yaml tree stdin arguments = .ok out ∧ out.exitCode = 2) ↔
      Refused yaml tree stdin arguments) ∧
    (∀ o e, Options.ofArguments arguments = .ok (some o) → readInputs yaml tree stdin o = .error e →
      Refused yaml tree stdin arguments ∨ ∃ kind message,
        run yaml tree stdin arguments = .error (.crash kind message) ∧
        (o.config = .void ∨ ∃ text, yaml text = .error (.crash kind message))) ∧
    ∀ out, run yaml tree stdin arguments = .ok out → out.exitCode = 0 →
      run yaml tree stdin (Options.withoutStrict arguments) = .ok out := by
  refine ⟨?_, ⟨?_, ?_⟩, ?_, fun out h hzero => run_withoutStrict h hzero⟩
  · intro out h htwo
    rcases run_cases h with hzero | ⟨⟨stderr, rfl⟩, -⟩
    · omega
    · exact ⟨rfl, rfl⟩
  · rintro ⟨out, h, htwo⟩
    rcases run_cases h with hzero | ⟨-, hrefused⟩
    · omega
    · exact hrefused
  · intro h
    obtain ⟨stderr, hrun⟩ := run_of_refused h
    exact ⟨_, hrun, rfl⟩
  · intro o e ho hread
    cases hcrash : e.crash? with
    | none => exact .inl (.run ho (.inputs hread hcrash))
    | some crash =>
      obtain ⟨kind, message⟩ := crash
      refine .inr ⟨kind, message, ?_, crash_readInputs hread hcrash⟩
      rw [run, ho]
      exact runWith_of_crash hread hcrash

/-- A block of a state that is not declared. -/
def undeclaredState : String := "when(A)\x7bcase G=>stay()\x7d"

lemma undeclaredState_run : (run Yaml.reader ⟨[]⟩ undeclaredState ["--strict"]).map (·.exitCode) = .ok 2 := by
  decide +kernel

lemma declaredState_run :
    (run Yaml.reader ⟨[]⟩ ("case object A " ++ undeclaredState) ["--strict"]).map (·.exitCode) = .ok 0 := by
  decide +kernel

theorem run_leaves_no_trace_undeclaredState :
    (Refused Yaml.reader ⟨[]⟩ undeclaredState ["--strict"] ∧
      ∃ out, run Yaml.reader ⟨[]⟩ undeclaredState ["--strict"] = .ok out ∧ out.stdout = "" ∧ out.tree = ⟨[]⟩) ∧
    ∃ out, run Yaml.reader ⟨[]⟩ ("case object A " ++ undeclaredState) ["--strict"] = .ok out ∧
      run Yaml.reader ⟨[]⟩ ("case object A " ++ undeclaredState) [] = .ok out := by
  constructor
  · obtain ⟨out, h, htwo⟩ := map_eq_ok_iff.mp undeclaredState_run
    obtain ⟨hleft, hrefused, -⟩ := run_leaves_no_trace Yaml.reader ⟨[]⟩ undeclaredState ["--strict"]
    exact ⟨hrefused.mp ⟨out, h, htwo⟩, out, h, hleft out h htwo⟩
  · obtain ⟨out, h, hzero⟩ := map_eq_ok_iff.mp declaredState_run
    exact ⟨out, h, (run_leaves_no_trace Yaml.reader ⟨[]⟩ _ ["--strict"]).2.2.2 out h hzero⟩

/-- Files with settings that hold a truth value that is none. -/
def untrueSettings : FileTree := ⟨[(["c.yaml"], .file (bytesOf "strict: !!bool foo\n"))]⟩

/-- The settings cannot be read, and the exit code is not 2: the reader of settings breaks off. -/
theorem run_breaks_off : ∃ e,
    readInputs Yaml.reader untrueSettings undeclaredState { config := .named ⟨"", ["c.yaml"]⟩ } = .error e ∧
    run Yaml.reader untrueSettings undeclaredState ["--config", "c.yaml"] =
      .error (.crash "KeyError" "'foo'") :=
  ⟨.yaml ⟨"", ["c.yaml"]⟩ (.crash "KeyError" "'foo'"), by decide +kernel, by decide +kernel⟩

end ActorDiagram.Command
