import Mathlib
import ActorDiagram.Proofs.OptionRuns

/-!
# Without the output option

Arguments that are accepted are accepted without the output option and its value, and ask for the same but for
the file.
-/

namespace ActorDiagram.Options

/-- Arguments but for the output option and its value. `value` says that the value comes next. Nothing behind
a separator is an option. -/
def withoutOutFrom (value : Bool) : List String → List String
  | [] => []
  | text :: texts =>
    if text = "--" then text :: texts
    else if value then withoutOutFrom false texts
    else match Argument.ofText text with
      | .ok (.option .out written) => withoutOutFrom written.isNone texts
      | _ => text :: withoutOutFrom false texts

/-- Arguments but for the output option and its value. -/
def withoutOut (arguments : List String) : List String := withoutOutFrom false arguments

/-! ### Texts -/

lemma withoutOutFrom_value {text : String} (h : text ≠ "--") (texts : List String) :
    withoutOutFrom true (text :: texts) = withoutOutFrom false texts := by
  rw [withoutOutFrom, if_neg h, if_pos rfl]

lemma withoutOutFrom_out {text : String} {written : Option String} (h : text ≠ "--")
    (hargument : Argument.ofText text = .ok (.option .out written)) (texts : List String) :
    withoutOutFrom false (text :: texts) = withoutOutFrom written.isNone texts := by
  rw [withoutOutFrom, if_neg h, if_neg (by decide), hargument]

lemma withoutOutFrom_other {text : String} {argument : Argument} (h : text ≠ "--")
    (hargument : Argument.ofText text = .ok argument) (hother : ∀ written, argument ≠ .option .out written)
    (texts : List String) : withoutOutFrom false (text :: texts) = text :: withoutOutFrom false texts := by
  rw [withoutOutFrom, if_neg h, if_neg (by decide), hargument]
  split
  · rename_i written heq
    exact absurd (Except.ok.inj heq) (hother written)
  · rfl

/-- Options that name no output file. -/
def onScreen (o : Options) : Options := { o with out := .absent }

variable {o : Options}

/-! ### One argument -/

lemma set_onScreen {flag : Flag} (h : flag ≠ .out) (value : String) :
    o.onScreen.set flag value = (o.set flag value).map onScreen := by
  cases flag with
  | out => exact absurd rfl h
  | config | theme | title | help | strict => rfl
  | format =>
    unfold set
    cases choose .format OutputForm.name [.auto, .plain, .markdown] value <;> rfl
  | direction =>
    unfold set
    cases choose .direction Direction.name Direction.all (Text.toUpperCase value) <;> rfl

/-- Options stay alike but for the output when both sides read the same. -/
lemma kept_onScreen : Kept (fun o o' => o.onScreen = o') (· ≠ .out) where
  source := by
    rintro o o' path rfl
    rfl
  set := by
    rintro o o' q flag value hflag rfl hset
    exact ⟨q.onScreen, by rw [set_onScreen hflag, hset]; rfl, rfl⟩
  clear := by
    rintro o o' flag hflag rfl
    cases flag <;> first | rfl | exact absurd rfl hflag

namespace Progress

variable {p p' q : Progress} {argument : Argument}

/-- Two runs that are alike but for the output option. -/
abbrev BesideOut (p p' : Progress) : Prop := p.Beside (fun o o' => o.onScreen = o') (· ≠ .out) p'

/-- Two runs that are alike but for the output option, whose value the first one may wait for. -/
inductive Behind : Bool → Progress → Progress → Prop
  | level {p p' : Progress} (h : p.BesideOut p') : Behind false p p'
  | value {p p' : Progress} (h : p.BesideOut p') (hpending : p'.pending = none) :
    Behind true { p with pending := some .out } p'

/-- Nothing counts after help is asked for. -/
lemma foldlM_of_help (h : p.help = true) (arguments : List Argument) : arguments.foldlM step p = .ok p := by
  induction arguments with
  | nil => rfl
  | cons argument arguments ih =>
    have hstep : p.step argument = .ok p := if_pos h
    rw [List.foldlM_cons, hstep]
    exact ih

lemma help_eq_false {arguments : List Argument} (hrun : arguments.foldlM step p = .ok q)
    (hfinish : q.finish = .ok (some o)) : p.help = false := by
  by_contra hhelp
  rw [Bool.not_eq_false] at hhelp
  rw [foldlM_of_help hhelp] at hrun
  cases hrun
  rw [finish, if_pos hhelp] at hfinish
  cases hfinish

lemma Beside.finish_onScreen (h : p.BesideOut p') (hfinish : p.finish = .ok (some o)) :
    p'.finish = .ok (some o.onScreen) := by
  obtain ⟨asked, hfinish', hasked⟩ := h.finish hfinish
  cases hasked with
  | some hsame =>
    subst hsame
    exact hfinish'

lemma Beside.skip_out (h : p.BesideOut p') (hhelp : p.help = false) {written : Option String}
    (hstep : p.step (.option .out written) = .ok q) : Behind written.isNone q p' := by
  unfold step at hstep
  rw [if_neg (by simp [hhelp])] at hstep
  cases hpending : p.pending with
  | some flag => simp [hpending] at hstep
  | none =>
    simp only [hpending] at hstep
    have hbeside : ∀ out, ({ p with options := { p.options with out }, atSource := false } : Progress).BesideOut p' :=
      fun _ => ⟨h.options, h.help, h.pending, h.pending_both, h.sourceRead, nofun, h.extras⟩
    cases written with
    | none =>
      cases hstep
      exact .value (hbeside p.options.out) (h.pending.symm.trans hpending)
    | some text =>
      simp only [Progress.option, Flag.takesValue] at hstep
      by_cases hclear : text = "--"
      · rw [if_pos hclear] at hstep
        cases hstep
        exact .level (hbeside .void)
      · rw [if_neg hclear] at hstep
        cases hstep
        exact .level (hbeside (.named (Path.ofText text)))

lemma Beside.skip_value (h : p.BesideOut p') (hpending : p'.pending = none) (hhelp : p.help = false)
    (hstep : ({ p with pending := some .out } : Progress).step argument = .ok q) : Behind false q p' := by
  unfold step at hstep
  rw [if_neg (by simp [hhelp])] at hstep
  cases argument with
  | plain text =>
    cases hstep
    exact .level ⟨h.options, h.help, hpending.symm, nofun, h.sourceRead, h.atSource, h.extras⟩
  | separator | option | unknown => cases hstep

/-- One argument is read by both runs, or only by the first one. -/
lemma Behind.next {value : Bool} {text : String} (h : Behind value p p') (hhelp : p.help = false)
    (hseparator : text ≠ "--") (hargument : Argument.ofText text = .ok argument)
    (hstep : p.step argument = .ok q) (texts : List String) :
    (∃ value', withoutOutFrom value (text :: texts) = withoutOutFrom value' texts ∧ Behind value' q p') ∨
      withoutOutFrom value (text :: texts) = text :: withoutOutFrom false texts ∧
        ∃ q', p'.step argument = .ok q' ∧ q.BesideOut q' := by
  cases h with
  | value h hpending =>
    exact .inl ⟨false, withoutOutFrom_value hseparator texts, h.skip_value hpending hhelp hstep⟩
  | level h =>
    by_cases hout : ∃ written, argument = .option .out written
    · obtain ⟨written, rfl⟩ := hout
      exact .inl ⟨_, withoutOutFrom_out hseparator hargument texts, h.skip_out hhelp hstep⟩
    · have hother : ∀ written, argument ≠ .option .out written := fun written heq => hout ⟨written, heq⟩
      have hboth : ∀ flag written, argument = .option flag written → flag ≠ .out := by
        rintro flag written rfl rfl
        exact hother written rfl
      exact .inr ⟨withoutOutFrom_other hseparator hargument hother texts, h.next kept_onScreen hboth hstep⟩

/-- A value that is waited for does not fail to come. -/
lemma Behind.level_of_finish {value : Bool} (h : Behind value p p') (hhelp : p.help = false)
    (hfinish : p.finish = .ok (some o)) : p.BesideOut p' := by
  unfold finish at hfinish
  rw [if_neg (by simp [hhelp])] at hfinish
  cases h with
  | level h => exact h
  | value => cases hfinish

lemma Behind.level_of_separator {value : Bool} (h : Behind value p p') (hhelp : p.help = false)
    (hstep : p.step .separator = .ok q) : p.BesideOut p' := by
  unfold step at hstep
  rw [if_neg (by simp [hhelp])] at hstep
  cases h with
  | level h => exact h
  | value => cases hstep

/-- A run that is accepted is accepted without the output option. -/
theorem Behind.run {value : Bool} {texts : List String} {arguments : List Argument} (h : Behind value p p')
    (hread : Argument.ofTexts texts = .ok arguments) (hrun : arguments.foldlM step p = .ok q)
    (hfinish : q.finish = .ok (some o)) :
    ∃ arguments' q', Argument.ofTexts (withoutOutFrom value texts) = .ok arguments' ∧
      arguments'.foldlM step p' = .ok q' ∧ q'.finish = .ok (some o.onScreen) := by
  have hhelp := help_eq_false hrun hfinish
  induction texts generalizing value p p' arguments with
  | nil =>
    cases hread
    cases hrun
    exact ⟨[], p', rfl, rfl, (h.level_of_finish hhelp hfinish).finish_onScreen hfinish⟩
  | cons text texts ih =>
    by_cases hseparator : text = "--"
    · -- Behind a separator both runs read the same.
      subst hseparator
      cases hread
      have hlevel : p.BesideOut p' := by
        rw [List.foldlM_cons] at hrun
        obtain ⟨r, hstep, -⟩ := bind_eq_ok_iff.mp hrun
        exact h.level_of_separator hhelp hstep
      obtain ⟨q', hrun', hbeside⟩ := hlevel.foldlM kept_onScreen (by simp) hrun
      exact ⟨_, q', rfl, hrun', hbeside.finish_onScreen hfinish⟩
    · obtain ⟨argument, rest, hargument, hrest, rfl⟩ := (ofTexts_cons_eq_ok_iff hseparator).mp hread
      rw [List.foldlM_cons] at hrun
      obtain ⟨r, hstep, hmore⟩ := bind_eq_ok_iff.mp hrun
      have hrhelp := help_eq_false hmore hfinish
      rcases h.next hhelp hseparator hargument hstep texts with
        ⟨value', htexts, hbehind⟩ | ⟨htexts, r', hstep', hbeside⟩
      · rw [htexts]
        exact ih hbehind hrest hmore hrhelp
      · obtain ⟨rest', q', hrest', hrun', hfinish'⟩ := ih (.level hbeside) hrest hmore hrhelp
        rw [htexts]
        refine ⟨argument :: rest', q', ?_, ?_, hfinish'⟩
        · exact (ofTexts_cons_eq_ok_iff hseparator).mpr ⟨argument, rest', hargument, hrest', rfl⟩
        · rw [List.foldlM_cons, hstep']
          exact hrun'

end Progress

/-- Arguments that are accepted are accepted without the output option too. -/
theorem ofArguments_withoutOut {arguments : List String} (h : ofArguments arguments = .ok (some o)) :
    ofArguments (withoutOut arguments) = .ok (some o.onScreen) := by
  obtain ⟨read, hread, h⟩ := bind_eq_ok_iff.mp h
  obtain ⟨q, hrun, hfinish⟩ := bind_eq_ok_iff.mp h
  have hstart : Progress.Behind false {} {} := .level (Progress.beside_start rfl)
  obtain ⟨read', q', hread', hrun', hfinish'⟩ := hstart.run hread hrun hfinish
  exact bind_eq_ok_iff.mpr ⟨read', hread', bind_eq_ok_iff.mpr ⟨q', hrun', hfinish'⟩⟩

example : withoutOut ["--out", "a.md", "a", "--out=b.md", "--", "--out"] = ["a", "--", "--out"] := by
  decide +kernel

end ActorDiagram.Options
