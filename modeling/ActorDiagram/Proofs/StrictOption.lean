import Mathlib
import ActorDiagram.Proofs.OptionRuns

/-!
# Without the strict option

Arguments that are accepted with the strict option are accepted without it, and ask for the same but for
strictness.
-/

namespace ActorDiagram.Options

/-- Arguments but for the strict option. Nothing behind a separator is an option. -/
def withoutStrict : List String → List String
  | [] => []
  | text :: texts =>
    if text = "--" then text :: texts
    else match Argument.ofText text with
      | .ok (.option .strict none) => withoutStrict texts
      | _ => text :: withoutStrict texts

/-- Options that are strict if `s` says so. -/
def strengthened (s : Bool) (o : Options) : Options := { o with strict := s || o.strict }

variable {o : Options} {s : Bool}

/-! ### One argument -/

lemma set_strengthened (flag : Flag) (value : String) :
    (o.strengthened s).set flag value = (o.set flag value).map (strengthened s) := by
  cases flag with
  | out | config | theme | title | help => rfl
  | strict => simp [set, strengthened, Except.map]
  | format =>
    unfold set
    cases choose .format OutputForm.name [.auto, .plain, .markdown] value <;> rfl
  | direction =>
    unfold set
    cases choose .direction Direction.name Direction.all (Text.toUpperCase value) <;> rfl

lemma clear_strengthened (flag : Flag) : (o.strengthened s).clear flag = (o.clear flag).strengthened s := by
  cases flag <;> rfl

/-- The first options are the second ones, maybe strict where those are not. -/
def Stricter (o o' : Options) : Prop := ∃ s, o = o'.strengthened s

/-- Options stay the stricter ones when both sides read the same. -/
lemma kept_stricter : Kept Stricter fun _ => True where
  source := by
    rintro o o' path ⟨s, rfl⟩
    exact ⟨s, rfl⟩
  set := by
    rintro o o' q flag value - ⟨s, rfl⟩ hset
    rw [set_strengthened, map_eq_ok_iff] at hset
    obtain ⟨q', hset', rfl⟩ := hset
    exact ⟨q', hset', s, rfl⟩
  clear := by
    rintro o o' flag - ⟨s, rfl⟩
    exact ⟨s, clear_strengthened flag⟩

namespace Progress

variable {p p' q : Progress} {argument : Argument}

lemma Beside.skip_strict (h : p.Beside Stricter (fun _ => True) p')
    (hstep : p.step (.option .strict none) = .ok q) : q.Beside Stricter (fun _ => True) p' := by
  unfold step at hstep
  split_ifs at hstep with hhelp
  · cases hstep
    exact h
  · cases hpending : p.pending with
    | some flag => simp [hpending] at hstep
    | none =>
      simp only [hpending] at hstep
      cases hstep
      obtain ⟨s, hs⟩ := h.options
      have hno : p'.help = false := by rw [← h.help]; simpa using hhelp
      refine ⟨⟨true, ?_⟩, hno.symm, h.pending, fun _ _ => trivial, h.sourceRead, nofun, h.extras⟩
      simp [hs, strengthened]

theorem Beside.foldlM_strict {arguments : List Argument} (h : p.Beside Stricter (fun _ => True) p')
    (hrun : arguments.foldlM step p = .ok q) :
    ∃ q', (arguments.filter (· != .option .strict none)).foldlM step p' = .ok q' ∧
      q.Beside Stricter (fun _ => True) q' := by
  induction arguments generalizing p p' with
  | nil =>
    cases hrun
    exact ⟨p', rfl, h⟩
  | cons argument arguments ih =>
    rw [List.foldlM_cons] at hrun
    obtain ⟨r, hstep, hmore⟩ := bind_eq_ok_iff.mp hrun
    by_cases hstrict : argument = .option .strict none
    · -- Only one of the two runs reads the strict option.
      subst hstrict
      rw [List.filter_cons_of_neg (by simp)]
      exact ih (h.skip_strict hstep) hmore
    · obtain ⟨r', hstep', hbeside⟩ := h.next kept_stricter (fun _ _ _ => trivial) hstep
      rw [List.filter_cons_of_pos (by simpa using hstrict), List.foldlM_cons, hstep']
      exact ih hbeside hmore

end Progress

/-! ### All arguments -/

lemma withoutStrict_separator (texts : List String) : withoutStrict ("--" :: texts) = "--" :: texts := rfl

lemma withoutStrict_cons {text : String} {argument : Argument} (h : text ≠ "--")
    (hargument : Argument.ofText text = .ok argument) (texts : List String) :
    withoutStrict (text :: texts) =
      if argument = .option .strict none then withoutStrict texts else text :: withoutStrict texts := by
  rw [withoutStrict, if_neg h, hargument]
  split
  · rename_i heq
    cases heq
    rw [if_pos rfl]
  · rename_i hne
    exact (if_neg fun heq => hne (congrArg Except.ok heq)).symm

lemma ofTexts_withoutStrict {texts : List String} {arguments : List Argument}
    (h : Argument.ofTexts texts = .ok arguments) : Argument.ofTexts (withoutStrict texts) =
      .ok (arguments.filter (· != .option .strict none)) := by
  induction texts generalizing arguments with
  | nil =>
    cases h
    rfl
  | cons text texts ih =>
    by_cases hseparator : text = "--"
    · subst hseparator
      cases h
      rw [withoutStrict_separator, List.filter_eq_self.mpr (by simp)]
      rfl
    · obtain ⟨argument, rest, hargument, hrest, rfl⟩ := (ofTexts_cons_eq_ok_iff hseparator).mp h
      rw [withoutStrict_cons hseparator hargument]
      split_ifs with hstrict
      · rw [List.filter_cons_of_neg (by simp [hstrict])]
        exact ih hrest
      · rw [List.filter_cons_of_pos (by simpa using hstrict)]
        exact (ofTexts_cons_eq_ok_iff hseparator).mpr ⟨argument, _, hargument, ih hrest, rfl⟩

example : withoutStrict ["--strict", "a", "--", "--strict"] = ["a", "--", "--strict"] := by decide +kernel

/-- Arguments that are accepted are accepted without the strict option too. -/
theorem ofArguments_withoutStrict {arguments : List String} {asked : Option Options}
    (h : ofArguments arguments = .ok asked) :
    ∃ s asked', ofArguments (withoutStrict arguments) = .ok asked' ∧ asked = asked'.map (strengthened s) := by
  obtain ⟨read, hread, h⟩ := bind_eq_ok_iff.mp h
  obtain ⟨p, hrun, h⟩ := bind_eq_ok_iff.mp h
  have hstart : Progress.Beside Stricter (fun _ => True) {} {} := Progress.beside_start ⟨false, rfl⟩
  obtain ⟨p', hrun', hbeside⟩ := hstart.foldlM_strict hrun
  obtain ⟨asked', hfinish, hasked⟩ := hbeside.finish h
  obtain ⟨s, hs⟩ : ∃ s, asked = asked'.map (strengthened s) := by
    cases hasked with
    | none => exact ⟨false, rfl⟩
    | some hstricter =>
      obtain ⟨s, rfl⟩ := hstricter
      exact ⟨s, rfl⟩
  refine ⟨s, asked', ?_, hs⟩
  exact bind_eq_ok_iff.mpr ⟨_, ofTexts_withoutStrict hread, bind_eq_ok_iff.mpr ⟨p', hrun', hfinish⟩⟩

end ActorDiagram.Options
