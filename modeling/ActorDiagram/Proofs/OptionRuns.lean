import Mathlib
import ActorDiagram.CommandLine.Options
import ActorDiagram.Proofs.Results

/-!
# Two runs through arguments

Options can be kept alike through two runs that read the same arguments but for an option that only one of
them reads. What is alike is a relation; it is kept by all flags that both runs read.
-/

namespace ActorDiagram.Options

/-- A relation that is kept when both sides read the same source, or the same of some flags. -/
structure Kept (R : Options → Options → Prop) (both : Flag → Prop) : Prop where
  source : ∀ {o o' : Options} (path : Option Path), R o o' → R { o with source := path } { o' with source := path }
  set : ∀ {o o' q : Options} {flag : Flag} {value : String}, both flag → R o o' → o.set flag value = .ok q →
    ∃ q', o'.set flag value = .ok q' ∧ R q q'
  clear : ∀ {o o' : Options} {flag : Flag}, both flag → R o o' → R (o.clear flag) (o'.clear flag)

namespace Progress

/-- Progress of two runs with alike options. An argument next to the source in one of them may no longer be
next to it behind an option that the other passes over. -/
structure Beside (R : Options → Options → Prop) (both : Flag → Prop) (p p' : Progress) : Prop where
  options : R p.options p'.options
  help : p.help = p'.help
  pending : p.pending = p'.pending
  pending_both : ∀ flag, p.pending = some flag → both flag
  sourceRead : p.sourceRead = p'.sourceRead
  atSource : p.atSource = true → p'.atSource = true
  extras : p.extras = [] → p'.extras = []

variable {R : Options → Options → Prop} {both : Flag → Prop} {p p' q : Progress} {argument : Argument}

lemma beside_start (h : R {} {}) : Beside R both {} {} := ⟨h, rfl, rfl, nofun, rfl, id, id⟩

lemma Beside.plain (h : p.Beside R both p') (hR : Kept R both) (text : String) :
    (p.plain text).Beside R both (p'.plain text) := by
  unfold Progress.plain
  by_cases hread : p.sourceRead = true
  · rw [if_pos hread, if_pos (h.sourceRead ▸ hread)]
    exact ⟨h.options, h.help, h.pending, h.pending_both, h.sourceRead, id, fun hnil => by simp at hnil⟩
  · rw [if_neg hread, if_neg (h.sourceRead ▸ hread)]
    exact ⟨hR.source _ h.options, h.help, h.pending, h.pending_both, rfl, fun _ => rfl, h.extras⟩

lemma Beside.separator (h : p.Beside R both p') : p.separator.Beside R both p'.separator := by
  have hat := h.atSource
  have hread := h.sourceRead
  unfold Progress.separator
  split_ifs with hapart hapart' hapart'
  · exact ⟨h.options, h.help, h.pending, h.pending_both, hread, hat, fun hnil => by simp at hnil⟩
  · exact ⟨h.options, h.help, h.pending, h.pending_both, hread, hat, fun hnil => by simp at hnil⟩
  · -- What is apart from the source is apart from it with an option between them too.
    simp only [Bool.and_eq_true, Bool.not_eq_true', not_and, Bool.not_eq_false] at hapart hapart'
    rw [hat (hapart (hread.trans hapart'.1))] at hapart'
    cases hapart'.2
  · exact h

lemma Beside.set (h : p.Beside R both p') (hR : Kept R both) {flag : Flag} (hflag : both flag) {value : String}
    {f : Options → Progress} (hset : (p.options.set flag value).map f = .ok q) :
    ∃ o o', p.options.set flag value = .ok o ∧ p'.options.set flag value = .ok o' ∧ R o o' ∧ f o = q := by
  cases ho : p.options.set flag value with
  | error e =>
    rw [ho] at hset
    cases hset
  | ok o =>
    rw [ho] at hset
    cases hset
    obtain ⟨o', ho', hoo'⟩ := hR.set hflag h.options ho
    exact ⟨o, o', rfl, ho', hoo', rfl⟩

lemma Beside.option (h : p.Beside R both p') (hR : Kept R both) {flag : Flag} (hflag : both flag)
    {value : Option String} (hoption : p.option flag value = .ok q) :
    ∃ q', p'.option flag value = .ok q' ∧ q.Beside R both q' := by
  unfold Progress.option at hoption ⊢
  cases value with
  | none =>
    cases htakes : flag.takesValue with
    | true =>
      simp only [htakes] at hoption ⊢
      cases hoption
      refine ⟨_, rfl, h.options, h.help, rfl, ?_, h.sourceRead, id, h.extras⟩
      rintro flag' ⟨⟩
      exact hflag
    | false =>
      simp only [htakes] at hoption ⊢
      obtain ⟨o, o', -, ho', hoo', rfl⟩ := h.set hR hflag hoption
      rw [ho']
      exact ⟨_, rfl, hoo', rfl, h.pending, h.pending_both, h.sourceRead, id, h.extras⟩
  | some text =>
    cases htakes : flag.takesValue with
    | true =>
      simp only [htakes] at hoption ⊢
      by_cases hclear : text = "--"
      · rw [if_pos hclear] at hoption ⊢
        cases hoption
        exact ⟨_, rfl, hR.clear hflag h.options, h.help, h.pending, h.pending_both, h.sourceRead, id, h.extras⟩
      · rw [if_neg hclear] at hoption ⊢
        obtain ⟨o, o', -, ho', hoo', rfl⟩ := h.set hR hflag hoption
        rw [ho']
        exact ⟨_, rfl, hoo', h.help, h.pending, h.pending_both, h.sourceRead, id, h.extras⟩
    | false => simp [htakes] at hoption

theorem Beside.next (h : p.Beside R both p') (hR : Kept R both)
    (hboth : ∀ flag value, argument = .option flag value → both flag) (hstep : p.step argument = .ok q) :
    ∃ q', p'.step argument = .ok q' ∧ q.Beside R both q' := by
  unfold step at hstep ⊢
  by_cases hhelp : p.help = true
  · rw [if_pos hhelp] at hstep
    rw [if_pos (h.help ▸ hhelp)]
    cases hstep
    exact ⟨p', rfl, h⟩
  · rw [if_neg hhelp] at hstep
    rw [if_neg (h.help ▸ hhelp)]
    cases hpending : p.pending with
    | some flag =>
      simp only [hpending, ← h.pending] at hstep ⊢
      cases argument with
      | plain text =>
        obtain ⟨o, o', -, ho', hoo', rfl⟩ := h.set hR (h.pending_both flag hpending) hstep
        simp only [ho']
        exact ⟨_, rfl, hoo', h.help, rfl, nofun, h.sourceRead, h.atSource, h.extras⟩
      | separator | option | unknown => cases hstep
    | none =>
      have hpending' : p'.pending = none := h.pending.symm.trans hpending
      simp only [hpending] at hstep
      simp only [hpending']
      cases argument with
      | plain text =>
        cases hstep
        exact ⟨_, rfl, h.plain hR text⟩
      | separator =>
        cases hstep
        exact ⟨_, rfl, h.separator⟩
      | option flag value => exact h.option hR (hboth flag value rfl) hstep
      | unknown text =>
        cases hstep
        exact ⟨_, rfl, h.options, h.help, rfl, nofun, h.sourceRead, id, fun hnil => by simp at hnil⟩

theorem Beside.foldlM {arguments : List Argument} (h : p.Beside R both p') (hR : Kept R both)
    (hboth : ∀ flag value, .option flag value ∈ arguments → both flag) (hrun : arguments.foldlM step p = .ok q) :
    ∃ q', arguments.foldlM step p' = .ok q' ∧ q.Beside R both q' := by
  induction arguments generalizing p p' with
  | nil =>
    cases hrun
    exact ⟨p', rfl, h⟩
  | cons argument arguments ih =>
    rw [List.foldlM_cons] at hrun
    obtain ⟨r, hstep, hrun⟩ := bind_eq_ok_iff.mp hrun
    obtain ⟨r', hstep', hbeside⟩ :=
      h.next hR (fun flag value hargument => hboth flag value (hargument ▸ List.mem_cons_self)) hstep
    rw [List.foldlM_cons, hstep']
    exact ih hbeside (fun flag value hmem => hboth flag value (List.mem_cons_of_mem _ hmem)) hrun

lemma Beside.finish (h : p.Beside R both p') {asked : Option Options} (hfinish : p.finish = .ok asked) :
    ∃ asked', p'.finish = .ok asked' ∧ Option.Rel R asked asked' := by
  have hextras := h.extras
  unfold Progress.finish at hfinish ⊢
  rw [← h.help, ← h.pending]
  split_ifs at hfinish ⊢
  · cases hfinish
    exact ⟨none, rfl, .none⟩
  · split at hfinish
    · cases hfinish
    · rename_i hpending hnil
      cases hfinish
      rw [hextras hnil, hpending]
      exact ⟨some p'.options, rfl, .some h.options⟩
    · cases hfinish

end Progress

lemma ofTexts_cons_eq_ok_iff {text : String} (h : text ≠ "--") {texts : List String} {arguments : List Argument} :
    Argument.ofTexts (text :: texts) = .ok arguments ↔ ∃ argument rest, Argument.ofText text = .ok argument ∧
      Argument.ofTexts texts = .ok rest ∧ arguments = argument :: rest := by
  rw [Argument.ofTexts, if_neg h]
  constructor
  · intro hread
    obtain ⟨argument, hargument, hread⟩ := bind_eq_ok_iff.mp hread
    obtain ⟨rest, hrest, hread⟩ := bind_eq_ok_iff.mp hread
    cases hread
    exact ⟨argument, rest, hargument, hrest, rfl⟩
  · rintro ⟨argument, rest, hargument, hrest, rfl⟩
    exact bind_eq_ok_iff.mpr ⟨argument, hargument, bind_eq_ok_iff.mpr ⟨rest, hrest, rfl⟩⟩

end ActorDiagram.Options
