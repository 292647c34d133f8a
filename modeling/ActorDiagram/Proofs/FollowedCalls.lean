import Mathlib
import ActorDiagram.Proofs.Answers
import ActorDiagram.Proofs.CallOrigin
import ActorDiagram.Proofs.NoSilentLoss

/-!
# Calls are followed one level deep

Each clause gives way to a group of transitions that is never empty: itself, or what the branches of the
helper do that it calls. A call that leads to no branch, or to another call, is left unresolved, and each
unresolved transition has its own finding.
-/

namespace ActorDiagram

namespace Action

/-- The destination is not known. -/
def isUnresolved : Action → Bool
  | .unresolved _ => true
  | .goto _ _ | .stay _ | .stop _ _ | .call _ => false

/-- What a branch of a helper does for a clause that calls the helper. -/
def oneLevelDeep : Action → Action
  | .call name => .unresolved name
  | .goto target payload => .goto target payload
  | .stay payload => .stay payload
  | .stop failure reason => .stop failure reason
  | .unresolved name => .unresolved name

end Action

/-! ### Groups of transitions -/

namespace Clause

variable {helpers : List Helper} {c : Clause}

/-- The transition for a branch of the helper that a clause calls. The label of the branch is added if
it has one and is not alone. -/
structure Takes (c : Clause) (f : Helper) (b : Branch) (t : Transition) : Prop where
  source : t.source = c.source
  line : t.line = c.line
  action : t.action = b.action.oneLevelDeep
  label : t.label = if 1 < f.branches.length ∧ b.label.getD "" ≠ "" then
    c.event ++ "/" ++ b.label.getD "" else c.event

/-- Transitions that take the place of a clause. Of several helpers with one name the first counts. -/
inductive GivesWay (helpers : List Helper) (c : Clause) : List Transition → Prop
  /-- The clause calls no helper. -/
  | kept (h : ∀ name, c.action ≠ .call name) :
    GivesWay helpers c [⟨c.source, c.event, c.action, c.line⟩]
  /-- There is no helper of the name that is called, or it has no branch. -/
  | lost {name : String} (h : c.action = .call name)
    (hnone : ∀ f, helpers.find? (·.name == name) = some f → f.branches = []) :
    GivesWay helpers c [⟨c.source, c.event, .unresolved name, c.line⟩]
  /-- The branches of the helper, in order. -/
  | followed {name : String} {f : Helper} {group : List Transition} (h : c.action = .call name)
    (hf : helpers.find? (·.name == name) = some f) (hne : f.branches ≠ [])
    (hgroup : List.Forall₂ (c.Takes f) f.branches group) : GivesWay helpers c group

lemma GivesWay.ne_nil {group : List Transition} (h : c.GivesWay helpers group) : group ≠ [] := by
  cases h with
  | kept | lost => simp
  | followed _ _ hne hgroup =>
    rintro rfl
    exact hne (List.forall₂_nil_right_iff.mp hgroup)

end Clause

lemma Branch.labelled_eq (event : String) (fanOut : Prop) [Decidable fanOut] (b : Branch) :
    b.labelled event (decide fanOut) =
      if fanOut ∧ b.label.getD "" ≠ "" then event ++ "/" ++ b.label.getD "" else event := by
  unfold Branch.labelled
  cases b.label with
  | none => simp
  | some label =>
    by_cases hlabel : label = ""
    · simp [Branch.nonempty?, hlabel]
    · simp [Branch.nonempty?, hlabel]

namespace Clause

variable {helpers : List Helper} {c : Clause}

lemma takes_takeBranch (c : Clause) (f : Helper) (b : Branch) : c.Takes f b (c.takeBranch f b).1 := by
  have hlabel := b.labelled_eq c.event (1 < f.branches.length)
  rcases c.takeBranch_cases f b with ⟨callee, hcall, htaken⟩ | ⟨hcall, htaken⟩ <;> rw [htaken]
  · exact ⟨rfl, rfl, by rw [hcall]; rfl, hlabel⟩
  · refine ⟨rfl, rfl, ?_, hlabel⟩
    cases haction : b.action with
    | call callee => exact absurd haction (hcall callee)
    | goto | stay | stop | unresolved => rfl

/-- What takes the place of a clause. -/
theorem givesWay_expand (helpers : List Helper) (c : Clause) :
    c.GivesWay helpers ((c.expand helpers).map (·.1)) := by
  rcases c.expand_cases helpers with ⟨hcall, h⟩ | ⟨name, hname, ⟨reason, hnone, h⟩ | ⟨f, hf, hne, h⟩⟩ <;>
    rw [h]
  · exact .kept hcall
  · exact .lost hname hnone
  · refine .followed hname hf hne ?_
    rw [List.map_map, List.forall₂_map_right_iff, List.forall₂_same]
    exact fun b _ => c.takes_takeBranch f b

end Clause

/-! ### Findings in step -/

/-- Clauses and branches as they are read: nothing is unresolved before calls are followed. -/
structure Blocks.Unfollowed (blocks : Blocks) (helpers : List Helper) : Prop where
  clauses : ∀ c ∈ blocks.clauses, c.action.isUnresolved = false
  branches : ∀ f ∈ helpers, ∀ b ∈ f.branches, b.action.isUnresolved = false

/-- The finding tells of the transition. -/
def Transition.ToldBy (t : Transition) (f : Finding) : Prop :=
  f.code = Finding.unresolvedCall ∧ f.line = some t.line

/-- A transition with one finding if it is unresolved, and with none otherwise. -/
def InStep (part : Transition × List Finding) : Prop :=
  List.Forall₂ Transition.ToldBy ([part.1].filter (·.action.isUnresolved)) part.2

lemma inStep_resolved {t : Transition} (h : t.action.isUnresolved = false) : InStep (t, []) := by
  rw [InStep, List.filter_cons_of_neg (by simp [h]), List.filter_nil]
  exact .nil

lemma inStep_unresolved {t : Transition} {f : Finding} (h : t.action.isUnresolved = true)
    (hf : t.ToldBy f) : InStep (t, [f]) := by
  rw [InStep, List.filter_cons_of_pos (by simp [h]), List.filter_nil]
  exact .cons hf .nil

lemma Clause.inStep_takeBranch (c : Clause) (f : Helper) {b : Branch}
    (h : b.action.isUnresolved = false) : InStep (c.takeBranch f b) := by
  rcases c.takeBranch_cases f b with ⟨callee, -, htaken⟩ | ⟨-, htaken⟩ <;> rw [htaken]
  · exact inStep_unresolved rfl ⟨rfl, rfl⟩
  · exact inStep_resolved h

lemma Clause.inStep_expand {helpers : List Helper} {c : Clause} (h : c.action.isUnresolved = false)
    (hbranches : ∀ f ∈ helpers, ∀ b ∈ f.branches, b.action.isUnresolved = false) :
    ∀ part ∈ c.expand helpers, InStep part := by
  rcases c.expand_cases helpers with ⟨-, heq⟩ | ⟨name, -, ⟨reason, -, heq⟩ | ⟨f, hf, -, heq⟩⟩ <;> rw [heq]
  · exact List.forall_mem_singleton.mpr (inStep_resolved h)
  · exact List.forall_mem_singleton.mpr (inStep_unresolved rfl ⟨rfl, rfl⟩)
  · exact List.forall_mem_map.mpr fun b hb =>
      c.inStep_takeBranch f (hbranches f (List.mem_of_find?_eq_some hf) b hb)

lemma forall₂_of_inStep {parts : List (Transition × List Finding)} (h : ∀ part ∈ parts, InStep part) :
    List.Forall₂ Transition.ToldBy ((parts.map (·.1)).filter (·.action.isUnresolved))
      (parts.flatMap (·.2)) := by
  induction parts with
  | nil => exact .nil
  | cons part parts ih =>
    rw [List.forall_mem_cons] at h
    rw [List.map_cons, ← List.singleton_append, List.filter_append, List.flatMap_cons]
    exact List.rel_append h.1 (ih h.2)

lemma IssueRules.apply_append (rules : IssueRules) (fs gs : List Finding) :
    rules.apply (fs ++ gs) = rules.apply fs ++ rules.apply gs := List.filterMap_append

lemma IssueRules.forall₂_apply (rules : IssueRules) {code : String} (hcode : code ∉ rules.ignore)
    {ts : List Transition} {fs : List Finding} (hall : List.Forall₂ Transition.ToldBy ts fs)
    (h : ∀ f ∈ fs, f.code = code) :
    List.Forall₂ (fun t issue => t.ToldBy issue.toFinding) ts (rules.apply fs) := by
  induction hall with
  | nil => exact .nil
  | cons htold hall ih =>
    rw [List.forall_mem_cons] at h
    rw [apply, List.filterMap_cons_some (by rw [issue?, h.1, if_neg (by simpa using hcode)])]
    exact .cons htold (ih h.2)

/-! ### All clauses -/

namespace Blocks

/-- Calls are followed one level deep, and nothing is lost. -/
structure FollowedOneLevel (blocks : Blocks) (helpers : List Helper) : Prop where
  /-- The transitions are those in place of each clause, in order. -/
  groups : ∃ groups, List.Forall₂ (Clause.GivesWay helpers) blocks.clauses groups ∧ [] ∉ groups ∧
    (blocks.followHelpers helpers).1 = groups.flatten
  noCall : ∀ t ∈ (blocks.followHelpers helpers).1, ∀ name, t.action ≠ .call name
  hasGraph : ∀ states sources,
    ∃ x, Graph.ofClauses states sources (blocks.followHelpers helpers).1 = .ok x
  /-- A log that keeps the code grows by one issue for each unresolved transition, in order. -/
  told : ∀ rules : IssueRules, Finding.unresolvedCall ∉ rules.ignore → ∀ before, ∃ issues,
    rules.apply (before ++ (blocks.followHelpers helpers).2) = rules.apply before ++ issues ∧
      List.Forall₂ (fun t issue => t.ToldBy issue.toFinding)
        ((blocks.followHelpers helpers).1.filter (·.action.isUnresolved)) issues

variable {blocks : Blocks} {helpers : List Helper}

lemma forall₂_givesWay (blocks : Blocks) (helpers : List Helper) :
    List.Forall₂ (Clause.GivesWay helpers) blocks.clauses
      (blocks.clauses.map fun c => (c.expand helpers).map (·.1)) := by
  rw [List.forall₂_map_right_iff, List.forall₂_same]
  exact fun c _ => c.givesWay_expand helpers

lemma followHelpers_eq_flatten (blocks : Blocks) (helpers : List Helper) :
    (blocks.followHelpers helpers).1 =
      (blocks.clauses.map fun c => (c.expand helpers).map (·.1)).flatten := by
  rw [followHelpers, List.map_flatMap, List.flatMap_def]

lemma Unfollowed.forall₂_toldBy (h : blocks.Unfollowed helpers) :
    List.Forall₂ Transition.ToldBy
      ((blocks.followHelpers helpers).1.filter (·.action.isUnresolved))
      (blocks.followHelpers helpers).2 := by
  refine forall₂_of_inStep fun part hpart => ?_
  obtain ⟨c, hc, hpart⟩ := List.mem_flatMap.mp hpart
  exact Clause.inStep_expand (h.clauses c hc) h.branches part hpart

/-- Clauses with any helpers, among them such as call each other. -/
theorem Unfollowed.followedOneLevel (h : blocks.Unfollowed helpers) :
    blocks.FollowedOneLevel helpers where
  groups := by
    have hall := blocks.forall₂_givesWay helpers
    refine ⟨_, hall, fun hmem => ?_, blocks.followHelpers_eq_flatten helpers⟩
    obtain ⟨c, -, hgives⟩ := exists_of_mem_left hall.flip hmem
    exact hgives.ne_nil rfl
  noCall t ht := blocks.action_of_followHelpers helpers ht
  hasGraph states sources :=
    Graph.exists_ofClauses states sources fun t ht => blocks.action_of_followHelpers helpers ht
  told rules hkept before := by
    exact ⟨_, rules.apply_append _ _,
      rules.forall₂_apply hkept h.forall₂_toldBy (blocks.followHelpers_findings helpers)⟩

end Blocks

/-! ### Clauses and helpers of a stream -/

/-- A search gives what a directive does, or a call. -/
lemma Directive.isUnresolved_of_find? {s : Stream} {states : StateIndex} {bound : List String}
    {start stop : Nat} {a : Action} (h : find? s states bound start stop = .ok (some a)) :
    a.isUnresolved = false := by
  rcases find?_eq_some_iff.mp h with ⟨k, -, -, hk, -⟩ | ⟨-, k, -, -, hk, -⟩
  · have := isDirective_of_at? hk
    cases a <;> first | rfl | cases this
  · obtain ⟨t, -, rfl⟩ := call?_eq_some_iff.mp hk
    rfl

namespace Body

variable {s : Stream} {states : StateIndex} {read : Reader} {bound : List String} {bs : List Branch}

/-- Every outcome is what a directive does, or a call. -/
def Found (bs : List Branch) : Prop := ∀ b ∈ bs, b.action.isUnresolved = false

lemma found_append {bs bs' : List Branch} : Found (bs ++ bs') ↔ Found bs ∧ Found bs' :=
  List.forall_mem_append

lemma found_arm {label : String} {start stop : Nat}
    (hread : ∀ start stop bound bs, read start stop bound = .ok bs → Found bs)
    (h : arm read s bound label start stop = .ok bs) : Found bs := by
  obtain ⟨⟨start', stop'⟩, -, h⟩ := bind_eq_ok_iff.mp h
  obtain ⟨inner, hinner, h⟩ := bind_eq_ok_iff.mp h
  cases h
  exact List.forall_mem_map.mpr (hread _ _ _ _ hinner)

lemma found_conditional {stop fuel i : Nat}
    (hread : ∀ start stop bound bs, read start stop bound = .ok bs → Found bs)
    (h : conditional read s bound stop fuel i = .ok bs) : Found bs := by
  induction fuel generalizing i bs with
  | zero => cases h
  | succ fuel ih =>
    rw [conditional_succ] at h
    obtain ⟨close, -, h⟩ := bind_eq_ok_iff.mp h
    obtain ⟨thenEnd, -, h⟩ := bind_eq_ok_iff.mp h
    obtain ⟨branches, hbranches, h⟩ := bind_eq_ok_iff.mp h
    have hthen := found_arm hread hbranches
    split_ifs at h
    · cases h
      exact hthen
    · obtain ⟨others, hothers, h⟩ := bind_eq_ok_iff.mp h
      cases h
      exact found_append.mpr ⟨hthen, ih hothers⟩
    · obtain ⟨elseEnd, -, h⟩ := bind_eq_ok_iff.mp h
      obtain ⟨others, hothers, h⟩ := bind_eq_ok_iff.mp h
      cases h
      exact found_append.mpr ⟨hthen, found_arm hread hothers⟩

lemma found_ofArms {arms : List Arm}
    (hread : ∀ start stop bound bs, read start stop bound = .ok bs → Found bs)
    (h : ofArms read s bound arms = .ok bs) : Found bs := by
  intro b hb
  obtain ⟨a, -, names, inner, -, hinner, c, hc, hbc⟩ := exists_arm_of_mem h hb
  rw [hbc]
  exact hread _ _ _ _ hinner c hc

lemma found_branchesWithin {limit start stop : Nat}
    (h : branchesWithin s states limit start stop bound = .ok bs) : Found bs := by
  induction limit generalizing start stop bound bs with
  | zero => cases h
  | succ limit ih =>
    have hread : ∀ start stop bound bs,
        branchesWithin s states limit start stop bound = .ok bs → Found bs :=
      fun _ _ _ _ h => ih h
    rw [branchesWithin] at h
    unfold branchesWith at h
    split_ifs at h
    · cases h
      exact List.forall_mem_nil _
    · obtain ⟨tokens, -, h⟩ := bind_eq_ok_iff.mp h
      obtain ⟨found, hfound, h⟩ := bind_eq_ok_iff.mp h
      cases found with
      | some branches =>
        cases h
        obtain ⟨i, t, -, -, -, ⟨-, -, arms, -, harms⟩ | ⟨-, hchain⟩⟩ := exists_of_branching hfound
        · exact found_ofArms hread harms
        · exact found_conditional hread hchain
      | none =>
        obtain ⟨action, haction, h⟩ := bind_eq_ok_iff.mp h
        cases h
        intro b hb
        obtain ⟨a, ha, rfl⟩ := List.mem_map.mp hb
        rw [Option.mem_toList] at ha
        cases ha
        exact Directive.isUnresolved_of_find? haction

end Body

/-- The clauses and helpers that a stream gives. -/
theorem Blocks.unfollowed_ofStream {s : Stream} {states : StateIndex} {blocks : Blocks}
    {findings : List Finding} {helpers : List Helper}
    (hblocks : Blocks.ofStream s states = .ok (blocks, findings))
    (hhelpers : Helper.ofStream s states = .ok helpers) : blocks.Unfollowed helpers where
  clauses c hc := by
    obtain ⟨head, a, names, -, bs, hbs, b, hb, haction⟩ := exists_clauseOf hblocks hc
    rw [haction]
    exact Body.found_branchesWithin hbs b hb
  branches f hf := by
    rcases Helper.exists_definedAt hhelpers hf with hknown | ⟨i, start, stop, params, hdefined⟩
    · cases hknown
    · exact Body.found_branchesWithin hdefined.branches

/-- Clauses with two helpers that call each other, and calls of one without an outcome and of none. -/
def crossCalls : String :=
  "def ping() = pong() def pong() = ping() def idle() = 1 def route() = if (x) goto(B) else ping()\n" ++
    "when(A) \x7b case G => route() case F => stay() case E => ping() case D => idle() case C => gone() \x7d"

theorem Blocks.followedOneLevel_crossCalls : ∃ s blocks findings helpers, Stream.ofText crossCalls = .ok s ∧
    Blocks.ofStream s .empty = .ok (blocks, findings) ∧ Helper.ofStream s .empty = .ok helpers ∧
    blocks.Unfollowed helpers ∧ blocks.FollowedOneLevel helpers ∧
    (blocks.followHelpers helpers).1 = [⟨"A", "G/x", .goto "B" none, 2⟩,
      ⟨"A", "G/else", .unresolved "ping", 2⟩, ⟨"A", "F", .stay none, 2⟩, ⟨"A", "E", .unresolved "pong", 2⟩,
      ⟨"A", "D", .unresolved "idle", 2⟩, ⟨"A", "C", .unresolved "gone", 2⟩] := by
  have hrun : (Stream.ofText crossCalls).map (fun s => (Blocks.ofStream s .empty,
      Helper.ofStream s .empty)) =
      .ok (.ok (⟨[⟨"A", "G", .call "route", 2⟩, ⟨"A", "F", .stay none, 2⟩, ⟨"A", "E", .call "ping", 2⟩,
          ⟨"A", "D", .call "idle", 2⟩, ⟨"A", "C", .call "gone", 2⟩], ["A"]⟩, []),
        .ok [⟨"ping", [⟨none, .call "pong"⟩], 1⟩, ⟨"pong", [⟨none, .call "ping"⟩], 1⟩, ⟨"idle", [], 1⟩,
          ⟨"route", [⟨some "x", .goto "B" none⟩, ⟨some "else", .call "ping"⟩], 1⟩]) := by
    decide +kernel
  obtain ⟨s, h, hrun⟩ := map_eq_ok_iff.mp hrun
  obtain ⟨hblocks, hhelpers⟩ := Prod.mk.inj hrun
  have hread := Blocks.unfollowed_ofStream hblocks hhelpers
  exact ⟨s, _, _, _, h, hblocks, hhelpers, hread, hread.followedOneLevel, by decide⟩

end ActorDiagram
