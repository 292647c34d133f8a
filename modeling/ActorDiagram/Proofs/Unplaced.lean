import Mathlib
import ActorDiagram.Drawing
import ActorDiagram.Proofs.Likeness

/-!
# What is left without places

States, actions and failures without the places they point at, and without the expressions that a
diagram does not show. What a reference means is told by what is left.
-/

namespace ActorDiagram

/-! ### States -/

/-- State without the place of its declaration. -/
def DeclaredState.unplaced (d : DeclaredState) : DeclaredState := { d with line := 0, column := 0 }

namespace StateIndex

variable {states states' : StateIndex}

/-- States without the places of their declarations. -/
def unplaced (states : StateIndex) : StateIndex := ⟨states.decls.map DeclaredState.unplaced⟩

lemma ids_unplaced (states : StateIndex) : states.unplaced.ids = states.ids := by
  unfold unplaced ids
  rw [List.map_map]
  rfl

lemma contains_unplaced (states : StateIndex) : states.unplaced.contains = states.contains := by
  funext id
  unfold contains
  rw [ids_unplaced]

lemma named_unplaced (states : StateIndex) (name : String) :
    states.unplaced.named name = states.named name := by
  unfold named unplaced
  rw [List.filter_map, List.map_map]
  rfl

lemma candidates_unplaced (states : StateIndex) (ref : String) :
    states.unplaced.candidates ref = states.candidates ref := by
  unfold candidates endingIn
  rw [named_unplaced, ids_unplaced]

lemma lookup_unplaced (states : StateIndex) (ref : String) (line column : Option Int) :
    states.unplaced.lookup ref line column = states.lookup ref line column := by
  unfold lookup longestTail?
  rw [contains_unplaced, candidates_unplaced]

lemma stateNames_unplaced (states : StateIndex) :
    states.unplaced.stateNames = states.stateNames := by
  have hfind : ∀ (decls : List DeclaredState) (id : String),
      ((decls.map DeclaredState.unplaced).find? (·.id == id)).map (fun d => (id, d.name)) =
        (decls.find? (·.id == id)).map fun d => (id, d.name) := by
    intro decls id
    rw [List.find?_map, Option.map_map]
    rfl
  unfold stateNames
  rw [ids_unplaced]
  apply List.filterMap_congr
  intro id _
  rw [unplaced, ← List.map_reverse]
  exact hfind _ id

/-- A reference means the same at corresponding places. -/
lemma lookup_agree {σ : Likeness} (h : states.unplaced = states'.unplaced) (ref : String)
    {p q : Position} (hpq : σ.place p q) :
    σ.Agree Eq (states.lookup ref (some p.line) (some p.column))
      (states'.lookup ref (some q.line) (some q.column)) := by
  rw [← lookup_unplaced states, ← lookup_unplaced states', h]
  unfold lookup
  split
  · rfl
  · split
    · rfl
    · rfl
    · exact .source _ hpq

end StateIndex

/-! ### Actions and branches -/

/-- Action without payload and reason. -/
def Action.bare : Action → Action
  | .goto target _ => .goto target none
  | .stay _ => .stay none
  | .stop failure _ => .stop failure none
  | .call name => .call name
  | .unresolved name => .unresolved name

/-- Branches with the same label and the same action. Labels count where literals do. -/
def Branch.Alike (σ : Likeness) (b b' : Branch) : Prop :=
  b.action.bare = b'.action.bare ∧ (σ.exact → b.label = b'.label)

lemma Branch.Alike.under {σ : Likeness} {b b' : Branch} (h : b.Alike σ b') {label label' : String}
    (hlabel : σ.exact → label = label') : (b.under label).Alike σ (b'.under label') := by
  refine ⟨h.1, ?_⟩
  intro hexact
  rw [Branch.under, Branch.under, h.2 hexact, hlabel hexact]

lemma Branch.Alike.labelled {σ : Likeness} {b b' : Branch} (h : b.Alike σ b') {event event' : String}
    (hevent : σ.exact → event = event') (fanOut : Bool) (hexact : σ.exact) :
    b.labelled event fanOut = b'.labelled event' fanOut := by
  unfold Branch.labelled
  rw [h.2 hexact, hevent hexact]

/-- Actions that do the same are calls of one helper or both no calls. -/
lemma Action.call_or_not {a a' : Action} (h : a.bare = a'.bare) :
    (∃ name, a = .call name ∧ a' = .call name) ∨
      (∀ name, a ≠ .call name) ∧ ∀ name, a' ≠ .call name := by
  have hcall : ∀ {a : Action} {name : String}, a.bare = .call name → a = .call name := by
    intro a name ha
    cases a with
    | call name' => exact ha
    | goto _ _ | stay _ | stop _ _ | unresolved _ => cases ha
  by_cases ha : ∃ name, a = .call name
  · obtain ⟨name, rfl⟩ := ha
    exact .inl ⟨name, rfl, hcall h.symm⟩
  · refine .inr ⟨fun name hn => ha ⟨name, hn⟩, ?_⟩
    rintro name rfl
    exact ha ⟨name, hcall h⟩

/-! ### Clauses, transitions and findings -/

/-- Clauses of one state that do the same for the same event. -/
structure Clause.Alike (σ : Likeness) (c c' : Clause) : Prop where
  source : c.source = c'.source
  event : σ.exact → c.event = c'.event
  action : c.action.bare = c'.action.bare
  line : σ.Line c.line c'.line

/-- Transitions of one state that do the same under the same label. -/
structure Transition.Alike (σ : Likeness) (t t' : Transition) : Prop where
  source : t.source = t'.source
  label : σ.exact → t.label = t'.label
  action : t.action.bare = t'.action.bare
  line : σ.Line t.line t'.line

/-- Helpers of one name with the same outcomes. -/
structure Helper.Alike (σ : Likeness) (f f' : Helper) : Prop where
  name : f.name = f'.name
  branches : List.Forall₂ (Branch.Alike σ) f.branches f'.branches

/-- Findings of one kind that say the same about corresponding lines. -/
structure Finding.Alike (σ : Likeness) (f f' : Finding) : Prop where
  code : f.code = f'.code
  message : σ.exact → f.message = f'.message
  line : Option.Rel σ.Line f.line f'.line
  hint : f.hint = f'.hint

/-! ### Failures and issues -/

/-- Failure without the place it points at. -/
def Error.unplaced : Error → Error
  | .source cause _ _ => .source cause none none
  | e => e

lemma Likeness.Fault.unplaced {σ : Likeness} {e e' : Error} (h : σ.Fault e e') :
    e.unplaced = e'.unplaced := by
  cases h <;> rfl

/-- Issue without the line it is about. -/
def Issue.unplaced (issue : Issue) : Issue := { issue with line := none }

end ActorDiagram
