import Mathlib
import ActorDiagram.Proofs.GraphAlike
import ActorDiagram.Proofs.LockstepHelper
import ActorDiagram.Proofs.Partners
import ActorDiagram.Proofs.WindowBody

/-!
# Layout

Two texts with the same words give the same diagram: layout and comments show only in the places that
failures and issues point at.
-/

namespace ActorDiagram

/-! ### Streams of alike lexemes -/

namespace Stream

variable {σ : Likeness} {s s' : Stream} {ls ls' : List Lexeme}

/-- Alike lexemes make streams that are in lockstep everywhere. -/
theorem lockstep_of_alike (h : List.Forall₂ (Lexeme.Alike σ) ls ls') :
    Lockstep σ Eq (ofLexemes ls) (ofLexemes ls') := by
  have hnil : Balanced (wordsOf []) := balanced_nil
  have heq : Spliced 0 0 0 = Eq := by
    funext i j
    unfold Spliced
    rw [eq_iff_iff]
    omega
  have hsplice := lockstep_of_splice .nil hnil hnil h (.inl ⟨rfl, rfl⟩)
  simpa only [List.nil_append, List.length_nil, heq] using hsplice

/-- Only closing brackets are unexpected. -/
def StraysClose (s : Stream) : Prop :=
  ∀ i t, s.roles[i]? = some .unexpected → s.get? i = some t → t.word.closes?.isSome = true

lemma isLiteral_eq_false_of_closes? {t : Lexeme} (h : t.word.closes?.isSome = true) :
    t.kind.isLiteral = false := by
  rw [Lexeme.kind_of_closes? h]
  rfl

theorem straysClose_ofLexemes (ls : List Lexeme) : (ofLexemes ls).StraysClose :=
  fun i t hrole ht => (BracketState.paired_run ls).fits i t .unexpected ht hrole

namespace Lockstep

lemma size_eq (h : Lockstep σ Eq s s') : s.size = s'.size := by
  have hlt := @lt_size σ Eq s s' s.size s.size h rfl
  have hlt' := @lt_size σ Eq s s' s'.size s'.size h rfl
  omega

lemma tokens_alike (h : Lockstep σ Eq s s') :
    List.Forall₂ (Token.Alike σ 0 0) s.tokens.toList s'.tokens.toList := by
  rw [List.forall₂_iff_get]
  refine ⟨h.size_eq, ?_⟩
  intro i hi hi'
  have hget := h.get i i rfl
  unfold get? at hget
  rw [Array.length_toList] at hi hi'
  rw [Array.getElem?_eq_getElem hi, Array.getElem?_eq_getElem hi'] at hget
  cases hget with
  | some halike => simpa using halike

/-- Tokens at the same place lie equally deep. -/
theorem depths_eq (h : Lockstep σ Eq s s') :
    s.tokens.toList.map (·.depth) = s'.tokens.toList.map (·.depth) :=
  map_eq_of_forall₂ h.tokens_alike fun _ _ halike => by simpa using halike.depth

lemma role_eq {r r' : BracketRole} (h : r.Alike Eq r') : r = r' := by
  cases h with
  | plain | unclosed | unexpected => rfl
  | opener hc | closer hc => rw [hc]

lemma roles_eq (h : Lockstep σ Eq s s') : s.roles = s'.roles := by
  apply Array.ext_getElem?
  intro i
  have hrole := h.role i i rfl
  cases hr : s.roles[i]? with
  | none =>
    rw [hr] at hrole
    exact (eq_none_of_rel_none hrole).symm
  | some r =>
    rw [hr] at hrole
    obtain ⟨r', hr', hrr⟩ := exists_of_rel_some hrole
    rw [hr', role_eq hrr]

/-- The same brackets are pairs. -/
theorem pairs_eq (h : Lockstep σ Eq s s') : s.pairs = s'.pairs := by
  unfold pairs
  rw [h.roles_eq]

lemma problems_alike (h : Lockstep σ Eq s s') (hmarks : σ.exact ∨ s.StraysClose) :
    List.Forall₂ (fun p p' => ∃ a b, σ.place a b ∧ p.cause = p'.cause ∧ p.line = a.line ∧
      p'.line = b.line ∧ p.column = a.column ∧ p'.column = b.column) s.problems s'.problems := by
  unfold problems
  rw [← h.roles_eq]
  have hzip : ∀ {ts ts' : List Token}, List.Forall₂ (Token.Alike σ 0 0) ts ts' →
      ∀ rs : List BracketRole, List.Forall₂ (fun x y => x.1.Alike σ 0 0 y.1 ∧ x.2 = y.2)
        (ts.zip rs) (ts'.zip rs) := by
    intro ts ts' hts
    induction hts with
    | nil =>
      intro rs
      exact .nil
    | cons halike _ ih =>
      intro rs
      cases rs with
      | nil => exact .nil
      | cons r rs => exact .cons ⟨halike, rfl⟩ (ih rs)
  have hstray : ∀ x ∈ s.tokens.toList.zip s.roles.toList,
      σ.exact ∨ (x.2 = .unexpected → x.1.word.closes?.isSome = true) := by
    intro x hx
    obtain ⟨i, hi⟩ := List.mem_iff_getElem?.mp hx
    rw [List.getElem?_zip_eq_some, Array.getElem?_toList, Array.getElem?_toList] at hi
    refine hmarks.imp_right fun hs hx => hs i x.1 ?_ hi.1
    rw [hi.2, hx]
  refine List.rel_filterMap ?_ (List.forall₂_and_left _ _ |>.mpr ⟨hstray, hzip h.tokens_alike _⟩)
  rintro ⟨t, r⟩ ⟨t', _⟩ ⟨hstray, halike, rfl⟩
  simp only at halike hstray ⊢
  cases r with
  | plain | opener _ | closer _ => exact .none
  | unclosed => exact .some ⟨t.start, t'.start, halike.place, rfl, rfl, rfl, rfl, rfl⟩
  | unexpected =>
    refine .some ⟨t.start, t'.start, halike.place, ?_, rfl, rfl, rfl, rfl⟩
    have htext : t.text = t'.text := by
      rcases hstray with hexact | hcloses
      · exact halike.text (.inr hexact)
      · exact halike.text (.inl (isLiteral_eq_false_of_closes? (hcloses rfl)))
    rw [htext]

lemma requireBalance (h : Lockstep σ Eq s s') (hmarks : σ.exact ∨ s.StraysClose) :
    σ.Agree (fun _ _ => s.problems = []) s.requireBalance s'.requireBalance := by
  have hproblems := h.problems_alike hmarks
  unfold Stream.requireBalance
  cases hp : s.problems with
  | nil =>
    rw [hp] at hproblems
    rw [List.forall₂_nil_left_iff.mp hproblems]
    exact rfl
  | cons p rest =>
    rw [hp] at hproblems
    obtain ⟨p', rest', ⟨a, b, hab, hcause, hl, hl', hc, hc'⟩, -, hp'⟩ :=
      List.forall₂_cons_left_iff.mp hproblems
    rw [hp']
    simp only [hcause, hl, hl', hc, hc']
    exact .source _ hab

/-! ### Stages -/

/-- The whole of two streams. -/
def wholeWindow (σ : Likeness) (s : Stream) : Window := ⟨σ, 0, 0, s.size, 0, 0⟩

lemma at_wholeWindow {i : Nat} (hi : i ≤ s.size) : (wholeWindow σ s).At i i := by
  have hlen : (wholeWindow σ s).length = s.size := rfl
  have hstart : (wholeWindow σ s).start = 0 := rfl
  have hstart' : (wholeWindow σ s).start' = 0 := rfl
  omega

lemma fits_wholeWindow (h : Lockstep σ Eq s s') (hbalance : s.problems = []) :
    (wholeWindow σ s).Fits s s' := by
  have hend : s.get? (0 + s.size) = none := get?_eq_none (by omega)
  have hend' : s'.get? (0 + s.size) = none := get?_eq_none (by have := h.size_eq; omega)
  refine ⟨?_, ?_, .inl .none, ?_, ?_⟩
  · rintro i j ⟨-, -, hij⟩ hi
    obtain rfl : i = j := by simpa [wholeWindow] using hij
    have hi : i < s.size := by simpa [wholeWindow] using hi
    obtain ⟨t', ht', halike⟩ := h.exists_get rfl (get?_of_lt hi)
    exact ⟨_, t', get?_of_lt hi, ht', halike⟩
  · rintro i j t ⟨-, -, hij⟩ hi ht ho
    obtain rfl : i = j := by simpa [wholeWindow] using hij
    obtain ⟨c, hc⟩ := h.nested.exists_closer hbalance ht ho
    obtain ⟨hic, hcs⟩ := h.nested.lt_closer hc
    rcases Agree.cases (h.closer (j := i) rfl) with ⟨c₁, c', hc₁, hc', rfl, -⟩ | ⟨e, e', he, -, -⟩
    · rw [hc] at hc₁
      cases hc₁
      exact ⟨c, c, s.tokens[c], hc, hc', at_wholeWindow (le_of_lt hcs), hic,
        by simpa [wholeWindow] using hcs, get?_of_lt hcs, h.nested.isSome_closes? hc ht (get?_of_lt hcs)⟩
    · rw [hc] at he
      cases he
  · intro t ht
    change s.get? (0 + s.size) = some t at ht
    rw [hend] at ht
    cases ht
  · intro t ht
    change s'.get? (0 + s.size) = some t at ht
    rw [hend'] at ht
    cases ht

lemma range_alike {α β : Type} {R : α → β → Prop} {f : Nat → Except Error α}
    {g : Nat → Except Error β} {n : Nat} (hfg : ∀ i, i < n → σ.Agree R (f i) (g i)) :
    σ.Agree (List.Forall₂ R) ((List.range n).mapM f) ((List.range n).mapM g) := by
  apply Agree.mapM
  rw [List.forall₂_same]
  intro i hi
  exact hfg i (List.mem_range.mp hi)

lemma typesOfStream (h : Lockstep σ Eq s s') :
    σ.Agree Eq (StateTypes.ofStream s) (StateTypes.ofStream s') := by
  have hfacts : σ.Agree Eq (TypeFact.ofStream s) (TypeFact.ofStream s') := by
    unfold TypeFact.ofStream
    rw [← h.size_eq]
    apply Agree.bind (range_alike fun i _ => h.typeFactAt? rfl)
    intro facts facts' hfacts
    rw [List.forall₂_eq_eq_eq] at hfacts
    subst hfacts
    rfl
  exact Agree.map hfacts fun facts _ heq => by rw [heq]

theorem statesOfStream (h : Lockstep σ Eq s s') :
    σ.Agree (fun x y => x.unplaced = y.unplaced) (StateIndex.ofStream s)
      (StateIndex.ofStream s') := by
  unfold StateIndex.ofStream
  apply Agree.bind h.typesOfStream
  rintro types _ rfl
  apply Agree.bind (h.declsFrom (fun _ _ => rfl) rfl (by omega) (by omega) .nil rfl (by
    intro k l _ _ _ _ _ _ hkl hno
    exact absurd (congrArg (· + 1) hkl) hno))
  intro decls decls' hdecls
  change StateIndex.unplaced _ = StateIndex.unplaced _
  unfold StateIndex.unplaced
  rw [hdecls]

/-- Blocks on both sides, alike one by one, where brackets balance. -/
theorem blocksOfStream (h : Lockstep σ Eq s s') (hmarks : σ.exact ∨ s.StraysClose)
    {states states' : StateIndex} (hstates : states.unplaced = states'.unplaced) :
    σ.Agree (fun x y => s.problems = [] ∧ Window.Fits.BlocksAlike σ x y)
      (Blocks.ofStream s states) (Blocks.ofStream s' states') := by
  unfold Blocks.ofStream
  apply Agree.bind (h.requireBalance hmarks)
  intro _ _ hbalance
  have hfits := h.fits_wholeWindow hbalance
  have hparts : ∀ i, σ.Agree (Window.Fits.BlocksAlike σ) (Blocks.blockAt s states i)
      (Blocks.blockAt s' states' i) := by
    intro i
    unfold Blocks.blockAt
    apply Agree.bind (h.blockHead? hstates rfl)
    intro head head' hhead
    cases hhead with
    | none => exact ⟨.nil, rfl, .nil⟩
    | @some d d' hd =>
      have hbrace : d.brace < s.size := by
        have hmark := hd.isBrace
        rw [hasMark_eq_any, Option.any_eq_true] at hmark
        obtain ⟨t, ht, -⟩ := hmark
        exact lt_of_get? ht
      have hat : (wholeWindow σ s).At d.brace d'.brace := by
        rw [← hd.brace]
        exact at_wholeWindow (le_of_lt hbrace)
      exact hfits.ofBlock hstates hd.ref hd.source
        (hfits.armsOfBrace hat (by simpa [wholeWindow] using hbrace) hd.isBrace)
  rw [← h.size_eq]
  apply Agree.bind (range_alike fun i _ => hparts i)
  intro parts parts' hparts
  have hsources : parts.map (·.1.sources) = parts'.map (·.1.sources) :=
    map_eq_of_forall₂ hparts fun _ _ hxy => hxy.2.1
  refine ⟨hbalance, ?_, ?_, ?_⟩
  · exact List.rel_flatMap hparts fun _ _ hxy => hxy.1
  · simp only [List.flatMap_def, hsources]
  · exact List.rel_flatMap hparts fun _ _ hxy => hxy.2.2

/-- Helpers on both sides, alike one by one, where brackets balance. -/
theorem helpersOfStream (h : Lockstep σ Eq s s') (hbalance : s.problems = [])
    {states states' : StateIndex} (hstates : states.unplaced = states'.unplaced) :
    σ.Agree (List.Forall₂ (Helper.Alike σ)) (Helper.ofStream s states)
      (Helper.ofStream s' states') := by
  have hfits := h.fits_wholeWindow hbalance
  unfold Helper.ofStream
  rw [← h.size_eq]
  refine Helper.collect_agree ?_ .nil
  rw [List.forall₂_same]
  intro i _
  have hname := h.nameAt? (i := i) (j := i) rfl
  unfold Helper.SameAt
  cases hn : Helper.nameAt? s i with
  | none =>
    rw [hn] at hname
    rw [eq_none_of_rel_none hname]
    exact .none
  | some name =>
    rw [hn] at hname
    obtain ⟨name', hn', halike, hident, hnext⟩ := exists_of_rel_some hname
    rw [hn']
    have htext := halike.text_of_isIdentifier hident
    refine .some ⟨htext, ?_⟩
    rcases h.body? (i := i) (j := i) rfl hnext hn with hbody | ⟨k, l, hkl, hno, -⟩
    · refine h.helperAt? hnext hn htext hbody ?_ ?_
      · rintro k _ c _ hk - rfl - rfl hck hcl
        obtain ⟨hkc, hcs⟩ := h.nested.lt_closer hck
        exact hfits.boundNames (at_wholeWindow (by omega)) (at_wholeWindow (le_of_lt hcs))
      · intro p q bound hp hq
        rw [hp, hq] at hbody
        cases hbody with
        | some hpq =>
          have hle := Helper.le_of_body? h.nested hp
          have hsize := hpq.le_size
          rw [← hpq.start, ← hpq.stop]
          exact hfits.branches hstates _ _ _ _ bound (at_wholeWindow (by omega))
            (at_wholeWindow hsize)
    · exact absurd (congrArg (· + 1) hkl) hno

/-- A text that speaks of no machine is refused alike, when the streams start alike. -/
theorem checkFound {R : Nat → Nat → Prop} (h : Lockstep σ R s s') (hzero : R 0 0)
    {states states' : StateIndex} {blocks blocks' : Blocks}
    (hstates : states.unplaced = states'.unplaced) (hsources : blocks.sources = blocks'.sources) :
    σ.Agree (fun _ _ => True) (Model.checkFound s states blocks)
      (Model.checkFound s' states' blocks') := by
  have hempty : states.decls.isEmpty = states'.decls.isEmpty := by
    have hmap := congrArg StateIndex.decls hstates
    simp only [StateIndex.unplaced] at hmap
    rw [← List.isEmpty_map (f := DeclaredState.unplaced), hmap, List.isEmpty_map]
  unfold Model.checkFound
  rw [hempty, hsources]
  split_ifs
  · cases ht : s.get? 0 with
    | none =>
      rw [h.get_none hzero ht]
      exact .nowhere _
    | some t =>
      obtain ⟨t', ht', halike⟩ := h.exists_get hzero ht
      rw [ht']
      exact .source _ halike.place
  · exact trivial

/-- Models of alike graphs with alike findings. -/
theorem modelOfStream_alike (h : Lockstep σ Eq s s') (hmarks : σ.exact ∨ s.StraysClose) :
    σ.Agree (fun x y => x.graph.Alike σ y.graph ∧
      List.Forall₂ (Finding.Alike σ) x.findings y.findings) (Model.ofStream s)
      (Model.ofStream s') := by
  unfold Model.ofStream
  apply Agree.bind h.statesOfStream
  intro states states' hstates
  apply Agree.bind (h.blocksOfStream hmarks hstates)
  rintro ⟨blocks, findings⟩ ⟨blocks', findings'⟩ ⟨hbalance, hclauses, hsources, hfindings⟩
  apply Agree.bind (h.checkFound rfl hstates hsources)
  intro _ _ _
  apply Agree.bind (h.helpersOfStream hbalance hstates)
  intro helpers helpers' hhelpers
  obtain ⟨htransitions, hcalls⟩ := Blocks.followHelpers_alike hclauses hhelpers
  simp only at hsources
  rw [← hsources]
  apply Agree.bind (Graph.ofClauses_alike hstates blocks.sources htransitions)
  rintro ⟨graph, stateFindings⟩ ⟨graph', stateFindings'⟩ ⟨hgraph, hstateFindings⟩
  exact ⟨hgraph, List.rel_append (List.rel_append hfindings hcalls) hstateFindings⟩

/-- Models of one graph with the same findings. -/
theorem modelOfStream (h : Lockstep σ Eq s s') (hexact : σ.exact) :
    σ.Agree (fun x y => x.graph = y.graph ∧
      List.Forall₂ (Finding.Alike σ) x.findings y.findings) (Model.ofStream s)
      (Model.ofStream s') := by
  apply Agree.imp (h.modelOfStream_alike (.inl hexact))
  rintro m m' ⟨hgraph, hfindings⟩
  exact ⟨hgraph.eq hexact, hfindings⟩

end Lockstep

end Stream

/-! ### Issues and drawings -/

/-- Issues of one severity from alike findings. -/
abbrev IssuesAlike (σ : Likeness) : List Issue → List Issue → Prop :=
  List.Forall₂ fun x y => x.toFinding.Alike σ y.toFinding ∧ x.severity = y.severity

variable {σ : Likeness}

lemma IssueRules.apply_alike (rules : IssueRules) {fs fs' : List Finding}
    (h : List.Forall₂ (Finding.Alike σ) fs fs') : IssuesAlike σ (rules.apply fs) (rules.apply fs') := by
  unfold IssueRules.apply
  refine List.rel_filterMap ?_ h
  intro f f' hf
  unfold IssueRules.issue?
  rw [hf.code]
  split_ifs
  · exact .none
  · exact .some ⟨hf, rfl⟩
  · exact .some ⟨hf, rfl⟩

lemma Drawing.checkIssues_alike (hexact : σ.exact) {issues issues' : List Issue}
    (h : IssuesAlike σ issues issues') :
    σ.Agree (fun _ _ => True) (checkIssues issues) (checkIssues issues') := by
  have herrors : IssuesAlike σ (Issue.errors issues) (Issue.errors issues') := by
    unfold Issue.errors
    refine List.rel_filter ?_ h
    intro x y hxy
    simp only [hxy.2]
  unfold checkIssues
  cases he : Issue.errors issues with
  | nil =>
    rw [he] at herrors
    rw [List.forall₂_nil_left_iff.mp herrors]
    exact trivial
  | cons x rest =>
    rw [he] at herrors
    obtain ⟨y, rest', ⟨hxy, -⟩, -, hy⟩ := List.forall₂_cons_left_iff.mp herrors
    rw [hy]
    simp only [hxy.message hexact, hxy.code]
    cases hx : x.line with
    | none =>
      have hline := hxy.line
      rw [hx] at hline
      rw [eq_none_of_rel_none hline]
      exact .nowhere _
    | some a =>
      have hline := hxy.line
      rw [hx] at hline
      obtain ⟨b, hb, hab⟩ := exists_of_rel_some hline
      rw [hb]
      exact .atLine _ hab

/-- Runs that end alike but for places: with the same diagram and issues, or with failures for the
same cause. -/
def Drawing.SameRun : Except Error Drawing → Except Error Drawing → Prop
  | .ok d, .ok d' => d.graph = d'.graph ∧ d.markup = d'.markup ∧
      d.issues.map Issue.unplaced = d'.issues.map Issue.unplaced
  | .error e, .error e' => e.unplaced = e'.unplaced
  | _, _ => False

/-- Likeness of texts with the same words. -/
def sameWords : Likeness := ⟨True, fun _ _ => True⟩

lemma alike_of_words {ls ls' : List Lexeme} (h : wordsOf ls = wordsOf ls') :
    List.Forall₂ (Lexeme.Alike sameWords) ls ls' := by
  have hwords : List.Forall₂ (fun t t' => t.word = t'.word) ls ls' := by
    rw [wordsOf, wordsOf, ← List.forall₂_eq_eq_eq, List.forall₂_map_left_iff,
      List.forall₂_map_right_iff] at h
    exact h
  refine hwords.imp ?_
  intro t t' ht
  exact ⟨congrArg Word.kind ht, fun _ => congrArg Word.text ht, trivial⟩

/-- Models of one graph with the same findings are drawn alike or refused for the same reason. -/
theorem Drawing.sameRun_of_models {text text' : String} {ls ls' : List Lexeme}
    (h : Lexeme.ofText text = .ok ls) (h' : Lexeme.ofText text' = .ok ls') (hexact : σ.exact)
    (hmodels : σ.Agree (fun x y => x.graph = y.graph ∧
        List.Forall₂ (Finding.Alike σ) x.findings y.findings)
      (Model.ofStream (Stream.ofLexemes ls)) (Model.ofStream (Stream.ofLexemes ls')))
    (settings : Settings) : SameRun (ofText text settings) (ofText text' settings) := by
  unfold ofText Stream.ofText
  rw [h, h']
  simp only [Except.map, Bind.bind, Except.bind]
  rcases Agree.cases hmodels with
    ⟨model, model', hm, hm', hgraph, hfindings⟩ | ⟨e, e', hm, hm', hee⟩
  · rw [hm, hm']
    have hissues := settings.rules.apply_alike hfindings
    simp only
    rcases Agree.cases (checkIssues_alike hexact hissues) with
      ⟨_, _, hc, hc', -⟩ | ⟨e, e', hc, hc', hee⟩
    · rw [hc, hc', ← hgraph]
      simp only
      cases Mermaid.diagram model.graph settings.appearance with
      | error e => exact rfl
      | ok markup =>
        refine ⟨rfl, rfl, map_eq_of_forall₂ hissues ?_⟩
        rintro x y ⟨hxy, hseverity⟩
        unfold Issue.unplaced
        rw [Issue.mk.injEq, Finding.mk.injEq]
        exact ⟨⟨hxy.code, hxy.message hexact, rfl, hxy.hint⟩, hseverity⟩
    · rw [hc, hc']
      exact hee.unplaced
  · rw [hm, hm']
    exact hee.unplaced

/-- Layout and comments show only in places: two texts with the same words have their tokens equally
deep and their brackets paired alike, and are drawn alike or refused for the same reason. -/
theorem Drawing.sameRun_of_words {text text' : String} {ls ls' : List Lexeme}
    (h : Lexeme.ofText text = .ok ls) (h' : Lexeme.ofText text' = .ok ls')
    (hwords : wordsOf ls = wordsOf ls') (settings : Settings) :
    (Stream.ofLexemes ls).tokens.toList.map (·.depth) =
        (Stream.ofLexemes ls').tokens.toList.map (·.depth) ∧
      (Stream.ofLexemes ls).pairs = (Stream.ofLexemes ls').pairs ∧
      SameRun (ofText text settings) (ofText text' settings) := by
  have hlock := Stream.lockstep_of_alike (alike_of_words hwords)
  have hexact : sameWords.exact := trivial
  exact ⟨hlock.depths_eq, hlock.pairs_eq,
    sameRun_of_models h h' hexact (hlock.modelOfStream hexact) settings⟩

/-- A block on one line. -/
def tightBlock : String := "case object A when(A)\x7bcase G=>goto(A)\x7d"

/-- The same block with line breaks and comments. -/
def looseBlock : String := "case object A // a\nwhen (A) \x7b\n case G => /* b */ goto(A)\n\x7d"

lemma tightBlock_words : ((Lexeme.ofText tightBlock).toOption.map wordsOf).isSome ∧
    (Lexeme.ofText tightBlock).toOption.map wordsOf =
      (Lexeme.ofText looseBlock).toOption.map wordsOf := by decide +kernel

theorem Drawing.sameRun_looseBlock : ∃ ls ls', Lexeme.ofText tightBlock = .ok ls ∧
    Lexeme.ofText looseBlock = .ok ls' ∧ wordsOf ls = wordsOf ls' ∧
    (Stream.ofLexemes ls).tokens.toList.map (·.depth) =
      (Stream.ofLexemes ls').tokens.toList.map (·.depth) ∧
    (Stream.ofLexemes ls).pairs = (Stream.ofLexemes ls').pairs ∧
    SameRun (ofText tightBlock {}) (ofText looseBlock {}) := by
  obtain ⟨hsome, hwords⟩ := tightBlock_words
  cases h : Lexeme.ofText tightBlock with
  | error e => simp [h, Except.toOption] at hsome
  | ok ls =>
    cases h' : Lexeme.ofText looseBlock with
    | error e => simp [h, h', Except.toOption] at hwords
    | ok ls' =>
      simp only [h, h', Except.toOption, Option.map_some, Option.some.injEq] at hwords
      exact ⟨ls, ls', rfl, rfl, hwords, Drawing.sameRun_of_words h h' hwords {}⟩

end ActorDiagram
