import Mathlib
import ActorDiagram.Proofs.Markup
import ActorDiagram.Proofs.Stages

/-!
# How a diagram ends

The last line of a diagram ends in a blank exactly where the last edge has a label that is not empty but leaves
nothing to write: only the colon before the label is written then. Such a diagram changes when the blanks at
its end are trimmed, any other one does not.
-/

namespace ActorDiagram

/-! ### Text without blanks at its end -/

namespace Text

/-- The text is not empty and has no blank at its end. -/
def EndsInWord (cs : List Char) : Prop := ∃ front c, cs = front ++ [c] ∧ isBlank c = false

variable {cs ds : List Char}

lemma EndsInWord.append (h : EndsInWord ds) (cs : List Char) : EndsInWord (cs ++ ds) := by
  obtain ⟨front, c, rfl, hc⟩ := h
  exact ⟨cs ++ front, c, (List.append_assoc cs front [c]).symm, hc⟩

lemma EndsInWord.trimRight_eq (h : EndsInWord cs) : trimRight cs = cs := by
  obtain ⟨front, c, rfl, hc⟩ := h
  exact List.rdropWhile_concat_neg isBlank front c (by simp [hc])

lemma EndsInWord.trimRight_append (h : EndsInWord cs) (hds : ∀ c ∈ ds, isBlank c = true) :
    trimRight (cs ++ ds) = cs := by
  induction ds using List.reverseRecOn with
  | nil => rw [List.append_nil, h.trimRight_eq]
  | append_singleton ds d ih =>
    have hdrop : trimRight (cs ++ ds ++ [d]) = trimRight (cs ++ ds) :=
      List.rdropWhile_concat_pos isBlank (cs ++ ds) d (hds d (by simp))
    rw [← List.append_assoc, hdrop]
    exact ih fun c hc => hds c (List.mem_append_left _ hc)

lemma endsInWord_trimRight (h : trimRight cs ≠ []) : EndsInWord (trimRight cs) := by
  have hlast : ¬ isBlank ((trimRight cs).getLast h) = true := List.rdropWhile_last_not isBlank cs h
  exact ⟨_, _, (List.dropLast_append_getLast h).symm, by simpa using hlast⟩

end Text

namespace Mermaid

open Text (EndsInWord)

lemma isBlank_of_isIdPart {c : Char} (h : isIdPart c = true) : Text.isBlank c = false := by
  have hrange : ∀ n < 123, 33 ≤ n → Text.inRanges Text.blankRanges n = false := by decide
  have hc : 33 ≤ c.toNat ∧ c.toNat < 123 := by
    simp only [isIdPart, Char.isAlphanum, Char.isAlpha, Char.isUpper, Char.isLower, Char.isDigit, Bool.or_eq_true,
      Bool.and_eq_true, decide_eq_true_eq, beq_iff_eq, ge_iff_le, UInt32.le_iff_toNat_le] at h
    have hval : c.toNat = c.val.toNat := rfl
    rcases h with ((h | h) | h) | rfl
    · simp at h; omega
    · simp at h; omega
    · simp at h; omega
    · decide
  exact hrange _ hc.2 hc.1

lemma IsEnd.endsInWord {id : String} (h : IsEnd id) : EndsInWord id.toList := by
  rcases h with rfl | hid
  · exact ⟨['[', '*'], ']', rfl, by decide⟩
  · have hne : id.toList ≠ [] := by
      intro hnil
      have hhead := hid.head
      rw [hnil] at hhead
      cases hhead
    exact ⟨_, _, (List.dropLast_append_getLast hne).symm,
      isBlank_of_isIdPart (hid.parts _ (List.getLast_mem hne))⟩

lemma endsInWord_escape {cs : List Char} (h : EndsInWord cs) (semicolons : Bool) :
    EndsInWord (escape semicolons cs) := by
  obtain ⟨front, c, rfl, hc⟩ := h
  have hescape : escape semicolons (front ++ [c]) = escape semicolons front ++ entity semicolons c := by
    simp [escape]
  rw [hescape]
  refine EndsInWord.append ?_ _
  have hcodes : ∀ code ∈ entities, code.getLast? = some ';' := by decide
  rcases entity_cases semicolons c with hentity | ⟨heq, -⟩
  · obtain ⟨code, hcode⟩ := List.getLast?_eq_some_iff.mp (hcodes _ hentity)
    exact ⟨code, ';', hcode, by decide⟩
  · exact heq ▸ ⟨[], c, rfl, hc⟩

lemma endsInWord_labelText {label text : String} (h : labelText label = .ok text) (hne : text ≠ "") :
    EndsInWord text.toList := by
  obtain ⟨u, hu, rfl⟩ := escaped_eq_ok_iff.mp h
  obtain ⟨decoded, -, rfl⟩ := normalize_eq_ok_iff.mp hu
  rw [String.toList_ofList]
  refine endsInWord_escape (Text.endsInWord_trimRight fun hnil => hne ?_) true
  rw [Text.trim, hnil]
  rfl

/-! ### Edge lines -/

variable {source target label line : String}

lemma endsInWord_edgeLine (htarget : IsEnd target) (h : edgeLine source target label = .ok line)
    (hlabel : label = "" ∨ labelText label ≠ .ok "") : EndsInWord line.toList := by
  unfold edgeLine at h
  split_ifs at h with hempty
  · cases h
    rw [String.toList_append]
    exact htarget.endsInWord.append _
  · obtain ⟨text, htext, rfl⟩ := map_eq_ok_iff.mp h
    have hlabel : labelText label ≠ .ok "" := hlabel.resolve_left fun heq => hempty (heq ▸ rfl)
    rw [String.toList_append]
    exact (endsInWord_labelText htext fun heq => hlabel (heq ▸ htext)).append _

/-- A label that leaves nothing to write leaves the colon. -/
lemma edgeLine_of_blank (h : edgeLine source target label = .ok line) (hne : label ≠ "")
    (hlabel : labelText label = .ok "") : ∃ front, line = front ++ " " ∧ EndsInWord front.toList := by
  refine ⟨"  " ++ source ++ " --> " ++ target ++ " :", ?_, ?_⟩
  · rw [edgeLine, if_neg (by simpa using hne), hlabel] at h
    cases h
    simp [String.append_assoc]
  · rw [String.toList_append]
    exact EndsInWord.append ⟨[' '], ':', rfl, by decide⟩ _

/-! ### Layouts -/

namespace Layout

variable {l : Layout}

/-- The ids of a layout are ids, if no name has a line break. -/
lemma isId_ofGraph {g : Graph} (hnames : ∀ x ∈ shownNames g, '\n' ∉ x.2.toList) (h : ofGraph g = .ok l) :
    ∀ x ∈ l.ids, IsId x.2 := by
  refine ofGraph_induction (P := fun l => ∀ x ∈ l.ids, IsId x.2) h (by simp) ?_
  intro l l' node hl hadd
  have hconcat : ∀ id, IsId id → ∀ x ∈ l.ids ++ [(node, id)], IsId x.2 := fun id hid =>
    List.forall_mem_append.mpr ⟨hl, List.forall_mem_singleton.mpr hid⟩
  rcases add_cases hadd with rfl | ⟨name, hname, hbare, rfl⟩ | ⟨base, name, rfl, hbase⟩
  · exact hl
  · exact hconcat _ (isId_of_canBeId hbare (hnames _ hname))
  · refine hconcat _ (isId_freeId ?_ l.used)
    rcases hbase with ⟨rfl, -⟩ | ⟨rfl, -⟩
    · exact isId_of_all (by decide)
    · exact isId_idLike name

lemma isEnd_endpoint (h : ∀ x ∈ l.ids, IsId x.2) {mark node id : String}
    (hend : l.endpoint mark node = .ok id) : IsEnd id := by
  unfold endpoint at hend
  split_ifs at hend with hmark
  · cases hend
    exact .inl rfl
  · cases hid : l.idOf? node with
    | none => simp [hid] at hend
    | some id' =>
      simp only [hid] at hend
      cases hend
      obtain ⟨x, hx, rfl⟩ := Option.map_eq_some_iff.mp hid
      exact .inr (h x (List.mem_reverse.mp (List.mem_of_find?_eq_some hx)))

end Layout

/-! ### Whole diagrams -/

/-- The last edge of a graph that is drawn has a label, but nothing of it is written. -/
def endsBlank (g : Graph) : Bool :=
  !g.clauseEdges.isEmpty && g.edges.getLast?.any fun e => !e.label.isEmpty && labelText e.label = .ok ""

lemma joinLines_concat (lines : List String) (last : String) :
    ∃ front, joinLines (lines ++ [last]) = front ++ last ++ "\n" := by
  cases lines with
  | nil => exact ⟨"", by simp [joinLines]⟩
  | cons line lines =>
    refine ⟨"\n".intercalate (line :: lines) ++ "\n", ?_⟩
    rw [joinLines, String.intercalate_append_of_ne_nil (List.cons_ne_nil line lines) (List.cons_ne_nil last []),
      String.intercalate_singleton]

lemma exists_last_line {g : Graph} {appearance : Appearance} {markup : String} (hne : g.clauseEdges ≠ [])
    (hnames : ∀ x ∈ shownNames g, '\n' ∉ x.2.toList) (h : diagram g appearance = .ok markup) :
    ∃ e front source target line, g.edges.getLast? = some e ∧ IsEnd target ∧
      edgeLine source target e.label = .ok line ∧ markup = front ++ line ++ "\n" := by
  have hedges : g.edges ≠ [] := fun hnil => hne (by rw [Graph.clauseEdges, hnil]; rfl)
  rw [diagram, if_neg (by simpa using hne)] at h
  obtain ⟨l, hl, h⟩ := bind_eq_ok_iff.mp h
  obtain ⟨decls, -, h⟩ := bind_eq_ok_iff.mp h
  obtain ⟨lines, hlines, h⟩ := bind_eq_ok_iff.mp h
  cases h
  rw [← List.dropLast_append_getLast hedges, List.mapM_append] at hlines
  obtain ⟨more, -, hlines⟩ := bind_eq_ok_iff.mp hlines
  obtain ⟨lasts, hlasts, hlines⟩ := bind_eq_ok_iff.mp hlines
  cases hlines
  obtain _ | @⟨_, line, _, _, hline, ⟨⟩⟩ := forall₂_of_mapM_eq_ok hlasts
  unfold Layout.edge at hline
  obtain ⟨source, -, hline⟩ := bind_eq_ok_iff.mp hline
  obtain ⟨target, htarget, hline⟩ := bind_eq_ok_iff.mp hline
  obtain ⟨front, hfront⟩ := joinLines_concat (headLines appearance ++ decls ++ more) line
  refine ⟨_, front, source, target, line, List.getLast?_eq_some_getLast hedges,
    Layout.isEnd_endpoint (Layout.isId_ofGraph hnames hl) htarget, hline, ?_⟩
  rw [← List.append_assoc]
  exact hfront

/-- A diagram ends in a line break, with a blank before it only if the last edge has a label of which nothing
is written. -/
theorem diagram_end {g : Graph} {appearance : Appearance} {markup : String}
    (hnames : ∀ x ∈ shownNames g, '\n' ∉ x.2.toList) (h : diagram g appearance = .ok markup) :
    ∃ front, EndsInWord front.toList ∧ markup = front ++ if endsBlank g then " \n" else "\n" := by
  by_cases hempty : g.clauseEdges = []
  · have hmarkup : markup = noTransitions := by
      rw [diagram, if_pos (by simp [hempty])] at h
      cases h
      rfl
    refine ⟨"stateDiagram-v2\n  NoTransitions : No transitions" ++ " found", ?_, ?_⟩
    · have hend : EndsInWord " found".toList := ⟨[' ', 'f', 'o', 'u', 'n'], 'd', by simp, by decide⟩
      rw [String.toList_append]
      exact hend.append _
    · have hblank : endsBlank g = false := by simp [endsBlank, hempty]
      rw [hmarkup, hblank]
      decide +kernel
  · obtain ⟨e, front, source, target, line, hlast, htarget, hline, rfl⟩ := exists_last_line hempty hnames h
    by_cases hblank : e.label ≠ "" ∧ labelText e.label = .ok ""
    · obtain ⟨stem, rfl, hend⟩ := edgeLine_of_blank hline hblank.1 hblank.2
      refine ⟨front ++ stem, ?_, ?_⟩
      · rw [String.toList_append]
        exact hend.append _
      · have hends : endsBlank g = true := by simp [endsBlank, hempty, hlast, hblank]
        rw [hends]
        simp [String.append_assoc]
    · have hlabel : e.label = "" ∨ labelText e.label ≠ .ok "" := (not_and_or.mp hblank).imp_left not_not.mp
      refine ⟨front ++ line, ?_, ?_⟩
      · rw [String.toList_append]
        exact (endsInWord_edgeLine htarget hline hlabel).append _
      · have hends : endsBlank g = false := by simpa [endsBlank, hempty, hlast] using hblank
        rw [hends]
        rfl

end Mermaid

lemma Drawing.diagram_eq {text : String} {settings : Settings} {d : Drawing}
    (h : Drawing.ofText text settings = .ok d) : Mermaid.diagram d.graph settings.appearance = .ok d.markup := by
  obtain ⟨s, -, h⟩ := bind_eq_ok_iff.mp h
  obtain ⟨m, -, h⟩ := bind_eq_ok_iff.mp h
  obtain ⟨_, -, h⟩ := bind_eq_ok_iff.mp h
  obtain ⟨markup, hmarkup, h⟩ := bind_eq_ok_iff.mp h
  cases h
  exact hmarkup

theorem Drawing.markup_end {text : String} {settings : Settings} {d : Drawing}
    (h : Drawing.ofText text settings = .ok d) : ∃ front, Text.EndsInWord front.toList ∧
      d.markup = front ++ if Mermaid.endsBlank d.graph then " \n" else "\n" := by
  obtain ⟨r, stateFindings, hgraph, -⟩ := Drawing.exists_stages h
  obtain ⟨hnamed, hids⟩ := StateIndex.namedIn_of_ofStream r.states_eq
  have hnames := Mermaid.break_notMem_shownNames (Graph.nodes_of_ofClauses hgraph).2 hids hnamed fun word hword =>
    hword.break_notMem r.stream_eq
  exact Mermaid.diagram_end hnames (Drawing.diagram_eq h)

end ActorDiagram
