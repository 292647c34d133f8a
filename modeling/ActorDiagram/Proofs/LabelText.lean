import Mathlib
import ActorDiagram.Proofs.Entities

/-!
# Labels

What the text of a label is: on one line, with single spaces between its words, without the characters that
Mermaid gives a meaning, and with each semicolon at the end of an entity. The text that it was made from can
be read back, so labels are alike only if what they say is. Escaping character by character is the same as
one replacement after the other, with the semicolon first. Where the label has a reference that is too long,
there is no such text.
-/

namespace ActorDiagram

/-! ### Tidy text -/

namespace Text

/-- Text with single spaces between its words and no blanks elsewhere. -/
structure Tidy (cs : List Char) : Prop where
  space : ∀ c ∈ cs, isBlank c = true → c = ' '
  single : cs.IsChain fun c d => isBlank c = false ∨ isBlank d = false
  head : ∀ c ∈ cs.head?, isBlank c = false
  last : ∀ c ∈ cs.getLast?, isBlank c = false

lemma isChain_collapseFrom (inRun : Bool) (cs : List Char) :
    (collapseFrom inRun cs).IsChain (fun c d => isBlank c = false ∨ isBlank d = false) ∧
      (inRun = true → ∀ c ∈ (collapseFrom inRun cs).head?, isBlank c = false) := by
  induction cs generalizing inRun with
  | nil => simp [collapseFrom]
  | cons c cs ih =>
    rw [collapseFrom]
    split_ifs with hc hrun
    · subst hrun
      exact ih true
    · obtain ⟨hchain, hhead⟩ := ih true
      exact ⟨List.isChain_cons.mpr ⟨fun d hd => .inr (hhead rfl d hd), hchain⟩,
        fun hrun' => absurd hrun' hrun⟩
    · have hc : isBlank c = false := Bool.eq_false_iff.mpr hc
      refine ⟨List.isChain_cons.mpr ⟨fun d _ => .inl hc, (ih false).1⟩, fun _ d hd => ?_⟩
      rw [List.head?_cons, Option.mem_some_iff] at hd
      rwa [← hd]

lemma head?_dropWhile_isBlank (cs : List Char) :
    ∀ c ∈ (cs.dropWhile isBlank).head?, isBlank c = false := by
  intro c hc
  have hnot := List.head?_dropWhile_not isBlank cs
  rw [Option.mem_def.mp hc] at hnot
  simpa using hnot

lemma prefix_of_trim (cs : List Char) : trim cs <+: trimLeft cs := by
  rw [← List.reverse_suffix, trim, trimRight, List.reverse_reverse]
  exact List.dropWhile_suffix _

lemma isChain_trim {R : Char → Char → Prop} {cs : List Char} (h : cs.IsChain R) :
    (trim cs).IsChain R := by
  obtain ⟨after, hafter⟩ := prefix_of_trim cs
  obtain ⟨before, hbefore⟩ := List.dropWhile_suffix (l := cs) isBlank
  rw [← hbefore, ← trimLeft, ← hafter] at h
  exact h.right_of_append.left_of_append

lemma last_trim (cs : List Char) : ∀ c ∈ (trim cs).getLast?, isBlank c = false := by
  rw [trim, trimRight, List.getLast?_reverse]
  exact head?_dropWhile_isBlank _

lemma head_trim (cs : List Char) : ∀ c ∈ (trim cs).head?, isBlank c = false := by
  intro c hc
  obtain ⟨rest, hrest⟩ := prefix_of_trim cs
  refine head?_dropWhile_isBlank cs c ?_
  rw [← trimLeft, ← hrest, List.head?_append, Option.mem_def.mp hc]
  rfl

theorem tidy_trim_collapseBlanks (cs : List Char) : Tidy (trim (collapseBlanks cs)) where
  space c hc hblank := (mem_collapseFrom (mem_of_mem_trim hc)).resolve_left (by simp [hblank])
  single := isChain_trim (isChain_collapseFrom false cs).1
  head := head_trim _
  last := last_trim _

/-- Blanks that are single spaces stay, unless the first one goes on with a run. -/
lemma collapseFrom_eq_self {inRun : Bool} {cs : List Char}
    (hspace : ∀ c ∈ cs, isBlank c = true → c = ' ')
    (hsingle : cs.IsChain fun c d => isBlank c = false ∨ isBlank d = false)
    (hhead : inRun = true → ∀ c ∈ cs.head?, isBlank c = false) : collapseFrom inRun cs = cs := by
  induction cs generalizing inRun with
  | nil => rfl
  | cons c cs ih =>
    rw [List.isChain_cons] at hsingle
    have htail : collapseFrom (isBlank c) cs = cs :=
      ih (fun d hd => hspace d (List.mem_cons_of_mem _ hd)) hsingle.2
        fun hc d hd => (hsingle.1 d hd).resolve_left (by simp [hc])
    rw [collapseFrom]
    cases hc : isBlank c with
    | false =>
      rw [hc] at htail
      rw [if_neg Bool.false_ne_true, htail]
    | true =>
      have hrun : inRun = false := Bool.eq_false_iff.mpr fun hrun => by simp [hhead hrun c rfl] at hc
      rw [hc] at htail
      rw [if_pos rfl, hrun, if_neg Bool.false_ne_true, htail, hspace c List.mem_cons_self hc]

lemma dropWhile_isBlank_eq_self {cs : List Char} (h : ∀ c ∈ cs.head?, isBlank c = false) :
    cs.dropWhile isBlank = cs := by
  cases cs with
  | nil => rfl
  | cons c cs => exact List.dropWhile_cons_of_neg (by simp [h c rfl])

/-- Tidy text is left as it is. -/
theorem Tidy.trim_collapseBlanks {cs : List Char} (h : Tidy cs) : trim (collapseBlanks cs) = cs := by
  rw [collapseBlanks, collapseFrom_eq_self h.space h.single (by simp), trim, trimLeft,
    dropWhile_isBlank_eq_self h.head, trimRight,
    dropWhile_isBlank_eq_self (by rw [List.head?_reverse]; exact h.last), List.reverse_reverse]

end Text

namespace Mermaid

theorem tidy_normalize {cs u : List Char} (h : normalize cs = .ok u) : Text.Tidy u := by
  obtain ⟨decoded, -, rfl⟩ := normalize_eq_ok_iff.mp h
  exact Text.tidy_trim_collapseBlanks decoded

/-! ### Escaped text -/

/-- What a character becomes starts and ends with a blank only if the character is one. -/
lemma entity_ends (semicolons : Bool) (c : Char) : ∃ first last,
    (entity semicolons c).head? = some first ∧ (entity semicolons c).getLast? = some last ∧
      (Text.isBlank c = false → Text.isBlank first = false ∧ Text.isBlank last = false) := by
  rcases entity_cases semicolons c with hentity | ⟨heq, -, -⟩
  · generalize entity semicolons c = code at hentity
    fin_cases hentity <;> exact ⟨_, _, rfl, rfl, fun _ => by decide⟩
  · rw [heq]
    exact ⟨c, c, rfl, rfl, fun h => ⟨h, h⟩⟩

lemma isBlank_head_escape {semicolons : Bool} {cs : List Char}
    (h : ∀ c ∈ cs.head?, Text.isBlank c = false) :
    ∀ c ∈ (escape semicolons cs).head?, Text.isBlank c = false := by
  cases cs with
  | nil => exact h
  | cons c cs =>
    obtain ⟨first, last, hfirst, -, hblank⟩ := entity_ends semicolons c
    intro d hd
    rw [escape, List.flatMap_cons, List.head?_append, hfirst, Option.some_or, Option.mem_some_iff] at hd
    rw [← hd]
    exact (hblank (h c rfl)).1

lemma isBlank_last_escape {semicolons : Bool} {cs : List Char}
    (h : ∀ c ∈ cs.getLast?, Text.isBlank c = false) :
    ∀ c ∈ (escape semicolons cs).getLast?, Text.isBlank c = false := by
  rcases List.eq_nil_or_concat cs with rfl | ⟨init, c, rfl⟩
  · exact h
  · obtain ⟨first, last, -, hlast, hblank⟩ := entity_ends semicolons c
    intro d hd
    rw [List.concat_eq_append, escape, List.flatMap_append, List.flatMap_singleton, List.getLast?_append,
      hlast, Option.some_or, Option.mem_some_iff] at hd
    rw [← hd]
    exact (hblank (h c (by simp))).2

lemma isChain_escape {semicolons : Bool} {cs : List Char}
    (h : cs.IsChain fun c d => Text.isBlank c = false ∨ Text.isBlank d = false) :
    (escape semicolons cs).IsChain fun c d => Text.isBlank c = false ∨ Text.isBlank d = false := by
  induction cs with
  | nil => exact h
  | cons c cs ih =>
    rw [List.isChain_cons] at h
    rw [escape, List.flatMap_cons, ← escape, List.isChain_append]
    refine ⟨?_, ih h.2, ?_⟩
    · rcases entity_cases semicolons c with hentity | ⟨heq, -, -⟩
      · generalize entity semicolons c = code at hentity
        fin_cases hentity <;> decide
      · rw [heq]
        exact List.isChain_singleton c
    · obtain ⟨first, last, -, hlast, hblank⟩ := entity_ends semicolons c
      intro x hx y hy
      rw [hlast, Option.mem_some_iff] at hx
      subst x
      by_cases hc : Text.isBlank c = false
      · exact .inl (hblank hc).2
      · exact .inr (isBlank_head_escape (fun d hd => (h.1 d hd).resolve_left hc) y hy)

/-- Escaping keeps text tidy. -/
lemma tidy_escape (semicolons : Bool) {cs : List Char} (h : Text.Tidy cs) :
    Text.Tidy (escape semicolons cs) where
  space c hc hblank := by
    rcases mem_escape hc with ⟨hmem, -⟩ | hentity
    · exact h.space c hmem hblank
    · have hnone : entities.flatten.any Text.isBlank = false := by decide
      exact absurd hblank (List.any_eq_false.mp hnone c hentity)
  single := isChain_escape h.single
  head := isBlank_head_escape h.head
  last := isBlank_last_escape h.last

/-- A semicolon in what a character becomes is the end of an entity. -/
lemma entity_of_semicolon {c : Char} {before after : List Char}
    (h : entity true c = before ++ ';' :: after) :
    entity true c ∈ entities ∧ entity true c = before ++ [';'] := by
  rcases entity_cases true c with hentity | ⟨heq, -, hsemicolon⟩
  · refine ⟨hentity, ?_⟩
    have hend : ∀ code ∈ entities, ';' ∉ code.dropLast := by decide
    cases after with
    | nil => exact h
    | cons d after =>
      refine absurd ?_ (hend _ hentity)
      rw [h, List.dropLast_append_of_ne_nil (by simp), List.dropLast_cons_cons]
      simp
  · have hmem : ';' ∈ entity true c := by simp [h]
    rw [heq, List.mem_singleton] at hmem
    exact absurd hmem.symm (hsemicolon rfl)

/-- Every semicolon of an escaped label ends an entity. -/
lemma exists_entity_suffix {cs before after : List Char} (h : escape true cs = before ++ ';' :: after) :
    ∃ code ∈ entities, code <:+ before ++ [';'] := by
  induction cs generalizing before with
  | nil => simp [escape] at h
  | cons c cs ih =>
    rw [escape, List.flatMap_cons, ← escape, List.append_eq_append_iff] at h
    rcases h with ⟨between, rfl, hrest⟩ | ⟨between, hcode, hrest⟩
    · obtain ⟨code, hcode, hsuffix⟩ := ih hrest
      rw [List.append_assoc]
      exact ⟨code, hcode, hsuffix.trans (List.suffix_append _ _)⟩
    · cases between with
      | nil =>
        rw [List.nil_append] at hrest
        obtain ⟨code, hcode', hsuffix⟩ := @ih [] hrest.symm
        exact ⟨code, hcode', hsuffix.trans (List.suffix_append _ _)⟩
      | cons d between =>
        obtain ⟨rfl, -⟩ := List.cons_eq_cons.mp hrest
        obtain ⟨hentity, hend⟩ := entity_of_semicolon hcode
        exact ⟨_, hentity, hend ▸ List.suffix_rfl⟩

/-! ### One replacement after the other -/

/-- Text with each occurrence of a character replaced. -/
def replaceChar (cs : List Char) (r : Char × List Char) : List Char :=
  cs.flatMap fun c => if c = r.1 then r.2 else [c]

/-- What is replaced, in order. A semicolon goes first because the others end in one. -/
def replacements (semicolons : Bool) : List (Char × List Char) :=
  (if semicolons then [(';', ['#', '5', '9', ';'])] else []) ++
    [('&', ['#', 'a', 'm', 'p', ';']), ('<', ['#', 'l', 't', ';']), ('>', ['#', 'g', 't', ';']),
      ('"', ['#', 'q', 'u', 'o', 't', ';']), ('|', ['#', '1', '2', '4', ';'])]

lemma foldl_replaceChar_nil (rs : List (Char × List Char)) : rs.foldl replaceChar [] = [] := by
  induction rs with
  | nil => rfl
  | cons r rs ih => exact ih

lemma foldl_replaceChar_append (rs : List (Char × List Char)) (cs ds : List Char) :
    rs.foldl replaceChar (cs ++ ds) = rs.foldl replaceChar cs ++ rs.foldl replaceChar ds := by
  induction rs generalizing cs ds with
  | nil => rfl
  | cons r rs ih =>
    rw [List.foldl_cons, replaceChar, List.flatMap_append]
    exact ih _ _

lemma foldl_replaceChar_singleton {rs : List (Char × List Char)} {c : Char} (h : c ∉ rs.map Prod.fst) :
    rs.foldl replaceChar [c] = [c] := by
  induction rs with
  | nil => rfl
  | cons r rs ih =>
    rw [List.map_cons, List.mem_cons, not_or] at h
    rw [List.foldl_cons, replaceChar, List.flatMap_singleton, if_neg h.1]
    exact ih h.2

lemma entity_eq_foldl (semicolons : Bool) (c : Char) :
    entity semicolons c = (replacements semicolons).foldl replaceChar [c] := by
  by_cases hc : c ∈ (replacements semicolons).map Prod.fst
  · cases semicolons <;> fin_cases hc <;> decide
  · rw [foldl_replaceChar_singleton hc]
    cases semicolons <;> simp [replacements] at hc <;> simp [entity, hc]

/-- No replacement changes what an earlier one has put. -/
theorem escape_eq_foldl (semicolons : Bool) (cs : List Char) :
    escape semicolons cs = (replacements semicolons).foldl replaceChar cs := by
  induction cs with
  | nil => exact (foldl_replaceChar_nil _).symm
  | cons c cs ih =>
    rw [escape, List.flatMap_cons, ← escape, ih, entity_eq_foldl, ← foldl_replaceChar_append,
      List.singleton_append]

/-! ### Names and labels -/

open Text.Reference (Overlong)

lemma escape_false_eq_self {cs : List Char} (h : ∀ c ∈ ['&', '<', '>', '"', '|'], c ∉ cs) :
    escape false cs = cs := by
  induction cs with
  | nil => rfl
  | cons c cs ih =>
    have hc : entity false c = [c] := by
      simp only [List.mem_cons, List.not_mem_nil, or_false, forall_eq_or_imp, forall_eq, not_or] at h
      simp [entity, Ne.symm h.1.1, Ne.symm h.2.1.1, Ne.symm h.2.2.1.1, Ne.symm h.2.2.2.1.1,
        Ne.symm h.2.2.2.2.1]
    rw [escape, List.flatMap_cons, ← escape, hc,
      ih fun d hd hmem => h d hd (List.mem_cons_of_mem _ hmem), List.singleton_append]

/-- Tidy text without references is normalized. -/
lemma normalize_eq_self {cs : List Char} (h : Text.Tidy cs) (hamp : '&' ∉ cs) : normalize cs = .ok cs :=
  normalize_eq_ok_iff.mpr ⟨cs, Text.Reference.decode_eq_self hamp, h.trim_collapseBlanks⟩

/-- The text of a name is left as it is when it is made into one again. -/
lemma nameText_of_nameText {text name : String} (h : nameText text = .ok name) : nameText name = .ok name := by
  obtain ⟨u, hu, rfl⟩ := escaped_eq_ok_iff.mp h
  have htidy := tidy_escape false (tidy_normalize hu)
  have hplain : ∀ c ∈ ['&', '<', '>', '"', '|'], c ∉ escape false u := fun c hc => notMem_escape hc
  refine escaped_eq_ok_iff.mpr ⟨escape false u, ?_, by rw [escape_false_eq_self hplain]⟩
  rw [String.toList_ofList]
  exact normalize_eq_self htidy (hplain '&' (by decide))

lemma escaped_of_normalize {text : String} {u : List Char} (h : normalize text.toList = .ok u)
    (semicolons : Bool) : escaped semicolons text = .ok (String.ofList (escape semicolons u)) :=
  escaped_eq_ok_iff.mpr ⟨u, h, rfl⟩

/-- A text is written just where it can be decoded. -/
lemma exists_escaped_iff {text : String} {semicolons : Bool} :
    (∃ written, escaped semicolons text = .ok written) ↔ ∀ count, ¬ Overlong text.toList count := by
  rw [← Text.Reference.exists_decode_iff]
  constructor
  · rintro ⟨written, h⟩
    obtain ⟨u, hu, -⟩ := escaped_eq_ok_iff.mp h
    obtain ⟨decoded, hdecoded, -⟩ := normalize_eq_ok_iff.mp hu
    exact ⟨decoded, hdecoded⟩
  · rintro ⟨decoded, h⟩
    exact ⟨_, escaped_of_normalize (normalize_eq_ok_iff.mpr ⟨decoded, h, rfl⟩) semicolons⟩

/-- Labels are alike just where their normalized texts are. -/
lemma labelText_eq_ok_iff {text : String} {u : List Char} :
    labelText text = .ok (String.ofList (escape true u)) ↔ normalize text.toList = .ok u := by
  refine ⟨fun h => ?_, fun h => escaped_of_normalize h true⟩
  obtain ⟨u', hu', hlabel⟩ := escaped_eq_ok_iff.mp h
  rw [hu', ← unescape_escape u', ← unescape_escape u, String.ofList_injective hlabel]

/-- Just the labels with a reference that is too long are not written. The text of any other edge label has
none of the characters that Mermaid gives a meaning, no blanks but single spaces between words, and no semicolon
but at the end of an entity. Read back it is the decoded text with its blanks collapsed and trimmed, so labels
are alike only if these texts are. The text of a name is left as it is when it is made into one again. -/
theorem labelText_readable (text : String) :
    ((∃ label, labelText text = .ok label) ↔ ∀ count, ¬ Overlong text.toList count) ∧
    ((∃ count, Overlong text.toList count ∧ labelText text = .error (.manyDigits count) ∧
      nameText text = .error (.manyDigits count)) ∨
    ∃ decoded label name, Text.Reference.decode text.toList = .ok decoded ∧
      ('&' ∉ text.toList → decoded = text.toList) ∧
      labelText text = .ok label ∧ nameText text = .ok name ∧
      (∀ c ∈ ['&', '<', '>', '"', '|'], c ∉ label.toList) ∧
      Text.Tidy label.toList ∧
      (∀ before after, label.toList = before ++ ';' :: after →
        ∃ code ∈ entities, code <:+ before ++ [';']) ∧
      unescape label.toList = Text.trim (Text.collapseBlanks decoded) ∧
      (∀ other, labelText other = .ok label ↔
        normalize other.toList = .ok (Text.trim (Text.collapseBlanks decoded))) ∧
      nameText name = .ok name) := by
  refine ⟨exists_escaped_iff, ?_⟩
  cases hdecode : Text.Reference.decode text.toList with
  | error count =>
    have hnormalize : normalize text.toList = .error (.manyDigits count) := by rw [normalize, hdecode]
    exact .inl ⟨count, Text.Reference.overlong_of_decode hdecode, map_eq_error_iff.mpr hnormalize,
      map_eq_error_iff.mpr hnormalize⟩
  | ok decoded =>
    have hu : normalize text.toList = .ok (Text.trim (Text.collapseBlanks decoded)) :=
      normalize_eq_ok_iff.mpr ⟨decoded, hdecode, rfl⟩
    have hname : nameText text = .ok _ := escaped_of_normalize hu false
    refine .inr ⟨decoded, String.ofList (escape true (Text.trim (Text.collapseBlanks decoded))), _, rfl, ?_,
      labelText_eq_ok_iff.mpr hu, hname, ?_, ?_, ?_, ?_, fun other => labelText_eq_ok_iff,
      nameText_of_nameText hname⟩
    · intro hamp
      rw [Text.Reference.decode_eq_self hamp] at hdecode
      exact (Except.ok.inj hdecode).symm
    · intro c hc
      rw [String.toList_ofList]
      exact notMem_escape hc
    · rw [String.toList_ofList]
      exact tidy_escape true (tidy_normalize hu)
    · intro before after h
      rw [String.toList_ofList] at h
      exact exists_entity_suffix h
    · rw [String.toList_ofList, unescape_escape]

end Mermaid

end ActorDiagram
