import EntitySearch.Proofs.Query.Runs

/-!
# The shorter way through plain texts

A text without quotes and dashes, in which the letters of the keyword do not stand together, is cut
into words.  Its gaps are all its white space, so its runs are its words and the empty runs between
neighbouring gaps, and every word stands for a plain term.

Main statement: `ofText_eq_scan`.
-/
set_option autoImplicit false
namespace EntitySearch

namespace Text

theorem words_eq_splitOnP (cs : List Char) :
    words cs = (cs.splitOnP isSpace).filter fun piece => piece ≠ [] := by
  induction cs with
  | nil => rfl
  | cons c rest ih =>
      rw [List.splitOnP_cons_eq_if_modifyHead]
      cases space : isSpace c with
      | true => simpa [words_cons_space rest space] using ih
      | false =>
          cases rest with
          | nil => simp [words_singleton space]
          | cons d tail =>
              rw [List.splitOnP_cons_eq_if_modifyHead] at ih ⊢
              cases space' : isSpace d with
              | true =>
                  rw [space', words_cons_space tail space'] at ih
                  rw [words_cons_cons_space tail space space', ih]
                  simp
              | false =>
                  rw [words_cons_cons tail space space', ih]
                  obtain ⟨first, more, cut⟩ := exists_splitOnP isSpace tail
                  simp [cut, space']

theorem infix_of_mem_splitOnP {p : Char → Bool} {cs piece : List Char}
    (member : piece ∈ cs.splitOnP p) : piece <:+: cs := by
  -- The first piece begins the text, so that a further character can go in front of it.
  have pieces : ∀ cs : List Char, ∃ first more, cs.splitOnP p = first :: more ∧
      first <+: cs ∧ ∀ piece ∈ more, piece <:+: cs := by
    intro cs
    induction cs with
    | nil => exact ⟨[], [], rfl, List.prefix_rfl, by simp⟩
    | cons c rest ih =>
        obtain ⟨first, more, cut, begins, within⟩ := ih
        rw [List.splitOnP_cons_eq_if_modifyHead, cut]
        have later : ∀ piece ∈ more, piece <:+: c :: rest := fun piece member =>
          (within piece member).trans (List.infix_cons List.infix_rfl)
        split
        · refine ⟨[], first :: more, rfl, List.nil_prefix, List.forall_mem_cons.2 ⟨?_, later⟩⟩
          exact begins.isInfix.trans (List.infix_cons List.infix_rfl)
        · exact ⟨c :: first, more, rfl, List.cons_prefix_cons.2 ⟨rfl, begins⟩, later⟩
  obtain ⟨first, more, cut, begins, within⟩ := pieces cs
  rw [cut] at member
  rcases List.mem_cons.1 member with rfl | later
  · exact begins.isInfix
  · exact within piece later

end Text

namespace Term

theorem marks_of_clear {cs : List Char} (clear : quote ∉ cs) :
    marks cs = cs.map fun c => (c, if Text.isSpace c then .gap else .letter) := by
  have apart : ¬ Between 0 0 := not_between_zero 0
  have each : ∀ cs : List Char, quote ∉ cs →
      marksFrom 0 0 cs = cs.map fun c => (c, if Text.isSpace c then .gap else .letter) := by
    intro cs clear
    induction cs with
    | nil => rfl
    | cons c rest ih =>
        obtain ⟨other, later⟩ := List.ne_and_not_mem_of_not_mem_cons clear
        rw [marksFrom, quotesPast, if_neg (Ne.symm other), ih later, List.map_cons]
        cases space : Text.isSpace c with
        | true => rw [role_of_space space apart, if_pos rfl]
        | false => rw [role_of_solid (Ne.symm other) space, if_neg Bool.false_ne_true]
  rw [marks, List.count_eq_zero_of_not_mem clear, each cs clear]

theorem runs_of_clear {cs : List Char} (clear : quote ∉ cs) :
    runs (marks cs) = (cs.splitOnP Text.isSpace).map bare := by
  rw [marks_of_clear clear]
  clear clear
  unfold runs
  induction cs with
  | nil => rfl
  | cons c rest ih =>
      rw [List.map_cons, List.splitOnP_cons_eq_if_modifyHead, List.splitOnP_cons_eq_if_modifyHead, ih]
      cases space : Text.isSpace c with
      | true => simp [bare]
      | false =>
          obtain ⟨first, more, cut⟩ := exists_splitOnP Text.isSpace rest
          simp [cut, bare]

theorem solid_bare (word : List Char) : Solid (bare word) := by
  intro m member
  obtain ⟨c, -, rfl⟩ := List.mem_map.1 member
  simp

theorem letters_bare (word : List Char) : letters (bare word) = word :=
  ((eq_bare_iff (solid_bare word) word).1 rfl).2

theorem ofRun_bare {word : List Char} (filled : word ≠ []) (noDash : dash ∉ word)
    (other : word ≠ orKeyword) : ofRun (bare word) = some (.plain (String.ofList word)) := by
  cases word with
  | nil => exact absurd rfl filled
  | cons c rest =>
      obtain ⟨notDash, -⟩ := List.ne_and_not_mem_of_not_mem_cons noDash
      have notKeyword : (c, Role.letter) :: bare rest ≠ bare orKeyword := by
        intro same
        have spelled := ((eq_bare_iff (solid_bare (c :: rest)) orKeyword).1 same).2
        exact other ((letters_bare (c :: rest)).symm.trans spelled)
      have read := ofRun_letter (solid_bare rest) (Ne.symm notDash)
      rwa [if_neg notKeyword, letters_bare] at read

/-- A text of plain words is read as its words. -/
theorem scan_eq_ofWords {cs : List Char} (noQuote : quote ∉ cs) (noKeyword : ¬ orKeyword <:+: cs)
    (noDash : dash ∉ cs) : scan cs = ofWords cs := by
  rw [scan_eq, runs_of_clear noQuote, ofWords, Text.words_eq_splitOnP, List.filterMap_map,
    ← List.filterMap_eq_map, List.filterMap_filter]
  refine List.filterMap_congr fun piece member => ?_
  have within := Text.infix_of_mem_splitOnP member
  by_cases empty : piece = []
  · subst empty
    rfl
  · have read := ofRun_bare empty (fun inPiece => noDash (within.subset inPiece))
      (fun isKeyword => noKeyword (isKeyword ▸ within))
    simpa [empty] using read

theorem ofChars_eq (cs : List Char) : ofChars cs = (runs (marks cs)).filterMap ofRun := by
  rw [← scan_eq, ofChars]
  cases scans : needsScan cs with
  | true => rfl
  | false =>
      simp only [needsScan, Bool.or_eq_false_iff, List.contains_eq_mem, decide_eq_false_iff_not]
        at scans
      obtain ⟨⟨noQuote, noKeyword⟩, noDash⟩ := scans
      refine (scan_eq_ofWords noQuote (fun occurs => ?_) noDash).symm
      rw [Text.occursIn_iff.2 occurs] at noKeyword
      cases noKeyword

/-- The shorter way leads to the same terms: the terms of every text are those that reading it
character by character gives.  Where a text has no quote, no dash and nowhere the letters of the
keyword, these are its words, none of them negated and none the keyword. -/
theorem ofText_eq_scan (s : String) :
    ofText s = scan s.toList ∧
      (quote ∉ s.toList → ¬ orKeyword <:+: s.toList → dash ∉ s.toList →
        scan s.toList = ofWords s.toList ∧
          ∀ term ∈ scan s.toList, term.isNegated = false ∧ term.isKeyword = false) := by
  refine ⟨(ofChars_eq s.toList).trans (scan_eq s.toList).symm, fun noQuote noKeyword noDash => ?_⟩
  have words := scan_eq_ofWords noQuote noKeyword noDash
  refine ⟨words, fun term member => ?_⟩
  rw [words, ofWords] at member
  obtain ⟨word, -, rfl⟩ := List.mem_map.1 member
  exact ⟨rfl, rfl⟩

/-- White space of any kind and letters of any script are no reason to look closer. -/
theorem words_scanned :
    let cs := " unicode\tünïcödé\u3000日本語 or".toList
    (quote ∉ cs ∧ ¬ orKeyword <:+: cs ∧ dash ∉ cs) ∧ scan cs = ofWords cs := by
  intro cs
  have noQuote : quote ∉ cs := by decide +kernel
  have noDash : dash ∉ cs := by decide +kernel
  have noKeyword : ¬ orKeyword <:+: cs := by
    rw [← Text.occursIn_iff]
    decide +kernel
  have read := (ofText_eq_scan " unicode\tünïcödé\u3000日本語 or").2 noQuote noKeyword noDash
  exact ⟨⟨noQuote, noKeyword, noDash⟩, read.1⟩

end Term
end EntitySearch
