import EntitySearch.Proofs.Query.Marks

/-!
# What terms keep of a text

A run stands for one term, or for none if it has no letters.  The term has the letters of the run; a
dash that begins the run, outside quotes and with letters behind it, is taken off and negates the
term.  Only a run of the two bare letters of the keyword is the keyword.

So the terms of a text, each written with its dash, spell the text without its paired quotes and
without the white space outside of them.

Main statements: `reads_filterMap_ofRun`, `flatMap_written_ofRun`.
-/
set_option autoImplicit false
namespace EntitySearch
namespace Term

def written (term : Term) : List Char :=
  (if term.isNegated then [dash] else []) ++ term.text.toList

def Solid (run : List Mark) : Prop := ∀ m ∈ run, m.2 ≠ .gap

def bare (word : List Char) : List Mark := word.map fun c => (c, .letter)

/-- A term is what a run stands for. -/
structure Reads (run : List Mark) (term : Term) : Prop where
  written : term.written = letters run
  filled : term.text ≠ ""
  negated : term.isNegated = true ↔ ∃ rest, run = (dash, .letter) :: rest ∧ letters rest ≠ []
  keyword : term.isKeyword = true ↔ run = bare orKeyword

@[simp] theorem letters_nil : letters [] = [] := rfl

@[simp] theorem letters_letter (c : Char) (rest : List Mark) :
    letters ((c, .letter) :: rest) = c :: letters rest := by
  simp [letters]

@[simp] theorem letters_delimiter (c : Char) (rest : List Mark) :
    letters ((c, .delimiter) :: rest) = letters rest := by
  simp [letters]

@[simp] theorem letters_gap (c : Char) (rest : List Mark) :
    letters ((c, .gap) :: rest) = letters rest := by
  simp [letters]

theorem flatMap_letters_runs (ms : List Mark) : (runs ms).flatMap letters = letters ms := by
  induction ms with
  | nil => rfl
  | cons m rest ih =>
      obtain ⟨c, role⟩ := m
      unfold runs at ih ⊢
      rw [List.splitOnP_cons_eq_if_modifyHead]
      obtain ⟨run, more, cut⟩ := exists_splitOnP (fun m : Mark => decide (m.2 = .gap)) rest
      rw [cut] at ih ⊢
      cases role <;> simpa using ih

theorem solid_of_mem_runs {ms run : List Mark} (member : run ∈ runs ms) : Solid run := by
  induction ms generalizing run with
  | nil =>
      obtain rfl := List.mem_singleton.1 member
      exact fun m inRun => absurd inRun List.not_mem_nil
  | cons m rest ih =>
      unfold runs at ih member
      rw [List.splitOnP_cons_eq_if_modifyHead] at member
      split at member
      · rcases List.mem_cons.1 member with rfl | later
        · exact fun m inRun => absurd inRun List.not_mem_nil
        · exact ih later
      · next isSolid =>
        obtain ⟨first, more, cut⟩ := exists_splitOnP (fun m : Mark => decide (m.2 = .gap)) rest
        rw [cut] at ih member
        rcases List.mem_cons.1 member with rfl | later
        · exact List.forall_mem_cons.2 ⟨by simpa using isSolid, ih (List.mem_cons_self ..)⟩
        · exact ih (List.mem_cons_of_mem _ later)

/-- A run that is a bare word has no delimiters. -/
theorem eq_bare_iff {run : List Mark} (solid : Solid run) (word : List Char) :
    run = bare word ↔
      (run.any fun m => m.2 = .delimiter) = false ∧ letters run = word := by
  induction run generalizing word with
  | nil => cases word <;> simp [bare]
  | cons m rest ih =>
      obtain ⟨c, role⟩ := m
      obtain ⟨here, later⟩ := List.forall_mem_cons.1 solid
      cases role with
      | letter =>
          cases word with
          | nil => simp [bare]
          | cons d word =>
              have tail := ih later word
              unfold bare at tail ⊢
              simp only [List.map_cons, List.cons.injEq, Prod.mk.injEq, and_true, tail,
                letters_letter, List.any_cons]
              simp [and_left_comm]
      | delimiter => cases word <;> simp [bare]
      | gap => exact absurd rfl here

theorem foldl_take {run : List Mark} (solid : Solid run) {draft : Draft}
    (begun : draft.begun = true) :
    run.foldl Draft.take draft =
      { draft with
        letters := (letters run).reverse ++ draft.letters
        quoted := draft.quoted || run.any fun m => m.2 = .delimiter } := by
  induction run generalizing draft with
  | nil => simp
  | cons m rest ih =>
      obtain ⟨c, role⟩ := m
      obtain ⟨here, later⟩ := List.forall_mem_cons.1 solid
      rw [List.foldl_cons]
      cases role with
      | letter =>
          have kept : (draft.inside c).begun = true := begun
          rw [← inside_eq_take begun, ih later kept]
          simp [Draft.inside]
      | delimiter =>
          have phrase : draft.openQuote.begun = true := rfl
          exact (ih later phrase).trans (by simp [Draft.openQuote, begun])
      | gap => exact absurd rfl here

section Runs
variable {rest : List Mark} (solid : Solid rest)
include solid

theorem ofRun_dash : ofRun ((dash, .letter) :: rest) =
    if letters rest = [] then some (.plain (String.ofList [dash]))
    else some (.negated (String.ofList (letters rest))) := by
  have begun : Draft.take {} (dash, .letter) = { negated := true, begun := true } := rfl
  rw [ofRun, List.foldl_cons, begun, foldl_take solid rfl]
  simp [Draft.finish]

theorem ofRun_delimiter (c : Char) : ofRun ((c, .delimiter) :: rest) =
    if letters rest = [] then none else some (.plain (String.ofList (letters rest))) := by
  have begun : Draft.take {} (c, .delimiter) = { quoted := true, begun := true } := rfl
  rw [ofRun, List.foldl_cons, begun, foldl_take solid rfl]
  simp [Draft.finish]

theorem ofRun_letter {c : Char} (other : c ≠ dash) : ofRun ((c, .letter) :: rest) =
    if (c, Role.letter) :: rest = bare orKeyword then
      some (.keyword (String.ofList orKeyword))
    else some (.plain (String.ofList (c :: letters rest))) := by
  have begun : Draft.take {} (c, .letter) = { letters := [c], begun := true } := by
    simp [Draft.take, Draft.outside, other]
  have solidRun : Solid ((c, .letter) :: rest) := List.forall_mem_cons.2 ⟨by simp, solid⟩
  rw [ofRun, List.foldl_cons, begun, foldl_take solid rfl]
  simp only [eq_bare_iff solidRun orKeyword]
  simp only [Draft.finish, List.any_cons, letters_letter]
  cases phrase : rest.any fun m => m.2 = .delimiter with
  | true => simp
  | false =>
      by_cases bare : c :: letters rest = orKeyword
      · simp [bare]
      · simp [bare]

end Runs

/-- A run of letters stands for a term, and no other does. -/
theorem ofRun_eq_none_iff {run : List Mark} (solid : Solid run) :
    ofRun run = none ↔ letters run = [] := by
  cases run with
  | nil => exact ⟨fun _ => rfl, fun _ => rfl⟩
  | cons m rest =>
      obtain ⟨c, role⟩ := m
      obtain ⟨here, later⟩ := List.forall_mem_cons.1 solid
      cases role with
      | letter =>
          by_cases isDash : c = dash
          · subst isDash
            rw [ofRun_dash later]
            split <;> simp
          · rw [ofRun_letter later isDash]
            split <;> simp
      | delimiter =>
          rw [ofRun_delimiter later]
          split <;> simp [*]
      | gap => exact absurd rfl here

theorem reads_plain {run : List Mark} (filled : letters run ≠ [])
    (affirmed : ¬ ∃ rest, run = (dash, .letter) :: rest ∧ letters rest ≠ [])
    (other : run ≠ bare orKeyword) : Reads run (.plain (String.ofList (letters run))) where
  written := by simp [Term.written, isNegated, text]
  filled := by simpa [text] using filled
  negated := by simpa [isNegated] using affirmed
  keyword := by simpa [isKeyword] using other

theorem reads_negated {rest : List Mark} (filled : letters rest ≠ []) :
    Reads ((dash, .letter) :: rest) (.negated (String.ofList (letters rest))) where
  written := by simp [Term.written, isNegated, text]
  filled := by simpa [text] using filled
  negated := by simp [isNegated, filled]
  keyword := by simp [isKeyword, bare, dash, orKeyword]

theorem reads_keyword : Reads (bare orKeyword) (.keyword (String.ofList orKeyword)) where
  written := by simp [Term.written, isNegated, text, bare, orKeyword]
  filled := by simp [text, orKeyword]
  negated := by simp [isNegated, bare, dash, orKeyword]
  keyword := by simp [isKeyword]

theorem reads_of_ofRun {run : List Mark} (solid : Solid run) {term : Term}
    (found : ofRun run = some term) : Reads run term := by
  cases run with
  | nil => cases found
  | cons m rest =>
      obtain ⟨c, role⟩ := m
      obtain ⟨here, later⟩ := List.forall_mem_cons.1 solid
      cases role with
      | letter =>
          by_cases isDash : c = dash
          · subst isDash
            rw [ofRun_dash later] at found
            split at found
            · next alone =>
              cases found
              have read : Reads ((dash, .letter) :: rest) _ :=
                reads_plain (by simp) (by simp [alone]) (by simp [bare, dash, orKeyword])
              rwa [letters_letter, alone] at read
            · next filled =>
              cases found
              exact reads_negated filled
          · rw [ofRun_letter later isDash] at found
            split at found
            · next isKeyword =>
              cases found
              exact isKeyword ▸ reads_keyword
            · next other =>
              cases found
              have read : Reads ((c, .letter) :: rest) _ :=
                reads_plain (by simp) (by simp [isDash]) other
              rwa [letters_letter] at read
      | delimiter =>
          rw [ofRun_delimiter later] at found
          split at found
          · cases found
          · next filled =>
            cases found
            have read : Reads ((c, .delimiter) :: rest) _ :=
              reads_plain (by simpa using filled) (by simp) (by simp [bare, orKeyword])
            rwa [letters_delimiter] at read
      | gap => exact absurd rfl here

theorem reads_filterMap_ofRun {rs : List (List Mark)} (solid : ∀ run ∈ rs, Solid run) :
    List.Forall₂ Reads (rs.filter fun run => letters run ≠ []) (rs.filterMap ofRun) := by
  induction rs with
  | nil => exact List.Forall₂.nil
  | cons run more ih =>
      obtain ⟨here, later⟩ := List.forall_mem_cons.1 solid
      rw [List.filter_cons, List.filterMap_cons]
      cases found : ofRun run with
      | none =>
          have blank := (ofRun_eq_none_iff here).1 found
          simpa [blank] using ih later
      | some term =>
          have filled : letters run ≠ [] := fun blank => by
            rw [(ofRun_eq_none_iff here).2 blank] at found
            cases found
          rw [if_pos (by simpa using filled)]
          exact List.Forall₂.cons (reads_of_ofRun here found) (ih later)

/-- Together the terms have the letters of the text. -/
theorem flatMap_written_ofRun {rs : List (List Mark)} (solid : ∀ run ∈ rs, Solid run) :
    (rs.filterMap ofRun).flatMap written = rs.flatMap letters := by
  induction rs with
  | nil => rfl
  | cons run more ih =>
      obtain ⟨here, later⟩ := List.forall_mem_cons.1 solid
      rw [List.filterMap_cons, List.flatMap_cons]
      cases found : ofRun run with
      | none =>
          rw [(ofRun_eq_none_iff here).1 found]
          exact ih later
      | some term =>
          rw [← (reads_of_ofRun here found).written, ← ih later]
          rfl

end Term
end EntitySearch
