import EntitySearch.Proofs.Query.Words

/-!
# Terms and the texts they come from

The terms of a text spell its letters, one term for each run that has some.  A text in which every
phrase is closed can be read apart from what follows behind white space, even where a quote without
partner follows.

Main statements: `terms_spell_letters`, `ofText_append`.
-/
set_option autoImplicit false
namespace EntitySearch
namespace Term

theorem bytes_eq (cs : List Char) : bytes cs = (String.ofList cs).utf8ByteSize := by
  induction cs with
  | nil => rfl
  | cons c rest ih =>
      rw [bytes, ih, ← List.singleton_append, String.ofList_append, String.utf8ByteSize_append]
      simp

/-- A text is not read at the first attempt just if it has an odd number of quotes; then the last
quote is reported, and the text is read with that quote as a letter.  The terms, each written with
its dash, spell the letters of the text, and each of them is what its run stands for. -/
theorem terms_spell_letters (s : String) :
    ((∃ place, scanWith s.toList none = .error place) ↔ s.toList.count quote % 2 = 1) ∧
      (∀ place, scanWith s.toList none = .error place →
        (∃ front back, s.toList = front ++ quote :: back ∧ quote ∉ back ∧
          place = (String.ofList front).utf8ByteSize) ∧
        ∃ terms, scanWith s.toList (some place) = .ok terms) ∧
      (ofText s).flatMap written = letters (marks s.toList) ∧
      List.Forall₂ Reads ((runs (marks s.toList)).filter fun run => letters run ≠ [])
        (ofText s) := by
  have solid : ∀ run ∈ runs (marks s.toList), Solid run :=
    fun run member => solid_of_mem_runs member
  have terms : ofText s = (runs (marks s.toList)).filterMap ofRun := ofChars_eq s.toList
  have fails_iff : (∃ place, scanWith s.toList none = .error place) ↔
      s.toList.count quote % 2 = 1 := by
    constructor
    · rintro ⟨place, fails⟩
      rcases Nat.mod_two_eq_zero_or_one (s.toList.count quote) with even | odd
      · cases fails.symm.trans (scanWith_of_even even)
      · exact odd
    · intro odd
      obtain ⟨front, back, split, clear⟩ := exists_last_of_odd odd
      rw [split] at odd ⊢
      exact ⟨bytes front, (scanWith_of_odd clear odd).1⟩
  refine ⟨fails_iff, fun place fails => ?_, ?_, ?_⟩
  · have odd := fails_iff.1 ⟨place, fails⟩
    obtain ⟨front, back, split, clear⟩ := exists_last_of_odd odd
    rw [split] at odd fails ⊢
    obtain ⟨failsThere, reads⟩ := scanWith_of_odd clear odd
    obtain rfl : place = bytes front := Except.error.inj (fails.symm.trans failsThere)
    exact ⟨⟨front, back, rfl, clear, bytes_eq front⟩, _, reads⟩
  · rw [terms, flatMap_written_ofRun solid, flatMap_letters_runs]
  · rw [terms]
    exact reads_filterMap_ofRun solid

section Balanced
variable {closed : Nat} (even : closed % 2 = 0)
include even

theorem role_behind (total before : Nat) (c : Char) :
    role (closed + total) (closed + before) c = role total before c := by
  have alone : Alone (closed + total) (closed + before) ↔ Alone total before := by
    unfold Alone
    omega
  have between : Between (closed + total) (closed + before) ↔ Between total before := by
    unfold Between
    omega
  simp only [role, alone, between]

theorem marksFrom_behind (total : Nat) (cs : List Char) :
    ∀ before, marksFrom (closed + total) (closed + before) cs = marksFrom total before cs := by
  induction cs with
  | nil => exact fun before => rfl
  | cons c rest ih =>
      intro before
      have past : quotesPast (closed + before) c = closed + quotesPast before c := by
        unfold quotesPast
        split <;> rfl
      rw [marksFrom, marksFrom, role_behind even, past, ih]

theorem marksFrom_ahead (later : Nat) (cs : List Char) :
    ∀ before, before + cs.count quote = closed →
      marksFrom (closed + later) before cs = marksFrom closed before cs := by
  induction cs with
  | nil => exact fun before counted => rfl
  | cons c rest ih =>
      intro before counted
      have between : Between (closed + later) before ↔ Between closed before := by
        unfold Between
        omega
      rw [marksFrom, marksFrom]
      by_cases isQuote : c = quote
      · subst isQuote
        rw [List.count_cons_self] at counted
        have paired : ¬ Alone (closed + later) before ∧ ¬ Alone closed before := by
          unfold Alone
          omega
        have past : quotesPast before quote = before + 1 := if_pos rfl
        rw [role_of_paired paired.1, role_of_paired paired.2, past, ih (before + 1) (by omega)]
      · rw [List.count_cons_of_ne isQuote] at counted
        have past : quotesPast before c = before := if_neg isQuote
        have same : role (closed + later) before c = role closed before c := by
          simp only [role, if_neg isQuote, between]
        rw [same, past, ih before counted]

end Balanced

theorem marksFrom_append (total : Nat) (a b : List Char) :
    ∀ before, marksFrom total before (a ++ b) =
      marksFrom total before a ++ marksFrom total (before + a.count quote) b := by
  induction a with
  | nil => exact fun before => rfl
  | cons c rest ih =>
      intro before
      have past : quotesPast before c + rest.count quote = before + (c :: rest).count quote := by
        unfold quotesPast
        by_cases isQuote : c = quote
        · subst isQuote
          rw [if_pos rfl, List.count_cons_self]
          omega
        · rw [if_neg isQuote, List.count_cons_of_ne isQuote]
      rw [List.cons_append, marksFrom, marksFrom, ih, past, List.cons_append]

/-- White space behind closed phrases is a gap, and what follows it has the roles it has alone. -/
theorem marks_append_space {a : List Char} (even : a.count quote % 2 = 0) {w : Char}
    (space : Text.isSpace w = true) (b : List Char) :
    marks (a ++ w :: b) = marks a ++ (w, .gap) :: marks b := by
  have other : w ≠ quote := quote_ne_of_isSpace space
  have total : (a ++ w :: b).count quote = a.count quote + b.count quote := by
    rw [List.count_append, List.count_cons_of_ne other]
  have apart : ¬ Between (a.count quote + b.count quote) (a.count quote) := by
    unfold Between
    omega
  have past : quotesPast (a.count quote) w = a.count quote := if_neg other
  have front := marksFrom_ahead even (b.count quote) a 0 (Nat.zero_add _)
  have behind := marksFrom_behind even (b.count quote) b 0
  rw [Nat.add_zero] at behind
  rw [marks, total, marksFrom_append, front, Nat.zero_add, marksFrom, role_of_space space apart,
    past, behind]
  rfl

theorem ofChars_append {a : List Char} (even : a.count quote % 2 = 0) {w : Char}
    (space : Text.isSpace w = true) (b : List Char) :
    ofChars (a ++ w :: b) = ofChars a ++ ofChars b := by
  rw [ofChars_eq, ofChars_eq, ofChars_eq, marks_append_space even space, runs,
    List.splitOnP_append_cons _ _ (by simp), List.filterMap_append]
  rfl

/-- A text in which every phrase is closed, white space, and any other text: the terms are those of
the one and then those of the other.  So a phrase without quotes in it can follow between quotes, and
whatever it holds is one plain term. -/
theorem ofText_append {a : String} (balanced : a.toList.count quote % 2 = 0) {w : Char}
    (space : Text.isSpace w = true) :
    (∀ b : String, ofText (a ++ String.singleton w ++ b) = ofText a ++ ofText b) ∧
      ∀ p : String, p ≠ "" → quote ∉ p.toList →
        ofText (a ++ String.singleton w ++ betweenQuotes p) = ofText a ++ [.plain p] := by
  have joined : ∀ b : String, ofText (a ++ String.singleton w ++ b) = ofText a ++ ofText b := by
    intro b
    have whole : (a ++ String.singleton w ++ b).toList = a.toList ++ w :: b.toList := by
      simp [String.toList_append]
    rw [ofText, whole]
    exact ofChars_append balanced space b.toList
  refine ⟨joined, fun p filled clear => ?_⟩
  rw [joined, ofText_quoted filled clear]

/-- A closed phrase in front, and behind it a quote without partner, or a phrase that looks like
syntax. -/
theorem terms_behind_phrase :
    "a -\"b c\"".toList.count quote % 2 = 0 ∧ Text.isSpace ' ' = true ∧
      ofText ("a -\"b c\"" ++ String.singleton ' ' ++ "OR \"d") =
        [.plain "a", .negated "b c", .keyword "OR", .plain "\"d"] ∧
      ofText ("a -\"b c\"" ++ String.singleton ' ' ++ betweenQuotes "- OR d") =
        [.plain "a", .negated "b c", .plain "- OR d"] := by
  have balanced : "a -\"b c\"".toList.count quote % 2 = 0 := by decide
  have space : Text.isSpace ' ' = true := by decide
  obtain ⟨joined, phrase⟩ := ofText_append balanced space
  refine ⟨balanced, space, ?_, ?_⟩
  · rw [joined "OR \"d"]
    decide +kernel
  · rw [phrase "- OR d" (by decide) (by decide)]
    decide +kernel

end Term
end EntitySearch
