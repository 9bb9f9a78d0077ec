import EntitySearch.Proofs.Search.Finding

/-!
# The roles of characters

Every character of a text has one of three roles.  Quotes pair up from the left and are the
delimiters of phrases; the last of an odd number has no partner and is a letter.  White space is a
gap unless it stands between paired quotes.  All else is letters.  Gaps cut a text into runs, and
every run is read for itself.

Reading the characters one by one, and once more if a quote is never closed, gives what the runs
stand for.

Main statement: `scan_eq`.
-/
set_option autoImplicit false
namespace EntitySearch

theorem exists_splitOnP {α : Type} (p : α → Bool) (l : List α) :
    ∃ first more, l.splitOnP p = first :: more :=
  List.exists_cons_of_ne_nil (List.splitOnP_ne_nil p l)

namespace Term

inductive Role where
  | letter
  | delimiter
  | gap
deriving DecidableEq

/-- Is a place between paired quotes, if `before` of `total` quotes stand in front of it? -/
def Between (total before : Nat) : Prop := before % 2 = 1 ∧ before < total

instance (total before : Nat) : Decidable (Between total before) :=
  inferInstanceAs (Decidable (_ ∧ _))

/-- Has a quote that has `before` of `total` quotes in front of it no partner? -/
def Alone (total before : Nat) : Prop := before % 2 = 0 ∧ before + 1 = total

instance (total before : Nat) : Decidable (Alone total before) :=
  inferInstanceAs (Decidable (_ ∧ _))

def role (total before : Nat) (c : Char) : Role :=
  if c = quote then if Alone total before then .letter else .delimiter
  else if Text.isSpace c ∧ ¬ Between total before then .gap
  else .letter

abbrev Mark := Char × Role

def quotesPast (before : Nat) (c : Char) : Nat := if c = quote then before + 1 else before

/-- The roles of the characters of a text with `total` quotes, from one on that has `before` of them
in front of it. -/
def marksFrom (total : Nat) : Nat → List Char → List Mark
  | _, [] => []
  | before, c :: rest => (c, role total before c) :: marksFrom total (quotesPast before c) rest

def marks (cs : List Char) : List Mark := marksFrom (cs.count quote) 0 cs

def letters (marks : List Mark) : List Char := (marks.filter fun m => m.2 = .letter).map Prod.fst

def runs (marks : List Mark) : List (List Mark) := marks.splitOnP fun m => m.2 = .gap

def Draft.take (draft : Draft) : Mark → Draft
  | (c, .letter) => draft.outside c
  | (_, .delimiter) => draft.openQuote
  | (_, .gap) => {}

def Draft.ends (draft : Draft) : Mark → List Term
  | (_, .gap) => draft.finish.toList
  | _ => []

def ofRun (run : List Mark) : Option Term := (run.foldl Draft.take {}).finish

def ofRuns (draft : Draft) : List (List Mark) → List Term
  | [] => []
  | run :: more => (run.foldl Draft.take draft).finish.toList ++ more.filterMap ofRun

section Steps
variable {literal : Option Nat} {offset place : Nat} {draft : Draft} {c : Char} {rest : List Char}

theorem scanFrom_open (counts : literal ≠ some offset) :
    scanFrom literal offset draft none (quote :: rest) =
      scanFrom literal (offset + quote.utf8Size) draft.openQuote (some offset) rest := by
  rw [scanFrom, if_pos ⟨rfl, counts⟩]

theorem scanFrom_close (counts : literal ≠ some offset) :
    scanFrom literal offset draft (some place) (quote :: rest) =
      scanFrom literal (offset + quote.utf8Size) draft none rest := by
  rw [scanFrom, if_pos ⟨rfl, counts⟩]

theorem scanFrom_keep (isLetter : c = quote → literal = some offset) :
    scanFrom literal offset draft (some place) (c :: rest) =
      scanFrom literal (offset + c.utf8Size) (draft.inside c) (some place) rest := by
  rw [scanFrom, if_neg fun both => both.2 (isLetter both.1)]
  rfl

theorem scanFrom_letter (isLetter : c = quote → literal = some offset)
    (solid : Text.isSpace c = false) :
    scanFrom literal offset draft none (c :: rest) =
      scanFrom literal (offset + c.utf8Size) (draft.outside c) none rest := by
  rw [scanFrom, if_neg fun both => both.2 (isLetter both.1)]
  simp [solid]

theorem scanFrom_space (space : Text.isSpace c = true) :
    scanFrom literal offset draft none (c :: rest) =
      (scanFrom literal (offset + c.utf8Size) {} none rest).map fun terms =>
        draft.finish.toList ++ terms := by
  rw [scanFrom, if_neg fun both => quote_ne_of_isSpace space both.1]
  simp [space]

end Steps

theorem ofRuns_empty (runs : List (List Mark)) : ofRuns {} runs = runs.filterMap ofRun := by
  cases runs with
  | nil => rfl
  | cons run more =>
      change (ofRun run).toList ++ _ = _
      rw [List.filterMap_cons]
      cases ofRun run <;> rfl

theorem ofRuns_cons (draft : Draft) (m : Mark) (rest : List Mark) :
    ofRuns draft (runs (m :: rest)) = draft.ends m ++ ofRuns (draft.take m) (runs rest) := by
  obtain ⟨c, role⟩ := m
  unfold runs
  rw [List.splitOnP_cons_eq_if_modifyHead]
  cases role with
  | gap =>
      rw [if_pos (by simp)]
      exact congrArg (draft.finish.toList ++ ·) (ofRuns_empty _).symm
  | letter =>
      obtain ⟨run, more, cut⟩ := exists_splitOnP (fun m : Mark => decide (m.2 = .gap)) rest
      rw [if_neg (by simp), cut]
      rfl
  | delimiter =>
      obtain ⟨run, more, cut⟩ := exists_splitOnP (fun m : Mark => decide (m.2 = .gap)) rest
      rw [if_neg (by simp), cut]
      rfl

theorem inside_eq_take {draft : Draft} (begun : draft.begun = true) (c : Char) :
    draft.inside c = draft.take (c, .letter) := by
  simp [Draft.take, Draft.inside, Draft.outside, begun]

theorem openQuote_eq_self {draft : Draft} (begun : draft.begun = true)
    (quoted : draft.quoted = true) : draft.openQuote = draft := by
  cases draft
  simp_all [Draft.openQuote]

theorem role_of_alone {total before : Nat} (alone : Alone total before) :
    role total before quote = .letter := by
  rw [role, if_pos rfl, if_pos alone]

theorem role_of_paired {total before : Nat} (paired : ¬ Alone total before) :
    role total before quote = .delimiter := by
  rw [role, if_pos rfl, if_neg paired]

theorem role_of_between {total before : Nat} {c : Char} (other : c ≠ quote)
    (between : Between total before) : role total before c = .letter := by
  rw [role, if_neg other, if_neg fun both => both.2 between]

theorem role_of_solid {total before : Nat} {c : Char} (other : c ≠ quote)
    (solid : Text.isSpace c = false) : role total before c = .letter := by
  rw [role, if_neg other, if_neg fun both => by simp [solid] at both]

theorem role_of_space {total before : Nat} {c : Char} (space : Text.isSpace c = true)
    (apart : ¬ Between total before) : role total before c = .gap := by
  rw [role, if_neg (quote_ne_of_isSpace space), if_pos ⟨space, apart⟩]

/-! ## Scanning -/

/-- Of the quotes of a text just the one without partner stands at the byte `literal`. -/
def Spares (literal : Option Nat) (total : Nat) : Nat → Nat → List Char → Prop
  | _, _, [] => True
  | offset, before, c :: rest =>
    (c = quote → (literal = some offset ↔ Alone total before)) ∧
      Spares literal total (offset + c.utf8Size) (quotesPast before c) rest

/-- What the scanner knows at a place: whether a phrase is open, in which case its term has begun
with a quote in it. -/
structure Stands (total before : Nat) (draft : Draft) (openAt : Option Nat) : Prop where
  between : openAt.isSome = true ↔ Between total before
  drafted : openAt.isSome = true → draft.begun = true ∧ draft.quoted = true

section Stands
variable {total before place : Nat} {draft : Draft}

theorem stands_none (apart : ¬ Between total before) (draft : Draft) :
    Stands total before draft none :=
  ⟨by simpa using apart, by simp⟩

theorem Stands.apart (stands : Stands total before draft none) : ¬ Between total before :=
  mt stands.between.2 (by simp)

end Stands

/-- The scanner goes on behind a character with the draft that takes it, and with `next` as the place
of an open quote; the term that the draft ends as there comes first. -/
def GoesOn (literal : Option Nat) (offset : Nat) (draft : Draft) (openAt : Option Nat) (m : Mark)
    (rest : List Char) (next : Option Nat) : Prop :=
  scanFrom literal offset draft openAt (m.1 :: rest) =
    (scanFrom literal (offset + m.1.utf8Size) (draft.take m) next rest).map fun terms =>
      draft.ends m ++ terms

theorem map_nil_append (read : Except Nat (List Term)) :
    (read.map fun terms => [] ++ terms) = read := by
  cases read <;> rfl

section Step
variable {literal openAt : Option Nat} {offset total before : Nat} {draft : Draft} {c : Char}
  (stands : Stands total before draft openAt)
include stands

theorem goesOn_quote (spared : literal = some offset ↔ Alone total before)
    (counted : before < total) (rest : List Char) :
    ∃ next, Stands total (before + 1) (draft.take (quote, role total before quote)) next ∧
      GoesOn literal offset draft openAt (quote, role total before quote) rest next := by
  by_cases alone : Alone total before
  · rw [role_of_alone alone]
    obtain ⟨even, last⟩ := alone
    cases openAt with
    | some place =>
        have odd := (stands.between.1 rfl).1
        omega
    | none =>
        have apart : ¬ Between total (before + 1) := fun both => by
          have := both.2
          omega
        refine ⟨none, stands_none apart _, ?_⟩
        rw [GoesOn, scanFrom_letter (fun _ => spared.2 ⟨even, last⟩) (by decide)]
        exact (map_nil_append _).symm
  · rw [role_of_paired alone]
    have counts : literal ≠ some offset := fun same => alone (spared.1 same)
    cases openAt with
    | some place =>
        obtain ⟨begun, quoted⟩ := stands.drafted rfl
        have odd := (stands.between.1 rfl).1
        have apart : ¬ Between total (before + 1) := fun both => by
          have := both.1
          omega
        have kept : draft.take (quote, .delimiter) = draft := openQuote_eq_self begun quoted
        refine ⟨none, stands_none apart _, ?_⟩
        rw [GoesOn, scanFrom_close counts, kept]
        exact (map_nil_append _).symm
    | none =>
        have within : Between total (before + 1) := by
          have apart := stands.apart
          unfold Between at apart ⊢
          unfold Alone at alone
          omega
        refine ⟨some offset, ⟨by simpa using within, fun _ => ⟨rfl, rfl⟩⟩, ?_⟩
        rw [GoesOn, scanFrom_open counts]
        exact (map_nil_append _).symm

theorem goesOn_other (other : c ≠ quote) (rest : List Char) :
    Stands total before (draft.take (c, role total before c)) openAt ∧
      GoesOn literal offset draft openAt (c, role total before c) rest openAt := by
  have isLetter : c = quote → literal = some offset := fun same => absurd same other
  cases openAt with
  | some place =>
      obtain ⟨begun, quoted⟩ := stands.drafted rfl
      rw [role_of_between other (stands.between.1 rfl)]
      refine ⟨⟨stands.between, fun _ => inside_eq_take begun c ▸ ⟨begun, quoted⟩⟩, ?_⟩
      rw [GoesOn, scanFrom_keep isLetter, inside_eq_take begun c]
      exact (map_nil_append _).symm
  | none =>
      refine ⟨stands_none stands.apart _, ?_⟩
      cases space : Text.isSpace c with
      | true =>
          rw [role_of_space space stands.apart, GoesOn, scanFrom_space space]
          rfl
      | false =>
          rw [role_of_solid other space, GoesOn, scanFrom_letter isLetter space]
          exact (map_nil_append _).symm

end Step

/-- Where just the quotes with a partner count as delimiters, the scanner reads the runs. -/
theorem scanFrom_eq {literal : Option Nat} {total : Nat} {cs : List Char} :
    ∀ {offset before : Nat} {draft : Draft} {openAt : Option Nat},
      Spares literal total offset before cs → before + cs.count quote = total →
      Stands total before draft openAt →
      scanFrom literal offset draft openAt cs =
        .ok (ofRuns draft (runs (marksFrom total before cs))) := by
  induction cs with
  | nil =>
      intro offset before draft openAt _ counted stands
      cases openAt with
      | none => simp [scanFrom, marksFrom, runs, ofRuns]
      | some place =>
          have below := (stands.between.1 rfl).2
          rw [List.count_nil] at counted
          omega
  | cons c rest ih =>
      intro offset before draft openAt spared counted stands
      obtain ⟨here, later⟩ := spared
      rw [marksFrom, ofRuns_cons]
      by_cases isQuote : c = quote
      · subst isQuote
        rw [List.count_cons_self] at counted
        have past : quotesPast before quote = before + 1 := if_pos rfl
        rw [past] at later ⊢
        obtain ⟨next, standsNext, goesOn⟩ := goesOn_quote stands (here rfl) (by omega) rest
        exact goesOn.trans (by rw [ih later (by omega) standsNext]; rfl)
      · rw [List.count_cons_of_ne isQuote] at counted
        have past : quotesPast before c = before := if_neg isQuote
        rw [past] at later ⊢
        obtain ⟨standsNext, goesOn⟩ := goesOn_other stands isQuote rest
        exact goesOn.trans (by rw [ih later counted standsNext]; rfl)

theorem exists_last_quote {cs : List Char} (member : quote ∈ cs) :
    ∃ front back, cs = front ++ quote :: back ∧ quote ∉ back := by
  obtain ⟨back, front, split, clear⟩ := List.eq_append_cons_of_mem (List.mem_reverse.2 member)
  refine ⟨front.reverse, back.reverse, ?_, by simpa using clear⟩
  have whole := congrArg List.reverse split
  simpa using whole

theorem exists_last_of_odd {cs : List Char} (odd : cs.count quote % 2 = 1) :
    ∃ front back, cs = front ++ quote :: back ∧ quote ∉ back :=
  exists_last_quote (List.count_pos_iff.1 (by omega))

theorem scanFrom_clear {cs : List Char} (clear : quote ∉ cs) (literal : Option Nat)
    (offset place : Nat) (draft : Draft) :
    scanFrom literal offset draft (some place) cs = .error place := by
  have kept := scanFrom_inside clear literal place [] offset draft
  rw [List.append_nil] at kept
  exact kept

theorem scanFrom_unclosed {back : List Char} (clear : quote ∉ back) (front : List Char) :
    ∀ (offset : Nat) (draft : Draft) (openAt : Option Nat),
      (openAt.isSome = true ↔ front.count quote % 2 = 1) →
      scanFrom none offset draft openAt (front ++ quote :: back) = .error (offset + bytes front) := by
  induction front with
  | nil =>
      intro offset draft openAt parity
      cases openAt with
      | some place => simp at parity
      | none =>
          rw [List.nil_append, scanFrom_open (by simp)]
          exact scanFrom_clear clear none _ offset draft.openQuote
  | cons c front ih =>
      intro offset draft openAt parity
      have size : offset + c.utf8Size + bytes front = offset + bytes (c :: front) := Nat.add_assoc ..
      rw [List.cons_append, ← size]
      by_cases isQuote : c = quote
      · subst isQuote
        rw [List.count_cons_self] at parity
        cases openAt with
        | some place =>
            rw [scanFrom_close (by simp)]
            refine ih _ _ none ?_
            have odd := parity.1 rfl
            simp only [Option.isSome_none, Bool.false_eq_true, false_iff]
            omega
        | none =>
            rw [scanFrom_open (by simp)]
            refine ih _ _ (some offset) ?_
            have even := mt parity.2 (by simp)
            simp only [Option.isSome_some, true_iff]
            omega
      · rw [List.count_cons_of_ne isQuote] at parity
        have isLetter : c = quote → none = some offset := fun same => absurd same isQuote
        cases openAt with
        | some place =>
            rw [scanFrom_keep isLetter]
            exact ih _ _ (some place) parity
        | none =>
            cases space : Text.isSpace c with
            | true =>
                rw [scanFrom_space space, ih _ _ none parity]
                rfl
            | false =>
                rw [scanFrom_letter isLetter space]
                exact ih _ _ none parity

theorem spares_none {total : Nat} (even : total % 2 = 0) (cs : List Char) :
    ∀ offset before, Spares none total offset before cs := by
  induction cs with
  | nil => exact fun offset before => trivial
  | cons c rest ih =>
      intro offset before
      refine ⟨fun _ => ?_, ih _ _⟩
      simp only [reduceCtorEq, false_iff, Alone]
      omega

theorem spares_of_clear {cs : List Char} (clear : quote ∉ cs) (literal : Option Nat) (total : Nat) :
    ∀ offset before, Spares literal total offset before cs := by
  induction cs with
  | nil => exact fun offset before => trivial
  | cons c rest ih =>
      intro offset before
      obtain ⟨other, later⟩ := List.ne_and_not_mem_of_not_mem_cons clear
      exact ⟨fun same => absurd same.symm other, ih later _ _⟩

theorem spares_last {back : List Char} (clear : quote ∉ back) {total : Nat} (odd : total % 2 = 1)
    (front : List Char) : ∀ offset before, before + front.count quote + 1 = total →
      Spares (some (offset + bytes front)) total offset before (front ++ quote :: back) := by
  induction front with
  | nil =>
      intro offset before counted
      refine ⟨fun _ => ?_, spares_of_clear clear _ _ _ _⟩
      rw [List.count_nil] at counted
      simp only [bytes, Nat.add_zero, Alone, true_iff]
      omega
  | cons c front ih =>
      intro offset before counted
      have size : offset + c.utf8Size + bytes front = offset + bytes (c :: front) := Nat.add_assoc ..
      have filled := Char.utf8Size_pos c
      rw [← size]
      refine ⟨fun isQuote => ?_, ih _ _ ?_⟩
      · subst isQuote
        rw [List.count_cons_self] at counted
        simp only [Option.some.injEq, Alone]
        omega
      · unfold quotesPast
        by_cases isQuote : c = quote
        · subst isQuote
          rw [List.count_cons_self] at counted
          rw [if_pos rfl]
          omega
        · rw [List.count_cons_of_ne isQuote] at counted
          rw [if_neg isQuote]
          exact counted

/-! ## Whole texts -/

theorem not_between_zero (total : Nat) : ¬ Between total 0 := fun both => by
  have := both.1
  omega

theorem scanWith_eq {cs : List Char} {literal : Option Nat}
    (spared : Spares literal (cs.count quote) 0 0 cs) :
    scanWith cs literal = .ok ((runs (marks cs)).filterMap ofRun) := by
  rw [scanWith, scanFrom_eq spared (Nat.zero_add _) (stands_none (not_between_zero _) {}),
    ofRuns_empty, marks]

theorem scanWith_of_even {cs : List Char} (even : cs.count quote % 2 = 0) :
    scanWith cs none = .ok ((runs (marks cs)).filterMap ofRun) :=
  scanWith_eq (spares_none even cs 0 0)

/-- A text with an odd number of quotes is not read at the first attempt, which finds the last
quote, and is read at the second. -/
theorem scanWith_of_odd {front back : List Char} (clear : quote ∉ back)
    (odd : (front ++ quote :: back).count quote % 2 = 1) :
    scanWith (front ++ quote :: back) none = .error (bytes front) ∧
      scanWith (front ++ quote :: back) (some (bytes front)) =
        .ok ((runs (marks (front ++ quote :: back))).filterMap ofRun) := by
  have counted : front.count quote + 1 = (front ++ quote :: back).count quote := by
    rw [List.count_append, List.count_cons_self, List.count_eq_zero_of_not_mem clear]
  refine ⟨?_, scanWith_eq ?_⟩
  · have unclosed := scanFrom_unclosed clear front 0 {} none (by
      simp only [Option.isSome_none, Bool.false_eq_true, false_iff]
      omega)
    rwa [Nat.zero_add] at unclosed
  · have spared := spares_last clear odd front 0 0 (by omega)
    rwa [Nat.zero_add] at spared

theorem scan_eq (cs : List Char) : scan cs = (runs (marks cs)).filterMap ofRun := by
  rw [scan]
  rcases Nat.mod_two_eq_zero_or_one (cs.count quote) with even | odd
  · rw [scanWith_of_even even]
  · obtain ⟨front, back, rfl, clear⟩ := exists_last_of_odd odd
    obtain ⟨fails, reads⟩ := scanWith_of_odd clear odd
    rw [fails]
    simp only [reads]

end Term
end EntitySearch
