import EntitySearch.Proofs.Query.Composing
import EntitySearch.Text.Lowercase

/-!
# Parts of texts in lower case

Text and term are put into lower case before a term is looked for, each by itself.  Character by
character that would keep every part of a text a part of it, but a capital sigma looks around: where
it ends a word it becomes the final sigma.  In a part it may see less than in the whole text, so the
part can be lost.

`lowercaseWithin` is the lower case form of a part between what surrounds it.  A sigma `Wavers` if
its form hangs on what surrounds the part.  A text without such a sigma is found wherever it stands,
and any other is missed somewhere: one letter before it or after it turns a sigma, and then the
whole text has fewer sigmas of one of the two forms than the part.

Main statements: `lowercase_infix_iff`, `contains_part_iff`.
-/
set_option autoImplicit false
namespace EntitySearch
namespace Text

/-- Does a sigma between two parts of a text end a word?  The part before it is given nearest
first. -/
def endsWord (before after : List Char) : Bool := casedNext before && !casedNext after

theorem lowerAt_sigma (before after : List Char) :
    lowerAt before 'Σ' after = [if endsWord before after then 'ς' else 'σ'] := rfl

theorem lowerAt_of_ne {c : Char} (other : c ≠ 'Σ') (before after before' after' : List Char) :
    lowerAt before c after = lowerAt before' c after' := by
  simp [lowerAt, other]

/-- The lower case form of a part of a text, between what stands before it, nearest first, and what
stands after it. -/
def lowercaseWithin (before : List Char) : List Char → List Char → List Char
  | [], _ => []
  | c :: rest, after => lowerAt before c (rest ++ after) ++ lowercaseWithin (c :: before) rest after

theorem lowercaseWithin_append (before first rest after : List Char) :
    lowercaseWithin before (first ++ rest) after =
      lowercaseWithin before first (rest ++ after) ++
        lowercaseWithin (first.reverse ++ before) rest after := by
  induction first generalizing before with
  | nil => rfl
  | cons c first ih => simp [lowercaseWithin, ih]

theorem lowercaseFrom_eq (before cs : List Char) :
    lowercaseFrom before cs = lowercaseWithin before cs [] := by
  induction cs generalizing before with
  | nil => rfl
  | cons c rest ih => rw [lowercaseFrom, lowercaseWithin, ih, List.append_nil]

theorem lowercase_eq (cs : List Char) : lowercase cs = lowercaseWithin [] cs [] :=
  lowercaseFrom_eq [] cs

theorem lowercaseWithin_infix (before part after : List Char) :
    lowercaseWithin before.reverse part after <:+: lowercase (before ++ part ++ after) := by
  rw [lowercase_eq, List.append_assoc, lowercaseWithin_append, lowercaseWithin_append]
  simp only [List.append_nil]
  exact ⟨_, _, List.append_assoc ..⟩

section Surroundings
variable {before before' after after' cs : List Char}

/-- The form of a part hangs on its sigmas only. -/
theorem lowercaseWithin_congr
    (same : ∀ first rest, cs = first ++ 'Σ' :: rest →
      endsWord (first.reverse ++ before) (rest ++ after) =
        endsWord (first.reverse ++ before') (rest ++ after')) :
    lowercaseWithin before cs after = lowercaseWithin before' cs after' := by
  induction cs generalizing before before' with
  | nil => rfl
  | cons c rest ih =>
      have here : lowerAt before c (rest ++ after) = lowerAt before' c (rest ++ after') := by
        by_cases isSigma : c = 'Σ'
        · subst isSigma
          have turned : endsWord before (rest ++ after) = endsWord before' (rest ++ after') :=
            same [] rest rfl
          rw [lowerAt_sigma, lowerAt_sigma, turned]
        · exact lowerAt_of_ne isSigma ..
      rw [lowercaseWithin, lowercaseWithin, here]
      congr 1
      refine ih fun first later split => ?_
      simpa using same (c :: first) later (by rw [split]; rfl)

theorem count_lowercaseWithin_le {d : Char}
    (each : ∀ first rest, cs = first ++ 'Σ' :: rest →
      (lowerAt (first.reverse ++ before) 'Σ' (rest ++ after)).count d ≤
        (lowerAt (first.reverse ++ before') 'Σ' (rest ++ after')).count d) :
    (lowercaseWithin before cs after).count d ≤ (lowercaseWithin before' cs after').count d := by
  induction cs generalizing before before' with
  | nil => exact Nat.le_refl _
  | cons c rest ih =>
      have here : (lowerAt before c (rest ++ after)).count d ≤
          (lowerAt before' c (rest ++ after')).count d := by
        by_cases isSigma : c = 'Σ'
        · subst isSigma
          exact each [] rest rfl
        · exact Nat.le_of_eq (by rw [lowerAt_of_ne isSigma])
      have later : (lowercaseWithin (c :: before) rest after).count d ≤
          (lowercaseWithin (c :: before') rest after').count d := by
        refine ih fun first later split => ?_
        simpa using each (c :: first) later (by rw [split]; rfl)
      rw [lowercaseWithin, lowercaseWithin, List.count_append, List.count_append]
      omega

theorem count_lowercaseWithin_lt {d : Char} {first rest : List Char}
    (split : cs = first ++ 'Σ' :: rest)
    (each : ∀ first rest, cs = first ++ 'Σ' :: rest →
      (lowerAt (first.reverse ++ before) 'Σ' (rest ++ after)).count d ≤
        (lowerAt (first.reverse ++ before') 'Σ' (rest ++ after')).count d)
    (one : (lowerAt (first.reverse ++ before) 'Σ' (rest ++ after)).count d <
      (lowerAt (first.reverse ++ before') 'Σ' (rest ++ after')).count d) :
    (lowercaseWithin before cs after).count d < (lowercaseWithin before' cs after').count d := by
  subst split
  have ahead : (lowercaseWithin before first ('Σ' :: rest ++ after)).count d ≤
      (lowercaseWithin before' first ('Σ' :: rest ++ after')).count d := by
    refine count_lowercaseWithin_le fun x y split => ?_
    simpa [List.append_assoc] using each x (y ++ 'Σ' :: rest) (by rw [split]; simp)
  have behind : (lowercaseWithin ('Σ' :: (first.reverse ++ before)) rest after).count d ≤
      (lowercaseWithin ('Σ' :: (first.reverse ++ before')) rest after').count d := by
    refine count_lowercaseWithin_le fun x y split => ?_
    simpa [List.append_assoc] using each (first ++ 'Σ' :: x) y (by rw [split]; simp)
  rw [lowercaseWithin_append, lowercaseWithin_append, lowercaseWithin, lowercaseWithin]
  simp only [List.count_append]
  omega

end Surroundings

/-! ## Sigmas that waver -/

theorem casedNext_cons (c : Char) (rest : List Char) :
    casedNext (c :: rest) = if isCaseIgnorable c then casedNext rest else isCased c := by
  unfold casedNext
  rw [List.dropWhile_cons]
  cases isCaseIgnorable c <;> rfl

theorem casedNext_append (cs more : List Char) :
    casedNext (cs ++ more) = if cs.all isCaseIgnorable then casedNext more else casedNext cs := by
  induction cs with
  | nil => rfl
  | cons c rest ih =>
      rw [List.cons_append, casedNext_cons, casedNext_cons, ih, List.all_cons]
      cases isCaseIgnorable c <;> rfl

theorem casedNext_of_all {cs : List Char} (ignorable : cs.all isCaseIgnorable = true) :
    casedNext cs = false := by
  have told := casedNext_append cs []
  rw [if_pos ignorable, List.append_nil] at told
  exact told

theorem casedNext_append_of_cased {cs : List Char} (cased : casedNext cs = true)
    (more : List Char) : casedNext (cs ++ more) = true := by
  rw [casedNext_append, if_neg, cased]
  intro ignorable
  rw [casedNext_of_all ignorable] at cased
  cases cased

/-- The form of a sigma hangs on what surrounds the text: nothing cased comes next in the text, and
either the text does not tell what comes before, or something cased comes before and the text does
not tell what comes next. -/
def Wavers (before after : List Char) : Prop :=
  casedNext after = false ∧
    (before.all isCaseIgnorable = true ∨
      casedNext before = true ∧ after.all isCaseIgnorable = true)

instance (before after : List Char) : Decidable (Wavers before after) :=
  inferInstanceAs (Decidable (_ ∧ _))

def Steady (cs : List Char) : Prop :=
  ∀ first rest, cs = first ++ 'Σ' :: rest → ¬ Wavers first.reverse rest

theorem forall_cut_iff {cs : List Char} {c : Char} {p : List Char → List Char → Prop} :
    (∀ first rest, cs = first ++ c :: rest → p first rest) ↔
      ∀ i : Fin cs.length, cs[i] = c → p (cs.take i) (cs.drop (i + 1)) := by
  constructor
  · rintro each i rfl
    refine each _ _ ?_
    rw [Fin.getElem_fin, List.getElem_cons_drop, List.take_append_drop]
  · rintro each first rest rfl
    simpa using each ⟨first.length, by simp⟩ (by simp)

instance (cs : List Char) : Decidable (Steady cs) := decidable_of_iff _ forall_cut_iff.symm

theorem endsWord_of_not_wavers {before after : List Char} (settled : ¬ Wavers before after)
    (farther later : List Char) :
    endsWord (before ++ farther) (after ++ later) = endsWord before after := by
  unfold endsWord
  cases next : casedNext after with
  | true => rw [casedNext_append_of_cased next, Bool.not_true, Bool.and_false, Bool.and_false]
  | false =>
      have told : ¬ before.all isCaseIgnorable = true := fun ignorable =>
        settled ⟨next, .inl ignorable⟩
      rw [casedNext_append, if_neg told]
      cases cased : casedNext before with
      | false => rfl
      | true =>
          have toldNext : ¬ after.all isCaseIgnorable = true := fun ignorable =>
            settled ⟨next, .inr ⟨cased, ignorable⟩⟩
          rw [casedNext_append, if_neg toldNext, next]

/-- A text is found wherever it stands between surroundings that turn none of its sigmas. -/
theorem lowercase_infix_of_endsWord {before part after : List Char}
    (same : ∀ first rest, part = first ++ 'Σ' :: rest →
      endsWord (first.reverse ++ before.reverse) (rest ++ after) = endsWord first.reverse rest) :
    lowercase part <:+: lowercase (before ++ part ++ after) := by
  have unchanged : lowercaseWithin before.reverse part after = lowercase part := by
    rw [lowercase_eq]
    refine lowercaseWithin_congr fun first rest split => ?_
    rw [List.append_nil, List.append_nil]
    exact same first rest split
  exact unchanged ▸ lowercaseWithin_infix before part after

theorem count_final (before after : List Char) :
    (lowerAt before 'Σ' after).count 'ς' = if endsWord before after then 1 else 0 := by
  rw [lowerAt_sigma]
  cases endsWord before after <;> rfl

theorem count_inner (before after : List Char) :
    (lowerAt before 'Σ' after).count 'σ' = if endsWord before after then 0 else 1 := by
  rw [lowerAt_sigma]
  cases endsWord before after <;> rfl

theorem endsWord_behind {before after : List Char} (ends : endsWord before after = true)
    (farther : List Char) : endsWord (before ++ farther) after = true := by
  rw [endsWord, Bool.and_eq_true] at ends ⊢
  exact ⟨casedNext_append_of_cased ends.1 farther, ends.2⟩

theorem endsWord_of_ahead {before after later : List Char}
    (ends : endsWord before (after ++ later) = true) : endsWord before after = true := by
  rw [endsWord, Bool.and_eq_true, Bool.not_eq_true'] at ends ⊢
  refine ⟨ends.1, Bool.eq_false_iff.2 fun cased => ?_⟩
  rw [casedNext_append_of_cased cased later] at ends
  cases ends.2

theorem casedNext_capital (more : List Char) : casedNext ('Α' :: more) = true := by
  have cased : isCaseIgnorable 'Α' = false ∧ isCased 'Α' = true := by decide +kernel
  rw [casedNext_cons, cased.1]
  exact cased.2

theorem lowercaseWithin_capital (before after : List Char) :
    lowercaseWithin before ['Α'] after = ['α'] := by
  have mapped : lowerChar 'Α' = 'α' := by decide +kernel
  rw [lowercaseWithin, lowerAt_of_ne (by decide) before _ [] [], lowerAt, if_neg (by decide),
    if_neg (by decide), mapped]
  rfl

section Turned
variable {part first rest : List Char} (split : part = first ++ 'Σ' :: rest)
include split

/-- If the text does not tell what comes before a wavering sigma, the sigma ends a word behind a
letter. -/
theorem not_infix_behind (next : casedNext rest = false)
    (untold : first.reverse.all isCaseIgnorable = true) :
    ¬ lowercase part <:+: lowercase ('Α' :: part) := by
  intro found
  have fewer : (lowercaseWithin ['Α'] part []).count 'σ' < (lowercaseWithin [] part []).count 'σ' := by
    refine count_lowercaseWithin_lt split (fun x y _ => ?_) ?_
    · rw [count_inner, count_inner, List.append_nil, List.append_nil]
      cases alone : endsWord x.reverse y with
      | true => exact Nat.le_of_eq (by rw [endsWord_behind alone])
      | false => split <;> decide
    · have alone : endsWord first.reverse rest = false := by
        rw [endsWord, casedNext_of_all untold, Bool.false_and]
      have behind : endsWord (first.reverse ++ ['Α']) rest = true := by
        rw [endsWord, casedNext_append, if_pos untold, casedNext_capital, next]
        rfl
      rw [count_inner, count_inner, List.append_nil, List.append_nil, alone, behind]
      decide
  have whole : lowercase ('Α' :: part) = 'α' :: lowercaseWithin ['Α'] part [] := by
    rw [lowercase_eq, ← List.singleton_append, lowercaseWithin_append, lowercaseWithin_capital]
    rfl
  have count := found.sublist.count_le 'σ'
  rw [whole, lowercase_eq, List.count_cons_of_ne (by decide)] at count
  omega

/-- If something cased comes before a wavering sigma, the sigma ends no word before a letter. -/
theorem not_infix_ahead (cased : casedNext first.reverse = true)
    (untold : rest.all isCaseIgnorable = true) :
    ¬ lowercase part <:+: lowercase (part ++ ['Α']) := by
  intro found
  have fewer : (lowercaseWithin [] part ['Α']).count 'ς' < (lowercaseWithin [] part []).count 'ς' := by
    refine count_lowercaseWithin_lt split (fun x y _ => ?_) ?_
    · rw [count_final, count_final, List.append_nil, List.append_nil]
      cases ahead : endsWord x.reverse (y ++ ['Α']) with
      | true => exact Nat.le_of_eq (by rw [endsWord_of_ahead ahead])
      | false => exact Nat.zero_le _
    · have alone : endsWord first.reverse rest = true := by
        rw [endsWord, casedNext_of_all untold, cased]
        rfl
      have ahead : endsWord first.reverse (rest ++ ['Α']) = false := by
        rw [endsWord, casedNext_append, if_pos untold, casedNext_capital, Bool.not_true,
          Bool.and_false]
      rw [count_final, count_final, List.append_nil, List.append_nil, alone, ahead]
      decide
  have whole : lowercase (part ++ ['Α']) = lowercaseWithin [] part ['Α'] ++ ['α'] := by
    rw [lowercase_eq, lowercaseWithin_append, lowercaseWithin_capital]
    rfl
  have noFinal : ['α'].count 'ς' = 0 := by decide
  have count := found.sublist.count_le 'ς'
  rw [whole, lowercase_eq, List.count_append, noFinal] at count
  omega

end Turned

theorem lowercase_infix_iff (part : List Char) :
    (∀ text, part <:+: text → lowercase part <:+: lowercase text) ↔ Steady part := by
  constructor
  · rintro found first rest split ⟨next, untold | ⟨cased, untold⟩⟩
    · exact not_infix_behind split next untold (found _ (List.suffix_cons ..).isInfix)
    · exact not_infix_ahead split cased untold (found _ (List.prefix_append ..).isInfix)
  · rintro steady _ ⟨before, after, rfl⟩
    refine lowercase_infix_of_endsWord fun first rest split => ?_
    exact endsWord_of_not_wavers (steady first rest split) before.reverse after

end Text

/-! ## Looking for a term -/

namespace Predicate

theorem textContains_iff {text term : String} :
    textContains text term = true ↔ Text.lowercase term.toList <:+: Text.lowercase text.toList := by
  rw [textContains, Text.occursIn_iff, Text.lower, Text.lower, String.toList_ofList,
    String.toList_ofList]

theorem accepts_contains_iff {texts : Texts} {field term : String} :
    accepts texts (.contains field term) = true ↔
      ∃ text ∈ texts field, Text.lowercase term.toList <:+: Text.lowercase text.toList := by
  simp only [accepts, List.any_eq_true, textContains_iff]

/-- Documents are found by the parts of their texts, character for character, just if no sigma of
the part wavers.  A part with a wavering sigma is found all the same where it stands between
surroundings that do not turn it. -/
theorem contains_part_iff (field term : String) :
    ((∀ texts : Texts, ∀ text ∈ texts field, term.toList <:+: text.toList →
        accepts texts (.contains field term) = true) ↔ Text.Steady term.toList) ∧
      ∀ texts : Texts, ∀ text ∈ texts field, ∀ before after,
        text.toList = before ++ term.toList ++ after →
        (∀ first rest, term.toList = first ++ 'Σ' :: rest →
          Text.endsWord (first.reverse ++ before.reverse) (rest ++ after) =
            Text.endsWord first.reverse rest) →
        accepts texts (.contains field term) = true := by
  refine ⟨?_, ?_⟩
  · rw [← Text.lowercase_infix_iff]
    constructor
    · intro found text isPart
      have accepted := found (fun _ => [String.ofList text]) _ (List.mem_singleton.2 rfl)
        (String.toList_ofList.symm ▸ isPart)
      obtain ⟨_, only, holds⟩ := accepts_contains_iff.1 accepted
      rwa [List.mem_singleton.1 only, String.toList_ofList] at holds
    · intro found texts text member isPart
      exact accepts_contains_iff.2 ⟨text, member, found text.toList isPart⟩
  · intro texts text member before after whole same
    refine accepts_contains_iff.2 ⟨text, member, ?_⟩
    rw [whole]
    exact Text.lowercase_infix_of_endsWord same

/-- The sigma of `ΣΕΥ` stands before letters of the term, so the term is found inside a word.  The
last sigma of `ΔΥΣΣΕΥΣ` wavers, but the term is found at the end of a word. -/
theorem contains_part_odysseus :
    Text.Steady "ΣΕΥ".toList ∧
      accepts (fun _ => ["ΟΔΥΣΣΕΥΣ"]) (.contains "title" "ΣΕΥ") = true ∧
      ¬ Text.Steady "ΔΥΣΣΕΥΣ".toList ∧
      accepts (fun _ => ["ΟΔΥΣΣΕΥΣ"]) (.contains "title" "ΔΥΣΣΕΥΣ") = true := by
  have steady : Text.Steady "ΣΕΥ".toList := by decide +kernel
  have isPart : "ΣΕΥ".toList <:+: "ΟΔΥΣΣΕΥΣ".toList := by decide +kernel
  have only : "ΟΔΥΣΣΕΥΣ" ∈ ["ΟΔΥΣΣΕΥΣ"] := List.mem_singleton.2 rfl
  refine ⟨steady, ?_, by decide +kernel, ?_⟩
  · exact (contains_part_iff "title" "ΣΕΥ").1.2 steady (fun _ => ["ΟΔΥΣΣΕΥΣ"]) _ only isPart
  · refine (contains_part_iff "title" "ΔΥΣΣΕΥΣ").2 (fun _ => ["ΟΔΥΣΣΕΥΣ"]) _ only ['Ο'] []
      (by decide +kernel) ?_
    rw [Text.forall_cut_iff]
    decide +kernel

/-- At the end of the term the sigma ends a word, and in the text it does not. -/
theorem misses_part_of_odysseus :
    "ΟΔΥΣ".toList <:+: "ΟΔΥΣΣΕΥΣ".toList ∧
      accepts (fun _ => ["ΟΔΥΣΣΕΥΣ"]) (.contains "title" "ΟΔΥΣ") = false := by
  refine ⟨by decide, ?_⟩
  decide +kernel

end Predicate
end EntitySearch
