import EntitySearch.Query.Scope
import EntitySearch.Query.Term
import Mathlib.Data.List.TakeWhile

/-!
# White space at the ends of a value

The terms of a value do not depend on the white space at its ends: a gap in front only moves the
places of quotes, and a gap behind only ends the last term.  A quote that is never closed swallows
the gap behind it, but such a quote is read again as a letter.

Main statements: `ofText_trimmedValue`, `trimmedValue_eq_empty_iff`.
-/
set_option autoImplicit false
namespace EntitySearch

namespace Text

/-- Nothing but white space. -/
abbrev Gap (cs : List Char) : Prop := ∀ c ∈ cs, isSpace c = true

theorem exists_gap_trimStart (cs : List Char) : ∃ gap, Gap gap ∧ cs = gap ++ trimStart cs :=
  ⟨cs.takeWhile isSpace, fun _ member => List.mem_takeWhile_imp member,
    List.takeWhile_append_dropWhile.symm⟩

theorem exists_gaps_trim (cs : List Char) :
    ∃ front back, Gap front ∧ Gap back ∧ cs = front ++ (trim cs ++ back) := by
  obtain ⟨front, frontGap, whole⟩ := exists_gap_trimStart cs
  obtain ⟨back, backGap, rest⟩ := exists_gap_trimStart (trimStart cs).reverse
  refine ⟨front, back.reverse, frontGap, ?_, ?_⟩
  · intro c member
    exact backGap c (List.mem_reverse.1 member)
  · have reversed := congrArg List.reverse rest
    rw [List.reverse_reverse, List.reverse_append] at reversed
    rw [trim, trimEnd, ← reversed]
    exact whole

theorem trimStart_of_solid {cs : List Char} (solid : ∀ c ∈ cs, isSpace c = false) :
    trimStart cs = cs := by
  cases cs with
  | nil => rfl
  | cons c rest => exact trimStart_cons_solid (solid c List.mem_cons_self)

theorem trim_of_solid {cs : List Char} (solid : ∀ c ∈ cs, isSpace c = false) : trim cs = cs := by
  have reversed : ∀ c ∈ cs.reverse, isSpace c = false := fun c member =>
    solid c (List.mem_reverse.1 member)
  rw [trim, trimStart_of_solid solid, trimEnd, trimStart_of_solid reversed, List.reverse_reverse]

theorem isBlank_iff {cs : List Char} : isBlank cs = true ↔ Gap cs := List.all_eq_true

theorem trim_eq_nil_iff {cs : List Char} : trim cs = [] ↔ isBlank cs = true := by
  obtain ⟨front, back, frontGap, backGap, whole⟩ := exists_gaps_trim cs
  constructor
  · intro empty
    rw [empty, List.nil_append] at whole
    rw [isBlank_iff, whole]
    intro c member
    exact (List.mem_append.1 member).elim (frontGap c) (backGap c)
  · intro blank
    rw [trim, trimStart_eq_nil_iff.2 blank]
    rfl

theorem words_gap_append {gap : List Char} (isGap : Gap gap) (cs : List Char) :
    words (gap ++ cs) = words cs := by
  induction gap with
  | nil => rfl
  | cons c rest ih =>
      obtain ⟨space, later⟩ := List.forall_mem_cons.1 isGap
      rw [List.cons_append, words_cons_space _ space, ih later]

theorem words_append_gap {gap : List Char} (isGap : Gap gap) (cs : List Char) :
    words (cs ++ gap) = words cs := by
  cases gap with
  | nil => rw [List.append_nil]
  | cons c rest =>
      obtain ⟨space, later⟩ := List.forall_mem_cons.1 isGap
      have none : words rest = [] := by
        rw [← List.append_nil rest, words_gap_append later]
        rfl
      rw [words_append_space cs rest space, none, List.append_nil]

theorem infix_gap_append_iff {c : Char} {gap : List Char} (solid : isSpace c = false)
    (isGap : Gap gap) (needle cs : List Char) : c :: needle <:+: gap ++ cs ↔ c :: needle <:+: cs := by
  induction gap with
  | nil => rfl
  | cons d rest ih =>
      obtain ⟨space, later⟩ := List.forall_mem_cons.1 isGap
      rw [List.cons_append, List.infix_cons_iff, ih later, or_iff_right]
      intro starts
      obtain ⟨same, -⟩ := List.cons_prefix_cons.1 starts
      rw [same, space] at solid
      cases solid

theorem infix_append_gap_iff {c : Char} {gap : List Char} (solid : isSpace c = false)
    (isGap : Gap gap) (needle cs : List Char) : needle ++ [c] <:+: cs ++ gap ↔ needle ++ [c] <:+: cs := by
  have reversedGap : Gap gap.reverse := fun d member => isGap d (List.mem_reverse.1 member)
  have front := infix_gap_append_iff solid reversedGap needle.reverse cs.reverse
  rwa [← List.reverse_concat, ← List.reverse_append, List.reverse_infix, List.reverse_infix] at front

end Text

open Text (Gap isSpace)

namespace Term

theorem not_isSpace_of_gap {c : Char} {gap : List Char} (isGap : Gap gap)
    (solid : isSpace c = false) : c ∉ gap := by
  intro member
  rw [isGap c member] at solid
  cases solid

theorem needsScan_between {front back cs : List Char} (frontGap : Gap front)
    (backGap : Gap back) : needsScan (front ++ (cs ++ back)) = needsScan cs := by
  have solid : isSpace quote = false ∧ isSpace dash = false ∧ isSpace 'O' = false ∧
      isSpace 'R' = false := by decide
  have keyword : Text.occursIn orKeyword (front ++ (cs ++ back)) = Text.occursIn orKeyword cs := by
    rw [Bool.eq_iff_iff, Text.occursIn_iff, Text.occursIn_iff]
    exact (Text.infix_gap_append_iff solid.2.2.1 frontGap ['R'] (cs ++ back)).trans
      (Text.infix_append_gap_iff solid.2.2.2 backGap ['O'] cs)
  unfold needsScan
  rw [keyword]
  simp [not_isSpace_of_gap frontGap solid.1, not_isSpace_of_gap backGap solid.1,
    not_isSpace_of_gap frontGap solid.2.1, not_isSpace_of_gap backGap solid.2.1]

/-! ## Scanning -/

/-- Where a text begins does not matter but for the places of quotes. -/
theorem scanFrom_moved (d : Nat) (cs : List Char) : ∀ (literal openAt : Option Nat) (offset : Nat)
    (draft : Draft),
    scanFrom (literal.map (· + d)) (offset + d) draft (openAt.map (· + d)) cs =
      (scanFrom literal offset draft openAt cs).mapError (· + d) := by
  induction cs with
  | nil =>
      intro literal openAt offset draft
      cases openAt <;> rfl
  | cons c rest ih =>
      intro literal openAt offset draft
      have here : literal.map (· + d) ≠ some (offset + d) ↔ literal ≠ some offset := by
        cases literal <;> simp
      have next : offset + d + c.utf8Size = offset + c.utf8Size + d := by omega
      unfold scanFrom
      simp only [here, next, Option.isSome_map]
      split
      · cases openAt with
        | none => exact ih literal (some offset) _ _
        | some place => exact ih literal none _ _
      · split
        · exact ih literal openAt _ _
        · split
          · have later := ih literal none (offset + c.utf8Size) {}
            rw [Option.map_none] at later
            rw [later]
            cases scanFrom literal (offset + c.utf8Size) {} none rest <;> rfl
          · exact ih literal none _ _

theorem quote_ne_of_isSpace {c : Char} (space : isSpace c = true) : c ≠ quote := by
  rintro rfl
  cases space

def bytes : List Char → Nat
  | [] => 0
  | c :: rest => c.utf8Size + bytes rest

theorem scanFrom_gap_append {gap : List Char} (isGap : Gap gap) (literal : Option Nat)
    (offset : Nat) (cs : List Char) :
    scanFrom literal offset {} none (gap ++ cs) =
      scanFrom literal (offset + bytes gap) {} none cs := by
  induction gap generalizing offset with
  | nil => rfl
  | cons c rest ih =>
      obtain ⟨space, later⟩ := List.forall_mem_cons.1 isGap
      have size : offset + c.utf8Size + bytes rest = offset + bytes (c :: rest) :=
        Nat.add_assoc ..
      rw [List.cons_append, scanFrom]
      simp only [quote_ne_of_isSpace space, false_and, if_false, Option.isSome_none,
        Bool.false_eq_true, space, if_true, ih later, size]
      cases scanFrom literal (offset + bytes (c :: rest)) {} none cs <;> rfl

theorem scanFrom_gap {gap : List Char} (isGap : Gap gap) (literal : Option Nat) (offset : Nat)
    (draft : Draft) (openAt : Option Nat) :
    scanFrom literal offset draft openAt gap = scanFrom literal offset draft openAt [] := by
  induction gap generalizing offset draft with
  | nil => rfl
  | cons c rest ih =>
      obtain ⟨space, later⟩ := List.forall_mem_cons.1 isGap
      conv => lhs; unfold scanFrom
      simp only [quote_ne_of_isSpace space, false_and, if_false, space, if_true]
      cases openAt with
      -- Between quotes the gap only makes the draft longer, which is lost with the failure.
      | some place => exact ih later _ _
      | none =>
          have ended : scanFrom literal (offset + c.utf8Size) {} none rest = .ok [] := ih later _ _
          rw [ended, Option.isSome_none, if_neg Bool.false_ne_true]
          exact congrArg Except.ok (List.append_nil _)

theorem scanFrom_append_gap {gap : List Char} (isGap : Gap gap) (literal : Option Nat)
    (cs : List Char) : ∀ (offset : Nat) (draft : Draft) (openAt : Option Nat),
    scanFrom literal offset draft openAt (cs ++ gap) = scanFrom literal offset draft openAt cs := by
  induction cs with
  | nil => exact fun offset draft openAt => scanFrom_gap isGap literal offset draft openAt
  | cons c rest ih =>
      intro offset draft openAt
      rw [List.cons_append]
      unfold scanFrom
      simp only [ih]

theorem scanWith_between {front back : List Char} (frontGap : Gap front) (backGap : Gap back)
    (cs : List Char) (literal : Option Nat) :
    scanWith (front ++ (cs ++ back)) (literal.map (· + bytes front)) =
      (scanWith cs literal).mapError (· + bytes front) := by
  unfold scanWith
  rw [scanFrom_gap_append frontGap, scanFrom_append_gap backGap]
  exact scanFrom_moved (bytes front) cs literal none 0 {}

theorem scan_between {front back : List Char} (frontGap : Gap front) (backGap : Gap back)
    (cs : List Char) : scan (front ++ (cs ++ back)) = scan cs := by
  have without := scanWith_between frontGap backGap cs none
  rw [Option.map_none] at without
  unfold scan
  rw [without]
  cases first : scanWith cs none with
  | ok terms => rfl
  | error place =>
      -- The quote that counts as a letter now is the same one, behind the gap.
      have again := scanWith_between frontGap backGap cs (some place)
      rw [Option.map_some] at again
      simp only [Except.mapError, again]
      cases scanWith cs (some place) <;> rfl

theorem ofChars_between {front back : List Char} (frontGap : Gap front) (backGap : Gap back)
    (cs : List Char) : ofChars (front ++ (cs ++ back)) = ofChars cs := by
  unfold ofChars ofWords
  rw [needsScan_between frontGap backGap, scan_between frontGap backGap,
    Text.words_gap_append frontGap, Text.words_append_gap backGap]

/-- Trimming a value leaves its terms as they are. -/
theorem ofText_trimmedValue (value : String) : ofText (trimmedValue value) = ofText value := by
  obtain ⟨front, back, frontGap, backGap, whole⟩ := Text.exists_gaps_trim value.toList
  unfold ofText trimmedValue
  rw [String.toList_ofList, whole, ofChars_between frontGap backGap, ← whole]

end Term

theorem blankValue_trimmedValue (value : String) :
    blankValue (trimmedValue value) = blankValue value := by
  obtain ⟨front, back, frontGap, backGap, whole⟩ := Text.exists_gaps_trim value.toList
  have blank : Text.isBlank value.toList = Text.isBlank (Text.trim value.toList) := by
    rw [Bool.eq_iff_iff, Text.isBlank_iff, Text.isBlank_iff]
    conv => lhs; rw [whole]
    simp only [Gap, List.forall_mem_append]
    exact ⟨fun all => all.2.1, fun middle => ⟨frontGap, middle, backGap⟩⟩
  unfold blankValue trimmedValue
  rw [String.toList_ofList, blank]

theorem trimmedValue_eq_empty_iff {value : String} :
    trimmedValue value = "" ↔ blankValue value = true := by
  unfold blankValue trimmedValue
  rw [← Text.trim_eq_nil_iff, String.ofList_eq_empty_iff]

end EntitySearch
