import EntitySearch.Json.Reader
import EntitySearch.Json.Writer
import Mathlib.Data.Char
import Mathlib.Data.Nat.Digits.Defs

/-!
# Written documents are read back

A text that was written without white space is read as the document it was written for.  This holds
for documents without binary floating point numbers whose integers have 64 bits, and which nest no
deeper than the reader allows; repeated members are kept, so that keys need not differ.

Each reader takes just what was written and leaves the text behind it, where a number must be told
from the text that goes on (`Delimited`).

Main statement: `parse_compact`.
-/
set_option autoImplicit false
namespace EntitySearch.Json

section Strings
variable (done rest : List Char)

theorem readString_quote :
    readString done ('"' :: rest) = some (String.ofList done.reverse, rest) := by
  rw [readString.eq_def]
  simp

theorem readString_plain {c : Char} (notQuote : c ≠ '"') (printable : ¬ c.toNat < 0x20)
    (notEscape : c ≠ '\\') : readString done (c :: rest) = readString (c :: done) rest := by
  rw [readString.eq_def]
  simp only [notQuote, printable, notEscape, ne_eq, not_false_eq_true, if_true, if_false]

theorem readString_short {e c : Char} (isShort : e ≠ 'u') (stands : shortEscape? e = some c) :
    readString done ('\\' :: e :: rest) = readString (c :: done) rest := by
  rw [readString.eq_def]
  simp [isShort, stands]

theorem readString_number {x₁ x₂ x₃ x₄ : Char} {n : Nat} (number : hexFour? x₁ x₂ x₃ x₄ = some n)
    (low : n < 0xD800) :
    readString done ('\\' :: 'u' :: x₁ :: x₂ :: x₃ :: x₄ :: rest) =
      readString (Char.ofNat n :: done) rest := by
  have notSecond : ¬ (0xDC00 ≤ n ∧ n ≤ 0xDFFF) := by omega
  rw [readString.eq_def]
  simp [number, notSecond, low]

end Strings

theorem hexFour?_hexDigit : ∀ n < 32,
    hexFour? '0' '0' (hexDigit (n / 16)) (hexDigit (n % 16)) = some n := by decide

/-- A character is written as a one-letter escape, by its number, or as it is. -/
theorem writeChar_cases (c : Char) :
    (∃ e, e ≠ 'u' ∧ shortEscape? e = some c ∧ writeChar c = ['\\', e]) ∨
      (c.toNat < 0x20 ∧ writeChar c =
        ['\\', 'u', '0', '0', hexDigit (c.toNat / 16), hexDigit (c.toNat % 16)]) ∨
      (c ≠ '"' ∧ c ≠ '\\' ∧ ¬ c.toNat < 0x20 ∧ writeChar c = [c]) := by
  have numbered : ∀ {n : Nat}, c.toNat = n → c = Char.ofNat n := by
    rintro n rfl
    exact (Char.ofNat_toNat c).symm
  unfold writeChar
  split_ifs with quote slash line return_ tab back feed control
  · exact .inl ⟨'"', by decide, by rw [quote]; decide, rfl⟩
  · exact .inl ⟨'\\', by decide, by rw [slash]; decide, rfl⟩
  · exact .inl ⟨'n', by decide, by rw [line]; decide, rfl⟩
  · exact .inl ⟨'r', by decide, by rw [return_]; decide, rfl⟩
  · exact .inl ⟨'t', by decide, by rw [tab]; decide, rfl⟩
  · exact .inl ⟨'b', by decide, by rw [numbered back]; decide, rfl⟩
  · exact .inl ⟨'f', by decide, by rw [numbered feed]; decide, rfl⟩
  · exact .inr (.inl ⟨control, rfl⟩)
  · exact .inr (.inr ⟨quote, slash, control, rfl⟩)

theorem readString_writeChar (c : Char) (done rest : List Char) :
    readString done (writeChar c ++ rest) = readString (c :: done) rest := by
  rcases writeChar_cases c with ⟨e, isShort, stands, written⟩ | ⟨control, written⟩ |
    ⟨notQuote, notEscape, printable, written⟩
  · rw [written]
    exact readString_short done rest isShort stands
  · rw [written]
    have low : c.toNat < 0xD800 := by omega
    refine (readString_number done rest (hexFour?_hexDigit c.toNat control) low).trans ?_
    rw [Char.ofNat_toNat]
  · rw [written]
    exact readString_plain done rest notQuote printable notEscape

theorem readString_flatMap (cs done rest : List Char) :
    readString done (cs.flatMap writeChar ++ '"' :: rest) =
      some (String.ofList (done.reverse ++ cs), rest) := by
  induction cs generalizing done with
  | nil => rw [List.flatMap_nil, List.nil_append, readString_quote, List.append_nil]
  | cons c cs ih =>
      rw [List.flatMap_cons, List.append_assoc, readString_writeChar, ih]
      simp

/-! ## Numbers -/

/-- The text ends, or goes on with a character that no number has. -/
def Delimited (rest : List Char) : Prop :=
  ∀ c ∈ rest.head?, isDigit c = false ∧ c ≠ '.' ∧ c ≠ 'e' ∧ c ≠ 'E'

theorem isDigit_eq (c : Char) : isDigit c = c.isDigit := by
  simp [isDigit, Char.isDigit, Char.le_def]

theorem all_isDigit_toDigits (n : Nat) : ∀ c ∈ Nat.toDigits 10 n, isDigit c = true := by
  intro c member
  rw [isDigit_eq]
  exact Nat.isDigit_of_mem_toDigits (by decide) (by decide) member

theorem head?_toDigits {n : Nat} (positive : 0 < n) : (Nat.toDigits 10 n).head? ≠ some '0' := by
  induction n using Nat.strong_induction_on with
  | _ n ih =>
    rcases Nat.lt_or_ge n 10 with small | large
    · rw [Nat.toDigits_of_lt_base small]
      have each : ∀ d < 10, 0 < d → [Nat.digitChar d].head? ≠ some '0' := by decide
      exact each n small positive
    · have filled : Nat.toDigits 10 (n / 10) ≠ [] := Nat.toDigits_ne_nil
      obtain ⟨c, digits, front⟩ := List.exists_cons_of_ne_nil filled
      have first := ih (n / 10) (by omega) (by omega)
      rw [Nat.toDigits_of_base_le (by decide) large]
      rw [front] at first ⊢
      exact first

theorem le_ofDigitChars (digits : List Char) (start : Nat) :
    start ≤ Nat.ofDigitChars 10 digits start := by
  induction digits generalizing start with
  | nil => exact Nat.le_refl start
  | cons c digits ih =>
      rw [Nat.ofDigitChars_cons]
      exact Nat.le_trans (by omega) (ih _)

theorem takeDigits_append {digits : List Char} (areDigits : ∀ c ∈ digits, isDigit c = true)
    (start taken : Nat) (fits : Nat.ofDigitChars 10 digits start ≤ maxUnsigned) (rest : List Char) :
    takeDigits start taken (digits ++ rest) =
      takeDigits (Nat.ofDigitChars 10 digits start) (taken + digits.length) rest := by
  induction digits generalizing start taken with
  | nil => rfl
  | cons c digits ih =>
      obtain ⟨here, later⟩ := List.forall_mem_cons.1 areDigits
      have step : start * 10 + digitValue c = 10 * start + (c.toNat - '0'.toNat) := by
        rw [Nat.mul_comm, digitValue]
      rw [Nat.ofDigitChars_cons, ← step] at fits ⊢
      have within := (le_ofDigitChars digits (start * 10 + digitValue c)).trans fits
      rw [List.cons_append, takeDigits]
      simp only [here, within, decide_true, Bool.and_self, if_true]
      rw [ih later _ _ fits, List.length_cons, Nat.add_right_comm, Nat.add_assoc]

theorem exists_cons_toString (n : Int) :
    ∃ c rest, (toString n).toList = c :: rest ∧ (c = '-' ∨ isDigit c = true) := by
  rw [Int.toString_eq_repr, Int.repr_eq_if]
  split
  · obtain ⟨c, digits, front⟩ :=
      List.exists_cons_of_ne_nil (Nat.toDigits_ne_nil (n := n.toNat) (b := 10))
    rw [Nat.toList_repr, front]
    exact ⟨c, digits, rfl, .inr (all_isDigit_toDigits n.toNat c (by simp [front]))⟩
  · rw [String.toList_append]
    exact ⟨'-', _, rfl, .inl rfl⟩

section Numbers
variable {rest : List Char} (ends : Delimited rest)
include ends

theorem takeWhile_isDigit : rest.takeWhile isDigit = [] := by
  cases rest with
  | nil => rfl
  | cons c more =>
      obtain ⟨other, -⟩ := ends c rfl
      rw [List.takeWhile_cons_of_neg (by simp [other])]

theorem takeDigits_delimited (start taken : Nat) :
    takeDigits start taken rest = (start, taken, rest) := by
  cases rest with
  | nil => rfl
  | cons c more =>
      obtain ⟨other, -⟩ := ends c rfl
      rw [takeDigits, other]
      rfl

theorem readUnsignedNumber_toDigits (negative : Bool) {n : Nat} (fits : n ≤ maxUnsigned)
    (signed : negative = true → 0 < n ∧ n ≤ 9223372036854775808) :
    readUnsignedNumber negative (Nat.toDigits 10 n ++ rest) =
      some (.integer (if negative then -n else n), rest) := by
  have areDigits := all_isDigit_toDigits n
  have value : Nat.ofDigitChars 10 (Nat.toDigits 10 n) 0 = n :=
    Nat.ofDigitChars_toDigits (by decide) (by decide)
  have taken : takeDigits 0 0 (Nat.toDigits 10 n ++ rest) =
      (n, 0 + (Nat.toDigits 10 n).length, rest) := by
    rw [takeDigits_append areDigits 0 0 (by rwa [value]), value, takeDigits_delimited ends]
  have noMore := takeWhile_isDigit ends
  have scanned : (Nat.toDigits 10 n ++ rest).takeWhile isDigit = Nat.toDigits 10 n := by
    rw [List.takeWhile_append_of_pos areDigits, noMore, List.append_nil]
  have kept : rest.dropWhile isDigit = rest := by
    have whole := List.takeWhile_append_dropWhile (p := isDigit) (l := rest)
    rwa [noMore] at whole
  have proper : ((Nat.toDigits 10 n).isEmpty || ((Nat.toDigits 10 n).head? == some '0' &&
      decide ((Nat.toDigits 10 n).length ≠ 1))) = false := by
    rcases Nat.eq_zero_or_pos n with rfl | positive
    · decide
    · simp [head?_toDigits positive, Nat.toDigits_ne_nil]
  rw [readUnsignedNumber, taken]
  simp only [scanned, noMore, kept, proper]
  have whole : rest = [] ∨
      ∃ c more, rest = c :: more ∧ (c != '.' && c != 'e' && c != 'E') = true := by
    cases rest with
    | nil => exact .inl rfl
    | cons c more =>
        obtain ⟨-, notDot, notE, notE'⟩ := ends c rfl
        exact .inr ⟨c, more, rfl, by simp [notDot, notE, notE']⟩
  cases negative with
  | false => rcases whole with rfl | ⟨c, more, rfl, plain⟩ <;> simp_all
  | true =>
      obtain ⟨positive, low⟩ := signed rfl
      have filled : n ≠ 0 := Nat.ne_of_gt positive
      rcases whole with rfl | ⟨c, more, rfl, plain⟩ <;> simp [*]

theorem readNumber_integer {n : Int} (low : -9223372036854775808 ≤ n)
    (high : n ≤ 18446744073709551615) :
    readNumber ((toString n).toList ++ rest) = some (.integer n, rest) := by
  rw [Int.toString_eq_repr, Int.repr_eq_if]
  rcases Int.lt_or_le n 0 with negative | nonneg
  · have fits : (-n).toNat ≤ maxUnsigned := by rw [maxUnsigned]; omega
    have read := readUnsignedNumber_toDigits ends true fits fun _ => by omega
    rw [if_neg (by omega), String.toList_append, Nat.toList_repr]
    have value : -((-n).toNat : Int) = n := by omega
    rw [if_pos rfl, value] at read
    exact read
  · have fits : n.toNat ≤ maxUnsigned := by rw [maxUnsigned]; omega
    have read := readUnsignedNumber_toDigits ends false fits (by simp)
    have filled : Nat.toDigits 10 n.toNat ≠ [] := Nat.toDigits_ne_nil
    obtain ⟨c, digits, front⟩ := List.exists_cons_of_ne_nil filled
    have isDigit : isDigit c = true := all_isDigit_toDigits n.toNat c (by simp [front])
    have notSign : c ≠ '-' := by
      rintro rfl
      cases isDigit
    rw [if_pos nonneg, Nat.toList_repr]
    have unsigned : readNumber (Nat.toDigits 10 n.toNat ++ rest) =
        readUnsignedNumber false (Nat.toDigits 10 n.toNat ++ rest) := by
      rw [front]
      unfold readNumber
      split
      · next more same => exact absurd (List.cons.inj same).1 notSign
      · rfl
    rw [unsigned, read, if_neg Bool.false_ne_true, Int.toNat_of_nonneg nonneg]
end Numbers
/-! ## Values -/

/-- A document without floating point numbers, with integers of 64 bits, that nests at most `depth`
deep. -/
inductive Plain : Nat → Json → Prop
  | null {depth : Nat} : Plain depth .null
  | bool {depth : Nat} (b : Bool) : Plain depth (.bool b)
  | integer {depth : Nat} {n : Int} (low : -9223372036854775808 ≤ n)
      (high : n ≤ 18446744073709551615) : Plain depth (.integer n)
  | string {depth : Nat} (s : String) : Plain depth (.string s)
  | array {depth : Nat} {items : List Json} (each : ∀ j ∈ items, Plain depth j) :
      Plain (depth + 1) (.array items)
  | object {depth : Nat} {members : List (String × Json)} (each : ∀ m ∈ members, Plain depth m.2) :
      Plain (depth + 1) (.object members)

theorem delimited_cons {c : Char} (mark : c = ',' ∨ c = ']' ∨ c = '\x7d') (rest : List Char) :
    Delimited (c :: rest) := by
  intro d isFirst
  cases isFirst
  rcases mark with rfl | rfl | rfl <;> decide

theorem isBlank_eq_false {c : Char} (starts : c = '-' ∨ isDigit c = true) : isBlank c = false := by
  rcases starts with rfl | digit
  · decide
  · simp only [isBlank, Bool.or_eq_false_iff, beq_eq_false_iff_ne, ne_eq]
    refine ⟨⟨⟨?_, ?_⟩, ?_⟩, ?_⟩ <;> rintro rfl <;> cases digit

/-- What is written for a value begins with a character that is neither a blank nor the end of an
array. -/
theorem exists_cons_writeCompact {depth : Nat} {j : Json} (plain : Plain depth j) :
    ∃ c rest, writeCompact j = c :: rest ∧ isBlank c = false ∧ c ≠ ']' := by
  cases plain with
  | null => exact ⟨_, _, rfl, by decide, by decide⟩
  | bool b => cases b <;> exact ⟨_, _, rfl, by decide, by decide⟩
  | string s => exact ⟨_, _, rfl, by decide, by decide⟩
  | array _ => exact ⟨_, _, rfl, by decide, by decide⟩
  | object _ => exact ⟨_, _, rfl, by decide, by decide⟩
  | @integer _ n _ _ =>
      obtain ⟨c, rest, written, starts⟩ := exists_cons_toString n
      refine ⟨c, rest, written, isBlank_eq_false starts, ?_⟩
      rintro rfl
      rcases starts with same | digit <;> contradiction

theorem exists_cons_writeItems {depth : Nat} {j : Json} (plain : Plain depth j) (more : List Json) :
    ∃ c rest, writeItems (j :: more) = c :: rest ∧ isBlank c = false ∧ c ≠ ']' := by
  obtain ⟨c, rest, written, solid, notEnd⟩ := exists_cons_writeCompact plain
  cases more with
  | nil => exact ⟨c, rest, by rw [writeItems, written], solid, notEnd⟩
  | cons k more =>
      refine ⟨c, rest ++ ',' :: writeItems (k :: more), ?_, solid, notEnd⟩
      rw [writeItems, written, List.cons_append]

theorem exists_cons_writeMembers (m : String × Json) (more : List (String × Json)) :
    ∃ rest, writeMembers (m :: more) = '"' :: rest := by
  cases more with
  | nil => exact ⟨_, rfl⟩
  | cons k more => exact ⟨_, rfl⟩

theorem skipBlanks_cons {c : Char} (solid : isBlank c = false) (rest : List Char) :
    skipBlanks (c :: rest) = c :: rest := by
  rw [skipBlanks, List.dropWhile_cons_of_neg (by simp [solid])]

theorem readItems_writeItems {readItem : Nat → List Char → Read Json} {items : List Json}
    (filled : items ≠ [])
    (reads : ∀ j ∈ items, ∀ place rest, Delimited rest →
      readItem place (writeCompact j ++ rest) = some (j, rest))
    (done : List Json) (place bound : Nat) (rest : List Char)
    (enough : (writeItems items ++ ']' :: rest).length ≤ bound) :
    readItems readItem done place bound (writeItems items ++ ']' :: rest) =
      some (done.reverse ++ items, rest) := by
  induction items generalizing done place bound with
  | nil => exact absurd rfl filled
  | cons j more ih =>
      obtain ⟨first, later⟩ := List.forall_mem_cons.1 reads
      obtain ⟨bound, rfl⟩ : ∃ b, bound = b + 1 :=
        Nat.exists_eq_succ_of_ne_zero (by simp at enough; omega)
      cases more with
      | nil =>
          rw [writeItems, readItems, first place _ (delimited_cons (.inr (.inl rfl)) rest)]
          simp [skipBlanks_cons (show isBlank ']' = false by decide)]
      | cons k more =>
          rw [writeItems, List.append_assoc, List.cons_append] at enough ⊢
          rw [readItems, first place _ (delimited_cons (.inl rfl) _)]
          simp only [skipBlanks_cons (show isBlank ',' = false by decide)]
          rw [ih (List.cons_ne_nil _ _) later (j :: done) (place + 1) bound
            (by simp at enough ⊢; omega)]
          simp

theorem readMembers_writeMembers {readMember? : String → Option (List Char → Read Json)}
    {readItem : List Char → Read Json} (looked : ∀ key, readMember? key = some readItem)
    {members : List (String × Json)} (filled : members ≠ [])
    (reads : ∀ m ∈ members, ∀ rest, Delimited rest →
      readItem (writeCompact m.2 ++ rest) = some (m.2, rest))
    (done : List (String × Json)) (bound : Nat) (rest : List Char)
    (enough : (writeMembers members ++ '\x7d' :: rest).length ≤ bound) :
    readMembers readMember? done bound (writeMembers members ++ '\x7d' :: rest) =
      some (done.reverse ++ members, rest) := by
  induction members generalizing done bound with
  | nil => exact absurd rfl filled
  | cons m more ih =>
      obtain ⟨key, j⟩ := m
      obtain ⟨first, later⟩ := List.forall_mem_cons.1 reads
      obtain ⟨bound, rfl⟩ : ∃ b, bound = b + 1 :=
        Nat.exists_eq_succ_of_ne_zero (by simp at enough; omega)
      have keyed : ∀ rest, readString [] (key.toList.flatMap writeChar ++ '"' :: rest) =
          some (key, rest) := fun rest => by simp [readString_flatMap]
      have quote : isBlank '"' = false := by decide
      have colon : isBlank ':' = false := by decide
      cases more with
      | nil =>
          have ends := delimited_cons (.inr (.inr rfl)) rest
          rw [writeMembers, readMembers, writeString]
          simp [skipBlanks_cons quote, skipBlanks_cons colon, keyed, looked, first _ ends,
            skipBlanks_cons (show isBlank '\x7d' = false by decide)]
      | cons k more =>
          have ends := delimited_cons (.inl rfl) (writeMembers (k :: more) ++ '\x7d' :: rest)
          rw [writeMembers, writeString] at enough ⊢
          rw [readMembers]
          simp [skipBlanks_cons quote, skipBlanks_cons colon, keyed, looked, first _ ends,
            skipBlanks_cons (show isBlank ',' = false by decide)]
          rw [ih (List.cons_ne_nil _ _) later _ bound (by simp at enough ⊢; omega)]
          simp

/-- A document is read back, and the text behind it is left. -/
theorem readValue_writeCompact {depth : Nat} {j : Json} (plain : Plain depth j) :
    ∀ rest, Delimited rest →
      readValue (depth + 1) .whole (writeCompact j ++ rest) = some (j, rest) := by
  induction plain with
  | null =>
      intro rest _
      simp [readValue, writeCompact, writeScalar, skipBlanks, isBlank, readWord]
  | bool b =>
      intro rest _
      cases b <;> simp [readValue, writeCompact, writeScalar, skipBlanks, isBlank, readWord]
  | string s =>
      intro rest _
      simp [readValue, writeCompact, writeScalar, writeString, skipBlanks, isBlank,
        readString_flatMap]
  | @integer _ n low high =>
      intro rest ends
      obtain ⟨c, digits, written, starts⟩ := exists_cons_toString n
      have read := readNumber_integer ends low high
      have notWord : c ≠ 'n' ∧ c ≠ 't' ∧ c ≠ 'f' ∧ c ≠ '"' := by
        refine ⟨?_, ?_, ?_, ?_⟩ <;> rintro rfl <;> rcases starts with same | digit <;> contradiction
      have numeric : (decide (c = '-') || isDigit c) = true := by
        rcases starts with rfl | digit
        · rfl
        · rw [digit, Bool.or_true]
      rw [written] at read
      rw [writeCompact, writeScalar, written, List.cons_append, readValue,
        skipBlanks_cons (isBlank_eq_false starts)]
      simp only [notWord.1, notWord.2.1, notWord.2.2.1, notWord.2.2.2, if_false, numeric, if_true]
      exact read
  | @array depth items each ih =>
      intro rest ends
      have opens : isBlank '[' = false := by decide
      have notDigit : isDigit '[' = false := by decide
      rw [writeCompact, List.cons_append, List.append_assoc, List.singleton_append, readValue,
        skipBlanks_cons opens]
      cases items with
      | nil => simp [writeItems, notDigit, skipBlanks_cons (show isBlank ']' = false by decide)]
      | cons j more =>
          have read := @readItems_writeItems (fun _ => readValue (depth + 1) .whole) (j :: more)
            (List.cons_ne_nil j more) (fun k member _ => ih k member) [] 0
            ((writeItems (j :: more) ++ ']' :: rest).length + 1) rest (Nat.le_succ _)
          obtain ⟨c, others, written, solid, notEnd⟩ :=
            exists_cons_writeItems (each j (List.mem_cons_self ..)) more
          rw [written, List.cons_append] at read ⊢
          simpa [notDigit, skipBlanks_cons solid, notEnd] using read
  | @object depth members each ih =>
      intro rest ends
      have opens : isBlank '\x7b' = false := by decide
      have notDigit : isDigit '\x7b' = false := by decide
      have quote : isBlank '"' = false := by decide
      rw [writeCompact, List.cons_append, List.append_assoc, List.singleton_append, readValue,
        skipBlanks_cons opens]
      cases members with
      | nil => simp [writeMembers, notDigit, skipBlanks_cons (show isBlank '\x7d' = false by decide)]
      | cons m more =>
          have read := @readMembers_writeMembers
            (fun key => (Shape.whole.member? key).map (readValue (depth + 1)))
            (readValue (depth + 1) .whole) (fun key => rfl) (m :: more) (List.cons_ne_nil m more)
            ih []
            ((writeMembers (m :: more) ++ '\x7d' :: rest).length + 1) rest (Nat.le_succ _)
          obtain ⟨others, written⟩ := exists_cons_writeMembers m more
          rw [written, List.cons_append] at read ⊢
          simpa [notDigit, skipBlanks_cons quote] using read

/-- A document that was written is read back. -/
theorem parse_compact {j : Json} (plain : Plain 127 j) : parse j.compact = some j := by
  have read := readValue_writeCompact plain [] (by simp [Delimited])
  rw [List.append_nil] at read
  simp [parse, parseAs, parseChars, compact, depthLimit, read, skipBlanks]

end EntitySearch.Json
