import EntitySearch.Text.Space

/-!
# Universally unique identifiers

An identifier is thirty-two hexadecimal digits, 128 bits.  Identifiers are read and written by a
library, `Uuid.Codec`.  It is relied on to read the digits alone, groups of 8, 4, 4, 4 and 12 digits
between dashes, such groups in braces, and such groups after the words `urn:uuid:`, with digits of
either case; and to write the groups in lower case.

`Uuid.parse?` reads these forms and no others (`parse?_eq_some_iff`).  The library that the program
runs with reads `URN:UUID:` for the words as well (`Uuid.Codec.lenient`).
-/
set_option autoImplicit false
namespace EntitySearch

structure Uuid where
  digits : List (Fin 16)
  count : digits.length = 32
deriving DecidableEq

namespace Uuid

def digitChar (d : Fin 16) : Char :=
  if d.val < 10 then Char.ofNat (48 + d.val) else Char.ofNat (87 + d.val)

def plain (u : Uuid) : List Char := u.digits.map digitChar

def groupSizes : List Nat := [8, 4, 4, 4, 12]

/-- The characters in groups of the given sizes, with dashes between them. -/
def group : List Nat → List Char → List Char
  | [], _ => []
  | [n], cs => cs.take n
  | n :: sizes, cs => cs.take n ++ '-' :: group sizes (cs.drop n)

def render (u : Uuid) : List Char := group groupSizes u.plain

def urnWords : List Char := "urn:uuid:".toList

/-- The forms in which an identifier may be written.  Only the case of its digits is free. -/
inductive Spells : List Char → Uuid → Prop
  | bare {cs : List Char} {u : Uuid} (digits : cs.map Char.toLower = u.plain) : Spells cs u
  | grouped {cs : List Char} {u : Uuid} (groups : cs.map Char.toLower = u.render) : Spells cs u
  | braced {cs : List Char} {u : Uuid} (groups : cs.map Char.toLower = u.render) :
      Spells ('\x7b' :: (cs ++ ['\x7d'])) u
  | named {cs : List Char} {u : Uuid} (groups : cs.map Char.toLower = u.render) :
      Spells (urnWords ++ cs) u

/-- A library that reads and writes identifiers, with all that is relied on.  It may read more. -/
structure Codec where
  parse? : List Char → Option Uuid
  write : Uuid → List Char
  reads : ∀ {cs : List Char} {u : Uuid}, Spells cs u → parse? cs = some u
  writes : ∀ u, write u = u.render

/-! ## A reader of these forms -/

def digit? (c : Char) : Option (Fin 16) :=
  let n := c.toNat
  if 48 ≤ n ∧ n ≤ 57 then some (Fin.ofNat 16 (n - 48))
  else if 97 ≤ n ∧ n ≤ 102 then some (Fin.ofNat 16 (n - 87))
  else if 65 ≤ n ∧ n ≤ 70 then some (Fin.ofNat 16 (n - 55))
  else none

def ofDigits? (cs : List Char) : Option Uuid :=
  match cs.mapM digit? with
  | none => none
  | some digits => if count : digits.length = 32 then some ⟨digits, count⟩ else none

def ungroup? : List Nat → List Char → Option (List Char)
  | [], cs => if cs.isEmpty then some [] else none
  | [n], cs => if cs.length = n then some cs else none
  | n :: sizes, cs =>
    match cs.drop n with
    | '-' :: rest => (ungroup? sizes rest).map (cs.take n ++ ·)
    | _ => none

def ofGroups? (cs : List Char) : Option Uuid := (ungroup? groupSizes cs).bind ofDigits?

/-- What stands in braces or after the words of a name. -/
def unwrap? (cs : List Char) : Option (List Char) :=
  match cs with
  | '\x7b' :: rest => if rest.getLast? = some '\x7d' then some rest.dropLast else none
  | _ => if cs.take urnWords.length = urnWords then some (cs.drop urnWords.length) else none

def parse? (cs : List Char) : Option Uuid :=
  (ofDigits? cs).or ((ofGroups? cs).or ((unwrap? cs).bind ofGroups?))

theorem of_low {P : Char → Prop} (each : ∀ n < 128, P (Char.ofNat n)) {c : Char}
    (low : c.toNat < 128) : P c := by
  have found := each c.toNat low
  rwa [Char.ofNat_toNat] at found

theorem toNat_lt_of_toLower {c : Char} (low : c.toLower.toNat < 128) : c.toNat < 128 := by
  unfold Char.toLower at low
  split at low
  · next upper => exact Nat.lt_of_le_of_lt upper.2 (by decide)
  · exact low

theorem digit?_eq_some_iff {c : Char} {d : Fin 16} :
    digit? c = some d ↔ c.toLower = digitChar d := by
  have same : c.toNat < 128 → ∀ d, digit? c = some d ↔ c.toLower = digitChar d :=
    of_low (P := fun c => ∀ d, digit? c = some d ↔ c.toLower = digitChar d) (by decide +kernel)
  constructor
  · intro read
    have low : c.toNat < 128 := by
      unfold digit? at read
      grind
    exact (same low d).1 read
  · intro lower
    have small : ∀ d, (digitChar d).toNat < 128 := by decide
    exact (same (toNat_lt_of_toLower (lower ▸ small d)) d).2 lower

theorem mapM_digit?_eq_some_iff {cs : List Char} {ds : List (Fin 16)} :
    cs.mapM digit? = some ds ↔ cs.map Char.toLower = ds.map digitChar := by
  induction cs generalizing ds with
  | nil => cases ds <;> simp
  | cons c rest ih =>
      rw [List.mapM_cons]
      constructor
      · intro read
        obtain ⟨d, first, read⟩ := Option.bind_eq_some_iff.1 read
        obtain ⟨more, later, same⟩ := Option.bind_eq_some_iff.1 read
        cases same
        rw [List.map_cons, List.map_cons, digit?_eq_some_iff.1 first, ih.1 later]
      · intro lower
        cases ds with
        | nil => cases lower
        | cons d more =>
            obtain ⟨first, later⟩ := List.cons.inj lower
            rw [digit?_eq_some_iff.2 first, ih.2 later]
            rfl

theorem length_plain (u : Uuid) : u.plain.length = 32 := by
  rw [plain, List.length_map, u.count]

theorem ofDigits?_eq_some_iff {cs : List Char} {u : Uuid} :
    ofDigits? cs = some u ↔ cs.map Char.toLower = u.plain := by
  unfold ofDigits? plain
  rw [← mapM_digit?_eq_some_iff]
  constructor
  · intro read
    split at read
    · cases read
    · next ds found =>
      split at read
      · cases read
        exact found
      · cases read
  · intro found
    rw [found]
    exact dif_pos u.count

theorem ungroup?_eq_some_iff {sizes : List Nat} {cs plain : List Char} :
    ungroup? sizes cs = some plain ↔
      plain.length = sizes.foldr (· + ·) 0 ∧ cs = group sizes plain := by
  induction sizes generalizing cs plain with
  | nil => cases cs <;> cases plain <;> simp [ungroup?, group]
  | cons n sizes ih =>
      cases sizes with
      | nil =>
          simp only [ungroup?, group, List.foldr_cons, List.foldr_nil, Nat.add_zero]
          constructor
          · intro found
            split at found
            · next long =>
              cases found
              exact ⟨long, (List.take_of_length_le (Nat.le_of_eq long)).symm⟩
            · cases found
          · rintro ⟨long, rfl⟩
            rw [List.take_of_length_le (Nat.le_of_eq long), if_pos long]
      | cons m more =>
          have total : (n :: m :: more).foldr (· + ·) 0 = n + (m :: more).foldr (· + ·) 0 :=
            List.foldr_cons
          simp only [ungroup?, group, total]
          constructor
          · intro found
            split at found
            · next rest behind =>
              obtain ⟨tail, inner, rfl⟩ := Option.map_eq_some_iff.1 found
              obtain ⟨long, rfl⟩ := ih.1 inner
              have front : (cs.take n).length = n := by
                have some := congrArg List.length behind
                rw [List.length_drop, List.length_cons] at some
                rw [List.length_take]
                omega
              refine ⟨by rw [List.length_append, front, long], ?_⟩
              rw [List.take_left' front, List.drop_left' front, ← behind, List.take_append_drop]
            · cases found
          · rintro ⟨long, rfl⟩
            have front : (plain.take n).length = n := by
              rw [List.length_take]
              omega
            have inner : ungroup? (m :: more) (group (m :: more) (plain.drop n)) =
                some (plain.drop n) := by
              refine ih.2 ⟨?_, rfl⟩
              rw [List.length_drop]
              omega
            rw [List.drop_left' front, List.take_left' front]
            simp only [inner, Option.map_some, List.take_append_drop]

theorem toLower_eq_dash_iff {c : Char} : c.toLower = '-' ↔ c = '-' := by
  have same : c.toNat < 128 → c.toLower = '-' → c = '-' :=
    of_low (P := fun c => c.toLower = '-' → c = '-') (by decide)
  constructor
  · intro lower
    exact same (toNat_lt_of_toLower (lower ▸ by decide)) lower
  · rintro rfl
    rfl

theorem ungroup?_map_toLower (sizes : List Nat) (cs : List Char) :
    ungroup? sizes (cs.map Char.toLower) = (ungroup? sizes cs).map (List.map Char.toLower) := by
  induction sizes generalizing cs with
  | nil => cases cs <;> rfl
  | cons n sizes ih =>
      cases sizes with
      | nil =>
          rw [ungroup?, ungroup?, List.length_map]
          split <;> rfl
      | cons m more =>
          simp only [ungroup?, ← List.map_drop, ← List.map_take]
          rcases cs.drop n with - | ⟨c, rest⟩
          · rfl
          · by_cases dash : c = '-'
            · subst dash
              have lower : Char.toLower '-' = '-' := rfl
              simp only [List.map_cons, lower, ih, Option.map_map, Function.comp_def,
                List.map_append]
            · have other : c.toLower ≠ '-' := fun lower => dash (toLower_eq_dash_iff.1 lower)
              simp [dash, other]

theorem ofGroups?_eq_some_iff {cs : List Char} {u : Uuid} :
    ofGroups? cs = some u ↔ cs.map Char.toLower = u.render := by
  rw [ofGroups?, Option.bind_eq_some_iff]
  simp only [ofDigits?_eq_some_iff]
  rw [← Option.map_eq_some_iff, ← ungroup?_map_toLower, ungroup?_eq_some_iff]
  exact and_iff_right u.length_plain

theorem length_render (u : Uuid) : u.render.length = 36 := by
  simp [render, group, groupSizes, length_plain]

theorem length_of_digits {cs : List Char} {u : Uuid} (digits : cs.map Char.toLower = u.plain) :
    cs.length = 32 := by
  rw [← u.length_plain, ← digits, List.length_map]

theorem length_of_groups {cs : List Char} {u : Uuid} (groups : cs.map Char.toLower = u.render) :
    cs.length = 36 := by
  rw [← u.length_render, ← groups, List.length_map]

theorem eq_of_unwrap? {cs inner : List Char} (found : unwrap? cs = some inner) :
    cs = '\x7b' :: (inner ++ ['\x7d']) ∨ cs = urnWords ++ inner := by
  unfold unwrap? at found
  split at found
  · split at found
    · next closed =>
      obtain ⟨inside, rfl⟩ := List.getLast?_eq_some_iff.1 closed
      rw [List.dropLast_concat] at found
      cases found
      exact .inl rfl
    · cases found
  · split at found
    · next urn =>
      cases found
      have whole := List.take_append_drop urnWords.length cs
      rw [urn] at whole
      exact .inr whole.symm
    · cases found

theorem unwrap?_named (cs : List Char) : unwrap? (urnWords ++ cs) = some cs := by
  unfold unwrap?
  split
  · next opened => cases (List.cons.inj opened).1
  · rw [List.take_left, List.drop_left, if_pos rfl]

theorem ofDigits?_eq_none {cs : List Char} (other : cs.length ≠ 32) : ofDigits? cs = none :=
  Option.eq_none_iff_forall_ne_some.2 fun _ read =>
    other (length_of_digits (ofDigits?_eq_some_iff.1 read))

theorem ofGroups?_eq_none {cs : List Char} (other : cs.length ≠ 36) : ofGroups? cs = none :=
  Option.eq_none_iff_forall_ne_some.2 fun _ read =>
    other (length_of_groups (ofGroups?_eq_some_iff.1 read))

theorem parse?_of_unwrap? {cs inner : List Char} {u : Uuid} (wrapped : unwrap? cs = some inner)
    (groups : inner.map Char.toLower = u.render) : parse? cs = some u := by
  have long : 36 < cs.length := by
    have inside := length_of_groups groups
    rcases eq_of_unwrap? wrapped with rfl | rfl
    · rw [List.length_cons, List.length_append, inside]
      decide
    · rw [List.length_append, inside]
      decide
  rw [parse?, ofDigits?_eq_none (by omega), Option.none_or, ofGroups?_eq_none (by omega),
    Option.none_or, wrapped]
  exact ofGroups?_eq_some_iff.2 groups

/-- A text is read as an identifier just if it spells it: the four forms have different lengths. -/
theorem parse?_eq_some_iff {cs : List Char} {u : Uuid} : parse? cs = some u ↔ Spells cs u := by
  constructor
  · intro read
    rcases Option.or_eq_some_iff.1 read with bare | ⟨-, read⟩
    · exact .bare (ofDigits?_eq_some_iff.1 bare)
    · rcases Option.or_eq_some_iff.1 read with groups | ⟨-, read⟩
      · exact .grouped (ofGroups?_eq_some_iff.1 groups)
      · obtain ⟨inner, found, groups⟩ := Option.bind_eq_some_iff.1 read
        rcases eq_of_unwrap? found with rfl | rfl
        · exact .braced (ofGroups?_eq_some_iff.1 groups)
        · exact .named (ofGroups?_eq_some_iff.1 groups)
  · intro spells
    cases spells with
    | bare digits => rw [parse?, ofDigits?_eq_some_iff.2 digits, Option.some_or]
    | grouped groups =>
        have long := length_of_groups groups
        rw [parse?, ofDigits?_eq_none (by omega), Option.none_or, ofGroups?_eq_some_iff.2 groups,
          Option.some_or]
    | @braced cs _ groups =>
        have unwrapped : unwrap? ('\x7b' :: (cs ++ ['\x7d'])) = some cs := by simp [unwrap?]
        exact parse?_of_unwrap? unwrapped groups
    | named groups => exact parse?_of_unwrap? (unwrap?_named _) groups

namespace Codec

/-- A library that reads these forms and no others. -/
def strict : Codec where
  parse? := Uuid.parse?
  write := render
  reads := parse?_eq_some_iff.2
  writes _ := rfl

def lowerWords (cs : List Char) : List Char :=
  if (cs.take urnWords.length).map Char.toLower = urnWords then
    urnWords ++ cs.drop urnWords.length
  else cs

/-- The library that the program runs with.  It takes the words of a name in any case, which nobody
relies on. -/
def lenient : Codec where
  parse? cs := (Uuid.parse? cs).or (Uuid.parse? (lowerWords cs))
  write := render
  reads spells := by rw [parse?_eq_some_iff.2 spells, Option.some_or]
  writes _ := rfl

def canonicalChars (codec : Codec) (cs : List Char) : List Char :=
  match codec.parse? (Text.trim cs) with
  | some u => codec.write u
  | none => cs

def canonical (codec : Codec) (s : String) : String := String.ofList (codec.canonicalChars s.toList)

example : lenient.canonical " \x7b67E55044-10B1-426F-9247-BB680E5FE0C8\x7d" =
    "67e55044-10b1-426f-9247-bb680e5fe0c8" := by decide +kernel
example : lenient.canonical " invoice" = " invoice" := by decide +kernel

end Codec
end Uuid
end EntitySearch
