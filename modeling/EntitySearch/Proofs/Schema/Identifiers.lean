import EntitySearch.Proofs.Query.Trimming
import EntitySearch.Schema.Uuid
import Mathlib.Data.Nat.Digits.Lemmas

/-!
# Normal forms of identifiers

Whatever library reads and writes identifiers, no text spells two of them, and the written form
spells the one it is written for.  So it is a normal form: two texts have the same one just if they
are the same text or, trimmed, are read as the same identifier.  If the library reads nothing but
the forms that are relied on, then these two texts are spelled in such forms.

Main statements: `canonical_idempotent`, `canonical_eq_iff`, `readsSame_iff_spellSame`.
-/
set_option autoImplicit false
namespace EntitySearch
namespace Uuid

/-- The digits as numbers, the lowest first. -/
def figures (u : Uuid) : List Nat := u.digits.reverse.map Fin.val

theorem figure_lt (u : Uuid) : ∀ d ∈ u.figures, d < 16 := by
  intro d member
  obtain ⟨digit, -, rfl⟩ := List.mem_map.1 member
  exact digit.isLt

theorem length_figures (u : Uuid) : u.figures.length = 32 := by
  rw [figures, List.length_map, List.length_reverse, u.count]

theorem ofDigits_figures_lt (u : Uuid) : Nat.ofDigits 16 u.figures < 2 ^ 128 := by
  have below := Nat.ofDigits_lt_base_pow_length (by decide) u.figure_lt
  rw [length_figures] at below
  exact below

def value (u : Uuid) : Fin (2 ^ 128) := ⟨Nat.ofDigits 16 u.figures, u.ofDigits_figures_lt⟩

theorem eq_of_value_eq {u v : Uuid} (same : u.value = v.value) : u = v := by
  have figures := Nat.ofDigits_inj_of_len_eq (by decide)
    (u.length_figures.trans v.length_figures.symm) u.figure_lt v.figure_lt (Fin.mk.inj same)
  have digits := List.reverse_injective (List.map_injective_iff.2 Fin.val_injective figures)
  cases u
  cases v
  simpa using digits

theorem Spells.unique {cs : List Char} {u v : Uuid} (one : Spells cs u) (other : Spells cs v) :
    u = v :=
  Option.some.inj ((parse?_eq_some_iff.2 one).symm.trans (parse?_eq_some_iff.2 other))

theorem mem_group {sizes : List Nat} {cs : List Char} {c : Char} (member : c ∈ group sizes cs) :
    c ∈ cs ∨ c = '-' := by
  induction sizes generalizing cs with
  | nil => cases member
  | cons n sizes ih =>
      cases sizes with
      | nil => exact .inl (List.mem_of_mem_take member)
      | cons m more =>
          rcases List.mem_append.1 member with front | behind
          · exact .inl (List.mem_of_mem_take front)
          · rcases List.mem_cons.1 behind with dash | later
            · exact .inr dash
            · exact (ih later).imp_left List.mem_of_mem_drop

theorem exists_digit_of_mem_render {u : Uuid} {c : Char} (member : c ∈ u.render) :
    (∃ d, digitChar d = c) ∨ c = '-' :=
  (mem_group member).imp_left fun digit =>
    let ⟨d, _, same⟩ := List.mem_map.1 digit
    ⟨d, same⟩

theorem spells_render (u : Uuid) : Spells u.render u := by
  have low : ∀ d, (digitChar d).toLower = digitChar d := by decide
  have lower : ∀ c ∈ u.render, c.toLower = c := by
    intro c member
    rcases exists_digit_of_mem_render member with ⟨d, rfl⟩ | rfl
    · exact low d
    · rfl
  exact .grouped ((List.map_congr_left lower).trans (List.map_id' _))

theorem render_injective : Function.Injective render := by
  intro u v same
  exact (spells_render u).unique (same ▸ spells_render v)

theorem not_isSpace_of_mem_render {u : Uuid} {c : Char} (member : c ∈ u.render) :
    Text.isSpace c = false := by
  have solid : ∀ d, Text.isSpace (digitChar d) = false := by decide
  rcases exists_digit_of_mem_render member with ⟨d, rfl⟩ | rfl
  · exact solid d
  · rfl

def SpellSame (x y : String) : Prop :=
  ∃ u v, Spells (Text.trim x.toList) u ∧ Spells (Text.trim y.toList) v ∧ u.value = v.value

theorem SpellSame.symm {x y : String} (same : SpellSame x y) : SpellSame y x := by
  obtain ⟨u, v, spells, spells', equal⟩ := same
  exact ⟨v, u, spells', spells, equal.symm⟩

namespace Codec
variable {codec : Codec} {x y : String} {u : Uuid}

/-- Two texts, white space at their ends aside, are read as the same 128 bits. -/
def ReadsSame (codec : Codec) (x y : String) : Prop :=
  ∃ u v, codec.parse? (Text.trim x.toList) = some u ∧ codec.parse? (Text.trim y.toList) = some v ∧
    u.value = v.value

theorem readsSame_of_spellSame (codec : Codec) (same : SpellSame x y) : codec.ReadsSame x y := by
  obtain ⟨u, v, spells, spells', equal⟩ := same
  exact ⟨u, v, codec.reads spells, codec.reads spells', equal⟩

theorem readsSame_iff_spellSame
    (only : ∀ cs u, codec.parse? cs = some u → Spells cs u) :
    codec.ReadsSame x y ↔ SpellSame x y := by
  refine ⟨?_, codec.readsSame_of_spellSame⟩
  rintro ⟨u, v, read, read', equal⟩
  exact ⟨u, v, only _ _ read, only _ _ read', equal⟩

theorem canonical_of_read (read : codec.parse? (Text.trim x.toList) = some u) :
    codec.canonical x = String.ofList u.render := by
  rw [canonical, canonicalChars, read]
  exact congrArg String.ofList (codec.writes u)

theorem canonical_of_unread (unread : codec.parse? (Text.trim x.toList) = none) :
    codec.canonical x = x := by
  rw [canonical, canonicalChars, unread, String.ofList_toList]

theorem parse?_render (codec : Codec) (u : Uuid) :
    codec.parse? (Text.trim (String.ofList u.render).toList) = some u := by
  rw [String.toList_ofList, Text.trim_of_solid fun _ => not_isSpace_of_mem_render]
  exact codec.reads (spells_render u)

theorem canonical_idempotent (codec : Codec) (x : String) :
    codec.canonical (codec.canonical x) = codec.canonical x := by
  cases read : codec.parse? (Text.trim x.toList) with
  | none => rw [canonical_of_unread read, canonical_of_unread read]
  | some u => rw [canonical_of_read read, canonical_of_read (codec.parse?_render u)]

/-- A text whose normal form is read as an identifier is read as that identifier itself. -/
theorem parse?_of_canonical (written : codec.canonical x = String.ofList u.render) :
    codec.parse? (Text.trim x.toList) = some u := by
  cases read : codec.parse? (Text.trim x.toList) with
  | none =>
      rw [canonical_of_unread read] at written
      rw [← read, written]
      exact codec.parse?_render u
  | some v =>
      rw [canonical_of_read read] at written
      rw [render_injective (String.ofList_injective written)]

theorem canonical_eq_iff (codec : Codec) :
    codec.canonical x = codec.canonical y ↔ x = y ∨ codec.ReadsSame x y := by
  constructor
  · intro same
    cases read : codec.parse? (Text.trim x.toList) with
    | none =>
        rw [canonical_of_unread read] at same
        cases read' : codec.parse? (Text.trim y.toList) with
        | none => exact .inl (same.trans (canonical_of_unread read'))
        | some v =>
            rw [same, canonical_of_read read', codec.parse?_render v] at read
            cases read
    | some u =>
        rw [canonical_of_read read] at same
        exact .inr ⟨u, u, read, parse?_of_canonical same.symm, rfl⟩
  · rintro (rfl | ⟨u, v, read, read', equal⟩)
    · rfl
    · rw [canonical_of_read read, canonical_of_read read', eq_of_value_eq equal]

end Codec
end Uuid
end EntitySearch
