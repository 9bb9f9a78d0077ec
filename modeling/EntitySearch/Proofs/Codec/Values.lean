import EntitySearch.Proofs.Json.ReadBack
import EntitySearch.Proofs.Schema.Instants
import EntitySearch.Schema.Value

/-!
# Stored values are read back

An instant is stored as the text that spells it, so reading a stored value takes every text that
spells an instant for that instant, also one that was stored as a text.  All else of a value is read
back as it was.

Main statements: `ofStored?_toStored`, `reread_eq_self_iff`, `survives_storing_iff`.
-/
set_option autoImplicit false
namespace EntitySearch
namespace Value

inductive Contains : Value → String → Prop
  | text (s : String) : Contains (text s) s
  | list {items : List Value} {v : Value} {s : String} (member : v ∈ items)
      (within : Contains v s) : Contains (list items) s

theorem contains_text_iff {s other : String} : (text s).Contains other ↔ other = s := by
  constructor
  · rintro ⟨⟩
    rfl
  · rintro rfl
    exact .text other

theorem contains_list_iff {items : List Value} {s : String} :
    (list items).Contains s ↔ ∃ v ∈ items, v.Contains s := by
  constructor
  · rintro ⟨⟩
    next v member within => exact ⟨v, member, within⟩
  · rintro ⟨v, member, within⟩
    exact .list member within

mutual

/-- The value with the instants that its texts spell in place of the texts. -/
def reread : Value → Value
  | null => null
  | boolean b => boolean b
  | integer n => integer n
  | timestamp t => timestamp t
  | text s =>
    match Timestamp.parse s with
    | some t => timestamp t
    | none => text s
  | list items => list (rereadItems items)

def rereadItems : List Value → List Value
  | [] => []
  | v :: rest => reread v :: rereadItems rest

end

mutual

theorem reread_eq_self_iff : ∀ v : Value,
    v.reread = v ↔ ∀ s, v.Contains s → Timestamp.parse s = none
  | null => iff_of_true rfl nofun
  | boolean _ => iff_of_true rfl nofun
  | integer _ => iff_of_true rfl nofun
  | timestamp _ => iff_of_true rfl nofun
  | text s => by
      simp only [contains_text_iff, forall_eq]
      rw [reread]
      cases Timestamp.parse s <;> simp
  | list items => by
      have each : (∀ s, (list items).Contains s → Timestamp.parse s = none) ↔
          ∀ v ∈ items, ∀ s, v.Contains s → Timestamp.parse s = none := by
        simp only [contains_list_iff]
        exact ⟨fun all v member s within => all s ⟨v, member, within⟩,
          fun all s ⟨v, member, within⟩ => all v member s within⟩
      rw [each, reread, list.injEq]
      exact rereadItems_eq_self_iff items

theorem rereadItems_eq_self_iff : ∀ items : List Value,
    rereadItems items = items ↔
      ∀ v ∈ items, ∀ s, v.Contains s → Timestamp.parse s = none
  | [] => iff_of_true rfl nofun
  | v :: rest => by
      rw [rereadItems, List.cons.injEq, List.forall_mem_cons, reread_eq_self_iff v,
        rereadItems_eq_self_iff rest]

end

theorem int64?_toInt (n : Int64) : int64? n.toInt = some n := by
  have low := n.le_toInt
  have high := n.toInt_lt
  rw [int64?, if_pos (by omega), Int64.ofInt_toInt]

mutual

theorem ofStored?_toStored : ∀ v : Value, ofStored? v.toStored = some v.reread
  | null => rfl
  | boolean _ => rfl
  | integer n => by rw [toStored, ofStored?, int64?_toInt, Option.map_some, reread]
  | timestamp t => by
      rw [toStored, ofStored?, Timestamp.parse_renderExact, reread]
  | text s => by
      rw [toStored, ofStored?, reread]
      cases Timestamp.parse s <;> rfl
  | list items => by
      rw [toStored, ofStored?, ofStoredItems?_toStoredItems items, Option.map_some, reread]

theorem ofStoredItems?_toStoredItems : ∀ items : List Value,
    ofStoredItems? (toStoredItems items) = some (rereadItems items)
  | [] => rfl
  | v :: rest => by
      rw [toStoredItems, ofStoredItems?, ofStored?_toStored v, ofStoredItems?_toStoredItems rest]
      rfl

end

mutual

def depth : Value → Nat
  | null | boolean _ | integer _ | timestamp _ | text _ => 0
  | list items => depthItems items + 1

def depthItems : List Value → Nat
  | [] => 0
  | v :: rest => max (depth v) (depthItems rest)

end

mutual

theorem plain_toStored : ∀ (v : Value) {limit : Nat}, v.depth ≤ limit → Json.Plain limit v.toStored
  | null, _, _ => .null
  | boolean b, _, _ => .bool b
  | integer n, _, _ => by
      have low := n.le_toInt
      have high := n.toInt_lt
      exact .integer (by omega) (by omega)
  | timestamp _, _, _ => .string _
  | text s, _, _ => .string s
  | list items, 0, deep => absurd deep (Nat.not_succ_le_zero _)
  | list items, limit + 1, deep =>
      .array (plain_toStoredItems items (Nat.le_of_succ_le_succ deep))

theorem plain_toStoredItems : ∀ (items : List Value) {limit : Nat}, depthItems items ≤ limit →
    ∀ j ∈ toStoredItems items, Json.Plain limit j
  | [], _, _ => nofun
  | v :: rest, _, deep => by
      rw [depthItems, Nat.max_le] at deep
      exact List.forall_mem_cons.2 ⟨plain_toStored v deep.1, plain_toStoredItems rest deep.2⟩

end

/-- What is read of a stored value is the value with the instants that its texts spell in place of
the texts, so that a value survives just if none of its texts spells an instant.  A stored value can
be written as a text, if its lists nest no deeper than the reader of texts allows. -/
theorem survives_storing_iff (v : Value) :
    (ofStored? v.toStored = some v ↔ ∀ s, v.Contains s → Timestamp.parse s = none) ∧
      ofStored? v.toStored = some v.reread ∧
      (v.depth ≤ 127 → Json.parse v.toStored.compact = some v.toStored) := by
  refine ⟨?_, ofStored?_toStored v, fun shallow => Json.parse_compact (plain_toStored v shallow)⟩
  rw [ofStored?_toStored, Option.some.injEq]
  exact reread_eq_self_iff v

/-- A date without a time is no instant, so a list with one survives. -/
theorem date_survives_storing :
    let v : Value := .list [.text "2024-05-01", .list [.integer 7, .null]]
    v.depth ≤ 127 ∧ ofStored? v.toStored = some v ∧
      Json.parse v.toStored.compact = some v.toStored := by
  intro v
  have shallow : v.depth ≤ 127 := by decide
  have unread : Timestamp.parse "2024-05-01" = none := by decide +kernel
  obtain ⟨survives, -, written⟩ := survives_storing_iff v
  refine ⟨shallow, survives.2 fun s held => ?_, written shallow⟩
  have only : s = "2024-05-01" := by
    have noInteger : ¬ (integer 7).Contains s := nofun
    have nothing : ¬ null.Contains s := nofun
    simpa [v, contains_list_iff, contains_text_iff, noInteger, nothing] using held
  rw [only]
  exact unread

/-- A text that spells noon to the east of Greenwich comes back as an instant, with another text. -/
theorem noon_comes_back_as_instant :
    let v : Value := .text "2024-05-01T12:00:00+02:00"
    ofStored? v.toStored ≠ some v ∧
      ∃ t, ofStored? v.toStored = some (.timestamp t) ∧ t.render = "2024-05-01T10:00:00Z" := by
  intro v
  have spelled : (Timestamp.parse "2024-05-01T12:00:00+02:00").map Timestamp.render =
      some "2024-05-01T10:00:00Z" := by decide +kernel
  obtain ⟨t, read, rendered⟩ := Option.map_eq_some_iff.1 spelled
  have back : ofStored? v.toStored = some (.timestamp t) := by
    change (match Timestamp.parse "2024-05-01T12:00:00+02:00" with
      | some t => some (timestamp t)
      | none => some (text "2024-05-01T12:00:00+02:00")) = _
    rw [read]
  refine ⟨?_, t, back, rendered⟩
  rw [back]
  simp [v]

end Value
end EntitySearch
