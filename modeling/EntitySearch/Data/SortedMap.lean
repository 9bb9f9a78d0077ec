/-!
# Maps kept in key order

`SortedMap κ β` is a finite map whose entries stand in strictly ascending key order, so a map
has one representation: two maps that give the same value at every key are equal
(`SortedMap.ext_get?`).  Every table of the library whose order an answer can show is one of
these; walking `entries`, `keys` or `values` walks it by ascending key.

Main statements: `get?_insert`, `get?_erase`, `get?_eq_some_iff`, `ext_get?`.
-/
set_option autoImplicit false
namespace EntitySearch

universe u v w

/-- Entries in strictly ascending key order. -/
structure SortedMap (κ : Type u) (β : Type v) [Ord κ] where
  entries : List (κ × β)
  ascending : entries.Pairwise (fun a b => compare a.1 b.1 = .lt)

namespace SortedMap

variable {κ : Type u} {β : Type v} {γ : Type w}

/-- The value at a key in an ascending list: the search stops at the first larger key. -/
def find? [Ord κ] (k : κ) : List (κ × β) → Option β
  | [] => none
  | (k', v) :: rest =>
    match compare k k' with
    | .lt => none
    | .eq => some v
    | .gt => find? k rest

def put [Ord κ] (k : κ) (v : β) : List (κ × β) → List (κ × β)
  | [] => [(k, v)]
  | (k', v') :: rest =>
    match compare k k' with
    | .lt => (k, v) :: (k', v') :: rest
    | .eq => (k, v) :: rest
    | .gt => (k', v') :: put k v rest

def drop [Ord κ] (k : κ) : List (κ × β) → List (κ × β)
  | [] => []
  | (k', v') :: rest =>
    match compare k k' with
    | .lt => (k', v') :: rest
    | .eq => rest
    | .gt => (k', v') :: drop k rest

section EntryLists
variable [Ord κ] [Std.TransOrd κ]

omit [Std.TransOrd κ] in
theorem mem_put {k : κ} {v : β} {e : κ × β} {l : List (κ × β)} (member : e ∈ put k v l) :
    e = (k, v) ∨ e ∈ l := by
  induction l with
  | nil => simpa [put] using member
  | cons a rest ih =>
      obtain ⟨k', v'⟩ := a
      simp only [put] at member
      split at member
      · simpa using member
      · simp only [List.mem_cons] at member ⊢
        exact member.imp_right Or.inr
      · simp only [List.mem_cons] at member ⊢
        rcases member with rfl | inRest
        · exact Or.inr (Or.inl rfl)
        · exact (ih inRest).imp_right Or.inr

omit [Std.TransOrd κ] in
theorem mem_of_mem_drop {k : κ} {e : κ × β} {l : List (κ × β)} (member : e ∈ drop k l) : e ∈ l := by
  induction l with
  | nil => simp [drop] at member
  | cons a rest ih =>
      obtain ⟨k', v'⟩ := a
      simp only [drop] at member
      split at member
      · exact member
      · exact List.mem_cons_of_mem _ member
      · simp only [List.mem_cons] at member ⊢
        exact member.imp_right ih

theorem pairwise_put {k : κ} {v : β} {l : List (κ × β)}
    (ascending : l.Pairwise (fun a b => compare a.1 b.1 = .lt)) :
    (put k v l).Pairwise (fun a b => compare a.1 b.1 = .lt) := by
  induction l with
  | nil => simp [put]
  | cons a rest ih =>
      obtain ⟨k', v'⟩ := a
      obtain ⟨below, tail⟩ := List.pairwise_cons.1 ascending
      simp only [put]
      split
      · next less =>
          refine List.pairwise_cons.2 ⟨?_, ascending⟩
          intro e he
          rcases List.mem_cons.1 he with rfl | he
          · exact less
          · exact Std.TransCmp.lt_trans less (below e he)
      · next equal =>
          refine List.pairwise_cons.2 ⟨fun e he => ?_, tail⟩
          exact Std.TransCmp.lt_of_eq_of_lt equal (below e he)
      · next greater =>
          refine List.pairwise_cons.2 ⟨fun e he => ?_, ih tail⟩
          rcases mem_put he with rfl | he
          · exact Std.OrientedCmp.lt_of_gt greater
          · exact below e he

omit [Std.TransOrd κ] in
theorem pairwise_drop {k : κ} {l : List (κ × β)}
    (ascending : l.Pairwise (fun a b => compare a.1 b.1 = .lt)) :
    (drop k l).Pairwise (fun a b => compare a.1 b.1 = .lt) := by
  induction l with
  | nil => simp [drop]
  | cons a rest ih =>
      obtain ⟨k', v'⟩ := a
      obtain ⟨below, tail⟩ := List.pairwise_cons.1 ascending
      simp only [drop]
      split
      · exact ascending
      · exact tail
      · exact List.pairwise_cons.2 ⟨fun e he => below e (mem_of_mem_drop he), ih tail⟩

omit [Std.TransOrd κ] in
theorem find?_eq_none_of_below {k : κ} {l : List (κ × β)}
    (below : ∀ e ∈ l, compare k e.1 = .lt) : find? k l = none := by
  cases l with
  | nil => rfl
  | cons a rest => simp [find?, below a (List.mem_cons_self ..)]

theorem find?_put [Std.LawfulEqOrd κ] [DecidableEq κ] {k : κ} {v : β} (k₀ : κ) {l : List (κ × β)}
    (ascending : l.Pairwise (fun a b => compare a.1 b.1 = .lt)) :
    find? k₀ (put k v l) = if k₀ = k then some v else find? k₀ l := by
  induction l with
  | nil =>
      by_cases same : k₀ = k
      · subst same; simp [put, find?, Std.ReflCmp.compare_self]
      · have differ : compare k₀ k ≠ .eq := fun h => same (Std.LawfulEqCmp.eq_of_compare h)
        simp only [put, find?, if_neg same]
        split <;> simp_all
  | cons a rest ih =>
      obtain ⟨k', v'⟩ := a
      obtain ⟨below, tail⟩ := List.pairwise_cons.1 ascending
      simp only [put]
      split
      · next less =>
          by_cases same : k₀ = k
          · subst same; simp [find?, Std.ReflCmp.compare_self]
          · rw [if_neg same]
            have differ : compare k₀ k ≠ .eq := fun h => same (Std.LawfulEqCmp.eq_of_compare h)
            conv => lhs; unfold find?
            split
            · next smaller =>
                have : compare k₀ k' = .lt := Std.TransCmp.lt_trans smaller less
                simp [find?, this]
            · next h => exact absurd h differ
            · rfl
      · next equal =>
          have : k = k' := Std.LawfulEqCmp.eq_of_compare equal
          subst this
          by_cases same : k₀ = k
          · subst same; simp [find?, Std.ReflCmp.compare_self]
          · have differ : compare k₀ k ≠ .eq := fun h => same (Std.LawfulEqCmp.eq_of_compare h)
            simp only [find?, if_neg same]
            cases order : compare k₀ k <;> simp_all
      · next greater =>
          simp only [find?]
          by_cases same : k₀ = k
          · subst same
            simp [greater, ih tail]
          · rw [ih tail, if_neg same, if_neg same]

theorem find?_drop [Std.LawfulEqOrd κ] [DecidableEq κ] {k : κ} (k₀ : κ) {l : List (κ × β)}
    (ascending : l.Pairwise (fun a b => compare a.1 b.1 = .lt)) :
    find? k₀ (drop k l) = if k₀ = k then none else find? k₀ l := by
  induction l with
  | nil => simp [drop, find?]
  | cons a rest ih =>
      obtain ⟨k', v'⟩ := a
      obtain ⟨below, tail⟩ := List.pairwise_cons.1 ascending
      simp only [drop]
      split
      · next less =>
          by_cases same : k₀ = k
          · subst same; simp [find?, less]
          · rw [if_neg same]
      · next equal =>
          have : k = k' := Std.LawfulEqCmp.eq_of_compare equal
          subst this
          by_cases same : k₀ = k
          · subst same; simp [find?_eq_none_of_below below]
          · have differ : compare k₀ k ≠ .eq := fun h => same (Std.LawfulEqCmp.eq_of_compare h)
            simp only [find?, if_neg same]
            split
            · next smaller =>
                exact find?_eq_none_of_below fun e he =>
                  Std.TransCmp.lt_trans smaller (below e he)
            · next h => exact absurd h differ
            · rfl
      · next greater =>
          simp only [find?]
          by_cases same : k₀ = k
          · subst same; simp [greater, ih tail]
          · rw [ih tail, if_neg same, if_neg same]

theorem find?_eq_some_iff_mem [Std.LawfulEqOrd κ] {k : κ} {v : β} {l : List (κ × β)}
    (ascending : l.Pairwise (fun a b => compare a.1 b.1 = .lt)) :
    find? k l = some v ↔ (k, v) ∈ l := by
  induction l with
  | nil => simp [find?]
  | cons a rest ih =>
      obtain ⟨k', v'⟩ := a
      obtain ⟨below, tail⟩ := List.pairwise_cons.1 ascending
      have notLater : ∀ w : β, compare k k' ≠ .gt → (k, w) ∉ rest := by
        intro w order member
        exact order (Std.OrientedCmp.gt_of_lt (below _ member))
      simp only [find?, List.mem_cons, Prod.mk.injEq]
      split
      · next less =>
          have : k ≠ k' := by rintro rfl; simp [Std.ReflCmp.compare_self] at less
          simp [this, notLater v (by simp [less])]
      · next equal =>
          have same : k = k' := Std.LawfulEqCmp.eq_of_compare equal
          subst same
          simp [notLater v (by simp), eq_comm]
      · next greater =>
          have : k ≠ k' := by rintro rfl; simp [Std.ReflCmp.compare_self] at greater
          simp [this, ih tail]

end EntryLists

/-! ## Maps -/

section Maps
variable [Ord κ]

def empty : SortedMap κ β := ⟨[], List.Pairwise.nil⟩

instance : Inhabited (SortedMap κ β) := ⟨empty⟩

def get? (m : SortedMap κ β) (k : κ) : Option β := find? k m.entries

def contains (m : SortedMap κ β) (k : κ) : Bool := (m.get? k).isSome

def keys (m : SortedMap κ β) : List κ := m.entries.map Prod.fst

def values (m : SortedMap κ β) : List β := m.entries.map Prod.snd

def size (m : SortedMap κ β) : Nat := m.entries.length

def isEmpty (m : SortedMap κ β) : Bool := m.entries.isEmpty

def map (f : κ → β → γ) (m : SortedMap κ β) : SortedMap κ γ where
  entries := m.entries.map fun e => (e.1, f e.1 e.2)
  ascending := List.Pairwise.map _ (fun _ _ h => h) m.ascending

def filter (p : κ → β → Bool) (m : SortedMap κ β) : SortedMap κ β where
  entries := m.entries.filter fun e => p e.1 e.2
  ascending := m.ascending.filter _

variable [Std.TransOrd κ]

def insert (m : SortedMap κ β) (k : κ) (v : β) : SortedMap κ β :=
  ⟨put k v m.entries, pairwise_put m.ascending⟩

def erase (m : SortedMap κ β) (k : κ) : SortedMap κ β :=
  ⟨drop k m.entries, pairwise_drop m.ascending⟩

/-- Entries put in one after the other: a later value at a key replaces an earlier one. -/
def ofList (l : List (κ × β)) : SortedMap κ β :=
  l.foldl (fun m e => m.insert e.1 e.2) empty

def insertAll (m : SortedMap κ β) (other : SortedMap κ β) : SortedMap κ β :=
  other.entries.foldl (fun acc e => acc.insert e.1 e.2) m

instance [DecidableEq κ] [DecidableEq β] : DecidableEq (SortedMap κ β) := fun m n =>
  decidable_of_iff (m.entries = n.entries)
    ⟨fun h => by cases m; cases n; simp_all, fun h => by rw [h]⟩

omit [Std.TransOrd κ] in
@[simp] theorem get?_empty (k : κ) : (empty : SortedMap κ β).get? k = none := rfl

variable [Std.LawfulEqOrd κ]

theorem get?_insert [DecidableEq κ] (m : SortedMap κ β) (k : κ) (v : β) (k₀ : κ) :
    (m.insert k v).get? k₀ = if k₀ = k then some v else m.get? k₀ :=
  find?_put k₀ m.ascending

theorem get?_erase [DecidableEq κ] (m : SortedMap κ β) (k k₀ : κ) :
    (m.erase k).get? k₀ = if k₀ = k then none else m.get? k₀ :=
  find?_drop k₀ m.ascending

theorem get?_eq_some_iff {m : SortedMap κ β} {k : κ} {v : β} :
    m.get? k = some v ↔ (k, v) ∈ m.entries :=
  find?_eq_some_iff_mem m.ascending

omit [Std.TransOrd κ] [Std.LawfulEqOrd κ] in
theorem eq_of_entries_eq {m n : SortedMap κ β} (h : m.entries = n.entries) : m = n := by
  cases m; cases n; simp_all

omit [Std.TransOrd κ] [Std.LawfulEqOrd κ] in
theorem exists_split_put {k : κ} {v : β} {l : List (κ × β)} (absent : find? k l = none) :
    ∃ before after, l = before ++ after ∧ put k v l = before ++ (k, v) :: after := by
  induction l with
  | nil => exact ⟨[], [], rfl, rfl⟩
  | cons e rest ih =>
      obtain ⟨k', v'⟩ := e
      simp only [find?] at absent
      simp only [put]
      split at absent
      · exact ⟨[], (k', v') :: rest, rfl, rfl⟩
      · cases absent
      · obtain ⟨before, after, whole, inserted⟩ := ih absent
        exact ⟨(k', v') :: before, after, by rw [whole]; rfl, by rw [inserted]; rfl⟩

omit [Std.LawfulEqOrd κ] in
theorem exists_split_insert {m : SortedMap κ β} {k : κ} (absent : m.get? k = none) (v : β) :
    ∃ before after, m.entries = before ++ after ∧
      (m.insert k v).entries = before ++ (k, v) :: after :=
  exists_split_put absent

theorem mem_keys_iff {m : SortedMap κ β} {k : κ} : k ∈ m.keys ↔ (m.get? k).isSome := by
  simp only [keys, List.mem_map, Option.isSome_iff_exists, get?_eq_some_iff]
  constructor
  · rintro ⟨⟨k', v⟩, member, rfl⟩; exact ⟨v, member⟩
  · rintro ⟨v, member⟩; exact ⟨(k, v), member, rfl⟩

/-- A map is its view: equal values at every key make equal maps. -/
theorem ext_get? {m n : SortedMap κ β} (same : ∀ k, m.get? k = n.get? k) : m = n := by
  apply eq_of_entries_eq
  have asc : ∀ l : List (κ × β), l.Pairwise (fun a b => compare a.1 b.1 = .lt) →
      ∀ l' : List (κ × β), l'.Pairwise (fun a b => compare a.1 b.1 = .lt) →
      (∀ e, e ∈ l ↔ e ∈ l') → l = l' := by
    intro l hl
    induction l with
    | nil =>
        intro l' _ members
        cases l' with
        | nil => rfl
        | cons b _ => exact absurd ((members b).2 (List.mem_cons_self ..)) (by simp)
    | cons a rest ih =>
        intro l' hl' members
        obtain ⟨below, tail⟩ := List.pairwise_cons.1 hl
        cases l' with
        | nil => exact absurd ((members a).1 (List.mem_cons_self ..)) (by simp)
        | cons b rest' =>
            obtain ⟨below', tail'⟩ := List.pairwise_cons.1 hl'
            have heads : a = b := by
              rcases List.mem_cons.1 ((members a).1 (List.mem_cons_self ..)) with h | h
              · exact h
              · rcases List.mem_cons.1 ((members b).2 (List.mem_cons_self ..)) with h' | h'
                · exact h'.symm
                · have one := below' a h
                  have two := below b h'
                  rw [Std.OrientedCmp.gt_of_lt one] at two
                  cases two
            subst heads
            congr 1
            refine ih tail rest' tail' fun e => ?_
            constructor
            · intro he
              rcases List.mem_cons.1 ((members e).1 (List.mem_cons_of_mem _ he)) with rfl | h
              · have := below e he; simp [Std.ReflCmp.compare_self] at this
              · exact h
            · intro he
              rcases List.mem_cons.1 ((members e).2 (List.mem_cons_of_mem _ he)) with rfl | h
              · have := below' e he; simp [Std.ReflCmp.compare_self] at this
              · exact h
  refine asc _ m.ascending _ n.ascending fun e => ?_
  obtain ⟨k, v⟩ := e
  rw [← get?_eq_some_iff, ← get?_eq_some_iff, same]

theorem get?_map (f : κ → β → γ) (m : SortedMap κ β) (k : κ) :
    (m.map f).get? k = (m.get? k).map (f k) := by
  apply Option.ext
  intro w
  rw [get?_eq_some_iff, Option.map_eq_some_iff]
  simp only [map, List.mem_map, Prod.mk.injEq, get?_eq_some_iff]
  constructor
  · rintro ⟨⟨k', v⟩, member, rfl, rfl⟩
    exact ⟨v, member, rfl⟩
  · rintro ⟨v, member, rfl⟩
    exact ⟨(k, v), member, rfl, rfl⟩

theorem get?_filter (p : κ → β → Bool) (m : SortedMap κ β) (k : κ) :
    (m.filter p).get? k = (m.get? k).filter (p k) := by
  apply Option.ext
  intro w
  rw [get?_eq_some_iff, Option.filter_eq_some_iff, get?_eq_some_iff]
  simp [filter, List.mem_filter]

theorem get?_foldl_insert [DecidableEq κ] {α : Type} (key : α → κ) (v : β) (l : List α)
    (m : SortedMap κ β) (k : κ) :
    (l.foldl (fun m a => m.insert (key a) v) m).get? k =
      if k ∈ l.map key then some v else m.get? k := by
  induction l generalizing m with
  | nil => simp
  | cons a rest ih =>
      rw [List.foldl_cons, ih, get?_insert]
      by_cases first : k = key a
      · simp [first]
      · simp [first]

/-- Values that are determined by their keys are found at them. -/
theorem get?_foldl_insert_of_each [DecidableEq κ] (key : β → κ) (value? : κ → Option β) {l : List β}
    (each : ∀ b ∈ l, value? (key b) = some b) (m : SortedMap κ β) (k : κ) :
    (l.foldl (fun m b => m.insert (key b) b) m).get? k =
      if k ∈ l.map key then value? k else m.get? k := by
  induction l generalizing m with
  | nil => simp
  | cons b rest ih =>
      rw [List.foldl_cons, ih fun c member => each c (List.mem_cons_of_mem _ member), get?_insert]
      by_cases first : k = key b
      · simp [first, each b (List.mem_cons_self ..)]
      · simp [first]

theorem get?_foldl_insert_entries [DecidableEq κ] {l : List (κ × β)} (nodup : (l.map Prod.fst).Nodup)
    (m : SortedMap κ β) (k : κ) :
    (l.foldl (fun m e => m.insert e.1 e.2) m).get? k =
      ((l.find? fun e => e.1 = k).map Prod.snd).or (m.get? k) := by
  induction l generalizing m with
  | nil => rfl
  | cons e rest ih =>
      obtain ⟨fresh, tail⟩ := List.nodup_cons.1 nodup
      rw [List.foldl_cons, ih tail, get?_insert, List.find?_cons]
      by_cases here : e.1 = k
      · have later : (rest.find? fun e => e.1 = k) = none := by
          refine List.find?_eq_none.2 fun e' member same => fresh ?_
          rw [here, ← of_decide_eq_true same]
          exact List.mem_map_of_mem member
        simp [here, later]
      · simp [here, Ne.symm here]

theorem mem_or_get?_of_foldl_insert [DecidableEq κ] {entries : List (κ × β)} {m : SortedMap κ β}
    {k : κ} {v : β} (found : (entries.foldl (fun m e => m.insert e.1 e.2) m).get? k = some v) :
    (k, v) ∈ entries ∨ m.get? k = some v := by
  induction entries generalizing m with
  | nil => exact Or.inr found
  | cons entry rest ih =>
      rcases ih found with later | now
      · exact Or.inl (List.mem_cons_of_mem _ later)
      · rw [get?_insert] at now
        split at now
        · next same =>
          cases now
          exact Or.inl (same ▸ List.mem_cons_self ..)
        · exact Or.inr now

theorem get?_ofList [DecidableEq κ] {l : List (κ × β)} (nodup : (l.map Prod.fst).Nodup) (k : κ) :
    (ofList l).get? k = (l.find? fun e => e.1 = k).map Prod.snd := by
  rw [ofList, get?_foldl_insert_entries nodup, get?_empty, Option.or_none]

theorem get?_ofList_eq_some_iff [DecidableEq κ] {l : List (κ × β)} (nodup : (l.map Prod.fst).Nodup)
    {k : κ} {v : β} : (ofList l).get? k = some v ↔ (k, v) ∈ l := by
  rw [get?_ofList nodup]
  induction l with
  | nil => simp
  | cons e rest ih =>
      obtain ⟨fresh, tail⟩ := List.nodup_cons.1 nodup
      rw [List.find?_cons, List.mem_cons]
      by_cases here : e.1 = k
      · subst here
        have later : (e.1, v) ∉ rest := fun member => fresh (List.mem_map.2 ⟨_, member, rfl⟩)
        simp [later, Prod.ext_iff, eq_comm]
      · simp [here, ih tail, Prod.ext_iff, Ne.symm here]

omit [Std.TransOrd κ] in
theorem nodup_keys (m : SortedMap κ β) : (m.entries.map Prod.fst).Nodup := by
  refine List.pairwise_map.2 (m.ascending.imp fun {a b} below same => ?_)
  have equal : compare a.1 b.1 = .eq := Std.LawfulEqOrd.compare_eq_iff_eq.2 same
  rw [equal] at below
  cases below

theorem ofList_entries [DecidableEq κ] (m : SortedMap κ β) : ofList m.entries = m := by
  refine ext_get? fun k => Option.ext fun v => ?_
  rw [get?_ofList_eq_some_iff m.nodup_keys, get?_eq_some_iff]

theorem get?_foldl_erase [DecidableEq κ] {α : Type} (key : α → κ) (l : List α)
    (m : SortedMap κ β) (k : κ) :
    (l.foldl (fun m a => m.erase (key a)) m).get? k =
      if k ∈ l.map key then none else m.get? k := by
  induction l generalizing m with
  | nil => simp
  | cons a rest ih =>
      rw [List.foldl_cons, ih, get?_erase]
      by_cases first : k = key a
      · simp [first]
      · simp [first]

end Maps
end SortedMap

/-! ## Sets -/

/-- A finite set whose members are listed in ascending order. -/
abbrev SortedSet (κ : Type u) [Ord κ] := SortedMap κ Unit

namespace SortedSet

variable {κ : Type u} [Ord κ] [Std.TransOrd κ]

def add (s : SortedSet κ) (k : κ) : SortedSet κ := s.insert k ()

def ofMembers (l : List κ) : SortedSet κ := l.foldl SortedSet.add SortedMap.empty

omit [Std.TransOrd κ] in
def members (s : SortedSet κ) : List κ := s.keys

end SortedSet
end EntitySearch
