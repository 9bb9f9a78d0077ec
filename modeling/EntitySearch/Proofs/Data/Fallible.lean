/-!
# Computations that may fail

A sequence of computations succeeds just if each of them does.  What holds at the beginning of a
loop that succeeds, and is carried on by each round, holds at the end; the rounds may refer to those
done so far.

Main statements: `bind_eq_ok`, `guard_eq_ok`, `mem_of_mapM_eq_ok`, `foldlM_eq_ok`.
-/
set_option autoImplicit false
namespace EntitySearch

variable {ε α β σ : Type}

theorem bind_eq_ok {first : Except ε α} {next : α → Except ε β} {b : β}
    (success : (first >>= next) = .ok b) : ∃ a, first = .ok a ∧ next a = .ok b := by
  cases first with
  | error e => cases success
  | ok a => exact ⟨a, rfl, success⟩

theorem bind_of_some {first : Option α} {a : α} (found : first = some a) (next : α → Option β) :
    (first >>= next) = next a := by
  rw [found]
  rfl

theorem exists_bind_eq_ok {first : Except ε α} {next : α → Except ε β}
    (begins : ∃ a, first = .ok a) (goesOn : ∀ a, ∃ b, next a = .ok b) :
    ∃ b, (first >>= next) = .ok b := by
  obtain ⟨a, rfl⟩ := begins
  exact goesOn a

theorem map_eq_ok {first : Except ε α} {next : α → β} {b : β}
    (success : first.map next = .ok b) : ∃ a, first = .ok a ∧ next a = b := by
  cases first with
  | error e => cases success
  | ok a => exact ⟨a, rfl, Except.ok.inj success⟩

theorem guard_eq_ok {c : Prop} [Decidable c] {e : ε} {next : PUnit → Except ε β} {b : β}
    (success : (if c then (throw e : Except ε PUnit) >>= next else next ⟨⟩) = .ok b) :
    ¬ c ∧ next ⟨⟩ = .ok b := by
  by_cases fails : c
  · rw [if_pos fails] at success
    cases success
  · rw [if_neg fails] at success
    exact ⟨fails, success⟩

section InPlace
variable {first : EStateM ε σ α} {next : α → EStateM ε σ β} {s after : σ}

theorem bind_of_ok {a : α} (success : first s = .ok a after) :
    (first >>= next) s = next a after := by
  simp only [bind, EStateM.bind, success]

theorem bind_of_error {e : ε} (failed : first s = .error e after) :
    (first >>= next) s = .error e after := by
  simp only [bind, EStateM.bind, failed]

end InPlace

theorem mapM_eq_ok {f : α → Except ε β} {g : α → β} {l : List α}
    (each : ∀ a ∈ l, f a = .ok (g a)) : l.mapM f = .ok (l.map g) := by
  induction l with
  | nil => rfl
  | cons a rest ih =>
      rw [List.mapM_cons, each a (List.mem_cons_self ..),
        ih fun b member => each b (List.mem_cons_of_mem _ member)]
      rfl

theorem exists_mapM_eq_ok {f : α → Except ε β} {l : List α} (each : ∀ a ∈ l, ∃ b, f a = .ok b) :
    ∃ results, l.mapM f = .ok results := by
  induction l with
  | nil => exact ⟨[], rfl⟩
  | cons a rest ih =>
      obtain ⟨b, here⟩ := each a (List.mem_cons_self ..)
      obtain ⟨results, later⟩ := ih fun c member => each c (List.mem_cons_of_mem _ member)
      exact ⟨b :: results, by rw [List.mapM_cons, here, later]; rfl⟩

theorem each_of_mapM_eq_ok {f : α → Except ε β} {l : List α} {results : List β}
    (success : l.mapM f = .ok results) {a : α} (member : a ∈ l) : ∃ b, f a = .ok b := by
  induction l generalizing results with
  | nil => cases member
  | cons c rest ih =>
      rw [List.mapM_cons] at success
      obtain ⟨b, here, success⟩ := bind_eq_ok success
      obtain ⟨others, later, -⟩ := bind_eq_ok success
      rcases List.mem_cons.1 member with rfl | inRest
      · exact ⟨b, here⟩
      · exact ih later inRest

theorem forM_eq_ok {check : α → Except ε Unit} {l : List α} (passed : l.forM check = .ok ()) :
    ∀ a ∈ l, check a = .ok () := by
  induction l with
  | nil =>
      intro a member
      cases member
  | cons b rest ih =>
      rw [List.forM_eq_forM, List.forM_cons] at passed
      obtain ⟨_, here, passed⟩ := bind_eq_ok passed
      intro a member
      rcases List.mem_cons.1 member with rfl | later
      · exact here
      · exact ih passed a later

theorem mem_of_mapM_eq_ok {f : α → Except ε β} {l : List α} {results : List β}
    (success : l.mapM f = .ok results) {b : β} : b ∈ results ↔ ∃ a ∈ l, f a = .ok b := by
  induction l generalizing results with
  | nil =>
      cases success
      simp
  | cons a rest ih =>
      rw [List.mapM_cons] at success
      obtain ⟨c, here, success⟩ := bind_eq_ok success
      obtain ⟨others, later, success⟩ := bind_eq_ok success
      cases success
      have first : (b = c) ↔ f a = .ok b := by rw [here, Except.ok.injEq, eq_comm]
      simp only [List.mem_cons, ih later, first, or_and_right, exists_or, exists_eq_left]

theorem foldlM_keeps {f : σ → α → Except ε σ} {kept : σ → Prop} {l : List α}
    (keeps : ∀ {a s next}, kept s → f s a = .ok next → kept next) {start last : σ}
    (begins : kept start) (success : l.foldlM f start = .ok last) : kept last := by
  induction l generalizing start with
  | nil =>
      cases success
      exact begins
  | cons a rest ih =>
      rw [List.foldlM_cons] at success
      obtain ⟨next, first, later⟩ := bind_eq_ok success
      exact ih (keeps begins first) later

/-- What the rounds of a loop carry on about those done so far holds of all of them at the end. -/
theorem foldlM_eq_ok {f : σ → α → Except ε σ} {whole : List α} (holds : List α → σ → Prop)
    (round : ∀ done a rest s next, whole = done ++ a :: rest → holds done s → f s a = .ok next →
      holds (done ++ [a]) next)
    {start last : σ} (begins : holds [] start) (success : whole.foldlM f start = .ok last) :
    holds whole last := by
  -- The rounds still to come vary, those done so far are kept as they were.
  have onward : ∀ rest done s, whole = done ++ rest → holds done s → rest.foldlM f s = .ok last →
      holds whole last := by
    intro rest
    induction rest with
    | nil =>
        intro done s split held ended
        cases ended
        rw [List.append_nil] at split
        exact split ▸ held
    | cons a rest ih =>
        intro done s split held going
        rw [List.foldlM_cons] at going
        obtain ⟨next, first, later⟩ := bind_eq_ok going
        refine ih (done ++ [a]) next ?_ (round done a rest s next split held first) later
        rw [split, List.append_assoc, List.singleton_append]
  exact onward whole [] start rfl begins success

end EntitySearch
