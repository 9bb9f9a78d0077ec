/-!
# White space, words and cuts

Texts are read as lists of characters.  `isSpace` is the Unicode property `White_Space`; `words`
cuts a text into its maximal runs of other characters, `trim` takes the white space off both
ends, `splitOn` cuts at every occurrence of one character and `cut?` at the first occurrence of
a whole pattern.

Main statements: `words_cons_space`, `words_append_space`.
-/
set_option autoImplicit false
namespace EntitySearch.Text

/-- The Unicode property `White_Space`. -/
def isSpace (c : Char) : Bool :=
  let n := c.toNat
  (0x9 ≤ n && n ≤ 0xD) || n == 0x20 || n == 0x85 || n == 0xA0 || n == 0x1680 ||
    (0x2000 ≤ n && n ≤ 0x200A) || n == 0x2028 || n == 0x2029 || n == 0x202F || n == 0x205F ||
    n == 0x3000

def trimStart (cs : List Char) : List Char := cs.dropWhile isSpace

def trimEnd (cs : List Char) : List Char := (trimStart cs.reverse).reverse

def trim (cs : List Char) : List Char := trimEnd (trimStart cs)

def isBlank (cs : List Char) : Bool := cs.all isSpace

theorem trimStart_cons_space {c : Char} {cs : List Char} (space : isSpace c = true) :
    trimStart (c :: cs) = trimStart cs := by
  simp [trimStart, space]

theorem trimStart_cons_solid {c : Char} {cs : List Char} (solid : isSpace c = false) :
    trimStart (c :: cs) = c :: cs := by
  simp [trimStart, solid]

theorem trimStart_eq_nil_iff {cs : List Char} : trimStart cs = [] ↔ isBlank cs = true := by
  induction cs with
  | nil => simp [trimStart, isBlank]
  | cons c rest ih =>
      cases space : isSpace c with
      | true => simpa [trimStart_cons_space space, isBlank, space] using ih
      | false => simp [trimStart, isBlank, space]

def words : List Char → List (List Char)
  | [] => []
  | c :: rest =>
    if isSpace c then words rest
    else match rest with
      | [] => [[c]]
      | d :: _ =>
        if isSpace d then [c] :: words rest
        else match words rest with
          | [] => [[c]]
          | w :: ws => (c :: w) :: ws

theorem words_nil : words [] = [] := rfl

-- Lean's own equations of `words` look into `isSpace`, which takes them long.
theorem words_one (c : Char) : words [c] = if isSpace c then [] else [[c]] := (rfl)

theorem words_two (c d : Char) (rest : List Char) :
    words (c :: d :: rest) = if isSpace c then words (d :: rest)
      else if isSpace d then [c] :: words (d :: rest)
      else match words (d :: rest) with
        | [] => [[c]]
        | w :: ws => (c :: w) :: ws := (rfl)

theorem words_cons_space {c : Char} (rest : List Char) (space : isSpace c = true) :
    words (c :: rest) = words rest := by
  cases rest with
  | nil => rw [words_one, if_pos space, words_nil]
  | cons d rest => rw [words_two, if_pos space]

theorem words_singleton {c : Char} (solid : isSpace c = false) : words [c] = [[c]] := by
  simp [words_one, solid]

theorem words_cons_cons_space {c d : Char} (rest : List Char) (solid : isSpace c = false)
    (space : isSpace d = true) : words (c :: d :: rest) = [c] :: words rest := by
  simp [words_two, solid, space, words_cons_space rest space]

theorem words_cons_cons {c d : Char} (rest : List Char) (solid : isSpace c = false)
    (solid' : isSpace d = false) :
    words (c :: d :: rest) = match words (d :: rest) with
      | [] => [[c]]
      | w :: ws => (c :: w) :: ws := by
  simp [words_two, solid, solid']

theorem words_append_space (a b : List Char) {c : Char} (space : isSpace c = true) :
    words (a ++ c :: b) = words a ++ words b := by
  induction a with
  | nil => simp [words_cons_space b space, words_nil]
  | cons x rest ih =>
      cases solid : isSpace x with
      | true => simpa [words_cons_space _ solid] using ih
      | false =>
          cases rest with
          | nil => simp [words_cons_cons_space b solid space, words_singleton solid]
          | cons y rest =>
              cases solid' : isSpace y with
              | true =>
                  have := words_cons_cons_space rest solid solid'
                  have := words_cons_cons_space (rest ++ c :: b) solid solid'
                  simp_all [words_cons_space _ solid']
              | false =>
                  have left := words_cons_cons (rest ++ c :: b) solid solid'
                  have right := words_cons_cons rest solid solid'
                  simp only [List.cons_append] at ih left ⊢
                  rw [left, right, ih]
                  cases step : words (y :: rest) with
                  | nil =>
                      exfalso
                      revert step
                      cases rest with
                      | nil => simp [words_singleton solid']
                      | cons z _ =>
                          cases solid'' : isSpace z with
                          | true => simp [words_cons_cons_space _ solid' solid'']
                          | false =>
                              rw [words_cons_cons _ solid' solid'']
                              split <;> simp
                  | cons w ws => simp

/-- The pieces between the occurrences of `separator`: one more than there are occurrences. -/
def splitOn (separator : Char) : List Char → List (List Char)
  | [] => [[]]
  | c :: rest =>
    if c = separator then [] :: splitOn separator rest
    else match splitOn separator rest with
      | [] => [[c]]
      | piece :: pieces => (c :: piece) :: pieces

theorem splitOn_ne_nil (separator : Char) (cs : List Char) : splitOn separator cs ≠ [] := by
  cases cs with
  | nil => simp [splitOn]
  | cons c rest =>
      unfold splitOn
      split
      · simp
      · split <;> simp

/-- What stands before and after the first occurrence of `pattern`. -/
def cut? (pattern : List Char) : List Char → Option (List Char × List Char)
  | [] => if pattern.isEmpty then some ([], []) else none
  | c :: rest =>
    if pattern.isPrefixOf (c :: rest) then some ([], (c :: rest).drop pattern.length)
    else (cut? pattern rest).map fun parts => (c :: parts.1, parts.2)

theorem splitOn_eq (separator : Char) (cs : List Char) :
    splitOn separator cs = cs.splitOn separator := by
  induction cs with
  | nil => rw [List.splitOn_nil, splitOn]
  | cons c rest ih =>
      rw [List.splitOn_cons_eq_if_modifyHead, ← ih, splitOn]
      by_cases same : c = separator
      · simp [same]
      · cases pieces : splitOn separator rest with
        | nil => exact absurd pieces (splitOn_ne_nil separator rest)
        | cons piece more => simp [same]

theorem not_mem_of_mem_splitOn {separator : Char} {cs piece : List Char}
    (member : piece ∈ splitOn separator cs) : separator ∉ piece := by
  induction cs generalizing piece with
  | nil => simp_all [splitOn]
  | cons c rest ih =>
      unfold splitOn at member
      split at member
      · rcases List.mem_cons.1 member with rfl | later
        · exact List.not_mem_nil
        · exact ih later
      · next differs =>
          split at member
          · next none => exact absurd none (splitOn_ne_nil separator rest)
          · next first more pieces =>
              rcases List.mem_cons.1 member with rfl | later
              · have clear := ih (pieces ▸ List.mem_cons_self ..)
                exact List.not_mem_cons_of_ne_of_not_mem (Ne.symm differs) clear
              · exact ih (pieces ▸ List.mem_cons_of_mem _ later)

theorem append_of_cut? {pattern cs before after : List Char}
    (found : cut? pattern cs = some (before, after)) : cs = before ++ pattern ++ after := by
  induction cs generalizing before with
  | nil =>
      unfold cut? at found
      split at found <;> simp_all
  | cons c rest ih =>
      unfold cut? at found
      split at found
      · next starts =>
          obtain ⟨tail, whole⟩ := List.isPrefixOf_iff_prefix.1 starts
          simp only [Option.some.injEq, Prod.mk.injEq] at found
          obtain ⟨rfl, rfl⟩ := found
          simp [← whole]
      · obtain ⟨parts, inner, outer⟩ := Option.map_eq_some_iff.1 found
        obtain ⟨p, q⟩ := parts
        simp only [Prod.mk.injEq] at outer
        obtain ⟨rfl, rfl⟩ := outer
        simp [ih inner]

theorem cut?_of_not_mem {first : Char} {before : List Char} (clear : first ∉ before)
    (pattern after : List Char) :
    cut? (first :: pattern) (before ++ first :: (pattern ++ after)) = some (before, after) := by
  induction before with
  | nil => simp [cut?, List.isPrefixOf_iff_prefix]
  | cons c rest ih =>
      obtain ⟨differs, restClear⟩ := not_or.1 fun member => clear (List.mem_cons.2 member)
      simp [cut?, List.isPrefixOf, differs, ih restClear]

theorem not_mem_of_cut? {mark : Char} {cs before after : List Char}
    (found : cut? [mark] cs = some (before, after)) : mark ∉ before := by
  induction cs generalizing before with
  | nil => simp [cut?] at found
  | cons c rest ih =>
      unfold cut? at found
      split at found
      · cases found
        exact List.not_mem_nil
      · next differs =>
          obtain ⟨⟨p, q⟩, inner, outer⟩ := Option.map_eq_some_iff.1 found
          cases outer
          have other : mark ≠ c := by simpa [List.isPrefixOf] using differs
          exact List.not_mem_cons_of_ne_of_not_mem other (ih inner)

/-- Does `needle` occur in the text as a contiguous run? -/
def occursIn (needle : List Char) : List Char → Bool
  | [] => needle.isEmpty
  | c :: rest => needle.isPrefixOf (c :: rest) || occursIn needle rest

theorem occursIn_iff {needle cs : List Char} : occursIn needle cs = true ↔ needle <:+: cs := by
  induction cs with
  | nil => simp [occursIn]
  | cons c rest ih =>
      simp only [occursIn, Bool.or_eq_true, List.isPrefixOf_iff_prefix, ih]
      exact List.infix_cons_iff.symm

end EntitySearch.Text
