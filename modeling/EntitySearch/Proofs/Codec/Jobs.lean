import EntitySearch.Codec.Job
import EntitySearch.Proofs.Json.ReadBack

/-!
# Jobs are read back

The document of a job, and its text, are read as the job they were written for, whatever the names,
as long as the identifiers have 64 bits.  So the texts of different jobs differ, and what a job
passes over survives: an entity, or links of a junction with their left and right ends.

Main statement: `job_survives_encoding`.
-/
set_option autoImplicit false
namespace EntitySearch

namespace Json

theorem unsigned?_nat {n : Nat} (fits : n ≤ maxUnsigned) : (nat n).unsigned? = some n := by
  simp [unsigned?, natUpTo?, nat, fits]

theorem plain_nat {n : Nat} (fits : n ≤ maxUnsigned) (depth : Nat) : Plain depth (nat n) := by
  rw [maxUnsigned] at fits
  exact .integer (by omega) (by omega)

theorem list?_map {α : Type} {item : Json → Option α} {write : α → Json} {items : List α}
    (each : ∀ a ∈ items, item (write a) = some a) :
    (Json.array (items.map write)).list? item = some items := by
  rw [list?]
  induction items with
  | nil => rfl
  | cons a rest ih =>
      obtain ⟨first, later⟩ := List.forall_mem_cons.1 each
      rw [List.map_cons, List.mapM_cons, first, ih later]
      rfl

end Json

def EntityRef.Fits (entity : EntityRef) : Prop := entity.id ≤ Json.maxUnsigned

namespace EntityRef
variable {entity : EntityRef}

theorem ofJson?_toJson (fits : entity.Fits) : ofJson? entity.toJson = some entity := by
  have number : (Json.nat entity.id).unsigned? = some entity.id := Json.unsigned?_nat fits
  simp [ofJson?, toJson, Json.fields?, Json.memberOf, TypeName.ofJson?_toJson, number]

theorem plain_toJson (fits : entity.Fits) (depth : Nat) : Json.Plain (depth + 1) entity.toJson := by
  refine .object ?_
  simp only [List.forall_mem_cons, List.not_mem_nil, false_implies, implies_true, and_true]
  exact ⟨.string _, Json.plain_nat fits depth⟩

end EntityRef

def Link.Fits (link : Link) : Prop :=
  link.left ≤ Json.maxUnsigned ∧ link.right ≤ Json.maxUnsigned

namespace Link
variable {link : Link}

theorem ofJson?_toJson (fits : link.Fits) : ofJson? link.toJson = some link := by
  simp [ofJson?, toJson, Json.pair?, Json.unsigned?_nat fits.1, Json.unsigned?_nat fits.2]

theorem plain_toJson (fits : link.Fits) (depth : Nat) : Json.Plain (depth + 1) link.toJson := by
  refine .array ?_
  simp only [List.forall_mem_cons, List.not_mem_nil, false_implies, implies_true, and_true]
  exact ⟨Json.plain_nat fits.1 depth, Json.plain_nat fits.2 depth⟩

end Link

namespace Exclusion
variable {exclusion : Exclusion}

def Fits : Exclusion → Prop
  | .instance entity => entity.Fits
  | .links _ pairs => ∀ link ∈ pairs, link.Fits

theorem ofJson?_toJson (fits : exclusion.Fits) (inJob : Bool) :
    ofJson? inJob exclusion.toJson = some exclusion := by
  cases exclusion with
  | «instance» entity =>
      have read : EntityRef.ofJson? entity.toJson = some entity := EntityRef.ofJson?_toJson fits
      simp [ofJson?, toJson, Json.tagged?, Json.tagWord?, Json.fields?, Json.memberOf, read]
  | links junction pairs =>
      have read : (Json.array (pairs.map Link.toJson)).list? Link.ofJson? = some pairs :=
        Json.list?_map fun link member => Link.ofJson?_toJson (fits link member)
      simp [ofJson?, toJson, Json.tagged?, Json.tagWord?, linksOfJson?, Json.fields?, Json.memberOf,
        Json.string?, read]

theorem plain_toJson (fits : exclusion.Fits) (depth : Nat) :
    Json.Plain (depth + 3) exclusion.toJson := by
  cases exclusion with
  | «instance» entity =>
      refine .object ?_
      simp only [List.forall_mem_cons, List.not_mem_nil, false_implies, implies_true, and_true]
      exact ⟨.string _, EntityRef.plain_toJson fits (depth + 1)⟩
  | links junction pairs =>
      refine .object ?_
      simp only [List.forall_mem_cons, List.not_mem_nil, false_implies, implies_true, and_true]
      refine ⟨.string _, .string _, .array fun j member => ?_⟩
      obtain ⟨link, isPair, rfl⟩ := List.mem_map.1 member
      exact Link.plain_toJson (fits link isPair) depth

/-- An exclusion is written as an object, so it is not taken for a missing one. -/
theorem nullable?_toJson (fits : exclusion.Fits) :
    exclusion.toJson.nullable? (ofJson? true) = some (some exclusion) := by
  have read := ofJson?_toJson fits true
  cases exclusion <;> exact congrArg (Option.map some) read

end Exclusion

namespace IndexJob
variable {job : IndexJob}

def Fits : IndexJob → Prop
  | .index entity exclude => entity.Fits ∧ ∀ exclusion ∈ exclude, exclusion.Fits
  | .deindex entity => entity.Fits

def hides (job : IndexJob) (entity : EntityRef) : Bool :=
  job.exclusion?.any fun exclusion => exclusion.excludesInstance entity

def hidesLink (job : IndexJob) (junction : String) (link : Link) : Bool :=
  job.exclusion?.any fun exclusion => exclusion.excludesLink junction link

theorem hides_iff {entity : EntityRef} :
    job.hides entity = true ↔ ∃ owner, job = .index owner (some (.instance entity)) := by
  rcases job with ⟨owner, _ | excluded | _⟩ | owner <;>
    simp [hides, exclusion?, Exclusion.excludesInstance]

theorem hidesLink_iff {junction : String} {link : Link} :
    job.hidesLink junction link = true ↔
      ∃ owner pairs, job = .index owner (some (.links junction pairs)) ∧ link ∈ pairs := by
  rcases job with ⟨owner, _ | _ | ⟨excluded, pairs⟩⟩ | owner <;>
    simp [hidesLink, exclusion?, Exclusion.excludesLink]

theorem ofJson?_toJson (fits : job.Fits) : ofJson? job.toJson = some job := by
  cases job with
  | index entity exclude =>
      have read := EntityRef.ofJson?_toJson fits.1
      have readExclude : (Json.orNull (exclude.map Exclusion.toJson)).nullable?
          (Exclusion.ofJson? true) = some exclude := by
        cases exclude with
        | none => rfl
        | some exclusion => exact Exclusion.nullable?_toJson (fits.2 exclusion rfl)
      simp [ofJson?, toJson, Json.tagged?, Json.tagWord?, Json.fields?, Json.memberOf, read,
        readExclude]
  | deindex entity =>
      have read : EntityRef.ofJson? entity.toJson = some entity := EntityRef.ofJson?_toJson fits
      simp [ofJson?, toJson, Json.tagged?, Json.tagWord?, Json.fields?, Json.memberOf, read]

theorem plain_toJson (fits : job.Fits) (depth : Nat) : Json.Plain (depth + 4) job.toJson := by
  cases job with
  | index entity exclude =>
      have plainExclude : Json.Plain (depth + 3) (.orNull (exclude.map Exclusion.toJson)) := by
        cases exclude with
        | none => exact .null
        | some exclusion => exact Exclusion.plain_toJson (fits.2 exclusion rfl) depth
      refine .object ?_
      simp only [List.forall_mem_cons, List.not_mem_nil, false_implies, implies_true, and_true]
      exact ⟨.string _, EntityRef.plain_toJson fits.1 (depth + 2), plainExclude⟩
  | deindex entity =>
      refine .object ?_
      simp only [List.forall_mem_cons, List.not_mem_nil, false_implies, implies_true, and_true]
      exact ⟨.string _, EntityRef.plain_toJson fits (depth + 2)⟩

theorem ofJson?_parse (fits : job.Fits) :
    (Json.parse job.toJson.compact).bind ofJson? = some job := by
  rw [Json.parse_compact (plain_toJson fits 123), Option.bind_some, ofJson?_toJson fits]

/-- A job is read back from its document and from its text, no other job has the same ones, and what
is read passes over the entity or the links that the job passes over, each link with its ends as
they were. -/
theorem job_survives_encoding (fits : job.Fits) :
    ofJson? job.toJson = some job ∧
      (Json.parse job.toJson.compact).bind ofJson? = some job ∧
      (∀ other : IndexJob, other.Fits → other ≠ job →
        other.toJson ≠ job.toJson ∧ other.toJson.compact ≠ job.toJson.compact) ∧
      ∀ decoded, (Json.parse job.toJson.compact).bind ofJson? = some decoded →
        (∀ entity, decoded.hides entity = true ↔
          ∃ owner, job = .index owner (some (.instance entity))) ∧
        ∀ junction left right, decoded.hidesLink junction ⟨left, right⟩ = true ↔
          ∃ owner pairs,
            job = .index owner (some (.links junction pairs)) ∧ ⟨left, right⟩ ∈ pairs := by
  have read := ofJson?_toJson fits
  have readText := ofJson?_parse fits
  refine ⟨read, readText, fun other otherFits differs => ⟨?_, ?_⟩, fun decoded found => ?_⟩
  · intro same
    have readOther := ofJson?_toJson otherFits
    rw [same, read] at readOther
    exact differs (Option.some.inj readOther).symm
  · intro same
    have readOther := ofJson?_parse otherFits
    rw [same, readText] at readOther
    exact differs (Option.some.inj readOther).symm
  · rw [readText] at found
    obtain rfl := Option.some.inj found
    exact ⟨fun entity => hides_iff, fun junction left right => hidesLink_iff⟩

/-- The greatest identifiers, a link in one direction only, and a junction whose name needs
escapes. -/
def unlinking : IndexJob :=
  .index ⟨⟨"library", "copy", by decide⟩, Json.maxUnsigned⟩
    (some (.links "books\t\"é\"" [⟨Json.maxUnsigned, 0⟩, ⟨7, 7⟩]))

theorem unlinking_survives_encoding :
    unlinking.Fits ∧ (Json.parse unlinking.toJson.compact).bind ofJson? = some unlinking ∧
      unlinking.hidesLink "books\t\"é\"" ⟨Json.maxUnsigned, 0⟩ = true ∧
      unlinking.hidesLink "books\t\"é\"" ⟨0, Json.maxUnsigned⟩ = false := by
  have fits : unlinking.Fits := by
    refine ⟨Nat.le_refl _, fun exclusion carried => ?_⟩
    cases carried
    simp only [Exclusion.Fits, List.forall_mem_cons, List.not_mem_nil, false_implies, implies_true,
      and_true, Link.Fits]
    decide
  obtain ⟨-, readText, -, hidden⟩ := job_survives_encoding fits
  refine ⟨fits, readText, ((hidden unlinking readText).2 _ _ _).2 ⟨_, _, rfl, by decide⟩, ?_⟩
  rw [Bool.eq_false_iff]
  intro turned
  obtain ⟨owner, pairs, isJob, member⟩ := ((hidden unlinking readText).2 _ _ _).1 turned
  cases isJob
  revert member
  decide

end IndexJob
end EntitySearch
