import EntitySearch.Proofs.Dataset.Storing
import EntitySearch.Proofs.Service.KeyMoves

/-!
# The references of a dataset in the store

A record refers to others by foreign keys and by links.  When the records are stored, their
references are written one after the other.  No foreign key is written twice, so that the index
follows the store all the way, whatever fields step over the keys and in which direction.  In the
end the store has the foreign keys and the links that the references ask for and no others.

Main statements: `Related.setKey`, `Related.addLinks`, `related_of_foldlM`.
-/
set_option autoImplicit false
namespace EntitySearch
namespace Dataset

inductive Reference where
  | key (name key : String)
  | link (name key : String)

def RecordEntry.Refers (record : RecordEntry) : Reference → Prop
  | .key name key => record.foreignKeys.get? name = some key
  | .link name key => ∃ keys, record.links.get? name = some keys ∧ key ∈ keys

/-- The relation of a reference is of the right kind and leads to records of the type of the one
with the key. -/
def Resolves (catalog : Catalog) (records : List RecordEntry) (anchor : EntityRef) :
    Reference → Prop
  | .key name key => ∃ relation target, catalog.relation? anchor.typeName name = some relation ∧
      relation.kind = .foreignKey ∧ Named records key target ∧ target.typeName = relation.target
  | .link name key => ∃ relation junction side target,
      catalog.relation? anchor.typeName name = some relation ∧
      relation.kind = .manyToMany junction side ∧ Named records key target ∧
      target.typeName = relation.target

abbrev References := EntityRef → Reference → Prop

/-- By some references, a foreign key of an entity holds an identifier. -/
def References.Point (made : References) (records : List RecordEntry) (holder : EntityRef)
    (name : String) (id : Nat) : Prop :=
  ∃ key target, made holder (.key name key) ∧ Named records key target ∧ target.id = id

/-- By some references, made from either side of it, a junction has a link. -/
def References.Pair (made : References) (catalog : Catalog) (records : List RecordEntry)
    (junction : String) (link : Link) : Prop :=
  ∃ anchor name key target relation side, made anchor (.link name key) ∧
    Named records key target ∧ catalog.relation? anchor.typeName name = some relation ∧
    relation.kind = .manyToMany junction side ∧ link = Link.ofSide side anchor.id target.id

def References.withKey (made : References) (holder : EntityRef) (name key : String) : References :=
  fun anchor reference => made anchor reference ∨ (anchor = holder ∧ reference = .key name key)

def References.withLinks (made : References) (source : EntityRef) (name : String)
    (keys : List String) : References :=
  fun anchor reference => made anchor reference ∨
    (anchor = source ∧ ∃ key ∈ keys, reference = .link name key)

namespace References
variable {made : References} {catalog : Catalog} {records : List RecordEntry}
  {source other : EntityRef} {name otherName key junction : String} {keys : List String} {id : Nat}
  {link : Link}

theorem point_withKey :
    (made.withKey source name key).Point records other otherName id ↔
      made.Point records other otherName id ∨ (other = source ∧ otherName = name ∧
        ∃ target, Named records key target ∧ target.id = id) := by
  simp only [Point, withKey, or_and_right, exists_or, Reference.key.injEq]
  refine or_congr_right ⟨?_, ?_⟩
  · rintro ⟨_, target, ⟨rfl, rfl, rfl⟩, named⟩
    exact ⟨rfl, rfl, target, named⟩
  · rintro ⟨rfl, rfl, target, named⟩
    exact ⟨_, target, ⟨rfl, rfl, rfl⟩, named⟩

theorem pair_withKey :
    (made.withKey source name key).Pair catalog records junction link ↔
      made.Pair catalog records junction link := by
  simp [Pair, withKey]

theorem point_withLinks :
    (made.withLinks source name keys).Point records other otherName id ↔
      made.Point records other otherName id := by
  simp [Point, withLinks]

theorem pair_withLinks {relation : Relation} {through : String} {side : Side}
    (declared : catalog.relation? source.typeName name = some relation)
    (kind : relation.kind = .manyToMany through side) :
    (made.withLinks source name keys).Pair catalog records junction link ↔
      made.Pair catalog records junction link ∨ (junction = through ∧ ∃ key ∈ keys,
        ∃ target, Named records key target ∧ link = Link.ofSide side source.id target.id) := by
  simp only [Pair, withLinks, or_and_right, exists_or, Reference.link.injEq]
  refine or_congr_right ⟨?_, ?_⟩
  · rintro ⟨_, _, _, target, _, _, ⟨rfl, _, member, rfl, rfl⟩, named, also, alsoKind, rfl⟩
    cases declared.symm.trans also
    cases kind.symm.trans alsoKind
    exact ⟨rfl, _, member, target, named, rfl⟩
  · rintro ⟨rfl, key, member, target, named, rfl⟩
    exact ⟨source, name, key, target, relation, side, ⟨rfl, key, member, rfl, rfl⟩, named, declared,
      kind, rfl⟩

end References

theorem entityOf_eq_ok {byKey : ByKey} {key : String} {entity : EntityRef}
    (success : entityOf byKey key = .ok entity) : byKey.get? key = some entity := by
  unfold entityOf at success
  split at success
  · next found =>
    cases success
    exact found
  · cases success

theorem Stored.eq_of_key {records : List RecordEntry} {record other : RecordEntry}
    {entity found : EntityRef} (stored : Stored records record entity)
    (distinctKeys : (records.map RecordEntry.key).Nodup) (also : Stored records other found)
    (sameKey : record.key = other.key) : record = other ∧ entity = found := by
  refine stored.eq also ?_
  obtain ⟨i, here, rfl⟩ := stored
  obtain ⟨j, there, rfl⟩ := also
  have below : i < (records.map RecordEntry.key).length := by
    rw [List.length_map]
    exact (List.getElem?_eq_some_iff.1 here).1
  have keys : (records.map RecordEntry.key)[i]? = (records.map RecordEntry.key)[j]? := by
    rw [List.getElem?_map, List.getElem?_map, here, there]
    exact congrArg some sameKey
  exact congrArg (· + 1) ((List.getElem?_inj below distinctKeys).1 keys)

/-! ## What is related -/

variable {registry : Registry} {records : List RecordEntry} {made : References}
  {service after : Service} {byKey : ByKey}

/-- Records are stored, and some references of theirs are made. -/
structure Related (registry : Registry) (records : List RecordEntry) (made : References)
    (service : Service) : Prop where
  following : service.Following registry
  holds : ∀ entity attributes,
    (service.store.records.get? entity).map Record.attributes = some attributes ↔
      ∃ record, Stored records record entity ∧ attributes = record.bare.attributes
  keys : ∀ holder name id, service.store.keyOf holder name = some id ↔
    made.Point records holder name id
  links : ∀ junction link, link ∈ service.store.linksOf junction ↔
    made.Pair registry.catalog records junction link
  resolves : ∀ anchor reference, made anchor reference →
    Resolves registry.catalog records anchor reference

theorem Related.of_iff {others : References} (related : Related registry records made service)
    (same : ∀ anchor reference, made anchor reference ↔ others anchor reference) :
    Related registry records others service := by
  obtain rfl : made = others := funext₂ fun anchor reference => propext (same anchor reference)
  exact related

theorem Related.contains_iff (related : Related registry records made service)
    {entity : EntityRef} :
    service.store.contains entity = true ↔ ∃ record, Stored records record entity := by
  rw [Store.contains_eq_true]
  constructor
  · rintro ⟨held, present⟩
    obtain ⟨record, stored, -⟩ := (related.holds entity held.attributes).1 (by rw [present]; rfl)
    exact ⟨record, stored⟩
  · rintro ⟨record, stored⟩
    have here := (related.holds entity _).2 ⟨record, stored, rfl⟩
    obtain ⟨held, present, -⟩ := Option.map_eq_some_iff.1 here
    exact ⟨held, present⟩

theorem Related.typed (related : Related registry records made service) {key : String}
    {target : EntityRef} (named : Named records key target) {type : TypeName}
    (present : service.store.contains ⟨type, target.id⟩ = true) : target.typeName = type := by
  obtain ⟨record, stored, -⟩ := named
  obtain ⟨other, found⟩ := related.contains_iff.1 present
  rw [(stored.eq found rfl).2]

section Steps
variable (grounded : registry.Grounded)
  (byName : ∀ key entity, byKey.get? key = some entity ↔ Named records key entity)
include grounded byName

/-- A foreign key that no reference has asked for yet is set. -/
theorem Related.setKey (related : Related registry records made service) {holder : EntityRef}
    {name key : String} (unset : ∀ other, ¬ made holder (.key name other))
    (success : Dataset.setKey byKey holder service (name, key) = .ok after) :
    Related registry records (made.withKey holder name key) after := by
  obtain ⟨target, found, success⟩ := bind_eq_ok success
  obtain ⟨⟨_, _⟩, wrote, success⟩ := bind_eq_ok success
  cases success
  obtain ⟨outcome, set, -, rfl⟩ := written_eq_ok wrote
  have looked : byKey.get? key = some target := entityOf_eq_ok found
  have named : Named records key target := (byName key target).1 looked
  have same : ∀ other, Named records key other → other = target := fun other also =>
    Option.some.inj (((byName key other).2 also).symm.trans looked)
  -- A key that is moved could leave documents behind; one that was not set cannot.
  have free : service.store.keyOf holder name = none := by
    refine Option.eq_none_iff_forall_ne_some.2 fun id holds => ?_
    obtain ⟨other, _, asked, -⟩ := (related.keys holder name id).1 holds
    exact unset other asked
  obtain ⟨relation, declared, kind, present, record, held, put, -⟩ := Store.setForeignKey_eq_ok set
  rw [related.following.sound.onCatalog] at declared
  refine ⟨related.following.follow_first_key grounded set free, ?_, ?_, ?_, ?_⟩
  · intro entity attributes
    rw [Service.store_follow, put, Store.get?_putRecord, ← related.holds]
    split
    · next here =>
      rw [here, held]
      rfl
    · rfl
  · intro other otherName id
    rw [Service.store_follow, Store.keyOf_setForeignKey set, References.point_withKey,
      ← related.keys]
    split
    · next here =>
      obtain ⟨rfl, rfl⟩ := here
      simp only [free, reduceCtorEq, false_or, true_and, Option.some.injEq]
      constructor
      · rintro rfl
        exact ⟨target, named, rfl⟩
      · rintro ⟨other, also, rfl⟩
        rw [same other also]
    · next differs =>
      rw [← and_assoc]
      simp [differs]
  · intro junction link
    rw [Service.store_follow, Store.linksOf_congr (Store.links_setForeignKey set),
      References.pair_withKey, related.links]
  · rintro anchor reference (before | ⟨rfl, rfl⟩)
    · exact related.resolves anchor reference before
    · exact ⟨relation, target, declared, kind, named, related.typed named (present _ rfl)⟩

theorem Related.addLinks (related : Related registry records made service) {anchor : EntityRef}
    {name : String} {keys : List String}
    (success : Dataset.addLinks byKey anchor service (name, keys) = .ok after) :
    Related registry records (made.withLinks anchor name keys) after := by
  obtain ⟨targets, found, success⟩ := bind_eq_ok success
  obtain ⟨⟨_, _⟩, wrote, success⟩ := bind_eq_ok success
  cases success
  obtain ⟨outcome, linked, -, rfl⟩ := written_eq_ok wrote
  have spares : (Write.link anchor name (targets.map EntityRef.id)).Spares registry := trivial
  have isTarget : ∀ target, target ∈ targets ↔ ∃ key ∈ keys, Named records key target := by
    intro target
    rw [mem_of_mapM_eq_ok found]
    refine exists_congr fun key => and_congr_right fun _ => ?_
    rw [← byName]
    exact ⟨entityOf_eq_ok, fun looked => by rw [entityOf, looked]⟩
  obtain ⟨relation, junction, side, declared, kind, present, links⟩ :=
    Store.mem_linksOf_of_link linked
  rw [related.following.sound.onCatalog] at declared
  refine ⟨related.following.follow grounded spares linked, ?_, ?_, ?_, ?_⟩
  · intro entity attributes
    rw [Service.store_follow, Store.records_link linked, related.holds]
  · intro other otherName id
    rw [Service.store_follow, Store.keyOf_congr (Store.records_link linked),
      References.point_withLinks, related.keys]
  · intro through link
    rw [Service.store_follow, links, References.pair_withLinks declared kind, related.links]
    refine or_congr_right (and_congr_right fun _ => ?_)
    simp only [List.mem_map, isTarget]
    constructor
    · rintro ⟨_, ⟨target, ⟨key, member, named⟩, rfl⟩, rfl⟩
      exact ⟨key, member, target, named, rfl⟩
    · rintro ⟨key, member, target, named, rfl⟩
      exact ⟨_, ⟨target, ⟨key, member, named⟩, rfl⟩, rfl⟩
  · rintro source reference (before | ⟨rfl, key, member, rfl⟩)
    · exact related.resolves source reference before
    · obtain ⟨target, looked⟩ := each_of_mapM_eq_ok found member
      have named := (byName key target).1 (entityOf_eq_ok looked)
      have stored := present target.id
        (List.mem_map_of_mem ((isTarget target).2 ⟨key, member, named⟩))
      exact ⟨relation, junction, side, target, declared, kind, named, related.typed named stored⟩

theorem Related.setKeys (related : Related registry records made service) {holder : EntityRef}
    (untouched : ∀ reference, ¬ made holder reference) {keys : SortedMap String String}
    (success : keys.entries.foldlM (Dataset.setKey byKey holder) service = .ok after) :
    Related registry records (fun anchor reference => made anchor reference ∨
      (anchor = holder ∧ ∃ entry ∈ keys.entries, reference = .key entry.1 entry.2)) after := by
  refine foldlM_eq_ok (fun done => Related registry records fun anchor reference =>
    made anchor reference ∨ (anchor = holder ∧ ∃ entry ∈ done, reference = .key entry.1 entry.2))
    ?_ (related.of_iff fun anchor reference => by simp) success
  rintro done ⟨name, key⟩ rest earlier later split soFar set
  refine (soFar.setKey grounded byName ?_ set).of_iff fun anchor reference => ?_
  · rintro other (before | ⟨-, earlierEntry, member, same⟩)
    · exact untouched _ before
    · -- The entries of a map have different names.
      have distinctNames := keys.nodup_keys
      rw [split, List.map_append, List.nodup_append] at distinctNames
      refine distinctNames.2.2 _ (List.mem_map_of_mem member) name (List.mem_cons_self ..) ?_
      exact (Reference.key.inj same).1.symm
  · simp only [References.withKey, List.mem_append, List.mem_singleton, or_and_right, exists_or,
      exists_eq_left, and_or_left, or_assoc]

theorem Related.addAllLinks (related : Related registry records made service) {anchor : EntityRef}
    {links : List (String × List String)}
    (success : links.foldlM (Dataset.addLinks byKey anchor) service = .ok after) :
    Related registry records (fun source reference => made source reference ∨
      (source = anchor ∧ ∃ entry ∈ links, ∃ key ∈ entry.2, reference = .link entry.1 key))
      after := by
  refine foldlM_eq_ok (fun done => Related registry records fun source reference =>
    made source reference ∨
      (source = anchor ∧ ∃ entry ∈ done, ∃ key ∈ entry.2, reference = .link entry.1 key))
    ?_ (related.of_iff fun source reference => by simp) success
  rintro done ⟨name, keys⟩ rest earlier later - soFar added
  refine (soFar.addLinks grounded byName added).of_iff fun source reference => ?_
  simp only [References.withLinks, List.mem_append, List.mem_singleton, or_and_right, exists_or,
    exists_eq_left, and_or_left, or_assoc]

theorem Related.relateRecord (related : Related registry records made service)
    (distinctKeys : (records.map RecordEntry.key).Nodup) {record : RecordEntry} {entity : EntityRef}
    (stored : Stored records record entity) (untouched : ∀ reference, ¬ made entity reference)
    (success : Dataset.relateRecord byKey service record = .ok after) :
    Related registry records (fun anchor reference => made anchor reference ∨
      (anchor = entity ∧ record.Refers reference)) after := by
  obtain ⟨found, looked, success⟩ := bind_eq_ok success
  obtain ⟨keyed, keysSet, linksAdded⟩ := bind_eq_ok success
  -- The entity is looked up by the key of the record, which no other record has.
  obtain ⟨other, also, sameKey⟩ := (byName record.key found).1 (entityOf_eq_ok looked)
  obtain ⟨-, rfl⟩ := stored.eq_of_key distinctKeys also sameKey.symm
  refine ((related.setKeys grounded byName untouched keysSet).addAllLinks grounded byName
    linksAdded).of_iff fun anchor reference => ?_
  rw [or_assoc, ← and_or_left]
  refine or_congr_right (and_congr_right fun _ => ?_)
  cases reference with
  | key name key =>
      simp [RecordEntry.Refers, SortedMap.get?_eq_some_iff]
  | link name key =>
      simp [RecordEntry.Refers, SortedMap.get?_eq_some_iff]

end Steps

def references (records : List RecordEntry) : References :=
  fun anchor reference => ∃ record, Stored records record anchor ∧ record.Refers reference

theorem not_references_nil (anchor : EntityRef) (reference : Reference) :
    ¬ references [] anchor reference := by
  rintro ⟨record, ⟨i, here, -⟩, -⟩
  cases here

theorem Stocked.related (stocked : Stocked registry records (service, byKey)) :
    Related registry records (references []) service := by
  refine ⟨stocked.following, ?_, ?_, ?_, ?_⟩
  · intro entity attributes
    simp only [Option.map_eq_some_iff, stocked.holds]
    constructor
    · rintro ⟨_, ⟨record, stored, rfl⟩, rfl⟩
      exact ⟨record, stored, rfl⟩
    · rintro ⟨record, stored, rfl⟩
      exact ⟨_, ⟨record, stored, rfl⟩, rfl⟩
  · intro holder name id
    have unmade : ¬ (references []).Point records holder name id := by
      rintro ⟨key, target, asked, -⟩
      exact not_references_nil holder _ asked
    refine iff_of_false (fun holds => ?_) unmade
    obtain ⟨held, present, points⟩ := Option.bind_eq_some_iff.1 holds
    obtain ⟨record, -, rfl⟩ := (stocked.holds holder held).1 present
    exact absurd points (by simp [RecordEntry.bare])
  · intro junction link
    have unmade : ¬ (references []).Pair registry.catalog records junction link := by
      rintro ⟨anchor, _, _, _, _, _, asked, -⟩
      exact not_references_nil anchor _ asked
    have nothing : service.store.links = .empty := stocked.unlinked
    refine iff_of_false ?_ unmade
    rw [Store.linksOf, nothing, SortedMap.get?_empty]
    exact List.not_mem_nil
  · intro anchor reference asked
    exact absurd asked (not_references_nil anchor reference)

/-- Relating all records makes the references that they ask for and no others. -/
theorem related_of_foldlM (grounded : registry.Grounded)
    (stocked : Stocked registry records (service, byKey))
    (success : records.foldlM (relateRecord byKey) service = .ok after) :
    Related registry records (references records) after := by
  refine foldlM_eq_ok (fun done => Related registry records (references done)) ?_ stocked.related
    success
  intro done record rest earlier later split related made
  have stored : Stored records record ⟨record.model, done.length + 1⟩ := by
    refine ⟨done.length, ?_, rfl⟩
    rw [split, List.getElem?_append_right (Nat.le_refl _), Nat.sub_self]
    rfl
  -- The entities of the records done have smaller identifiers.
  have untouched : ∀ reference,
      ¬ references done ⟨record.model, done.length + 1⟩ reference := by
    rintro reference ⟨other, found, -⟩
    exact Nat.not_succ_le_self _ found.id_le
  refine (related.relateRecord grounded stocked.named stocked.distinctKeys stored untouched
    made).of_iff fun anchor reference => ?_
  simp only [references, stored_snoc, or_and_right, exists_or, and_assoc, exists_eq_left]

end Dataset
end EntitySearch
