import Mathlib.Data.List.Forall2
import TableDdl.Proofs.Outcome
import TableDdl.Proofs.Text.Printed
import TableDdl.Table.Definition

/-!
# Accepted table definitions

A table definition is accepted exactly if every field passes its own check and the columns have a
source. `TableDefinition.IsMadeOf` names the checks, so that a field of an accepted definition can
be traced back to the value that it was made of.
-/

namespace TableDdl

open Outcome

/-! ## Checks that keep all issues -/

namespace Checked

variable {α β : Type}

theorem ap_eq_ok_iff {f : Checked (α → β)} {x : Checked α} {b : β} :
    ap f x = .ok b ↔ ∃ g a, f = .ok g ∧ x = .ok a ∧ g a = b := by
  cases f with
  | error found => simp [ap]
  | ok g => cases x <;> simp [ap]

theorem all_eq_ok_iff {check : α → Checked β} {list : List α} {results : List β} :
    all check list = .ok results ↔ List.Forall₂ (fun a b => check a = .ok b) list results := by
  induction list generalizing results with
  | nil => simp [all, eq_comm]
  | cons a rest ih =>
    rw [all, ap_eq_ok_iff, List.forall₂_cons_left_iff]
    constructor
    · rintro ⟨_, others, head, tail, rfl⟩
      obtain ⟨_, b, same, passed, rfl⟩ := ap_eq_ok_iff.mp head
      cases same
      exact ⟨b, others, passed, ih.mp tail, rfl⟩
    · rintro ⟨b, others, passed, tail, rfl⟩
      exact ⟨List.cons b, others, ap_eq_ok_iff.mpr ⟨List.cons, b, rfl, passed, rfl⟩, ih.mpr tail,
        rfl⟩

end Checked

namespace Check

variable {location : List LocationStep}

theorem object_eq_ok_iff {v result : Json} :
    object location v = .ok result ↔ (∃ ms, v = .object ms) ∧ result = v := by
  cases v <;> simp [object, Checked.reject, eq_comm]

/-- An object of objects is taken as it is. -/
theorem members_object_eq_ok_iff {ms result : Json.Members} :
    members object location (.object ms) = .ok result ↔
      (∀ member ∈ ms, ∃ inner, member.2 = .object inner) ∧ result = ms := by
  rw [members, Checked.all_eq_ok_iff]
  constructor
  · intro all
    induction all with
    | nil => exact ⟨fun _ mem => absurd mem List.not_mem_nil, rfl⟩
    | cons passed _ ih =>
      obtain ⟨value, valuePassed, rfl⟩ := map_eq_ok_iff.mp passed
      obtain ⟨isObject, rfl⟩ := object_eq_ok_iff.mp valuePassed
      exact ⟨List.forall_mem_cons.mpr ⟨isObject, ih.1⟩, congrArg _ ih.2⟩
  · rintro ⟨objects, rfl⟩
    refine List.forall₂_same.mpr fun member mem => ?_
    exact map_eq_ok_iff.mpr ⟨member.2, object_eq_ok_iff.mpr ⟨objects member mem, rfl⟩, rfl⟩

theorem texts_eq_ok (ts : List Text) : texts location (.array (ts.map Json.text)) = .ok ts := by
  rw [texts, Checked.all_eq_ok_iff, List.zipIdx_map]
  generalize 0 = start
  induction ts generalizing start with
  | nil => exact .nil
  | cons t ts ih => exact .cons rfl (ih (start + 1))

/-- A text passes as a name exactly if it is a row of characters and not empty. -/
theorem filledText_eq_ok_iff {t result : Text} :
    filledText location (.text t) = .ok result ↔ (t ≠ [] ∧ Json.IsScalar t) ∧ result = t := by
  cases t with
  | nil => simp [filledText, Checked.reject]
  | cons p t =>
    rw [filledText, ← Text.isSome_chars?_iff]
    split <;> simp [*, Checked.reject, eq_comm]
    exact List.cons_ne_nil p t

end Check

/-! ## Definitions -/

namespace TableDefinition

variable {ms : Json.Members} {definition : TableDefinition}

/-- `IsMadeOf ms definition`: the checks of the fields accept the members `ms`, and give the
definition. -/
structure IsMadeOf (ms : Json.Members) (definition : TableDefinition) : Prop where
  tableName : Check.required ms "table_name" Check.filledText = .ok definition.tableName
  bucketName : Check.required ms "bucket_name" Check.filledText = .ok definition.bucketName
  bucketPrefix : Check.field ms "bucket_prefix" (.ok []) Check.text = .ok definition.bucketPrefix
  columns : Check.field ms "columns" (.ok none) (Check.nullable Check.text) = .ok definition.columns
  schemaFile :
    Check.field ms "schema_file" (.ok none) (Check.nullable Check.path) = .ok definition.schemaFile
  mapping :
    Check.field ms "mapping" (.ok none) (Check.nullable (Check.members Check.object)) =
      .ok definition.mapping
  extraColumns :
    Check.field ms "extra_columns" (.ok []) Check.texts = .ok definition.extraColumns
  partitionedBy :
    Check.field ms "partitioned_by" (.ok []) Check.texts = .ok definition.partitionedBy
  tableProperties :
    Check.field ms "table_properties" (.ok defaultProperties) (Check.members Check.text) =
      .ok definition.tableProperties

theorem ofMembers_eq_ok_iff : ofMembers ms = .ok definition ↔ IsMadeOf ms definition := by
  simp only [ofMembers, Checked.of, Checked.ap_eq_ok_iff]
  constructor
  · rintro ⟨_, _, ⟨_, _, ⟨_, _, ⟨_, _, ⟨_, _, ⟨_, _, ⟨_, _, ⟨_, _, ⟨_, _, made, name, rfl⟩,
      bucket, rfl⟩, startsWith, rfl⟩, columns, rfl⟩, file, rfl⟩, mapping, rfl⟩, extra, rfl⟩,
      partitions, rfl⟩, properties, rfl⟩
    cases made
    exact ⟨name, bucket, startsWith, columns, file, mapping, extra, partitions, properties⟩
  · rintro ⟨name, bucket, startsWith, columns, file, mapping, extra, partitions, properties⟩
    exact ⟨_, _, ⟨_, _, ⟨_, _, ⟨_, _, ⟨_, _, ⟨_, _, ⟨_, _, ⟨_, _, ⟨_, _, rfl, name, rfl⟩, bucket,
      rfl⟩, startsWith, rfl⟩, columns, rfl⟩, file, rfl⟩, mapping, rfl⟩, extra, rfl⟩, partitions,
      rfl⟩, properties, rfl⟩

theorem ofJson_object_eq_ok_iff :
    ofJson (.object ms) = .ok definition ↔
      IsMadeOf ms definition ∧ (definition.columns.isNone && definition.schemaFile.isNone) = false
      := by
  simp only [ofJson, mapError_eq_ok_iff, bind_eq_ok_iff, ofMembers_eq_ok_iff, checkSource,
    Checked.reject]
  constructor
  · rintro ⟨made, isMade, source⟩
    split at source
    · cases source
    · rename_i present
      cases source
      exact ⟨isMade, Bool.eq_false_iff.mpr present⟩
  · rintro ⟨isMade, present⟩
    exact ⟨definition, isMade, by rw [present]; rfl⟩

/-- The value that stands for an overlay; null stands for none. -/
def mappingValue (overlay : Option Schema.Overlay) : Json :=
  (overlay.map Json.object).getD .null

/-- A mapping is taken as it is, if the entries of it are objects. -/
theorem nullable_mappingValue_eq_ok_iff {location : List LocationStep}
    {overlay mapping : Option Schema.Overlay} :
    Check.nullable (Check.members Check.object) location (mappingValue overlay) = .ok mapping ↔
      (∀ entries, overlay = some entries → ∀ entry ∈ entries, ∃ inner, entry.2 = .object inner) ∧
        mapping = overlay := by
  cases overlay with
  | none => simp [mappingValue, Check.nullable, eq_comm]
  | some entries =>
    show some <$> Check.members Check.object location (.object entries) = .ok mapping ↔ _
    simp only [map_eq_ok_iff, Check.members_object_eq_ok_iff, Option.some.injEq, forall_eq']
    constructor
    · rintro ⟨_, ⟨objects, rfl⟩, rfl⟩
      exact ⟨objects, rfl⟩
    · rintro ⟨objects, rfl⟩
      exact ⟨entries, ⟨objects, rfl⟩, rfl⟩

/-- The mapping of an accepted definition is the overlay that its value stands for. -/
theorem IsMadeOf.mapping_eq {overlay : Option Schema.Overlay} (made : IsMadeOf ms definition)
    (given : ms.get? "mapping" = some (mappingValue overlay)) : definition.mapping = overlay := by
  have passed := made.mapping
  simp only [Check.field, given] at passed
  exact (nullable_mappingValue_eq_ok_iff.mp passed).2

end TableDefinition

end TableDdl
