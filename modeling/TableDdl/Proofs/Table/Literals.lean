import TableDdl.Proofs.Outcome
import TableDdl.Proofs.Text.Literal
import TableDdl.Table.Statement

/-!
# The literals of a statement

From its location on, a statement is made of keywords and of texts between single quotation marks:
the location, and the keys and values of the properties. The texts are put between the marks as
they are, so that the literals are read back as these texts exactly if no text holds a mark
(`unmarked_texts_stay_in_literals`). A mark in a text ends its literal, and what stands behind it
may pass for another property (`marked_value_passes_for_property`).
-/

namespace TableDdl.TableDefinition

open Literal

variable {properties : List (Text × Text)} {rest : List Part} {t : Text}

/-! ## The statement from its location on -/

/-- The statement up to its location. -/
def head (definition : TableDefinition) (columns : Text) : Text :=
  "CREATE TABLE IF NOT EXISTS " ++ definition.tableName ++ " (" ++ columns ++ ") " ++
    definition.partitionClause

/-- The statement from its location on. -/
def tail (definition : TableDefinition) : Text :=
  "LOCATION '" ++ definition.location ++ "' TBLPROPERTIES (" ++ definition.propertyList ++ ")"

theorem statement_outcome_eq_head_append_tail (definition : TableDefinition) (fs : FileSystem) :
    (definition.statement fs).outcome =
      (fun columns => definition.head columns ++ definition.tail) <$>
        (definition.columnList fs).outcome := by
  rw [statement, Traced.outcome_bind]
  cases (definition.columnList fs).outcome with
  | error failure => rfl
  | ok columns =>
    simp only [Outcome.ok_bind, Outcome.ok_map, Traced.outcome_pure, head, tail, List.append_assoc]

/-! ## What should be read -/

/-- A text outside of all literals. -/
def outside (t : Text) : List Part :=
  t.map .outside

/-- A property: the literals of its key and of its value, with an equality sign between them. -/
def pairParts (pair : Text × Text) : List Part :=
  [.literal pair.1, .outside '=', .literal pair.2]

/-- Properties, with commas between them. -/
def propertyParts (properties : List (Text × Text)) : List Part :=
  (outside ", ").intercalate (properties.map pairParts)

/-- A location and properties in parentheses. -/
def tailParts (definition : TableDefinition) : List Part :=
  outside "LOCATION " ++ .literal definition.location ::
    (outside " TBLPROPERTIES (" ++ (propertyParts definition.tableProperties ++ outside ")"))

/-- Neither a key nor a value holds a quotation mark. -/
def AreUnmarked (properties : List (Text × Text)) : Prop :=
  ∀ pair ∈ properties, mark ∉ pair.1 ∧ mark ∉ pair.2

instance : Decidable (AreUnmarked properties) :=
  inferInstanceAs (Decidable (∀ pair ∈ properties, _))

/-- No text of a definition that is put between quotation marks holds one. -/
structure IsUnmarked (definition : TableDefinition) : Prop where
  bucketName : mark ∉ definition.bucketName
  bucketPrefix : mark ∉ definition.bucketPrefix
  tableName : mark ∉ definition.tableName
  tableProperties : AreUnmarked definition.tableProperties

theorem propertyParts_singleton (pair : Text × Text) : propertyParts [pair] = pairParts pair :=
  List.intercalate_singleton

theorem propertyParts_cons_cons (pair next : Text × Text) (more : List (Text × Text)) :
    propertyParts (pair :: next :: more) =
      pairParts pair ++ (outside ", " ++ propertyParts (next :: more)) := by
  rw [propertyParts, List.map_cons, List.map_cons, List.intercalate_cons_cons, List.append_assoc]
  rfl

/-! ## The texts between the marks -/

theorem flatMap_bare_outside (t : Text) : (outside t).flatMap Part.bare = t := by
  induction t with
  | nil => rfl
  | cons p t ih => exact congrArg (p :: ·) ih

theorem flatMap_bare_pairParts (pair : Text × Text) :
    (pairParts pair).flatMap Part.bare =
      Text.ofString "'" ++ pair.1 ++ "'='" ++ pair.2 ++ "'" := by
  simp only [pairParts, List.flatMap_cons, List.flatMap_nil, Part.bare, List.append_assoc]
  rfl

/-- The properties of a statement are their parts, with no mark doubled. -/
theorem propertyList_eq (definition : TableDefinition) :
    definition.propertyList = (propertyParts definition.tableProperties).flatMap Part.bare := by
  rw [propertyList, Text.join]
  induction definition.tableProperties with
  | nil => rfl
  | cons pair rest ih =>
    cases rest with
    | nil => rw [propertyParts_singleton, flatMap_bare_pairParts]; exact List.intercalate_singleton
    | cons next more =>
      rw [propertyParts_cons_cons, List.flatMap_append, List.flatMap_append,
        flatMap_bare_pairParts, flatMap_bare_outside, ← ih, List.map_cons, List.map_cons,
        List.intercalate_cons_cons, List.append_assoc]

/-- The end of a statement is its parts, with no mark doubled. -/
theorem tail_eq (definition : TableDefinition) :
    definition.tail = definition.tailParts.flatMap Part.bare := by
  rw [tail, tailParts, propertyList_eq]
  simp only [List.flatMap_append, List.flatMap_cons, flatMap_bare_outside, Part.bare,
    List.append_assoc]
  rfl

theorem filterMap_value_outside (t : Text) : (outside t).filterMap Part.value? = [] := by
  induction t with
  | nil => rfl
  | cons p t ih => exact ih

/-- The values of the literals of some properties are their keys and values, in their order. -/
theorem filterMap_value_propertyParts (properties : List (Text × Text)) :
    (propertyParts properties).filterMap Part.value? =
      properties.flatMap fun pair => [pair.1, pair.2] := by
  induction properties with
  | nil => rfl
  | cons pair rest ih =>
    cases rest with
    | nil => rw [propertyParts_singleton]; rfl
    | cons next more =>
      rw [propertyParts_cons_cons, List.filterMap_append, List.filterMap_append,
        filterMap_value_outside, ih]
      rfl

/-- The values of the literals of a statement. -/
theorem filterMap_value_tailParts (definition : TableDefinition) :
    definition.tailParts.filterMap Part.value? =
      definition.location :: definition.tableProperties.flatMap fun pair => [pair.1, pair.2] := by
  have taken : (Part.literal definition.location).value? = some definition.location := rfl
  rw [tailParts, List.filterMap_append, List.filterMap_cons_some taken, List.filterMap_append,
    List.filterMap_append]
  simp only [filterMap_value_outside, filterMap_value_propertyParts, List.nil_append,
    List.append_nil]

/-- Different properties have different parts. -/
theorem propertyParts_injective : Function.Injective propertyParts := by
  intro properties others same
  have values := congrArg (List.filterMap Part.value?) same
  rw [filterMap_value_propertyParts, filterMap_value_propertyParts] at values
  clear same
  induction properties generalizing others with
  | nil =>
    cases others with
    | nil => rfl
    | cons other more => cases values
  | cons pair rest ih =>
    cases others with
    | nil => cases values
    | cons other more =>
      injection values with key values
      injection values with value values
      rw [Prod.ext key value, ih values]

/-! ## Separate parts -/

theorem areSeparate_outside_append_iff :
    AreSeparate (outside t ++ rest) ↔ mark ∉ t ∧ AreSeparate rest := by
  induction t with
  | nil => exact (and_iff_right List.not_mem_nil).symm
  | cons p t ih =>
    show p ≠ mark ∧ AreSeparate (outside t ++ rest) ↔ _
    rw [ih, List.mem_cons, not_or, and_assoc, ne_comm]

/-- Properties stand apart from what may follow a literal. -/
theorem areSeparate_propertyParts_append (properties : List (Text × Text))
    (follows : ∀ value, AreSeparate (.literal value :: rest)) :
    AreSeparate (propertyParts properties ++ rest) := by
  induction properties with
  | nil => exact (follows []).of_cons
  | cons pair others ih =>
    have equality : CodePoint.scalar '=' ≠ mark := by decide
    cases others with
    | nil =>
      rw [propertyParts_singleton]
      exact ⟨equality, follows pair.2⟩
    | cons next more =>
      have comma : mark ∉ Text.ofString ", " := by decide
      rw [propertyParts_cons_cons, List.append_assoc, List.append_assoc]
      exact ⟨equality, areSeparate_outside_append_iff.mpr ⟨comma, ih⟩⟩

theorem areSeparate_tailParts (definition : TableDefinition) :
    AreSeparate definition.tailParts := by
  have closed (value : Text) : AreSeparate (.literal value :: outside ")") := ⟨by decide, trivial⟩
  have place : mark ∉ Text.ofString "LOCATION " := by decide
  have opened : mark ∉ Text.ofString " TBLPROPERTIES (" := by decide
  have properties := areSeparate_propertyParts_append definition.tableProperties closed
  exact areSeparate_outside_append_iff.mpr
    ⟨place, areSeparate_outside_append_iff.mpr ⟨opened, properties⟩⟩

/-! ## Statements without a mark in their texts -/

theorem areUnmarked_iff :
    AreUnmarked properties ↔
      ∀ value ∈ properties.flatMap fun pair => [pair.1, pair.2], mark ∉ value := by
  have pair (key value : Text) :
      (∀ text ∈ [key, value], mark ∉ text) ↔ mark ∉ key ∧ mark ∉ value := by simp
  simp only [AreUnmarked, List.forall_mem_flatMap, pair]

/-- The properties of a statement are read back exactly if none of them holds a mark. -/
theorem parts?_propertyList_iff (definition : TableDefinition) :
    parts? definition.propertyList = some (propertyParts definition.tableProperties) ↔
      AreUnmarked definition.tableProperties := by
  have separate : AreSeparate (propertyParts definition.tableProperties ++ []) :=
    areSeparate_propertyParts_append _ fun _ => trivial
  rw [List.append_nil] at separate
  rw [propertyList_eq, parts?_bare_iff separate, filterMap_value_propertyParts, areUnmarked_iff]

theorem mark_mem_location_iff (definition : TableDefinition) :
    mark ∈ definition.location ↔ mark ∈ definition.bucketName ∨ mark ∈ definition.bucketPrefix ∨
      mark ∈ definition.tableName := by
  have scheme : mark ∉ Text.ofString "s3://" := by decide
  have slash : mark ∉ Text.ofString "/" := by decide
  simp only [location, List.mem_append, scheme, slash, false_or, or_false, or_assoc]

/-- The end of a statement is read back exactly if no text of it holds a mark. -/
theorem parts?_tail_iff (definition : TableDefinition) :
    parts? definition.tail = some definition.tailParts ↔ definition.IsUnmarked := by
  rw [tail_eq, parts?_bare_iff (areSeparate_tailParts definition), filterMap_value_tailParts,
    List.forall_mem_cons, ← areUnmarked_iff, mark_mem_location_iff, not_or, not_or]
  constructor
  · intro h
    obtain ⟨⟨bucketName, bucketPrefix, tableName⟩, properties⟩ := h
    exact ⟨bucketName, bucketPrefix, tableName, properties⟩
  · intro unmarked
    exact ⟨⟨unmarked.bucketName, unmarked.bucketPrefix, unmarked.tableName⟩,
      unmarked.tableProperties⟩

/-- A statement ends with the literal of its location and with those of the keys and values of its
properties, in their order, exactly if no text between quotation marks holds one. Different
properties without a mark are never written alike. -/
theorem unmarked_texts_stay_in_literals (definition : TableDefinition) :
    (∀ fs, (definition.statement fs).outcome =
      (fun columns => definition.head columns ++ definition.tail) <$>
        (definition.columnList fs).outcome) ∧
      (parts? definition.tail = some definition.tailParts ↔ definition.IsUnmarked) ∧
      ∀ other : TableDefinition, AreUnmarked definition.tableProperties →
        AreUnmarked other.tableProperties → definition.tableProperties ≠ other.tableProperties →
          definition.propertyList ≠ other.propertyList := by
  refine ⟨statement_outcome_eq_head_append_tail definition, parts?_tail_iff definition, ?_⟩
  intro other unmarked otherUnmarked differ same
  have read := (parts?_propertyList_iff definition).mpr unmarked
  have otherRead := (parts?_propertyList_iff other).mpr otherUnmarked
  rw [same, otherRead] at read
  exact differ (propertyParts_injective (Option.some.inj read)).symm

/-- The members of a table with one column and some properties. -/
def tableWith (properties : List (Text × Text)) : Json.Members :=
  [("table_name", .text "t"), ("bucket_name", .text "b"), ("columns", .text "id string"),
    ("table_properties", .object (properties.map fun (key, value) => (key, .text value)))]

/-- The definition of a table with one column and some properties. -/
def definitionWith (properties : List (Text × Text)) : TableDefinition where
  tableName := "t"
  bucketName := "b"
  bucketPrefix := []
  columns := some "id string"
  schemaFile := none
  mapping := none
  extraColumns := []
  partitionedBy := []
  tableProperties := properties

/-- A value with a comma and an equality sign in it does not pass for another property. -/
theorem unmarked_value_stays_in_literal :
    ofJson (.object (tableWith [("a", "b, c=d")])) = .ok (definitionWith [("a", "b, c=d")]) ∧
      ofJson (.object (tableWith [("a", "b"), ("c", "d")])) =
        .ok (definitionWith [("a", "b"), ("c", "d")]) ∧
      parts? (definitionWith [("a", "b, c=d")]).tail =
        some (definitionWith [("a", "b, c=d")]).tailParts ∧
      (definitionWith [("a", "b, c=d")]).propertyList ≠
        (definitionWith [("a", "b"), ("c", "d")]).propertyList := by
  obtain ⟨-, reads, differ⟩ := unmarked_texts_stay_in_literals (definitionWith [("a", "b, c=d")])
  have unmarked : (definitionWith [("a", "b, c=d")]).IsUnmarked :=
    ⟨by decide, by decide, by decide, by decide⟩
  exact ⟨rfl, rfl, reads.mpr unmarked,
    differ (definitionWith [("a", "b"), ("c", "d")]) unmarked.tableProperties (by decide)
      (by decide)⟩

/-- A value with marks in it passes for another property: two accepted definitions with different
properties have one statement, and it is not read back as the first of them. -/
theorem marked_value_passes_for_property :
    ofJson (.object (tableWith [("a", "b', 'c'='d")])) =
        .ok (definitionWith [("a", "b', 'c'='d")]) ∧
      ofJson (.object (tableWith [("a", "b"), ("c", "d")])) =
        .ok (definitionWith [("a", "b"), ("c", "d")]) ∧
      (definitionWith [("a", "b', 'c'='d")]).tableProperties ≠
        (definitionWith [("a", "b"), ("c", "d")]).tableProperties ∧
      (definitionWith [("a", "b', 'c'='d")]).propertyList =
        (definitionWith [("a", "b"), ("c", "d")]).propertyList ∧
      ((definitionWith [("a", "b', 'c'='d")]).statement ⟨[], []⟩).outcome =
        ((definitionWith [("a", "b"), ("c", "d")]).statement ⟨[], []⟩).outcome ∧
      parts? (definitionWith [("a", "b', 'c'='d")]).tail ≠
        some (definitionWith [("a", "b', 'c'='d")]).tailParts :=
  ⟨rfl, rfl, by decide, rfl, rfl, by decide⟩

end TableDdl.TableDefinition
