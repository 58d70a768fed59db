import TableDdl.Schema.Fault

/-!
# Overlays

An overlay replaces columns. It is an object whose keys are column names; the entry of a column is
an object with one member, whose key is the new name and whose value is the new definition.
-/

namespace TableDdl.Schema

/-- An overlay: the entries of some columns. -/
abbrev Overlay := Json.Members

namespace Overlay

/-- The new name and the new definition in an entry. -/
def entryOf : Json → Except Fault (Text × Json)
  | .object [(name, .object definition)] => .ok (name, .object definition)
  | .object [_] => .error .overlayDefinition
  | _ => .error .overlayEntry

/-- The replacement of a column, if there is one. -/
def replacement? (overlay : Option Overlay) (key : Text) : Except Fault (Option (Text × Json)) :=
  match overlay.bind (·.get? key) with
  | none => .ok none
  | some entry => some <$> entryOf entry

/-- The replacement of a column, if there is one; a faulty entry is reported under the column's
name. -/
def resolve (overlay : Option Overlay) (key : Text) :
    Except SchemaError (Option (Text × Json)) :=
  (replacement? overlay key).mapError (⟨·, some key⟩)

/-- Checks the entries of some columns in order. -/
def check (overlay : Overlay) : List Text → Except SchemaError Unit
  | [] => .ok ()
  | key :: rest =>
    match resolve (some overlay) key with
    | .error e => .error e
    | .ok _ => check overlay rest

/-- Takes a value as an overlay. Null is none; in an object every entry is checked. -/
def ofJson : Json → Except SchemaError (Option Overlay)
  | .null => .ok none
  | .object members => (fun _ => some members) <$> check members (Json.Members.keys members)
  | _ => .error ⟨.overlayNotObject, none⟩

end Overlay

end TableDdl.Schema
