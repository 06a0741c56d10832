import FrameMarkers.Proofs.Effects
import FrameMarkers.Proofs.Marker.Fields
import FrameMarkers.Proofs.Schema.Nesting
import FrameMarkers.Synthesis.Basic

namespace FrameMarkers

-- The type of a field for the column when its nested schema has the marker of that name.
def Column.typeWith (marker : String) : Column → FieldType
  | .value type => .ofValueType type
  | .group _ nullable => .group marker nullable
  | .frame _ nullable _ => .frame marker nullable

namespace Synthesis

variable (naming : Naming) (proposal : Proposal)

-- The own fields of a marker for the columns.
def ownFields (scope : Scope) : List (String × Column) → NamePool → Synthesis (List Field)
  | [], _ => pure []
  | (name, column) :: rest, used => do
    let type ← resolve naming proposal column
    let (field?, used) ← MonadExcept.ofExcept (naming.declare scope name column type used)
    let fields ← ownFields scope rest used
    pure (field?.toList ++ fields)

-- The types of the columns, resolved one after the other.
def resolveAll : List (String × Column) → Synthesis (List (String × FieldType))
  | [] => pure []
  | (name, column) :: rest => do
    let type ← resolve naming proposal column
    let types ← resolveAll rest
    pure ((name, type) :: types)

theorem resolveLifted_eq (lift : Bool) (column : Column) :
    column.resolveLifted naming proposal lift = resolve naming proposal (column.lifted lift) := by
  cases lift with
  | false => rfl
  | true => cases column <;> simp [resolve, Column.lifted, Column.toNullable, ValueType.toNullable,
      Column.resolveLifted]

theorem ownFieldsLifted_eq (lift : Bool) (scope : Scope) {low : Option String} :
    (columns : Columns low) → (used : NamePool) →
      columns.ownFieldsLifted naming proposal lift scope used =
        ownFields naming proposal scope (columns.lifted lift).entries used
  | .nil, used => by cases lift <;> rfl
  | .cons name column above rest, used => by
      have hrest := ownFieldsLifted_eq lift scope rest
      simp only [Columns.entries_lifted] at hrest ⊢
      simp only [Columns.ownFieldsLifted, Columns.entries, List.map_cons, ownFields,
        resolveLifted_eq, hrest]

theorem process_eq (schema : Schema) :
    process naming proposal schema = obtain proposal schema fun scope =>
      ownFields naming proposal scope schema.entries scope.identifiers := by
  simp only [process, ownFieldsLifted_eq]
  rfl

theorem resolve_of_value {column : Column} (h : column.nested? = none) :
    resolve naming proposal column = pure (column.typeWith "") := by
  cases column with
  | value type => simp [resolve, Column.resolveLifted, Column.typeWith, FieldType.ofValueType]
  | group schema nullable => simp [Column.nested?] at h
  | frame schema nullable elementsNullable => simp [Column.nested?] at h

theorem resolve_of_nested {column : Column} {nested : Schema} (h : column.nested? = some nested) :
    resolve naming proposal column =
      process naming proposal nested >>= fun marker => pure (column.typeWith marker.name) := by
  cases column with
  | value type => simp [Column.nested?] at h
  | group schema nullable =>
      simp only [Column.nested?, Option.some.injEq] at h
      subst h
      simp [resolve, Column.resolveLifted, process, Column.typeWith]
  | frame schema nullable elementsNullable =>
      simp only [Column.nested?, Option.some.injEq] at h
      subst h
      simp only [resolve, Column.resolveLifted, process_eq, ownFieldsLifted_eq, Column.typeWith,
        Bool.false_or]

end Synthesis

end FrameMarkers
