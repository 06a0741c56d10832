import FrameMarkers.Field.Basic

namespace FrameMarkers

inductive ApiClass where
  | columnsContainer
  | dataColumn
  | dataFrame
  | dataRow
  | columnGroup
deriving DecidableEq, Repr

namespace ApiClass

def simpleName : ApiClass → String
  | .columnsContainer => "ColumnsContainer"
  | .dataColumn => "DataColumn"
  | .dataFrame => "DataFrame"
  | .dataRow => "DataRow"
  | .columnGroup => "ColumnGroup"

def qualifiedName : ApiClass → String
  | .columnsContainer => "org.jetbrains.kotlinx.dataframe.ColumnsContainer"
  | .dataColumn => "org.jetbrains.kotlinx.dataframe.DataColumn"
  | .dataFrame => "org.jetbrains.kotlinx.dataframe.DataFrame"
  | .dataRow => "org.jetbrains.kotlinx.dataframe.DataRow"
  | .columnGroup => "org.jetbrains.kotlinx.dataframe.columns.ColumnGroup"

end ApiClass

inductive TypeStyle where
  | qualified
  | short
deriving DecidableEq, Repr

namespace TypeStyle

def words : List (String × TypeStyle) := [
  ("fq", .qualified), ("short", .short)]

def visiblePackage : String :=
  "kotlin."

def shorten (name : String) : String :=
  if visiblePackage.toList.isPrefixOf name.toList then
    let rest := name.toList.drop visiblePackage.length
    if rest.isEmpty || rest.contains '.' then name else String.ofList rest
  else name

def className : TypeStyle → ApiClass → String
  | .qualified => ApiClass.qualifiedName
  | .short => ApiClass.simpleName

def typeName : TypeStyle → String → String
  | .qualified, name => name
  | .short, name => shorten name

def applied (style : TypeStyle) (cls : ApiClass) (argument : String) : String :=
  style.className cls ++ "<" ++ argument ++ ">"

def mark (nullable : Bool) : String :=
  if nullable then "?" else ""

def containerType (style : TypeStyle) (marker : String) : String :=
  style.applied .columnsContainer (style.typeName marker)

def rowType (style : TypeStyle) (marker : String) : String :=
  style.applied .dataRow (style.typeName marker)

def columnType (style : TypeStyle) : FieldType → String
  | .value name nullable => style.applied .dataColumn (style.typeName name ++ mark nullable)
  | .group marker _ => style.applied .columnGroup marker
  | .frame marker nullable =>
    style.applied .dataColumn (style.applied .dataFrame marker ++ mark nullable)

def fieldType (style : TypeStyle) : FieldType → String
  | .value name nullable => style.typeName name ++ mark nullable
  | .group marker _ => style.applied .dataRow marker
  | .frame marker nullable => style.applied .dataFrame marker ++ mark nullable

def nullableColumnType (style : TypeStyle) (type : FieldType) : String :=
  match type with
  | .group marker _ =>
    if type.isWildcard then style.columnType type else style.applied .columnGroup (marker ++ "?")
  | _ => style.columnType type.toNullable

def nullableFieldType (style : TypeStyle) (type : FieldType) : String :=
  match type with
  | .group marker _ =>
    if type.isWildcard then style.fieldType type else style.applied .dataRow (marker ++ "?")
  | _ => style.fieldType type.toNullable

end TypeStyle

end FrameMarkers
