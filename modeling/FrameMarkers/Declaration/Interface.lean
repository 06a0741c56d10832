import FrameMarkers.Declaration.TypeStyle
import FrameMarkers.Error
import FrameMarkers.ReadMethod

namespace FrameMarkers

namespace Text

-- A text that ends with a line feed has no empty line after it.
def lines : List Char → List (List Char)
  | [] => []
  | '\n' :: rest => [] :: lines rest
  | '\r' :: '\n' :: rest => [] :: lines rest
  | c :: rest =>
    match lines rest with
    | [] => [[c]]
    | line :: others => (c :: line) :: others

-- A line without content stays empty.
def indent (margin : List Char) (text : List Char) : List Char :=
  ['\n'].intercalate ((lines text).map fun line => if line.isEmpty then [] else margin ++ line)

end Text

namespace Field

def property (style : TypeStyle) (visibility : String) (field : Field) : String :=
  let identifier := field.identifier.declared
  (if field.column != identifier then
    "    @ColumnName(\"" ++ Text.literal field.column ++ "\")\n" else "")
    ++ "    " ++ visibility ++ (if field.overrides then "override " else "") ++ "val " ++ identifier
    ++ ": " ++ style.fieldType field.type

end Field

namespace Marker

def interfaceHeader (marker : Marker) : String :=
  "@DataSchema" ++ (if marker.isOpen then "" else "(isOpen = false)") ++ "\n"
    ++ marker.visibility.topLevel ++ "interface " ++ marker.name
    ++ if marker.supers.isEmpty then "" else " : " ++ ", ".intercalate (marker.supers.map (·.name))

def interfaceMembers (style : TypeStyle) (withFields : Bool) (method? : Option ReadMethod)
    (marker : Marker) : List String :=
  (if withFields then marker.ownFields.map (Field.property style marker.visibility.member) else [])
    ++ (method?.map fun method =>
      String.ofList (Text.indent "    ".toList
        (method.declaration marker marker.visibility.member).toList)).toList

def interface (style : TypeStyle) (withFields : Bool) (method? : Option ReadMethod)
    (marker : Marker) : String :=
  let members := marker.interfaceMembers style withFields method?
  marker.interfaceHeader
    ++ if members.isEmpty then "" else " \x7b\n" ++ "\n".intercalate members ++ "\n\x7d"

def enumeration (marker : Marker) : String :=
  marker.visibility.topLevel ++ "enum class " ++ marker.name
    ++ if marker.fields.isEmpty then ""
      else
        " \x7b\n"
          ++ ",\n".intercalate (marker.fields.map fun field => "    " ++ field.identifier.declared)
          ++ ";\n\x7d"

def typeAlias (marker : Marker) : Except Error String :=
  match marker.supers with
  | [target] =>
    .ok (marker.visibility.topLevel ++ "typealias " ++ marker.name ++ " = " ++ target.name)
  | supers => .error (.aliasTarget marker.name supers.length)

end Marker

end FrameMarkers
