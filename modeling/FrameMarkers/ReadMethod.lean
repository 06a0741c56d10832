import FrameMarkers.Declaration.TypeStyle
import FrameMarkers.Marker.Basic
import FrameMarkers.Text.Literal

namespace FrameMarkers

structure ReadArgument where
  name : String
  type : String
  default : String
deriving DecidableEq, Repr

structure ReadMethod where
  name : String
  defaultPath : Option String
  arguments : List ReadArgument
deriving DecidableEq, Repr

namespace ReadMethod

def parameters (method : ReadMethod) : List String :=
  (if method.defaultPath.isSome then "path: String = defaultPath" else "path: String")
    :: method.arguments.map fun argument =>
      argument.name ++ ": " ++ argument.type ++ " = " ++ argument.default

def passed (method : ReadMethod) : List String :=
  "path" :: method.arguments.map fun argument => argument.name ++ " = " ++ argument.name

def pathDeclaration (method : ReadMethod) (visibility : String) : String :=
  match method.defaultPath with
  | some path =>
    "    " ++ visibility ++ "const val defaultPath: String = \"" ++ Text.literal path ++ "\"\n\n"
  | none => ""

def declaration (method : ReadMethod) (marker : Marker) (visibility : String) : String :=
  let frame := ApiClass.dataFrame.qualifiedName
  visibility ++ "companion object \x7b\n"
    ++ method.pathDeclaration visibility
    ++ "    " ++ visibility ++ "fun " ++ method.name ++ "(" ++ ", ".intercalate method.parameters
    ++ "): " ++ frame ++ "<" ++ marker.shortName ++ "> \x7b\n"
    ++ "        val df = " ++ frame ++ "." ++ method.name ++ "(" ++ ", ".intercalate method.passed
    ++ ")\n"
    ++ "        return df.cast(verify = true)\n"
    ++ "    \x7d\n\x7d"

def imports (method : ReadMethod) : List String :=
  ["import org.jetbrains.kotlinx.dataframe.io." ++ method.name]

end ReadMethod

end FrameMarkers
