import FrameMarkers.Text.CodeTable

namespace FrameMarkers

structure Code where
  declarations : String
  -- The markers that an expression is cast to; without any it is left as it is.
  castTo : List String
deriving DecidableEq, Repr

namespace Code

def empty : Code :=
  ⟨"", []⟩

def cast (code : Code) (expression : String) : String :=
  if code.castTo.isEmpty then expression
  else expression ++ ".cast<" ++ ", ".intercalate code.castTo ++ ">()"

def hasDeclarations (code : Code) : Bool :=
  !Text.isBlank code.declarations.toList

def hasCast (code : Code) : Bool :=
  !code.castTo.isEmpty

def withCast (code : Code) (expression : String) : String :=
  if code.hasCast then
    if code.hasDeclarations then code.declarations ++ "\n" ++ code.cast expression
    else code.cast expression
  else code.declarations

def standardImports : List String := [
  "import org.jetbrains.kotlinx.dataframe.ColumnsContainer",
  "import org.jetbrains.kotlinx.dataframe.DataColumn",
  "import org.jetbrains.kotlinx.dataframe.DataFrame",
  "import org.jetbrains.kotlinx.dataframe.DataRow",
  "import org.jetbrains.kotlinx.dataframe.columns.ColumnGroup",
  "import org.jetbrains.kotlinx.dataframe.annotations.ColumnName",
  "import org.jetbrains.kotlinx.dataframe.annotations.DataSchema",
  "import org.jetbrains.kotlinx.dataframe.api.cast"]

def file (code : Code) (package : String) (imports : List String) : String :=
  (if package.isEmpty then "" else "package " ++ package ++ "\n\n")
    ++ String.join ((standardImports ++ imports).map (· ++ "\n"))
    ++ "\n" ++ code.declarations ++ "\n"

end Code

end FrameMarkers
