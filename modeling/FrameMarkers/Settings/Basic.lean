import FrameMarkers.Generation

namespace FrameMarkers

structure Settings where
  rootName : Option String := none
  isOpen : Option Bool := none
  visibility : Option Visibility := none
  mode : Option Mode := none
  accessors : Option Bool := none
  nullableAccessors : Option Bool := none
  types : Option TypeStyle := none
  delimiters : Option String := none
  onConflict : Option OnConflict := none
  package : Option String := none
  imports : Option (List String) := none
  readMethod : Option String := none
  defaultPath : Option String := none
deriving DecidableEq, Repr

namespace Settings

def withFallback (upper lower : Settings) : Settings where
  rootName := upper.rootName <|> lower.rootName
  isOpen := upper.isOpen <|> lower.isOpen
  visibility := upper.visibility <|> lower.visibility
  mode := upper.mode <|> lower.mode
  accessors := upper.accessors <|> lower.accessors
  nullableAccessors := upper.nullableAccessors <|> lower.nullableAccessors
  types := upper.types <|> lower.types
  delimiters := upper.delimiters <|> lower.delimiters
  onConflict := upper.onConflict <|> lower.onConflict
  package := upper.package <|> lower.package
  imports := upper.imports <|> lower.imports
  readMethod := upper.readMethod <|> lower.readMethod
  defaultPath := upper.defaultPath <|> lower.defaultPath

def normalizer (settings : Settings) : Normalizer :=
  match settings.delimiters with
  | some delimiters => .ofDelimiters delimiters.toList
  | none => .asWritten

-- A default path counts only together with a reader.
def readMethod? (settings : Settings) : Option ReadMethod :=
  settings.readMethod.map fun reader => ⟨reader, settings.defaultPath, []⟩

def options (settings : Settings) (known : List Marker) : GenerationOptions :=
  let builtIn : GenerationOptions := {}
  { rootName := settings.rootName.getD builtIn.rootName
    known
    normalize := settings.normalizer
    isOpen := settings.isOpen.getD builtIn.isOpen
    visibility := settings.visibility.getD builtIn.visibility
    mode := settings.mode.getD builtIn.mode
    accessors := settings.accessors.getD builtIn.accessors
    readMethod := settings.readMethod?
    types := settings.types.getD builtIn.types
    onConflict := settings.onConflict.getD builtIn.onConflict
    nullableAccessors := settings.nullableAccessors.getD builtIn.nullableAccessors }

def file (settings : Settings) (code : Code) : String :=
  let imports := settings.imports.getD []
    ++ (settings.readMethod?.map ReadMethod.imports).getD []
  code.file (settings.package.getD "") imports

end Settings

end FrameMarkers
