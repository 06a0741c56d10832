import FrameMarkers.Code
import FrameMarkers.Declaration.Accessor
import FrameMarkers.Declaration.Interface

namespace FrameMarkers

structure Style where
  types : TypeStyle
  nullableAccessors : Bool
deriving DecidableEq, Repr

namespace Marker

def accessorsIf (style : Style) (wanted : Bool) (marker : Marker) (table : BindingTable) :
    Except Error (String × BindingTable) :=
  if wanted then marker.renderAccessors style.types style.nullableAccessors table
  else .ok ("", table)

def interfaceAndAccessors (style : Style) (withFields : Bool) (accessors : Bool)
    (method? : Option ReadMethod) (marker : Marker) (table : BindingTable) :
    Except Error (String × BindingTable) := do
  let interface := marker.interface style.types withFields method?
  let (accessors, table) ← marker.accessorsIf style accessors table
  pure (if accessors.isEmpty then interface else interface ++ "\n" ++ accessors, table)

def render (style : Style) (mode : Mode) (accessors : Bool) (method? : Option ReadMethod)
    (marker : Marker) (table : BindingTable) : Except Error (String × BindingTable) :=
  match mode with
  | .noFields => marker.interfaceAndAccessors style false accessors method? table
  | .withFields => marker.interfaceAndAccessors style true accessors method? table
  | .enumeration => .ok (marker.enumeration, table)
  | .typeAlias => marker.typeAlias.map fun text => (text, table)
  | .none => marker.accessorsIf style accessors table

def declare (style : Style) (mode : Mode) (accessors : Bool) (method? : Option ReadMethod)
    (marker : Marker) : Except Error Code := do
  let (text, _) ← marker.render style mode accessors method? .empty
  pure ⟨text, [marker.name]⟩

def renderEach (style : Style) (mode : Mode) (accessors : Bool) :
    List Marker → BindingTable → Except Error (List String)
  | [], _ => .ok []
  | marker :: rest, table => do
    let (text, table) ← marker.render style mode accessors none table
    let texts ← renderEach style mode accessors rest table
    pure (text :: texts)

def declareAll (style : Style) (mode : Mode) (accessors : Bool) (markers : List Marker) :
    Except Error String := do
  let texts ← renderEach style mode accessors markers .empty
  pure ("\n".intercalate (texts.filter (!·.isEmpty)))

end Marker

end FrameMarkers
