import FrameMarkers.Json.Token

namespace FrameMarkers.Json

inductive Enclosing where
  | array (items : List Source)
  | object (members : List (List Char × Source)) (name : List Char)

-- What may come next, with the open arrays and objects around it.
inductive Due where
  | document (inside : List Enclosing)
  | itemOrEnd (inside : List Enclosing)
  | nameOrEnd (inside : List Enclosing)
  | key (members : List (List Char × Source)) (inside : List Enclosing)
  | colon (members : List (List Char × Source)) (name : List Char) (inside : List Enclosing)
  | next (value : Source) (inside : List Enclosing)

namespace Due

def start (inside : List Enclosing) : Token → Option Due
  | .string body => some (.next (.string body) inside)
  | .scalar value => some (.next value inside)
  | .mark c =>
    if c = '[' then some (.itemOrEnd inside)
    else if c = '\x7b' then some (.nameOrEnd inside)
    else none

def follow (value : Source) (c : Char) (inside : List Enclosing) : Enclosing → Option Due
  | .array items =>
    if c = ',' then some (.document (.array (value :: items) :: inside))
    else if c = ']' then some (.next (.array (value :: items).reverse) inside)
    else none
  | .object members name =>
    if c = ',' then some (.key ((name, value) :: members) inside)
    else if c = '\x7d' then some (.next (.object ((name, value) :: members).reverse) inside)
    else none

def step : Due → Token → Option Due
  | .document inside, token => start inside token
  | .itemOrEnd inside, .mark ']' => some (.next (.array []) inside)
  | .itemOrEnd inside, token => start (.array [] :: inside) token
  | .nameOrEnd inside, .mark '\x7d' => some (.next (.object []) inside)
  | .nameOrEnd inside, .string name => some (.colon [] name inside)
  | .key members inside, .string name => some (.colon members name inside)
  | .colon members name inside, .mark ':' => some (.document (.object members name :: inside))
  | .next value (enclosing :: inside), .mark c => follow value c inside enclosing
  | _, _ => none

end Due

def Source.ofTokens (tokens : List Token) : Option Source := do
  match ← tokens.foldlM Due.step (.document []) with
  | .next value [] => some value
  | _ => none

def Source.parse (text : String) : Option Source := do
  ofTokens (← Token.scan text.toList)

def maxDepth : Nat :=
  127

def parseSelected {α : Type} (selection : Selection α) (part : α) (text : String) :
    Option Json := do
  (← Source.parse text).select selection part maxDepth

def parse (text : String) : Option Json :=
  parseSelected .whole () text

end FrameMarkers.Json
