namespace FrameMarkers

structure ValueType where
  name : String
  nullable : Bool
deriving DecidableEq, Repr

namespace ValueType

-- A question mark at the end makes it nullable.
def parse (text : String) : ValueType :=
  match text.toList.reverse with
  | '?' :: name => ⟨String.ofList name.reverse, true⟩
  | _ => ⟨text, false⟩

def toNullable (type : ValueType) : ValueType :=
  { type with nullable := true }

def render (type : ValueType) : String :=
  if type.nullable then type.name ++ "?" else type.name

end ValueType

def Above : Option String → String → Prop
  | none, _ => True
  | some low, name => low < name

instance (low : Option String) (name : String) : Decidable (Above low name) :=
  match low with
  | none => isTrue trivial
  | some low => inferInstanceAs (Decidable (low < name))

mutual

inductive Column : Type where
  | value (type : ValueType)
  | group (schema : Columns none) (nullable : Bool)
  -- With nullable elements, every column inside it is nullable.
  | frame (schema : Columns none) (nullable : Bool) (elementsNullable : Bool)

-- All names are above the bound.
inductive Columns : Option String → Type where
  | nil {low : Option String} : Columns low
  | cons {low : Option String} (name : String) (column : Column) (above : Above low name)
      (rest : Columns (some name)) : Columns low

end

abbrev Schema := Columns none

mutual

def Column.decEq : (first second : Column) → Decidable (first = second)
  | .value type, .value type' =>
    if h : type = type' then isTrue (by rw [h]) else isFalse (by simp [h])
  | .group schema nullable, .group schema' nullable' =>
    match Columns.decEq schema schema', decEq nullable nullable' with
    | isTrue h, isTrue h' => isTrue (by rw [h, h'])
    | isFalse h, _ => isFalse (by simp [h])
    | _, isFalse h => isFalse (by simp [h])
  | .frame schema nullable elements, .frame schema' nullable' elements' =>
    match Columns.decEq schema schema', decEq nullable nullable', decEq elements elements' with
    | isTrue h, isTrue h', isTrue h'' => isTrue (by rw [h, h', h''])
    | isFalse h, _, _ => isFalse (by simp [h])
    | _, isFalse h, _ => isFalse (by simp [h])
    | _, _, isFalse h => isFalse (by simp [h])
  | .value _, .group _ _ | .value _, .frame _ _ _ | .group _ _, .value _
  | .group _ _, .frame _ _ _ | .frame _ _ _, .value _ | .frame _ _ _, .group _ _ =>
    isFalse (by simp)

def Columns.decEq {low : Option String} : (first second : Columns low) → Decidable (first = second)
  | .nil, .nil => isTrue rfl
  | .cons name column _ rest, .cons name' column' _ rest' =>
    if h : name = name' then by
      subst h
      exact match Column.decEq column column', Columns.decEq rest rest' with
        | isTrue h, isTrue h' => isTrue (by subst h; subst h'; rfl)
        | isFalse h, _ => isFalse (by simp [h])
        | _, isFalse h => isFalse (by simp [h])
    else isFalse (by simp [h])
  | .nil, .cons .. => isFalse (by simp)
  | .cons .., .nil => isFalse (by simp)

end

instance : DecidableEq Column := Column.decEq

instance (low : Option String) : DecidableEq (Columns low) := Columns.decEq

namespace Columns

variable {low : Option String}

def entries : {low : Option String} → Columns low → List (String × Column)
  | _, .nil => []
  | _, .cons name column _ rest => (name, column) :: rest.entries

def names (columns : Columns low) : List String :=
  columns.entries.map Prod.fst

def size (columns : Columns low) : Nat :=
  columns.entries.length

def isEmpty (columns : Columns low) : Bool :=
  columns.entries.isEmpty

def get? : {low : Option String} → Columns low → String → Option Column
  | _, .nil, _ => none
  | _, .cons name column _ rest, key => if key = name then some column else rest.get? key

def set :
    {low : Option String} → Columns low → (key : String) → Column → Above low key → Columns low
  | _, .nil, key, column, above => .cons key column above .nil
  | _, .cons name old aboveOld rest, key, column, above =>
    if before : key < name then .cons key column above (.cons name old before rest)
    else if after : name < key then .cons name old aboveOld (rest.set key column after)
    else .cons name column aboveOld rest

end Columns

namespace Schema

def empty : Schema :=
  .nil

def insert (schema : Schema) (name : String) (column : Column) : Schema :=
  schema.set name column trivial

-- Of several columns under one name the last counts.
def ofList (columns : List (String × Column)) : Schema :=
  columns.foldl (fun schema entry => insert schema entry.1 entry.2) empty

end Schema

end FrameMarkers
