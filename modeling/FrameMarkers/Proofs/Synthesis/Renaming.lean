import FrameMarkers.Proofs.Marker.Renaming
import FrameMarkers.Proofs.Synthesis.Growth

namespace FrameMarkers

open List (Forall₂)

namespace NamePool

variable {first second name name' : String}

-- The names have the same number behind the proposed ones.
def Numbered (first second name name' : String) : Prop :=
  ∃ number, name = numbered first number ∧ name' = numbered second number

-- The names are the proposed ones, or have the same number behind them.
def Renames (first second name name' : String) : Prop :=
  name = first ∧ name' = second ∨ Numbered first second name name'

theorem numbered_ne (proposed : String) (number : Nat) : numbered proposed number ≠ proposed := by
  intro h
  have hl := congrArg String.toList h
  simp [numbered, Nat.toDigits_ne_nil] at hl

theorem numbered_ne_wildcard (proposed : String) (number : Nat) :
    numbered proposed number ≠ FieldType.wildcard := by
  intro h
  have hl : proposed.toList ++ Nat.toDigits 10 number = ['*'] := by
    simpa [numbered, FieldType.wildcard] using congrArg String.toList h
  rcases List.append_eq_singleton_iff.mp hl with ⟨-, hd⟩ | ⟨-, hd⟩
  · have hdigit := Nat.isDigit_of_mem_toDigits (b := 10) (n := number) (c := '*') (by decide)
      (by decide) (by simp [hd])
    contradiction
  · exact Nat.toDigits_ne_nil hd

theorem Renames.symm (h : Renames first second name name') : Renames second first name' name :=
  h.imp And.symm fun ⟨number, hn, hn'⟩ => ⟨number, hn', hn⟩

theorem Renames.right_unique {other : String} (h : Renames first second name name')
    (h' : Renames first second name other) : name' = other := by
  rcases h with ⟨rfl, rfl⟩ | ⟨number, rfl, rfl⟩ <;> rcases h' with ⟨he, rfl⟩ | ⟨other, he, rfl⟩
  · rfl
  · exact absurd he.symm (numbered_ne _ _)
  · exact absurd he (numbered_ne _ _)
  · rw [numbered_injective _ he]

theorem renames_unique (first second : String) : Relator.BiUnique (Renames first second) :=
  ⟨fun _ _ _ h h' => h.symm.right_unique h'.symm, fun _ _ _ h h' => h.right_unique h'⟩

theorem consistent_numbered (first second : String) : Consistent (Numbered first second) where
  unique := ⟨fun _ _ _ h h' => (renames_unique first second).1 (.inr h) (.inr h'),
    fun _ _ _ h h' => (renames_unique first second).2 (.inr h) (.inr h')⟩
  wildcard := by
    rintro _ _ ⟨number, rfl, rfl⟩
    exact iff_of_false (numbered_ne_wildcard _ _) (numbered_ne_wildcard _ _)

-- The pools have the same numbers in use, and the proposed names.
structure Renamed (first second : String) (pool pool' : NamePool) : Prop where
  used : Forall₂ (Renames first second) pool.used pool'.used
  taken : first ∈ pool.used

namespace Renamed

variable {pool pool' : NamePool}

theorem contains_eq (h : pool.Renamed first second pool') (hn : Renames first second name name') :
    pool.contains name = pool'.contains name' := by
  rw [contains, contains, Bool.eq_iff_iff, List.contains_iff_mem, List.contains_iff_mem]
  exact List.rel_mem (renames_unique first second) hn h.used

theorem fresh (h : pool.Renamed first second pool') :
    Numbered first second (pool.fresh first) (pool'.fresh second) := by
  have htaken : pool.contains first := List.contains_iff_mem.mpr h.taken
  have htaken' : pool'.contains second := h.contains_eq (.inl ⟨rfl, rfl⟩) ▸ htaken
  have hfree : (fun number => !pool.contains (numbered first number)) =
      fun number => !pool'.contains (numbered second number) := by
    funext number
    rw [h.contains_eq (.inr ⟨number, rfl, rfl⟩)]
  rw [NamePool.fresh, NamePool.fresh, if_pos htaken, if_pos htaken', firstFree, firstFree, hfree,
    h.used.length_eq]
  exact ⟨_, rfl, rfl⟩

theorem allocate (h : pool.Renamed first second pool') :
    (pool.allocate first).2.Renamed first second (pool'.allocate second).2 := by
  have hfree : ¬pool.contains (pool.fresh first) := by simp [fresh_free]
  have hfree' : ¬pool'.contains (pool'.fresh second) := by simp [fresh_free]
  simp only [NamePool.allocate, insert, if_neg hfree, if_neg hfree']
  exact ⟨.cons (.inr h.fresh) h.used, List.mem_cons_of_mem _ h.taken⟩

end Renamed

end NamePool

open NamePool

variable {first second : String}

-- The markers and choices correspond, and so do the names in use.
structure Registry.Renamed (first second : String) (registry registry' : Registry) : Prop where
  markers : Forall₂ (Marker.Renamed (Numbered first second)) registry.markers registry'.markers
  generated : Forall₂ (Marker.Renamed (Numbered first second)) registry.generated
    registry'.generated
  chosen : ∀ schema, Option.Rel (Marker.Renamed (Numbered first second))
    (registry.choice? schema) (registry'.choice? schema)
  names : registry.names.Renamed first second registry'.names

namespace Registry.Renamed

variable {registry registry' : Registry} {marker marker' : Marker}

theorem allocate (h : registry.Renamed first second registry') :
    (registry.allocate first).2.Renamed first second (registry'.allocate second).2 :=
  ⟨h.markers, h.generated, h.chosen, h.names.allocate⟩

theorem choose (h : registry.Renamed first second registry')
    (hm : marker.Renamed (Numbered first second) marker') (schema : Schema) :
    (registry.choose schema marker).Renamed first second (registry'.choose schema marker') := by
  refine ⟨h.markers, h.generated, fun other => ?_, h.names⟩
  rw [choice?_choose, choice?_choose]
  split
  · exact .some hm
  · exact h.chosen other

theorem register (h : registry.Renamed first second registry')
    (hm : marker.Renamed (Numbered first second) marker') :
    (registry.register marker).Renamed first second (registry'.register marker') :=
  ⟨List.rel_append h.markers (.cons hm .nil), List.rel_append h.generated (.cons hm .nil),
    h.chosen, h.names⟩

theorem required (h : registry.Renamed first second registry') (schema : Schema) :
    Forall₂ (Marker.Renamed (Numbered first second)) (registry.required schema)
      (registry'.required schema) := by
  have hfilter := filter_forall₂ h.markers
    (p := fun marker => marker.isOpen && marker.accepts schema)
    (q := fun marker => marker.isOpen && marker.accepts schema) fun _ _ hm => by
      rw [hm.isOpen, hm.accepts_eq (consistent_numbered first second)]
  exact mergeSort_forall₂ hfilter fun _ _ _ _ hm hm' => by
    rw [hm.fields.length_eq, hm'.fields.length_eq]

theorem reusable? (h : registry.Renamed first second registry') (schema : Schema) (isOpen : Bool) :
    Option.Rel (Marker.Renamed (Numbered first second))
      (registry.reusable? schema (registry.required schema) isOpen)
      (registry'.reusable? schema (registry'.required schema) isOpen) := by
  refine find?_forall₂ h.markers fun marker marker' hm => ?_
  have himplements := all_eq_of_forall₂ (h.required schema) fun _ _ hr =>
    hm.implements_eq (consistent_numbered first second) hr
  rw [hm.isOpen, hm.schema_eq, himplements]

end Registry.Renamed

namespace Naming

variable {rename : String → String → Prop} {scope scope' : Scope}

theorem identify_corresponds (naming : Naming) (scope scope' : Scope) (column : String)
    (used : NamePool) :
    Corresponds Eq (naming.identify scope column used) (naming.identify scope' column used) := by
  by_cases hblank : Text.isBlank (naming.source column).toList
  · simp only [identify, hblank, if_true]
    exact .error
  · by_cases hused : used.contains (Identifier.ofName (naming.source column)).text
    · simp only [identify, hblank, hused, if_true, if_false, Bool.false_eq_true]
      cases naming.onConflict with
      | suffix => exact .ok rfl
      | fail => exact .error
    · simp only [identify, hblank, hused, if_false, Bool.false_eq_true]
      exact .ok rfl

-- A field that stands for an inherited one has the identifier of that one, any other has one of its
-- own, which is made from the column.
theorem declare_corresponds (naming : Naming) (consistent : Consistent rename)
    (hi : Forall₂ (Field.Renamed rename) scope.inherited scope'.inherited) {type type' : FieldType}
    (ht : type.Renamed rename type') (column : String) (shape : Column) (used : NamePool) :
    Corresponds
      (fun declared declared' => Option.Rel (Field.Renamed rename) declared.1 declared'.1 ∧
        declared.2 = declared'.2)
      (naming.declare scope column shape type used)
      (naming.declare scope' column shape type' used) := by
  have hinherited : Option.Rel (Field.Renamed rename) (scope.inherited? column)
      (scope'.inherited? column) := find?_forall₂ hi fun _ _ hf => by rw [hf.column]
  unfold declare
  generalize scope.inherited? column = inherited at hinherited ⊢
  generalize scope'.inherited? column = inherited' at hinherited ⊢
  cases hinherited with
  | @some field field' hf =>
      have heq := hf.type.eq_iff consistent ht
      dsimp only
      by_cases he : field.type = type
      · rw [if_pos he, if_pos (heq.mp he)]
        exact .ok ⟨.none, rfl⟩
      · rw [if_neg he, if_neg (mt heq.mpr he)]
        exact .ok ⟨.some ⟨hf.identifier, rfl, ht, rfl, rfl⟩, rfl⟩
  | none =>
      have hidentify := naming.identify_corresponds scope scope' column used
      generalize naming.identify scope column used = result at hidentify ⊢
      generalize naming.identify scope' column used = result' at hidentify ⊢
      cases hidentify with
      | error => exact .error
      | ok he =>
          cases he
          exact .ok ⟨.some ⟨rfl, rfl, ht, rfl, rfl⟩, rfl⟩

end Naming

theorem Column.typeWith_renamed {rename : String → String → Prop} {name name' : String}
    (h : rename name name') (column : Column) :
    (column.typeWith name).Renamed rename (column.typeWith name') := by
  cases column with
  | value type => exact .value _ _
  | group schema nullable => exact .group h nullable
  | frame schema nullable elementsNullable => exact .frame h nullable

namespace Synthesis

variable {naming : Naming} {isOpen : Bool} {visibility : Visibility}

-- Both runs succeed, with corresponding results and registries, or both fail.
inductive Follows {α β : Type} (first second : String) (r : α → β → Prop) :
    Except Error α × Registry → Except Error β × Registry → Prop
  | ok {result : α} {result' : β} {registry registry' : Registry} (results : r result result')
      (registries : registry.Renamed first second registry') :
      Follows first second r (.ok result, registry) (.ok result', registry')
  | error {error error' : Error} {registry registry' : Registry} :
      Follows first second r (.error error, registry) (.error error', registry')

-- The runs for the schema correspond on all registries that do.
def Alike (naming : Naming) (isOpen : Bool) (visibility : Visibility) (first second : String)
    (schema : Schema) : Prop :=
  ∀ registry registry' : Registry, registry.Renamed first second registry' →
    Follows first second (Marker.Renamed (Numbered first second))
      ((process naming ⟨first, isOpen, visibility⟩ schema).run registry)
      ((process naming ⟨second, isOpen, visibility⟩ schema).run registry')

variable {registry registry' : Registry}

theorem resolve_follows {column : Column}
    (h : ∀ nested, column.nested? = some nested →
      Alike naming isOpen visibility first second nested)
    (registries : registry.Renamed first second registry') :
    Follows first second (FieldType.Renamed (Numbered first second))
      ((resolve naming ⟨first, isOpen, visibility⟩ column).run registry)
      ((resolve naming ⟨second, isOpen, visibility⟩ column).run registry') := by
  cases hn : column.nested? with
  | none =>
      rw [run_resolve_of_value hn, run_resolve_of_value hn]
      refine .ok ?_ registries
      cases column with
      | value type => exact .value _ _
      | group | frame => simp [Column.nested?] at hn
  | some nested =>
      have hprocess := h nested hn registry registry' registries
      rw [run_resolve_of_nested hn, run_resolve_of_nested hn]
      generalize (process naming _ nested).run registry = outcome at hprocess ⊢
      generalize (process naming _ nested).run registry' = outcome' at hprocess ⊢
      cases hprocess with
      | error => exact .error
      | ok hmarker hregistries => exact .ok (column.typeWith_renamed hmarker.name) hregistries

theorem ownFields_follows {scope scope' : Scope} {columns : List (String × Column)}
    (h : ∀ name column nested, (name, column) ∈ columns → column.nested? = some nested →
      Alike naming isOpen visibility first second nested)
    (hi : Forall₂ (Field.Renamed (Numbered first second)) scope.inherited scope'.inherited)
    (used : NamePool) (registries : registry.Renamed first second registry') :
    Follows first second (Forall₂ (Field.Renamed (Numbered first second)))
      ((ownFields naming ⟨first, isOpen, visibility⟩ scope columns used).run registry)
      ((ownFields naming ⟨second, isOpen, visibility⟩ scope' columns used).run registry') := by
  induction columns generalizing used registry registry' with
  | nil => exact .ok .nil registries
  | cons entry rest ih =>
      obtain ⟨name, column⟩ := entry
      have hresolve := resolve_follows (h name column · List.mem_cons_self) registries
      have hrest := fun registry registry' => @ih registry registry' fun name column nested hm =>
        h name column nested (List.mem_cons_of_mem _ hm)
      rw [run_ownFields_cons, run_ownFields_cons]
      generalize (resolve naming _ column).run registry = outcome at hresolve ⊢
      generalize (resolve naming _ column).run registry' = outcome' at hresolve ⊢
      cases hresolve with
      | error => exact .error
      | @ok type type' later later' htype hlater =>
          have hdeclare := naming.declare_corresponds (consistent_numbered first second) hi htype
            name column used
          dsimp only
          generalize naming.declare scope name column type used = result at hdeclare ⊢
          generalize naming.declare scope' name column type' used = result' at hdeclare ⊢
          cases hdeclare with
          | error => exact .error
          | @ok declared declared' hdeclared =>
              obtain ⟨field?, used⟩ := declared
              obtain ⟨field?', used'⟩ := declared'
              obtain ⟨hfield, rfl⟩ := hdeclared
              have hothers := hrest later later' used hlater
              dsimp only
              generalize (ownFields naming _ scope rest used).run later = outcome at hothers ⊢
              generalize (ownFields naming _ scope' rest used).run later' = outcome' at hothers ⊢
              cases hothers with
              | error => exact .error
              | ok hfields hafter =>
                  refine .ok ?_ hafter
                  cases hfield with
                  | none => exact hfields
                  | some hf => exact .cons hf hfields

-- The fields of a new marker depend on what is required for the schema. Its name is taken when they
-- are computed.
theorem runFields_follows {schema : Schema}
    (h : ∀ nested, schema.Nests nested → Alike naming isOpen visibility first second nested)
    (hr : Forall₂ (Marker.Renamed (Numbered first second)) (registry.required schema)
      (registry'.required schema))
    (registries : (registry.allocate first).2.Renamed first second (registry'.allocate second).2) :
    Follows first second (Forall₂ (Field.Renamed (Numbered first second)))
      (runFields naming ⟨first, isOpen, visibility⟩ schema registry)
      (runFields naming ⟨second, isOpen, visibility⟩ schema registry') := by
  have hsupers := Marker.Renamed.leaves (consistent_numbered first second) hr
  have hinherited : Forall₂ (Field.Renamed (Numbered first second))
      (newScope ⟨first, isOpen, visibility⟩ schema registry).inherited
      (newScope ⟨second, isOpen, visibility⟩ schema registry').inherited :=
    distinctBy_forall₂ (Marker.Renamed.inheritedFields hsupers) fun _ _ hf => hf.column
  have hidentifiers : (newScope ⟨first, isOpen, visibility⟩ schema registry).identifiers =
      (newScope ⟨second, isOpen, visibility⟩ schema registry').identifiers :=
    congrArg NamePool.ofList (map_eq_of_forall₂ hinherited fun _ _ hf => hf.key_eq)
  unfold runFields
  rw [hidentifiers]
  exact ownFields_follows (fun name column nested hm hn => h nested ⟨name, column, hm, hn⟩)
    hinherited _ registries

-- When the fields are known, the marker is made and chosen for the schema, or refused.
theorem make_follows {name name' : String} {own own' : List Field} {supers supers' : List Marker}
    (h : Marker.Renamed (Numbered first second) ⟨name, own, supers, isOpen, visibility⟩
      ⟨name', own', supers', isOpen, visibility⟩)
    (registries : registry.Renamed first second registry') (schema : Schema) :
    Follows first second (Marker.Renamed (Numbered first second))
      (match Marker.make name own supers isOpen visibility with
        | .error error => (.error error, registry)
        | .ok marker => (.ok marker, (registry.register marker).choose schema marker))
      (match Marker.make name' own' supers' isOpen visibility with
        | .error error => (.error error, registry')
        | .ok marker => (.ok marker, (registry'.register marker).choose schema marker)) := by
  have hmake := Marker.make_corresponds h (h.validate_iff (consistent_numbered first second))
  generalize Marker.make name own supers isOpen visibility = made at hmake ⊢
  generalize Marker.make name' own' supers' isOpen visibility = made' at hmake ⊢
  cases hmake with
  | error => exact .error
  | ok hm => exact .ok hm ((registries.register hm).choose hm schema)

theorem process_alike (naming : Naming) (isOpen : Bool) (visibility : Visibility)
    (first second : String) (schema : Schema) :
    Alike naming isOpen visibility first second schema := by
  induction schema using Schema.nesting_induction with
  | step schema ih =>
      intro registry registry' registries
      have hchoice := registries.chosen schema
      have hreusable := registries.reusable? schema isOpen
      have hrequired := registries.required schema
      have hfields := runFields_follows ih hrequired registries.allocate
      rw [run_process, run_process]
      generalize registry.choice? schema = choice? at hchoice ⊢
      generalize registry'.choice? schema = choice?' at hchoice ⊢
      cases hchoice with
      | some hm => exact .ok hm registries
      | none =>
          dsimp only
          generalize registry.reusable? schema (registry.required schema) isOpen = reusable?
            at hreusable ⊢
          generalize registry'.reusable? schema (registry'.required schema) isOpen = reusable?'
            at hreusable ⊢
          cases hreusable with
          | some hm => exact .ok hm (registries.choose hm schema)
          | none =>
              dsimp only
              rw [run_create, run_create]
              generalize runFields naming _ schema registry = outcome at hfields ⊢
              generalize runFields naming _ schema registry' = outcome' at hfields ⊢
              cases hfields with
              | error => exact .error
              | ok hown hwithin =>
                  have hname : Numbered first second (registry.allocate first).1
                      (registry'.allocate second).1 := registries.names.fresh
                  have hsupers := Marker.Renamed.leaves (consistent_numbered first second) hrequired
                  exact make_follows ⟨hname, hown, hsupers, rfl, rfl⟩ hwithin schema

end Synthesis

end FrameMarkers
