import FrameMarkers.Declaration.Basic
import FrameMarkers.Proofs.Declaration.Bindings

namespace FrameMarkers

theorem Accessor.render_ne_empty {visibility : Visibility} {receiver result binding : String}
    {field : Field} : render visibility receiver field result binding ≠ "" := by
  intro h
  have hlength := congrArg String.length h
  simp only [render, String.length_append] at hlength
  have hkeyword : "val ".length = 4 := by decide
  have hempty : "".length = 0 := by decide
  omega

namespace Marker

variable {style : Style} {mode : Mode} {method? : Option ReadMethod} {marker : Marker}
  {table after : BindingTable} {text : String}

-- The lines of the accessors of a marker.
def accessorText (style : Style) (marker : Marker) : String :=
  "\n".intercalate ((marker.accessors style.types style.nullableAccessors).map (·.text))

theorem renderAccessors_eq_ok_iff :
    marker.renderAccessors style.types style.nullableAccessors table = .ok (text, after) ↔
      Accessor.claimAll marker.name (marker.accessors style.types style.nullableAccessors) table =
        .ok after ∧ text = marker.accessorText style := by
  unfold renderAccessors
  cases hc : Accessor.claimAll marker.name
      (marker.accessors style.types style.nullableAccessors) table with
  | error error => simp [bind, Except.bind, hc]
  | ok claimed =>
      simp only [bind, Except.bind, pure, Except.pure, hc, Except.ok.injEq, Prod.mk.injEq,
        accessorText]
      exact ⟨fun ⟨ht, ha⟩ => ⟨ha, ht.symm⟩, fun ⟨ha, ht⟩ => ⟨ht.symm, ha⟩⟩

theorem fields_of_sortedFields (h : marker.sortedFields = []) : marker.fields = [] := by
  have hlength := congrArg List.length h
  rw [sortedFields, List.length_mergeSort] at hlength
  exact List.length_eq_zero_iff.mp hlength

theorem accessors_of_no_fields {types : TypeStyle} {nullable : Bool} (h : marker.fields = []) :
    marker.accessors types nullable = [] := by
  simp [accessors, sortedFields, h]

-- The first accessor is that of the first field on the columns.
theorem exists_accessor_of_fields (types : TypeStyle) (nullable : Bool) (h : marker.fields ≠ []) :
    ∃ accessor rest, marker.accessors types nullable = accessor :: rest ∧ accessor.text ≠ "" := by
  cases hs : marker.sortedFields with
  | nil => exact absurd (fields_of_sortedFields hs) h
  | cons field fields =>
      unfold accessors
      rw [hs, List.flatMap_cons, fieldAccessors]
      exact ⟨_, _, rfl, Accessor.render_ne_empty⟩

theorem accessorText_eq_empty_iff : marker.accessorText style = "" ↔ marker.fields = [] := by
  constructor
  · intro he
    by_contra h
    obtain ⟨accessor, rest, haccessors, hne⟩ := exists_accessor_of_fields style.types
      style.nullableAccessors h
    rw [accessorText, haccessors, List.map_cons] at he
    cases hrest : rest.map (·.text) with
    | nil =>
        rw [hrest, String.intercalate_singleton] at he
        exact hne he
    | cons next others =>
        rw [hrest, String.intercalate_cons_cons, String.append_assoc] at he
        exact hne (String.append_eq_empty_iff.mp he).1
  · intro h
    rw [accessorText, accessors_of_no_fields h]
    rfl

-- Without accessors, the interface is all there is.
theorem declare_interface (hmode : mode = .noFields ∨ mode = .withFields) :
    marker.declare style mode false method? =
      .ok ⟨marker.interface style.types (mode = .withFields) method?, [marker.name]⟩ := by
  rcases hmode with rfl | rfl <;> rfl

-- What is declared for a marker with its accessors.
def declaredText (style : Style) (mode : Mode) (method? : Option ReadMethod) (marker : Marker) :
    String :=
  let accessors := marker.accessorText style
  if mode = .none then accessors
  else
    let interface := marker.interface style.types (mode = .withFields) method?
    if accessors.isEmpty then interface else interface ++ "\n" ++ accessors

-- The bindings that were claimed before decide whether there is a text, and not which.
theorem render_eq (hmode : mode.supportsSchemas = true) (style : Style)
    (method? : Option ReadMethod) (marker : Marker) (table : BindingTable) :
    marker.render style mode true method? table =
      (Accessor.claimAll marker.name (marker.accessors style.types style.nullableAccessors)
        table).map fun after => (marker.declaredText style mode method?, after) := by
  have haccessors : marker.accessorsIf style true table =
      (Accessor.claimAll marker.name (marker.accessors style.types style.nullableAccessors)
        table).map fun after => (marker.accessorText style, after) := by
    rw [accessorsIf, if_pos rfl, renderAccessors]
    cases Accessor.claimAll marker.name (marker.accessors style.types style.nullableAccessors)
      table <;> rfl
  cases mode with
  | noFields | withFields =>
      rw [render, interfaceAndAccessors, haccessors]
      cases Accessor.claimAll marker.name (marker.accessors style.types style.nullableAccessors)
        table <;> rfl
  | none => exact haccessors
  | enumeration | typeAlias => cases hmode

-- On its own, a marker can always get its accessors.
theorem declare_eq (hmode : mode.supportsSchemas = true) (style : Style)
    (method? : Option ReadMethod) (marker : Marker) :
    marker.declare style mode true method? =
      .ok ⟨marker.declaredText style mode method?, [marker.name]⟩ := by
  have hclaimed := @Accessor.claimAll_eq_ok marker.name _ .empty
    (nodup_slot_accessors style.types style.nullableAccessors marker) fun _ _ => List.not_mem_nil
  rw [declare, render_eq hmode, hclaimed]
  rfl

theorem declare_accessors :
    marker.declare style .none true none = .ok ⟨marker.accessorText style, [marker.name]⟩ :=
  declare_eq rfl style none marker

end Marker

end FrameMarkers
