import FrameMarkers.Proofs.Declaration.Single

namespace FrameMarkers

-- What the accessors of the bindings have claimed, the last claim first.
def taken (bindings : List String) : List (Receiver × String) :=
  bindings.flatMap fun binding => [(.row, binding), (.container, binding)]

theorem mem_taken {receiver : Receiver} {binding : String} {bindings : List String} :
    (receiver, binding) ∈ taken bindings ↔ binding ∈ bindings := by
  cases receiver <;> simp [taken]

theorem taken_append (first second : List String) :
    taken (first ++ second) = taken first ++ taken second :=
  List.flatMap_append

theorem taken_reverse (bindings : List String) :
    taken bindings.reverse =
      (bindings.flatMap fun binding => [(.container, binding), (.row, binding)]).reverse := by
  rw [List.reverse_flatMap]
  rfl

namespace Accessor

variable {accessors : List Accessor} {bindings : List String}

-- The accessors of the bindings in turn, on the columns and on a row.
def Declares (accessors : List Accessor) (bindings : List String) : Prop :=
  accessors.map slot = bindings.flatMap fun binding => [(.container, binding), (.row, binding)]

theorem Declares.firstRepeated_slot (h : Declares accessors bindings) (seen : List String) :
    (firstRepeated slot (taken seen) accessors).map (·.binding) =
      firstRepeated id seen bindings := by
  induction bindings generalizing accessors seen with
  | nil =>
      obtain rfl := List.map_eq_nil_iff.mp h
      rfl
  | cons binding rest ih =>
      obtain ⟨first, others, rfl, hfirst, hothers⟩ := List.map_eq_cons_iff.mp h
      obtain ⟨second, others, rfl, hsecond, hrest⟩ := List.map_eq_cons_iff.mp hothers
      by_cases hs : binding ∈ seen
      · have htaken : first.slot ∈ taken seen := hfirst ▸ mem_taken.mpr hs
        rw [firstRepeated, if_pos htaken, firstRepeated, id, if_pos hs]
        exact congrArg (fun slot => some slot.2) hfirst
      · -- The second claim of a binding never comes upon the first one.
        have hfree : first.slot ∉ taken seen := hfirst ▸ mt mem_taken.mp hs
        have hrow : second.slot ∉ first.slot :: taken seen := by
          rw [hfirst, hsecond, List.mem_cons, mem_taken]
          simp [hs]
        rw [firstRepeated, if_neg hfree, firstRepeated, if_neg hrow, hfirst, hsecond,
          firstRepeated, id, if_neg hs]
        exact ih hrest (binding :: seen)

theorem Declares.claimAll_eq (h : Declares accessors bindings) (owner : String)
    (seen : List String) :
    claimAll owner accessors ⟨taken seen⟩ =
      match firstRepeated id seen bindings with
      | some binding => .error (.conflict owner binding)
      | none => .ok ⟨taken (bindings.reverse ++ seen)⟩ := by
  rw [Accessor.claimAll_eq, ← h.firstRepeated_slot seen, taken_append, taken_reverse, ← h]
  cases firstRepeated slot (taken seen) accessors <;> rfl

end Accessor

namespace Marker

variable {mode : Mode}

-- The bindings of the fields, first those on the marker, then those on the nullable marker.
def bindingsOf (nullable : Bool) (marker : Marker) (fields : List Field) : List String :=
  fields.map (binding false marker) ++ if nullable then fields.map (binding true marker) else []

-- The bindings in the order in which they are declared, each with its marker.
def claims (nullable : Bool) (markers : List Marker) : List (String × String) :=
  markers.flatMap fun marker =>
    (bindingsOf nullable marker marker.sortedFields).map (Prod.mk marker.name)

theorem declares_accessors (types : TypeStyle) (nullable : Bool) (marker : Marker) :
    Accessor.Declares (marker.accessors types nullable)
      (bindingsOf nullable marker marker.sortedFields) := by
  have hslots : ∀ flag, marker.sortedFields.flatMap (slots flag marker) =
      (marker.sortedFields.map (binding flag marker)).flatMap fun binding =>
        [(.container, binding), (.row, binding)] := fun flag => by
    rw [List.flatMap_map]
    rfl
  rw [Accessor.Declares, slot_accessors]
  cases nullable <;> simp [bindingsOf, hslots]

theorem firstRepeated_claims_cons (nullable : Bool) (marker : Marker) (rest : List Marker)
    (seen : List String) :
    firstRepeated Prod.snd seen (claims nullable (marker :: rest)) =
      ((firstRepeated id seen (bindingsOf nullable marker marker.sortedFields)).map
        (Prod.mk marker.name)).or (firstRepeated Prod.snd
          ((bindingsOf nullable marker marker.sortedFields).reverse ++ seen)
          (claims nullable rest)) := by
  have hbinding : Prod.snd ∘ Prod.mk marker.name = (id : String → String) := rfl
  rw [claims, List.flatMap_cons, firstRepeated_append, firstRepeated_map, List.map_map, hbinding,
    List.map_id]
  rfl

theorem renderEach_eq (hmode : mode.supportsSchemas = true) (style : Style) (markers : List Marker)
    (seen : List String) :
    renderEach style mode true markers ⟨taken seen⟩ =
      match firstRepeated Prod.snd seen (claims style.nullableAccessors markers) with
      | some (owner, binding) => .error (.conflict owner binding)
      | none => .ok (markers.map (declaredText style mode none)) := by
  induction markers generalizing seen with
  | nil => rfl
  | cons marker rest ih =>
      have hclaim := (declares_accessors style.types style.nullableAccessors marker).claimAll_eq
        marker.name seen
      rw [renderEach, render_eq hmode, hclaim, firstRepeated_claims_cons]
      cases firstRepeated id seen
          (bindingsOf style.nullableAccessors marker marker.sortedFields) with
      | some binding => rfl
      | none =>
          simp only [Except.map, bind, Except.bind, ih, Option.map_none, Option.none_or]
          cases firstRepeated Prod.snd
              ((bindingsOf style.nullableAccessors marker marker.sortedFields).reverse ++ seen)
              (claims style.nullableAccessors rest) <;> rfl

theorem declareAll_eq (hmode : mode.supportsSchemas = true) (style : Style)
    (markers : List Marker) :
    declareAll style mode true markers =
      match firstRepeated Prod.snd [] (claims style.nullableAccessors markers) with
      | some (owner, binding) => .error (.conflict owner binding)
      | none => .ok ("\n".intercalate
          ((markers.map (declaredText style mode none)).filter (!·.isEmpty))) := by
  have hempty : BindingTable.empty = ⟨taken []⟩ := rfl
  rw [declareAll, hempty, renderEach_eq hmode]
  cases firstRepeated Prod.snd [] (claims style.nullableAccessors markers) <;> rfl

theorem perm_claims (nullable : Bool) (markers : List Marker) :
    ((claims nullable markers).map Prod.snd).Perm
      (markers.flatMap fun marker => bindingsOf nullable marker marker.fields) := by
  rw [claims, List.map_flatMap]
  refine List.Perm.flatMap_left markers fun marker _ => ?_
  have hbinding : Prod.snd ∘ Prod.mk marker.name = (id : String → String) := rfl
  have hsorted : marker.sortedFields.Perm marker.fields := List.mergeSort_perm _ _
  rw [List.map_map, hbinding, List.map_id]
  refine (hsorted.map _).append ?_
  cases nullable with
  | false => exact .refl _
  | true => exact hsorted.map _

theorem mapM_declare (hmode : mode.supportsSchemas = true) (style : Style)
    (markers : List Marker) :
    markers.mapM (declare style mode true none) =
      .ok (markers.map fun marker => ⟨marker.declaredText style mode none, [marker.name]⟩) := by
  induction markers with
  | nil => rfl
  | cons marker rest ih =>
      rw [List.mapM_cons, declare_eq hmode, ih]
      rfl

theorem declares_together_iff (hmode : mode.supportsSchemas = true) (style : Style)
    (markers : List Marker) :
    (∀ marker ∈ markers, ∀ method?, ∃ code, marker.declare style mode true method? = .ok code) ∧
    ((∃ text, declareAll style mode true markers = .ok text) ↔
      (markers.flatMap fun marker =>
        bindingsOf style.nullableAccessors marker marker.fields).Nodup) ∧
    (∀ text, declareAll style mode true markers = .ok text →
      ∃ codes, markers.mapM (declare style mode true none) = .ok codes ∧
        text = "\n".intercalate ((codes.map (·.declarations)).filter (!·.isEmpty))) ∧
    ∀ error, declareAll style mode true markers = .error error →
      ∃ earlier owner binding later,
        claims style.nullableAccessors markers = earlier ++ (owner, binding) :: later ∧
        (earlier.map Prod.snd).Nodup ∧ binding ∈ earlier.map Prod.snd ∧
        error = .conflict owner binding := by
  rw [declareAll_eq hmode, ← (perm_claims style.nullableAccessors markers).nodup_iff]
  refine ⟨fun marker _ method? => ⟨_, declare_eq hmode style method? marker⟩, ?_⟩
  cases hfirst : firstRepeated Prod.snd [] (claims style.nullableAccessors markers) with
  | none =>
      have hnodup := (firstRepeated_eq_none.mp hfirst).1
      refine ⟨iff_of_true ⟨_, rfl⟩ hnodup, fun text htext => ?_, fun error herror => ?_⟩
      · cases htext
        refine ⟨_, mapM_declare hmode style markers, ?_⟩
        rw [List.map_map]
        rfl
      · cases herror
  | some claim =>
      obtain ⟨owner, binding⟩ := claim
      have hnot : ¬((claims style.nullableAccessors markers).map Prod.snd).Nodup := fun hnodup => by
        rw [firstRepeated_eq_none.mpr ⟨hnodup, fun _ _ => List.not_mem_nil⟩] at hfirst
        cases hfirst
      refine ⟨iff_of_false (fun ⟨_, htext⟩ => nomatch htext) hnot, fun text htext => ?_,
        fun error herror => ?_⟩
      · cases htext
      · cases herror
        obtain ⟨earlier, later, he, ⟨hnodup, -⟩, hrepeated⟩ := exists_of_firstRepeated hfirst
        exact ⟨earlier, owner, binding, later, he, hnodup,
          hrepeated.resolve_left List.not_mem_nil, rfl⟩

-- The name of the second marker is that of the first one on the nullable marker.
def nullableNamesakes : List Marker :=
  ["Person", "NullablePerson"].map fun name =>
    ⟨name, [.value "name" ⟨"kotlin.String", false⟩], [], true, .implicitPublic⟩

theorem declares_together_iff_namesakes :
    (∃ text, declareAll ⟨.short, false⟩ .withFields true nullableNamesakes = .ok text) ∧
      declareAll ⟨.short, true⟩ .withFields true nullableNamesakes =
        .error (.conflict "NullablePerson" "NullablePerson_name") ∧
      ∃ earlier later, claims true nullableNamesakes =
        earlier ++ ("NullablePerson", "NullablePerson_name") :: later ∧
          "NullablePerson_name" ∈ earlier.map Prod.snd := by
  obtain ⟨-, hok, -⟩ := @declares_together_iff .withFields rfl ⟨.short, false⟩
    nullableNamesakes
  obtain ⟨-, -, -, hfails⟩ := @declares_together_iff .withFields rfl ⟨.short, true⟩
    nullableNamesakes
  have herror : declareAll ⟨.short, true⟩ .withFields true nullableNamesakes =
      .error (.conflict "NullablePerson" "NullablePerson_name") := by
    decide +kernel
  obtain ⟨earlier, owner, binding, later, hclaims, -, hclaimed, he⟩ := hfails _ herror
  cases he
  exact ⟨hok.mpr (by decide +kernel), herror, earlier, later, hclaims, hclaimed⟩

end Marker

end FrameMarkers
