import FrameMarkers.Proofs.Marker.Fields

namespace FrameMarkers.Marker

variable {marker parent other : Marker}

-- The fields of a super marker behind those that stand there already.
def addUnseen (above : List Field) (parent : Marker) : List Field :=
  above ++ parent.fields.filter fun field => key field ∉ above.map key

theorem nodup_fields (marker : Marker) : (marker.fields.map key).Nodup :=
  nodup_distinctBy key marker.declaredFields

theorem distinctBy_append_fields (first : List Field) (parent : Marker) :
    distinctBy key (first ++ parent.fields) = addUnseen (distinctBy key first) parent := by
  rw [distinctBy_append, distinctBy_eq_self parent.nodup_fields, addUnseen]
  simp only [key_mem_distinctBy]

-- What has appeared is passed on from one super marker to the next.
theorem distinctBy_append_flatMap_fields (first : List Field) (parents : List Marker) :
    distinctBy key (first ++ parents.flatMap fields) =
      parents.foldl addUnseen (distinctBy key first) := by
  induction parents generalizing first with
  | nil => rw [List.flatMap_nil, List.append_nil, List.foldl_nil]
  | cons parent rest ih =>
      rw [List.flatMap_cons, ← List.append_assoc, ih, distinctBy_append_fields, List.foldl_cons]

theorem fields_eq_foldl (marker : Marker) :
    marker.fields = marker.supers.foldl addUnseen (distinctBy key marker.ownFields) := by
  rw [fields_eq, inheritedFields, distinctBy_append_flatMap_fields]

-- A super marker of which every identifier has appeared adds nothing.
theorem addUnseen_eq_self {above : List Field} (h : parent.fields.map key ⊆ above.map key) :
    addUnseen above parent = above := by
  have hnone : (parent.fields.filter fun field => key field ∉ above.map key) = [] := by
    rw [List.filter_eq_nil_iff]
    intro field hf
    simpa using h (List.mem_map_of_mem hf)
  rw [addUnseen, hnone, List.append_nil]

theorem fields_subset_of_extends (h : marker.Extends other) :
    other.fields.map key ⊆ marker.fields.map key := by
  intro text ht
  obtain ⟨upper, he, hown⟩ := key_mem_fields.mp ht
  exact key_mem_fields.mpr ⟨upper, h.trans he, hown⟩

theorem fields_append_super (marker other : Marker) :
    fields { marker with supers := marker.supers ++ [other] } = addUnseen marker.fields other := by
  rw [fields_eq_foldl, List.foldl_append]
  exact congrArg (addUnseen · other) marker.fields_eq_foldl.symm

theorem fields_append_reachable (hp : parent ∈ marker.supers) (he : parent.Extends other) :
    fields { marker with supers := marker.supers ++ [other] } = marker.fields := by
  have habove : other.fields.map key ⊆ marker.fields.map key :=
    fields_subset_of_extends ((Extends.of_mem_supers hp).trans he)
  rw [fields_append_super, addUnseen_eq_self habove]

theorem fields_compose (marker : Marker) :
    (marker.fields.map key).Nodup ∧
    (∀ text, text ∈ marker.fields.map key ↔
      ∃ upper, marker.Extends upper ∧ text ∈ upper.ownFields.map key) ∧
    marker.fields = marker.supers.foldl addUnseen (distinctBy key marker.ownFields) ∧
    ∀ parent ∈ marker.supers, ∀ other, parent.Extends other →
      fields { marker with supers := marker.supers ++ [other] } = marker.fields :=
  ⟨marker.nodup_fields, fun _ => key_mem_fields, marker.fields_eq_foldl,
    fun _ hp _ he => fields_append_reachable hp he⟩

-- The foot declares an identifier twice, and again one of the top that comes over the middle.
def stackedTop : Marker :=
  ⟨"Top", [.value "id" ⟨"kotlin.Int", false⟩, .value "at" ⟨"kotlin.Long", false⟩], [], true,
    .implicitPublic⟩

def stackedMiddle : Marker :=
  ⟨"Middle", [.value "name" ⟨"kotlin.String", false⟩], [stackedTop], true, .implicitPublic⟩

def stackedFoot : Marker :=
  ⟨"Foot", [.value "id" ⟨"kotlin.Long", false⟩, .value "id" ⟨"kotlin.Any", true⟩],
    [stackedMiddle], true, .implicitPublic⟩

theorem fields_compose_stacked :
    stackedFoot.fields = [.value "id" ⟨"kotlin.Long", false⟩,
        .value "name" ⟨"kotlin.String", false⟩, .value "at" ⟨"kotlin.Long", false⟩] ∧
      fields { stackedFoot with supers := [stackedMiddle, stackedTop] } = stackedFoot.fields := by
  obtain ⟨-, -, -, happended⟩ := fields_compose stackedFoot
  refine ⟨by decide +kernel, happended stackedMiddle List.mem_cons_self stackedTop ?_⟩
  exact .of_mem_supers List.mem_cons_self

end FrameMarkers.Marker
