import FrameMarkers.Proofs.Identifier.Pool
import FrameMarkers.Proofs.Synthesis.Induction

namespace FrameMarkers

namespace Registry

theorem choice?_choose (registry : Registry) (schema : Schema) (marker : Marker) (key : Schema) :
    (registry.choose schema marker).choice? key =
      if key = schema then some marker else registry.choice? key := by
  by_cases h : key = schema
  · simp [choice?, choose, h]
  · simp [choice?, choose, h, Ne.symm h]

theorem allocate_free (registry : Registry) (proposed : String) :
    registry.names.contains (registry.allocate proposed).1 = false :=
  registry.names.fresh_free proposed

theorem contains_allocate (registry : Registry) (proposed name : String) :
    (registry.allocate proposed).2.names.contains name ↔
      name = (registry.allocate proposed).1 ∨ registry.names.contains name :=
  NamePool.contains_insert registry.names _ name

-- The second registry has what the first one has. What it has more is synthesized and stands at the
-- end of both lists of markers.
structure Grows (before after : Registry) : Prop where
  added : ∃ added, after.markers = before.markers ++ added ∧
    after.generated = before.generated ++ added
  names : ∀ {name : String}, before.names.contains name → after.names.contains name
  choices : ∀ {schema : Schema} {marker : Marker}, before.choice? schema = some marker →
    after.choice? schema = some marker

-- It has more markers only under names that were not in use before.
structure GrowsFresh (before after : Registry) : Prop extends before.Grows after where
  fresh : ∀ marker ∈ after.generated, marker ∈ before.generated ∨
    before.names.contains marker.name = false

namespace Grows

variable {before after : Registry}

theorem of_eq (hmarkers : after.markers = before.markers)
    (hgenerated : after.generated = before.generated)
    (hnames : ∀ {name : String}, before.names.contains name → after.names.contains name)
    (hchoices : ∀ {schema : Schema} {marker : Marker}, before.choice? schema = some marker →
      after.choice? schema = some marker) : before.Grows after :=
  ⟨⟨[], by simp [hmarkers], by simp [hgenerated]⟩, hnames, hchoices⟩

theorem refl (registry : Registry) : registry.Grows registry :=
  .of_eq rfl rfl id id

theorem trans {first second third : Registry} (h : first.Grows second) (h' : second.Grows third) :
    first.Grows third := by
  obtain ⟨added, hmarkers, hgenerated⟩ := h.added
  obtain ⟨more, hmarkers', hgenerated'⟩ := h'.added
  refine ⟨⟨added ++ more, ?_, ?_⟩, h'.names ∘ h.names, h'.choices ∘ h.choices⟩
  · rw [hmarkers', hmarkers, List.append_assoc]
  · rw [hgenerated', hgenerated, List.append_assoc]

theorem markers (h : before.Grows after) : before.markers <+: after.markers := by
  obtain ⟨added, hmarkers, -⟩ := h.added
  exact ⟨added, hmarkers.symm⟩

theorem generated (h : before.Grows after) : before.generated <+: after.generated := by
  obtain ⟨added, -, hgenerated⟩ := h.added
  exact ⟨added, hgenerated.symm⟩

theorem allocate (registry : Registry) (proposed : String) :
    registry.Grows (registry.allocate proposed).2 :=
  .of_eq rfl rfl (fun hn => (contains_allocate registry proposed _).mpr (.inr hn)) id

theorem choose {registry : Registry} {schema : Schema} (h : registry.choice? schema = none)
    (marker : Marker) : registry.Grows (registry.choose schema marker) := by
  refine .of_eq rfl rfl id fun {key chosen} hc => ?_
  have hne : key ≠ schema := by
    rintro rfl
    rw [h] at hc
    contradiction
  rw [choice?_choose, if_neg hne, hc]

theorem register (registry : Registry) (marker : Marker) :
    registry.Grows (registry.register marker) :=
  ⟨⟨[marker], rfl, rfl⟩, id, id⟩

end Grows

namespace GrowsFresh

theorem of_generated_eq {before after : Registry} (h : before.Grows after)
    (hg : after.generated = before.generated) : before.GrowsFresh after :=
  ⟨h, fun _ hm => .inl (hg ▸ hm)⟩

theorem trans {first second third : Registry} (h : first.GrowsFresh second)
    (h' : second.GrowsFresh third) : first.GrowsFresh third := by
  refine ⟨h.toGrows.trans h'.toGrows, fun marker hm => ?_⟩
  rcases h'.fresh marker hm with hs | hunused
  · exact h.fresh marker hs
  · refine .inr ?_
    by_contra hused
    have hlater := h.names (eq_true_of_ne_false hused)
    rw [hunused] at hlater
    contradiction

end GrowsFresh

end Registry

namespace Synthesis

variable {naming : Naming} {proposal : Proposal} {schema : Schema}
  {before within after : Registry} {marker : Marker}

-- The choices for schemas of at least that height are the same.
def SameChoices (height : Nat) (before after : Registry) : Prop :=
  ∀ schema : Schema, height ≤ schema.height → after.choice? schema = before.choice? schema

theorem sameChoices_steps (naming : Naming) (proposal : Proposal) (height : Nat) :
    Steps naming proposal (fun schema => schema.height < height) (SameChoices height) where
  nested hd hn := Nat.lt_trans hn.height_lt hd
  refl _ _ _ := rfl
  trans h h' schema hs := (h' schema hs).trans (h schema hs)
  allocate _ _ _ := rfl
  reuse {schema _ _} hd _ _ other ho := by
    have hne : other ≠ schema := by rintro rfl; omega
    rw [Registry.choice?_choose, if_neg hne]
  create {schema before within marker} hd _ hw other ho := by
    have hne : other ≠ schema := by rintro rfl; omega
    rw [Registry.choice?_choose, if_neg hne]
    exact hw other ho

-- While the fields of a marker are computed, nothing is chosen for its schema.
theorem Creation.within_unseen (creation : Creation naming proposal schema before marker within) :
    within.choice? schema = none := by
  have hsame : SameChoices schema.height (before.allocate proposal.name).2 within :=
    (sameChoices_steps naming proposal schema.height).within creation fun _ hn => hn.height_lt
  rw [hsame schema (Nat.le_refl _)]
  exact creation.unseen

theorem Creation.grows_after (creation : Creation naming proposal schema before marker within) :
    within.Grows ((within.register marker).choose schema marker) := by
  have hunseen : (within.register marker).choice? schema = none := creation.within_unseen
  exact (Registry.Grows.register within marker).trans (.choose hunseen marker)

-- If a new marker has a property whenever all markers before it do, runs preserve that all have it.
theorem preserved_steps {domain : Schema → Prop} {P : Marker → Prop}
    (nested : ∀ {schema nested : Schema}, domain schema → schema.Nests nested → domain nested)
    (made : ∀ {schema : Schema} {before within : Registry} {marker : Marker}, domain schema →
      Creation naming proposal schema before marker within →
        (∀ upper ∈ before.markers, P upper) → P marker) :
    Steps naming proposal domain fun before after =>
      (∀ marker ∈ before.markers, P marker) → ∀ marker ∈ after.markers, P marker where
  nested := nested
  refl _ := id
  trans h h' := h' ∘ h
  allocate _ := id
  reuse _ _ _ := id
  create {schema before within marker} hd creation hw hb := by
    intro other ho
    rcases List.mem_append.mp ho with ho | ho
    · exact hw hb other ho
    · rw [List.mem_singleton.mp ho]
      exact made hd creation hb

-- If every new marker has a property, all those have it that a run adds.
theorem added_steps {P : Marker → Prop}
    (made : ∀ {schema : Schema} {before within : Registry} {marker : Marker},
      Creation naming proposal schema before marker within → P marker) :
    Steps naming proposal (fun _ => True) fun before after =>
      ∀ marker ∈ after.generated, marker ∈ before.generated ∨ P marker where
  nested _ _ := trivial
  refl _ _ hm := .inl hm
  trans hfirst hsecond marker hm := (hsecond marker hm).elim (hfirst marker) .inr
  allocate _ _ hm := .inl hm
  reuse _ _ _ _ hm := .inl hm
  create {schema before within marker} _ creation hw other ho := by
    rcases List.mem_append.mp ho with ho | ho
    · exact hw other ho
    · obtain rfl := List.mem_singleton.mp ho
      exact .inr (made creation)

theorem growsFresh_steps (naming : Naming) (proposal : Proposal) :
    Steps naming proposal (fun _ => True) Registry.GrowsFresh where
  nested _ _ := trivial
  refl registry := .of_generated_eq (.refl registry) rfl
  trans h h' := h.trans h'
  allocate registry := .of_generated_eq (.allocate registry proposal.name) rfl
  reuse _ unseen _ := .of_generated_eq (.choose unseen _) rfl
  create {schema before within marker} _ creation hw := by
    have hgrows := (Registry.Grows.allocate before proposal.name).trans hw.toGrows
    refine ⟨hgrows.trans creation.grows_after, fun other ho => ?_⟩
    rcases List.mem_append.mp ho with ho | ho
    · exact ((Registry.GrowsFresh.of_generated_eq (.allocate before proposal.name) rfl).trans
        hw).fresh other ho
    · obtain rfl := List.mem_singleton.mp ho
      rw [creation.name]
      exact .inr (before.allocate_free proposal.name)

theorem growsFresh_process (naming : Naming) (proposal : Proposal) (schema : Schema)
    (before : Registry) : before.GrowsFresh ((process naming proposal schema).run before).2 :=
  (growsFresh_steps naming proposal).process trivial before

theorem Creation.grows_within (creation : Creation naming proposal schema before marker within) :
    (before.allocate proposal.name).2.GrowsFresh within :=
  (growsFresh_steps naming proposal).within creation fun _ _ => trivial

theorem Creation.grows (creation : Creation naming proposal schema before marker within) :
    before.Grows within :=
  (Registry.Grows.allocate before proposal.name).trans creation.grows_within.toGrows

-- The call on the registry `before` returns the marker, which it has synthesized itself.
def Makes (naming : Naming) (proposal : Proposal) (schema : Schema) (before : Registry)
    (marker : Marker) (after : Registry) : Prop :=
  (process naming proposal schema).run before = (.ok marker, after) ∧
    marker ∈ after.generated.drop before.generated.length

theorem makes_iff :
    Makes naming proposal schema before marker after ↔
      ∃ within, Creation naming proposal schema before marker within ∧
        after = (within.register marker).choose schema marker := by
  constructor
  · rintro ⟨hrun, hm⟩
    have houtcome := process_outcome naming proposal schema before
    rw [hrun] at houtcome
    cases houtcome with
    | chosen _ => simp at hm
    | reused _ _ => simp [Registry.choose] at hm
    | created creation => exact ⟨_, creation, rfl⟩
  · rintro ⟨within, creation, rfl⟩
    refine ⟨creation.run, ?_⟩
    obtain ⟨added, he⟩ := creation.grows.generated
    simp [Registry.choose, Registry.register, ← he]

-- A call that ends well and leaves more markers than there were has made the one it returns.
theorem exists_makes (hok : ((process naming proposal schema).run before).1.isOk = true)
    (hgen : before.generated.length <
      ((process naming proposal schema).run before).2.generated.length) :
    ∃ marker after, Makes naming proposal schema before marker after := by
  have houtcome := process_outcome naming proposal schema before
  generalize (process naming proposal schema).run before = outcome at houtcome hok hgen
  cases houtcome with
  | chosen _ => exact absurd hgen (Nat.lt_irrefl _)
  | reused _ _ => exact absurd hgen (Nat.lt_irrefl _)
  | created creation => exact ⟨_, _, makes_iff.mpr ⟨_, creation, rfl⟩⟩
  | abandoned _ => cases hok

end Synthesis

end FrameMarkers
