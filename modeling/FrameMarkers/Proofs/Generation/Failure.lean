import FrameMarkers.Proofs.Generation.Rendering
import FrameMarkers.Proofs.Generation.Root
import FrameMarkers.Proofs.Session.Named
import FrameMarkers.Proofs.Session.Separate

namespace FrameMarkers

open Synthesis

variable {naming : Naming} {proposal : Proposal} {schema inner : Schema}
  {registry start before : Registry} {options : GenerationOptions} {error : Error}
  {identifier : String}

theorem generate_error_iff (hm : options.mode.supportsSchemas = true)
    (opened : Registry.ofKnown options.known = .ok start) :
    generate options schema = .error error ↔
      ((process options.naming options.proposal schema).run start).1 = .error error := by
  rw [generate_eq_error_iff hm]
  simp [GenerationOptions.Refuses, opened]

-- The name of a marker to be made is none of those above it.
theorem Reached.repeatedAbove_candidate (h : Reached naming before) (own : List Field) :
    Marker.repeatedAbove [(before.allocate proposal.name).1]
      (candidate proposal schema before own) = none := by
  have hs := h.sound
  have hfresh : ∀ other ∈ before.generated, other.name ≠ (before.allocate proposal.name).1 := by
    intro other ho he
    have hused := hs.used other ho
    rw [he, before.allocate_free] at hused
    contradiction
  have family : Marker.Family fun marker =>
      marker ∈ before.generated ∨ marker = candidate proposal schema before own := by
    constructor
    · rintro lower upper (hl | rfl) hu
      · exact .inl (hs.supers lower hl upper hu).1
      · refine .inl ?_
        rw [← hs.markers_eq]
        exact (Registry.mem_required.mp (Marker.mem_of_mem_leaves hu)).1
    · rintro first second (hf | rfl) (hsecond | rfl) hn
      · exact hs.family.names hf hsecond hn
      · exact absurd hn (hfresh first hf)
      · exact absurd hn.symm (hfresh second hsecond)
      · rfl
  refine family.repeatedAbove_eq_none (.inr rfl) fun other ho hn => ?_
  have hsame := family.names ho (.inr rfl) (List.mem_singleton.mp hn)
  rw [hsame]

theorem Reached.calls (h : Reached naming before)
    (hcalls : Calls naming proposal schema before inner start) :
    inner.allNames ⊆ schema.allNames ∧ Reached naming start := by
  have steps : Steps naming proposal (fun inner => inner.allNames ⊆ schema.allNames)
      (fun before after => Reached naming before → Reached naming after) := {
    reached_steps naming proposal with
    nested := fun hd hn _ hname => hd (hn.allNames_subset hname)
    reuse := fun _ => (reached_steps naming proposal).reuse trivial
    create := fun _ => (reached_steps naming proposal).create trivial }
  have hinner := steps.calls hcalls (List.Subset.refl _)
  exact ⟨hinner.1, hinner.2 h⟩

-- Why a call fails that is made in a session without known markers.
theorem Reached.blank_or_clash (h : Reached naming before) (hblank : naming.KeepsBlank)
    (hsuffix : naming.onConflict = .suffix)
    (herror : ((process naming proposal schema).run before).1 = .error error) :
    (∃ name ∈ schema.allNames, Text.isBlank name.toList = true ∧ error = .blankColumn name) ∨
      ∃ inner start identifier, Calls naming proposal schema before inner start ∧
        Clash naming proposal inner start identifier ∧
        error = .conflict (start.allocate proposal.name).1 identifier := by
  obtain ⟨inner, start, hcalls, hfails⟩ := process_error_iff.mp herror
  obtain ⟨hnames, hstart⟩ := h.calls hcalls
  rcases hfails.blank_or_clash hblank hsuffix hstart.repeatedAbove_candidate with
    ⟨name, hm, hname, rfl⟩ | ⟨identifier, hclash, rfl⟩
  · obtain ⟨column, he⟩ := Columns.mem_names.mp hm
    exact .inl ⟨name, hnames (Schema.mem_allNames_of_entry he), hname, rfl⟩
  · exact .inr ⟨inner, start, identifier, hcalls, hclash, rfl⟩

theorem Reached.error_iff (h : Reached naming before) (hblank : naming.KeepsBlank)
    (hsuffix : naming.onConflict = .suffix) :
    (∃ error, ((process naming proposal schema).run before).1 = .error error) ↔
      (∃ name ∈ schema.allNames, Text.isBlank name.toList = true) ∨
        ∃ inner start identifier, Calls naming proposal schema before inner start ∧
          Clash naming proposal inner start identifier := by
  constructor
  · rintro ⟨error, herror⟩
    rcases h.blank_or_clash hblank hsuffix herror with
      ⟨name, hm, hname, -⟩ | ⟨inner, start, identifier, hcalls, hclash, -⟩
    · exact .inl ⟨name, hm, hname⟩
    · exact .inr ⟨inner, start, identifier, hcalls, hclash⟩
  · rintro (⟨name, hm, hname⟩ | ⟨inner, start, identifier, hcalls, hclash⟩)
    · rcases hrun : (process naming proposal schema).run before with ⟨error | marker, after⟩
      · exact ⟨error, rfl⟩
      · have hnot := h.named_of_run hblank hrun name hm
        rw [hname] at hnot
        contradiction
    · obtain ⟨error, hfails⟩ := hclash.exists_fails (h.calls hcalls).2.repeatedAbove_candidate
      exact ⟨error, process_error_iff.mpr ⟨inner, start, hcalls, hfails⟩⟩

theorem generate_fails_iff {delimiters : List Char} (hk : options.known = [])
    (hn : options.normalize = .ofDelimiters delimiters) (hs : options.onConflict = .suffix)
    (hm : options.mode.supportsSchemas = true) :
    ((∃ error, generate options schema = .error error) ↔
      (∃ name ∈ schema.allNames, Text.isBlank name.toList = true) ∨
        ∃ inner before identifier,
          Calls options.naming options.proposal schema ⟨[], [], [], .ofList []⟩ inner before ∧
            Clash options.naming options.proposal inner before identifier) ∧
      (∀ error, generate options schema = .error error →
        (∃ name ∈ schema.allNames, Text.isBlank name.toList = true ∧ error = .blankColumn name) ∨
          ∃ inner before identifier,
            Calls options.naming options.proposal schema ⟨[], [], [], .ofList []⟩ inner before ∧
              Clash options.naming options.proposal inner before identifier ∧
              error = .conflict (before.allocate options.rootName).1 identifier) ∧
      (∀ inner before identifier, Clash options.naming options.proposal inner before identifier →
        ∃ first ∈ (Marker.leaves (before.required inner)).flatMap Marker.fields,
          ∃ second ∈ (Marker.leaves (before.required inner)).flatMap Marker.fields,
            ¬(first.column = second.column ↔ Marker.key first = Marker.key second)) ∧
      (options.naming.Separates schema.allNames →
        ((∃ error, generate options schema = .error error) ↔
          ∃ name ∈ schema.allNames, Text.isBlank name.toList = true) ∧
        ∀ error, generate options schema = .error error →
          ∃ name ∈ schema.allNames, Text.isBlank name.toList = true ∧
            error = .blankColumn name) := by
  have opened : Registry.ofKnown options.known = .ok ⟨[], [], [], .ofList []⟩ := by
    rw [hk]
    rfl
  have hstart : Reached options.naming ⟨[], [], [], .ofList []⟩ := .start rfl
  have hblank : options.naming.KeepsBlank := by
    rw [GenerationOptions.naming, hn]
    exact Naming.keepsBlank_ofDelimiters delimiters options.onConflict
  simp only [generate_error_iff hm opened]
  refine ⟨hstart.error_iff hblank hs, fun _ => hstart.blank_or_clash hblank hs,
    fun _ _ _ => Clash.exists_disagreement, fun separates => ?_⟩
  have hnone : ∀ {inner before identifier},
      Calls options.naming options.proposal schema ⟨[], [], [], .ofList []⟩ inner before →
        ¬Clash options.naming options.proposal inner before identifier := fun hcalls =>
    hstart.sound.not_clash (fun _ hm => absurd hm List.not_mem_nil) separates
      (List.Subset.refl _) hcalls _
  refine ⟨(hstart.error_iff hblank hs).trans (or_iff_left ?_), fun error herror =>
    (hstart.blank_or_clash hblank hs herror).resolve_right ?_⟩
  · rintro ⟨inner, before, identifier, hcalls, hclash⟩
    exact hnone hcalls hclash
  · rintro ⟨inner, before, identifier, hcalls, hclash, -⟩
    exact hnone hcalls hclash

-- Three records. The last one extends the two others, which use one identifier for a column each.
-- The second identifier of the second record is not seen to be in use then.
def crossedRecord (names : List String) : Schema :=
  .ofList (names.map fun name => (name, .value ⟨"kotlin.Int", false⟩))

def crossedFirst : Schema :=
  crossedRecord ["a.b", "x", "y"]

def crossedSecond : Schema :=
  crossedRecord ["a b", "a.b"]

def crossedThird : Schema :=
  crossedRecord ["a b", "a.b", "a b1", "x", "y"]

def crossedSchema : Schema :=
  .ofList [("a", .group crossedFirst false), ("b", .group crossedSecond false),
    ("c", .group crossedThird false)]

def crossedOptions : GenerationOptions :=
  { mode := .none, accessors := false }

-- The registries when the second record comes up, and when the third does.
def crossedMiddle : Registry :=
  ((resolve crossedOptions.naming crossedOptions.proposal (.group crossedFirst false)).run
    ⟨[], [], [], .ofList ["DataType"]⟩).2

def crossedStart : Registry :=
  ((resolve crossedOptions.naming crossedOptions.proposal (.group crossedSecond false)).run
    crossedMiddle).2

theorem calls_crossed :
    Calls crossedOptions.naming crossedOptions.proposal crossedSchema ⟨[], [], [], .ofList []⟩
      crossedThird crossedStart := by
  have hentries : crossedSchema.entries = [("a", .group crossedFirst false),
      ("b", .group crossedSecond false), ("c", .group crossedThird false)] := by
    decide +kernel
  have hfirst : (resolve crossedOptions.naming crossedOptions.proposal
      (.group crossedFirst false)).run ⟨[], [], [], .ofList ["DataType"]⟩ =
        (.ok (.group "DataType1" false), crossedMiddle) :=
    Prod.ext (by decide +kernel) rfl
  have hsecond : (resolve crossedOptions.naming crossedOptions.proposal
      (.group crossedSecond false)).run crossedMiddle =
        (.ok (.group "DataType2" false), crossedStart) :=
    Prod.ext (by decide +kernel) rfl
  have hdeclares : Declares crossedOptions.naming crossedOptions.proposal crossedSchema
      ⟨[], [], [], .ofList []⟩ "c" (.group crossedThird false) (.ofList ["b", "a"])
        crossedStart := by
    have hscope : newScope crossedOptions.proposal crossedSchema ⟨[], [], [], .ofList []⟩ =
        ⟨"DataType", []⟩ := by
      rw [newScope, Registry.required_of_no_markers rfl]
      rfl
    have hdeclare : crossedOptions.naming.declare ⟨"DataType", []⟩ "a"
        (.group crossedFirst false) (.group "DataType1" false) (.ofList []) =
          .ok (some ⟨⟨"a", false⟩, "a", .group "DataType1" false, false,
            .group crossedFirst false⟩, .ofList ["a"]) := rfl
    have hdeclare' : crossedOptions.naming.declare ⟨"DataType", []⟩ "b"
        (.group crossedSecond false) (.group "DataType2" false) (.ofList ["a"]) =
          .ok (some ⟨⟨"b", false⟩, "b", .group "DataType2" false, false,
            .group crossedSecond false⟩, .ofList ["b", "a"]) := rfl
    refine ⟨rfl, rfl, ?_⟩
    rw [hentries, hscope]
    exact .later hfirst hdeclare (.later hsecond hdeclare' .here)
  exact .nested hdeclares rfl .self

-- The only field that is declared for the third record. Its identifier is inherited already.
def crossedField : Field :=
  ⟨.ofName "a b1", "a b1", .value "kotlin.Int" false, false, .value ⟨"kotlin.Int", false⟩⟩

theorem required_crossed : crossedStart.required crossedThird =
    crossedStart.markers.filter fun marker => marker.isOpen && marker.accepts crossedThird :=
  Registry.required_eq_filter (by decide +kernel)

theorem fails_crossed :
    Fails crossedOptions.naming crossedOptions.proposal crossedThird crossedStart
      (.conflict "DataType3" "a b1") := by
  have hown : (runFields crossedOptions.naming crossedOptions.proposal crossedThird
      crossedStart).1 = .ok [crossedField] := by
    rw [runFields, newScope, required_crossed]
    decide +kernel
  refine .invalid (by decide +kernel) ?_ (Prod.ext hown rfl) ?_
  · rw [← Option.isNone_iff_eq_none, required_crossed]
    decide +kernel
  · have hreached := ((Reached.start rfl).calls calls_crossed).2
    have hacyclic : Marker.repeatedAbove [(crossedStart.allocate crossedOptions.proposal.name).1]
        (candidate crossedOptions.proposal crossedThird crossedStart [crossedField]) = none :=
      hreached.repeatedAbove_candidate [crossedField]
    refine (Marker.make_error_iff hacyclic).mpr ⟨crossedField, ?_, by decide +kernel⟩
    rw [required_crossed]
    decide +kernel

theorem generate_crossed :
    generate crossedOptions crossedSchema = .error (.conflict "DataType3" "a b1") :=
  (generate_error_iff rfl rfl).mpr
    (process_error_iff.mpr ⟨crossedThird, crossedStart, calls_crossed, fails_crossed⟩)

theorem named_crossed : ∀ name ∈ crossedSchema.allNames, Text.isBlank name.toList = false := by
  decide +kernel

theorem generate_fails_iff_crossed :
    (∃ inner before identifier,
      Calls crossedOptions.naming crossedOptions.proposal crossedSchema ⟨[], [], [], .ofList []⟩
        inner before ∧
      Clash crossedOptions.naming crossedOptions.proposal inner before identifier) ∧
      ∃ error, generate crossedOptions (crossedRecord [" "]) = .error error := by
  have hnormalize : crossedOptions.normalize = .ofDelimiters [] := rfl
  obtain ⟨hiff, -⟩ := generate_fails_iff rfl hnormalize rfl rfl
  obtain ⟨-, -, -, hblank⟩ := generate_fails_iff rfl hnormalize rfl rfl
  refine ⟨(hiff.mp ⟨_, generate_crossed⟩).resolve_left ?_, (hblank ?_).1.mpr ⟨" ", ?_⟩⟩
  · rintro ⟨name, hm, hblank⟩
    rw [named_crossed name hm] at hblank
    contradiction
  · intro first hf second hs _
    have hnames : (crossedRecord [" "]).allNames = [" "] := by decide +kernel
    rw [hnames] at hf hs
    exact (List.mem_singleton.mp hf).trans (List.mem_singleton.mp hs).symm
  · decide +kernel

theorem not_generate_fails_crossed :
    crossedOptions.known = [] ∧ crossedOptions.normalize = .ofDelimiters [] ∧
      crossedOptions.onConflict = .suffix ∧ crossedOptions.mode.supportsSchemas = true ∧
      generate crossedOptions crossedSchema = .error (.conflict "DataType3" "a b1") ∧
      ∀ name ∈ crossedSchema.allNames, Text.isBlank name.toList = false :=
  ⟨rfl, rfl, rfl, rfl, generate_crossed, named_crossed⟩

end FrameMarkers
