import FrameMarkers.Proofs.Synthesis.Calls

namespace FrameMarkers

namespace Naming

abbrev strict (normalize : Normalizer) : Naming :=
  ⟨normalize, .fail⟩

abbrev lenient (normalize : Normalizer) : Naming :=
  ⟨normalize, .suffix⟩

-- The column needs an identifier of its own, and the one made from its name is in use.
def Collides (naming : Naming) (scope : Scope) (column : String) (used : NamePool) : Prop :=
  scope.inherited? column = none ∧ Text.isBlank (naming.source column).toList = false ∧
    used.contains (Identifier.ofName (naming.source column)).text = true

variable {normalize : Normalizer} {scope : Scope} {column : String} {used : NamePool}

theorem identify_eq_of_not_collides (hnone : scope.inherited? column = none)
    (h : ¬(strict normalize).Collides scope column used) :
    (strict normalize).identify scope column used =
      (lenient normalize).identify scope column used := by
  by_cases hblank : Text.isBlank ((strict normalize).source column).toList
  · have hblank' : Text.isBlank ((lenient normalize).source column).toList := hblank
    simp only [identify, hblank, hblank', if_true]
  · have hfree :
        used.contains (Identifier.ofName ((strict normalize).source column)).text = false :=
      eq_false_of_ne_true fun hused => h ⟨hnone, eq_false_of_ne_true hblank, hused⟩
    have hfree' : used.contains (Identifier.ofName ((lenient normalize).source column)).text =
        false := hfree
    simp only [identify, hfree, hfree', Bool.false_eq_true, if_false]
    rfl

theorem declare_eq_of_not_collides (h : ¬(strict normalize).Collides scope column used)
    (shape : Column) (type : FieldType) :
    (strict normalize).declare scope column shape type used =
      (lenient normalize).declare scope column shape type used := by
  cases hi : scope.inherited? column with
  | some field => simp only [declare, hi]
  | none => simp only [declare, hi, identify_eq_of_not_collides hi h]

theorem declare_of_collides (h : (strict normalize).Collides scope column used) (shape : Column)
    (type : FieldType) :
    (strict normalize).declare scope column shape type used =
      .error (.conflict scope.marker
        (Identifier.ofName ((strict normalize).source column)).text) := by
  obtain ⟨hnone, hblank, hused⟩ := h
  simp only [declare, hnone, identify, hblank, hused, Bool.false_eq_true, if_false, if_true]
  rfl

end Naming

namespace Synthesis

open Naming (strict lenient)

-- The call for the schema, or one that it makes, comes to a column whose identifier is in use.
def Collides (naming : Naming) (proposal : Proposal) (schema : Schema) (before : Registry) : Prop :=
  ∃ inner start name column used middle, Calls naming proposal schema before inner start ∧
    Declares naming proposal inner start name column used middle ∧
      naming.Collides (newScope proposal inner start) name used

variable {naming : Naming} {normalize : Normalizer} {proposal : Proposal} {schema nested : Schema}
  {scope : Scope} {columns : List (String × Column)} {used : NamePool}
  {registry before start after : Registry} {name : String} {column : Column} {marker : Marker}

theorem Collides.of_nested
    (declares : Declares naming proposal schema before name column used start)
    (holds : column.nested? = some nested) (h : Collides naming proposal nested start) :
    Collides naming proposal schema before := by
  obtain ⟨inner, last, name', column', used', middle, calls, hd, hc⟩ := h
  exact ⟨inner, last, name', column', used', middle, .nested declares holds calls, hd, hc⟩

theorem Collides.of_declares
    (declares : Declares naming proposal schema before name column used start)
    (h : naming.Collides (newScope proposal schema before) name used) :
    Collides naming proposal schema before :=
  ⟨schema, before, name, column, used, start, .self, declares, h⟩

theorem resolve_eq_of_nested
    (h : ∀ nested, column.nested? = some nested →
      (process (strict normalize) proposal nested).run registry =
        (process (lenient normalize) proposal nested).run registry) :
    (resolve (strict normalize) proposal column).run registry =
      (resolve (lenient normalize) proposal column).run registry := by
  cases hn : column.nested? with
  | none => rw [run_resolve_of_value hn, run_resolve_of_value hn]
  | some nested => rw [run_resolve_of_nested hn, run_resolve_of_nested hn, h nested hn]

-- The declarations go on alike from column to column as long as no column that they come to
-- collides and the calls on the way are alike.
theorem ownFields_eq_of_arrives
    (h : ∀ name column last start,
      Arrives (strict normalize) proposal scope columns used registry name column last start →
        ¬(strict normalize).Collides scope name last ∧
          ∀ nested, column.nested? = some nested →
            (process (strict normalize) proposal nested).run start =
              (process (lenient normalize) proposal nested).run start) :
    (ownFields (strict normalize) proposal scope columns used).run registry =
      (ownFields (lenient normalize) proposal scope columns used).run registry := by
  induction columns generalizing used registry with
  | nil => rfl
  | cons entry rest ih =>
      obtain ⟨name, column⟩ := entry
      obtain ⟨hfree, hnested⟩ := h name column used registry .here
      rw [run_ownFields_cons, run_ownFields_cons, ← resolve_eq_of_nested hnested]
      rcases hr : (resolve (strict normalize) proposal column).run registry with
        ⟨error | type, later⟩
      · rfl
      · dsimp only
        rw [← Naming.declare_eq_of_not_collides hfree column type]
        rcases hd : (strict normalize).declare scope name column type used with
          error | ⟨field?, used'⟩
        · rfl
        · dsimp only
          rw [ih fun name' column' last start arrives =>
            h name' column' last start (.later hr hd arrives)]

theorem process_eq_of_not_collides
    (h : ¬Collides (strict normalize) proposal schema before) :
    (process (strict normalize) proposal schema).run before =
      (process (lenient normalize) proposal schema).run before := by
  induction schema using Schema.nesting_induction generalizing before with
  | step schema ih =>
      rw [run_process, run_process]
      cases unseen : before.choice? schema with
      | some marker => rfl
      | none =>
          dsimp only
          cases unmet : before.reusable? schema (before.required schema) proposal.isOpen with
          | some marker => rfl
          | none =>
              have hfields : runFields (strict normalize) proposal schema before =
                  runFields (lenient normalize) proposal schema before := by
                refine ownFields_eq_of_arrives fun name column last start arrives => ?_
                have declares : Declares (strict normalize) proposal schema before name column last
                    start := ⟨unseen, unmet, arrives⟩
                exact ⟨fun hc => h (.of_declares declares hc), fun nested hn =>
                  ih nested (declares.nests hn) fun hc => h (.of_nested declares hn hc)⟩
              dsimp only
              rw [run_create, run_create, hfields]

-- A column that collides is refused, if the call has not failed before for its nested schema.
theorem Collides.exists_error (h : Collides (strict normalize) proposal schema before) :
    ∃ error, ((process (strict normalize) proposal schema).run before).1 = .error error := by
  obtain ⟨inner, start, name, column, used, middle, calls, declares, hcollides⟩ := h
  rcases hr : (resolve (strict normalize) proposal column).run middle with ⟨error | type, later⟩
  · have herror : ((resolve (strict normalize) proposal column).run middle).1 = .error error := by
      rw [hr]
    obtain ⟨nested, hn, hnested⟩ := resolve_error_iff.mp herror
    obtain ⟨last, found, hcalls, hfails⟩ := process_error_iff.mp hnested
    exact ⟨error, process_error_iff.mpr
      ⟨last, found, calls.trans (.nested declares hn hcalls), hfails⟩⟩
  · have hunnamed := Naming.declare_of_collides hcollides column type
    exact ⟨_, process_error_iff.mpr ⟨inner, start, calls, .unnamed declares hr hunnamed⟩⟩

theorem process_strict_ok_iff :
    (process (strict normalize) proposal schema).run before = (.ok marker, after) ↔
      (process (lenient normalize) proposal schema).run before = (.ok marker, after) ∧
        ¬Collides (strict normalize) proposal schema before := by
  constructor
  · intro hrun
    have hnot : ¬Collides (strict normalize) proposal schema before := fun h => by
      obtain ⟨error, he⟩ := h.exists_error
      rw [hrun] at he
      cases he
    exact ⟨process_eq_of_not_collides hnot ▸ hrun, hnot⟩
  · rintro ⟨hrun, hnot⟩
    rw [process_eq_of_not_collides hnot, hrun]

end Synthesis

end FrameMarkers
