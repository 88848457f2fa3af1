import Scaffold.Proofs.Blueprint.Codec
import Scaffold.Proofs.View.Codec
import Scaffold.View.Compile

/-!
# Compiling keeps open data in order

Compiling a blueprint touches the open data of its screens in one place: the
flags, which may be completed, become a property of their screen.  Both steps
set fields of objects, so what was in order before is in order afterwards.
-/

namespace Scaffold

open Json (FieldsOrdered)

/-! ## Flags -/

theorem FeatureOption.isOrdered_of_defaultValue? {option : FeatureOption} {default : Json}
    (isDefault : option.defaultValue? = some default) : default.IsOrdered := by
  have choicesInOrder : ∀ choices : List String, Json.ItemsOrdered (choices.map Json.str) := by
    intro choices
    induction choices with
    | nil => trivial
    | cons choice choices ih =>
        rw [List.map_cons, Json.ItemsOrdered]
        exact ⟨trivial, ih⟩
  unfold defaultValue? at isDefault
  split at isDefault
  · obtain ⟨truth, _, rfl⟩ := Option.map_eq_some_iff.mp isDefault
    trivial
  · obtain ⟨choices, _, rfl⟩ := Option.map_eq_some_iff.mp isDefault
    rw [Json.IsOrdered]
    exact choicesInOrder choices
  · obtain ⟨choice, _, rfl⟩ := Option.map_eq_some_iff.mp isDefault
    trivial

namespace FeatureFlags

variable {flags : FeatureFlags}

theorem fieldsOrdered_fieldsOf (inOrder : FieldsOrdered flags.groups) (group : String) :
    FieldsOrdered (flags.fieldsOf group) := by
  unfold fieldsOf
  cases found : Json.Object.find? group flags.groups with
  | none => trivial
  | some value =>
      have valueInOrder := inOrder.isOrdered_of_find? found
      cases value with
      | obj fields =>
          rw [Json.IsOrdered] at valueInOrder
          exact valueInOrder
      | _ => trivial

theorem fieldsOrdered_set (inOrder : FieldsOrdered flags.groups) (key : String) {value : Json}
    (valueInOrder : value.IsOrdered) : FieldsOrdered (flags.set key value).groups := by
  unfold set
  split
  · exact inOrder
  · next group field _ =>
      apply inOrder.insert
      rw [Json.IsOrdered]
      exact (fieldsOrdered_fieldsOf inOrder group).insert field valueInOrder

theorem fieldsOrdered_complete (inOrder : FieldsOrdered flags.groups) (option : FeatureOption) :
    FieldsOrdered (flags.complete option).groups := by
  unfold complete
  split
  · next isDefault =>
      exact fieldsOrdered_set inOrder _ (FeatureOption.isOrdered_of_defaultValue? isDefault)
  · exact inOrder

theorem fieldsOrdered_withDefaults (inOrder : FieldsOrdered flags.groups) (kind : ScreenKind) :
    FieldsOrdered (flags.withDefaults kind).groups := by
  unfold withDefaults
  induction kind.features generalizing flags with
  | nil => exact inOrder
  | cons option options ih => exact ih (fieldsOrdered_complete inOrder option)

end FeatureFlags

/-! ## Screens -/

namespace ScreenSpec

variable {screen : ScreenSpec}

theorem fieldsOrdered_visibleFeatures (applyDefaults : Bool)
    (inOrder : ∀ flags ∈ screen.features, FieldsOrdered flags.groups) :
    FieldsOrdered (screen.visibleFeatures applyDefaults).groups := by
  have givenInOrder : FieldsOrdered (screen.features.getD .empty).groups := by
    cases given : screen.features with
    | none => trivial
    | some flags => exact inOrder flags given
  unfold visibleFeatures
  cases applyDefaults with
  | false => exact givenInOrder
  | true => exact FeatureFlags.fieldsOrdered_withDefaults givenInOrder screen.kind

theorem fieldsOrdered_props_project (applyDefaults : Bool)
    (inOrder : ∀ fields ∈ screen.openData, FieldsOrdered fields) :
    FieldsOrdered (screen.project applyDefaults).props := by
  have flagsInOrder : ∀ flags ∈ screen.features, FieldsOrdered flags.groups := by
    intro flags member
    apply inOrder
    simp [openData, Option.mem_def.mp member]
  have propsInOrder : FieldsOrdered (screen.props.getD []) := by
    cases given : screen.props with
    | none => trivial
    | some props =>
        apply inOrder
        simp [openData, given]
  apply propsInOrder.insert
  rw [FeatureFlags.toJson, Json.IsOrdered]
  exact fieldsOrdered_visibleFeatures applyDefaults flagsInOrder

end ScreenSpec

/-! ## Blueprints -/

/-- The view of a blueprint whose open data is in order has its open data in
order too. -/
theorem Blueprint.fieldsOrdered_openData_compile {blueprint : Blueprint} (applyDefaults : Bool)
    (inOrder : ∀ fields ∈ blueprint.openData, FieldsOrdered fields) :
    ∀ fields ∈ (blueprint.compile applyDefaults).openData, FieldsOrdered fields := by
  simp only [compile, AppView.openData, List.map_map, List.forall_mem_map]
  intro screen member
  apply ScreenSpec.fieldsOrdered_props_project
  intro fields isOpen
  apply inOrder
  apply List.mem_append_right
  exact List.mem_flatMap.mpr ⟨screen, member, isOpen⟩

end Scaffold
