import Scaffold.Blueprint.Codec
import Scaffold.Proofs.Navigation.Codec

/-!
# Blueprints read back as they were written

Fields without a value are left out and read back as missing, also where a
value is itself called `none`.  Options of references, flags and properties are
open data, which must not be rearranged.
-/

namespace Scaffold

open Decoding
open Decoding.Record (reads_build)
open Json (Arrangement)

variable {arrangement : Arrangement}

/-! ## Metadata -/

instance : Choice.IsComplete AppCategory where
  ofName?_name category := by cases category <;> rfl

theorem Metadata.decode_arranged (arrangement : Arrangement) (metadata : Metadata) :
    decode (arrangement.value metadata.toJson) = .ok metadata := by
  apply Record.Reads.decodeWith
  exact (reads_build _ _).required (text_arranged _ _)
    |>.required (text_arranged _ _)
    |>.required (text_arranged _ _)
    |>.required (Choice.decode_arranged _ _)
    |>.required (bool_arranged _ _)

/-! ## Screens -/

instance : Choice.IsComplete ScreenKind where
  ofName?_name kind := by cases kind <;> rfl

theorem FeatureFlags.decode_arranged {flags : FeatureFlags}
    (kept : arrangement.fields flags.groups = flags.groups) :
    decode (arrangement.value flags.toJson) = .ok flags := by
  rw [toJson, decode, object_arranged kept]
  rfl

/-- The open data of a screen: its flags and its properties. -/
def ScreenSpec.openData (screen : ScreenSpec) : List Json.Object :=
  (screen.features.map FeatureFlags.groups).toList ++ screen.props.toList

theorem ScreenSpec.decode_arranged {screen : ScreenSpec}
    (kept : ∀ fields ∈ screen.openData, arrangement.fields fields = fields) :
    decode (arrangement.value screen.toJson) = .ok screen := by
  have flagsKept : ∀ flags ∈ screen.features, arrangement.fields flags.groups = flags.groups := by
    intro flags member
    apply kept
    simp [openData, Option.mem_def.mp member]
  have propsKept : ∀ props ∈ screen.props, arrangement.fields props = props := by
    intro props member
    apply kept
    simp [openData, Option.mem_def.mp member]
  apply Record.Reads.decodeWith
  exact (reads_build _ _).required (text_arranged _ _)
    |>.required (Choice.decode_arranged _ _)
    |>.required (text_arranged _ _)
    |>.required (text_arranged _ _)
    |>.optional (fun title _ => text_arranged _ title)
    |>.optional (fun flags member => FeatureFlags.decode_arranged (flagsKept flags member))
      (by simp [FeatureFlags.toJson])
    |>.optional (fun props member => object_arranged (propsKept props member))

/-! ## Integrations -/

instance : Choice.IsComplete AuthProvider where
  ofName?_name provider := by cases provider <;> rfl

instance : Choice.IsComplete DatabaseProvider where
  ofName?_name provider := by cases provider <;> rfl

instance : Choice.IsComplete StorageProvider where
  ofName?_name provider := by cases provider <;> rfl

instance : Choice.IsComplete AnalyticsProvider where
  ofName?_name provider := by cases provider <;> rfl

instance : Choice.IsComplete PushProvider where
  ofName?_name provider := by cases provider <;> rfl

theorem Integrations.decode_arranged (arrangement : Arrangement) (integrations : Integrations) :
    decode (arrangement.value integrations.toJson) = .ok integrations := by
  apply Record.Reads.decodeWith
  exact (reads_build _ _).optional (fun auth _ => Choice.decode_arranged _ auth)
    |>.optional (fun database _ => Choice.decode_arranged _ database)
    |>.optional (fun storage _ => Choice.decode_arranged _ storage)
    |>.optional (fun analytics _ => Choice.decode_arranged _ analytics)
    |>.optional (fun push _ => Choice.decode_arranged _ push)

/-! ## Blueprints -/

namespace Blueprint

/-- The open data of a blueprint: the options at its leaves, and the flags and
properties of its screens. -/
def openData (blueprint : Blueprint) : List Json.Object :=
  blueprint.navigation.tree.leaves.flatMap (fun reference => reference.options.toList) ++
    blueprint.screens.flatMap ScreenSpec.openData

theorem decode_arranged {blueprint : Blueprint}
    (kept : ∀ fields ∈ blueprint.openData, arrangement.fields fields = fields) :
    decode (arrangement.value blueprint.toJson) = .ok blueprint := by
  have referencesKept : ∀ reference ∈ blueprint.navigation.tree.leaves,
      reference.Kept arrangement := by
    intro reference isLeaf options member
    apply kept
    apply List.mem_append_left
    exact List.mem_flatMap.mpr ⟨reference, isLeaf, Option.mem_toList.mpr member⟩
  have screensRead : list ScreenSpec.decode
      (arrangement.value (.arr (blueprint.screens.map ScreenSpec.toJson))) =
        .ok blueprint.screens := by
    apply list_arranged
    intro screen member
    apply ScreenSpec.decode_arranged
    intro fields isOpen
    apply kept
    apply List.mem_append_right
    exact List.mem_flatMap.mpr ⟨screen, member, isOpen⟩
  apply Record.Reads.decodeWith
  exact (reads_build _ _).required (Metadata.decode_arranged _ _)
    |>.required (Navigation.decode_arranged referencesKept)
    |>.withDefault screensRead
    |>.optional (fun integrations _ => integrations.decode_arranged _)
      (by simp [Integrations.toJson])

end Blueprint

end Scaffold
