import Scaffold.Proofs.Generation.Outcome
import Scaffold.Proofs.View.Compile
import Scaffold.Store.Memory

/-!
# Requests read back as they were written

A blueprint is told from a view by its metadata, which is always written and
which no view has.  So a written request reads back as the same kind of
request, and then field by field as the same one, even if the fields of its
objects are put into the order of their keys on the way.

That makes the view of a blueprint as good a request as the blueprint itself.
Once a blueprint has passed its own checks, only the view counts, and it is
written and read without loss.
-/

namespace Scaffold

open Json (Arrangement FieldsOrdered)

/-! ## Reading a written request -/

namespace Request

/-- The open data of a request. -/
def openData : Request → List Json.Object
  | .blueprint content => content.openData
  | .view content => content.openData

theorem isBlueprint_arranged_blueprint (arrangement : Arrangement) (blueprint : Blueprint) :
    isBlueprint (arrangement.value blueprint.toJson) = true := by
  simp [isBlueprint, Blueprint.toJson, arrangement.value_obj, arrangement.find?_fields]

theorem isBlueprint_arranged_view (arrangement : Arrangement) (view : AppView) :
    isBlueprint (arrangement.value view.toJson) = false := by
  simp [isBlueprint, AppView.toJson, arrangement.value_obj, arrangement.find?_fields]

theorem decode_arranged (arrangement : Arrangement) {request : Request}
    (kept : ∀ fields ∈ request.openData, arrangement.fields fields = fields) :
    decode (arrangement.value request.toJson) = .ok request := by
  cases request with
  | blueprint content =>
      rw [toJson, decode, isBlueprint_arranged_blueprint, if_pos rfl,
        Blueprint.decode_arranged kept]
      rfl
  | view content =>
      have notBlueprint : ¬isBlueprint (arrangement.value content.toJson) := by
        rw [isBlueprint_arranged_view]
        exact Bool.false_ne_true
      rw [toJson, decode, if_neg notBlueprint, AppView.decode_arranged kept]
      rfl

theorem decode_asWritten (request : Request) : decode request.toJson = .ok request :=
  decode_arranged .asWritten fun _ _ => rfl

theorem decode_byKey {request : Request}
    (inOrder : ∀ fields ∈ request.openData, FieldsOrdered fields) :
    decode request.toJson.ordered = .ok request :=
  decode_arranged .byKey fun fields isOpen => (inOrder fields isOpen).orderedFields_eq

/-- Decoding undoes encoding for blueprints and views alike.  It does so too if
all objects were put into the order of their keys, provided that the open data
of the request is in that order already. -/
theorem decode_toJson (request : Request) :
    decode request.toJson = .ok request ∧
      ((∀ fields ∈ request.openData, FieldsOrdered fields) →
        decode request.toJson.ordered = .ok request) :=
  ⟨decode_asWritten request, decode_byKey⟩

/-- A blueprint with all kinds of nodes, with open data of all kinds, and with
providers called `none` beside missing ones. -/
def thoroughShop : Blueprint where
  metadata := ⟨"Corner Shop", "corner-shop", "acme", .foodDelivery, false⟩
  navigation :=
    ⟨.drawer, .drawer "menu"
      [⟨"shop", "Shop", .tabs ""
          [⟨"browse", "Browse", .stack "browse-stack" (some "home")
              [.screen ⟨"home", some [("meta", .null), ("title", .str "Welcome")]⟩,
                .stack "" none []]⟩]⟩,
        ⟨"start", "Start", .screen ⟨"sign-in", none⟩⟩]⟩
  screens :=
    [⟨"home", .home, "Welcome", "HomeScreen.js", some "", some ⟨[]⟩,
        some [("items", .arr [.int 3, .obj [("a", .bool true), ("b", .null)]]), ("meta", .str "x")]⟩,
      ⟨"sign-in", .auth, "Welcome", "LoginScreen.js", none,
        some ⟨[("auth", .obj [("google", .bool true)])]⟩, none⟩]
  integrations := some ⟨some .none, none, none, some .expo, some .none⟩

theorem fieldsOrdered_thoroughShop :
    ∀ fields ∈ thoroughShop.openData, FieldsOrdered fields := by
  decide

theorem thoroughShop_decodes :
    (∀ fields ∈ thoroughShop.openData, FieldsOrdered fields) ∧
      decode thoroughShop.toJson = .ok (.blueprint thoroughShop) ∧
      decode thoroughShop.toJson.ordered = .ok (.blueprint thoroughShop) := by
  obtain ⟨asWritten, byKey⟩ := decode_toJson (.blueprint thoroughShop)
  exact ⟨fieldsOrdered_thoroughShop, asWritten, byKey fieldsOrdered_thoroughShop⟩

end Request

/-! ## The view of a blueprint as a request -/

namespace Generator

/-- Two requests lead to the same archive and package, or to the same error. -/
def Agree (generator : Generator) (first second : Request) : Prop :=
  generator.generateArchive first = generator.generateArchive second ∧
    generator.generate first = generator.generate second

variable {generator : Generator} {blueprint : Blueprint}

theorem Agree.of_prepare {first second : Request}
    (same : generator.prepare first = generator.prepare second) :
    generator.Agree first second := by
  have archives : generator.generateArchive first = generator.generateArchive second := by
    rw [generateArchive, generateArchive, same]
  exact ⟨archives, generate_congr archives⟩

/-- A blueprint without flaws is prepared like its view. -/
theorem prepare_view_compile
    (flawless : blueprint.violations generator.settings.allowDanglingReferences = []) :
    generator.prepare (.view (blueprint.compile generator.settings.applyFeatureDefaults)) =
      generator.prepare (.blueprint blueprint) := by
  rw [prepare_blueprint, if_pos flawless]

/-- For a blueprint without flaws, the written form of its view reads back as a
request that agrees with the blueprint, whether its objects are left as they
are written or put into the order of their keys. -/
theorem compiled_request_agrees
    (flawless : blueprint.violations generator.settings.allowDanglingReferences = []) :
    let view := blueprint.compile generator.settings.applyFeatureDefaults
    (∃ request, Request.decode view.toJson = .ok request ∧
        generator.Agree request (.blueprint blueprint)) ∧
      ((∀ fields ∈ blueprint.openData, FieldsOrdered fields) →
        ∃ request, Request.decode view.toJson.ordered = .ok request ∧
          generator.Agree request (.blueprint blueprint)) := by
  intro view
  have agree : generator.Agree (.view view) (.blueprint blueprint) :=
    .of_prepare (prepare_view_compile flawless)
  constructor
  · exact ⟨.view view, Request.decode_asWritten (.view view), agree⟩
  · intro inOrder
    have viewInOrder : ∀ fields ∈ (Request.view view).openData, FieldsOrdered fields :=
      Blueprint.fieldsOrdered_openData_compile _ inOrder
    exact ⟨.view view, Request.decode_byKey viewInOrder, agree⟩

/-- A generator that completes flags. -/
def completing : Generator :=
  ⟨MemoryStore.empty.toStore, { Settings.standard with applyFeatureDefaults := true }⟩

theorem thoroughShop_request_agrees :
    Request.thoroughShop.violations completing.settings.allowDanglingReferences = [] ∧
      (∃ request, Request.decode (Request.thoroughShop.compile true).toJson = .ok request ∧
        completing.Agree request (.blueprint Request.thoroughShop)) ∧
      ∃ request, Request.decode (Request.thoroughShop.compile true).toJson.ordered = .ok request ∧
        completing.Agree request (.blueprint Request.thoroughShop) := by
  have flawless :
      Request.thoroughShop.violations completing.settings.allowDanglingReferences = [] := by
    decide
  obtain ⟨asWritten, byKey⟩ := compiled_request_agrees flawless
  exact ⟨flawless, asWritten, byKey Request.fieldsOrdered_thoroughShop⟩

end Generator

end Scaffold
