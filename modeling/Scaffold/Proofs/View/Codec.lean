import Scaffold.Proofs.Decoding.Record
import Scaffold.View.Codec

/-!
# Views read back as they were written

Every field of a view is written, save for values that it does not have, so
nothing is left to a default when the view is decoded again.  The properties of
its screens are open data, which must not be rearranged.
-/

namespace Scaffold

open Decoding
open Decoding.Record (reads_build)
open Json (Arrangement)

variable {arrangement : Arrangement}

/-! ## Routes -/

theorem NavEntry.decode_arranged (arrangement : Arrangement) (entry : NavEntry) :
    decode (arrangement.value entry.toJson) = .ok entry := by
  apply Record.Reads.decodeWith
  exact (reads_build _ _).required (text_arranged _ _)
    |>.required (text_arranged _ _)

theorem NavEntry.decodeList_arranged (arrangement : Arrangement) (entries : List NavEntry) :
    list decode (arrangement.value (listToJson entries)) = .ok entries :=
  list_arranged fun entry _ => entry.decode_arranged arrangement

theorem Routes.decode_arranged (arrangement : Arrangement) (routes : Routes) :
    decode (arrangement.value routes.toJson) = .ok routes := by
  apply Record.Reads.decodeWith
  exact (reads_build _ _).withDefault (bool_arranged _ _)
    |>.withDefault (NavEntry.decodeList_arranged _ _)
    |>.withDefault (NavEntry.decodeList_arranged _ _)
    |>.withDefault (bool_arranged _ _)
    |>.withDefault (NavEntry.decodeList_arranged _ _)

/-! ## Screens -/

instance : Choice.IsComplete ScreenRole where
  ofName?_name role := by cases role <;> rfl

theorem ViewScreen.decode_arranged {screen : ViewScreen}
    (kept : arrangement.fields screen.props = screen.props) :
    decode (arrangement.value screen.toJson) = .ok screen := by
  apply Record.Reads.decodeWith
  exact (reads_build _ _).required (Choice.decode_arranged _ _)
    |>.required (text_arranged _ _)
    |>.required (text_arranged _ _)
    |>.optional (fun title _ => text_arranged _ title)
    |>.withDefault (object_arranged kept)

/-! ## Views -/

/-- The open data of a view: the properties of its screens. -/
def AppView.openData (view : AppView) : List Json.Object :=
  view.screens.map ViewScreen.props

theorem AppView.decode_arranged {view : AppView}
    (kept : ∀ fields ∈ view.openData, arrangement.fields fields = fields) :
    decode (arrangement.value view.toJson) = .ok view := by
  have screensRead : list ViewScreen.decode
      (arrangement.value (.arr (view.screens.map ViewScreen.toJson))) = .ok view.screens :=
    list_arranged fun screen member =>
      ViewScreen.decode_arranged (kept _ (List.mem_map_of_mem member))
  apply Record.Reads.decodeWith
  exact (reads_build _ _).withDefault (text_arranged _ _)
    |>.withDefault (text_arranged _ _)
    |>.withDefault (text_arranged _ _)
    |>.withDefault (bool_arranged _ _)
    |>.optional (fun category _ => text_arranged _ category)
    |>.withDefault (Routes.decode_arranged _ _)
    |>.withDefault screensRead

end Scaffold
