import StageAtlas.Pipeline.Overview
import StageAtlas.Text.Upper
import StageAtlas.View.Label

/-!
# The overview page

The counts of the whole program, and a row for each stage that leads to it.
-/

namespace StageAtlas.OverviewPage

def card (caption : String) (count : Nat) : List Label :=
  [.plain (toString count), .plain caption]

def cards (overview : Overview) : List Label :=
  card "Stages" overview.stages ++ card "Tables" overview.tables ++
    card "Header types" overview.headers ++ card "Actions" overview.actions ++
    card "Externs" overview.externs

def row (stage : StageDescriptor) : List Label :=
  [.plain (toString (stage.orderIndex + 1)), .plain (Text.upper stage.kind.label),
    .exploring stage.name (.selectStage stage.id),
    .plain (toString stage.stats.tables ++ " table(s), " ++ toString stage.stats.actions ++
      " action(s)"),
    .plain (if 0 < stage.stats.states then toString stage.stats.states ++ " state(s)" else "")]

/-- The page of a program that was loaded at a given time. -/
def view (title time : String) (overview : Overview) (stages : List StageDescriptor) :
    List Label :=
  .plain title :: .plain ("Loaded " ++ time) :: cards overview ++
    .plain "Stages" :: stages.flatMap row

end StageAtlas.OverviewPage
