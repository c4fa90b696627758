import StageAtlas.Explorer.Detail
import StageAtlas.Text.Upper
import StageAtlas.View.Label

/-!
# The detail panel

What is told of the selected stage: its name and counts, the tabs, and the view of the active one.
-/

namespace StageAtlas.DetailPanel

def cross : String := "✕"

def heading (stage : StageDescriptor) : List Label :=
  [.plain stage.name, .plain (Text.upper stage.kind.label),
    (Label.exploring cross .closePanel).withHint "Close panel",
    .exploring "Deselect" .clearSelection]

def badge (letter : String) (count : Nat) (hint : String) : Label :=
  .telling (letter ++ " " ++ toString count) hint

def badges (stats : StageStats) : List Label :=
  [badge "T" stats.tables "Tables applied", badge "A" stats.actions "Actions declared",
    badge "S" stats.states "Parser states"]

/-- The tabs. The active one asks for nothing. -/
def tabs (active : DetailTab) : List Label :=
  DetailTab.all.map fun tab =>
    if tab = active then .plain tab.title else .exploring tab.title (.setTab tab)

/-- A part with a title that folds it, and its body if it is open. -/
def foldable (folds : Folds) (part : Fold) (title : String) (body : List Label) : List Label :=
  ⟨title, .fold part, []⟩ :: if folds.isOpen part then body else []

def titled (title : String) (body : List Label) : List Label :=
  if body.isEmpty then [] else .plain title :: body

def headerFields (header : Header) : List Label :=
  header.fields.flatMap fun field =>
    [.plain field.name, .plain ("bit<" ++ toString field.bits.toNat ++ ">")]

def headerPart (folds : Folds) (header : Header) : List Label :=
  foldable folds (.header header.name)
    (header.name ++ " (" ++ toString header.totalBits.toNat ++ " bits)") (headerFields header)

def headersPart (folds : Folds) (headers : List Header) : List Label :=
  foldable folds .headerTypes ("Header types (" ++ toString headers.length ++ ")")
    (if headers.isEmpty then [.plain "No header types declared."]
      else headers.flatMap (headerPart folds))

def externsPart (folds : Folds) (externs : List ExternObject) : List Label :=
  let title := "Externs (" ++ toString externs.length ++ ")"
  foldable folds (.externs title) title
    (if externs.isEmpty then [.plain "No externs declared."]
      else externs.map fun object => .plain (object.type ++ " → " ++ object.name))

def deepDive (folds : Folds) (view : DeepDive) : List Label :=
  .plain view.explanation ::
    (titled "Parser states" (view.parserSteps.map fun step => .plain ("• " ++ step.summary)) ++
      titled "Apply block" (view.applyBody.toList.map .plain) ++
      headersPart folds view.headers ++ externsPart folds view.externs)

/-- A list with its name; an empty one says so. -/
def namedList (name : String) (items : List String) : List Label :=
  .plain (name ++ ":") :: if items.isEmpty then [.plain "none"] else items.map .plain

def tableCard (card : TableCard) : List Label :=
  .plain card.name :: (card.size.toList.map fun size => .plain ("size " ++ toString size.toNat)) ++
    namedList "Keys" card.keys ++ namedList "Actions" card.actions

def tables (cards : List TableCard) : List Label :=
  if cards.isEmpty then [.plain "This stage applies no tables."] else cards.flatMap tableCard

def actionCard (card : ActionCard) : List Label :=
  .plain card.signature :: card.preview.toList.map .plain

def actions (cards : List ActionCard) : List Label :=
  if cards.isEmpty then [.plain "This stage declares no actions."] else cards.flatMap actionCard

def flow : FlowView → List Label
  | .steps list =>
      list.flatMap fun step => [.plain (toString step.number ++ "."), .plain step.text]
  | .noExplicitFlow => [.plain FlowView.placeholder]

def content (folds : Folds) : DetailView → List Label
  | .deepDive view => deepDive folds view
  | .tables cards => tables cards
  | .actions cards => actions cards
  | .flow view => flow view

def view (folds : Folds) (stage : StageDescriptor) (detail : DetailView) : List Label :=
  heading stage ++ badges stage.stats ++ tabs detail.tab ++ content folds detail

end StageAtlas.DetailPanel
