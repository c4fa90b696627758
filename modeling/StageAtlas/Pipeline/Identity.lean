/-!
# Identities in the pipeline

A stage is known by its name, and an edge by the two stages that it joins.
-/

namespace StageAtlas

structure StageId where
  name : String
  deriving DecidableEq, Repr

namespace StageId

def compare (a b : StageId) : Ordering :=
  if a.name < b.name then .lt else if b.name < a.name then .gt else .eq

def describe (id : StageId) : String := "StageId(" ++ id.name ++ ")"

end StageId

structure EdgeId where
  source : StageId
  target : StageId
  deriving DecidableEq, Repr

namespace EdgeId

def display (id : EdgeId) : String := "e-" ++ id.source.name ++ "-" ++ id.target.name

def describe (id : EdgeId) : String := "EdgeId(" ++ id.display ++ ")"

end EdgeId

end StageAtlas
