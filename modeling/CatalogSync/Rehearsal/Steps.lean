import CatalogSync.Json.Printer
import CatalogSync.Pipeline.Basic
import CatalogSync.Number.Word

/-!
# Scripted steps

Pipelines over JSON whose steps follow a script: each answers its input by the first case that fits. What steps were applied to and
what the sink was told are kept, so that a run can be looked at afterwards.
-/

namespace CatalogSync.Rehearsal

/-- What a run leaves behind: the inputs of scripted functions under their names, and the failures reported under the names of
pipelines, each in order. -/
structure Transcript where
  applied : List (String × Json)
  reported : List (String × Failure)

/-- Runs that leave a transcript. -/
abbrev Rehearsed := StateM Transcript

/-- A value made from another. -/
inductive Transform where
  | input
  | wrap
  | add (n : Int)
  | const (v : Json)

/-- The value a transform makes. Sums wrap around at 64 bits; what is not such a number is left as it is. -/
def Transform.apply : Transform → Json → Json
  | .input, v => v
  | .wrap, v => .arr [v]
  | .add n, .num (.int i) => if Word.isSigned i then .ofInt (Int.bmod (i + n) Word.count) else .ofInt i
  | .add _, v => v
  | .const v, _ => v

/-- An outcome made from an input. -/
inductive Reaction where
  | success (content : Transform)
  | recoverable (content : Option Transform) (failures : List Failure)
  | fatal (failures : List Failure)
  | failure (content : Option Transform) (failure : Failure)
  | merge (parts : List Reaction)
  | map (of : Reaction) (after : Transform)

mutual

/-- The outcome a reaction makes of an input. -/
def Reaction.apply : Reaction → Json → Outcome Json
  | .success t, v => .success (t.apply v)
  | .recoverable t fs, v => .recoverable (t.map (·.apply v)) fs
  | .fatal fs, _ => .fatal fs
  | .failure t f, v => Outcome.ofFailure (t.map (·.apply v)) f
  | .merge parts, v => (Outcome.merge (Reaction.applyAll parts v)).map Json.arr
  | .map of t, v => (Reaction.apply of v).map t.apply

/-- The outcomes several reactions make of one input. -/
def Reaction.applyAll : List Reaction → Json → List (Outcome Json)
  | [], _ => []
  | r :: rest, v => Reaction.apply r v :: Reaction.applyAll rest v

end

/-- A reaction to the inputs that equal a value, or to all. -/
structure Case where
  pattern : Option Json
  reaction : Reaction

/-- The outcome of the first case that fits; success with the input when none does. -/
def react (cases : List Case) (v : Json) : Outcome Json :=
  match cases.find? fun c => c.pattern.all fun p => p.same v with
  | some c => c.reaction.apply v
  | none => .success v

/-- The name of the kind of a JSON value. -/
def kindName : Json → String
  | .null => "null"
  | .bool _ => "bool"
  | .num _ => "number"
  | .str _ => "string"
  | .arr _ => "array"
  | .obj _ => "object"

/-- A test of elements. -/
inductive Test where
  | equal (v : Json)
  | different (v : Json)
  | kind (name : String)
  | greater (n : Int)

/-- Whether an element passes a test. -/
def Test.holds : Test → Json → Bool
  | .equal v, x => v.same x
  | .different v, x => !v.same x
  | .kind name, x => kindName x == name
  | .greater n, .num (.int i) => Word.isSigned i && n < i
  | .greater _, _ => false

/-- A key of elements. -/
inductive Key where
  | text
  | kind
  | field (name : String)

/-- The key of an element. -/
def Key.of : Key → Json → String
  | .text, v => v.render
  | .kind, v => kindName v
  | .field name, v => ((v.field? name).bind Json.str?).getD ""

/-- The elements of a value: those of an array, none of null, else the value itself. -/
def elementsOf : Json → List Json
  | .null => []
  | .arr vs => vs
  | v => [v]

/-- The script of a step. -/
inductive StepScript where
  | function (name : String) (cases : List Case)
  | filter (name : String) (test : Test)
  | feeder (inner : StepScript)
  | zipper (inner : StepScript) (key : Key)
  | pipeline (name : String) (steps : List (StepScript × Json))

/-- A step on collections as a step on JSON values. -/
def onElements {β : Type} (s : Step Rehearsed (List Json) β) (out : β → Json) : Step Rehearsed Json Json where
  name := s.name
  apply v := return (← s.apply (elementsOf v)).map out

/-- A scripted function, which notes its input. -/
def noted (name : String) (cases : List Case) : Step Rehearsed Json Json where
  name := name
  apply v := do
    modify fun t => { t with applied := t.applied ++ [(name, v)] }
    return react cases v

/-- A sink that notes what it is told. -/
def notingSink (pipeline : String) (f : Failure) : Rehearsed Unit :=
  modify fun t => { t with reported := t.reported ++ [(pipeline, f)] }

/-- A pipeline with more steps, each with the value it falls back to. -/
def chained (p : Pipeline Rehearsed Json Json) (steps : List (Step Rehearsed Json Json × Json)) :
    Pipeline Rehearsed Json Json :=
  steps.foldl (fun p s => p.step s.1 (pure s.2)) p

mutual

/-- The step that follows a script. -/
def StepScript.toStep : StepScript → Step Rehearsed Json Json
  | .function name cases => noted name cases
  | .filter name test => onElements (Step.filter name test.holds) Json.arr
  | .feeder inner => onElements (Step.feeder (StepScript.toStep inner)) Json.arr
  | .zipper inner key => onElements (Step.zipper (StepScript.toStep inner) key.of) Json.ofFields
  | .pipeline name steps => (chained (Pipeline.start name notingSink) (StepScript.toSteps steps)).asStep

/-- The steps that follow scripts, each with the value it falls back to. -/
def StepScript.toSteps : List (StepScript × Json) → List (Step Rehearsed Json Json × Json)
  | [] => []
  | (s, fallback) :: rest => (StepScript.toStep s, fallback) :: StepScript.toSteps rest

end

/-- The pipeline of a script, with the value its supplier gives if it has one. -/
def scriptedPipeline (name : String) (supply : Option Json) (steps : List (StepScript × Json)) :
    Pipeline Rehearsed Json Json :=
  { chained (Pipeline.start name notingSink) (StepScript.toSteps steps) with supplier := supply.map pure }

end CatalogSync.Rehearsal
