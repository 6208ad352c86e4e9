import BatchFlow.Item.Json
import BatchFlow.Script
import BatchFlow.Text.Casing

/-! Steps: what turns one item into zero or more items. -/

namespace BatchFlow

/-- What happens to an item that contains a pattern. -/
inductive MatchAction where
  | discard
  | reject
deriving DecidableEq

/-- A step. -/
inductive Step where
  | changeCase (casing : Text.Casing)
  | reverse
  /-- Items pass unless their text contains the pattern. -/
  | matching (pattern : String) (action : MatchAction)
  /-- Several steps as one, the outputs of each going to the next. -/
  | group (members : List Step)
  | scripted (script : StepScript)

namespace Step

/-- Whether a pattern occurs in a text. -/
def occurs (pattern : List Char) : List Char → Bool
  | [] => pattern.isEmpty
  | c :: rest => pattern.isPrefixOf (c :: rest) || occurs pattern rest

/-- The text of an item that a pattern is looked for in. -/
def searched : Item → String
  | .string text => text
  | other => other.compact

/-- Changes the case of a string item. -/
def changeCaseOf (casing : Text.Casing) : Item → StepResult
  | .string text => .ok [.string (casing.convert text)]
  | other => .error (.failed (.dataFormat s!"expected a string item, got {other.compact}"))

/-- Writes a string item backwards. -/
def reverseOf : Item → StepResult
  | .string text => .ok [.string (String.ofList text.toList.reverse)]
  | _ => .error (.failed (.dataFormat "reverse_text only accepts string items"))

/-- Lets an item pass unless it contains the pattern. -/
def matchOf (pattern : String) (action : MatchAction) (item : Item) : StepResult :=
  if occurs pattern.toList (searched item).toList then
    match action with
    | .discard => .error (.discarded s!"matched '{pattern}'")
    | .reject => .error (.failed (.dataFormat s!"item contains '{pattern}'"))
  else .ok [item]

/-- The outputs for several items, or the first reason why there are none. -/
def forAll (step : Item → StepResult) : List Item → StepResult
  | [] => .ok []
  | item :: rest =>
    match step item with
    | .error rejection => .error rejection
    | .ok outputs =>
      match forAll step rest with
      | .error rejection => .error rejection
      | .ok more => .ok (outputs ++ more)

/-- Sends items through steps one after the other, all of them through each before the next. -/
def through : List (Item → StepResult) → List Item → StepResult
  | [], items => .ok items
  | step :: rest, items =>
    match forAll step items with
    | .error rejection => .error rejection
    | .ok outputs => through rest outputs

/-- Several steps as one: each item goes through all of them before the next. -/
def grouped (steps : List (Item → StepResult)) (item : Item) : StepResult :=
  through steps [item]

mutual

/-- The result of a step for an item. -/
def resultFor : Step → Item → StepResult
  | changeCase casing, item => changeCaseOf casing item
  | reverse, item => reverseOf item
  | matching pattern action, item => matchOf pattern action item
  | group members, item => grouped (resultsFor members) item
  | scripted script, item => script.resultFor item

/-- The results of several steps, each by itself. -/
def resultsFor : List Step → List (Item → StepResult)
  | [] => []
  | step :: rest => resultFor step :: resultsFor rest

end

/-- The name of a step. -/
def name : Step → String
  | changeCase _ => "change_text_case"
  | reverse => "reverse_text"
  | matching _ .discard => "discard_matching"
  | matching _ .reject => "reject_matching"
  | group _ => "step_group"
  | scripted _ => "script_step"

mutual

/-- What is wrong with the options of a step. -/
def problems : Step → List String
  | changeCase _ | reverse => []
  | matching pattern _ => if pattern.isEmpty then ["pattern is empty"] else []
  | group [] => ["step group has no steps"]
  | group (first :: rest) => memberProblems (first :: rest)
  | scripted script => script.problems

/-- The problems of the members of a group, each with the name of the member. -/
def memberProblems : List Step → List String
  | [] => []
  | step :: rest => (problems step).map (step.name ++ ": " ++ ·) ++ memberProblems rest

end

mutual

/-- The number of scripted steps in a step, each of which notes when it is reset. -/
def scriptCount : Step → Nat
  | scripted _ => 1
  | group members => scriptCounts members
  | changeCase _ | reverse | matching .. => 0

/-- The number of scripted steps in several steps. -/
def scriptCounts : List Step → Nat
  | [] => 0
  | step :: rest => scriptCount step + scriptCounts rest

end

/-- What the step writes into the metadata before each item. -/
def writes? : Step → Option Fields
  | scripted script => script.writes
  | _ => none

end Step

end BatchFlow
