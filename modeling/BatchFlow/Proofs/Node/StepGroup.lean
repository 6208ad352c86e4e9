import BatchFlow.Step
import Mathlib.Data.List.Basic

/-! Several steps one after the other make the same of a batch, whether the whole of it goes through
them stage by stage or each item goes through all of them before the next. -/

namespace BatchFlow.Step

/-- What a step makes of an item: nothing, if it discards it or fails on it. -/
def made (step : Item → StepResult) (item : Item) : List Item :=
  match step item with
  | .ok outputs => outputs
  | .error _ => []

/-- None of the steps discards an item of the batch, or what the steps before made of one, and none
fails on it. -/
def Undeterred : List (Item → StepResult) → List Item → Prop
  | [], _ => True
  | step :: rest, batch =>
    (∀ item ∈ batch, ∃ outputs, step item = .ok outputs) ∧
      Undeterred rest (batch.flatMap (made step))

/-- What comes out of the steps, the whole batch going through each of them before the next. -/
def outcome : List (Item → StepResult) → List Item → List Item
  | [], batch => batch
  | step :: rest, batch => outcome rest (batch.flatMap (made step))

variable {step : Item → StepResult} {steps : List (Item → StepResult)} {item : Item}
  {batch : List Item}

/-- A step that accepts an item makes its outputs of it. -/
theorem made_of_ok {outputs : List Item} (accepts : step item = .ok outputs) :
    made step item = outputs := by
  rw [made, accepts]

/-- The outputs of a step that accepts an item are what it makes of it. -/
theorem eq_made (accepts : ∃ outputs, step item = .ok outputs) :
    step item = .ok (made step item) := by
  obtain ⟨outputs, accepts⟩ := accepts
  rw [made_of_ok accepts, accepts]

/-- Out of nothing comes nothing. -/
@[simp] theorem outcome_nil (steps : List (Item → StepResult)) : outcome steps [] = [] := by
  induction steps with
  | nil => rfl
  | cons step rest ih => exact ih

/-- What comes out of a batch is what comes out of each item by itself, put together in order. -/
theorem outcome_eq_flatMap (steps : List (Item → StepResult)) (batch : List Item) :
    outcome steps batch = batch.flatMap fun item => outcome steps [item] := by
  induction steps generalizing batch with
  | nil => exact (List.flatMap_singleton' batch).symm
  | cons step rest ih =>
    calc outcome (step :: rest) batch
      _ = (batch.flatMap (made step)).flatMap fun item => outcome rest [item] := ih _
      _ = batch.flatMap fun item => (made step item).flatMap fun item => outcome rest [item] :=
        List.flatMap_assoc
      _ = batch.flatMap fun item => outcome (step :: rest) [item] := by
        -- A single item leaves the first step as all that it made.
        refine congrArg (batch.flatMap ·) (funext fun item => ?_)
        rw [← ih, outcome, List.flatMap_singleton]

/-- The steps accept a batch if they accept each item of it by itself. -/
theorem undeterred_iff_forall :
    Undeterred steps batch ↔ ∀ item ∈ batch, Undeterred steps [item] := by
  induction steps generalizing batch with
  | nil => simp [Undeterred]
  | cons step rest ih =>
    -- The items that reach the second step are those that come from any item of the batch.
    simp only [Undeterred, List.forall_mem_singleton, List.flatMap_singleton]
    rw [ih, List.forall_mem_flatMap]
    constructor
    · rintro ⟨accepts, further⟩ item member
      exact ⟨accepts item member, ih.mpr (further item member)⟩
    · intro each
      exact ⟨fun item member => (each item member).1,
        fun item member => ih.mp (each item member).2⟩

/-- A step that accepts all items is applied to each of them, and what it makes is put together in
order. -/
theorem forAll_eq (accepts : ∀ item ∈ batch, ∃ outputs, step item = .ok outputs) :
    forAll step batch = .ok (batch.flatMap (made step)) := by
  -- Item by item, since each is accepted whatever became of those before it.
  induction batch with
  | nil => rfl
  | cons item rest ih =>
    obtain ⟨first, others⟩ := List.forall_mem_cons.mp accepts
    rw [forAll, eq_made first, ih others]
    rfl

/-- A batch that no step is deterred by goes through all of them. -/
theorem through_eq (undeterred : Undeterred steps batch) :
    through steps batch = .ok (outcome steps batch) := by
  induction steps generalizing batch with
  | nil => rfl
  -- What the first step makes of the batch is the batch of the others.
  | cons step rest ih =>
    obtain ⟨accepts, further⟩ := undeterred
    rw [through, forAll_eq accepts]
    exact ih further

/-- The results of several steps are those of each by itself. -/
theorem resultsFor_eq_map (members : List Step) : resultsFor members = members.map resultFor := by
  induction members with
  | nil => rfl
  | cons step rest ih => rw [resultsFor, ih, List.map_cons]

/-- The result of a group is that of its members as one step. -/
theorem resultFor_group (members : List Step) (item : Item) :
    resultFor (group members) item = grouped (members.map resultFor) item := by
  rw [resultFor, resultsFor_eq_map]

/-- Steps that accept a batch accept it as one step, and what comes out is the same. -/
theorem undeterred_grouped (undeterred : Undeterred steps batch) :
    Undeterred [grouped steps] batch ∧ outcome [grouped steps] batch = outcome steps batch := by
  -- Each item by itself goes through the steps as well.
  have each : ∀ item ∈ batch, grouped steps item = .ok (outcome steps [item]) :=
    fun item member => through_eq (undeterred_iff_forall.mp undeterred item member)
  refine ⟨⟨fun item member => ⟨_, each item member⟩, trivial⟩, ?_⟩
  rw [outcome_eq_flatMap steps]
  exact List.flatMap_congr fun item member => made_of_ok (each item member)

end BatchFlow.Step
