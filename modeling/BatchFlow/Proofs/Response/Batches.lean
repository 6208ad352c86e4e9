import BatchFlow.Response

/-! When responses are merged, batches may be joined at the seams, but no item is lost, repeated or
moved. -/

namespace BatchFlow.Response

/-- Joining a batch to the discards adds its items under its reason, and changes nothing else. -/
theorem flatMap_joinDiscard (batches : List DiscardBatch) (batch : DiscardBatch) :
    (joinDiscard batches batch).flatMap (fun b => b.items.map (b.reason, ·)) =
      batches.flatMap (fun b => b.items.map (b.reason, ·)) ++
        batch.items.map (batch.reason, ·) := by
  -- The induction follows the walk to the last batch, which alone may be joined to.
  fun_induction joinDiscard batches batch with
  | case1 batch => simp
  | case2 batch last same => simp [same]
  | case3 batch last other => simp
  | case4 first next rest batch ih => simpa using ih

/-- Joining a batch to the errors adds its failed items, and changes nothing else. -/
theorem flatMap_joinError (batches : List ErrorBatch) (batch : ErrorBatch) :
    (joinError batches batch).flatMap (·.errors) = batches.flatMap (·.errors) ++ batch.errors := by
  -- Again only the last batch may be joined to.
  fun_induction joinError batches batch with
  | case1 batch => simp
  | case2 batch last same => simp
  | case3 batch last other => simp
  | case4 first next rest batch ih => simpa using ih

/-- Merging with a response that has only outputs adds them. -/
theorem merge_addOutput (response : Response) (items : List Item) :
    response.merge (empty.addOutput items) = response.addOutput items := by
  simp [merge, empty, addOutput]

/-- Merging with a response of one discard batch adds that batch, joined as it would be here. -/
theorem merge_addDiscard (response : Response) (items : List Item) (reason : String) :
    response.merge (empty.addDiscard items reason) = response.addDiscard items reason := by
  simp [merge, empty, addDiscard, joinDiscard]

/-- Merging with a response of one error batch adds that batch, joined as it would be here. -/
theorem merge_addError (response : Response) (batch : ErrorBatch) :
    response.merge (empty.addError batch) = response.addError batch := by
  simp [merge, empty, addError, joinError]

/-- What a response discards, each item with its reason. -/
def discarded (response : Response) : List (String × Item) :=
  response.discards.flatMap fun batch => batch.items.map (batch.reason, ·)

/-- The items that failed, with their causes. -/
def failed (response : Response) : List FailedItem :=
  response.errors.flatMap (·.errors)

/-- The outputs of the other response come after those that are there. -/
theorem output_merge (response other : Response) :
    (response.merge other).output = response.output ++ other.output := rfl

/-- So do the items that it discards, whichever batches they are joined to. -/
theorem discarded_merge (response other : Response) :
    (response.merge other).discarded = response.discarded ++ other.discarded := by
  -- The batches joined so far grow, so the claim is made for any of them.
  have general : ∀ batches : List DiscardBatch,
      (other.discards.foldl joinDiscard batches).flatMap (fun b => b.items.map (b.reason, ·)) =
        batches.flatMap (fun b => b.items.map (b.reason, ·)) ++ other.discarded := by
    unfold discarded
    induction other.discards with
    | nil => simp
    | cons batch rest ih => simp [ih, flatMap_joinDiscard]
  exact general response.discards

/-- So do the items that failed. -/
theorem failed_merge (response other : Response) :
    (response.merge other).failed = response.failed ++ other.failed := by
  -- Here, too, the batches joined so far may be any.
  have general : ∀ batches : List ErrorBatch,
      (other.errors.foldl joinError batches).flatMap (·.errors) =
        batches.flatMap (·.errors) ++ other.failed := by
    unfold failed
    induction other.errors with
    | nil => simp
    | cons batch rest ih => simp [ih, flatMap_joinError]
  exact general response.errors

/-- The response of one application as it is, and of several applications merged in order. -/
def joined : List Response → Response
  | [only] => only
  | responses => responses.foldl merge .empty

/-- Joining responses keeps every output, every discarded item and every failed item, in order. -/
theorem joined_keeps (responses : List Response) :
    (joined responses).output = responses.flatMap (·.output) ∧
    (joined responses).discarded = responses.flatMap discarded ∧
    (joined responses).failed = responses.flatMap failed := by
  -- Merging starts from some response, to which each further one is added.
  have general : ∀ start : Response,
      (responses.foldl merge start).output = start.output ++ responses.flatMap (·.output) ∧
      (responses.foldl merge start).discarded = start.discarded ++ responses.flatMap discarded ∧
      (responses.foldl merge start).failed = start.failed ++ responses.flatMap failed := by
    induction responses with
    | nil => simp
    | cons first rest ih =>
      intro start
      obtain ⟨output, discarded, failed⟩ := ih (start.merge first)
      refine ⟨?_, ?_, ?_⟩
      · simp [output, output_merge]
      · simp [discarded, discarded_merge]
      · simp [failed, failed_merge]
  -- A single response is taken as it is, and several are merged from the empty one.
  unfold joined
  split
  · simp
  · simpa [empty, discarded, failed] using general .empty

end BatchFlow.Response
