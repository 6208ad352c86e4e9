import BatchFlow.Proofs.Response.Batches
import Mathlib.Data.List.Chain

/-! A response depends on what was added to it and in which order, and not on how it was put
together. So merging is associative, and neighbouring batches are never alike, whatever was merged
with what. -/

namespace BatchFlow

/-- What tells the batches of a channel apart, and how two of them that are alike become one. -/
structure Joining (β κ : Type) where
  key : β → κ
  glue : β → β → β
  key_glue : ∀ first second, key (glue first second) = key first
  glue_assoc : ∀ first second third,
    glue (glue first second) third = glue first (glue second third)

namespace Joining

variable {β κ : Type} [DecidableEq κ] (joining : Joining β κ)

/-- Appends a batch to others, gluing it to the last one if the two are alike. -/
def join : List β → β → List β
  | [], batch => [batch]
  | [last], batch =>
    if joining.key last = joining.key batch then [joining.glue last batch] else [last, batch]
  | first :: next :: rest, batch => first :: join (next :: rest) batch

/-- No two neighbours are alike. -/
def Sorted (batches : List β) : Prop :=
  batches.IsChain fun batch next => joining.key batch ≠ joining.key next

variable {joining} {batches : List β} {batch : β}

/-- Only the last batch matters, so the ones before it stay where they are. -/
theorem join_cons (first : β) (more : batches ≠ []) :
    joining.join (first :: batches) batch = first :: joining.join batches batch := by
  obtain ⟨next, rest, rfl⟩ := List.exists_cons_of_ne_nil more
  rfl

/-- Where a batch has been joined there is one. -/
theorem join_ne_nil : joining.join batches batch ≠ [] := by
  fun_induction join joining batches batch <;> simp

/-- Two batches that are alike can be joined one after the other, or as one. -/
theorem join_glue {last : β} (alike : joining.key last = joining.key batch) :
    joining.join (joining.join batches last) batch =
      joining.join batches (joining.glue last batch) := by
  -- The induction follows the walk to the batch that the first of the two may be joined to.
  fun_induction join joining batches last with
  | case1 last => simp [join, alike]
  | case2 earlier last same =>
    have still : joining.key (joining.glue earlier last) = joining.key batch := by
      rw [joining.key_glue, same, alike]
    have whole : joining.key earlier = joining.key (joining.glue last batch) := by
      rw [joining.key_glue, same]
    simp only [join, if_pos still, if_pos whole, joining.glue_assoc]
  | case3 earlier last other =>
    have apart : joining.key earlier ≠ joining.key (joining.glue last batch) := by
      rwa [joining.key_glue]
    simp only [join, if_pos alike, if_neg apart]
  | case4 first next rest last ih =>
    rw [join_cons first join_ne_nil, ih alike, join_cons first (List.cons_ne_nil next rest)]

/-- Joining a whole list to others, to which a batch was joined before, is joining the list first
and then the batch. -/
theorem foldl_join (start : List β) :
    (joining.join batches batch).foldl joining.join start =
      joining.join (batches.foldl joining.join start) batch := by
  -- The induction follows the walk to the last batch here, the start being whatever is there by
  -- then.
  fun_induction join joining batches batch generalizing start with
  | case1 batch => rfl
  | case2 last batch same =>
    -- At the seam the two batches are alike, and it makes no difference when they are glued.
    exact (join_glue same).symm
  | case3 last batch other => rfl
  | case4 first next rest batch ih => exact ih _

/-- What holds of all batches, of a further one, and of two that are alike when they are glued,
holds of all of them when the further one has been joined. -/
theorem forall_mem_join {holds : β → Prop} (all : ∀ earlier ∈ batches, holds earlier)
    (further : holds batch)
    (glued : ∀ last, holds last → joining.key last = joining.key batch →
      holds (joining.glue last batch)) :
    ∀ joined ∈ joining.join batches batch, holds joined := by
  -- The further batch is glued to the last one, comes after it, or goes further back.
  fun_induction join joining batches batch with
  | case1 batch => simpa using further
  | case2 last batch same => simpa using glued last (all last (by simp)) same
  | case3 last batch other => simpa using ⟨all last (by simp), further⟩
  | case4 first next rest batch ih =>
    obtain ⟨here, there⟩ := List.forall_mem_cons.mp all
    exact List.forall_mem_cons.mpr ⟨here, ih there further glued⟩

/-- The batch in front keeps its key when another one is joined further back. -/
theorem head_join (first : β) (rest : List β) :
    ∃ head tail, joining.join (first :: rest) batch = head :: tail ∧
      joining.key head = joining.key first := by
  -- Only the last batch is glued to, and gluing keeps the key.
  cases rest with
  | nil =>
    by_cases same : joining.key first = joining.key batch
    · exact ⟨joining.glue first batch, [], by simp [join, same], joining.key_glue first batch⟩
    · exact ⟨first, [batch], by simp [join, same], rfl⟩
  | cons next rest => exact ⟨first, joining.join (next :: rest) batch, rfl, rfl⟩

/-- Neighbours that are not alike stay so: a batch that is like the last one becomes part of it. -/
theorem Sorted.join (sorted : joining.Sorted batches) :
    joining.Sorted (joining.join batches batch) := by
  unfold Sorted at sorted ⊢
  fun_induction Joining.join joining batches batch with
  | case1 batch => exact .singleton batch
  | case2 last batch same => exact .singleton _
  | case3 last batch other => exact .cons_cons other (.singleton batch)
  | case4 first next rest batch ih =>
    obtain ⟨apart, others⟩ := List.isChain_cons_cons.mp sorted
    have further := ih others
    -- The neighbour of the first batch may have grown, but has kept its key.
    obtain ⟨head, tail, same, kept⟩ : ∃ head tail,
        joining.join (next :: rest) batch = head :: tail ∧ joining.key head = joining.key next :=
      head_join next rest
    rw [same] at further ⊢
    exact .cons_cons (kept ▸ apart) further

end Joining

namespace Response

/-- Discards are told apart by their reasons. -/
def byReason : Joining DiscardBatch String where
  key := DiscardBatch.reason
  glue last batch := ⟨last.items ++ batch.items, last.reason⟩
  key_glue _ _ := rfl
  glue_assoc _ _ _ := by simp

/-- Errors are told apart by their kinds. -/
def byKind : Joining ErrorBatch Kind where
  key := ErrorBatch.kind
  glue last batch := ⟨last.kind, last.errors ++ batch.errors⟩
  key_glue _ _ := rfl
  glue_assoc _ _ _ := by simp

/-- The discards of a response are joined by reason. -/
theorem joinDiscard_eq : joinDiscard = byReason.join := by
  -- The two functions recurse in the same way, and differ only in how two batches become one.
  funext batches batch
  fun_induction joinDiscard batches batch with
  | case1 batch => rfl
  | case2 last batch same => simp [Joining.join, byReason, same]
  | case3 last batch other => simp [Joining.join, byReason, other]
  | case4 first next rest batch ih => rw [ih, Joining.join]

/-- Its errors are joined by kind. -/
theorem joinError_eq : joinError = byKind.join := by
  -- Both go through the batches in the same way, with the kind as the key.
  funext batches batch
  fun_induction joinError batches batch with
  | case1 batch => rfl
  | case2 last batch same => simp [Joining.join, byKind, same]
  | case3 last batch other => simp [Joining.join, byKind, other]
  | case4 first next rest batch ih => rw [ih, Joining.join]

/-- Something that is added to a response at once. -/
inductive Addition where
  | output (items : List Item)
  | discard (items : List Item) (reason : String)
  /-- Items that all failed for the same cause in one node. -/
  | error (items : List Item) (cause : Condition) (origin worker : String)

namespace Addition

/-- The response with the addition. -/
def addTo (response : Response) : Addition → Response
  | output items => response.addOutput items
  | discard items reason => response.addDiscard items reason
  | error items cause origin worker => response.addError (.ofItems items cause origin worker)

/-- What the addition adds to the output. -/
def outputs : Addition → List Item
  | output items => items
  | discard .. | error .. => []

/-- What the addition discards, each item with its reason. -/
def discarded : Addition → List (String × Item)
  | discard items reason => items.map (reason, ·)
  | output _ | error .. => []

/-- The items that the addition says have failed, with their cause. -/
def failed : Addition → List FailedItem
  | error items cause origin worker => items.map (⟨·, cause, origin, worker⟩)
  | output _ | discard .. => []

variable (response other : Response) (addition : Addition)

/-- An addition to the output comes after what is there. -/
theorem output_addTo : (addition.addTo response).output = response.output ++ addition.outputs := by
  cases addition with
  | output items => rfl
  | discard | error => exact (List.append_nil _).symm

/-- What an addition discards comes after what was discarded before. -/
theorem discarded_addTo :
    (addition.addTo response).discarded = response.discarded ++ addition.discarded := by
  -- Only a discard adds to them, joined to the last batch or after it.
  cases addition with
  | discard items reason => exact flatMap_joinDiscard response.discards ⟨items, reason⟩
  | output | error => exact (List.append_nil _).symm

/-- What it says has failed comes after what had failed before. -/
theorem failed_addTo : (addition.addTo response).failed = response.failed ++ addition.failed := by
  cases addition with
  | error items cause origin worker =>
    exact flatMap_joinError response.errors (.ofItems items cause origin worker)
  | output | discard => exact (List.append_nil _).symm

/-- It makes no difference whether something is added before or after a response is merged with
others that come before it. -/
theorem merge_addTo :
    response.merge (addition.addTo other) = addition.addTo (response.merge other) := by
  -- An output comes last, and a batch is joined to those that are there already.
  cases addition with
  | output items => simp [addTo, addOutput, merge]
  | discard items reason =>
    simp [addTo, addDiscard, merge, joinDiscard_eq, Joining.foldl_join]
  | error items cause origin worker =>
    simp [addTo, addError, merge, joinError_eq, Joining.foldl_join]

end Addition

/-- How a response was put together: it says nothing, or something was added to one, or one was
merged with another. -/
inductive Recipe where
  | empty
  | add (recipe : Recipe) (addition : Addition)
  | merge (recipe other : Recipe)

namespace Recipe

/-- The response that was put together. -/
def response : Recipe → Response
  | empty => .empty
  | add recipe addition => addition.addTo recipe.response
  | merge recipe other => recipe.response.merge other.response

/-- Everything that was added, in order: what was merged comes after what was there before. -/
def additions : Recipe → List Addition
  | empty => []
  | add recipe addition => recipe.additions ++ [addition]
  | merge recipe other => recipe.additions ++ other.additions

end Recipe

/-- Several additions, one after the other. -/
def addAll (response : Response) (additions : List Addition) : Response :=
  additions.foldl Addition.addTo response

/-- Additions can be made in two parts. -/
theorem addAll_append (response : Response) (first rest : List Addition) :
    response.addAll (first ++ rest) = (response.addAll first).addAll rest := List.foldl_append

/-- The empty response adds nothing when it is merged in. -/
theorem merge_empty (response : Response) : response.merge .empty = response := by
  simp [merge, empty]

/-- To merge is to make the additions of the other response here. -/
theorem merge_addAll (response other : Response) (additions : List Addition) :
    response.merge (other.addAll additions) = (response.merge other).addAll additions := by
  induction additions generalizing other with
  | nil => rfl
  | cons addition rest ih => exact (ih _).trans (by rw [Addition.merge_addTo]; rfl)

/-- However a response was put together, it is what its additions make of the empty one. -/
theorem Recipe.response_eq (recipe : Recipe) :
    recipe.response = Response.empty.addAll recipe.additions := by
  -- By induction on how it was put together; a merge adds the additions of the second part.
  induction recipe with
  | empty => rfl
  | add recipe addition ih =>
    rw [additions, addAll_append, ← ih]
    rfl
  | merge recipe other ih others =>
    rw [response, additions, others, merge_addAll, merge_empty, ih, addAll_append]

/-- Neighbouring batches are never alike, and every failed item is in a batch of its own kind. -/
structure Regular (response : Response) : Prop where
  discards : byReason.Sorted response.discards
  errors : byKind.Sorted response.errors
  kinds : ∀ batch ∈ response.errors, ∀ failed ∈ batch.errors, failed.cause.kind = batch.kind

/-- There are no batches in the empty response that could be alike. -/
theorem regular_empty : empty.Regular := ⟨.nil, .nil, by simp [empty]⟩

/-- A regular response stays regular with one more addition. -/
theorem Regular.addTo {response : Response} (regular : response.Regular) (addition : Addition) :
    (addition.addTo response).Regular := by
  cases addition with
  | output items => exact ⟨regular.discards, regular.errors, regular.kinds⟩
  | discard items reason =>
    refine ⟨?_, regular.errors, regular.kinds⟩
    simpa only [Addition.addTo, addDiscard, joinDiscard_eq] using regular.discards.join
  | error items cause origin worker =>
    refine ⟨regular.discards, ?_, ?_⟩
    · simpa only [Addition.addTo, addError, joinError_eq] using regular.errors.join
    · simp only [Addition.addTo, addError, joinError_eq]
      have own : ∀ failed ∈ (ErrorBatch.ofItems items cause origin worker).errors,
          failed.cause.kind = cause.kind := by simp [ErrorBatch.ofItems]
      -- Gluing puts failed items together only if their batches are of the same kind.
      refine Joining.forall_mem_join regular.kinds own fun last kept alike failed member => ?_
      rcases List.mem_append.mp member with old | new
      · exact kept failed old
      · exact (own failed new).trans alike.symm

/-- It stays regular with any number of them. -/
theorem Regular.addAll {response : Response} (regular : response.Regular)
    (additions : List Addition) : (response.addAll additions).Regular := by
  induction additions generalizing response with
  | nil => exact regular
  | cons addition rest ih => exact ih (regular.addTo addition)

/-- What a response holds is what was added to it, in order. -/
theorem addAll_holds (response : Response) (additions : List Addition) :
    (response.addAll additions).output = response.output ++ additions.flatMap (·.outputs) ∧
      (response.addAll additions).discarded =
        response.discarded ++ additions.flatMap (·.discarded) ∧
      (response.addAll additions).failed = response.failed ++ additions.flatMap (·.failed) := by
  -- Each addition comes after those before it, so the response to start from may be any.
  induction additions generalizing response with
  | nil => simp [addAll]
  | cons addition rest ih =>
    obtain ⟨output, discarded, failed⟩ := ih (addition.addTo response)
    refine ⟨?_, ?_, ?_⟩
    · exact output.trans (by simp [Addition.output_addTo])
    · exact discarded.trans (by simp [Addition.discarded_addTo])
    · exact failed.trans (by simp [Addition.failed_addTo])

/-- However a response was put together, neighbouring discard batches have different reasons and
neighbouring error batches different kinds, and each failed item is in a batch of its own kind.
Taken out of their batches, the items are those that were added, in order, with the reasons, causes,
origins and workers that they were added with. Merging such responses is associative, and the empty
response changes nothing on either side. -/
theorem Recipe.response_holds_additions (recipe : Recipe) :
    (recipe.response.discards.IsChain fun batch next => batch.reason ≠ next.reason) ∧
    (recipe.response.errors.IsChain fun batch next => batch.kind ≠ next.kind) ∧
    (∀ batch ∈ recipe.response.errors, ∀ failed ∈ batch.errors, failed.cause.kind = batch.kind) ∧
    recipe.response.output = recipe.additions.flatMap (·.outputs) ∧
    recipe.response.discarded = recipe.additions.flatMap (·.discarded) ∧
    recipe.response.failed = recipe.additions.flatMap (·.failed) ∧
    recipe.response.merge .empty = recipe.response ∧
    Response.empty.merge recipe.response = recipe.response ∧
    ∀ second third : Recipe,
      (recipe.response.merge second.response).merge third.response =
        recipe.response.merge (second.response.merge third.response) := by
  obtain ⟨discards, errors, kinds⟩ : recipe.response.Regular :=
    recipe.response_eq ▸ regular_empty.addAll recipe.additions
  obtain ⟨output, discarded, failed⟩ := addAll_holds .empty recipe.additions
  rw [← recipe.response_eq] at output discarded failed
  refine ⟨discards, errors, kinds, output, discarded, failed, merge_empty _, ?_, ?_⟩
  · rw [recipe.response_eq, merge_addAll, merge_empty]
  · intro second third
    -- Either way, the third response adds the same to the other two.
    rw [third.response_eq, merge_addAll, merge_empty, merge_addAll, merge_empty, merge_addAll]

/-- The reasons of neighbouring discards differ after the merge, although the last one here and the
first one there were the same. -/
example :
    let here := empty.addDiscard [.null] "late" |>.addDiscard [.bool true] "torn"
    let there := empty.addDiscard [.bool false] "torn" |>.addDiscard [.null] "late"
    (here.merge there).discards.map (fun batch => (batch.items.length, batch.reason)) =
      [(1, "late"), (2, "torn"), (1, "late")] := by decide

end Response

end BatchFlow
