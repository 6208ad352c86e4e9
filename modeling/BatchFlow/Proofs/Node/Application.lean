import BatchFlow.Proofs.Node.StepGroup
import BatchFlow.Proofs.Node.Unbatching
import BatchFlow.Proofs.Work.Yields

/-! Applying a node whose collaborators look at nothing but the item: with honest answers it
responds with what becomes of the items, whether it is applied to them together or to one at a
time. -/

namespace BatchFlow

open Plan (Exchange)

/-- A transaction that is still active, with everybody in it who was in it before. -/
structure Transaction.Prolongs (before after : Transaction) : Prop where
  active : after.phase = .active
  kept : before.keys ⊆ after.keys

namespace Transaction.Prolongs

variable {before middle after : Transaction}

/-- An active transaction is prolonged by leaving it as it is. -/
theorem refl (active : before.phase = .active) : before.Prolongs before :=
  ⟨active, List.Subset.refl _⟩

/-- What is prolonged twice is prolonged. -/
theorem trans (first : before.Prolongs middle) (second : middle.Prolongs after) :
    before.Prolongs after :=
  ⟨second.active, List.Subset.trans first.kept second.kept⟩

end Transaction.Prolongs

variable {honest : Exchange → Prop}

section Enlisting

variable {transaction : Transaction} {resource : Resource}

/-- A resource that is enlisted, and can begin, takes part. -/
theorem Transaction.enlist_yields
    (begins : ∀ reply, honest ⟨.beginWork resource, reply⟩ → reply = .ok ())
    (active : transaction.phase = .active) :
    (Work.ofFaulty (·.enlist resource)).Yields honest transaction fun _ after =>
      transaction.Prolongs after ∧ resource.key ∈ after.keys := by
  refine Work.yields_ofFaulty ?_
  unfold enlist
  rw [if_neg (not_not.mpr active)]
  dsimp only
  split
  · rename_i member
    exact ⟨(), rfl, .refl active, includes_iff.mp member⟩
  · intro reply given
    cases begins reply given
    -- The resource is listed behind those that take part already.
    exact fun _ _ => ⟨(), rfl, ⟨active, by simp [keys]⟩, by simp [keys]⟩

/-- A resource that takes part can be done with its work. -/
theorem Node.delist_yields {used : Option Resource} (active : transaction.phase = .active)
    (member : ∀ resource, used = some resource → resource.key ∈ transaction.keys) :
    (delist used).Yields honest transaction fun _ after => transaction.Prolongs after := by
  -- Marking the entry of a resource is done at once, and changes neither phase nor keys.
  cases used with
  | none => exact Work.yields_pure (.refl active)
  | some resource =>
    refine Work.yields_ofFaulty ⟨(), ?_⟩
    rw [Manner.delist_member (member resource rfl)]
    refine ⟨rfl, active, ?_⟩
    simp only [Transaction.keys_eq, Transaction.enlisted, Transaction.map_resource_markDone]
    exact List.Subset.refl _

end Enlisting

namespace Node

variable {node : Node} {message : Message} {transaction : Transaction}
  {resultFor : Item → StepResult} {response filed : Response}

/-- Telling a collaborator of the metadata leaves the transaction as it is. -/
theorem shareMetadata_yields (node : Node) (message : Message) (transaction : Transaction) :
    (node.shareMetadata message).Yields honest transaction fun _ after => after = transaction := by
  unfold shareMetadata
  split
  · exact fun reply _ => ⟨(), rfl, rfl⟩
  · exact Work.yields_pure rfl

/-- With honest answers, a resource that is offered on behalf of the node can begin. -/
def CanEnlist (honest : Exchange → Prop) (node : Node) : Prop :=
  node.transactional = true → ∀ resource, honest ⟨.nodeResource node.id, some resource⟩ →
    ∀ reply, honest ⟨.beginWork resource, reply⟩ → reply = .ok ()

/-- What the node uses is offered and enlisted, and takes part from then on. -/
theorem enlist_yields (begins : node.CanEnlist honest) (message : Message)
    (active : transaction.phase = .active) :
    (node.enlist message).Yields honest transaction fun used after =>
      transaction.Prolongs after ∧
        ∀ resource, used = some resource → resource.key ∈ after.keys := by
  -- A resource that is offered is one that begins its work.
  have offers : (node.offered : Work Transaction (Option Resource)).Yields honest transaction
      fun offer after => after = transaction ∧ ∀ resource, offer = some resource →
        ∀ reply, honest ⟨.beginWork resource, reply⟩ → reply = .ok () := by
    unfold offered
    split
    · rename_i transactional
      refine fun reply given => ⟨reply, rfl, rfl, ?_⟩
      rintro resource rfl
      exact begins transactional resource given
    · exact Work.yields_pure ⟨rfl, nofun⟩
  refine offers.bind ?_
  rintro offer _ ⟨rfl, begins⟩
  -- Only a resource that is offered for a message in a transaction is enlisted.
  cases offer with
  | none => exact Work.yields_pure ⟨.refl active, by simp⟩
  | some resource =>
    -- Outside a transaction the offer is not taken up.
    cases message.transaction with
    | none => exact Work.yields_pure ⟨.refl active, by simp⟩
    | some id =>
      -- The transaction prolongs itself by the resource, if it is not among the others already.
      refine (Transaction.enlist_yields (begins resource rfl) active).bind ?_
      rintro _ after ⟨prolongs, member⟩
      exact Work.yields_pure ⟨prolongs, by simpa using member⟩

/-- A result that can be filed is classified as it is filed. -/
theorem classify_yields {item : Item} {result : StepResult}
    (files : node.file message.worker response item result = .ok filed) :
    (node.classify message response item result).Yields honest transaction fun value after =>
      value = filed ∧ after = transaction := by
  -- A fatal failure cannot be filed, so what is left is to report and go on.
  unfold classify
  cases result with
  | ok outputs =>
    cases files
    exact Work.yields_pure ⟨rfl, rfl⟩
  | error rejection =>
    cases rejection with
    | discarded reason =>
      cases files
      exact Work.yields_log_bind (Work.yields_pure ⟨rfl, rfl⟩)
    | failed cause =>
      by_cases fatal : cause.fatal = true
      · simp [file, fatal] at files
      · simp only [file, fatal, Bool.false_eq_true, if_false, Except.ok.injEq] at files ⊢
        exact Work.yields_log_bind (Work.yields_pure ⟨files, rfl⟩)

/-- Several results can be filed if the first one can, and then the others. -/
theorem fileEach_cons_ok {worker : String} {item : Item} {rest : List Item} :
    node.fileEach worker resultFor response (item :: rest) = .ok filed ↔
      ∃ next, node.file worker response item (resultFor item) = .ok next ∧
        node.fileEach worker resultFor next rest = .ok filed := by
  rw [fileEach]
  cases node.file worker response item (resultFor item) <;> simp

/-- Work that comes to a result of its own for each item is done on all of them, if the results can
be filed. -/
theorem applyEach_yields {work : Item → Work Transaction StepResult}
    (works : ∀ item transaction, (work item).Yields honest transaction fun result after =>
      result = resultFor item ∧ after = transaction) {batch : List Item}
    (files : node.fileEach message.worker resultFor response batch = .ok filed) :
    (node.applyEach message work response batch).Yields honest transaction fun value after =>
      value = filed ∧ after = transaction := by
  induction batch generalizing response with
  | nil =>
    cases files
    exact Work.yields_pure ⟨rfl, rfl⟩
  | cons item rest ih =>
    -- The first result can be filed, and the rest is worked on with what it was filed in.
    obtain ⟨next, first, others⟩ := fileEach_cons_ok.mp files
    refine (works item transaction).bind ?_
    rintro _ _ ⟨rfl, rfl⟩
    refine (classify_yields first).bind ?_
    rintro _ _ ⟨rfl, rfl⟩
    exact ih others

/-- With honest answers it is settled what becomes of an item, whatever it comes with, and the
resource of the node, if it has one, can begin. -/
structure Settles (honest : Exchange → Prop) (node : Node) (resultFor : Item → StepResult) :
    Prop where
  works : ∃ work, node.itemWork? = some work ∧ ∀ item transaction,
    (work item).Yields honest transaction fun result after =>
      result = resultFor item ∧ after = transaction
  begins : node.CanEnlist honest

/-- A node responds with the results for the items, if they can be filed. -/
theorem Settles.apply (settles : node.Settles honest resultFor)
    (active : transaction.phase = .active)
    (files : node.fileEach message.worker resultFor .empty message.data = .ok filed) :
    (node.apply message).Yields honest transaction fun response after =>
      response = filed ∧ transaction.Prolongs after := by
  refine (node.shareMetadata_yields message transaction).bind ?_
  rintro _ _ rfl
  refine (enlist_yields settles.begins message active).bind ?_
  rintro used enlisted ⟨prolongs, member⟩
  have performs : (node.perform message).Yields honest enlisted fun response after =>
      response = filed ∧ after = enlisted := by
    -- Items are worked on by a step or by an enricher, and a sink is neither.
    obtain ⟨work, itemwise, works⟩ := settles.works
    unfold itemWork? at itemwise
    unfold perform
    cases role : node.role with
    | step =>
      rw [role] at itemwise
      cases itemwise
      -- The step is reset first, and then applied to each item.
      exact Work.yields_call_bind fun _ _ => applyEach_yields works files
    | enrich reader timeout =>
      rw [role] at itemwise
      cases itemwise
      exact applyEach_yields works files
    | sink =>
      rw [role] at itemwise
      cases itemwise
  refine performs.bind ?_
  rintro _ _ ⟨rfl, rfl⟩
  refine (delist_yields prolongs.active member).bind fun _ after further => ?_
  exact Work.yields_log_bind (Work.yields_pure ⟨rfl, prolongs.trans further⟩)

end Node

/-- What a part of a walk does to a traversal: the transaction stays active with everybody in it,
and some batches stop at output leaves. -/
structure Traversal.Advances (before after : Traversal) (leaves : List TerminalBatch) : Prop where
  transaction : before.transaction.Prolongs after.transaction
  outputs : after.outputs = before.outputs ++ leaves

namespace Traversal.Advances

variable {before middle after : Traversal} {early late : List TerminalBatch}

/-- A traversal advances by leaving it as it is. -/
theorem refl (active : before.transaction.phase = .active) : before.Advances before [] :=
  ⟨.refl active, by simp⟩

/-- It advances by one part of a walk and then another, and the leaves add up. -/
theorem trans (first : before.Advances middle early) (second : middle.Advances after late) :
    before.Advances after (early ++ late) :=
  ⟨first.transaction.trans second.transaction, by simp [second.outputs, first.outputs]⟩

end Traversal.Advances

namespace Node.Settles

variable {node : Node} {message : Message} {resultFor : Item → StepResult} {traversal : Traversal}
  {filed : Response} (settles : node.Settles honest resultFor) (trail : List String)
include settles

/-- A visit to the node comes to what its results are filed as, and no batch stops there. -/
theorem visit (active : traversal.transaction.phase = .active)
    (files : node.fileEach message.worker resultFor .empty message.data = .ok filed) :
    (Router.visit trail node message).Yields honest traversal fun response after =>
      response = filed ∧ traversal.Advances after [] :=
  Plan.Yields.bind (settles.apply active files) fun _ ⟨response, came, same, prolongs⟩ =>
    ⟨response, came, same, prolongs, by simp⟩

/-- The results for the items are filed one by one, and so are merged the responses to each. -/
theorem visitEach {start : Response} {batch : List Item}
    (active : traversal.transaction.phase = .active)
    (files : node.fileEach message.worker resultFor start batch = .ok filed) :
    (Router.visitEach trail node message start batch).Yields honest traversal fun response after =>
      response = filed ∧ traversal.Advances after [] := by
  -- Both the response so far and the transaction change from item to item.
  induction batch generalizing start traversal with
  | nil =>
    cases files
    exact Work.yields_pure ⟨rfl, .refl active⟩
  | cons item rest ih =>
    obtain ⟨next, first, others⟩ := fileEach_cons_ok.mp files
    -- The response to the item alone is merged with what has been filed so far.
    rw [file_merge] at first
    obtain ⟨alone, files, rfl⟩ : ∃ alone,
        node.file message.worker .empty item (resultFor item) = .ok alone ∧
          start.merge alone = next := by
      cases filing : node.file message.worker .empty item (resultFor item) with
      | error failure => simp [filing, Except.map] at first
      | ok alone => exact ⟨alone, rfl, by simpa [filing, Except.map] using first⟩
    have single : node.fileEach (message.single item).worker resultFor .empty
        (message.single item).data = .ok alone :=
      (fileEach_single ..).trans files
    refine (settles.visit trail active single).bind ?_
    rintro _ between ⟨rfl, advances⟩
    refine (ih advances.transaction.active others).weaken ?_
    exact fun _ after ⟨same, further⟩ => ⟨same, advances.trans further⟩

/-- However the node is fed, it responds with the results for the items. -/
theorem applied (active : traversal.transaction.phase = .active)
    (files : node.fileEach message.worker resultFor .empty message.data = .ok filed) :
    (Router.apply trail node message).Yields honest traversal fun response after =>
      response = filed ∧ traversal.Advances after [] := by
  -- A node is visited with the whole message, or once for each item.
  unfold Router.apply
  split
  · exact settles.visit trail active files
  · exact settles.visitEach trail active files

end Node.Settles

namespace Node

variable {node : Node} {message : Message} {step : Item → StepResult} {traversal : Traversal}

/-- The response to a batch that a step accepts. -/
def accepted (step : Item → StepResult) (batch : List Item) : Response :=
  Response.empty.addOutput (batch.flatMap (Step.made step))

/-- Honest answers to a node of this sort: about an item, what the step makes of it, and about the
resources, that they can begin. -/
structure Obliged (honest : Exchange → Prop) (node : Node) (step : Item → StepResult) : Prop where
  role : node.role = .step
  results : ∀ item reply, honest ⟨.applyStep node.id item, reply⟩ → reply = step item
  begins : ∀ resource reply, honest ⟨.beginWork resource, reply⟩ → reply = .ok ()

/-- The step alone settles what becomes of an item. -/
theorem Obliged.settles (obliged : node.Obliged honest step) : node.Settles honest step where
  works := by
    -- An item is applied with one question, whose answer is the result.
    refine ⟨fun item => Work.call (.applyStep node.id item), ?_, fun item transaction => ?_⟩
    · rw [itemWork?, obliged.role]
    · exact fun reply given => ⟨reply, rfl, obliged.results item reply given, rfl⟩
  begins _ resource _ := obliged.begins resource

/-- A step that accepts some items adds what it makes of them to the output. -/
theorem fileEach_accepted (node : Node) (worker : String) {start : Response} {batch : List Item}
    (accepts : ∀ item ∈ batch, ∃ outputs, step item = .ok outputs) :
    node.fileEach worker step start batch =
      .ok (start.addOutput (batch.flatMap (Step.made step))) := by
  -- The output grows from item to item, so the induction is for any response to start from.
  induction batch generalizing start with
  | nil => simp [fileEach, Response.addOutput]
  | cons item rest ih =>
    obtain ⟨first, others⟩ := List.forall_mem_cons.mp accepts
    refine fileEach_cons_ok.mpr ⟨start.addOutput (Step.made step item), ?_, ?_⟩
    · rw [Step.eq_made first, file]
    · rw [ih others]
      simp [Response.addOutput]

/-- However the node is fed, it responds with what its step makes of the items. -/
theorem Obliged.applied (obliged : node.Obliged honest step) (trail : List String)
    (active : traversal.transaction.phase = .active)
    (accepts : ∀ item ∈ message.data, ∃ outputs, step item = .ok outputs) :
    (Router.apply trail node message).Yields honest traversal fun response after =>
      response = accepted step message.data ∧ traversal.Advances after [] :=
  obliged.settles.applied trail active (node.fileEach_accepted message.worker accepts)

end Node

end BatchFlow
