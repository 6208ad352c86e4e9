import BatchFlow.Proofs.Node.Unbatching
import Mathlib.Data.List.Basic

/-! What a node responds to a message is what its collaborator made of each item, put into three
classes. No item is left out, and none comes after one with a fatal error. -/

namespace BatchFlow

open Plan (Exchange)

/-- A question that is about the items of a message. -/
def Call.isItemwise : Call → Bool
  | .applyStep .. | .deliver .. | .parametersFor .. | .readRecords .. | .enrichItem .. => true
  | _ => false

/-- What was asked about the items, and how it was answered. -/
def itemwise (trace : List Exchange) : List Exchange := trace.filter (·.call.isItemwise)

/-- What is left of two traces is what is left of the one and then of the other. -/
@[simp] theorem itemwise_append (first rest : List Exchange) :
    itemwise (first ++ rest) = itemwise first ++ itemwise rest := List.filter_append ..

/-- Nothing is left of no trace. -/
@[simp] theorem itemwise_nil : itemwise [] = [] := rfl

/-- An exchange is left if it is about items. -/
@[simp] theorem itemwise_cons (exchange : Exchange) (rest : List Exchange) :
    itemwise (exchange :: rest) =
      if exchange.call.isItemwise then exchange :: itemwise rest else itemwise rest :=
  List.filter_cons

/-- Where nothing is about items, nothing of it is left. -/
theorem itemwise_eq_nil {trace : List Exchange}
    (aside : ∀ exchange ∈ trace, exchange.call.isItemwise = false) : itemwise trace = [] :=
  List.filter_eq_nil_iff.mpr fun exchange member => by simp [aside exchange member]

/-- Work that asks nothing about items, and fails only in certain ways. -/
def Work.Bounds.idle (excused : RouteFailure → Prop) : Work.Bounds :=
  ⟨fun call => call.isItemwise = false, excused, False⟩

/-- Of idle work, nothing is left that is about items. -/
theorem Work.Confined.idle {σ α : Type} {work : Work σ α} {excused : RouteFailure → Prop}
    (confined : work.Confined (.idle excused) fun _ => True) {state after : σ}
    {trace : List Exchange} {outcome : Except RouteFailure α}
    (runs : (work state).Runs trace (after, outcome)) :
    itemwise trace = [] ∧ ∀ failure, outcome = .error failure → excused failure := by
  obtain ⟨asked, _, excuses⟩ := (confined state trivial).runs runs
  exact ⟨itemwise_eq_nil asked, excuses⟩

/-- What was asked about an item, and what became of it. -/
structure Treatment where
  item : Item
  calls : List Exchange
  result : StepResult

namespace Treatment

/-- What was made of the item. -/
def outputs (treatment : Treatment) : List Item :=
  match treatment.result with
  | .ok outputs => outputs
  | .error _ => []

/-- The item with the reason why it was discarded, if it was. -/
def discard? (treatment : Treatment) : Option (String × Item) :=
  match treatment.result with
  | .error (.discarded reason) => some (reason, treatment.item)
  | _ => none

/-- The item with the condition that it failed with at a node, if it did. -/
def failure? (treatment : Treatment) (node worker : String) : Option FailedItem :=
  match treatment.result with
  | .error (.failed cause) => some ⟨treatment.item, cause, node, worker⟩
  | _ => none

/-- Whether the item was accepted, even if nothing was made of it. -/
def isAccepted (treatment : Treatment) : Bool := treatment.result.isOk

/-- The fatal error that was raised for the item, if one was. -/
def fatal? (treatment : Treatment) : Option Condition :=
  match treatment.result with
  | .error (.failed cause) => if cause.fatal then some cause else none
  | _ => none

/-- A failed item is the one that was treated, and an error that is not fatal was raised for it. -/
theorem mem_failure? {treatment : Treatment} {node worker : String} {failed : FailedItem}
    (mild : treatment.fatal? = none) (kept : treatment.failure? node worker = some failed) :
    failed.cause.fatal = false ∧ failed.origin = node ∧ failed.worker = worker ∧
      failed.data = treatment.item := by
  obtain ⟨item, calls, result⟩ := treatment
  -- Only a failure leaves a failed item behind.
  cases result with
  | ok outputs => cases kept
  | error rejection =>
    cases rejection with
    | discarded reason => cases kept
    | failed cause =>
      cases kept
      exact ⟨by simpa [fatal?] using mild, rfl, rfl, rfl⟩

/-- Each item is accepted, discarded or failed, and is so once. -/
theorem perm_classes (treatments : List Treatment) (node worker : String) :
    (treatments.map (·.item)).Perm ((treatments.filter (·.isAccepted)).map (·.item) ++
      (treatments.filterMap (·.discard?)).map (·.2) ++
      (treatments.filterMap (·.failure? node worker)).map (·.data)) := by
  induction treatments with
  | nil => exact .nil
  | cons treatment rest ih =>
    obtain ⟨item, calls, result⟩ := treatment
    -- The first item heads the class that its result puts it in.
    have first := ih.cons item
    cases result with
    | ok outputs => simpa [isAccepted, Except.isOk, Except.toBool, discard?, failure?] using first
    | error rejection =>
      cases rejection with
      | discarded reason =>
        refine first.trans ?_
        rw [List.append_assoc]
        simpa [isAccepted, Except.isOk, Except.toBool, discard?, failure?] using
          List.perm_middle.symm
      | failed cause =>
        refine first.trans ?_
        simpa [isAccepted, Except.isOk, Except.toBool, discard?, failure?, -List.append_assoc] using
          List.perm_middle.symm

end Treatment

/-- How a node treats an item. A step is applied to it once. An enriching node reads records for it,
which may fail or take too long, and merges them in otherwise. -/
inductive Node.Treats (node : Node) : Treatment → Prop where
  | applied (role : node.role = .step) (item : Item) (result : StepResult) :
    Treats node ⟨item, [⟨.applyStep node.id item, result⟩], result⟩
  | unread {reader : String} {timeout : Duration} (role : node.role = .enrich reader timeout)
      (item : Item) (parameters : Option Item) (cause : Condition) :
    Treats node ⟨item, [⟨.parametersFor node.id item, parameters⟩,
      ⟨.readRecords node.id parameters timeout, .failed cause⟩], .error (.failed cause)⟩
  | overdue {reader : String} {timeout : Duration} (role : node.role = .enrich reader timeout)
      (item : Item) (parameters : Option Item) :
    Treats node ⟨item, [⟨.parametersFor node.id item, parameters⟩,
      ⟨.readRecords node.id parameters timeout, .timedOut⟩],
      .error (.failed (.processing s!"{reader} read timed out after {timeout.text}"))⟩
  | enriched {reader : String} {timeout : Duration} (role : node.role = .enrich reader timeout)
      (item : Item) (parameters : Option Item) (records : List Item) (result : StepResult) :
    Treats node ⟨item, [⟨.parametersFor node.id item, parameters⟩,
      ⟨.readRecords node.id parameters timeout, .records records⟩,
      ⟨.enrichItem node.id item records, result⟩], result⟩

namespace Node

variable {node : Node} {message : Message} {trace : List Exchange}
  {transaction after : Transaction}

/-- What filing a result that is not fatal adds to a response. -/
theorem file_ok {worker : String} {response grown : Response} {treatment : Treatment}
    (filed : node.file worker response treatment.item treatment.result = .ok grown) :
    treatment.fatal? = none ∧ grown.output = response.output ++ treatment.outputs ∧
      grown.discarded = response.discarded ++ treatment.discard?.toList ∧
      grown.failed = response.failed ++ (treatment.failure? node.id worker).toList := by
  obtain ⟨item, calls, result⟩ := treatment
  cases result with
  | ok outputs =>
    cases filed
    simp [Treatment.fatal?, Treatment.outputs, Treatment.discard?, Treatment.failure?,
      Response.addOutput, Response.discarded, Response.failed]
  | error rejection =>
    -- A discard and a failure add the item to what there is of their class, and leave the others
    -- alone.
    cases rejection with
    | discarded reason =>
      cases filed
      -- The item joins the discards, in the last batch or in one of its own.
      simp [Treatment.fatal?, Treatment.outputs, Treatment.discard?, Treatment.failure?,
        Response.addDiscard, Response.discarded, Response.failed, Response.flatMap_joinDiscard]
    | failed cause =>
      unfold file at filed
      dsimp only at filed
      split at filed
      · cases filed
      · rename_i mild
        cases filed
        simp [Treatment.fatal?, Treatment.outputs, Treatment.discard?, Treatment.failure?,
          Response.addError, Response.discarded, Response.failed, Response.flatMap_joinError,
          ErrorBatch.ofItems, mild]

/-- Only a fatal result cannot be filed. -/
theorem file_error {worker : String} {response : Response} (treatment : Treatment)
    {failure : RouteFailure}
    (filed : node.file worker response treatment.item treatment.result = .error failure) :
    ∃ cause, treatment.fatal? = some cause ∧ failure = .fatal node.id cause := by
  obtain ⟨item, calls, result⟩ := treatment
  -- Outputs and discards are always filed.
  cases result with
  | ok outputs => cases filed
  | error rejection =>
    cases rejection with
    | discarded reason => cases filed
    | failed cause =>
      unfold file at filed
      dsimp only at filed
      split at filed
      · rename_i fatal
        cases filed
        exact ⟨cause, by simp [Treatment.fatal?, fatal], rfl⟩
      · cases filed

/-- How the items of a message were sorted. With a response, all of them were treated, and the
response has what became of each added to it. Otherwise a fatal error was raised for the last one
that was treated, and for none before it. -/
inductive Sorts (node : Node) (worker : String) (start : Response) (items : List Item)
    (treatments : List Treatment) : Except RouteFailure Response → Prop where
  | responded {response : Response} (complete : treatments.map (·.item) = items)
      (mild : ∀ treatment ∈ treatments, treatment.fatal? = none)
      (output : response.output = start.output ++ treatments.flatMap (·.outputs))
      (discarded : response.discarded = start.discarded ++ treatments.filterMap (·.discard?))
      (failed : response.failed =
        start.failed ++ treatments.filterMap (·.failure? node.id worker)) :
    Sorts node worker start items treatments (.ok response)
  | stopped (earlier : List Treatment) {last : Treatment} (left : List Item) {cause : Condition}
      (upTo : treatments = earlier ++ [last])
      (reached : items = treatments.map (·.item) ++ left)
      (mild : ∀ treatment ∈ earlier, treatment.fatal? = none)
      (raised : last.fatal? = some cause) :
    Sorts node worker start items treatments (.error (.fatal node.id cause))

/-- Filing a result is reported at most. -/
theorem classify_idle (response : Response) (item : Item) (result : StepResult) :
    (node.classify message response item result : Work Transaction Response).Confined
      (.idle fun _ => True) fun _ => True := by
  have reports : ∀ event, (Work.log event : Work Transaction Unit).Confined (.idle fun _ => True)
      fun _ => True := fun _ => Work.confined_call rfl
  cases result with
  | ok outputs => exact Work.confined_pure
  -- Discards and failures are reported, outputs are not.
  | error rejection =>
    cases rejection with
    | discarded reason => exact (reports _).bind fun _ => Work.confined_pure
    | failed cause =>
      unfold classify
      dsimp only
      split
      · exact Work.confined_abandon trivial
      · exact (reports _).bind fun _ => Work.confined_pure

/-- Items that come before others are sorted with them. -/
theorem Sorts.cons {worker : String} {start grown : Response} {items : List Item}
    (treatment : Treatment) {treatments : List Treatment} {outcome : Except RouteFailure Response}
    (filed : node.file worker start treatment.item treatment.result = .ok grown)
    (sorts : node.Sorts worker grown items treatments outcome) :
    node.Sorts worker start (treatment.item :: items) (treatment :: treatments) outcome := by
  obtain ⟨mild, output, discarded, failed⟩ := file_ok filed
  cases sorts with
  -- What the first item adds comes before what the others add.
  | responded complete gentle outputs discards failures =>
    refine .responded (by simp [complete]) (by simpa using ⟨mild, gentle⟩) ?_ ?_ ?_
    · simp [outputs, output]
    · simp [discards, discarded, List.filterMap_eq_flatMap_toList]
    · simp [failures, failed, List.filterMap_eq_flatMap_toList]
  -- The item that the sorting stops at is still the last one.
  | @stopped earlier last left cause upTo reached gentle raised =>
    refine .stopped (treatment :: earlier) left ?_ ?_ ?_ raised
    · simp [upTo]
    · simp [reached]
    · simpa using ⟨mild, gentle⟩

/-- Working on the items one after the other sorts them. -/
theorem applyEach_sorts {work : Item → Work Transaction StepResult}
    (treats : ∀ {item state trace after outcome}, (work item state).Runs trace (after, outcome) →
      ∃ result, outcome = .ok result ∧ node.Treats ⟨item, itemwise trace, result⟩)
    {start : Response} {items : List Item} {outcome : Except RouteFailure Response}
    (runs : (node.applyEach message work start items transaction).Runs trace (after, outcome)) :
    ∃ treatments : List Treatment, (∀ treatment ∈ treatments, node.Treats treatment) ∧
      itemwise trace = treatments.flatMap (·.calls) ∧
      node.Sorts message.worker start items treatments outcome := by
  -- The induction is on the items, and the response so far and the transaction may be any.
  induction items generalizing start trace transaction with
  | nil =>
    obtain ⟨rfl, rfl, rfl⟩ := Work.runs_pure_iff.mp runs
    exact ⟨[], by simp, rfl, .responded rfl (by simp) (by simp) (by simp) (by simp)⟩
  | cons item rest ih =>
    rcases Work.runs_bind_cases runs with
      ⟨failure, ran, rfl⟩ | ⟨result, middle, first, later, rfl, ran, more⟩
    · -- The work on an item comes to a result, whatever that is.
      obtain ⟨result, same, _⟩ := treats ran
      cases same
    · obtain ⟨_, same, treated⟩ := treats ran
      cases same
      rcases Work.runs_bind_cases more with
        ⟨failure, classified, rfl⟩ | ⟨grown, between, filing, others, rfl, classified, further⟩
      · -- A result that cannot be filed is fatal, and the rest of the items is not looked at.
        obtain ⟨_, filed⟩ := classify_files classified
        obtain ⟨cause, raised, rfl⟩ := file_error ⟨item, itemwise first, result⟩ filed.symm
        have quiet : itemwise later = [] := ((classify_idle _ _ _).idle classified).1
        refine ⟨[⟨item, itemwise first, result⟩], by simpa using treated, by simp [quiet], ?_⟩
        exact .stopped [] rest rfl rfl (by simp) raised
      · -- Any other result is filed before the rest of the items is sorted.
        obtain ⟨_, filed⟩ := classify_files classified
        have quiet : itemwise filing = [] := ((classify_idle _ _ _).idle classified).1
        obtain ⟨treatments, all, asked, sorts⟩ := ih further
        refine ⟨⟨item, itemwise first, result⟩ :: treatments, by simpa using ⟨treated, all⟩,
          by simp [quiet, asked], ?_⟩
        exact sorts.cons ⟨item, itemwise first, result⟩ filed.symm

/-- An enriching node treats an item in one of three ways. -/
theorem enrich_treats {reader : String} {timeout : Duration}
    (role : node.role = .enrich reader timeout) {item : Item}
    {outcome : Except RouteFailure StepResult}
    (runs : (node.enrich reader timeout item transaction).Runs trace (after, outcome)) :
    ∃ result, outcome = .ok result ∧ node.Treats ⟨item, itemwise trace, result⟩ := by
  -- First the parameters are asked for.
  obtain ⟨parameters, rest, rfl, more⟩ := Work.runs_call_bind_iff.mp runs
  -- A missing parameter is reported, and nothing else comes of it.
  have missing : (node.reportMissing parameters : Work Transaction Unit).Confined
      (.idle fun _ => False) fun _ => True := by
    unfold reportMissing
    split
    · exact Work.confined_call rfl
    · exact Work.confined_pure
  -- Then the report is over, and the reader is asked.
  rcases Work.runs_bind_cases more with
    ⟨failure, reported, rfl⟩ | ⟨_, middle, report, later, rfl, reported, reading⟩
  · exact ((missing.idle reported).2 _ rfl).elim
  · obtain ⟨quiet, _⟩ := missing.idle reported
    obtain ⟨read, last, rfl, ended⟩ := Work.runs_call_bind_iff.mp reading
    cases read with
    -- A reader that fails or is late decides what becomes of the item.
    | failed cause =>
      obtain ⟨rfl, rfl, rfl⟩ := Work.runs_pure_iff.mp ended
      refine ⟨_, rfl, ?_⟩
      simpa [Call.isItemwise, quiet] using Treats.unread role item parameters cause
    | timedOut =>
      obtain ⟨rfl, rfl, rfl⟩ := Work.runs_pure_iff.mp ended
      refine ⟨_, rfl, ?_⟩
      simpa [Call.isItemwise, quiet] using Treats.overdue role item parameters
    | records records =>
      -- What was read is reported before it is merged in.
      obtain ⟨_, merging, rfl, merged⟩ := Work.runs_call_bind_iff.mp ended
      obtain ⟨result, _, rfl, finished⟩ := Plan.runs_ask_iff.mp merged
      obtain ⟨rfl, same⟩ := Plan.runs_done_iff.mp finished
      cases same
      refine ⟨result, rfl, ?_⟩
      simpa [Call.isItemwise, quiet] using Treats.enriched role item parameters records result

/-- Unless it is a sink, a node sorts the items of a message by working on each of them. -/
theorem perform_sorts (role : node.role ≠ .sink) {outcome : Except RouteFailure Response}
    (runs : (node.perform message transaction).Runs trace (after, outcome)) :
    ∃ treatments : List Treatment, (∀ treatment ∈ treatments, node.Treats treatment) ∧
      itemwise trace = treatments.flatMap (·.calls) ∧
      node.Sorts message.worker .empty message.data treatments outcome := by
  unfold perform at runs
  cases kind : node.role with
  | step =>
    simp only [kind] at runs
    -- A step is asked once for each item, and its answer is the treatment.
    have treats : ∀ {item : Item} {state : Transaction} {trace : List Exchange}
        {after : Transaction} {outcome : Except RouteFailure StepResult},
        ((Work.call (.applyStep node.id item) : Work Transaction StepResult) state).Runs trace
          (after, outcome) →
        ∃ result, outcome = .ok result ∧ node.Treats ⟨item, itemwise trace, result⟩ := by
      intro item state trace after outcome asked
      obtain ⟨result, _, rfl, ended⟩ := Plan.runs_ask_iff.mp asked
      obtain ⟨rfl, same⟩ := Plan.runs_done_iff.mp ended
      cases same
      exact ⟨result, rfl, .applied kind item result⟩
    -- The step is reset first, which is about no item.
    obtain ⟨_, rest, rfl, more⟩ := Work.runs_call_bind_iff.mp runs
    obtain ⟨treatments, all, asked, sorts⟩ := applyEach_sorts treats more
    exact ⟨treatments, all, by simpa [Call.isItemwise] using asked, sorts⟩
  | sink => exact absurd kind role
  -- An enriching node treats one item after the other.
  | enrich reader timeout =>
    simp only [kind] at runs
    exact applyEach_sorts (enrich_treats kind) runs

/-- A delivery with its reply. -/
def delivery (node : Node) (message : Message) (reply : Except Condition (Option Item)) :
    Exchange :=
  ⟨.deliver node.id message.data, reply⟩

/-- What a sink makes of the reply to a delivery. -/
inductive Receives (node : Node) (message : Message) :
    Except Condition (Option Item) → Except RouteFailure Response → Prop where
  | replied (reply : Option Item) :
    Receives node message (.ok reply) (.ok ⟨reply.toList, [], []⟩)
  | failed (cause : Condition) (mild : cause.fatal = false) :
    Receives node message (.error cause)
      (.ok ⟨[], [], [.ofItems message.data cause node.id message.worker]⟩)
  | stopped (cause : Condition) (fatal : cause.fatal = true) :
    Receives node message (.error cause) (.error (.fatal node.id cause))

/-- A sink fails if a fatal error is raised on delivery, and for nothing else. -/
theorem Receives.failure_iff {reply : Except Condition (Option Item)}
    {outcome : Except RouteFailure Response} {failure : RouteFailure}
      (receives : node.Receives message reply outcome) :
    outcome = .error failure ↔
      ∃ cause, reply = .error cause ∧ cause.fatal = true ∧ failure = .fatal node.id cause := by
  -- What a sink comes to tells the kinds of answers apart.
  cases receives with
  | replied reply => simp
  | failed cause mild => simp [mild]
  | stopped cause fatal =>
    constructor
    · rintro ⟨⟩
      exact ⟨cause, rfl, fatal, rfl⟩
    · rintro ⟨_, ⟨⟩, _, rfl⟩
      rfl

/-- A sink delivers all items of a message at once. -/
theorem perform_receives (role : node.role = .sink) {outcome : Except RouteFailure Response}
    (runs : (node.perform message transaction).Runs trace (after, outcome)) :
    ∃ reply, itemwise trace = [node.delivery message reply] ∧
      node.Receives message reply outcome := by
  unfold perform at runs
  simp only [role] at runs
  -- The delivery is the only question about items.
  obtain ⟨reply, rest, rfl, more⟩ := Work.runs_call_bind_iff.mp runs
  cases reply with
  | ok reply =>
    cases reply with
    | none =>
      obtain ⟨rfl, _, rfl⟩ := Work.runs_pure_iff.mp more
      exact ⟨.ok none, rfl, .replied none⟩
    | some reply =>
      obtain ⟨rfl, _, rfl⟩ := Work.runs_pure_iff.mp more
      exact ⟨.ok (some reply), rfl, .replied (some reply)⟩
  | error cause =>
    dsimp only at more
    split at more
    · rename_i fatal
      obtain ⟨rfl, same⟩ := Plan.runs_done_iff.mp more
      cases same
      exact ⟨.error cause, rfl, .stopped cause fatal⟩
    · rename_i mild
      -- The failure is reported, and then kept for every item.
      obtain ⟨_, last, rfl, ended⟩ := Work.runs_call_bind_iff.mp more
      obtain ⟨rfl, _, rfl⟩ := Work.runs_pure_iff.mp ended
      exact ⟨.error cause, rfl, .failed cause (by simpa using mild)⟩

/-- Dealing with the transaction, and with nobody's items. -/
abbrev aside : Work.Bounds := .idle fun failure => ∃ fault, failure = .transaction fault

/-- Questions about the transaction are about no items, and they fail with its faults. -/
theorem aside_open : aside.Open where
  shared call shared := by
    show call.isItemwise = false
    cases call <;> first | rfl | cases shared
  faulty fault := ⟨fault, rfl⟩

/-- What becomes of applying a node when this is what became of working on the message: the same,
unless the transaction is at fault in the end. -/
def Closes (outcome result : Except RouteFailure Response) : Prop :=
  result = outcome ∨
    ∃ fault response, outcome = .ok response ∧ result = .error (.transaction fault)

namespace Closes

variable {outcome result : Except RouteFailure Response}

/-- A response is what became of the work on the message. -/
theorem ok {response : Response} (closes : Closes outcome (.ok response)) :
    outcome = .ok response := by
  -- Only a fault of the transaction comes in the place of an outcome, and a fault is no response.
  rcases closes with same | ⟨fault, _, _, same⟩
  · exact same.symm
  · cases same

/-- A fatal failure is that of the work on the message, and no fault comes in its place. -/
theorem fatal_iff (closes : Closes outcome result) {id : String} {cause : Condition} :
    result = .error (.fatal id cause) ↔ outcome = .error (.fatal id cause) := by
  -- A fault of the transaction is another failure than a fatal one.
  rcases closes with rfl | ⟨fault, response, rfl, rfl⟩
  · rfl
  · simp

end Closes

/-- The node works on the message once the transaction is in order, and before it is dealt with
again. Otherwise it does not work on it at all. -/
theorem apply_performs {result : Except RouteFailure Response} {before : Transaction}
    (runs : (node.apply message before).Runs trace (after, result)) :
    (∃ fault, result = .error (.transaction fault) ∧ itemwise trace = []) ∨
      ∃ (begun left : Transaction) (during : List Exchange)
        (outcome : Except RouteFailure Response),
        (node.perform message begun).Runs during (left, outcome) ∧
        itemwise trace = itemwise during ∧ Closes outcome result := by
  have shares : (node.shareMetadata message : Work Transaction Unit).Confined aside
      fun _ => True := node.shareMetadata_confined rfl
  have enlists : (node.enlist message).Confined aside fun _ => True := aside_open.enlist rfl message
  -- A fault on the way there ends the work before an item is asked about.
  rcases Work.runs_bind_cases runs with
    ⟨failure, shared, rfl⟩ | ⟨_, _, sharing, _, rfl, shared, more⟩
  · obtain ⟨quiet, faulty⟩ := shares.idle shared
    obtain ⟨fault, rfl⟩ := faulty failure rfl
    exact .inl ⟨fault, rfl, quiet⟩
  have unshared : itemwise sharing = [] := (shares.idle shared).1
  rcases Work.runs_bind_cases more with
    ⟨failure, enlisted, rfl⟩ | ⟨used, begun, enlisting, _, rfl, enlisted, working⟩
  · obtain ⟨quiet, faulty⟩ := enlists.idle enlisted
    obtain ⟨fault, rfl⟩ := faulty failure rfl
    exact .inl ⟨fault, rfl, by simp [unshared, quiet]⟩
  have unlisted : itemwise enlisting = [] := (enlists.idle enlisted).1
  rcases Work.runs_bind_cases working with
    ⟨failure, performed, rfl⟩ | ⟨response, left, during, _, rfl, performed, closing⟩
  · -- What goes wrong with the message is what goes wrong with the whole.
    exact .inr ⟨begun, after, _, .error failure, performed, by simp [unshared, unlisted], .inl rfl⟩
  · -- Only a fault can still come between the response and its return.
    have delists : (delist used).Confined aside fun _ => True := aside_open.delist used
    refine .inr ⟨begun, left, during, .ok response, performed, ?_⟩
    rcases Work.runs_bind_cases closing with
      ⟨failure, delisted, rfl⟩ | ⟨_, _, delisting, _, rfl, delisted, reporting⟩
    · obtain ⟨quiet, faulty⟩ := delists.idle delisted
      obtain ⟨fault, rfl⟩ := faulty failure rfl
      exact ⟨by simp [unshared, unlisted, quiet], .inr ⟨fault, response, rfl, rfl⟩⟩
    · have quiet : itemwise delisting = [] := (delists.idle delisted).1
      obtain ⟨_, _, rfl, returned⟩ := Work.runs_call_bind_iff.mp reporting
      obtain ⟨rfl, _, rfl⟩ := Work.runs_pure_iff.mp returned
      exact ⟨by simp [unshared, unlisted, quiet, Call.isItemwise], .inl rfl⟩

/-- A response to a message whose items were treated like this. -/
structure Classifies (node : Node) (message : Message) (treatments : List Treatment)
    (response : Response) : Prop where
  complete : treatments.map (·.item) = message.data
  mild : ∀ treatment ∈ treatments, treatment.fatal? = none
  output : response.output = treatments.flatMap (·.outputs)
  discarded : response.discarded = treatments.filterMap (·.discard?)
  failed : response.failed = treatments.filterMap (·.failure? node.id message.worker)
  partition : message.data.Perm ((treatments.filter (·.isAccepted)).map (·.item) ++
    response.discarded.map (·.2) ++ response.failed.map (·.data))

namespace Sorts

variable {treatments : List Treatment} {outcome : Except RouteFailure Response}

/-- With a response, the items of the message are classified as they were treated. -/
theorem classifies {response : Response}
    (sorts : node.Sorts message.worker .empty message.data treatments (.ok response)) :
    node.Classifies message treatments response := by
  cases sorts with
  -- The response began without anything in it, so it has only what the treatments came to.
  | responded complete mild output discarded failed =>
    have discarded : response.discarded = treatments.filterMap (·.discard?) := by
      simpa [Response.empty, Response.discarded] using discarded
    have failed : response.failed = treatments.filterMap (·.failure? node.id message.worker) := by
      simpa [Response.empty, Response.failed] using failed
    refine ⟨complete, mild, by simpa [Response.empty] using output, discarded, failed, ?_⟩
    rw [← complete, discarded, failed]
    exact Treatment.perm_classes treatments node.id message.worker

/-- Sorting stops at the first item that a fatal error was raised for, and at nothing else. -/
theorem failure_iff {worker : String} {start : Response} {items : List Item}
    {failure : RouteFailure} (sorts : node.Sorts worker start items treatments outcome) :
    outcome = .error failure ↔
      ∃ cause, treatments.findSome? (·.fatal?) = some cause ∧ failure = .fatal node.id cause := by
  cases sorts with
  | responded complete mild =>
    have unraised : treatments.findSome? (·.fatal?) = none := List.findSome?_eq_none_iff.mpr mild
    simp [unraised]
  | @stopped earlier last left cause upTo reached mild raised =>
    -- What stopped the sorting is the last treatment, and those before it were mild.
    have unraised : earlier.findSome? (·.fatal?) = none := List.findSome?_eq_none_iff.mpr mild
    have first : treatments.findSome? (·.fatal?) = some cause := by
      simp [upTo, List.findSome?_append, unraised, raised]
    simp [first, eq_comm]

/-- No item comes after one with a fatal error, and none is left out before it. -/
theorem upTo {worker : String} {start : Response} {items : List Item}
    (sorts : node.Sorts worker start items treatments outcome) :
    treatments.map (·.item) <+: items ∧
      ∀ treatment ∈ treatments.dropLast, treatment.fatal? = none := by
  -- Either all items were treated, or the last that was treated was the first fatal one.
  cases sorts with
  | responded complete mild =>
    refine ⟨complete ▸ List.prefix_rfl, fun treatment member => ?_⟩
    exact mild treatment (List.dropLast_subset _ member)
  | @stopped earlier last left cause upTo reached mild raised =>
    refine ⟨⟨left, reached.symm⟩, ?_⟩
    simpa [upTo] using mild

end Sorts

/-- What fails at a node came with the message, and failed there, on the worker of the message, with
an error that is not fatal. -/
theorem apply_failed {response : Response} {before : Transaction}
    (runs : (node.apply message before).Runs trace (after, .ok response)) :
    ∀ failed ∈ response.failed, failed.cause.fatal = false ∧ failed.origin = node.id ∧
      failed.worker = message.worker ∧ failed.data ∈ message.data := by
  intro failed member
  rcases apply_performs runs with
    ⟨fault, same, _⟩ | ⟨begun, left, during, outcome, performed, _, closes⟩
  · cases same
  cases closes.ok
  by_cases role : node.role = .sink
  · -- A sink fails with all of the items, or with none.
    obtain ⟨reply, _, receives⟩ := perform_receives role performed
    cases receives with
    | replied answer => simp [Response.failed] at member
    | failed cause mild =>
      obtain ⟨data, came, rfl⟩ : ∃ data ∈ message.data,
          (⟨data, cause, node.id, message.worker⟩ : FailedItem) = failed := by
        simpa [Response.failed, ErrorBatch.ofItems] using member
      exact ⟨mild, rfl, rfl, came⟩
  · -- Otherwise the failed items are those of the treatments that failed.
    obtain ⟨treatments, _, _, sorts⟩ := perform_sorts role performed
    rw [sorts.classifies.failed] at member
    obtain ⟨treatment, treated, kept⟩ := List.mem_filterMap.mp member
    obtain ⟨mild, origin, worker, data⟩ :=
      Treatment.mem_failure? (sorts.classifies.mild _ treated) kept
    refine ⟨mild, origin, worker, ?_⟩
    rw [data, ← sorts.classifies.complete]
    exact List.mem_map_of_mem treated

/-- A node sorts the items of a message. It comes to an end whatever it is answered, and there are
treatments, one after the other, of items from the first one on. If there is a response, no item
went without one; its outputs, its discards with their reasons and its errors with their causes are
what became of them, in order; and each item is in one class, once. If a fatal error is raised, that
is what the application fails with; it is the first one, and no item is treated after it. A sink
gets all the items in a delivery, of which there is at most one, and responds with the reply, or
with every item failed, unless the error is fatal. -/
theorem apply_sorts_items (node : Node) (message : Message) (before : Transaction) :
    (node.apply message before).Ends ∧
    ∀ (trace : List Exchange) (after : Transaction) (result : Except RouteFailure Response),
      (node.apply message before).Runs trace (after, result) →
      (node.role ≠ .sink → ∃ treatments : List Treatment,
        (∀ treatment ∈ treatments, node.Treats treatment) ∧
        itemwise trace = treatments.flatMap (·.calls) ∧
        treatments.map (·.item) <+: message.data ∧
        (∀ response, result = .ok response → node.Classifies message treatments response) ∧
        (∀ id cause, result = .error (.fatal id cause) ↔
          id = node.id ∧ treatments.findSome? (·.fatal?) = some cause) ∧
        ∀ treatment ∈ treatments.dropLast, treatment.fatal? = none) ∧
      (node.role = .sink → ∃ reply : Option (Except Condition (Option Item)),
        itemwise trace = (reply.map (node.delivery message)).toList ∧
        (∀ response, result = .ok response →
          (∃ answer, reply = some (.ok answer) ∧ response = ⟨answer.toList, [], []⟩) ∨
          ∃ cause, reply = some (.error cause) ∧ cause.fatal = false ∧ response = ⟨[], [],
            [⟨cause.kind, message.data.map (⟨·, cause, node.id, message.worker⟩)⟩]⟩) ∧
        ∀ id cause, result = .error (.fatal id cause) ↔
          id = node.id ∧ reply = some (.error cause) ∧ cause.fatal = true) := by
  -- Whatever it is answered, the node walks through its questions to an end.
  have bounded : (node.apply message).Confined (.walking (fun _ => True) True False)
      fun _ => True := node.apply_walking message trivial
  refine ⟨(bounded before trivial).comesToAnEnd, fun trace after result runs => ⟨?_, ?_⟩⟩
  · intro role
    rcases apply_performs runs with
      ⟨fault, rfl, quiet⟩ | ⟨begun, left, during, outcome, performed, asked, closes⟩
    · -- The transaction was at fault before any item could be treated.
      exact ⟨[], by simp, quiet, by simp, by simp, by simp, by simp⟩
    obtain ⟨treatments, treated, calls, sorts⟩ := perform_sorts role performed
    refine ⟨treatments, treated, asked.trans calls, sorts.upTo.1, ?_, ?_, sorts.upTo.2⟩
    · -- A response classifies what was treated.
      rintro response rfl
      exact (closes.ok ▸ sorts).classifies
    · -- A fatal failure is that of the first fatal treatment, and no other part of the application
      -- fails so.
      intro id cause
      rw [closes.fatal_iff, sorts.failure_iff]
      constructor
      · rintro ⟨_, first, same⟩
        cases same
        exact ⟨rfl, first⟩
      · rintro ⟨rfl, first⟩
        exact ⟨cause, first, rfl⟩
  · intro role
    rcases apply_performs runs with
      ⟨fault, rfl, quiet⟩ | ⟨begun, left, during, outcome, performed, asked, closes⟩
    · -- Nor was anything delivered then.
      exact ⟨none, quiet, by simp, by simp⟩
    obtain ⟨reply, delivered, receives⟩ := perform_receives role performed
    refine ⟨some reply, asked.trans delivered, ?_, ?_⟩
    · -- A reply is the response, and a failure that is not fatal is spread over the items.
      rintro response rfl
      cases closes.ok ▸ receives with
      | replied answer => exact .inl ⟨answer, rfl, rfl⟩
      | failed cause mild => exact .inr ⟨cause, rfl, mild, rfl⟩
    · -- A fatal failure of the sink is the only one of the application.
      intro id cause
      rw [closes.fatal_iff, receives.failure_iff]
      constructor
      · rintro ⟨_, rfl, fatal, same⟩
        cases same
        exact ⟨rfl, rfl, fatal⟩
      · rintro ⟨rfl, same, fatal⟩
        cases same
        exact ⟨cause, rfl, fatal, rfl⟩

/-- Whether gold was kept, sand discarded for what it is worth, and the rest failed. -/
def isPanned : Transaction × Except RouteFailure Response → Bool
  | (_, .ok ⟨[.string "gold"], [⟨[.string "sand", .string "sand"], "worthless"⟩],
      [⟨_, [_, _, _]⟩]⟩) => true
  | _ => false

/-- The six items of a river are all treated when it is sifted, although the fourth fails. -/
theorem apply_sorts_items_river : ∃ trace after response treatments,
    (Router.sieve.apply Router.river (.opened 1)).Runs trace (after, .ok response) ∧
    itemwise trace = treatments.flatMap (·.calls) ∧
    Router.sieve.Classifies Router.river treatments response ∧
    isPanned (after, .ok response) = true := by
  obtain ⟨trace, ⟨after, result⟩, runs, _, panned⟩ := Plan.exists_run_of_answers Router.sifted
    (Router.sieve.apply Router.river (.opened 1)) isPanned (by decide)
  obtain ⟨_, sorts⟩ := apply_sorts_items Router.sieve Router.river (.opened 1)
  obtain ⟨treatments, _, asked, _, classifies, _⟩ := (sorts trace after result runs).1 (by decide)
  cases result with
  | error failure => cases panned
  | ok response =>
    exact ⟨trace, after, response, treatments, runs, asked, classifies response rfl, panned⟩

end Node

end BatchFlow
