import BatchFlow.Proofs.Adaptor.Tasks
import BatchFlow.Proofs.Worker.PollOrder
import BatchFlow.Proofs.Worker.Restarts

/-! A worker polls no more often than its restarts allow, connects its producer before each polling
and disconnects it after each, and gives it back its position in between. -/

namespace BatchFlow

open Plan (Exchange)

/-- A question with which a producer is connected. -/
def Call.isConnect : Call → Bool
  | .connectProducer _ => true
  | _ => false

/-- How often producers were asked to connect. -/
def connections (trace : List Exchange) : Nat :=
  trace.countP (·.call.isConnect)

/-- The connections of two traces add up. -/
theorem connections_append (first rest : List Exchange) :
    connections (first ++ rest) = connections first + connections rest :=
  List.countP_append

/-- Where nobody is asked to connect there are no connections. -/
theorem connections_eq_zero {trace : List Exchange}
    (unconnecting : ∀ exchange ∈ trace, exchange.call.isConnect = false) :
    connections trace = 0 :=
  List.countP_eq_zero.mpr fun exchange asked => by simp [unconnecting exchange asked]

/-- A question that changes the handle, the connection or the position of a producer. -/
def Call.isManaging : Call → Bool
  | .advance (.producer _) _ | .connectProducer _ | .disconnectProducer _ | .setContext .. => true
  | _ => false

/-- The position that a producer was given. -/
def Plan.Exchange.given? : Exchange → Option (Nat × Item)
  | ⟨.setContext key context, _⟩ => some (key, context)
  | _ => none

/-- The positions that producers were given, in order. -/
def given (trace : List Exchange) : List (Nat × Item) :=
  trace.filterMap (·.given?)

namespace Worker

variable {worker : Worker} {trace polling before after : List Exchange} {tie last : Tie}

/-- There is one polling at most for each restart, and one more. -/
theorem Tries.length_le {left : Nat} {pollings : List (List Exchange)}
    (tries : worker.Tries left trace pollings) : pollings.length ≤ left + 1 := by
  -- Only another attempt uses up a restart.
  induction tries with
  | starting => simp
  | polling | leaving => simp
  | again _ _ ih => simpa using ih

/-- A polling leaves the handle, the connection and the position of its producer alone. -/
theorem pollLoop_unmanaging {rounds : Nat} {left : Plan (Except WorkerFailure Unit)}
    (reaches : (worker.pollLoop rounds).Reaches polling left) :
    ∀ exchange ∈ polling, exchange.call.isManaging = false := by
  intro exchange asked
  -- Wherever an exchange of the polling stands, it is about something else.
  obtain ⟨before, after, listed⟩ := List.append_of_mem asked
  cases (pollLoop_cycles reaches).stands listed with
  | looking looks => rcases looks with same | same <;> rw [same] <;> rfl
  | polling => rfl
  | amid _ amid =>
    cases amid with
    | reporting | showing => rfl
    | naming names =>
      obtain ⟨call, reply⟩ := exchange
      cases call <;> first | rfl | cases names
    | walking _ _ reached =>
      obtain ⟨call, reply⟩ := exchange
      rcases ofWalk_of_reaches reached with ⟨node, applied⟩ | shared
      · cases call <;> first | rfl | cases applied
      · cases call <;> first | rfl | cases shared

/-- While it is polled, a producer is not asked to connect. -/
theorem unconnecting_of_polling {rounds : Nat} {left : Plan (Except WorkerFailure Unit)}
    (reaches : (worker.pollLoop rounds).Reaches polling left) :
    ∀ exchange ∈ polling, exchange.call.isConnect = false := by
  intro exchange asked
  -- What is asked while polling does not manage the producer, and a connection would.
  have unmanaging := pollLoop_unmanaging reaches exchange asked
  obtain ⟨call, reply⟩ := exchange
  cases call <;> first | rfl | cases unmanaging

/-- Nor is it on the way out. -/
theorem unconnecting_of_leaving
    (leaves : ∀ exchange ∈ after, exchange.call = .isCancelled ∨ exchange.call.isLeaving = true) :
    ∀ exchange ∈ after, exchange.call.isConnect = false := by
  intro exchange asked
  have leaving := leaves exchange asked
  obtain ⟨call, reply⟩ := exchange
  rcases leaving with rfl | leaving
  · rfl
  · cases call <;> first | rfl | cases leaving

/-- Nor is it between a polling and the next connection. -/
theorem unconnecting_of_lapse {attempt : Nat} {failure : WorkerFailure} {context : Option Item}
    {reply : Except Condition Unit}
    (polled : (worker.pollLoop worker.allowance.rounds).Runs polling (.error failure)) :
    ∀ exchange ∈ worker.lapse polling attempt failure context reply,
      exchange.call.isConnect = false := by
  -- To recover is to leave, whatever the reply and the position.
  have recovers : ∀ exchange ∈ worker.recovering attempt failure context reply,
      exchange.call.isLeaving = true := by
    cases reply <;> cases context <;>
      simp [recovering, restoring, Source.disconnecting, Call.isLeaving]
  refine List.forall_mem_append.mpr ⟨unconnecting_of_polling polled.reaches, ?_⟩
  refine unconnecting_of_leaving (List.forall_mem_cons.mpr ⟨.inl rfl, fun exchange asked => ?_⟩)
  exact .inr (recovers exchange asked)

/-- In the starting of a producer, one question is to connect it. -/
theorem connecting_cases {key : Nat} {reply connected : Except Condition Unit}
    (listed : worker.source.connecting reply =
      before ++ ⟨.connectProducer key, connected⟩ :: after) :
    key = worker.source.key ∧ before = [⟨.advance (.producer worker.source.key) .start, true⟩] := by
  -- Among so few questions it can only be the second one.
  cases reply <;> unfold Source.connecting at listed <;>
  · match before, listed with
    | [], listed => cases listed
    | [_], listed => cases listed; exact ⟨rfl, rfl⟩
    | [_, _], listed => cases listed
    | _ :: _ :: _ :: _, listed => simp at listed

/-- Whether or not it succeeds, the starting of a producer is one connection. -/
theorem connections_connecting (source : Source) (reply : Except Condition Unit) :
    connections (source.connecting reply) = 1 := by
  cases reply <;> rfl

/-- A connection that stands after the starting of a producer stands in it, or after it in what may
ask to connect. -/
theorem connection_cases {key : Nat} {connected : Except Condition Unit}
    {apart rest : List Exchange}
    (unconnecting : ∀ exchange ∈ apart, exchange.call.isConnect = false)
    (listed : worker.source.connecting (.ok ()) ++ (apart ++ rest) =
      before ++ ⟨.connectProducer key, connected⟩ :: after) :
    (key = worker.source.key ∧
        before = [⟨.advance (.producer worker.source.key) .start, true⟩]) ∨
      ∃ earlier, before = worker.source.connecting (.ok ()) ++ (apart ++ earlier) ∧
        rest = earlier ++ ⟨.connectProducer key, connected⟩ :: after := by
  rcases append_eq_append_cons listed with ⟨_, starts, _⟩ | ⟨part, rfl, further⟩
  · exact .inl (connecting_cases starts)
  -- What stands in between is no connection.
  rcases append_eq_append_cons further with ⟨_, asked, _⟩ | ⟨earlier, rfl, last⟩
  · have impossible := unconnecting ⟨.connectProducer key, connected⟩ (by simp [asked])
    cases impossible
  · exact .inr ⟨earlier, rfl, last⟩

/-- A worker connects its producer once for each restart at most, and one more time. -/
theorem Tries.connections_le {left : Nat} {pollings : List (List Exchange)}
    (tries : worker.Tries left trace pollings) : connections trace ≤ left + 1 := by
  -- Each attempt connects once, and whatever it goes through besides does not connect.
  induction tries with
  -- An attempt that ends while connecting has connected once at most.
  | @starting left trace reply begun =>
    have fewer : connections trace ≤ connections (worker.source.connecting reply) :=
      begun.sublist.countP_le
    rw [connections_connecting] at fewer
    omega
  -- A polling connects nothing.
  | polling reached =>
    rw [connections_append, connections_connecting,
      connections_eq_zero (unconnecting_of_polling reached)]
    omega
  -- Nor does the leaving after it.
  | leaving polled leaves =>
    rw [connections_append, connections_append, connections_connecting,
      connections_eq_zero (unconnecting_of_polling polled.reaches),
      connections_eq_zero (unconnecting_of_leaving leaves)]
    omega
  -- A lapse connects nothing either, and the next attempt has one restart fewer left.
  | again polled _ ih =>
    rw [connections_append, connections_append, connections_connecting,
      connections_eq_zero (unconnecting_of_lapse polled)]
    omega

/-- What passes between two connections of a producer, when it reported this position: a polling
fails, the worker recovers, and the handle is moved again. -/
def Lapses (worker : Worker) (context : Option Item) (between : List Exchange) : Prop :=
  ∃ polling attempt failure reply,
    (worker.pollLoop worker.allowance.rounds).Runs polling (.error failure) ∧
      between = worker.lapse polling attempt failure context reply ++
        [⟨.advance (.producer worker.source.key) .start, true⟩]

/-- Each connection is the first, or there was one before it, and what lapses in between. -/
theorem Tries.reconnects {left key : Nat} {connected : Except Condition Unit}
    {pollings : List (List Exchange)} (tries : worker.Tries left trace pollings)
    (listed : trace = before ++ ⟨.connectProducer key, connected⟩ :: after) :
    key = worker.source.key ∧
      (before = [⟨.advance (.producer worker.source.key) .start, true⟩] ∨
        ∃ earlier between context, worker.Lapses context between ∧
          before = earlier ++ ⟨.connectProducer worker.source.key, .ok ()⟩ :: between) := by
  -- The first connection is found where the producer is started, and any other one further on.
  induction tries generalizing before with
  | starting begun =>
    obtain ⟨more, whole⟩ := begun
    rw [listed, List.append_assoc, List.cons_append] at whole
    obtain ⟨own, first⟩ := connecting_cases whole.symm
    exact ⟨own, .inl first⟩
  -- If there were a connection in the polling, it would be one too many.
  | @polling _ polling _ reached =>
    rw [← List.append_nil polling] at listed
    rcases connection_cases (unconnecting_of_polling reached) listed with ⟨own, first⟩ |
      ⟨_, _, further⟩
    · exact ⟨own, .inl first⟩
    · simp at further
  | @leaving _ polling leave _ polled leaves =>
    rw [← List.append_nil (polling ++ leave)] at listed
    have unconnecting : ∀ exchange ∈ polling ++ leave, exchange.call.isConnect = false :=
      List.forall_mem_append.mpr
        ⟨unconnecting_of_polling polled.reaches, unconnecting_of_leaving leaves⟩
    rcases connection_cases unconnecting listed with ⟨own, first⟩ | ⟨_, _, further⟩
    · exact ⟨own, .inl first⟩
    · simp at further
  -- This is the connection of the first attempt, or one of the attempts after the lapse.
  | @again left polling trace failure context reply _ polled _ ih =>
    rcases connection_cases (unconnecting_of_lapse polled) listed with ⟨own, first⟩ |
      ⟨earlier, rfl, further⟩
    · exact ⟨own, .inl first⟩
    obtain ⟨own, first | ⟨prior, between, reported, lapses, rfl⟩⟩ := ih further
    · -- The connection is the second one, and the lapse is this one.
      subst first
      have lapses : worker.Lapses context
          (worker.lapse polling (worker.restart.limit - left) failure context reply ++
            [⟨.advance (.producer worker.source.key) .start, true⟩]) :=
        ⟨polling, _, failure, reply, polled, rfl⟩
      exact ⟨own, .inr ⟨[⟨.advance (.producer worker.source.key) .start, true⟩], _, context,
        lapses, rfl⟩⟩
    · -- Otherwise the lapse before the connection is one of those later attempts.
      exact ⟨own, .inr ⟨worker.source.connecting (.ok ()) ++
        (worker.lapse polling (worker.restart.limit - left) failure context reply ++ prior),
        between, reported, lapses, by simp⟩⟩

/-- In between, the producer was given the position that it reported, and no other. -/
theorem Lapses.given_eq {context : Option Item} {between : List Exchange}
    (lapses : worker.Lapses context between) :
    given between = context.toList.map fun position => (worker.source.key, position) := by
  obtain ⟨polling, attempt, failure, reply, polled, rfl⟩ := lapses
  -- A polling gives no position.
  have polls : given polling = [] := by
    refine List.filterMap_eq_nil_iff.mpr fun exchange asked => ?_
    have unmanaging := pollLoop_unmanaging polled.reaches exchange asked
    obtain ⟨call, answer⟩ := exchange
    cases call <;> first | rfl | cases unmanaging
  unfold given at polls ⊢
  rw [lapse, List.filterMap_append, List.filterMap_append, polls]
  -- The position is given back after the pause, whichever way the disconnection went.
  cases reply <;> cases context <;> rfl

/-- What a worker has gone through so far, apart from reports, and its pollings. -/
def Undertakes (worker : Worker) (trace : List Exchange) (pollings : List (List Exchange)) :
    Prop :=
  ∃ first serving last, trace = first ++ (serving ++ last) ∧
    (∀ exchange ∈ first ++ last, ∃ event, exchange.call = .log event) ∧
    worker.Tries worker.restart.limit serving pollings

/-- However far a worker has come, apart from reports it has gone from one polling to the next. -/
theorem run_undertakes {rest : Plan WorkerExit} (reaches : worker.run.Reaches trace rest)
    (led : trace.foldlM Tie.after? .idle = some tie) :
    ∃ pollings, worker.Undertakes trace pollings := by
  -- Reports come before and after the serving, which is where the pollings are.
  rcases Plan.reaches_call_bind_iff.mp reaches with ⟨rfl, _⟩ | ⟨_, serving, rfl, serves⟩
  · have nothing : worker.Tries worker.restart.limit [] [] :=
      .starting (List.nil_prefix (l := worker.source.connecting (.ok ())))
    exact ⟨[], [], [], [], rfl, by simp, nothing⟩
  let started : List Exchange := [⟨.log (.workerStarted worker.source.id worker.name), ()⟩]
  have led : serving.foldlM Tie.after? .idle = some tie := led
  rcases Plan.reaches_bind_cases serves with ⟨_, within, _, _⟩ |
    ⟨exit, serving, last, rfl, served, reports⟩
  · obtain ⟨pollings, tries⟩ := serve_tries within led
    exact ⟨pollings, started, serving, [], by simp [started], by simp [started], tries⟩
  rw [List.foldlM_append] at led
  obtain ⟨_, first, _⟩ := Option.bind_eq_some_iff.mp led
  obtain ⟨pollings, tries⟩ := serve_tries served.reaches first
  have reported : ∀ exchange ∈ last, ∃ event, exchange.call = .log event := by
    refine (Plan.Confined.reaches (show Plan.Confined (fun call => ∃ event, call = .log event)
      False (fun _ => True) _ from ?_) reports).1
    -- Whichever way the worker ended, only reports come after that.
    cases exit.failure with
    | none => exact ⟨⟨_, rfl⟩, fun _ _ _ => trivial⟩
    | some failure => exact ⟨⟨_, rfl⟩, fun _ _ _ => ⟨⟨_, rfl⟩, fun _ _ _ => trivial⟩⟩
  exact ⟨pollings, started, serving, last, rfl, List.forall_mem_cons.mpr ⟨⟨_, rfl⟩, reported⟩,
    tries⟩

/-- A report does not connect anybody. -/
theorem unconnecting_of_log (reports : ∀ exchange ∈ trace, ∃ event, exchange.call = .log event) :
    ∀ exchange ∈ trace, exchange.call.isConnect = false := by
  intro exchange asked
  obtain ⟨event, same⟩ := reports exchange asked
  rw [same]
  rfl

/-- A worker connects its producer as often as its serving does. -/
theorem Undertakes.connections_le {pollings : List (List Exchange)}
    (undertakes : worker.Undertakes trace pollings) :
    connections trace ≤ worker.restart.limit + 1 := by
  -- Around the serving there are only reports.
  obtain ⟨first, serving, last, rfl, reports, tries⟩ := undertakes
  obtain ⟨before, after⟩ := List.forall_mem_append.mp (unconnecting_of_log reports)
  rw [connections_append, connections_append, connections_eq_zero before,
    connections_eq_zero after]
  have few := tries.connections_le
  omega

/-- Each connection of a producer is its first in this run, or there was one before it, and what
lapses in between. -/
theorem Undertakes.reconnects {key : Nat} {connected : Except Condition Unit}
    {pollings : List (List Exchange)} (undertakes : worker.Undertakes trace pollings)
    (listed : trace = before ++ ⟨.connectProducer key, connected⟩ :: after) :
    key = worker.source.key ∧ (connections before = 0 ∨
      ∃ earlier between context, worker.Lapses context between ∧
        before = earlier ++ ⟨.connectProducer worker.source.key, .ok ()⟩ :: between) := by
  obtain ⟨first, serving, last, rfl, reports, tries⟩ := undertakes
  obtain ⟨begun, ended⟩ := List.forall_mem_append.mp (unconnecting_of_log reports)
  -- No report is a connection, so this one belongs to the serving.
  rcases append_eq_append_cons listed with ⟨_, same, _⟩ | ⟨part, rfl, further⟩
  · have impossible := begun ⟨.connectProducer key, connected⟩ (by simp [same])
    cases impossible
  rcases append_eq_append_cons further with ⟨_, served, _⟩ | ⟨_, _, same⟩
  · obtain ⟨own, start | ⟨earlier, between, context, lapses, rfl⟩⟩ := tries.reconnects served
    · refine ⟨own, .inl ?_⟩
      rw [connections_append, connections_eq_zero begun, start]
      rfl
    · exact ⟨own, .inr ⟨first ++ earlier, between, context, lapses, by simp⟩⟩
  · have impossible := ended ⟨.connectProducer key, connected⟩ (by simp [same])
    cases impossible

/-- A worker polls no more often than its serving does. -/
theorem Undertakes.length_le {pollings : List (List Exchange)}
    (undertakes : worker.Undertakes trace pollings) :
    pollings.length ≤ worker.restart.limit + 1 := by
  obtain ⟨_, _, _, _, _, tries⟩ := undertakes
  exact tries.length_le

/-- A producer goes from mark to mark while a worker that attends to it goes on. -/
theorem course?_of_passes {key : Nat}
    (passes : Plan.Passes (attendance key).Grants (some tie) trace (some last)) :
    Mark.course? tie.attached (Mark.all key (trace.map .exchange)) = some last.attached := by
  generalize begun : some tie = state at passes
  generalize ended : some last = final at passes
  induction passes generalizing tie with
  | start =>
    cases begun
    cases ended
    rfl
  | @next _ middle _ exchange trace turned _ ih =>
    subst begun
    obtain ⟨⟨own, admitted⟩, led⟩ := turned
    obtain ⟨tied, changed, rfl⟩ := Option.map_eq_some_iff.mp led
    have marked := Mark.course?_of_after own (admitted tie rfl) changed
    have whole : Mark.all key ((exchange :: trace).map .exchange) =
        Mark.all key [.exchange exchange] ++ Mark.all key (trace.map .exchange) :=
      Mark.all_append key [.exchange exchange] _
    rw [whole, Mark.course?_append, marked]
    -- The first exchange brings the producer to the mark from which the others go on.
    exact ih rfl ended

/-- A worker keeps to its budget, however far it has come and whatever its producer is tied to. -/
structure WithinBudget (worker : Worker) (trace : List Exchange) (rest : Plan WorkerExit)
    (tie : Tie) : Prop where
  /-- There is one polling at most for each restart, and one more. -/
  polls : ∃ pollings, worker.Undertakes trace pollings ∧
    pollings.length ≤ worker.restart.limit + 1
  /-- The producer is not connected more often than that, whether or not it succeeds. -/
  connects : connections trace ≤ worker.restart.limit + 1
  /-- The worker deals with no other producer. -/
  own : ∀ exchange ∈ trace, ∀ key, exchange.call.tied? = some key → key = worker.source.key
  /-- The producer is polled between a connection and the next disconnection only, and both
  alternate. -/
  marks : Mark.Settled (Mark.all worker.source.key (trace.map .exchange)) ∨
    Mark.Unsettled (Mark.all worker.source.key (trace.map .exchange))
  /-- Between two connections a polling failed, the producer told its position and was disconnected,
  and was given the position that it told, if it told one, and no other. -/
  reconnects : ∀ before after key reply,
    trace = before ++ ⟨.connectProducer key, reply⟩ :: after →
      connections before = 0 ∨ ∃ earlier between context,
        before = earlier ++ ⟨.connectProducer worker.source.key, .ok ()⟩ :: between ∧
        worker.Lapses context between ∧
        given between = context.toList.map fun position => (worker.source.key, position)
  /-- In the end the producer is stopped, and was disconnected as often as connected; and the exit
  is clean just if one of the pollings was, which is the last one then. -/
  ended : ∀ exit, rest = .done exit →
    tie = .idle ∧ Mark.Settled (Mark.all worker.source.key (trace.map .exchange)) ∧
      ∃ sessions, worker.Goes trace sessions exit ∧ sessions.length ≤ worker.restart.limit + 1 ∧
        (exit.code = 0 ↔ ∃ session ∈ sessions, session.isFailed = false) ∧
        ∀ session ∈ sessions.dropLast, session.isFailed = true

/-- However its producer and the router behave, and whenever the run is cancelled, a worker whose
producer is stopped at first keeps to its budget of restarts. -/
theorem run_keeps_within_budget {worker : Worker} {trace : List Exchange} {rest : Plan WorkerExit}
    {tie : Tie} (reaches : worker.run.Reaches trace rest)
    (truthful : trace.foldlM Tie.after? .idle = some tie) :
    worker.WithinBudget trace rest tie := by
  -- The pollings are counted along the trace, and the connection is followed by the handle.
  obtain ⟨pollings, undertakes⟩ := run_undertakes reaches truthful
  have fresh : Fresh (some .idle) := fun tie same => .inl (Option.some.inj same).symm
  obtain ⟨passes, observes⟩ :=
    (worker.run_observes fresh).reaches reaches (attendance_foldlM truthful)
  have settled := Mark.settled_of_course? (course?_of_passes passes)
  refine ⟨⟨pollings, undertakes, undertakes.length_le⟩, undertakes.connections_le,
    passes.forall_mem fun _ _ _ granted => granted.1.1, ?_, ?_, ?_⟩
  · -- The last session is open just if the producer is connected now.
    cases attached : tie.attached with
    | true => exact .inr (by simpa [attached] using settled)
    | false => exact .inl (by simpa [attached] using settled)
  · intro before after key reply listed
    obtain ⟨_, first | ⟨earlier, between, context, lapses, same⟩⟩ := undertakes.reconnects listed
    · exact .inl first
    · exact .inr ⟨earlier, between, context, same, lapses, lapses.given_eq⟩
  · -- Whichever way the worker has ended, it has stopped the producer before.
    rintro exit rfl
    have idle : tie = .idle := observes tie rfl
    subst idle
    obtain ⟨sessions, goes⟩ := run_runs_iff.mp (reaches.runs (.done exit))
    rw [List.append_nil] at goes
    obtain ⟨serving, serves, whole⟩ := goes
    exact ⟨rfl, settled, sessions, ⟨serving, serves, whole⟩, serves.length_le,
      serves.code_eq_zero_iff, serves.failed_of_mem_dropLast⟩

/-- A worker that restarts once. -/
def mender : Worker :=
  { clerk with restart := ⟨1, ⟨0⟩⟩ }

/-- Surroundings in which polls fail for good until the producer was given its position. -/
def mending : Plan.Surroundings
  | past, .isExhausted _ => !(given past).isEmpty
  | _, .poll .. => .failed (.fatalError "lost")
  | _, .contextOf _ => some (.nat 2)
  | _, call => Plan.uneventful call

/-- After the first polling has failed, the producer is connected again with its position, and the
second polling is clean. -/
theorem run_keeps_within_budget_mending :
    ∃ trace exit tie, mender.run.Runs trace exit ∧
      trace.foldlM Tie.after? .idle = some tie ∧
      (connections trace = 2 ∧ (given trace).map (·.1) = [0] ∧ exit.code = 0) ∧
      mender.WithinBudget trace (.done exit) tie := by
  -- The kernel plays the run, and follows the producer through it.
  obtain ⟨trace, exit, runs, checked⟩ := Plan.exists_run mending mender.run
    (fun ended => (ended.1.foldlM Tie.after? .idle).isSome && decide (connections ended.1 = 2 ∧
      (given ended.1).map (·.1) = [0] ∧ ended.2.code = 0)) (by decide +kernel)
  obtain ⟨truthful, counted⟩ := Bool.and_eq_true_iff.mp checked
  obtain ⟨tie, truthful⟩ := Option.isSome_iff_exists.mp truthful
  exact ⟨trace, exit, tie, runs, truthful, of_decide_eq_true counted,
    run_keeps_within_budget runs.reaches truthful⟩

end Worker

end BatchFlow
