import BatchFlow.Proofs.Worker.PollLoop

/-! What the polling of a producer comes to at every moment, however the producer and the router
behave and whenever the run is cancelled. Each batch is routed at once, the producer is shown what
each traversal left behind, and nothing else leads to either. -/

namespace BatchFlow

open Plan (Exchange)

/-- What stands somewhere in two lists in a row stands somewhere in one of them. -/
theorem append_eq_append_cons {α : Type} {first rest before after : List α} {element : α}
    (whole : first ++ rest = before ++ element :: after) :
    (∃ further, first = before ++ element :: further ∧ after = further ++ rest) ∨
      ∃ earlier, before = first ++ earlier ∧ rest = earlier ++ element :: after := by
  rcases List.append_eq_append_iff.mp whole with ⟨earlier, rfl, same⟩ | ⟨further, rfl, same⟩
  · -- The element is the first of the rest, or it comes before the rest.
    exact .inr ⟨earlier, rfl, same⟩
  · cases further with
    | nil => exact .inr ⟨[], by simp, by simpa using same.symm⟩
    | cons next further =>
      cases same
      exact .inl ⟨further, rfl, rfl⟩

/-- A question that a traversal begins with, or one to the collaborator of a node. -/
def Call.Travels (call : Call) : Prop :=
  call = .openTransaction ∨ ∃ node, call.applied? = some node

namespace Worker

variable {worker : Worker} {items : List Item} {message : Message}

/-- Where the polling goes on from a cycle: the next question is whether the run was cancelled. -/
inductive Resumes : List Exchange → Plan (Except WorkerFailure Unit) → Prop where
  | spent : Resumes [] .starved
  | fresh {next : Bool → Plan (Except WorkerFailure Unit)} : Resumes [] (.ask .isCancelled next)
  | looked {cancelled : Bool} {more : List Exchange} {rest : Plan (Except WorkerFailure Unit)} :
    Resumes (⟨.isCancelled, cancelled⟩ :: more) rest

/-- What has followed upon a poll: the worker is still responding to it, or has ended with its
response, or it went on with another cycle. -/
inductive Answered (worker : Worker) (polled : Polled) :
    List Exchange → Plan (Except WorkerFailure Unit) → Prop where
  | underWay {during : List Exchange} {rest : Plan (Except WorkerFailure Unit)}
      (responding : worker.Responding polled during rest) : Answered worker polled during rest
  | halted {during : List Exchange} {result : Except WorkerFailure Unit}
      (responds : worker.Responds polled during (some result)) :
    Answered worker polled during (.done result)
  | past {during later : List Exchange} {rest : Plan (Except WorkerFailure Unit)}
      (responds : worker.Responds polled during none) (resumes : Resumes later rest) :
    Answered worker polled (during ++ later) rest

/-- What a worker may ask on account of a poll, after it has asked so much on account of it. -/
inductive Amid (worker : Worker) : Polled → List Exchange → Exchange → Prop where
  | reporting {cause : Condition} {event : Event} (passing : cause.fatal = false) :
    Amid worker (.failed cause) [] ⟨.log event, ()⟩
  | naming {items : List Item} {part : List Exchange} {exchange : Exchange}
      (names : exchange.call.isNaming = true) : Amid worker (.batch items) part exchange
  | walking {items : List Item} {named part : List Exchange} {message : Message}
      {exchange : Exchange} {left : Plan (Except RouteFailure Terminal)} (occupied : items ≠ [])
      (naming : worker.Names items named message)
      (reached : (worker.router.route worker.allowance.depth message).Reaches
        (part ++ [exchange]) left) :
    Amid worker (.batch items) (named ++ part) exchange
  | showing {items : List Item} {named walk : List Exchange} {message : Message}
      {results : Terminal} {reply : Except Condition Unit} (occupied : items ≠ [])
      (naming : worker.Names items named message)
      (routed : (worker.router.route worker.allowance.depth message).Runs walk (.ok results)) :
    Amid worker (.batch items) (named ++ walk) ⟨.onTerminal worker.source.key results, reply⟩

/-- Where an exchange of a polling stands: it is part of the beginning of a cycle, or of the
response to a poll. -/
inductive Stands (worker : Worker) (rest : Plan (Except WorkerFailure Unit)) :
    List Exchange → Exchange → List Exchange → Prop where
  | looking {before after : List Exchange} {exchange : Exchange}
      (looks : exchange.call = .isCancelled ∨ exchange.call = .isExhausted worker.source.key) :
    Stands worker rest before exchange after
  | polling (earlier : List Exchange) {after : List Exchange} {polled : Polled}
      (answered : worker.Answered polled after rest) :
    Stands worker rest
      (earlier ++ [⟨.isCancelled, false⟩, ⟨.isExhausted worker.source.key, false⟩])
      ⟨.poll worker.source.key worker.source.pollTimeout, polled⟩ after
  | amid (earlier : List Exchange) {part after : List Exchange} {polled : Polled}
      {exchange : Exchange} (amid : worker.Amid polled part exchange) :
    Stands worker rest (earlier ++ (worker.turn polled ++ part)) exchange after

variable {polled : Polled} {trace before during after : List Exchange} {exchange : Exchange}
  {rest : Plan (Except WorkerFailure Unit)}

/-- Whatever is asked for a message, or while it is routed, is asked in its place. -/
theorem amid_of_walked {named walk : List Exchange} {left : Plan (Except RouteFailure Terminal)}
    (occupied : items ≠ []) (naming : worker.Names items named message)
    (reached : (worker.router.route worker.allowance.depth message).Reaches walk left)
    (listed : named ++ walk = before ++ exchange :: after) :
    worker.Amid (.batch items) before exchange := by
  rcases append_eq_append_cons listed with ⟨_, names, _⟩ | ⟨part, rfl, rfl⟩
  · exact .naming (naming.asks exchange (by simp [names]))
  · -- The walk can be left right after the question.
    rw [List.append_cons] at reached
    obtain ⟨_, asked, _⟩ := reached.split
    exact .walking occupied naming asked

/-- So is what is asked of the producer after that. -/
theorem amid_of_shown {named walk : List Exchange} {results : Terminal}
    {reply : Except Condition Unit} (occupied : items ≠ [])
    (naming : worker.Names items named message)
    (routed : (worker.router.route worker.allowance.depth message).Runs walk (.ok results))
    (listed : named ++ (walk ++ [⟨.onTerminal worker.source.key results, reply⟩]) =
      before ++ exchange :: after) :
    worker.Amid (.batch items) before exchange := by
  rw [← List.append_assoc] at listed
  rcases append_eq_append_cons listed with ⟨_, walked, _⟩ | ⟨earlier, rfl, last⟩
  · exact amid_of_walked occupied naming routed.reaches walked
  · -- What is shown is the last exchange, so it can only be that one.
    cases earlier with
    | nil =>
      cases last
      rw [List.append_nil]
      exact .showing occupied naming routed
    | cons _ _ => simp at last

/-- What is asked while a batch is handled to the end is asked in its place. -/
theorem Handled.amid {outcome : Except WorkerFailure Unit} (occupied : items ≠ [])
    (handled : worker.Handled items during outcome)
    (listed : during = before ++ exchange :: after) :
    worker.Amid (.batch items) before exchange := by
  -- Either way the message is named and routed, and the showing comes after.
  cases handled with
  | shown naming routed | refused naming routed =>
    exact amid_of_shown occupied naming routed listed
  | failed naming routed => exact amid_of_walked occupied naming routed.reaches listed

/-- What is asked while a batch is being handled is asked in its place. -/
theorem Handling.amid (occupied : items ≠ []) (handling : worker.Handling items during rest)
    (listed : during = before ++ exchange :: after) :
    worker.Amid (.batch items) before exchange := by
  cases handling with
  | naming naming => exact .naming (naming.asks exchange (by simp [listed]))
  | routing naming reached => exact amid_of_walked occupied naming reached listed
  | showing naming routed => exact amid_of_walked occupied naming routed.reaches listed

/-- What is asked as a response to a poll is asked in its place. -/
theorem Responds.amid {verdict : Option (Except WorkerFailure Unit)}
    (responds : worker.Responds polled during verdict)
    (listed : during = before ++ exchange :: after) :
    worker.Amid polled before exchange := by
  cases responds with
  | cancelled | nothing | empty | fatal => simp at listed
  | routed occupied handled | stopped occupied handled => exact handled.amid occupied listed
  | reported passing =>
    -- A report is the only exchange of its response.
    cases before with
    | nil =>
      cases listed
      exact .reporting passing
    | cons _ _ => simp at listed

/-- What is asked while the worker is responding is asked in its place. -/
theorem Responding.amid (responding : worker.Responding polled during rest)
    (listed : during = before ++ exchange :: after) : worker.Amid polled before exchange := by
  cases responding with
  | handling occupied handling => exact handling.amid occupied listed
  | reporting => simp at listed

/-- An exchange that is listed after a beginning of a cycle is part of it, or comes after it. -/
theorem turn_cases (listed : worker.turn polled ++ during = before ++ exchange :: after) :
    (exchange.call = .isCancelled ∨ exchange.call = .isExhausted worker.source.key) ∨
      (before = [⟨.isCancelled, false⟩, ⟨.isExhausted worker.source.key, false⟩] ∧
        exchange = ⟨.poll worker.source.key worker.source.pollTimeout, polled⟩ ∧ after = during) ∨
      ∃ part, before = worker.turn polled ++ part ∧ during = part ++ exchange :: after := by
  rcases append_eq_append_cons listed with ⟨further, turns, rfl⟩ | ⟨part, rfl, later⟩
  · unfold turn at turns
    -- The beginning of a cycle has three exchanges, which are told apart by what comes before.
    match before, turns with
    | [], turns => cases turns; exact .inl (.inl rfl)
    | [_], turns => cases turns; exact .inl (.inr rfl)
    | [_, _], turns => cases turns; exact .inr (.inl ⟨rfl, rfl, rfl⟩)
    | _ :: _ :: _ :: _, turns => simp at turns
  · exact .inr (.inr ⟨part, rfl, later⟩)

/-- Where an exchange stands does not depend on the cycles before. -/
theorem Stands.shift {first : List Exchange} (stands : worker.Stands rest before exchange after) :
    worker.Stands rest (first ++ before) exchange after := by
  cases stands with
  | looking looks => exact .looking looks
  | polling earlier answered =>
    rw [← List.append_assoc]
    exact .polling _ answered
  | amid earlier amid =>
    rw [← List.append_assoc]
    exact .amid _ amid

/-- The polling goes on with the question whether the run was cancelled. -/
theorem PollCycles.resumes (cycles : worker.PollCycles trace rest) : Resumes trace rest := by
  cases cycles with
  | spent => exact .spent
  | fresh => exact .fresh
  | _ => exact .looked

/-- Every exchange of a polling stands in a cycle. -/
theorem PollCycles.stands (cycles : worker.PollCycles trace rest)
    (listed : trace = before ++ exchange :: after) :
    worker.Stands rest before exchange after := by
  -- Each cycle has its place, and in it each exchange; those of later cycles are shifted.
  induction cycles generalizing before with
  | spent | fresh => simp at listed
  -- The loop has looked once, or twice, and not polled.
  | uncancelled | cancelled =>
    cases before with
    | nil => cases listed; exact .looking (.inl rfl)
    | cons _ _ => simp at listed
  | unexhausted | exhausted =>
    match before, listed with
    | [], listed => cases listed; exact .looking (.inl rfl)
    | [_], listed => cases listed; exact .looking (.inr rfl)
    | _ :: _ :: _, listed => simp at listed
  -- In a cycle that was begun an exchange is a look, the poll or part of the response.
  | amid responding =>
    rcases turn_cases listed with looks | ⟨rfl, rfl, rfl⟩ | ⟨part, rfl, during⟩
    · exact .looking looks
    · exact .polling [] (.underWay responding)
    · exact .amid [] (responding.amid during)
  | last responds =>
    rcases turn_cases listed with looks | ⟨rfl, rfl, rfl⟩ | ⟨part, rfl, during⟩
    · exact .looking looks
    · exact .polling [] (.halted responds)
    · exact .amid [] (responds.amid during)
  | cycle responds cycles ih =>
    rcases turn_cases listed with looks | ⟨rfl, rfl, rfl⟩ | ⟨part, rfl, during⟩
    · exact .looking looks
    · exact .polling [] (.past responds cycles.resumes)
    · -- The exchange belongs to the response of this cycle, or to a later one.
      rcases append_eq_append_cons during with ⟨_, within, _⟩ | ⟨earlier, rfl, later⟩
      · exact .amid [] (responds.amid within)
      · rw [← List.append_assoc]
        exact (ih later).shift

/-- The end of a polling, and what it came to. It is clean if the run was cancelled or the producer
is exhausted. Otherwise the poll failed for good, the batch could not be routed, or the producer
could not bear the results. -/
inductive Closes (worker : Worker) : List Exchange → Except WorkerFailure Unit → Prop where
  | cancelled : Closes worker [⟨.isCancelled, true⟩] (.ok ())
  | exhausted :
    Closes worker [⟨.isCancelled, false⟩, ⟨.isExhausted worker.source.key, true⟩] (.ok ())
  | interrupted : Closes worker (worker.turn .cancelled) (.ok ())
  | poll {cause : Condition} (fatal : cause.fatal = true) :
    Closes worker (worker.turn (.failed cause)) (.error (.poll worker.source.id cause))
  | routing {items : List Item} {named walk : List Exchange} {message : Message}
      {failure : RouteFailure} (naming : worker.Names items named message)
      (routed : (worker.router.route worker.allowance.depth message).Runs walk (.error failure)) :
    Closes worker (worker.turn (.batch items) ++ (named ++ walk)) (.error (.routing failure))
  | terminal {items : List Item} {named walk : List Exchange} {message : Message}
      {results : Terminal} {cause : Condition} (naming : worker.Names items named message)
      (routed : (worker.router.route worker.allowance.depth message).Runs walk (.ok results)) :
    Closes worker (worker.turn (.batch items) ++
        (named ++ (walk ++ [⟨.onTerminal worker.source.key results, .error cause⟩])))
      (.error (.terminal worker.source.id cause))

/-- The last response of a worker is the end of its polling. -/
theorem Responds.closes {result : Except WorkerFailure Unit}
    (responds : worker.Responds polled during (some result)) :
    worker.Closes (worker.turn polled ++ during) result := by
  cases responds with
  | cancelled => exact .interrupted
  | fatal fatal => exact .poll fatal
  | stopped _ handled =>
    -- Only a batch that was not handled well ends the polling.
    cases handled with
    | refused naming routed => exact .terminal naming routed
    | failed naming routed => exact .routing naming routed

/-- A worker that is still responding has something left to do. -/
theorem Responding.unfinished (responding : worker.Responding polled during rest)
    (result : Except WorkerFailure Unit) : rest ≠ .done result := by
  -- There is a question left, in the routing or for the report.
  cases responding with
  | handling _ handling =>
    cases handling with
    | naming _ _ unfinished | routing _ _ _ unfinished => exact unfinished result
    | showing => nofun
  | reporting => nofun

/-- A polling that has come to its end was closed. -/
theorem PollCycles.closes {result : Except WorkerFailure Unit}
    (cycles : worker.PollCycles trace (.done result)) :
    ∃ before last, trace = before ++ last ∧ worker.Closes last result := by
  -- The cycles before the last one only put more in front.
  generalize same : Plan.done result = rest at cycles
  induction cycles with
  | spent | fresh | uncancelled | unexhausted => cases same
  | cancelled =>
    cases same
    exact ⟨[], _, rfl, .cancelled⟩
  | exhausted =>
    cases same
    exact ⟨[], _, rfl, .exhausted⟩
  | amid responding => exact absurd same.symm (responding.unfinished result)
  | last responds =>
    cases same
    exact ⟨[], _, rfl, responds.closes⟩
  | @cycle polled during _ _ _ _ ih =>
    obtain ⟨before, last, rfl, closes⟩ := ih same
    exact ⟨worker.turn polled ++ (during ++ before), last, by simp, closes⟩

/-- A polling is orderly, however far it has come. -/
structure Orderly (worker : Worker) (trace : List Exchange)
    (rest : Plan (Except WorkerFailure Unit)) : Prop where
  /-- The producer is polled once the run is not cancelled and it is not exhausted, and what comes
  after a poll, up to the next look at the run, is what the poll calls for. -/
  polled : ∀ before after key timeout polled,
    trace = before ++ ⟨.poll key timeout, polled⟩ :: after →
      key = worker.source.key ∧ timeout = worker.source.pollTimeout ∧
        (∃ earlier, before =
          earlier ++ [⟨.isCancelled, false⟩, ⟨.isExhausted worker.source.key, false⟩]) ∧
        worker.Answered polled after rest
  /-- Nothing is asked as part of a traversal but of the one for the batch that was just polled. -/
  travelled : ∀ before after exchange, trace = before ++ exchange :: after →
    exchange.call.Travels →
      ∃ earlier items named message part left, items ≠ [] ∧
        before = earlier ++ (worker.turn (.batch items) ++ (named ++ part)) ∧
        worker.Names items named message ∧
        (worker.router.route worker.allowance.depth message).Reaches (part ++ [exchange]) left
  /-- The producer is shown nothing but the results of the traversal that is just over. -/
  shown : ∀ before after key results reply,
    trace = before ++ ⟨.onTerminal key results, reply⟩ :: after →
      key = worker.source.key ∧
        ∃ earlier items named message walk, items ≠ [] ∧
          before = earlier ++ (worker.turn (.batch items) ++ (named ++ walk)) ∧
          worker.Names items named message ∧
          (worker.router.route worker.allowance.depth message).Runs walk (.ok results)
  ended : ∀ result, rest = .done result →
    ∃ before last, trace = before ++ last ∧ worker.Closes last result

/-- What is asked while a message is routed is asked of nodes, or about the transaction. -/
theorem ofWalk_of_reaches {part : List Exchange} {left : Plan (Except RouteFailure Terminal)}
    (reached : (worker.router.route worker.allowance.depth message).Reaches
      (part ++ [exchange]) left) :
    (∃ node, exchange.call.applied? = some node) ∨ exchange.call.isShared = true := by
  have confined := worker.router.route_confined
    (fun _ allowed => allowed) worker.allowance.depth message
  -- A walk has its bounds at every moment, and the question is the last one so far.
  exact (confined.reaches reached).1 exchange (by simp)

/-- A poll stands at the beginning of its cycle, and what comes after it answers it. -/
theorem PollCycles.polls {key : Nat} {timeout : Duration} (cycles : worker.PollCycles trace rest)
    (listed : trace = before ++ ⟨.poll key timeout, polled⟩ :: after) :
    key = worker.source.key ∧ timeout = worker.source.pollTimeout ∧
      (∃ earlier, before =
        earlier ++ [⟨.isCancelled, false⟩, ⟨.isExhausted worker.source.key, false⟩]) ∧
      worker.Answered polled after rest := by
  generalize asked : (⟨.poll key timeout, polled⟩ : Exchange) = exchange at listed
  cases cycles.stands listed with
  -- A look is no poll.
  | looking looks =>
    subst asked
    simp at looks
  | polling earlier answered =>
    cases asked
    exact ⟨rfl, rfl, ⟨earlier, rfl⟩, answered⟩
  | amid earlier amid =>
    -- Nobody is polled while a batch is being handled.
    subst asked
    cases amid with
    | naming names => cases names
    | walking _ _ reached => simpa [Call.applied?, Call.isShared] using ofWalk_of_reaches reached

/-- A question of a traversal stands in the walk for the batch that was just polled. -/
theorem PollCycles.travels (cycles : worker.PollCycles trace rest)
    (listed : trace = before ++ exchange :: after)
    (travels : exchange.call.Travels) :
    ∃ earlier items named message part left, items ≠ [] ∧
      before = earlier ++ (worker.turn (.batch items) ++ (named ++ part)) ∧
      worker.Names items named message ∧
      (worker.router.route worker.allowance.depth message).Reaches (part ++ [exchange]) left := by
  cases cycles.stands listed with
  -- A look at the run or the producer is no part of a traversal, and neither is a poll.
  | looking looks =>
    rcases looks with same | same <;> simp [same, Call.Travels, Call.applied?] at travels
  | polling => simp [Call.Travels, Call.applied?] at travels
  -- Of what is asked in a response, only a walk is a part of a traversal.
  | amid earlier amid =>
    cases amid with
    | reporting | showing => simp [Call.Travels, Call.applied?] at travels
    | naming names =>
      obtain ⟨call, reply⟩ := exchange
      cases call <;> simp [Call.Travels, Call.applied?, Call.isNaming] at travels names
    | walking occupied naming reached =>
      exact ⟨earlier, _, _, _, _, _, occupied, rfl, naming, reached⟩

/-- Results are shown where the walk is over that they come from. -/
theorem PollCycles.shows {key : Nat} {results : Terminal} {reply : Except Condition Unit}
    (cycles : worker.PollCycles trace rest)
    (listed : trace = before ++ ⟨.onTerminal key results, reply⟩ :: after) :
    key = worker.source.key ∧
      ∃ earlier items named message walk, items ≠ [] ∧
        before = earlier ++ (worker.turn (.batch items) ++ (named ++ walk)) ∧
        worker.Names items named message ∧
        (worker.router.route worker.allowance.depth message).Runs walk (.ok results) := by
  generalize asked : (⟨.onTerminal key results, reply⟩ : Exchange) = exchange at listed
  cases cycles.stands listed with
  | looking looks =>
    subst asked
    simp at looks
  | polling => cases asked
  | amid earlier amid =>
    -- The results are the only thing of a response that is shown to the producer.
    cases amid with
    | reporting => cases asked
    | naming names =>
      subst asked
      cases names
    | walking _ _ reached =>
      subst asked
      simpa [Call.applied?, Call.isShared] using ofWalk_of_reaches reached
    | showing occupied naming routed =>
      cases asked
      exact ⟨rfl, earlier, _, _, _, _, occupied, rfl, naming, routed⟩

/-- However the producer and the router behave, and whenever the run is cancelled, the polling is
orderly: each batch is routed once, and before the next poll, in a message that carries the position
that the producer reports then; the results of every traversal that went well are shown to the
producer at once, and nothing else is; and the polling ends with what stopped it. -/
theorem pollLoop_is_orderly {worker : Worker} {rounds : Nat} {trace : List Exchange}
    {rest : Plan (Except WorkerFailure Unit)}
    (reaches : (worker.pollLoop rounds).Reaches trace rest) : worker.Orderly trace rest := by
  -- Each part is what the cycles of the polling tell.
  have cycles := pollLoop_cycles reaches
  exact {
    polled := fun _ _ _ _ _ listed => cycles.polls listed
    travelled := fun _ _ _ listed travels => cycles.travels listed travels
    shown := fun _ _ _ _ _ listed => cycles.shows listed
    ended := fun _ same => (same ▸ cycles).closes }

/-- A worker whose batches go to two nodes that take part in transactions. -/
def clerk : Worker where
  source := ⟨0, "inbox", "Inbox", false, ⟨0⟩, []⟩
  router := Router.ledgers
  restart := .never
  allowance := ⟨2, 3⟩

/-- Surroundings in which the first poll fails, the second one yields a batch whose transaction
cannot commit, and the third one fails for good. -/
def faltering : Plan.Surroundings
  | _, .isExhausted _ => false
  | past, .poll .. =>
    match past.countP fun | ⟨.poll .., _⟩ => true | _ => false with
    | 0 => .failed (.processing "not yet")
    | 1 => .batch [.null]
    | _ => .failed (.fatalError "gone")
  | past, call => Router.fullTable past call

/-- Whether the results that a producer was shown were those of a transaction that could commit. -/
def committed? : Exchange → Option Bool
  | ⟨.onTerminal _ results, _⟩ => some results.committed
  | _ => none

/-- Whether the polling ended since a poll failed for good. -/
def isPollFailure : Except WorkerFailure Unit → Bool
  | .error (.poll ..) => true
  | _ => false

/-- The one batch is routed and its results shown, although they were rolled back. -/
theorem pollLoop_is_orderly_faltering :
    ∃ trace result, (clerk.pollLoop 3).Runs trace result ∧
      ((yields trace).length = 1 ∧ trace.filterMap committed? = [false] ∧
        isPollFailure result = true) ∧
      clerk.Orderly trace (.done result) := by
  -- The kernel plays the run and checks what it comes to.
  obtain ⟨trace, result, runs, checked⟩ := Plan.exists_run faltering (clerk.pollLoop 3)
    (fun ended => (yields ended.1).length = 1 ∧ ended.1.filterMap committed? = [false] ∧
      isPollFailure ended.2 = true) (by decide +kernel)
  exact ⟨trace, result, runs, of_decide_eq_true checked, pollLoop_is_orderly runs.reaches⟩

end Worker

end BatchFlow
