import BatchFlow.Proofs.Metadata.Knowledge
import BatchFlow.Proofs.Router.Walk
import Mathlib.Data.List.Induction

/-! A node is applied to several messages at the same time. Its collaborator is told of the metadata
of each of them, but knows only what it was told last, whoever it was that told it. -/

namespace BatchFlow

open Plan (Exchange)

/-- What applying a node to a message may ask once the metadata has been shared. -/
def Call.Follows (node : String) (message : Message) (call : Call) : Prop :=
  call.isShared = true ∨ call = .nodeResource node ∨ call.Serves node message

/-- The metadata is shared no more than once. -/
theorem Call.Follows.ne_shareMetadata {node other : String} {message : Message} {call : Call}
    {metadata : Nat} (follows : call.Follows node message) :
    call ≠ .shareMetadata other metadata := by
  rintro rfl
  -- Neither of the three sorts of questions that follow shares metadata.
  rcases follows with shared | resource | serves
  · cases shared
  · cases resource
  · exact serves

/-- Only one collaborator is put such questions. -/
theorem Call.Serves.applied_eq {node id : String} {message : Message} {call : Call}
    (serves : call.Serves node message) (applied : call.applied? = some id) : id = node := by
  -- What serves the message is put to its own node, or to nobody.
  rcases serves.own with own | ⟨event, rfl⟩
  · exact Option.some_inj.mp (applied.symm.trans own)
  · cases applied

namespace Node

variable {node : Node}

/-- Once the metadata have been shared, processing a message asks nothing but what may follow. -/
theorem process_confined (node : Node) (message : Message) (transaction : Transaction) :
    (node.process message transaction).Confined (Call.Follows node.id message) False
      fun _ => True := by
  -- What follows is shared with others, offered by the node or put to it.
  have engages : node.Engages message ⟨Call.Follows node.id message, fun _ => True, False⟩ :=
    { shared := fun _ => .inl, faulty := fun _ => trivial, offers := .inr (.inl rfl),
      serves := fun _ serves => .inr (.inr serves), fatal := fun _ => trivial }
  exact (engages.process transaction trivial).weaken (fun _ follows => follows)
    False.elim fun _ _ => trivial

/-- The collaborator of a node that is aware of metadata is told of them first of all. -/
theorem apply_aware (aware : node.metadataAware = true) (message : Message)
    (transaction : Transaction) :
    node.apply message transaction =
      .ask (.shareMetadata node.id message.metadata) fun _ => node.process message transaction := by
  rw [apply_eq, shareMetadata, if_pos aware]
  rfl

end Node

namespace Stage

/-- An application of a node to a message, as far as it has come. -/
structure Attempt where
  message : Message
  rest : Plan (Transaction × Except RouteFailure Response)
  /-- The metadata, if any, that a question is about that has been put and not answered yet. -/
  pending : Option (Option Nat)

/-- What an attempt does: it puts a question about some metadata or about none, or it is answered
when these have certain contents. -/
inductive Move where
  | asked (number : Nat) (call : Call) (about : Option Nat)
  | answered (number : Nat) (exchange : Exchange) (about : Option Nat) (contents : Option Fields)

namespace Move

/-- The attempt that it is a move of. -/
def number : Move → Nat
  | asked number .. | answered number .. => number

/-- Which attempt has told the collaborator of a node of which metadata. -/
def telling? (node : String) : Move → Option (Nat × Nat)
  | answered number ⟨.shareMetadata id metadata, _⟩ .. =>
    if id = node then some (number, metadata) else none
  | _ => none

/-- The snapshot that goes with a delivery to a node. -/
def snapshot? (node : String) : Move → Option Fields
  | answered _ ⟨.deliver id _, _⟩ _ contents => if id = node then contents else none
  | _ => none

end Move

/-- Who has told the collaborator of a node of which metadata, in order. -/
def tellings (node : String) (journal : List Move) : List (Nat × Nat) :=
  journal.filterMap (·.telling? node)

/-- Later moves tell later. -/
@[simp] theorem tellings_append (node : String) (first rest : List Move) :
    tellings node (first ++ rest) = tellings node first ++ tellings node rest :=
  List.filterMap_append

/-- No moves tell nothing. -/
@[simp] theorem tellings_nil (node : String) : tellings node [] = [] := rfl

/-- A question tells nothing before it is answered. -/
@[simp] theorem tellings_asked (node : String) (number : Nat) (call : Call) (about : Option Nat) :
    tellings node [.asked number call about] = [] := rfl

/-- Who does not share metadata tells nothing. -/
theorem tellings_answered {node : String} {number : Nat} {exchange : Exchange} {about : Option Nat}
    {contents : Option Fields} (quiet : ∀ id metadata, exchange.call ≠ .shareMetadata id metadata) :
    tellings node [.answered number exchange about contents] = [] := by
  obtain ⟨call, reply⟩ := exchange
  cases call with
  | shareMetadata id metadata => exact absurd rfl (quiet id metadata)
  | _ => rfl

namespace MetadataView

variable {node : String} {view : MetadataView}

/-- What the collaborator of a node knows after a move. -/
def note (node : String) (view : MetadataView) : Move → MetadataView
  | .asked .. => view
  | .answered _ exchange _ contents => view.heed node contents exchange.call

/-- Questions that are not put to a collaborator are no news to it. -/
theorem heed_apart {contents : Option Fields} {call : Call} (apart : call.applied? ≠ some node) :
    view.heed node contents call = view := by
  -- Only two questions are heeded, by the node that they are put to.
  cases call with
  | shareMetadata id | deliver id =>
    have other : id ≠ node := fun same => apart (congrArg some same)
    simp [heed, other]
  | _ => rfl

/-- A snapshot does not change what a collaborator is. -/
@[simp] theorem record_actor (contents : Option Fields) :
    (view.record contents).actor = view.actor := by
  unfold record
  split <;> rfl

/-- Nor does it change what the collaborator was told of last. -/
@[simp] theorem record_heard (contents : Option Fields) :
    (view.record contents).heard = view.heard := by
  unfold record
  split <;> rfl

/-- No move changes what a collaborator is. -/
@[simp] theorem note_actor (move : Move) : (view.note node move).actor = view.actor := by
  cases move with
  | asked => rfl
  | answered number exchange about contents =>
    obtain ⟨call, reply⟩ := exchange
    cases call with
    | shareMetadata id | deliver id => by_cases same : id = node <;> simp [note, heed, same]
    | _ => rfl

/-- A move that tells of metadata counts; after any other the collaborator knows what it knew. -/
@[simp] theorem note_heard (move : Move) :
    (view.note node move).heard = ((move.telling? node).map (·.2)).or view.heard := by
  cases move with
  | asked => rfl
  | answered number exchange about contents =>
    obtain ⟨call, reply⟩ := exchange
    -- Only to share metadata tells of some, and a delivery leaves the view of them as it is.
    cases call with
    | shareMetadata id | deliver id =>
      by_cases same : id = node <;> simp [note, heed, Move.telling?, same]
    | _ => rfl

/-- A collaborator that takes snapshots takes one with each delivery about metadata. -/
theorem note_snapshots {reply : Bool} (role : view.actor = .memory reply) (move : Move) :
    (view.note node move).snapshots = view.snapshots ++ (move.snapshot? node).toList := by
  cases move with
  | asked => simp [note, Move.snapshot?]
  | answered number exchange about contents =>
    obtain ⟨call, reply⟩ := exchange
    -- A delivery is recorded with the metadata that were told last.
    cases call with
    | shareMetadata id | deliver id =>
      by_cases same : id = node <;> simp [note, heed, record, Move.snapshot?, same, role]
    | _ => simp [note, heed, Move.snapshot?]

/-- A collaborator stays what it is. -/
@[simp] theorem foldl_note_actor (journal : List Move) :
    (journal.foldl (note node) view).actor = view.actor := by
  -- The induction is from the front here, where it does not matter which move comes last.
  induction journal generalizing view with
  | nil => rfl
  | cons move rest ih => exact ih.trans (note_actor move)

/-- It knows of the metadata that it was told of last. -/
theorem foldl_note_heard (journal : List Move) :
    (journal.foldl (note node) view).heard =
      ((tellings node journal).getLast?.map (·.2)).or view.heard := by
  -- The latest move is the one that counts, so the induction takes it away.
  induction journal using List.reverseRecOn with
  | nil => rfl
  | append_singleton journal move ih =>
    rw [List.foldl_append, List.foldl_cons, List.foldl_nil, note_heard, ih, tellings_append]
    cases told : move.telling? node <;> simp [tellings, told]

/-- The snapshots of a collaborator that takes any are those that go with the deliveries to it. -/
theorem foldl_note_snapshots {reply : Bool} (role : view.actor = .memory reply)
    (journal : List Move) :
    (journal.foldl (note node) view).snapshots =
      view.snapshots ++ journal.filterMap (·.snapshot? node) := by
  -- As above, the latest move is taken away.
  induction journal using List.reverseRecOn with
  | nil => simp
  | append_singleton journal move ih =>
    rw [List.foldl_append, List.foldl_cons, List.foldl_nil, note_snapshots (by simpa using role),
      ih]
    cases taken : move.snapshot? node <;> simp [taken]

end MetadataView

/-- Messages with the transactions that they are routed in, by the numbers of the attempts. -/
def Crowd : Type := Nat → Option (Message × Transaction)

/-- The applications of one node, in a world that others share. -/
structure Scene where
  world : World
  attempts : Nat → Option Attempt
  journal : List Move

namespace Scene

/-- A node is about to be applied to each message of a crowd. -/
def opening (node : Node) (crowd : Crowd) (world : World) : Scene :=
  ⟨world, fun number => (crowd number).map fun (message, transaction) =>
    ⟨message, node.apply message transaction, none⟩, []⟩

/-- An attempt has moved, in what has become of the world. -/
def move (scene : Scene) (world : World) (attempt : Attempt) (made : Move) : Scene :=
  ⟨world, Function.update scene.attempts made.number (some attempt), scene.journal ++ [made]⟩

/-- What can happen next. -/
inductive Step (node : Node) : Scene → Scene → Prop where
  /-- An attempt puts its next question, which is about what the collaborator knows by then. -/
  | ask {scene : Scene} {number : Nat} {message : Message} {call : Call}
      {next : call.Reply → Plan (Transaction × Except RouteFailure Response)}
      (found : scene.attempts number = some ⟨message, .ask call next, none⟩) :
    Step node scene (scene.move scene.world
      ⟨message, .ask call next, some (scene.world.concerns? call)⟩
      (.asked number call (scene.world.concerns? call)))
  /-- The question of an attempt is answered, maybe later. -/
  | answer {scene : Scene} {number : Nat} {message : Message} {call : Call}
      {next : call.Reply → Plan (Transaction × Except RouteFailure Response)}
      {about : Option Nat} {world : World} {reply : call.Reply}
      (found : scene.attempts number = some ⟨message, .ask call next, some about⟩)
      (given : (scene.world.answerAbout about call).Gives world reply) :
    Step node scene (scene.move world ⟨message, next reply, none⟩
      (.answered number ⟨call, reply⟩ about (about.map scene.world.metadataOf)))
  /-- Somebody else is answered something that was not put to the collaborator of the node. -/
  | aside {scene : Scene} {call : Call} {about : Option Nat} {world : World} {reply : call.Reply}
      (apart : call.applied? ≠ some node.id)
      (given : (scene.world.answerAbout about call).Gives world reply) :
    Step node scene { scene with world }
  /-- Time passes, or something comes from outside. -/
  | outside {scene : Scene} {world : World} (kept : world.holdings = scene.world.holdings) :
    Step node scene { scene with world }

/-- What can become of a crowd that a node is applied to. -/
inductive Reachable (node : Node) (crowd : Crowd) (origin : World) : Scene → Prop where
  | start : Reachable node crowd origin (opening node crowd origin)
  | step {scene later : Scene} (reachable : Reachable node crowd origin scene)
      (step : Step node scene later) : Reachable node crowd origin later

variable {node : Node} {crowd : Crowd} {origin : World} {scene later : Scene}

/-- A step is at most one move. -/
theorem Step.grows (step : Step node scene later) :
    later.journal = scene.journal ∨ ∃ made, later.journal = scene.journal ++ [made] := by
  cases step with
  | ask | answer => exact .inr ⟨_, rfl⟩
  | aside | outside => exact .inl rfl

/-- Whatever move was made, there was a moment right before it. -/
theorem Reachable.split (reachable : Reachable node crowd origin scene) {before after : List Move}
    {made : Move} (done : scene.journal = before ++ made :: after) :
    ∃ earlier later, Reachable node crowd origin earlier ∧ earlier.journal = before ∧
      Step node earlier later ∧ later.journal = before ++ [made] := by
  -- The induction is on the run: either the move is the latest one, or it was made before.
  induction reachable generalizing after with
  | start => simp [opening] at done
  | @step scene later reachable step ih =>
    rcases step.grows with same | ⟨last, grown⟩
    · exact ih (same ▸ done)
    · rw [grown] at done
      rcases List.eq_nil_or_concat after with rfl | ⟨rest, final, rfl⟩
      · obtain ⟨same, latest⟩ := List.append_inj' done rfl
        cases latest
        exact ⟨scene, later, reachable, same, step, same ▸ grown⟩
      · have longer : scene.journal ++ [last] = (before ++ made :: rest) ++ [final] := by
          simpa using done
        exact ih (List.append_inj' longer rfl).1

/-- Who puts a question was about to put it, and it is about what the collaborator knows by then. -/
theorem Step.asked {number : Nat} {call : Call} {about : Option Nat} (step : Step node scene later)
    (grown : later.journal = scene.journal ++ [.asked number call about]) :
    about = scene.world.concerns? call ∧
      ∃ message next, scene.attempts number = some ⟨message, .ask call next, none⟩ := by
  -- No other step puts a question.
  cases step with
  | ask idle =>
    cases List.append_cancel_left grown
    exact ⟨rfl, _, _, idle⟩
  | answer => cases List.append_cancel_left grown
  | aside | outside => simp at grown

/-- Who is answered had put the question, and the answer is to what that was about. -/
theorem Step.answered {number : Nat} {exchange : Exchange} {about : Option Nat}
    {contents : Option Fields} (step : Step node scene later)
    (grown : later.journal = scene.journal ++ [.answered number exchange about contents]) :
    ∃ message next, scene.attempts number = some ⟨message, .ask exchange.call next, some about⟩ ∧
      contents = about.map scene.world.metadataOf ∧
      (scene.world.answerAbout about exchange.call).Gives later.world exchange.reply := by
  -- No other step answers one.
  cases step with
  | ask => cases List.append_cancel_left grown
  | answer waiting given =>
    cases List.append_cancel_left grown
    exact ⟨_, _, waiting, rfl, given⟩
  | aside | outside => simp at grown

/-- The collaborator knows what the moves have made of what it knew in the beginning. -/
theorem Reachable.known (reachable : Reachable node crowd origin scene) :
    scene.world.view? node.id =
      (origin.view? node.id).map fun view =>
        scene.journal.foldl (MetadataView.note node.id) view := by
  induction reachable with
  | start => simp [opening]
  | step reachable step ih =>
    cases step with
    | ask => simpa [move, MetadataView.note] using ih
    | answer found given =>
      rw [move, given.world_eq, World.view?_answerAbout, ih]
      simp [Function.comp_def, MetadataView.note]
    -- The question was put to somebody else, and the collaborator pays no heed to it.
    | aside apart given =>
      dsimp only
      rw [given.world_eq, World.view?_answerAbout, ← ih]
      simp [MetadataView.heed_apart apart]
    | outside kept => exact (World.view?_congr (congrArg Prod.fst kept)).trans ih

/-- How far an attempt has come: it has not begun yet, or it has told the collaborator, once and for
all, and follows it up. -/
def Stands (node : Node) (journal : List Move) (number : Nat) (message : Message)
    (transaction : Transaction) (attempt : Attempt) : Prop :=
  attempt.message = message ∧
    ((attempt.rest = node.apply message transaction ∧
        ∀ telling ∈ tellings node.id journal, telling.1 ≠ number) ∨
      (attempt.rest.Confined (Call.Follows node.id message) False (fun _ => True) ∧
        ∃ earlier since, tellings node.id journal = earlier ++ (number, message.metadata) :: since ∧
          ∀ telling ∈ since, telling.1 ≠ number))

/-- What another attempt does makes no difference to how far one has come. -/
theorem Stands.append {journal : List Move} {number : Nat} {message : Message}
    {transaction : Transaction} {attempt : Attempt}
    (stands : Stands node journal number message transaction attempt) {moves : List Move}
    (others : ∀ telling ∈ tellings node.id moves, telling.1 ≠ number) :
    Stands node (journal ++ moves) number message transaction attempt := by
  obtain ⟨own, stands⟩ := stands
  refine ⟨own, ?_⟩
  rw [tellings_append]
  -- The tellings of the others come after its own, if it has told by now.
  rcases stands with ⟨fresh, untold⟩ | ⟨confined, earlier, since, told, apart⟩
  · exact .inl ⟨fresh, List.forall_mem_append.mpr ⟨untold, others⟩⟩
  · exact .inr ⟨confined, earlier, since ++ tellings node.id moves, by simp [told],
      List.forall_mem_append.mpr ⟨apart, others⟩⟩

/-- An attempt that is answered has told the collaborator by then, and follows it up. -/
theorem Stands.answered (aware : node.metadataAware = true) {journal : List Move} {number : Nat}
    {message said : Message} {transaction : Transaction} {call : Call}
    {next : call.Reply → Plan (Transaction × Except RouteFailure Response)}
    {pending : Option (Option Nat)}
    (stands : Stands node journal number message transaction ⟨said, .ask call next, pending⟩)
    (reply : call.Reply) (about : Option Nat) (contents : Option Fields) :
    Stands node (journal ++ [.answered number ⟨call, reply⟩ about contents]) number message
      transaction ⟨said, next reply, none⟩ := by
  obtain ⟨own, stands⟩ := stands
  refine ⟨own, .inr ?_⟩
  rw [tellings_append]
  rcases stands with ⟨fresh, untold⟩ | ⟨confined, earlier, since, told, apart⟩
  · -- The first question is the one that tells.
    rw [node.apply_aware aware] at fresh
    cases fresh
    exact ⟨node.process_confined message transaction, tellings node.id journal, [],
      by simp [tellings, Move.telling?], by simp⟩
  · rw [tellings_answered fun _ _ => confined.1.ne_shareMetadata]
    exact ⟨confined.2 reply () rfl, earlier, since, by simpa using told, apart⟩

/-- Whoever tells of metadata is answered that it has. -/
theorem exists_mem_of_telling {journal : List Move} {telling : Nat × Nat}
    (member : telling ∈ tellings node.id journal) : ∃ reply about contents,
      .answered telling.1 ⟨.shareMetadata node.id telling.2, reply⟩ about contents ∈ journal := by
  obtain ⟨made, listed, told⟩ := List.mem_filterMap.mp member
  -- Only the answer to that question counts as telling.
  unfold Move.telling? at told
  split at told
  · obtain ⟨rfl, same⟩ := Option.ite_none_right_eq_some.mp told
    cases same
    exact ⟨_, _, _, listed⟩
  · cases told

/-- After a move, an attempt is the one that has moved, or another one, which is as it was. -/
theorem attempts_move {world : World} {attempt other : Attempt} {made : Move} {number : Nat}
    (found : (scene.move world attempt made).attempts number = some other) :
    (number = made.number ∧ other = attempt) ∨
      (number ≠ made.number ∧ scene.attempts number = some other) := by
  -- Only one place of the table was written.
  by_cases same : number = made.number
  · simp only [move, same, Function.update_self] at found
    exact .inl ⟨same, (Option.some_inj.mp found).symm⟩
  · simp only [move, Function.update_of_ne same] at found
    exact .inr ⟨same, found⟩

/-- Every attempt has come as far as it should have, on behalf of a message of the crowd. -/
theorem Reachable.stands (aware : node.metadataAware = true)
    (reachable : Reachable node crowd origin scene) {number : Nat} {attempt : Attempt}
    (found : scene.attempts number = some attempt) :
    ∃ message transaction, crowd number = some (message, transaction) ∧
      Stands node scene.journal number message transaction attempt := by
  -- A step moves one attempt, and the others stand as before.
  induction reachable generalizing attempt with
  | start =>
    obtain ⟨⟨message, transaction⟩, listed, rfl⟩ := Option.map_eq_some_iff.mp found
    exact ⟨message, transaction, listed, rfl, .inl ⟨rfl, by simp [opening]⟩⟩
  | step reachable step ih =>
    cases step with
    | ask idle =>
      rcases attempts_move found with ⟨rfl, rfl⟩ | ⟨-, unmoved⟩
      · obtain ⟨message, transaction, listed, stands⟩ := ih idle
        exact ⟨message, transaction, listed, Stands.append stands (by simp)⟩
      · obtain ⟨message, transaction, listed, stands⟩ := ih unmoved
        exact ⟨message, transaction, listed, stands.append (by simp)⟩
    | answer waiting given =>
      rcases attempts_move found with ⟨rfl, rfl⟩ | ⟨apart, unmoved⟩
      · obtain ⟨message, transaction, listed, stands⟩ := ih waiting
        exact ⟨message, transaction, listed, stands.answered aware _ _ _⟩
      · obtain ⟨message, transaction, listed, stands⟩ := ih unmoved
        refine ⟨message, transaction, listed, stands.append fun telling member same => ?_⟩
        -- What is told in a move is told by the one who moves.
        obtain ⟨reply, about, contents, told⟩ := exists_mem_of_telling member
        cases List.mem_singleton.mp told
        exact apart same.symm
    | aside | outside => exact ih found

/-- Whatever the collaborator was told are the metadata of a message of the crowd. -/
theorem Reachable.told (aware : node.metadataAware = true)
    (reachable : Reachable node crowd origin scene) {telling : Nat × Nat}
    (member : telling ∈ tellings node.id scene.journal) :
    ∃ message transaction, crowd telling.1 = some (message, transaction) ∧
      telling.2 = message.metadata := by
  obtain ⟨teller, metadata⟩ := telling
  obtain ⟨reply, about, contents, told⟩ := exists_mem_of_telling member
  obtain ⟨before, after, done⟩ := List.append_of_mem told
  obtain ⟨earlier, later, sooner, rfl, step, grown⟩ := reachable.split done
  obtain ⟨said, next, waiting, -, -⟩ := step.answered grown
  obtain ⟨message, transaction, listed, -, ⟨fresh, -⟩ | ⟨confined, -⟩⟩ :=
    sooner.stands aware waiting
  · rw [node.apply_aware aware] at fresh
    cases fresh
    exact ⟨message, transaction, listed, rfl⟩
  · -- Nobody tells again.
    exact absurd rfl (Call.Follows.ne_shareMetadata confined.1)

/-- A question that is waiting for an answer is the latest move of its attempt. -/
theorem Reachable.waits (reachable : Reachable node crowd origin scene) {number : Nat}
    {attempt : Attempt} {about : Option Nat} (found : scene.attempts number = some attempt)
    (pending : attempt.pending = some about) :
    ∃ call next before between, attempt.rest = .ask call next ∧
      scene.journal = before ++ .asked number call about :: between ∧
        ∀ made ∈ between, made.number ≠ number := by
  -- Only moves of other attempts can have come between, for its own answer would end the waiting.
  induction reachable generalizing attempt about with
  | start =>
    obtain ⟨_, -, rfl⟩ := Option.map_eq_some_iff.mp found
    cases pending
  | step reachable step ih =>
    cases step with
    | ask idle =>
      -- Either this is the attempt that asks now, or it was waiting before.
      rcases attempts_move found with ⟨rfl, rfl⟩ | ⟨apart, unmoved⟩
      · cases pending
        exact ⟨_, _, _, [], rfl, rfl, by simp⟩
      · obtain ⟨call, next, before, between, asks, put, others⟩ := ih unmoved pending
        exact ⟨call, next, before, between ++ [_], asks, by simp [move, put],
          List.forall_mem_append.mpr ⟨others, List.forall_mem_singleton.mpr apart.symm⟩⟩
    | answer waiting given =>
      -- The attempt that is answered waits no longer, and the others go on waiting.
      rcases attempts_move found with ⟨rfl, rfl⟩ | ⟨apart, unmoved⟩
      · cases pending
      · obtain ⟨call, next, before, between, asks, put, others⟩ := ih unmoved pending
        exact ⟨call, next, before, between ++ [_], asks, by simp [move, put],
          List.forall_mem_append.mpr ⟨others, List.forall_mem_singleton.mpr apart.symm⟩⟩
    -- The journal has grown by nothing that an attempt did.
    | aside | outside => exact ih found pending

/-- A question of an attempt is about the metadata that the collaborator was told of last: the
attempt has told it of the metadata of the message that the question is about, and since then only
others have told it of metadata, those of their own messages. -/
def AboutToldLast (node : Node) (crowd : Crowd) (before : List Move) (number : Nat) (call : Call)
    (metadata : Nat) : Prop :=
  ∃ message transaction earlier since, crowd number = some (message, transaction) ∧
    call.Serves node.id message ∧
    tellings node.id before = earlier ++ (number, message.metadata) :: since ∧
    metadata = (since.getLast?.map (·.2)).getD message.metadata ∧
    ∀ telling ∈ since, telling.1 ≠ number ∧ ∃ other transaction,
      crowd telling.1 = some (other, transaction) ∧ telling.2 = other.metadata

/-- Whatever an attempt asks about metadata is about those that its collaborator was told of
last. -/
theorem Reachable.told_last (aware : node.metadataAware = true)
    (reachable : Reachable node crowd origin scene) {number : Nat} {said : Message} {call : Call}
    {next : call.Reply → Plan (Transaction × Except RouteFailure Response)} {metadata : Nat}
    {pending : Option (Option Nat)}
    (found : scene.attempts number = some ⟨said, .ask call next, pending⟩)
    (about : scene.world.concerns? call = some metadata) :
    AboutToldLast node crowd scene.journal number call metadata := by
  obtain ⟨id, view, put, known, minds, heard⟩ := World.concerns?_eq_some_iff.mp about
  obtain ⟨message, transaction, listed, -, ⟨fresh, -⟩ | ⟨confined, earlier, since, told, apart⟩⟩ :=
    reachable.stands aware found
  · -- The first question of an attempt is not about any metadata.
    rw [node.apply_aware aware] at fresh
    cases fresh
    cases about
  · have serves : call.Serves node.id message := by
      rcases confined.1 with shared | rfl | serves
      · cases call <;> first | cases about | cases shared
      · cases about
      · exact serves
    refine ⟨message, transaction, earlier, since, listed, serves, told, ?_, fun telling member =>
      ⟨apart telling member, reachable.told aware (by simp [told, member])⟩⟩
    -- The collaborator is the one of the node, and its own telling is not the last only if others
    -- have told it since.
    obtain rfl := serves.applied_eq put
    rw [reachable.known] at known
    obtain ⟨first, -, rfl⟩ := Option.map_eq_some_iff.mp known
    rw [MetadataView.foldl_note_heard, told] at heard
    cases latest : since.getLast? with
    | none => simpa [List.getLast?_cons, latest] using heard.symm
    | some last => simpa [List.getLast?_cons, latest] using heard.symm

/-- How the attempts of a scene share what there is to know of metadata. -/
structure SeesMetadataToldLast (node : Node) (crowd : Crowd) (origin : World)
    (scene : Scene) : Prop where
  /-- Every question about metadata is about those that the collaborator was told of last. -/
  asked : ∀ before after number call metadata,
    scene.journal = before ++ .asked number call (some metadata) :: after →
      AboutToldLast node crowd before number call metadata
  /-- What is answered is the latest question of the attempt. It is about the metadata that it was
  put about, as they are by then, and no others change. -/
  answered : ∀ before after number exchange about contents,
    scene.journal = before ++ .answered number exchange about contents :: after →
      (∃ first between, before = first ++ .asked number exchange.call about :: between ∧
        ∀ made ∈ between, made.number ≠ number) ∧
      ∃ earlier later, Reachable node crowd origin earlier ∧ earlier.journal = before ∧
        Step node earlier later ∧
        later.journal = before ++ [.answered number exchange about contents] ∧
        contents = about.map earlier.world.metadataOf ∧
        ∀ metadata, about ≠ some metadata →
          later.world.metadataOf metadata = earlier.world.metadataOf metadata
  /-- A collaborator that takes snapshots has one for each delivery about metadata, with what was in
  these. -/
  snapshots : ∀ view reply, origin.view? node.id = some view → view.actor = .memory reply →
    (scene.world.view? node.id).map (·.snapshots) =
      some (view.snapshots ++ scene.journal.filterMap (·.snapshot? node.id))
  /-- Where an attempt is about to ask about metadata, any that has not begun may tell the
  collaborator of those of its own message first, and then these are what the question is about. -/
  overtaken : ∀ number message call next metadata other later transaction,
    scene.attempts number = some ⟨message, .ask call next, none⟩ →
    scene.world.concerns? call = some metadata →
    scene.attempts other = some ⟨later, node.apply later transaction, none⟩ →
      ∃ outcome, Reachable node crowd origin outcome ∧ outcome.journal = scene.journal ++
        [.asked other (.shareMetadata node.id later.metadata) none,
          .answered other ⟨.shareMetadata node.id later.metadata, ()⟩ none none,
          .asked number call (some later.metadata)]

/-- An attempt may tell the collaborator at any time, whatever the others are doing. -/
theorem Reachable.tells (reachable : Reachable node crowd origin scene) {number : Nat}
    {message : Message} {rest : Unit → Plan (Transaction × Except RouteFailure Response)}
    (idle : scene.attempts number =
      some ⟨message, .ask (.shareMetadata node.id message.metadata) rest, none⟩) :
    ∃ told, Reachable node crowd origin told ∧
      told.world = scene.world.shareMetadata node.id message.metadata ∧
      told.journal = scene.journal ++ [.asked number (.shareMetadata node.id message.metadata) none,
        .answered number ⟨.shareMetadata node.id message.metadata, ()⟩ none none] ∧
      ∀ other ≠ number, told.attempts other = scene.attempts other := by
  -- It asks and is answered at once.
  have given : (scene.world.answerAbout none (.shareMetadata node.id message.metadata)).Gives
      (scene.world.shareMetadata node.id message.metadata) () := .reply _ _
  have told := (reachable.step (.ask idle)).step (.answer (Function.update_self ..) given)
  refine ⟨_, told, rfl, List.append_assoc .., fun other apart => ?_⟩
  exact (Function.update_of_ne apart ..).trans (Function.update_of_ne apart ..)

/-- An attempt that has not begun may overtake another one that is about to ask about metadata. -/
theorem Reachable.overtaken (aware : node.metadataAware = true)
    (reachable : Reachable node crowd origin scene) {number other : Nat} {message later : Message}
    {call : Call} {next : call.Reply → Plan (Transaction × Except RouteFailure Response)}
    {metadata : Nat} {transaction : Transaction}
    (asks : scene.attempts number = some ⟨message, .ask call next, none⟩)
    (about : scene.world.concerns? call = some metadata)
    (idle : scene.attempts other = some ⟨later, node.apply later transaction, none⟩) :
    ∃ outcome, Reachable node crowd origin outcome ∧ outcome.journal = scene.journal ++
      [.asked other (.shareMetadata node.id later.metadata) none,
        .answered other ⟨.shareMetadata node.id later.metadata, ()⟩ none none,
        .asked number call (some later.metadata)] := by
  rw [node.apply_aware aware] at idle
  -- The one that asks about metadata has begun, so it is not the one that has not.
  have apart : number ≠ other := by
    rintro rfl
    cases asks.symm.trans idle
    cases about
  have overheard : (scene.world.shareMetadata node.id later.metadata).concerns? call =
      some later.metadata := by
    obtain ⟨id, view, put, known, minds, -⟩ := World.concerns?_eq_some_iff.mp about
    obtain ⟨_, _, _, _, -, serves, -⟩ := reachable.told_last aware asks about
    obtain rfl := serves.applied_eq put
    have known : (scene.world.shareMetadata node.id later.metadata).view? node.id =
        some { view with heard := some later.metadata } := by
      simp [World.view?_shareMetadata, known, MetadataView.heed]
    exact World.concerns?_eq_some_iff.mpr ⟨_, _, put, known, minds, rfl⟩
  obtain ⟨told, reaches, world, journal, unmoved⟩ := reachable.tells idle
  refine ⟨_, reaches.step (.ask ((unmoved number apart).trans asks)), ?_⟩
  -- By then the collaborator knows the metadata of the one that came between.
  simp [move, world, journal, overheard]

/-- Messages from different workers that one node is applied to at the same time: whatever is asked
of its collaborator on behalf of one of them is about the metadata that it was told last, which may
be those of another. -/
theorem Reachable.sees_metadata_told_last (aware : node.metadataAware = true)
    (reachable : Reachable node crowd origin scene) :
    SeesMetadataToldLast node crowd origin scene where
  asked before after number call metadata done := by
    -- The question was asked in a scene that was reached before, and what it is about was known
    -- there.
    obtain ⟨earlier, later, sooner, rfl, step, grown⟩ := reachable.split done
    obtain ⟨about, message, next, asks⟩ := step.asked grown
    exact sooner.told_last aware asks about.symm
  answered before after number exchange about contents done := by
    obtain ⟨earlier, later, sooner, rfl, step, grown⟩ := reachable.split done
    obtain ⟨message, next, waiting, same, given⟩ := step.answered grown
    obtain ⟨call, rest, first, between, asks, put, others⟩ := sooner.waits waiting rfl
    cases asks
    refine ⟨⟨first, between, put, others⟩, earlier, later, sooner, rfl, step, grown, same, ?_⟩
    -- Whatever it is not about stays as it is.
    intro metadata apart
    rw [given.world_eq]
    exact World.metadataOf_answerAbout apart exchange.call
  snapshots view reply known role := by
    rw [reachable.known, known]
    exact congrArg some (MetadataView.foldl_note_snapshots role scene.journal)
  overtaken _ _ _ _ _ _ _ _ asks about idle := reachable.overtaken aware asks about idle

/-- A sink that keeps what is delivered, with a snapshot of the metadata. -/
def register : Node := { Node.plain "out" .sink "memory" with metadataAware := true }

/-- A message from each of two workers. -/
def callers : Crowd
  | 0 => some (⟨"one", [.bool true], none, "one", some 1, none, 0⟩, .opened 1)
  | 1 => some (⟨"two", [.bool false], none, "two", some 2, none, 1⟩, .opened 2)
  | _ => none

/-- The sink, and metadata that name the worker of each message. -/
def counter : World :=
  { World.empty with
    stations := [.fresh "out" (.memory false) none]
    metadata := [[("worker", .string "one")], [("worker", .string "two")]] }

/-- What the first worker delivers is recorded with the metadata of the second one. -/
theorem sees_metadata_told_last_counter : ∃ scene, Reachable register callers counter scene ∧
    SeesMetadataToldLast register callers counter scene ∧
    .answered 0 ⟨.deliver "out" [.bool true], .ok none⟩ (some 1)
      (some [("worker", .string "two")]) ∈ scene.journal ∧
    (scene.world.view? "out").map (·.snapshots) = some [[("worker", .string "two")]] := by
  -- The second worker tells the sink after the first one has told it and before it delivers.
  have opened : Reachable register callers counter (opening register callers counter) := .start
  have begins := opened.step (@Step.ask _ _ 0 _ _ _ rfl)
  have tells := begins.step (@Step.answer _ _ 0 _ _ _ _ _ _ rfl (.reply _ _))
  have follows := tells.step (@Step.ask _ _ 1 _ _ _ rfl)
  have overtakes := follows.step (@Step.answer _ _ 1 _ _ _ _ _ _ rfl (.reply _ _))
  have delivers := overtakes.step (@Step.ask _ _ 0 _ _ _ rfl)
  have delivered := delivers.step (@Step.answer _ _ 0 _ _ _ _ _ _ rfl (.reply _ _))
  have mixing := delivered.sees_metadata_told_last rfl
  refine ⟨_, delivered, mixing, ?_, mixing.snapshots _ false rfl rfl⟩
  exact List.mem_append_right _ (List.mem_singleton_self _)

end Scene

end Stage

end BatchFlow
