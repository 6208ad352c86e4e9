import BatchFlow.Proofs.Item.Fields
import BatchFlow.Proofs.Node.Application
import BatchFlow.Proofs.Node.Performance

/-! A node that enriches items from a table puts what is stored under the key of an item into one of
its fields, and changes nothing else about it. The key stays as it was, so to enrich an item again
makes no difference. -/

namespace BatchFlow

open Plan (Exchange)

/-- Setting the same value once more changes nothing. -/
theorem Fields.insert_insert (fields : Fields) (name : String) (value : Item) :
    (fields.insert name value).insert name value = fields.insert name value := by
  induction fields with
  -- There is no field yet, so the one that is set first is found the second time.
  | nil => simp [insert]
  | cons field rest ih =>
    obtain ⟨key, old⟩ := field
    by_cases same : key = name
    · simp [insert, same]
    · -- The name comes first, or else the field is set further back.
      by_cases before : name < key
      · simp [insert, same, before]
      · simp [insert, same, before, ih]

/-- Whether an item has fields. -/
def Item.isObject : Item → Bool
  | .object _ => true
  | _ => false

namespace LookupTable

/-- What an object holds under a name: the record, or the list of records there. A list of one
record is that record, and one of none is nothing. -/
def storedUnder (content : Fields) (name : String) : Item :=
  match content.get? name with
  | none | some (.array []) => .null
  | some (.array [record]) => record
  | some value => value

/-- What an object holds for a key, of which there may be none. A string is looked up as it is, and
any other key by its JSON text. -/
def stored (content : Fields) : Option Item → Item
  | none => .null
  | some (.string name) => storedUnder content name
  | some key => storedUnder content key.compact

/-- The table of an object has its records under the same names. -/
theorem find?_ofObject (content : Fields) (name : String) :
    (ofObject content).entries.find? (·.1 == name) =
      (content.get? name).map fun value => (name, recordsOf value) := by
  -- By induction on the fields, of which the first with the name counts in either.
  induction content with
  | nil => rfl
  | cons field rest ih =>
    obtain ⟨key, value⟩ := field
    by_cases same : key = name
    · simp [ofObject, Fields.get?, same]
    · simpa [ofObject, Fields.get?, same] using ih

/-- The records that are read for a key are merged into what is stored under its name. -/
theorem merged_read_some (content : Fields) (key : Item) :
    FieldMerge.merged ((ofObject content).read (some key)) = storedUnder content (keyOf key) := by
  simp only [read, storedUnder, find?_ofObject]
  cases content.get? (keyOf key) with
  | none => rfl
  | some value =>
    cases value with
    | array records =>
      -- A list stands for the records in it.
      rcases records with _ | ⟨first, _ | ⟨second, rest⟩⟩ <;> rfl
    | _ => rfl

/-- The records that are read for a key are merged into what is stored for it. -/
theorem merged_read (content : Fields) (key : Option Item) :
    FieldMerge.merged ((ofObject content).read key) = stored content key := by
  cases key with
  | none => rfl
  | some key =>
    rw [merged_read_some]
    -- Only a string has a name of another form than its JSON text.
    cases key <;> rfl

end LookupTable

namespace FieldMerge

variable {merge : FieldMerge} {content fields : Fields} {item : Item} {node : Node}

/-- An object with what is stored under its key in the target field. -/
def fill (merge : FieldMerge) (content fields : Fields) : Fields :=
  fields.insert merge.targetField (LookupTable.stored content (fields.get? merge.keyField))

/-- The key is not disturbed, so filling the field again stores the same once more. -/
theorem fill_fill (apart : merge.keyField ≠ merge.targetField) :
    merge.fill content (merge.fill content fields) = merge.fill content fields := by
  -- What was filled is another field than the one with the key.
  have key : (merge.fill content fields).get? merge.keyField = fields.get? merge.keyField := by
    rw [fill, Fields.get?_insert, if_neg apart.symm]
  rw [fill, key]
  exact Fields.insert_insert ..

/-- What an item that has fields becomes: an object with the same fields but for the target field,
which has what is stored under the key. -/
inductive Fills (merge : FieldMerge) (content : Fields) : Item → Item → Prop where
  | object {fields filled : Fields}
      (others : ∀ name, name ≠ merge.targetField → filled.get? name = fields.get? name)
      (target : filled.get? merge.targetField =
        some (LookupTable.stored content (fields.get? merge.keyField)))
      (ordered : fields.Ordered → filled.Ordered) :
    Fills merge content (.object fields) (.object filled)

/-- To fill the target field of an object is to do so. -/
theorem fills_fill (merge : FieldMerge) (content fields : Fields) :
    merge.Fills content (.object fields) (.object (merge.fill content fields)) :=
  .object (fun name other => by rw [fill, Fields.get?_insert, if_neg other.symm])
    (by rw [fill, Fields.get?_insert, if_pos rfl]) fun ordered => ordered.insert

/-- What becomes of an item when records are read for it from the table of an object. -/
def resultIn (merge : FieldMerge) (content : Fields) (item : Item) : StepResult :=
  merge.resultFor item ((LookupTable.ofObject content).read (merge.parametersFor item))

/-- The condition of an item that has no fields. -/
def formless : Condition := .dataFormat "field_merge only accepts object items"

/-- An object comes out filled. -/
theorem resultIn_object :
    merge.resultIn content (.object fields) = .ok [.object (merge.fill content fields)] := by
  rw [resultIn, resultFor, LookupTable.merged_read]
  rfl

/-- An item that has no fields is refused. -/
theorem resultIn_formless (other : item.isObject = false) :
    merge.resultIn content item = .error (.failed formless) := by
  cases item with
  | object fields => cases other
  | _ => rfl

/-- The objects of a batch, each with its target field filled. -/
def filled (merge : FieldMerge) (content : Fields) (items : List Item) : List Item :=
  items.filterMap fun
    | .object fields => some (.object (merge.fill content fields))
    | _ => none

/-- The batch of the items without fields, if there are any. -/
def refused (node worker : String) (items : List Item) : List ErrorBatch :=
  match items.filter (!·.isObject) with
  | [] => []
  | first :: rest => [.ofItems (first :: rest) formless node worker]

/-- One by one, the objects of a batch come out filled. -/
theorem forall₂_filled (merge : FieldMerge) (content : Fields) (items : List Item) :
    List.Forall₂ (merge.Fills content) (items.filter (·.isObject))
      (merge.filled content items) := by
  -- What is no object is left out on both sides.
  induction items with
  | nil => exact .nil
  | cons item rest ih =>
    cases item with
    | object fields => exact .cons (merge.fills_fill content fields) ih
    | _ => exact ih

/-- Filled objects have nothing left to be filled. -/
theorem filled_filled (apart : merge.keyField ≠ merge.targetField) (items : List Item) :
    merge.filled content (merge.filled content items) = merge.filled content items := by
  induction items with
  | nil => rfl
  | cons item rest ih =>
    -- What is no object is left out, so that it is not filled a second time either.
    cases item with
    | object fields =>
      have again : merge.filled content (merge.filled content (.object fields :: rest)) =
          .object (merge.fill content (merge.fill content fields)) ::
            merge.filled content (merge.filled content rest) := rfl
      rw [again, fill_fill apart, ih]
      rfl
    | _ => exact ih

/-- None of the objects that come out is refused when it is fed again. -/
theorem refused_filled (worker : String) (items : List Item) :
    refused node.id worker (merge.filled content items) = [] := by
  have objects : (merge.filled content items).filter (!·.isObject) = [] := by
    rw [List.filter_eq_nil_iff]
    -- What came out was made of an object, and it is one again.
    intro item member
    obtain ⟨source, -, made⟩ := List.mem_filterMap.mp member
    cases source with
    | object fields =>
      cases made
      exact Bool.false_ne_true
    | _ => cases made
  rw [refused, objects]

/-- One more item without fields joins the batch of the others. -/
theorem joinError_refused {worker : String} {items : List Item} (other : item.isObject = false) :
    Response.joinError (refused node.id worker items)
        (.ofItems [item] formless node.id worker) =
      refused node.id worker (items ++ [item]) := by
  have last : (items ++ [item]).filter (!·.isObject) = items.filter (!·.isObject) ++ [item] := by
    simp [other]
  unfold refused
  rw [last]
  cases items.filter (!·.isObject) with
  -- The item is the first of its batch, or it joins those that are there.
  | nil => rfl
  | cons first rest => simp [Response.joinError, ErrorBatch.ofItems]

/-- The results for a batch are filed as the filled objects and a batch of the other items. -/
theorem fileEach_resultIn (worker : String) (items : List Item) :
    node.fileEach worker (merge.resultIn content) .empty items =
      .ok ⟨merge.filled content items, [], refused node.id worker items⟩ := by
  -- Some items have been filed before, in whose response the others are filed.
  have general : ∀ before, node.fileEach worker (merge.resultIn content)
      ⟨merge.filled content before, [], refused node.id worker before⟩ items =
        .ok ⟨merge.filled content (before ++ items), [],
          refused node.id worker (before ++ items)⟩ := by
    -- By induction on the items that are left.
    induction items with
    | nil => simp [Node.fileEach]
    | cons item rest ih =>
      intro before
      have goesOn := ih (before ++ [item])
      rw [List.append_assoc, List.singleton_append] at goesOn
      refine Node.fileEach_cons_ok.mpr ⟨_, ?_, goesOn⟩
      cases form : item.isObject with
      | true =>
        -- An object is filled and put out.
        obtain ⟨fields, rfl⟩ : ∃ fields, item = .object fields := by
          cases item with
          | object fields => exact ⟨fields, rfl⟩
          | _ => cases form
        rw [resultIn_object, Node.file]
        simp [Response.addOutput, filled, refused, form]
      | false =>
        -- Anything else is not filled, and joins the batch of those that are refused.
        have unfilled : merge.filled content (before ++ [item]) = merge.filled content before := by
          cases item with
          | object fields => cases form
          | _ => simp [filled]
        rw [resultIn_formless form, unfilled, ← joinError_refused form]
        rfl
  exact general []

end FieldMerge

namespace Stage.World

variable {cast world : World} {node : Node} {merge : FieldMerge} {content : Fields}

/-- In a world with this cast, a node enriches items by what a table of some content has for them,
and its own resource, if it has one, does not refuse to begin. -/
structure Enriches (cast : World) (node : Node) (merge : FieldMerge) (content : Fields) :
    Prop where
  role : ∃ reader timeout, node.role = .enrich reader timeout
  actor : cast.actor? node.id =
    some (.enrich (.fieldMerge merge) (.table (LookupTable.ofObject content)))
  willing : node.transactional = true → ∀ resource, cast.offer? node.id = some resource →
    ∀ script, cast.resources[resource.key]? = some script → script.failsBegin = false

namespace Enriches

variable (enriches : cast.Enriches node merge content)
include enriches

/-- The node reads its records from a table. -/
theorem readsTable : cast.ReadsTable node.id := by
  intro enricher script
  rw [enriches.actor]
  nofun

/-- The same collaborators enrich in the same way. -/
theorem sameCast (same : cast.SameCast world) : world.Enriches node merge content where
  role := enriches.role
  actor := (same.actors node.id).trans enriches.actor
  -- Its resource is the one that was offered before, and is among the same ones.
  willing := by
    rw [same.resources, same.offers]
    exact enriches.willing

/-- There is a station where the collaborator of the node is at work. -/
theorem station : ∃ station, cast.station? node.id = some station ∧
    station.actor = .enrich (.fieldMerge merge) (.table (LookupTable.ofObject content)) :=
  Option.map_eq_some_iff.mp enriches.actor

/-- The resource that the node is offered can begin. -/
theorem canEnlist : node.CanEnlist (Honest cast) := by
  rintro transactional resource ⟨world, after, same, offered⟩ reply ⟨other, later, still, answered⟩
  -- What was offered is offered in every world with this cast.
  have offer : cast.offer? node.id = some resource := by
    have own : world.offer? node.id = some resource := by injection offered
    exact (same.offers node.id).symm.trans own
  have willing := enriches.willing transactional resource offer
  have begun : (other.beginWork resource).2 = .ok () := by
    unfold beginWork
    split
    · rename_i script found
      split
      · rfl
      · simp [refusal, willing script (still.resources ▸ found)]
    · rfl
  cases answered
  exact begun

/-- The key of an item is taken from its key field. -/
theorem parameters {item : Item} {reply : Option Item}
    (honest : Honest cast ⟨.parametersFor node.id item, reply⟩) :
    reply = merge.parametersFor item := by
  -- The question was answered in a world of the same cast, where the node has the same merge.
  obtain ⟨world, after, same, answered⟩ := honest
  obtain ⟨⟨_, actor⟩, found, acts⟩ := (enriches.sameCast same).station
  cases answered
  cases acts
  simp only [found]
  rfl

/-- The records of a key are read from the table. -/
theorem records {key : Option Item} {timeout : Duration} {reply : ReadOutcome}
    (honest : Honest cast ⟨.readRecords node.id key timeout, reply⟩) :
    reply = .records ((LookupTable.ofObject content).read key) := by
  -- The question was answered in a world of the same cast, where the node has the same table.
  obtain ⟨world, after, same, answered⟩ := honest
  obtain ⟨⟨_, actor⟩, found, acts⟩ := (enriches.sameCast same).station
  cases acts
  replace answered : world.readRecords node.id key timeout = .reply after reply := answered
  rw [readRecords, found] at answered
  cases answered
  rfl

/-- The records are merged into the item. -/
theorem merged {item : Item} {records : List Item} {reply : StepResult}
    (honest : Honest cast ⟨.enrichItem node.id item records, reply⟩) :
    reply = merge.resultFor item records := by
  -- In such a world the node also merges as before.
  obtain ⟨world, after, same, answered⟩ := honest
  obtain ⟨⟨_, actor⟩, found, acts⟩ := (enriches.sameCast same).station
  cases answered
  cases acts
  simp only [found]
  rfl

/-- What becomes of an item is settled: its records are read by its key, and merged into it. -/
theorem enrich_yields {reader : String} {timeout : Duration} (item : Item)
    (transaction : Transaction) :
    (node.enrich reader timeout item).Yields (Honest cast) transaction fun result after =>
      result = merge.resultIn content item ∧ after = transaction := by
  refine Work.yields_call_bind fun key given => ?_
  obtain rfl := enriches.parameters given
  -- A missing key is reported, and nothing else comes of it.
  have reports : (node.reportMissing (merge.parametersFor item)).Yields (Honest cast) transaction
      fun _ after => after = transaction := by
    unfold Node.reportMissing
    split
    · -- The report is the only question, and it leaves the transaction alone.
      exact fun _ _ => ⟨(), rfl, rfl⟩
    · exact Work.yields_pure rfl
  refine reports.bind ?_
  rintro _ _ rfl
  refine Work.yields_call_bind fun read given => ?_
  obtain rfl := enriches.records given
  refine Work.yields_log_bind ?_
  exact fun result given => ⟨result, rfl, enriches.merged given, rfl⟩

/-- So it is settled what becomes of each item. -/
theorem settles : node.Settles (Honest cast) (merge.resultIn content) where
  works := by
    obtain ⟨reader, timeout, role⟩ := enriches.role
    refine ⟨node.enrich reader timeout, ?_, enriches.enrich_yields⟩
    rw [Node.itemWork?, role]
  begins := enriches.canEnlist

end Enriches

/-- However it is fed and whatever has happened before, a node that is applied to a message in this
world, in a transaction that is under way, makes this response, and leaves the collaborators who
they are and the transaction under way. -/
def Responds (world : World) (node : Node) (message : Message) (response : Response) : Prop :=
  ∀ (trail : List String) (traversal : Traversal), traversal.transaction.phase = .active →
    ∃ after left, world.perform (Router.apply trail node message traversal) =
        (after, .finished (left, .ok response)) ∧
      world.SameCast after ∧ left.transaction.phase = .active

/-- The node responds with the filled objects and the batch of the other items. -/
theorem Enriches.responds (enriches : world.Enriches node merge content) (message : Message) :
    world.Responds node message ⟨merge.filled content message.data, [],
      FieldMerge.refused node.id message.worker message.data⟩ := by
  intro trail traversal active
  -- A node that is applied to a message asks nothing of other nodes.
  have applies : Router.Applies (.walking (· = node.id) False False) (fun _ => True) trail node :=
    ⟨node.admitted_walking rfl, fun _ _ _ _ _ _ => trivial⟩
  have yields := enriches.settles.applied trail active
    (FieldMerge.fileEach_resultIn message.worker message.data)
  obtain ⟨after, ⟨left, outcome⟩, performed, same, response, rfl, rfl, advances⟩ :=
    perform_of_yields enriches.readsTable (.refl world) (applies.apply message traversal trivial)
      yields
  exact ⟨after, left, performed, same, advances.transaction.active⟩

/-- To enrich a message from a table changes one field of each object, which is to have another name
than the key. The objects come out in order, and all their other fields are as they were; the target
field has what the table holds for the key. Any other item is in one batch of items of the wrong
form, and nowhere else. Enriching what came out once more, in whatever message and whatever has
happened since, leaves it as it is. -/
theorem enriches_once (enriches : world.Enriches node merge content)
    (apart : merge.keyField ≠ merge.targetField) (message : Message) :
    ∃ output, List.Forall₂ (merge.Fills content) (message.data.filter (·.isObject)) output ∧
      world.Responds node message
        ⟨output, [], FieldMerge.refused node.id message.worker message.data⟩ ∧
      ∀ (later : World) (again : Message), later.Enriches node merge content →
        again.data = output → later.Responds node again ⟨output, [], []⟩ := by
  -- What came out is filled already, and none of it is refused.
  refine ⟨merge.filled content message.data, merge.forall₂_filled content message.data,
    enriches.responds message, fun later again still same => ?_⟩
  have responds := still.responds again
  rwa [same, FieldMerge.filled_filled apart, FieldMerge.refused_filled] at responds

/-- A place that is known by two names, and one that is known by one. -/
def gazetteer : Fields :=
  [("7", .array [.string "Rome", .string "Lisbon"]), ("nl", .string "Netherlands")]

/-- A node that is fed one item at a time. -/
def guide : Node :=
  { Node.plain "guide" (.enrich LookupTable.name ⟨0⟩) FieldMerge.name with acceptsBatches := false }

/-- A world in which it looks places up, and somebody else has a resource that refuses to begin. -/
def library : World :=
  { World.empty with
    stations := [.fresh "guide" (.enrich (.fieldMerge ⟨"code", "place"⟩)
      (.table (LookupTable.ofObject gazetteer))) none]
    resources := [⟨"ledger", true, false, false, false⟩] }

/-- A number as a key, no object, a string as a key, and an object without a key. -/
def postcards : Message :=
  ⟨"inbox", [.object [("code", .nat 7)], .string "nl", .object [("code", .string "nl")],
    .object [("place", .bool true)]], none, "", some 1, none, 0⟩

/-- The number finds both names, the string finds one, and what was in the place of a missing key is
gone. -/
theorem enriches_once_library :
    library.Enriches guide ⟨"code", "place"⟩ gazetteer ∧
      LookupTable.stored gazetteer (some (.nat 7)) =
        .array [.string "Rome", .string "Lisbon"] ∧
      LookupTable.stored gazetteer (some (.string "nl")) = .string "Netherlands" ∧
      ∃ output, List.Forall₂ (FieldMerge.Fills ⟨"code", "place"⟩ gazetteer)
          [.object [("code", .nat 7)], .object [("code", .string "nl")],
            .object [("place", .bool true)]] output ∧
        library.Responds guide postcards
          ⟨output, [], [.ofItems [.string "nl"] FieldMerge.formless "guide" ""]⟩ := by
  have enriches : library.Enriches guide ⟨"code", "place"⟩ gazetteer :=
    ⟨⟨_, _, rfl⟩, rfl, fun _ _ none => nomatch none⟩
  obtain ⟨output, filled, responds, _⟩ := enriches_once enriches (by decide) postcards
  exact ⟨enriches, by rfl, by rfl, output, filled, responds⟩

end Stage.World

end BatchFlow
