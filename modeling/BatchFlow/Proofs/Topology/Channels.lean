import BatchFlow.Proofs.Topology.Validation

/-! The routes of an origin are a channel for its output, one for its discards and one for its
errors. Each declaration adds to the channels that it is about, behind what was there before. -/

namespace BatchFlow

namespace Declaration

/-- The output routes that a declaration lays down, each with its origin. -/
def outputs : Declaration → List (String × String)
  | .output origin destinations => destinations.map (origin, ·)
  | .pipeline ids => links ids
  | _ => []

/-- The discard routes that a declaration lays down, each with its origin. -/
def discards : Declaration → List (String × String)
  | .discard origin destinations => destinations.map (origin, ·)
  | _ => []

section Leaving

variable {α : Type} {origin start : String}

/-- What leaves an origin, of things that each leave one. -/
def leaving (origin : String) (things : List (String × α)) : List α :=
  things.filterMap fun thing => if thing.1 = origin then some thing.2 else none

/-- What leaves an origin of two lists leaves it of the first, and then of the second. -/
theorem leaving_append (origin : String) (first second : List (String × α)) :
    leaving origin (first ++ second) = leaving origin first ++ leaving origin second :=
  List.filterMap_append

/-- What leaves one origin leaves no other. -/
theorem leaving_map (origin start : String) (things : List α) :
    leaving origin (things.map (start, ·)) = if start = origin then things else [] := by
  unfold leaving
  rw [List.filterMap_map]
  by_cases same : start = origin <;> simp [same]

end Leaving

/-- The ids that follow each occurrence of an id, in order. -/
def followers (id : String) (ids : List String) : List String :=
  ((List.range ids.length).filter (ids[·]? = some id)).filterMap (ids[· + 1]?)

/-- The id at the front is followed by the next, and every other one as it was before. -/
theorem followers_cons {id first : String} {rest : List String} :
    followers id (first :: rest) =
      (if first = id then rest.head?.toList else []) ++ followers id rest := by
  -- Behind the front, every place is one further than in the rest.
  have shifted : (((List.range rest.length).map Nat.succ).filter
      ((first :: rest)[·]? = some id)).filterMap ((first :: rest)[· + 1]?) = followers id rest := by
    rw [List.filter_map, List.filterMap_map]
    rfl
  have front : (first :: rest)[0 + 1]? = rest.head? := by cases rest <;> rfl
  rw [followers, List.length_cons, List.range_succ_eq_map, List.filter_cons]
  by_cases same : first = id
  · rw [if_pos (by simp [same]), List.filterMap_cons, shifted, front, if_pos same]
    cases rest.head? <;> rfl
  · rw [if_neg (by simp [same]), shifted, if_neg same, List.nil_append]

/-- The links of a pipeline that leave an id lead to what follows it. -/
theorem leaving_links_eq (id : String) (ids : List String) :
    leaving id (links ids) = followers id ids := by
  induction ids with
  | nil => rfl
  | cons first rest ih =>
    rw [followers_cons, ← ih]
    cases rest with
    -- The last id of a pipeline is followed by nothing.
    | nil => by_cases same : first = id <;> simp [links, leaving, same]
    | cons second rest =>
      have goesOn : links (first :: second :: rest) =
          [second].map (first, ·) ++ links (second :: rest) := rfl
      rw [goesOn, leaving_append, leaving_map]
      rfl

end Declaration

open Declaration (leaving leaving_append leaving_map)

namespace Draft

variable {α : Type} {channel : Routes → List α} {origin start : String}

/-- What a channel of an origin holds by a list of routes. -/
def held (channel : Routes → List α) (routes : List (String × Routes)) (origin : String) : List α :=
  match routes.find? (·.1 == origin) with
  | some entry => channel entry.2
  | none => []

/-- A change that adds to a channel of one origin adds to that of no other. -/
theorem held_updateRoutes {change : Routes → Routes} {extra : List α} (empty : channel .none = [])
    (adds : ∀ routes, channel (change routes) = channel routes ++ extra)
    (routes : List (String × Routes)) :
    held channel (updateRoutes change start routes) origin =
      held channel routes origin ++ if start = origin then extra else [] := by
  induction routes with
  | nil =>
    -- An origin that was not mentioned before begins with empty channels.
    by_cases same : start = origin <;> simp [updateRoutes, held, same, adds, empty]
  | cons entry rest ih =>
    obtain ⟨id, own⟩ := entry
    rw [updateRoutes]
    -- Either the routes that change are here, or they are further behind.
    split
    · rename_i here
      subst here
      by_cases same : id = origin <;> simp [held, same, adds]
    · rename_i elsewhere
      by_cases same : id = origin
      · subst same
        simp [held, Ne.symm elsewhere]
      · simpa [held, same] using ih

/-- A declaration that is no pipeline adds to a channel what is read off it. -/
def Adds (channel : Routes → List α) (content : Declaration → List (String × α))
    (declaration : Declaration) : Prop :=
  ∀ draft origin, held channel (declare draft declaration).routes origin =
    held channel draft.routes origin ++ leaving origin (content declaration)

/-- Declarations add to a channel one after the other. -/
theorem held_foldl_adds {content : Declaration → List (String × α)}
    {declarations : List Declaration}
    (adds : ∀ declaration ∈ declarations, Adds channel content declaration) (draft : Draft) :
    held channel (declarations.foldl declare draft).routes origin =
      held channel draft.routes origin ++ leaving origin (declarations.flatMap content) := by
  -- By induction on the declarations, whatever the draft has from before.
  induction declarations generalizing draft with
  | nil => exact (List.append_nil _).symm
  | cons first rest ih =>
    obtain ⟨here, later⟩ := List.forall_mem_cons.mp adds
    rw [List.foldl_cons, ih later, here, List.flatMap_cons, leaving_append, List.append_assoc]

/-- What a channel holds at the end is what the declarations add to it, a pipeline being the output
routes that it stands for. -/
theorem held_foldl_declare {content : Declaration → List (String × α)}
    (adds : ∀ declaration, (∀ ids, declaration ≠ .pipeline ids) → Adds channel content declaration)
    (expands : ∀ declaration : Declaration,
      declaration.expand.flatMap content = content declaration)
    (draft : Draft) (declarations : List Declaration) :
    held channel (declarations.foldl declare draft).routes origin =
      held channel draft.routes origin ++ leaving origin (declarations.flatMap content) := by
  -- What a pipeline stands for is written without pipelines.
  have plain : ∀ declaration : Declaration, ∀ single ∈ declaration.expand, ∀ ids,
      single ≠ .pipeline ids := by
    intro declaration
    cases declaration with
    | pipeline ids =>
      intro single member
      obtain ⟨link, -, rfl⟩ := List.mem_map.mp member
      exact fun _ => nofun
    | _ =>
      intro single member
      cases List.mem_singleton.mp member
      exact fun _ => nofun
  refine held_foldl_adds (fun declaration _ draft origin => ?_) draft
  -- Taking up a declaration is taking up what it stands for.
  rw [declare_eq_foldl_expand,
    held_foldl_adds (fun single member => adds single (plain declaration single member)), expands]

/-- A change to one origin adds what a declaration says of that origin. -/
theorem adds_of_update {content : Declaration → List (String × α)} {declaration : Declaration}
    {change : Routes → Routes} {extra : List α} (empty : channel .none = [])
    (declares : ∀ draft, (declare draft declaration).routes =
      updateRoutes change start draft.routes)
    (adds : ∀ routes, channel (change routes) = channel routes ++ extra)
    (stated : content declaration = extra.map (start, ·)) : Adds channel content declaration := by
  intro draft origin
  rw [declares, held_updateRoutes empty adds, stated, leaving_map]

/-- A declaration of which nothing is read off leaves the channel alone, whichever origin it is
about. -/
theorem adds_of_silent {content : Declaration → List (String × α)} {declaration : Declaration}
    (unchanged : ∀ draft origin, held channel (declare draft declaration).routes origin =
      held channel draft.routes origin)
    (silent : content declaration = []) : Adds channel content declaration := by
  intro draft origin
  rw [unchanged, silent]
  exact (List.append_nil _).symm

/-- A change that leaves a channel as it is does so for every origin. -/
theorem held_updateRoutes_same {change : Routes → Routes} (empty : channel .none = [])
    (same : ∀ routes, channel (change routes) = channel routes) (routes : List (String × Routes)) :
    held channel (updateRoutes change start routes) origin = held channel routes origin := by
  -- To leave a channel alone is to add nothing to it.
  have nothing : ∀ routes, channel (change routes) = channel routes ++ [] := by simpa using same
  rw [held_updateRoutes empty nothing]
  simp

end Draft

namespace Topology

open Draft (held)

variable {kinds : Kinds} {declarations : List Declaration} {topology : Topology}

/-- A topology that was built is what was drafted. -/
theorem eq_of_built (built : ofDeclarations kinds declarations = .ok topology) :
    let draft := Draft.ofDeclarations declarations
    topology = ⟨draft.routes, draft.defaultErrors, draft.producers, draft.nodes, kinds⟩ := by
  unfold ofDeclarations Draft.build at built
  dsimp only at built
  split at built
  · cases built
    rfl
  · cases built

/-- The output of an origin is what the channel of outputs holds. -/
theorem outputOf_eq_held (topology : Topology) (origin : String) :
    topology.outputOf origin = held (·.output) topology.routes origin := by
  unfold outputOf routes? held
  cases List.find? _ _ <;> rfl

/-- The discards of an origin are what the channel of discards holds. -/
theorem discardOf_eq_held (topology : Topology) (origin : String) :
    topology.discardOf origin = held (·.discard) topology.routes origin := by
  unfold discardOf routes? held
  cases List.find? _ _ <;> rfl

/-- The error rules of an origin are what the channel of errors holds. -/
theorem errorRulesOf_eq_held (topology : Topology) (origin : String) :
    topology.errorRulesOf origin = held (·.errors) topology.routes origin := by
  unfold errorRulesOf routes? held
  cases List.find? _ _ <;> rfl

/-- The output of an origin goes where the declarations say, in the order in which they say it. -/
theorem outputOf_ofDeclarations (built : ofDeclarations kinds declarations = .ok topology)
    (origin : String) :
    topology.outputOf origin = leaving origin (declarations.flatMap (·.outputs)) := by
  rw [outputOf_eq_held, eq_of_built built]
  refine Draft.held_foldl_declare ?_ ?_ .empty declarations
  · intro declaration plain
    cases declaration with
    | output start destinations =>
      exact Draft.adds_of_update rfl (fun _ => rfl) (fun _ => rfl) rfl
    | pipeline ids => exact absurd rfl (plain ids)
    | discard | error =>
      -- Other channels of the origin may change, but not its output.
      refine Draft.adds_of_silent (fun draft origin => ?_) rfl
      apply Draft.held_updateRoutes_same rfl
      exact fun _ => rfl
    | producer | node | defaultErrors => exact Draft.adds_of_silent (fun _ _ => rfl) rfl
  · intro declaration
    cases declaration with
    -- The output routes that a pipeline stands for are its links.
    | pipeline ids => simp [Declaration.expand, Declaration.outputs, List.flatMap_map]
    | _ => exact List.flatMap_singleton ..

/-- The discards of an origin go where the declarations say, in the order in which they say it. -/
theorem discardOf_ofDeclarations (built : ofDeclarations kinds declarations = .ok topology)
    (origin : String) :
    topology.discardOf origin = leaving origin (declarations.flatMap (·.discards)) := by
  rw [discardOf_eq_held, eq_of_built built]
  refine Draft.held_foldl_declare ?_ ?_ .empty declarations
  · intro declaration plain
    cases declaration with
    | discard start destinations =>
      exact Draft.adds_of_update rfl (fun _ => rfl) (fun _ => rfl) rfl
    | pipeline ids => exact absurd rfl (plain ids)
    | output | error =>
      -- Other channels of the origin may change, but not its discards.
      refine Draft.adds_of_silent (fun draft origin => ?_) rfl
      apply Draft.held_updateRoutes_same rfl
      exact fun _ => rfl
    | producer | node | defaultErrors => exact Draft.adds_of_silent (fun _ _ => rfl) rfl
  · intro declaration
    cases declaration with
    | pipeline ids => simp [Declaration.expand, Declaration.discards, List.flatMap_map]
    | _ => exact List.flatMap_singleton ..

/-- The error rules of an origin are those that the declarations lay down, in the same order. -/
theorem errorRulesOf_ofDeclarations (built : ofDeclarations kinds declarations = .ok topology)
    (origin : String) :
    topology.errorRulesOf origin = leaving origin (declarations.flatMap (·.rules)) := by
  rw [errorRulesOf_eq_held, eq_of_built built]
  refine Draft.held_foldl_declare ?_ ?_ .empty declarations
  · intro declaration plain
    cases declaration with
    | error start rule =>
      exact Draft.adds_of_update rfl (fun _ => rfl) (fun _ => rfl)
        (List.map_singleton).symm
    | pipeline ids => exact absurd rfl (plain ids)
    | output | discard =>
      -- Other channels of the origin may change, but not its errors.
      refine Draft.adds_of_silent (fun draft origin => ?_) rfl
      apply Draft.held_updateRoutes_same rfl
      exact fun _ => rfl
    | producer | node | defaultErrors => exact Draft.adds_of_silent (fun _ _ => rfl) rfl
  · intro declaration
    cases declaration with
    | pipeline ids => simp [Declaration.expand, Declaration.rules, List.flatMap_map]
    | _ => exact List.flatMap_singleton ..

end Topology

end BatchFlow
