import BatchFlow.Configuration
import BatchFlow.Proofs.Topology.Channels

/-! Every origin of a table of routes has its routes once, and setting those of one leaves the
others as they are. -/

namespace BatchFlow

open Declaration (leaving leaving_append leaving_map)

/-- No routes. -/
def RouteEntry.none : RouteEntry := ⟨[], [], []⟩

namespace RouteTable

variable {α : Type} {table : RouteTable} {origin other : String} {entry : RouteEntry}

/-- The routes of an origin; one that is not mentioned has none. -/
def get (table : RouteTable) (origin : String) : RouteEntry :=
  match table.entries.find? (·.1 == origin) with
  | some entry => entry.2
  | none => .none

/-- The origins that are mentioned. -/
def origins (table : RouteTable) : List String :=
  table.entries.map (·.1)

/-- Two entries of one origin would have to be below each other. -/
theorem nodup_origins (table : RouteTable) : table.origins.Nodup := by
  refine List.pairwise_map.mpr (table.ordered.imp ?_)
  intro first second below
  exact String.ne_of_lt below

/-- What is listed for an origin are its routes. -/
theorem get_of_mem (member : (origin, entry) ∈ table.entries) : table.get origin = entry := by
  unfold get
  cases found : table.entries.find? (·.1 == origin) with
  | none => simpa using List.find?_eq_none.mp found _ member
  | some first =>
    -- The first entry of the origin is the listed one, since an origin has one entry.
    have listed := List.mem_of_find?_eq_some found
    have named : first.1 = origin := by simpa using List.find?_some found
    exact congrArg Prod.snd (List.inj_on_of_nodup_map table.nodup_origins listed member named)

/-- An origin that is not mentioned has no routes. -/
theorem get_of_not_mem (absent : origin ∉ table.origins) : table.get origin = .none := by
  unfold get
  -- An entry that was found would be an entry of that origin.
  rw [List.find?_eq_none.mpr]
  intro entry member named
  exact absent (List.mem_map.mpr ⟨entry, member, by simpa using named⟩)

/-- New routes take the place of those that the origin had, and all others stay. -/
theorem mem_put {old : String × RouteEntry} : old ∈ (table.put origin entry).entries ↔
    old = (origin, entry) ∨ old.1 ≠ origin ∧ old ∈ table.entries := by
  simp only [put, List.mem_append, List.mem_cons, List.mem_filter, decide_eq_true_eq]
  constructor
  · rintro (⟨member, below⟩ | rfl | ⟨member, above⟩)
    · exact .inr ⟨String.ne_of_lt below, member⟩
    · exact .inl rfl
    · exact .inr ⟨(String.ne_of_lt above).symm, member⟩
  · rintro (rfl | ⟨apart, member⟩)
    · exact .inr (.inl rfl)
    · -- The new entry stands between the origins that are smaller and those that are greater.
      by_cases below : old.1 < origin
      · exact .inl ⟨member, below⟩
      · refine .inr (.inr ⟨member, String.not_le.mp fun atMost => apart ?_⟩)
        exact String.le_antisymm atMost (String.not_lt.mp below)

/-- The origins that are mentioned are those from before and the new one. -/
theorem mem_origins_put :
    other ∈ (table.put origin entry).origins ↔ other = origin ∨ other ∈ table.origins := by
  simp only [origins, List.mem_map, mem_put]
  constructor
  · rintro ⟨old, rfl | ⟨_, member⟩, rfl⟩
    · exact .inl rfl
    · exact .inr ⟨old, member, rfl⟩
  · rintro (rfl | ⟨old, member, rfl⟩)
    · exact ⟨_, .inl rfl, rfl⟩
    · -- The origin may have been mentioned before, and then it still is.
      by_cases same : old.1 = origin
      · exact ⟨_, .inl rfl, same.symm⟩
      · exact ⟨old, .inr ⟨same, member⟩, rfl⟩

/-- The origin has its new routes, and the others have those from before. -/
@[simp] theorem get_put :
    (table.put origin entry).get other = if origin = other then entry else table.get other := by
  split
  · rename_i same
    exact get_of_mem (same ▸ mem_put.mpr (.inl rfl))
  · rename_i apart
    -- The entry of another origin is still listed.
    by_cases mentioned : other ∈ table.origins
    · obtain ⟨⟨id, old⟩, member, rfl⟩ := List.mem_map.mp mentioned
      rw [get_of_mem member]
      exact get_of_mem (mem_put.mpr (.inr ⟨Ne.symm apart, member⟩))
    · -- What was not mentioned before, and is not now, has no routes.
      rw [get_of_not_mem mentioned]
      refine get_of_not_mem fun listed => ?_
      exact (mem_origins_put.mp listed).elim (apart ·.symm) mentioned

/-- What is read off the routes of all origins leaves each origin as it is read off its own. -/
theorem leaving_flatMap (content : RouteEntry → List α) (empty : content .none = [])
    (table : RouteTable) (origin : String) :
    leaving origin (table.entries.flatMap fun entry => (content entry.2).map (entry.1, ·)) =
      content (table.get origin) := by
  have distinct : (table.entries.map (·.1)).Nodup := table.nodup_origins
  unfold get
  generalize table.entries = entries at distinct ⊢
  induction entries with
  | nil => exact empty.symm
  | cons first rest ih =>
    obtain ⟨id, own⟩ := first
    obtain ⟨apart, distinct⟩ := List.nodup_cons.mp distinct
    rw [List.flatMap_cons, leaving_append, leaving_map, ih distinct]
    by_cases same : id = origin
    · -- No other entry is about the same origin.
      have absent : rest.find? (·.1 == origin) = Option.none :=
        List.find?_eq_none.mpr fun entry member named =>
          apart (List.mem_map.mpr ⟨entry, member, by simpa [same] using named⟩)
      simp [same, absent, empty]
    · simp [same]

/-- Puts a destination in front of the output of an origin. -/
def prepend (table : RouteTable) (link : String × String) : RouteTable :=
  let entry := table.get link.1
  table.put link.1 { entry with output := link.2 :: entry.output }

variable {links : List (String × String)}

/-- Puts destinations in front of the output of their origins, in the same order. -/
def prependAll (table : RouteTable) (links : List (String × String)) : RouteTable :=
  links.foldr (fun link table => table.prepend link) table

/-- An origin has the destinations of its links in front of its output, and its other routes as
before. -/
theorem get_prependAll : (table.prependAll links).get origin =
    { table.get origin with output := leaving origin links ++ (table.get origin).output } := by
  induction links with
  | nil => rfl
  | cons link rest ih =>
    obtain ⟨start, destination⟩ := link
    -- The first link is put in front last, and so it stands before the others.
    rw [prependAll, List.foldr_cons, ← prependAll, prepend, get_put, ih]
    by_cases same : start = origin
    · subst same
      simp [ih, leaving]
    · simp [same, leaving]

/-- The origins that are mentioned are those from before and those of the links. -/
theorem mem_origins_prependAll :
    origin ∈ (table.prependAll links).origins ↔
      origin ∈ links.map (·.1) ∨ origin ∈ table.origins := by
  -- Link by link, from the last one on, as they are put in front.
  induction links with
  | nil => simp [prependAll]
  | cons link rest ih =>
    rw [prependAll, List.foldr_cons, ← prependAll, prepend, mem_origins_put, ih, List.map_cons,
      List.mem_cons, or_assoc]

end RouteTable

end BatchFlow
