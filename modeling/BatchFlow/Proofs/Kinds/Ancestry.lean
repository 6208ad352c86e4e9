import BatchFlow.Kinds
import Mathlib.Data.List.Cycle
import Mathlib.Logic.Relation

/-! The parents of kinds as a graph. A kind has at most one parent, so there is one way up from it:
either the way ends at a kind without a parent, or it runs into a cycle and stays there. Two cycles
with a kind in common are therefore the same. -/

namespace BatchFlow

namespace Kinds

/-- Each kind of a cycle is linked to the next one, all the way round, and none occurs twice. -/
structure IsCycleOf (link : Kind → Kind → Prop) (cycle : Cycle Kind) : Prop where
  nonempty : cycle ≠ Cycle.nil
  distinct : cycle.Nodup
  linked : cycle.Chain link

/-- The links from a kind lead into a cycle. -/
def Leads (link : Kind → Kind → Prop) (kind : Kind) (cycle : Cycle Kind) : Prop :=
  ∃ member ∈ cycle, Relation.ReflTransGen link kind member

section Cycles

variable {link : Kind → Kind → Prop} {cycle other : Cycle Kind} {kind parent : Kind}

/-- A cycle can be read from any of its kinds. -/
theorem exists_coe_cons (member : kind ∈ cycle) : ∃ rest : List Kind, cycle = ↑(kind :: rest) := by
  induction cycle using Quotient.inductionOn' with
  | h listed =>
    obtain ⟨before, after, rfl⟩ := List.append_of_mem (Cycle.mem_coe_iff.mp member)
    -- What stands before the kind is moved behind everything else.
    exact ⟨after ++ before, Cycle.coe_eq_coe.mpr List.isRotated_append⟩

/-- Some kind is on a cycle. -/
theorem IsCycleOf.exists_mem (circular : IsCycleOf link cycle) : ∃ kind, kind ∈ cycle := by
  induction cycle with
  | nil => exact absurd rfl circular.nonempty
  | cons first rest => exact ⟨first, by simp⟩

/-- A cycle of links is one of other links as well, if these are there between its kinds. -/
theorem IsCycleOf.imp_of_mem {broader : Kind → Kind → Prop} (circular : IsCycleOf link cycle)
    (also : ∀ kind ∈ cycle, ∀ parent ∈ cycle, link kind parent → broader kind parent) :
    IsCycleOf broader cycle := by
  refine ⟨circular.nonempty, circular.distinct, ?_⟩
  have linked := circular.linked
  induction cycle with
  | nil => trivial
  | cons first rest =>
    rw [Cycle.chain_coe_cons] at linked ⊢
    -- The list that closes the cycle has no kinds besides those on it.
    refine linked.imp_of_mem_imp fun kind parent isMember isParent up => ?_
    have onCycle : ∀ kind ∈ first :: (rest ++ [first]), kind ∈ (↑(first :: rest) : Cycle Kind) := by
      intro kind member
      simp only [List.mem_cons, List.mem_append, List.not_mem_nil, or_false] at member
      rw [Cycle.mem_coe_iff, List.mem_cons]
      tauto
    exact also kind (onCycle kind isMember) parent (onCycle parent isParent) up

/-- From a kind on a cycle, one link leads on to a kind that is on it too. -/
theorem IsCycleOf.onward (circular : IsCycleOf link cycle) (member : kind ∈ cycle) :
    ∃ parent ∈ cycle, link kind parent := by
  obtain ⟨rest, rfl⟩ := exists_coe_cons member
  -- The cycle is turned so that the kind comes first, and leads to the next one or to itself.
  have linked := circular.linked
  rw [Cycle.chain_coe_cons] at linked
  cases rest with
  | nil => exact ⟨kind, by simp, by simpa using linked⟩
  | cons next rest =>
    rw [List.cons_append, List.isChain_cons_cons] at linked
    exact ⟨next, by simp, linked.1⟩

/-- A kind that leads into a cycle has a link, and the next kind leads into the cycle too. -/
theorem Leads.onward (circular : IsCycleOf link cycle) (leads : Leads link kind cycle) :
    ∃ parent, link kind parent ∧ Leads link parent cycle := by
  obtain ⟨member, onCycle, way⟩ := leads
  rcases way.cases_head with rfl | ⟨parent, up, further⟩
  · -- The kind is on the cycle already, and so is what it is linked to.
    obtain ⟨parent, alsoOn, up⟩ := circular.onward onCycle
    exact ⟨parent, up, parent, alsoOn, .refl⟩
  · exact ⟨parent, up, member, onCycle, further⟩

variable (single : Relator.RightUnique link)
include single

/-- Where each kind has one link only, no link leads off a cycle. -/
theorem IsCycleOf.stays (circular : IsCycleOf link cycle) (member : kind ∈ cycle)
    (way : Relation.ReflTransGen link kind parent) : parent ∈ cycle := by
  -- Link by link, each leads to the next kind on the cycle, since there is no other link.
  induction way with
  | refl => exact member
  | tail _ up ih =>
    obtain ⟨next, onCycle, also⟩ := circular.onward ih
    exact single also up ▸ onCycle

/-- Where each kind has one link only, two ways round from the same kind are one and the same. -/
theorem around_unique {start first : Kind} {way back : List Kind}
    (linked : List.IsChain link (start :: (way ++ [first]))) (fresh : first ∉ way)
    (relinked : List.IsChain link (start :: (back ++ [first]))) (unmet : first ∉ back) :
    way = back := by
  -- Both ways go on by the same link, so the induction walks along both at once.
  induction way generalizing start back with
  | nil =>
    -- The first way closes at once, and so the other one would pass what it has not met.
    cases back with
    | nil => rfl
    | cons next back =>
      simp only [List.nil_append, List.cons_append, List.isChain_cons_cons] at linked relinked
      have same : first = next := single linked.1 relinked.1
      simp [same] at unmet
  | cons next way ih =>
    cases back with
    -- The other way round, it is the first way that would pass it.
    | nil =>
      simp only [List.nil_append, List.cons_append, List.isChain_cons_cons] at linked relinked
      have same : first = next := single relinked.1 linked.1
      simp [same] at fresh
    | cons other back =>
      -- Both go on to the one kind that is linked.
      simp only [List.cons_append, List.isChain_cons_cons] at linked relinked
      obtain rfl : next = other := single linked.1 relinked.1
      rw [ih linked.2 (fun met => fresh (.tail _ met)) relinked.2
        (fun met => unmet (.tail _ met))]

/-- Where each kind has one link only, two cycles with a kind in common are the same. -/
theorem IsCycleOf.eq_of_mem (circular : IsCycleOf link cycle) (also : IsCycleOf link other)
    (member : kind ∈ cycle) (shared : kind ∈ other) : cycle = other := by
  -- Cut open at the kind in common, both are ways round from it.
  obtain ⟨way, rfl⟩ := exists_coe_cons member
  obtain ⟨back, rfl⟩ := exists_coe_cons shared
  have fresh := (List.nodup_cons.mp (Cycle.nodup_coe_iff.mp circular.distinct)).1
  have unmet := (List.nodup_cons.mp (Cycle.nodup_coe_iff.mp also.distinct)).1
  rw [around_unique single circular.linked fresh also.linked unmet]

/-- Where each kind has one link only, a kind leads into one cycle at most. -/
theorem Leads.unique (circular : IsCycleOf link cycle) (also : IsCycleOf link other)
    (leads : Leads link kind cycle) (astray : Leads link kind other) : cycle = other := by
  obtain ⟨member, onCycle, way⟩ := leads
  obtain ⟨elsewhere, onOther, detour⟩ := astray
  -- One of the two ways goes on to where the other one ends.
  rcases way.total_of_right_unique single detour with further | further
  · exact circular.eq_of_mem single also (circular.stays single onCycle further) onOther
  · exact circular.eq_of_mem single also onCycle (also.stays single onOther further)

end Cycles

/-- Links were followed as far as a kind, and no kind was met twice. -/
structure Followed (link : Kind → Kind → Prop) (path : List Kind) (current : Kind) : Prop where
  linked : path.IsChain link
  distinct : path.Nodup
  last : path.getLast? = some current

section Paths

variable {link : Kind → Kind → Prop} {path : List Kind} {current parent : Kind}

/-- A path begins with a kind by itself. -/
theorem Followed.start (kind : Kind) : Followed link [kind] kind :=
  ⟨.singleton kind, List.nodup_singleton kind, rfl⟩

/-- A path goes on to a kind that it has not met. -/
theorem Followed.onward (followed : Followed link path current) (up : link current parent)
    (unmet : parent ∉ path) : Followed link (path ++ [parent]) parent := by
  refine ⟨?_, ?_, by simp⟩
  · -- The new link is the one from where the path has come to.
    refine List.isChain_append.mpr ⟨followed.linked, .singleton parent, ?_⟩
    simpa [followed.last] using up
  · exact List.nodup_append.mpr ⟨followed.distinct, List.nodup_singleton parent,
      fun kind met other isParent same => unmet (by simp_all)⟩

/-- The kind that a path has come to is on it. -/
theorem Followed.mem (followed : Followed link path current) : current ∈ path :=
  List.mem_of_getLast? followed.last

/-- Every kind of a path but the last one is linked to the one that comes next. -/
theorem Followed.split_of_mem_dropLast {kind : Kind} (followed : Followed link path current)
    (passed : kind ∈ path.dropLast) :
    ∃ before next rest, path = before ++ kind :: next :: rest ∧ link kind next := by
  -- Only the links along the path matter here, so the induction is on the path alone.
  have linked := followed.linked
  clear followed
  induction path with
  | nil => simp at passed
  | cons first path ih =>
    cases path with
    | nil => simp at passed
    | cons second path =>
      rw [List.isChain_cons_cons] at linked
      rw [List.dropLast_cons_cons, List.mem_cons] at passed
      rcases passed with rfl | passed
      · exact ⟨[], second, path, rfl, linked.1⟩
      · obtain ⟨before, next, rest, split, up⟩ := ih passed linked.2
        exact ⟨first :: before, next, rest, by rw [split, List.cons_append], up⟩

/-- Every kind of a path but the last one is linked to another kind of it. -/
theorem Followed.linked_of_mem_dropLast {kind : Kind} (followed : Followed link path current)
    (passed : kind ∈ path.dropLast) : ∃ next ∈ path, link kind next := by
  obtain ⟨before, next, rest, rfl, up⟩ := followed.split_of_mem_dropLast passed
  exact ⟨next, by simp, up⟩

/-- Where each kind has one link only, a path whose end is linked to nothing outside it has come by
everything that can be reached from there. -/
theorem Followed.mem_of_stays {kind : Kind} (followed : Followed link path current)
    (single : Relator.RightUnique link) (stays : ∀ parent, link current parent → parent ∈ path)
    (way : Relation.ReflTransGen link current kind) : kind ∈ path := by
  induction way with
  | refl => exact followed.mem
  | @tail kind parent _ up met =>
    -- Behind its end a path does not lead on by its own links, and before it each link is one of
    -- them.
    by_cases same : kind = current
    · exact stays parent (same ▸ up)
    · have passed : kind ∈ path.dropLast := by
        refine List.mem_dropLast_of_mem_of_ne_getLast? met fun last => same ?_
        exact Option.some.inj (last.trans followed.last)
      obtain ⟨next, onPath, also⟩ := followed.linked_of_mem_dropLast passed
      exact single also up ▸ onPath

/-- In a list without repetition, what stands before a kind is determined by it. -/
theorem eq_of_next_eq {path before rest front back : List Kind} {kind other next : Kind}
    (distinct : path.Nodup) (split : path = before ++ kind :: next :: rest)
    (again : path = front ++ other :: next :: back) : kind = other := by
  rw [List.append_cons] at split again
  have fresh : next ∉ before ++ [kind] ∧ next ∉ rest := by
    rw [split, List.nodup_middle, List.nodup_cons] at distinct
    simpa [not_or, and_assoc] using distinct.1
  -- The list is divided in the same way at what comes next.
  obtain ⟨same, -, -⟩ :=
    (List.append_cons_inj_of_notMem fresh.1 fresh.2).mp (split.symm.trans again)
  simpa using congrArg List.getLast? same

/-- A path of which every kind but the last is among given ones is no longer than they are, and one
more. -/
theorem Followed.length_le {listed : List Kind} (followed : Followed link path current)
    (among : ∀ kind ∈ path.dropLast, kind ∈ listed) : path.length ≤ listed.length + 1 := by
  -- But for the last one they are different and all listed.
  have shorter : path.dropLast.length ≤ listed.length :=
    (List.subperm_of_subset (followed.distinct.sublist path.dropLast_sublist) among).length_le
  rw [List.length_dropLast] at shorter
  omega

/-- What is left of a list once everything before a kind of it is dropped begins with that kind. -/
theorem dropWhile_ne_of_mem {kind : Kind} (met : kind ∈ path) :
    ∃ before rest, path = before ++ kind :: rest ∧
      path.dropWhile (· != kind) = kind :: rest := by
  induction path with
  | nil => simp at met
  | cons first path ih =>
    -- What is dropped comes before the first place where the kind was met.
    by_cases same : first = kind
    · subst same
      exact ⟨[], path, rfl, by simp⟩
    · have further : kind ∈ path := (List.mem_cons.mp met).resolve_left (Ne.symm same)
      obtain ⟨before, rest, split, dropped⟩ := ih further
      exact ⟨first :: before, rest, by rw [split, List.cons_append], by simp [same, dropped]⟩

/-- A path that comes back to a kind it has met has found a cycle, which begins with that kind. -/
theorem Followed.closed (followed : Followed link path current) (up : link current parent)
    (met : parent ∈ path) :
    ∃ rest : List Kind, path.dropWhile (· != parent) = parent :: rest ∧
      IsCycleOf link ↑(parent :: rest) := by
  obtain ⟨before, rest, rfl, dropped⟩ := dropWhile_ne_of_mem met
  refine ⟨rest, dropped, by simp, ?_, ?_⟩
  · exact Cycle.nodup_coe_iff.mpr (followed.distinct.sublist (List.sublist_append_right _ _))
  · rw [Cycle.chain_coe_cons, ← List.cons_append]
    -- The end of the path is linked to where the cycle begins.
    have last : (parent :: rest).getLast? = some current := by
      simpa [List.getLast?_append] using followed.last
    refine List.isChain_append.mpr ⟨followed.linked.right_of_append, .singleton parent, ?_⟩
    simpa [last] using up

end Paths

section Table

variable {kinds : Kinds} {kind parent : Kind}

/-- A registered kind is linked to its parent. -/
def Link (kinds : Kinds) (kind parent : Kind) : Prop :=
  kinds.lookup? kind = some (some parent)

/-- A kind has one parent only. -/
theorem link_unique : Relator.RightUnique kinds.Link := by
  intro kind parent other up also
  simpa using up.symm.trans also

/-- A registered kind has an entry. -/
theorem mem_all_iff : kind ∈ kinds.all ↔ ∃ parent, kinds.lookup? kind = some parent := by
  simp only [all, lookup?, List.mem_map, Option.map_eq_some_iff]
  constructor
  · -- An entry may stand behind another one of the same kind, which is then the one that is found.
    rintro ⟨entry, member, rfl⟩
    have found : (kinds.parents.find? (·.1 == entry.1)).isSome := by
      rw [List.find?_isSome]
      exact ⟨entry, member, by simp⟩
    obtain ⟨first, same⟩ := Option.isSome_iff_exists.mp found
    exact ⟨first.2, first, same, rfl⟩
  · rintro ⟨_, entry, found, -⟩
    exact ⟨entry, List.mem_of_find?_eq_some found, by simpa using List.find?_some found⟩

/-- A kind is contained in the table if it is registered there. -/
theorem contains_iff : kinds.contains kind = true ↔ kind ∈ kinds.all := by
  rw [contains, Option.isSome_iff_exists, mem_all_iff]

/-- In a table without repetition, the entry of a kind is wherever it stands. -/
theorem lookup?_eq_some_iff {entry : Option Kind} (distinct : kinds.all.Nodup) :
    kinds.lookup? kind = some entry ↔ (kind, entry) ∈ kinds.parents := by
  rw [lookup?, Option.map_eq_some_iff]
  constructor
  · rintro ⟨⟨name, stored⟩, found, rfl⟩
    have named : name = kind := by simpa using List.find?_some found
    exact named ▸ List.mem_of_find?_eq_some found
  · intro member
    have registered : kind ∈ kinds.all := List.mem_map.mpr ⟨_, member, rfl⟩
    obtain ⟨stored, found⟩ := mem_all_iff.mp registered
    rw [lookup?, Option.map_eq_some_iff] at found
    obtain ⟨⟨name, other⟩, found, rfl⟩ := found
    obtain rfl : name = kind := by simpa using List.find?_some found
    -- Another entry of the same name would repeat it.
    have same := List.inj_on_of_nodup_map distinct (List.mem_of_find?_eq_some found) member rfl
    exact ⟨_, found, by rw [same]⟩

/-- What a search from the end of a path finds is a cycle, closed by its first kind, into which the
path leads. -/
theorem cycleFrom_sound {path found : List Kind} {current : Kind} {steps : Nat}
    (followed : Followed kinds.Link path current)
    (ended : kinds.cycleFrom path current steps = some found) :
    ∃ first rest, found = first :: (rest ++ [first]) ∧
      IsCycleOf kinds.Link ↑(first :: rest) ∧ Leads kinds.Link current ↑(first :: rest) := by
  induction steps generalizing path current with
  | zero => simp [cycleFrom] at ended
  | succ steps ih =>
    simp only [cycleFrom] at ended
    split at ended
    · rename_i parent up
      split at ended
      · -- The parent is on the path already.
        rename_i met
        obtain ⟨rest, dropped, circular⟩ := followed.closed up met
        rw [dropped] at ended
        cases ended
        exact ⟨parent, rest, rfl, circular, parent, by simp, .single up⟩
      · -- The search goes on from the parent, which leads into what it finds.
        rename_i unmet
        obtain ⟨first, rest, same, circular, member, onCycle, way⟩ :=
          ih (followed.onward up unmet) ended
        exact ⟨first, rest, same, circular, member, onCycle, .head up way⟩
    · -- There is no parent, and so nothing was found.
      cases ended

/-- A search that is allowed enough steps finds a cycle wherever there is one to be led into. -/
theorem cycleFrom_complete {path : List Kind} {current : Kind} {steps : Nat} {cycle : Cycle Kind}
    (followed : Followed kinds.Link path current)
    (enough : kinds.parents.length + 1 < path.length + steps)
    (circular : IsCycleOf kinds.Link cycle) (leads : Leads kinds.Link current cycle) :
    kinds.cycleFrom path current steps ≠ none := by
  induction steps generalizing path current with
  | zero =>
    -- Without repetition, a path cannot be longer than the table is.
    have short : path.length ≤ kinds.all.length + 1 := by
      refine followed.length_le fun kind passed => ?_
      obtain ⟨next, _, up⟩ := followed.linked_of_mem_dropLast passed
      exact mem_all_iff.mpr ⟨_, up⟩
    rw [all, List.length_map] at short
    omega
  | succ steps ih =>
    obtain ⟨parent, up, further⟩ := leads.onward circular
    have entry : kinds.lookup? current = some (some parent) := up
    simp only [cycleFrom, entry]
    split
    · simp
    · rename_i unmet
      refine ih (followed.onward up unmet) ?_ further
      simp only [List.length_append, List.length_singleton]
      omega

/-- A cycle that is found from a kind is one that the kind leads into, closed by its first kind. -/
theorem cycle?_sound {start : Kind} {found : List Kind} (ended : kinds.cycle? start = some found) :
    ∃ first rest, found = first :: (rest ++ [first]) ∧
      IsCycleOf kinds.Link ↑(first :: rest) ∧ Leads kinds.Link start ↑(first :: rest) :=
  cycleFrom_sound (.start start) ended

/-- From a kind that leads into a cycle, one is found. -/
theorem cycle?_complete {start : Kind} {cycle : Cycle Kind}
    (circular : IsCycleOf kinds.Link cycle) (leads : Leads kinds.Link start cycle) :
    kinds.cycle? start ≠ none :=
  cycleFrom_complete (.start start) (by simp only [List.length_singleton]; omega) circular leads

/-- Every way up ends at the root, which is registered and alone has no parent. -/
structure Grounded (kinds : Kinds) : Prop where
  top : kinds.lookup? .root = some none
  rooted : ∀ kind, kinds.lookup? kind = some none → kind = .root
  acyclic : ∀ cycle, ¬ IsCycleOf kinds.Link cycle

/-- One kind stands directly above another, registered or not. -/
def Above (kinds : Kinds) (kind parent : Kind) : Prop :=
  kinds.parent? kind = some parent

/-- What stands above a kind that is not registered is the root. -/
theorem Above.link_or_root (above : kinds.Above kind parent) :
    kinds.Link kind parent ∨ kind ∉ kinds.all ∧ parent = .root := by
  unfold Above parent? at above
  split at above
  · rename_i entry
    exact .inl (entry.trans (congrArg some above))
  · -- Without an entry there is nothing above the root, and the root above every other kind.
    rename_i unregistered
    split at above
    · cases above
    · cases above
      refine .inr ⟨fun registered => ?_, rfl⟩
      obtain ⟨stored, entry⟩ := mem_all_iff.mp registered
      simp [unregistered] at entry

/-- Only the root has nothing above it. -/
theorem Grounded.parent?_eq_none_iff (grounded : kinds.Grounded) :
    kinds.parent? kind = none ↔ kind = .root := by
  constructor
  · intro highest
    unfold parent? at highest
    split at highest
    · -- An entry without a parent is that of the root.
      rename_i entry
      exact grounded.rooted kind (entry.trans (congrArg some highest))
    · split at highest
      · rename_i isRoot
        simpa [Kind.isRoot] using isRoot
      · cases highest
  · rintro rfl
    simp [parent?, grounded.top]

/-- No kind stands above itself. -/
theorem Grounded.above_acyclic (grounded : kinds.Grounded) (cycle : Cycle Kind) :
    ¬ IsCycleOf kinds.Above cycle := by
  intro circular
  refine grounded.acyclic cycle (circular.imp_of_mem fun kind _ parent member above => ?_)
  rcases above.link_or_root with up | ⟨_, rfl⟩
  · exact up
  · -- Nothing stands above the root, so it cannot be on the cycle.
    obtain ⟨higher, _, beyond⟩ := circular.onward member
    have highest := grounded.parent?_eq_none_iff.mpr rfl
    rw [Above, highest] at beyond
    cases beyond

/-- A climb that is allowed enough steps comes to the root. -/
theorem Grounded.root_mem_climb (grounded : kinds.Grounded) {met : List Kind} {current : Kind}
    {steps : Nat} (followed : Followed kinds.Above met current)
    (enough : kinds.parents.length + 1 < met.length + steps) :
    .root ∈ kinds.climb met current steps := by
  -- By induction on the steps that are left, while what was met grows by one at each of them.
  induction steps generalizing met current with
  | zero =>
    by_contra missed
    -- Without the root, everything passed is registered, and there are not that many kinds.
    have short : met.length ≤ kinds.all.length + 1 := by
      refine followed.length_le fun kind passed => ?_
      obtain ⟨next, member, above⟩ := followed.linked_of_mem_dropLast passed
      rcases above.link_or_root with up | ⟨_, rfl⟩
      · exact mem_all_iff.mpr ⟨_, up⟩
      · exact absurd member missed
    rw [all, List.length_map] at short
    omega
  | succ steps ih =>
    simp only [climb]
    split
    · rename_i parent above
      -- A parent that was met before would close a cycle, and there is none.
      split
      · rename_i again
        obtain ⟨rest, _, circular⟩ := followed.closed above again
        exact absurd circular (grounded.above_acyclic _)
      · -- A parent that is new makes the path longer, and leaves as much in all.
        rename_i unmet
        refine ih (followed.onward above unmet) ?_
        simp only [List.length_append, List.length_singleton]
        omega
    · -- Only the root has nothing above it.
      rename_i highest
      rw [← grounded.parent?_eq_none_iff.mp highest]
      exact followed.mem

/-- The root is an ancestor of every kind, whether or not the kind is registered. -/
theorem Grounded.root_mem_ancestors (grounded : kinds.Grounded) (kind : Kind) :
    .root ∈ kinds.ancestors kind :=
  grounded.root_mem_climb (.start kind) (by simp only [List.length_singleton]; omega)

/-- A path that has met the root has come to it last. -/
theorem Grounded.eq_root_of_met (grounded : kinds.Grounded) {met : List Kind} {current : Kind}
    (followed : Followed kinds.Above met current) (atTop : .root ∈ met) : current = .root := by
  -- Otherwise the path would go on from the root, above which there is nothing.
  by_contra lower
  have passed : Kind.root ∈ met.dropLast := by
    refine List.mem_dropLast_of_mem_of_ne_getLast? atTop fun last => lower ?_
    exact Option.some.inj (followed.last.symm.trans last.symm)
  obtain ⟨higher, _, beyond⟩ := followed.linked_of_mem_dropLast passed
  rw [Above, grounded.parent?_eq_none_iff.mpr rfl] at beyond
  cases beyond

/-- One kind at most stands directly above another. -/
theorem above_unique : Relator.RightUnique kinds.Above := by
  intro kind parent other up also
  exact Option.some.inj (up.symm.trans also)

/-- A path up through any table passes one kind at most that is not registered: what comes next is
the root, and a path has it once. So it is no longer than the table, with that kind and one more. -/
theorem Followed.length_le_parents {path : List Kind} {current : Kind}
    (followed : Followed kinds.Above path current) : path.length ≤ kinds.parents.length + 2 := by
  -- The table has as many kinds as entries.
  have ofAll : kinds.all.length = kinds.parents.length := by rw [all, List.length_map]
  -- After a kind that is not registered, the path goes on to the root.
  have toRoot : ∀ kind ∈ path.dropLast, kind ∉ kinds.all →
      ∃ before rest, path = before ++ kind :: .root :: rest := by
    intro kind passed unregistered
    obtain ⟨before, next, rest, split, above⟩ := followed.split_of_mem_dropLast passed
    rcases above.link_or_root with up | ⟨_, rfl⟩
    · exact absurd (mem_all_iff.mpr ⟨_, up⟩) unregistered
    · exact ⟨before, rest, split⟩
  -- Either everything passed is registered, or all that is not is one and the same kind.
  by_cases every : ∀ kind ∈ path.dropLast, kind ∈ kinds.all
  · have short := followed.length_le every
    omega
  · push Not at every
    obtain ⟨stranger, passed, unregistered⟩ := every
    -- Two of them would both be followed by the root, which comes once.
    have among : ∀ kind ∈ path.dropLast, kind ∈ stranger :: kinds.all := by
      intro kind also
      by_contra outside
      rw [List.mem_cons, not_or] at outside
      obtain ⟨before, rest, split⟩ := toRoot stranger passed unregistered
      obtain ⟨_, _, again⟩ := toRoot kind also outside.2
      exact outside.1 (eq_of_next_eq followed.distinct again split)
    have short := followed.length_le among
    rw [List.length_cons] at short
    omega

/-- A climb that is allowed enough steps comes by everything above the kind that it is at, even in a
table that goes round in circles. -/
theorem mem_climb_iff {met : List Kind} {current ancestor : Kind} {steps : Nat}
    (followed : Followed kinds.Above met current)
    (enough : kinds.parents.length + 1 < met.length + steps) :
    ancestor ∈ kinds.climb met current steps ↔
      ancestor ∈ met ∨ Relation.ReflTransGen kinds.Above current ancestor := by
  -- By induction on the steps that are left, of which a longer path needs fewer.
  induction steps generalizing met current with
  | zero =>
    -- The path is as long as any can be, so that what is above its end is on it.
    refine ⟨.inl, fun reached => reached.elim id (followed.mem_of_stays above_unique ?_)⟩
    intro parent above
    by_contra unmet
    have short := (followed.onward above unmet).length_le_parents
    rw [List.length_append, List.length_singleton] at short
    omega
  | succ steps ih =>
    simp only [climb]
    split
    · rename_i parent above
      split
      · -- The table goes round here, so everything above was met.
        rename_i again
        refine ⟨.inl, fun reached => reached.elim id (followed.mem_of_stays above_unique ?_)⟩
        intro other up
        exact above_unique up above ▸ again
      · -- The climb goes on with the parent, and what it will meet is the parent or above it.
        rename_i unmet
        rw [ih (followed.onward above unmet) (by
          simp only [List.length_append, List.length_singleton]
          omega), List.mem_append, List.mem_singleton]
        constructor
        · rintro ((before | rfl) | way)
          · exact .inl before
          · exact .inr (.single above)
          · exact .inr (.head above way)
        · rintro (before | way)
          · exact .inl (.inl before)
          · -- Only one kind is directly above, so every way up leads through it.
            rcases way.cases_head with rfl | ⟨next, up, further⟩
            · exact .inl (.inl followed.mem)
            · exact .inr (above_unique up above ▸ further)
    · -- There is nothing above any more.
      rename_i highest
      refine ⟨.inl, fun reached => reached.elim id (followed.mem_of_stays above_unique ?_)⟩
      intro parent up
      cases up.symm.trans highest

/-- The ancestors of a kind are the kinds on the way up from it, itself included. -/
theorem mem_ancestors_iff {ancestor : Kind} :
    ancestor ∈ kinds.ancestors kind ↔ Relation.ReflTransGen kinds.Above kind ancestor := by
  rw [ancestors, mem_climb_iff (.start kind) (by simp only [List.length_singleton]; omega),
    List.mem_singleton]
  -- The climb begins with the kind itself, which is on the way as well.
  refine ⟨fun reached => reached.elim ?_ id, .inr⟩
  rintro rfl
  exact .refl

end Table

end Kinds

end BatchFlow
