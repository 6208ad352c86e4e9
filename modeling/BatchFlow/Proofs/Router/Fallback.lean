import BatchFlow.Proofs.Kinds.Ancestry
import BatchFlow.Proofs.Router.Lineage

/-! Errors go along the default list only if no rule of their node leads them anywhere. It does not
matter whether a rule is for them: one without destinations is as good as none. -/

namespace BatchFlow

open Plan (Exchange)
open Relation (ReflTransGen)

namespace Topology

variable {topology : Topology} {origin : String} {kind : Kind}

/-- A rule is for errors of a kind if it names the kind or one above it. -/
def Matches (topology : Topology) (kind : Kind) (rule : ErrorRule) : Prop :=
  ReflTransGen topology.kinds.Above kind rule.kind

/-- How it is decided where errors of a kind go from an origin. -/
inductive Resolves (topology : Topology) (origin : String) (kind : Kind) : List String → Prop where
  /-- A rule for them leads somewhere: they go where the rules for them lead, and nowhere else. -/
  | ruled {rule : ErrorRule} {destinations : List String}
      (listed : rule ∈ topology.errorRulesOf origin) (suits : topology.Matches kind rule)
      (leads : rule.destinations ≠ [])
      (exact : ∀ destination, destination ∈ destinations ↔
        ∃ rule ∈ topology.errorRulesOf origin, topology.Matches kind rule ∧
          destination ∈ rule.destinations) :
    Resolves topology origin kind destinations
  /-- No rule for them leads anywhere, and the origin is on the default list itself. -/
  | excluded
      (unled : ∀ rule ∈ topology.errorRulesOf origin, topology.Matches kind rule →
        rule.destinations = [])
      (member : origin ∈ topology.defaultErrors) :
    Resolves topology origin kind []
  /-- No rule for them leads anywhere, even if there is one, and they go along the default list. -/
  | fallback
      (unled : ∀ rule ∈ topology.errorRulesOf origin, topology.Matches kind rule →
        rule.destinations = [])
      (outside : origin ∉ topology.defaultErrors) :
    Resolves topology origin kind topology.defaultErrors

/-- Whatever the kinds are, this is how it is decided. -/
theorem errorDestinations_resolves (topology : Topology) (origin : String) (kind : Kind) :
    topology.Resolves origin kind (topology.errorDestinations origin kind) := by
  -- A rule is for a kind exactly if the kind it names is one of its ancestors.
  have suits : ∀ rule : ErrorRule, rule.kind ∈ topology.kinds.ancestors kind ↔
      topology.Matches kind rule := fun _ => Kinds.mem_ancestors_iff
  unfold errorDestinations
  cases routed : topology.errorOf origin kind with
  | cons first rest =>
    -- A destination was found, so the rule that it comes from is not without destinations.
    have exact : ∀ destination, destination ∈ first :: rest ↔
        ∃ rule ∈ topology.errorRulesOf origin, topology.Matches kind rule ∧
          destination ∈ rule.destinations := by
      intro destination
      rw [← routed, mem_errorOf]
      simp only [suits]
    obtain ⟨rule, listed, fits, reached⟩ := (exact first).mp List.mem_cons_self
    exact .ruled listed fits (List.ne_nil_of_mem reached) exact
  | nil =>
    -- Nothing was found, so that no rule for this kind has a destination.
    have unled : ∀ rule ∈ topology.errorRulesOf origin, topology.Matches kind rule →
        rule.destinations = [] := fun rule listed fits =>
      errorOf_eq_nil_iff.mp routed rule listed ((suits rule).mpr fits)
    by_cases member : origin ∈ topology.defaultErrors
    · simpa [member] using Resolves.excluded unled member
    · simpa [member] using Resolves.fallback unled member

end Topology

namespace Router

variable {router : Router} {message : Message} {trace : List Exchange} {traversal : Traversal}

/-- Errors fall back on the default list only where no rule of their node leads them anywhere. Every
visit of a walk comes from something that was sent, and if that was an error batch, it was to one of
the destinations that are decided on for its origin and kind. The default list is decided on exactly
if no rule for the kind has a destination, be there a rule for it or not, and the origin is not on
the list. -/
theorem walk_falls_back {depth : Nat} {result : Except RouteFailure Terminal}
    (runs : (router.walk depth message).Runs trace (traversal, result)) :
    ∃ id rest, trace = ⟨.openTransaction, id⟩ :: rest ∧
      ∀ visit ∈ traversal.visits, ∃ trail origin parcel,
        router.Delivered { message with transaction := some id } traversal.visits trail origin
          parcel visit ∧
        ∀ batch, parcel = .error batch → ∃ destination destinations,
          visit.trail = trail ++ [destination] ∧ destination ∈ destinations ∧
          destinations = router.topology.errorDestinations origin batch.kind ∧
          router.topology.Resolves origin batch.kind destinations := by
  obtain ⟨id, rest, rfl, keeps⟩ := walk_keeps runs
  -- Every visit was accounted for when it was made, with what was sent to it.
  have accounted := keeps _ (accounted_chronicle router _) (accounted_opened router _ id)
  refine ⟨id, rest, rfl, fun visit member => ?_⟩
  obtain ⟨trail, origin, parcel, delivered⟩ := accounted.visits visit member
  refine ⟨trail, origin, parcel, delivered, ?_⟩
  rintro batch rfl
  cases delivered with
  | of hands applied =>
    exact ⟨_, _, rfl, hands.destined, rfl,
      router.topology.errorDestinations_resolves origin batch.kind⟩

/-- A node whose one rule for its errors leads nowhere, and a sink on the default list. -/
def silenced : Router where
  topology := ⟨[("inbox", ⟨["check"], [], []⟩), ("check", ⟨[], [], [⟨.dataFormat, []⟩]⟩)], ["dead"],
    ["inbox"], ["check", "dead"], .builtIn⟩
  nodes := .ofList [.plain "check" .step "reject_matching", .plain "dead" .sink "memory"]

/-- Surroundings in which every item has the wrong form. -/
def misshapen : Plan.Surroundings
  | _, .applyStep _ _ => .error (.failed (.dataFormat "bad"))
  | _, call => Plan.uneventful call

/-- Whether the second of two visits was to a certain node, and the walk went well. -/
def endsAt (id : String) : Traversal × Except RouteFailure Terminal → Bool
  | (⟨_, _, _, _, [_, last]⟩, .ok _) => last.trail == ["check", id]
  | _ => false

/-- Although there is a rule for them, the errors of the node go along the default list. -/
theorem walk_falls_back_silenced :
    (∃ rule ∈ silenced.topology.errorRulesOf "check",
      silenced.topology.Matches .dataFormat rule) ∧
    ∃ trace traversal result,
      (silenced.walk 3 ⟨"inbox", [.null], none, "", none, none, 0⟩).Runs trace (traversal, result) ∧
      endsAt "dead" (traversal, result) = true ∧
      ∃ id, ∀ visit ∈ traversal.visits, ∃ trail origin parcel,
        silenced.Delivered ⟨"inbox", [.null], none, "", some id, none, 0⟩ traversal.visits trail
          origin parcel visit ∧
        ∀ batch, parcel = .error batch → ∃ destinations,
          silenced.topology.Resolves origin batch.kind destinations := by
  -- The rule without destinations is the only one of the node.
  refine ⟨⟨⟨.dataFormat, []⟩, List.mem_singleton_self _, .refl⟩, ?_⟩
  obtain ⟨trace, ⟨traversal, result⟩, runs, ends⟩ := Plan.exists_run misshapen
    (silenced.walk 3 ⟨"inbox", [.null], none, "", none, none, 0⟩)
    (fun ended => endsAt "dead" ended.2) (by decide)
  obtain ⟨id, rest, _, visits⟩ := walk_falls_back runs
  refine ⟨trace, traversal, result, runs, ends, id, fun visit member => ?_⟩
  obtain ⟨trail, origin, parcel, delivered, decided⟩ := visits visit member
  refine ⟨trail, origin, parcel, delivered, fun batch same => ?_⟩
  obtain ⟨_, destinations, _, _, _, resolves⟩ := decided batch same
  exact ⟨destinations, resolves⟩

end Router

end BatchFlow
