import Annex.Rtx.Store
import Mathlib.Data.List.Nodup

namespace Annex.Rtx

open Db Vrp

/-! Who gets a copy of a bundle, row by row of the two tables that are joined. -/

/-- `UNIQUE (server_id, pseudonym_id)` and `UNIQUE (server_id, subscriber_pseudonym)`. -/
structure UniqueRows (database : Database) : Prop where
  registrations : ∀ left ∈ database.agentRegistrations.rows,
    ∀ right ∈ database.agentRegistrations.rows,
      left.serverId = right.serverId → left.pseudonymId = right.pseudonymId → left = right
  subscriptions : ∀ left ∈ database.rtxSubscriptions.rows,
    ∀ right ∈ database.rtxSubscriptions.rows,
      left.serverId = right.serverId →
        left.subscriberPseudonym = right.subscriberPseudonym → left = right

instance (database : Database) : Decidable (UniqueRows database) :=
  decidable_of_iff
    ((∀ left ∈ database.agentRegistrations.rows, ∀ right ∈ database.agentRegistrations.rows,
        left.serverId = right.serverId → left.pseudonymId = right.pseudonymId → left = right) ∧
      ∀ left ∈ database.rtxSubscriptions.rows, ∀ right ∈ database.rtxSubscriptions.rows,
        left.serverId = right.serverId →
          left.subscriberPseudonym = right.subscriberPseudonym → left = right)
    ⟨fun unique => ⟨unique.1, unique.2⟩, fun unique => ⟨unique.1, unique.2⟩⟩

theorem UniqueRows.congr {database other : Database} (unique : UniqueRows database)
    (registrations : other.agentRegistrations = database.agentRegistrations)
    (subscriptions : other.rtxSubscriptions = database.rtxSubscriptions) : UniqueRows other := by
  refine ⟨?_, ?_⟩
  · rw [registrations]
    exact unique.registrations
  · rw [subscriptions]
    exact unique.subscriptions

/-- The filters a subscription stores can be read and let the bundle through. -/
def Passes (domainFiltersJson : JsonText (List String)) (bundle : ReflectionSummaryBundle) :
    Prop :=
  ∃ domainFilters, domainFiltersJson.decode = some domainFilters ∧
    (domainFilters = [] ∨ ∃ tag ∈ bundle.domainTags, tag ∈ domainFilters)

/-- The agent has a wanted subscription that lets the bundle through, and is active under a
scope that permits transfers. -/
structure Recipient (serverId : Nat) (wanted : RtxSubscription → Bool)
    (bundle : ReflectionSummaryBundle) (database : Database) (pseudonym : String)
    (scope : VrpTransferScope) : Prop where
  subscribed : ∃ row ∈ database.rtxSubscriptions.rows, row.serverId = serverId ∧
    row.subscriberPseudonym = pseudonym ∧ wanted row = true ∧
      Passes row.domainFiltersJson bundle
  registered : ∃ row ∈ database.agentRegistrations.rows, row.serverId = serverId ∧
    row.pseudonymId = pseudonym ∧ row.active = true ∧
      VrpTransferScope.parse row.transferScope = some scope
  permitted : VrpTransferScope.reflectionSummariesOnly.rank ≤ scope.rank

variable {serverId : Nat} {wanted : RtxSubscription → Bool} {database : Database}
  {bundle copy : ReflectionSummaryBundle} {subscriber : Subscriber} {pseudonym : String}
  {scope : VrpTransferScope}

theorem mem_subscribers :
    subscriber ∈ subscribers serverId wanted database ↔
      ∃ row ∈ database.rtxSubscriptions.rows, ∃ agent ∈ database.agentRegistrations.rows,
        (row.serverId = serverId ∧ wanted row = true) ∧
          (agent.serverId = serverId ∧ agent.pseudonymId = row.subscriberPseudonym ∧
            agent.active = true) ∧
          subscriber = ⟨row.subscriberPseudonym, row.domainFiltersJson,
            agent.transferScope⟩ := by
  simp only [subscribers, List.mem_flatMap, List.mem_filter, List.mem_map, Bool.and_eq_true,
    decide_eq_true_eq]
  constructor
  · intro joined
    rcases joined with ⟨row, ⟨member, here, isWanted⟩, agent,
      ⟨known, ⟨same, named⟩, active⟩, equal⟩
    exact ⟨row, member, agent, known, ⟨here, isWanted⟩,
      ⟨same.trans here, named, active⟩, equal.symm⟩
  · intro joined
    rcases joined with ⟨row, member, agent, known, ⟨here, isWanted⟩, ⟨same, named, active⟩,
      equal⟩
    exact ⟨row, ⟨member, here, isWanted⟩, agent,
      ⟨known, ⟨same.trans here.symm, named⟩, active⟩, equal.symm⟩

theorem passes_iff {domainFilters : List String} :
    (domainFilters.isEmpty || bundle.domainTags.any (domainFilters.contains ·)) = true ↔
      domainFilters = [] ∨ ∃ tag ∈ bundle.domainTags, tag ∈ domainFilters := by
  rw [Bool.or_eq_true, List.isEmpty_iff, List.any_eq_true]
  simp only [List.contains_iff_mem]

theorem delivery_eq_some_iff :
    delivery bundle subscriber = some (scope, copy) ↔
      Passes subscriber.domainFiltersJson bundle ∧
        VrpTransferScope.parse subscriber.transferScope = some scope ∧
        VrpTransferScope.reflectionSummariesOnly.rank ≤ scope.rank ∧
        enforceTransferScope bundle scope = .ok copy := by
  unfold delivery Passes
  cases decoded : subscriber.domainFiltersJson.decode with
  | none => simp
  | some domainFilters =>
      simp only [Option.some.injEq, exists_eq_left']
      rw [← passes_iff]
      split
      · next passes =>
        cases parsed : VrpTransferScope.parse subscriber.transferScope with
        | none => simp
        | some own =>
            simp only [passes, true_and, Option.some.injEq]
            split
            · next short =>
              apply iff_of_false
              · intro delivered
                cases delivered
              · intro delivered
                rcases delivered with ⟨same, enough, -⟩
                rw [← same] at enough
                omega
            · next enough =>
              rw [Nat.not_lt] at enough
              cases enforced : enforceTransferScope bundle own with
              | error error =>
                  apply iff_of_false
                  · intro delivered
                    cases delivered
                  · intro delivered
                    rcases delivered with ⟨same, -, copied⟩
                    rw [← same, enforced] at copied
                    cases copied
              | ok scopedBundle =>
                  constructor
                  · intro delivered
                    cases delivered
                    exact ⟨rfl, enough, enforced⟩
                  · intro delivered
                    rcases delivered with ⟨same, -, copied⟩
                    rw [← same, enforced] at copied
                    cases copied
                    rw [same]
      · next blocked =>
        apply iff_of_false
        · intro delivered
          cases delivered
        · exact fun delivered => blocked delivered.1

/-- The copies of a delivery are copies of the bundle. -/
theorem bundleId_of_delivered {bundle : ReflectionSummaryBundle}
    {subscribers : List Subscriber} :
    ∀ copy ∈ deliveries bundle subscribers, copy.2.bundleId = bundle.bundleId := by
  intro copy member
  rcases List.mem_filterMap.mp member with ⟨subscriber, -, given⟩
  rcases Option.map_eq_some_iff.mp given with ⟨⟨scope, scopedBundle⟩, delivered, equal⟩
  rw [← equal]
  exact bundleId_enforceTransferScope (delivery_eq_some_iff.mp delivered).2.2.2

/-- A copy goes to the recipients, each under its own scope. -/
theorem mem_deliveries :
    (pseudonym, copy) ∈ deliveries bundle (subscribers serverId wanted database) ↔
      ∃ scope, Recipient serverId wanted bundle database pseudonym scope ∧
        enforceTransferScope bundle scope = .ok copy := by
  unfold deliveries
  rw [List.mem_filterMap]
  constructor
  · intro delivered
    rcases delivered with ⟨subscriber, member, copied⟩
    rcases Option.map_eq_some_iff.mp copied with ⟨⟨scope, scopedBundle⟩, given, equal⟩
    cases equal
    rcases delivery_eq_some_iff.mp given with ⟨passes, parsed, enough, enforced⟩
    rcases mem_subscribers.mp member with
      ⟨row, subscribed, agent, known, ⟨here, isWanted⟩, ⟨same, named, active⟩, joined⟩
    subst joined
    exact ⟨scope, ⟨⟨row, subscribed, here, rfl, isWanted, passes⟩,
      ⟨agent, known, same, named, active, parsed⟩, enough⟩, enforced⟩
  · intro recipient
    rcases recipient with ⟨scope, recipient, enforced⟩
    rcases recipient.subscribed with ⟨row, subscribed, here, rowNamed, isWanted, passes⟩
    rcases recipient.registered with ⟨agent, known, same, named, active, parsed⟩
    refine ⟨⟨row.subscriberPseudonym, row.domainFiltersJson, agent.transferScope⟩,
      mem_subscribers.mpr ⟨row, subscribed, agent, known, ⟨here, isWanted⟩,
        ⟨same, named.trans rowNamed.symm, active⟩, rfl⟩, ?_⟩
    rw [delivery_eq_some_iff.mpr ⟨passes, parsed, recipient.permitted, enforced⟩, rowNamed]
    rfl

/-- Nobody is listed twice. -/
theorem UniqueRows.pairwise_subscribers (unique : UniqueRows database) :
    (subscribers serverId wanted database).Pairwise fun left right =>
      left.subscriberPseudonym ≠ right.subscriberPseudonym := by
  refine List.pairwise_flatMap.mpr ⟨?_, ?_⟩
  · intro subscription _
    rw [List.pairwise_map]
    apply List.Nodup.pairwise_of_forall_ne (database.agentRegistrations.nodup_rows.filter _)
    intro left leftMember right rightMember different
    simp only [List.mem_filter, Bool.and_eq_true, decide_eq_true_eq] at leftMember rightMember
    exact absurd (unique.registrations left leftMember.1 right rightMember.1
      (leftMember.2.1.1.trans rightMember.2.1.1.symm)
      (leftMember.2.1.2.trans rightMember.2.1.2.symm)) different
  · apply List.Nodup.pairwise_of_forall_ne (database.rtxSubscriptions.nodup_rows.filter _)
    intro left leftMember right rightMember different first isFirst second isSecond same
    rcases List.mem_map.mp isFirst with ⟨_, -, firstIs⟩
    rcases List.mem_map.mp isSecond with ⟨_, -, secondIs⟩
    subst firstIs secondIs
    simp only [List.mem_filter, Bool.and_eq_true, decide_eq_true_eq] at leftMember rightMember
    exact different (unique.subscriptions left leftMember.1 right rightMember.1
      (leftMember.2.1.trans rightMember.2.1.symm) same)

/-- Nobody gets two copies. -/
theorem UniqueRows.nodup_deliveries (unique : UniqueRows database) :
    ((deliveries bundle (subscribers serverId wanted database)).map Prod.fst).Nodup := by
  rw [List.Nodup, List.pairwise_map, deliveries, List.pairwise_filterMap]
  apply unique.pairwise_subscribers.imp
  intro left right different first isFirst second isSecond
  rcases Option.map_eq_some_iff.mp isFirst with ⟨_, -, firstIs⟩
  rcases Option.map_eq_some_iff.mp isSecond with ⟨_, -, secondIs⟩
  rw [← firstIs, ← secondIs]
  exact different

/-- A bundle can be delivered when its timestamp fits, or when there is no recipient. -/
theorem deliverable_iff :
    Deliverable bundle (subscribers serverId wanted database) ↔
      bundle.createdAt < 2 ^ 64 ∨
        ∀ pseudonym scope, ¬ Recipient serverId wanted bundle database pseudonym scope := by
  rw [Deliverable, fitsJson, decide_eq_true_eq]
  apply or_congr_right
  have recipients : (∃ copy, copy ∈ deliveries bundle (subscribers serverId wanted database)) ↔
      ∃ pseudonym scope, Recipient serverId wanted bundle database pseudonym scope := by
    constructor
    · intro delivered
      rcases delivered with ⟨⟨pseudonym, copy⟩, member⟩
      rcases mem_deliveries.mp member with ⟨scope, recipient, -⟩
      exact ⟨pseudonym, scope, recipient⟩
    · intro delivered
      rcases delivered with ⟨pseudonym, scope, recipient⟩
      have permitted : scope ≠ .noTransfer := by
        intro none
        have enough := recipient.permitted
        rw [none] at enough
        exact absurd enough (by decide)
      rcases enforceTransferScope_eq_ok permitted bundle with ⟨copy, enforced⟩
      exact ⟨(pseudonym, copy), mem_deliveries.mpr ⟨scope, recipient, enforced⟩⟩
  constructor
  · intro none pseudonym scope recipient
    rcases recipients.mpr ⟨pseudonym, scope, recipient⟩ with ⟨copy, member⟩
    rcases List.mem_filterMap.mp member with ⟨subscriber, subscribed, delivered⟩
    rw [none subscriber subscribed] at delivered
    cases delivered
  · intro none subscriber subscribed
    cases delivered : delivery bundle subscriber with
    | none => rfl
    | some given =>
        rcases recipients.mp ⟨(subscriber.subscriberPseudonym, given.2),
          List.mem_filterMap.mpr ⟨subscriber, subscribed, by rw [delivered]; rfl⟩⟩ with
          ⟨pseudonym, scope, recipient⟩
        exact absurd recipient (none pseudonym scope)

end Annex.Rtx
