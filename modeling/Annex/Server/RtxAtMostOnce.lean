import Annex.Foundation.AtMostOnce
import Annex.Server.RtxExchange

namespace Annex.Server

open Db Interleaving Rtx Sql Vrp

/-! Whatever is received and published at the same time, a bundle is stored at most once and
nobody gets it twice. -/

variable {Fq Key : Type} {server : FederationServer Fq Key}

namespace Exchanges

/-- Each bundle is stored once, and nobody has got one twice. -/
def Consistent (state : Exchanges) : Prop :=
  Sound (fun shared => UniqueRows shared.database) RtxCall.Sound state ∧
    AtMostOnce Prod.fst state.shared.bundleIds state.shared.deliveries
      (heldBy RtxCall.holds state.calls)

/-- The copies that are sent, as deliveries. -/
theorem filterMap_localDelivery {bundleId : String} {provenance : Option BundleProvenance}
    {copies : List (String × ReflectionSummaryBundle)}
    (ofBundle : ∀ copy ∈ copies, copy.2.bundleId = bundleId) :
    (copies.map fun copy => Outbound.rtxBundle copy.1 copy.2 provenance).filterMap
        localDelivery =
      (copies.map Prod.fst).map fun subscriber => (bundleId, subscriber) := by
  rw [List.filterMap_map, List.map_map, ← List.filterMap_eq_map]
  apply List.filterMap_congr
  intro copy member
  simp only [Function.comp_apply, localDelivery, ofBundle copy member]

/-- What a step of a call leaves is again consistent. -/
theorem atMostOnce_effect {state : Exchanges} {id : Nat} {call : RtxCall} {after : Exchange}
    {next : Option RtxCall} (consistent : state.Consistent) (found : state.calls id = some call)
    (effect : RtxEffect call state.shared after next) :
    AtMostOnce Prod.fst after.bundleIds after.deliveries
      (heldBy RtxCall.holds (Function.update state.calls id next)) := by
  have once := consistent.2
  have sound := consistent.1.calls id call found
  have isHeld : heldBy RtxCall.holds state.calls id = call.holds := by
    rw [heldBy, found, Option.bind_some]
  rw [heldBy_update]
  cases effect with
  | stays unique bundleIds sent rest =>
      rw [bundleIds, Exchange.deliveries, sent]
      apply once.stays
      intro bundleId holds
      rcases Option.bind_eq_some_iff.mp holds with ⟨call, goesOn, holds⟩
      rw [isHeld]
      exact (rest call goesOn).2 bundleId holds
  | stores bundleId unique fresh bundleIds sent rest =>
      rw [bundleIds, Exchange.deliveries, sent]
      apply once.takes fresh
      intro other holds
      rcases Option.bind_eq_some_iff.mp holds with ⟨call, goesOn, holds⟩
      rw [(rest call goesOn).2, Option.some.injEq] at holds
      exact holds.symm
  | sends bundleId provenance copies isSending database sent ended =>
      rw [isSending] at sound isHeld
      rw [ended, Exchange.bundleIds, database, Exchange.deliveries, sent,
        List.filterMap_append, filterMap_localDelivery sound.2]
      apply once.delivers isHeld
      · apply sound.1.map
        intro left right same
        exact congrArg Prod.snd same
      · intro copy member
        rcases List.mem_map.mp member with ⟨subscriber, -, isCopy⟩
        rw [← isCopy]

/-- Every step keeps the exchange consistent. -/
theorem consistent_step (state : Exchanges) (label : RtxLabel) (consistent : state.Consistent) :
    Consistent (Interleaving.step (rtxRoutine server).program state label) := by
  have effect : ∀ input call, RtxEffect call state.shared
      (rtxStep server input call state.shared).1
      (rtxStep server input call state.shared).2.getLeft? :=
    fun input call => rtxStep_effect input call state.shared consistent.1.shared
  have entered : ∀ request, ((rtxRoutine server).enter request).Sound ∧
      ((rtxRoutine server).enter request).holds = none := by
    intro request
    cases request <;> exact ⟨trivial, rfl⟩
  constructor
  · refine @sound_step _ _ _ _ _ (fun _ _ => True) _ _ ?_ ?_ state label consistent.1 trivial
    · exact fun _ request => (entered request).1
    · intro state id call input shared next sound found acts _
      have did := @rtxStep_effect _ _ server input call state.shared sound.shared
      have taken : (_, _) = (_, _) := Option.some.inj acts
      rw [Prod.mk.injEq] at taken
      rw [show (rtxStep server input call state.shared).1 = shared from taken.1,
        show (rtxStep server input call state.shared).2.getLeft? = next from taken.2] at did
      cases did with
      | stays unique bundleIds sent rest => exact ⟨unique, fun call goesOn => (rest call goesOn).1⟩
      | stores bundleId unique fresh bundleIds sent rest =>
          exact ⟨unique, fun call goesOn => (rest call goesOn).1⟩
      | sends bundleId provenance copies isSending database sent ended =>
          rw [database, ended]
          refine ⟨sound.shared, ?_⟩
          intro rest goesOn
          cases goesOn
  · have stepped := (rtxRoutine server).steps state label
    generalize Interleaving.step (rtxRoutine server).program state label = after at stepped ⊢
    cases stepped with
    | taken found => exact consistent.2
    | absent free => exact consistent.2
    | @start id request free =>
        dsimp only
        rw [heldBy_update]
        apply consistent.2.stays
        intro bundleId holds
        rw [Option.bind_some, (entered request).2] at holds
        cases holds
    | @next id input call after rest found stepped =>
        have did := effect input call
        rw [show rtxStep server input call state.shared = _ from stepped] at did
        exact atMostOnce_effect consistent found did
    | @last id input call after result found stepped =>
        have did := effect input call
        rw [show rtxStep server input call state.shared = _ from stepped] at did
        exact atMostOnce_effect consistent found did

end Exchanges

/-- Whatever fails, a relayed bundle that is answered with an error leaves nothing behind. -/
theorem receiveFederatedRtxHandler_error (envelope : FederatedRtxEnvelope) (database : Database)
    (sent : List Outbound) :
    Ensures (receiveFederatedRtxHandler server envelope) database sent
      fun result changed after => ∀ error, result = .error error →
        changed = database ∧ after = sent := by
  refine (looks_checkFederatedRtx envelope).ensures_bind (fun _ _ _ => ⟨rfl, rfl⟩) ?_
  intro checked _
  rcases checked with ⟨scope, scopedBundle⟩
  refine ensures_bind (ensures_attempt.mpr (ensures_mono ?_ storeFederatedRtx_ensures))
  intro outcome changed after stored
  rcases stored with ⟨kept, stored⟩
  rw [andThen_ok]
  split
  · rw [ensures_pure]
    exact fun _ _ => ⟨stored, kept⟩
  · rw [ensures_fail]
    exact fun _ _ => ⟨stored, kept⟩
  · refine ensures_bind ((ensures_remember _).mpr ?_)
    rw [andThen_ok, ensures_pure]
    intro error failed
    cases failed

namespace Exchanges

/-- In every run of relayed and published bundles each bundle is stored at most once and
delivered to each subscriber at most once, and a relayed bundle that is answered with an error
leaves the tables as they were and is delivered to nobody. -/
theorem delivered_at_most_once (server : FederationServer Fq Key) (database : Database)
    (unique : UniqueRows database)
    (bundleIds : (database.rtxBundles.rows.map RtxBundle.bundleId).Nodup)
    (labels : List RtxLabel) :
    (Execution.run (Interleaving.step (rtxRoutine server).program) (idle ⟨database, []⟩)
        labels).shared.bundleIds.Nodup ∧
      (Execution.run (Interleaving.step (rtxRoutine server).program) (idle ⟨database, []⟩)
        labels).shared.deliveries.Nodup ∧
      ∀ envelope before sent faults error,
        (receiveFederatedRtxHandler server envelope ⟨before, sent, faults⟩).1 = .error error →
          (receiveFederatedRtxHandler server envelope ⟨before, sent, faults⟩).2.database =
              before ∧
            (receiveFederatedRtxHandler server envelope ⟨before, sent, faults⟩).2.memory =
              sent := by
  have initially : Consistent (idle ⟨database, []⟩) :=
    ⟨sound_idle unique, AtMostOnce.initial bundleIds⟩
  have reached := Execution.run_invariant Consistent (@consistent_step _ _ server) initially
    labels
  refine ⟨reached.2.takenOnce, reached.2.deliveredOnce, ?_⟩
  intro envelope before sent faults error failed
  exact receiveFederatedRtxHandler_error envelope before sent faults error failed

section Sample

/-! One bundle is relayed twice at the same time. -/

def listeningAgent (id : Nat) : AgentRegistration :=
  ⟨id, 1, "reader", "ALIGNED", "REFLECTION_SUMMARIES_ONLY", .encoded ⟨[], [], []⟩, "0.0", true⟩

def listeningDatabase : Database :=
  { restrictedDatabase with
    agentRegistrations := Table.empty.insert listeningAgent
    rtxSubscriptions := Table.empty.insert fun id =>
      ⟨id, 1, "reader", .encoded [], true⟩ }

def relayedEnvelope : FederatedRtxEnvelope :=
  ⟨{ chainedBundle with sourceServer := "https://peer.example" },
    ⟨"https://peer.example", ["https://peer.example"], "b-1"⟩, "https://peer.example", ""⟩

def relayedTwice : List RtxLabel :=
  [.start 0 (.receive relayedEnvelope), .start 1 (.receive relayedEnvelope)] ++
    (List.replicate 3 [0, 1]).flatten.map fun id =>
      .advance id ⟨restrictedServer.clock, [], some .fullKnowledgeBundle⟩

theorem delivered_once_of_relayedTwice :
    (Execution.run (Interleaving.step (rtxRoutine restrictedServer).program)
        (idle ⟨listeningDatabase, []⟩) relayedTwice).shared.deliveries = [("b-1", "reader")] ∧
      (Execution.run (Interleaving.step (rtxRoutine restrictedServer).program)
        (idle ⟨listeningDatabase, []⟩) relayedTwice).shared.bundleIds.Nodup :=
  ⟨by decide +kernel,
    (delivered_at_most_once restrictedServer listeningDatabase (by decide) (by decide)
      relayedTwice).1⟩

end Sample

end Exchanges

end Annex.Server
