import Annex.Foundation.Routine
import Annex.Rtx.Delivery
import Annex.Server.FederationCorrectness
import Annex.Server.RtxScope

namespace Annex.Server

open Db Interleaving Rtx Sql Vrp

/-! Bundles that are received and published at the same time. A transaction is one step, and
between the steps of a call those of other calls come, and whatever else the server does to
its database. -/

/-- The database, and what has left the server. -/
structure Exchange where
  database : Database
  sent : List Outbound

/-- A relayed bundle, a bundle to publish, or a change of other tables. -/
inductive RtxRequest where
  | receive (envelope : FederatedRtxEnvelope)
  | publish (pseudonymId : String) (bundle : ReflectionSummaryBundle)
  | elsewhere (change : Database → Database)

/-- What a step takes from outside: the time, the failures of its statements, and the scope
the checks find. They read the database in several statements, so that any scope may come of
them, or none. -/
structure RtxInput where
  clock : Clock
  faults : List (Option String)
  scope : Option VrpTransferScope

/-- Where a call is. -/
inductive RtxCall where
  | received (envelope : FederatedRtxEnvelope)
  | storingReceived (envelope : FederatedRtxEnvelope) (scope : VrpTransferScope)
      (scopedBundle : ReflectionSummaryBundle)
  | published (pseudonymId : String) (bundle : ReflectionSummaryBundle)
  | storingPublished (bundle storedBundle : ReflectionSummaryBundle) (scope : VrpTransferScope)
  | stored (bundle storedBundle : ReflectionSummaryBundle)
  | sending (bundleId : String) (provenance : Option BundleProvenance)
      (copies : List (String × ReflectionSummaryBundle))
  | elsewhere (change : Database → Database)

abbrev Exchanges := Interleaving Exchange RtxCall

abbrev RtxLabel := Label RtxRequest RtxInput

/-- A change that leaves the stored bundles alone. It is refused where it breaks the keys of
the other tables. -/
def changeElsewhere (change : Database → Database) (database : Database) : Database :=
  if UniqueRows (change database) then
    { change database with rtxBundles := database.rtxBundles }
  else
    database

section Calls

variable {Fq Key : Type} (server : FederationServer Fq Key)

/-- The copies of a published bundle, once it is stored. -/
def readCopies (bundle storedBundle : ReflectionSummaryBundle) :
    Handler (List (String × ReflectionSummaryBundle)) := do
  connect fun error => .internalServerError ("db prepare failed: " ++ error.text)
  let found ← query (fun error => .internalServerError ("db row error: " ++ error.text))
    fun database => .ok (otherSubscribers server bundle database)
  deliver (.internalServerError ("task join error: " ++ server.environment.joinErrorText))
    server.clock.datetime server.serverId storedBundle found

/-- What comes of the scope that the checks of a bundle find. -/
def afterChecks (scope : Option VrpTransferScope) (bundle : ReflectionSummaryBundle)
    (go : VrpTransferScope → ReflectionSummaryBundle → RtxCall) : RtxCall ⊕ Option Nat :=
  match scope with
  | none => .inr none
  | some scope =>
      match enforceTransferScope bundle scope with
      | .error _ => .inr none
      | .ok scopedBundle => .inl (go scope scopedBundle)

/-- A bundle that was received before is answered without deliveries. -/
def afterReceipt (scopedBundle : ReflectionSummaryBundle) (provenance : BundleProvenance) :
    Except (Option FederationError) (List (String × ReflectionSummaryBundle)) →
      RtxCall ⊕ Option Nat
  | .error none => .inr (some 0)
  | .error (some _) => .inr none
  | .ok copies => .inl (.sending scopedBundle.bundleId (some provenance) copies)

def afterStorage (bundle storedBundle : ReflectionSummaryBundle) :
    Except ApiError Unit → RtxCall ⊕ Option Nat
  | .error _ => .inr none
  | .ok _ => .inl (.stored bundle storedBundle)

def afterReading (storedBundle : ReflectionSummaryBundle) :
    Except ApiError (List (String × ReflectionSummaryBundle)) → RtxCall ⊕ Option Nat
  | .error _ => .inr none
  | .ok copies => .inl (.sending storedBundle.bundleId none copies)

/-- A part of a handler as one step. -/
def exchangeStep {Error α : Type} (program : Sql Database (List Outbound) Error α)
    (faults : List (Option String)) (shared : Exchange)
    (next : Except Error α → RtxCall ⊕ Option Nat) : Exchange × (RtxCall ⊕ Option Nat) :=
  let ran := program ⟨shared.database, shared.sent, faults⟩
  (⟨ran.2.database, ran.2.memory⟩, next ran.1)

/-- The next step of a call. A call ends with the number of its deliveries, or with an error. -/
def rtxStep (input : RtxInput) : RtxCall → Exchange → Exchange × (RtxCall ⊕ Option Nat)
  | .received envelope, shared =>
      (shared, afterChecks input.scope envelope.bundle (.storingReceived envelope))
  | .storingReceived envelope scope scopedBundle, shared =>
      exchangeStep
        (transaction (fun error => some (.dbError error)) (fun error => some (.dbError error))
          (storeFederatedRtx { server with clock := input.clock } envelope scope scopedBundle))
        input.faults shared (afterReceipt scopedBundle envelope.provenance)
  | .published _ bundle, shared =>
      (shared, afterChecks input.scope bundle fun scope storedBundle =>
        .storingPublished bundle storedBundle scope)
  | .storingPublished bundle storedBundle scope, shared =>
      exchangeStep (storePublished { server with clock := input.clock } bundle storedBundle scope)
        input.faults shared (afterStorage bundle storedBundle)
  | .stored bundle storedBundle, shared =>
      exchangeStep (readCopies { server with clock := input.clock } bundle storedBundle)
        input.faults shared (afterReading storedBundle)
  | .sending _ provenance copies, shared =>
      ({ shared with
          sent := shared.sent ++ copies.map fun copy => .rtxBundle copy.1 copy.2 provenance },
        .inr (some copies.length))
  | .elsewhere change, shared =>
      ({ shared with database := changeElsewhere change shared.database }, .inr (some 0))

def rtxRoutine : Routine Exchange RtxCall RtxRequest RtxInput (Option Nat) where
  enter
    | .receive envelope => .received envelope
    | .publish pseudonymId bundle => .published pseudonymId bundle
    | .elsewhere change => .elsewhere change
  step := rtxStep server

end Calls

/-- The bundle and the subscriber of a local delivery. -/
def localDelivery : Outbound → Option (String × String)
  | .rtxBundle subscriber bundle _ => some (bundle.bundleId, subscriber)
  | _ => none

/-- The local deliveries in the order of their sending. -/
def Exchange.deliveries (exchange : Exchange) : List (String × String) :=
  exchange.sent.filterMap localDelivery

/-- The ids of the stored bundles. -/
def Exchange.bundleIds (exchange : Exchange) : List String :=
  exchange.database.rtxBundles.rows.map RtxBundle.bundleId

namespace RtxCall

/-- The bundle that a call has stored and not yet delivered. -/
def holds : RtxCall → Option String
  | .stored _ storedBundle => some storedBundle.bundleId
  | .sending bundleId _ _ => some bundleId
  | _ => none

/-- What is about to be sent are copies of one bundle to different subscribers. -/
def Sound : RtxCall → Prop
  | .sending bundleId _ copies =>
      (copies.map Prod.fst).Nodup ∧ ∀ copy ∈ copies, copy.2.bundleId = bundleId
  | _ => True

end RtxCall

/-- What a step of a call does: it stores and sends nothing, or it stores the bundle that it
holds afterwards, or it sends the copies of the bundle that it held. -/
inductive RtxEffect (call : RtxCall) (shared after : Exchange) (next : Option RtxCall) : Prop where
  | stays (unique : UniqueRows after.database) (bundleIds : after.bundleIds = shared.bundleIds)
      (sent : after.sent = shared.sent)
      (rest : ∀ rest, next = some rest → rest.Sound ∧
        ∀ bundleId, rest.holds = some bundleId → call.holds = some bundleId)
  | stores (bundleId : String) (unique : UniqueRows after.database)
      (fresh : bundleId ∉ shared.bundleIds)
      (bundleIds : after.bundleIds = shared.bundleIds ++ [bundleId])
      (sent : after.sent = shared.sent)
      (rest : ∀ rest, next = some rest → rest.Sound ∧ rest.holds = some bundleId)
  | sends (bundleId : String) (provenance : Option BundleProvenance)
      (copies : List (String × ReflectionSummaryBundle))
      (isSending : call = .sending bundleId provenance copies)
      (database : after.database = shared.database)
      (sent : after.sent = shared.sent ++ copies.map fun copy =>
        .rtxBundle copy.1 copy.2 provenance)
      (ended : next = none)

variable {Fq Key : Type} {server : FederationServer Fq Key}

/-- An inserted bundle is a new one. -/
theorem insertBundle_stores {serverId : Nat} {bundle : ReflectionSummaryBundle}
    {provenance : Option BundleProvenance} {database stored : Database}
    {rtxTransferLog : Table RtxTransfer} {sent : List Outbound}
    (inserted : insertBundle serverId bundle provenance database = .ok stored) :
    bundle.bundleId ∉ Exchange.bundleIds ⟨database, sent⟩ ∧
      Exchange.bundleIds ⟨{ stored with rtxTransferLog }, sent⟩ =
        Exchange.bundleIds ⟨database, sent⟩ ++ [bundle.bundleId] ∧
      stored.agentRegistrations = database.agentRegistrations ∧
      stored.rtxSubscriptions = database.rtxSubscriptions := by
  have new := insertBundle_eq_ok inserted
  rw [insertBundle, new.1, new.2] at inserted
  cases inserted
  refine ⟨?_, List.map_append, rfl, rfl⟩
  intro member
  rcases List.mem_map.mp member with ⟨row, stored, same⟩
  rw [List.any_eq_false] at new
  simpa [same] using new.1 row stored

theorem unique_changeElsewhere {change : Database → Database} {database : Database}
    (unique : UniqueRows database) : UniqueRows (changeElsewhere change database) := by
  unfold changeElsewhere
  split
  · next kept => exact kept.congr rfl rfl
  · exact unique

theorem rtxBundles_changeElsewhere {change : Database → Database} {database : Database} :
    (changeElsewhere change database).rtxBundles = database.rtxBundles := by
  unfold changeElsewhere
  split <;> rfl

theorem readCopies_ensures {bundle storedBundle : ReflectionSummaryBundle} {database : Database}
    {sent : List Outbound} :
    Ensures (readCopies server bundle storedBundle) database sent fun result changed after =>
      after = sent ∧ (∃ rtxTransferLog, changed = { database with rtxTransferLog }) ∧
        ∀ copies, result = .ok copies →
          copies = deliveries storedBundle (otherSubscribers server bundle database) := by
  have failed : ∀ error : ApiError, sent = sent ∧
      (∃ rtxTransferLog, database = { database with rtxTransferLog }) ∧
        ∀ copies, (.error error : Except ApiError _) = .ok copies →
          copies = deliveries storedBundle (otherSubscribers server bundle database) := by
    intro error
    refine ⟨rfl, ⟨database.rtxTransferLog, rfl⟩, ?_⟩
    intro copies answered
    cases answered
  refine (looks_connect _).ensures_bind failed fun _ _ => ?_
  refine (looks_query _ _).ensures_bind failed ?_
  intro found read
  have isFound := answers_query.mp read
  rw [Except.ok.injEq] at isFound
  subst isFound
  refine ensures_mono ?_ deliver_ensures
  intro result changed after delivered
  rcases delivered with ⟨kept, ⟨-, panicked, unchanged⟩ | ⟨-, isDelivered, written⟩⟩
  · subst kept panicked unchanged
    exact failed _
  · subst isDelivered
    refine ⟨kept, written, ?_⟩
    intro copies answered
    cases answered
    rfl

/-- A call that fails changes nothing. -/
theorem effect_ended {call : RtxCall} {shared : Exchange}
    (unique : UniqueRows shared.database) : RtxEffect call shared shared none := by
  refine .stays unique rfl rfl ?_
  intro rest goesOn
  cases goesOn

/-- Checks store nothing and hold nothing. -/
theorem effect_afterChecks {call : RtxCall} {shared : Exchange}
    {scope : Option VrpTransferScope} {bundle : ReflectionSummaryBundle}
    {go : VrpTransferScope → ReflectionSummaryBundle → RtxCall}
    (unique : UniqueRows shared.database)
    (silent : ∀ scope bundle, (go scope bundle).Sound ∧ (go scope bundle).holds = none) :
    RtxEffect call shared shared (afterChecks scope bundle go).getLeft? := by
  refine .stays unique rfl rfl ?_
  intro rest goesOn
  have isRest : ∃ scope bundle, rest = go scope bundle := by
    unfold afterChecks at goesOn
    split at goesOn
    · cases goesOn
    · split at goesOn
      · cases goesOn
      · cases goesOn
        exact ⟨_, _, rfl⟩
  rcases isRest with ⟨scope, bundle, isRest⟩
  rw [isRest]
  refine ⟨(silent scope bundle).1, ?_⟩
  intro bundleId held
  rw [(silent scope bundle).2] at held
  cases held

/-- Every step of a call has one of the effects. -/
theorem rtxStep_effect (input : RtxInput) (call : RtxCall) (shared : Exchange)
    (unique : UniqueRows shared.database) :
    RtxEffect call shared (rtxStep server input call shared).1
      (rtxStep server input call shared).2.getLeft? := by
  cases call with
  | received envelope => exact effect_afterChecks unique fun _ _ => ⟨trivial, rfl⟩
  | published pseudonymId bundle => exact effect_afterChecks unique fun _ _ => ⟨trivial, rfl⟩
  | storingReceived envelope scope scopedBundle =>
      have ensured := @storeFederatedRtx_ensures _ _ { server with clock := input.clock }
        shared.database shared.sent envelope scope scopedBundle input.faults
      simp only [rtxStep, exchangeStep]
      generalize transaction _ _ _ _ = ran at ensured ⊢
      rcases ran with ⟨outcome, changed, after, faults⟩
      rcases ensured with ⟨kept, held⟩
      cases outcome with
      | error error =>
          rw [show after = shared.sent from kept, show changed = shared.database from held]
          cases error with
          | none => exact effect_ended unique
          | some error => exact effect_ended unique
      | ok copies =>
          rcases held with ⟨-, isCopies, stored, log, inserted, isChanged⟩
          have new := @insertBundle_stores _ _ _ _ _ log shared.sent inserted
          rw [show after = shared.sent from kept, show changed = _ from isChanged]
          have keys : UniqueRows { stored with rtxTransferLog := log } :=
            unique.congr new.2.2.1 new.2.2.2
          refine .stores scopedBundle.bundleId keys new.1 new.2.1 rfl ?_
          intro rest goesOn
          cases goesOn
          rw [show copies = _ from isCopies]
          exact ⟨⟨unique.nodup_deliveries, bundleId_of_delivered⟩, rfl⟩
  | storingPublished bundle storedBundle scope =>
      have ensured := @storePublished_ensures _ _ { server with clock := input.clock }
        shared.database shared.sent bundle storedBundle scope input.faults
      simp only [rtxStep, exchangeStep]
      generalize storePublished _ _ _ _ _ = ran at ensured ⊢
      rcases ran with ⟨outcome, changed, after, faults⟩
      rcases ensured with ⟨kept, held⟩
      cases outcome with
      | error error =>
          rw [show after = shared.sent from kept, show changed = shared.database from held]
          exact effect_ended unique
      | ok _ =>
          rcases held with ⟨stored, log, inserted, isChanged⟩
          have new := @insertBundle_stores _ _ _ _ _ log shared.sent inserted
          rw [show after = shared.sent from kept, show changed = _ from isChanged]
          have keys : UniqueRows { stored with rtxTransferLog := log } :=
            unique.congr new.2.2.1 new.2.2.2
          refine .stores storedBundle.bundleId keys new.1 new.2.1 rfl ?_
          intro rest goesOn
          cases goesOn
          exact ⟨trivial, rfl⟩
  | stored bundle storedBundle =>
      have ensured := @readCopies_ensures _ _ { server with clock := input.clock } bundle
        storedBundle shared.database shared.sent input.faults
      simp only [rtxStep, exchangeStep]
      generalize readCopies _ _ _ _ = ran at ensured ⊢
      rcases ran with ⟨outcome, changed, after, faults⟩
      rcases ensured with ⟨kept, ⟨log, isChanged⟩, copied⟩
      rw [show after = shared.sent from kept, show changed = _ from isChanged]
      refine .stays (unique.congr rfl rfl) rfl rfl ?_
      intro rest goesOn
      cases outcome with
      | error error => cases goesOn
      | ok copies =>
          cases goesOn
          rw [copied copies rfl]
          exact ⟨⟨unique.nodup_deliveries, bundleId_of_delivered⟩, fun _ held => held⟩
  | sending bundleId provenance copies =>
      exact .sends bundleId provenance copies rfl rfl rfl rfl
  | elsewhere change =>
      refine .stays (unique_changeElsewhere unique) ?_ rfl ?_
      · exact congrArg (fun table => table.rows.map RtxBundle.bundleId)
          rtxBundles_changeElsewhere
      · intro rest goesOn
        cases goesOn

/-! A handler on its own takes the steps of its call. -/

/-- What a handler ends with, as its call does. -/
def completed {Error : Type} (ran : Except Error Nat × Session Database (List Outbound)) :
    Exchange × Option (Option Nat) :=
  (⟨ran.2.database, ran.2.memory⟩, some ran.1.toOption)

theorem exchangeStep_of_ran {Error α : Type} {program : Sql Database (List Outbound) Error α}
    {faults : List (Option String)} {database : Database} {sent : List Outbound}
    {next : Except Error α → RtxCall ⊕ Option Nat} {result : Except Error α}
    {after : Session Database (List Outbound)}
    (ran : program ⟨database, sent, faults⟩ = (result, after)) :
    exchangeStep program faults ⟨database, sent⟩ next =
      (⟨after.database, after.memory⟩, next result) := by
  rw [exchangeStep, ran]

theorem receive_completes (envelope : FederatedRtxEnvelope) (database : Database)
    (sent : List Outbound) (faults : List (Option String)) :
    ∃ inputs, (rtxRoutine server).complete inputs (.received envelope) ⟨database, sent⟩ =
      completed (receiveFederatedRtxHandler server envelope ⟨database, sent, faults⟩) := by
  have looks : Looks (checkFederatedRtx server envelope) := looks_checkFederatedRtx envelope
  have kept := looks.reads ⟨database, sent, faults⟩
  unfold receiveFederatedRtxHandler
  cases checkedRun : checkFederatedRtx server envelope ⟨database, sent, faults⟩ with
  | mk checked mid =>
  rw [checkedRun] at kept
  cases checked with
  | error error =>
      refine ⟨[⟨server.clock, [], none⟩], ?_⟩
      rw [bind_error checkedRun, completed, kept.1, kept.2]
      rfl
  | ok checked =>
      rcases checked with ⟨scope, scopedBundle⟩
      have answers := looks.answers checkedRun
      have enforced := (answers_checkFederatedRtx.mp answers.1).2
      refine ⟨[⟨server.clock, [], some scope⟩, ⟨server.clock, mid.faults, none⟩,
        ⟨server.clock, [], none⟩], ?_⟩
      have checks : (rtxRoutine server).step ⟨server.clock, [], some scope⟩ (.received envelope)
          ⟨database, sent⟩ =
            (⟨database, sent⟩, .inl (.storingReceived envelope scope scopedBundle)) := by
        simp only [rtxRoutine, rtxStep, afterChecks, enforced]
      rw [bind_ok checkedRun, answers.2, Routine.complete_next checks]
      dsimp only
      cases ran : transaction (fun error => some (FederationError.dbError error))
          (fun error => some (.dbError error))
          (storeFederatedRtx server envelope scope scopedBundle) ⟨database, sent, mid.faults⟩ with
      | mk outcome after =>
      have attempted : attempt (transaction (fun error => some (FederationError.dbError error))
          (fun error => some (.dbError error))
          (storeFederatedRtx server envelope scope scopedBundle))
          ⟨database, sent, mid.faults⟩ = ((.ok outcome : Except FederationError _), after) := by
        simp only [attempt, ran]
      rw [bind_ok attempted]
      have stores : (rtxRoutine server).step ⟨server.clock, mid.faults, none⟩
          (.storingReceived envelope scope scopedBundle) ⟨database, sent⟩ =
            (⟨after.database, after.memory⟩,
              afterReceipt scopedBundle envelope.provenance outcome) :=
        exchangeStep_of_ran ran
      cases outcome with
      | error error =>
          cases error with
          | none => exact Routine.complete_last stores
          | some error => exact Routine.complete_last stores
      | ok copies => exact (Routine.complete_next stores).trans rfl

theorem publishHandler_eq_readCopies (pseudonymId : String) (bundle : ReflectionSummaryBundle) :
    publishHandler server pseudonymId bundle =
      checkPublish server pseudonymId bundle >>= fun checked =>
        storePublished server bundle checked.2 checked.1 >>= fun _ =>
          readCopies server bundle checked.2 >>= fun copies =>
            sendAll (copies.map fun copy => .rtxBundle copy.1 copy.2 none) >>= fun _ =>
              pure copies.length := by
  apply congrArg (checkPublish server pseudonymId bundle >>= ·)
  funext checked
  apply congrArg (storePublished server bundle checked.2 checked.1 >>= ·)
  funext _
  rw [readCopies, bind_bind]
  apply congrArg (connect _ >>= ·)
  funext _
  rw [bind_bind]
  rfl

theorem publish_completes (pseudonymId : String) (bundle : ReflectionSummaryBundle)
    (database : Database) (sent : List Outbound) (faults : List (Option String)) :
    ∃ inputs, (rtxRoutine server).complete inputs (.published pseudonymId bundle)
        ⟨database, sent⟩ =
      completed (publishHandler server pseudonymId bundle ⟨database, sent, faults⟩) := by
  have looks : Looks (checkPublish server pseudonymId bundle) :=
    looks_checkPublish pseudonymId bundle
  have kept := looks.reads ⟨database, sent, faults⟩
  rw [publishHandler_eq_readCopies]
  cases checkedRun : checkPublish server pseudonymId bundle ⟨database, sent, faults⟩ with
  | mk checked mid =>
  rw [checkedRun] at kept
  cases checked with
  | error error =>
      refine ⟨[⟨server.clock, [], none⟩], ?_⟩
      rw [bind_error checkedRun, completed, kept.1, kept.2]
      rfl
  | ok checked =>
      rcases checked with ⟨scope, storedBundle⟩
      have answers := looks.answers checkedRun
      have enforced := (answers_checkPublish.mp answers.1).2
      have checks : (rtxRoutine server).step ⟨server.clock, [], some scope⟩
          (.published pseudonymId bundle) ⟨database, sent⟩ =
            (⟨database, sent⟩, .inl (.storingPublished bundle storedBundle scope)) := by
        simp only [rtxRoutine, rtxStep, afterChecks, enforced]
      rw [bind_ok checkedRun, answers.2]
      dsimp only
      cases storedRun : storePublished server bundle storedBundle scope
          ⟨database, sent, mid.faults⟩ with
      | mk outcome after =>
      have stores : (rtxRoutine server).step ⟨server.clock, mid.faults, none⟩
          (.storingPublished bundle storedBundle scope) ⟨database, sent⟩ =
            (⟨after.database, after.memory⟩, afterStorage bundle storedBundle outcome) :=
        exchangeStep_of_ran storedRun
      cases outcome with
      | error error =>
          refine ⟨[⟨server.clock, [], some scope⟩, ⟨server.clock, mid.faults, none⟩], ?_⟩
          rw [Routine.complete_next checks, bind_error storedRun]
          exact Routine.complete_last stores
      | ok _ =>
          refine ⟨[⟨server.clock, [], some scope⟩, ⟨server.clock, mid.faults, none⟩,
            ⟨server.clock, after.faults, none⟩, ⟨server.clock, [], none⟩], ?_⟩
          rw [Routine.complete_next checks, Routine.complete_next stores, bind_ok storedRun]
          cases readRun : readCopies server bundle storedBundle after with
          | mk copies last =>
          have reads : (rtxRoutine server).step ⟨server.clock, after.faults, none⟩
              (.stored bundle storedBundle) ⟨after.database, after.memory⟩ =
                (⟨last.database, last.memory⟩, afterReading storedBundle copies) :=
            exchangeStep_of_ran readRun
          cases copies with
          | error error =>
              rw [bind_error readRun]
              exact Routine.complete_last reads
          | ok copies =>
              rw [bind_ok readRun]
              exact (Routine.complete_next reads).trans rfl

end Annex.Server
