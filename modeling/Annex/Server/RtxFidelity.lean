import Annex.Server.RtxBinding
import Annex.Server.RtxScope

namespace Annex.Server

open Db Rtx Sql Vrp

/-! What the stored row of an accepted bundle says of it. -/

/-- Reading the row gives the fields of the bundle. -/
structure RowReads (bundle : ReflectionSummaryBundle) (row : RtxBundle) : Prop where
  sourcePseudonym : row.sourcePseudonym = bundle.sourcePseudonym
  sourceServer : row.sourceServer = bundle.sourceServer
  domainTags : row.domainTagsJson.decode = some bundle.domainTags
  summary : row.summary = bundle.summary
  reasoningChain : row.reasoningChain = bundle.reasoningChain
  caveats : row.caveatsJson.decode = some bundle.caveats
  createdAt : row.createdAtMs = bundle.createdAt

/-- The row of the bundle's id gives what the scope leaves of the bundle. -/
def ReadsBack (bundle : ReflectionSummaryBundle) (scope : VrpTransferScope)
    (database : Database) : Prop :=
  ∃ storedBundle row, enforceTransferScope bundle scope = .ok storedBundle ∧
    database.rtxBundles.rows.find? (·.bundleId = bundle.bundleId) = some row ∧
    RowReads storedBundle row

/-- The timestamp of a relayed bundle fits the column. Or its id was stored before, which counts
as received, and the row of that id is already right. -/
def ReceiptReadsBack (serverId : Nat) (bundle : ReflectionSummaryBundle)
    (scope : VrpTransferScope) (database : Database) : Prop :=
  if database.rtxBundles.rows.any (·.bundleId = bundle.bundleId) then
    ReadsBack bundle scope database
  else
    database.servers.rows.any (·.id = serverId) = true ∧ bundle.createdAt < 2 ^ 63

theorem asI64_eq_iff {value : Nat} : asI64 value = value ↔ value < 2 ^ 63 := by
  unfold asI64 Int.bmod
  dsimp only
  constructor
  · intro same
    split at same
    · omega
    · omega
  · intro small
    split
    · omega
    · omega

section Storage

variable {bundle storedBundle : ReflectionSummaryBundle} {scope : VrpTransferScope}
  {database stored : Database} {serverId : Nat} {provenance : Option BundleProvenance}

theorem createdAt_enforceTransferScope
    (enforced : enforceTransferScope bundle scope = .ok storedBundle) :
    storedBundle.createdAt = bundle.createdAt := by
  cases scope with
  | noTransfer => cases enforced
  | reflectionSummariesOnly =>
      cases enforced
      rfl
  | fullKnowledgeBundle =>
      cases enforced
      rfl

/-- The row that is inserted gives every field of the bundle, the timestamp if it fits. -/
theorem insertBundle_row
    (inserted : insertBundle serverId bundle provenance database = .ok stored) :
    ∃ row, stored.rtxBundles.rows = database.rtxBundles.rows ++ [row] ∧
      row.bundleId = bundle.bundleId ∧ (RowReads bundle row ↔ bundle.createdAt < 2 ^ 63) := by
  have new := insertBundle_eq_ok inserted
  have narrowed := @asI64_eq_iff bundle.createdAt
  rw [insertBundle, new.1, new.2] at inserted
  generalize asI64 bundle.createdAt = createdAtMs at inserted narrowed
  cases inserted
  rw [← narrowed]
  refine ⟨_, rfl, rfl, ?_⟩
  constructor
  · exact fun reads => reads.createdAt
  · exact fun fits => ⟨rfl, rfl, rfl, rfl, rfl, rfl, fits⟩

theorem readsBack_insertBundle (enforced : enforceTransferScope bundle scope = .ok storedBundle)
    (inserted : insertBundle serverId storedBundle provenance database = .ok stored)
    (rtxTransferLog : Table RtxTransfer) :
    ReadsBack bundle scope { stored with rtxTransferLog } ↔ bundle.createdAt < 2 ^ 63 := by
  have fresh := (insertBundle_eq_ok inserted).1
  rcases insertBundle_row inserted with ⟨row, rows, named, reads⟩
  rw [bundleId_enforceTransferScope enforced] at fresh named
  rw [createdAt_enforceTransferScope enforced] at reads
  have notBefore : database.rtxBundles.rows.find? (·.bundleId = bundle.bundleId) = none := by
    rw [List.find?_eq_none]
    exact List.any_eq_false.mp fresh
  have found : stored.rtxBundles.rows.find? (·.bundleId = bundle.bundleId) = some row := by
    rw [rows, List.find?_append, notBefore, Option.none_or]
    exact List.find?_cons_of_pos (decide_eq_true named)
  rw [← reads]
  constructor
  · intro back
    rcases back with ⟨other, otherRow, alsoEnforced, alsoFound, otherReads⟩
    cases enforced.symm.trans alsoEnforced
    cases found.symm.trans alsoFound
    exact otherReads
  · intro rowReads
    exact ⟨storedBundle, row, enforced, found, rowReads⟩

end Storage

section Handlers

variable {Fq Key : Type} {server : FederationServer Fq Key} {database : Database}
  {faults : List (Option String)} {delivered : Nat} {after : Session Database (List Outbound)}

theorem publish_readsBack {pseudonymId : String} {bundle : ReflectionSummaryBundle}
    (ran : publishHandler server pseudonymId bundle ⟨database, [], faults⟩ =
      (.ok delivered, after)) :
    ∃ scope, PublishAdmitted server pseudonymId bundle database scope ∧
      (ReadsBack bundle scope after.database ↔ bundle.createdAt < 2 ^ 63) := by
  have ensured := @publishHandler_ensures _ _ server database pseudonymId bundle faults
  rw [ran] at ensured
  rcases ensured with ⟨scope, storedBundle, published, enforced, stored, -⟩
  rcases stored with ⟨changed, rtxTransferLog, inserted, isChanged⟩
  refine ⟨scope, published.admitted, ?_⟩
  rw [isChanged]
  exact readsBack_insertBundle enforced inserted rtxTransferLog

/-- What counts as received before is a known id, or has no server to belong to. -/
theorem storeFederatedRtx_refuses {envelope : FederatedRtxEnvelope} {scope : VrpTransferScope}
    {scopedBundle : ReflectionSummaryBundle} {sent : List Outbound} :
    Ensures (transaction (fun error => some (.dbError error))
        (fun error => some (.dbError error))
        (storeFederatedRtx server envelope scope scopedBundle)) database sent
      fun result _ _ => result = .error none →
        database.rtxBundles.rows.any (·.bundleId = scopedBundle.bundleId) = true ∨
          database.servers.rows.any (·.id = server.serverId) = false := by
  apply ensures_transaction
  · intro _ none
    cases none
  apply ensures_bind
  apply ensures_execute
  · intro _ none
    cases none
  · intro stored inserted
    rw [andThen_ok]
    apply ensures_bind
    apply ensures_execute
    · intro _ none
      cases none
    · intro logged transferred
      rw [andThen_ok]
      apply ensures_bind
      apply ensures_query
      · intro _ none
        cases none
      · intro found _
        rw [andThen_ok]
        refine ensures_mono ?_ deliver_ensures
        intro result changed after delivered
        rcases delivered with ⟨_, ⟨_, panicked, _⟩ | ⟨_, copies, _⟩⟩
        · rw [panicked]
          intro none
          cases none
        · rw [copies]
          constructor
          · intro none
            cases none
          · intro _ none
            cases none
      · intro _ _ none
        cases none
    · intro _ _ none
      cases none
  · intro error refused none
    unfold insertBundle at refused
    split at refused
    · next known => exact .inl known
    · split at refused
      · next missing => exact .inr missing
      · cases refused

/-- Where nothing is stored, the row of the id is right if it was. -/
theorem receiptReadsBack_of_refused {bundle : ReflectionSummaryBundle}
    {scope : VrpTransferScope}
    (refused : database.rtxBundles.rows.any (·.bundleId = bundle.bundleId) = true ∨
      database.servers.rows.any (·.id = server.serverId) = false) :
    ReceiptReadsBack server.serverId bundle scope database ↔ ReadsBack bundle scope database := by
  unfold ReceiptReadsBack
  cases before : database.rtxBundles.rows.any (·.bundleId = bundle.bundleId) with
  | true => rw [if_pos rfl]
  | false =>
      have unknown := refused.resolve_left (Bool.eq_false_iff.mp before)
      rw [if_neg Bool.false_ne_true, unknown]
      apply iff_of_false
      · intro known
        cases known.1
      · intro back
        rcases back with ⟨_, row, _, found, _⟩
        have member := List.mem_of_find?_eq_some found
        have named := List.find?_some found
        exact List.any_eq_false.mp before row member named

/-- A receipt that is answered leaves a row that gives the bundle back, under the condition. -/
theorem receive_readsBack {envelope : FederatedRtxEnvelope}
    (ran : receiveFederatedRtxHandler server envelope ⟨database, [], faults⟩ =
      (.ok delivered, after)) :
    ∃ remote scope, RtxAdmitted server envelope database remote scope ∧
      (ReadsBack envelope.bundle scope after.database ↔
        ReceiptReadsBack server.serverId envelope.bundle scope database) := by
  have ensured : Ensures (receiveFederatedRtxHandler server envelope) database []
      fun result changed _ => ∀ delivered, result = .ok delivered →
        ∃ remote scope, RtxAdmitted server envelope database remote scope ∧
          (ReadsBack envelope.bundle scope changed ↔
            ReceiptReadsBack server.serverId envelope.bundle scope database) := by
    refine (looks_checkFederatedRtx envelope).ensures_bind (fun _ _ none => nomatch none) ?_
    intro checked answers
    rcases checked with ⟨scope, scopedBundle⟩
    rcases answers_checkFederatedRtx.mp answers with ⟨⟨remote, admitted⟩, enforced⟩
    have sameId := bundleId_enforceTransferScope enforced
    refine ensures_bind (ensures_attempt.mpr fun faults => ?_)
    have stores := @storeFederatedRtx_ensures _ _ server database [] envelope scope scopedBundle
      faults
    have refuses := @storeFederatedRtx_refuses _ _ server database envelope scope scopedBundle []
      faults
    generalize transaction _ _ _ _ = outcome at stores refuses ⊢
    rcases outcome with ⟨result, session⟩
    dsimp only at stores refuses ⊢
    rw [andThen_ok]
    cases result with
    | error error =>
        cases error with
        | some error =>
            rw [ensures_fail]
            intro _ none
            cases none
        | none =>
            rw [ensures_pure]
            intro _ _
            have refused := refuses rfl
            rw [sameId] at refused
            rw [stores.2]
            exact ⟨remote, scope, admitted, (receiptReadsBack_of_refused refused).symm⟩
    | ok copies =>
        rcases stores with ⟨_, _, _, stored, rtxTransferLog, inserted, isChanged⟩
        have new := insertBundle_eq_ok inserted
        rw [sameId] at new
        refine ensures_bind ((ensures_remember _).mpr ?_)
        rw [andThen_ok, ensures_pure]
        intro _ _
        refine ⟨remote, scope, admitted, ?_⟩
        rw [isChanged, readsBack_insertBundle enforced inserted, ReceiptReadsBack, new.1,
          if_neg Bool.false_ne_true, and_iff_right new.2]
  have answered := ensured faults
  rw [ran] at answered
  exact answered delivered rfl

end Handlers

/-- The row of a published bundle gives it back exactly if its timestamp fits the column, and the
row of a relayed one under the same condition, or as it did before. -/
theorem accepted_readsBack_iff {Fq Key : Type} (server : FederationServer Fq Key)
    (database : Database) (faults : List (Option String)) :
    (∀ pseudonymId bundle delivered after,
      publishHandler server pseudonymId bundle ⟨database, [], faults⟩ = (.ok delivered, after) →
        ∃ scope, PublishAdmitted server pseudonymId bundle database scope ∧
          (ReadsBack bundle scope after.database ↔ bundle.createdAt < 2 ^ 63)) ∧
    ∀ envelope delivered after,
      receiveFederatedRtxHandler server envelope ⟨database, [], faults⟩ =
          (.ok delivered, after) →
        ∃ remote scope, RtxAdmitted server envelope database remote scope ∧
          (ReadsBack envelope.bundle scope after.database ↔
            ReceiptReadsBack server.serverId envelope.bundle scope database) :=
  ⟨fun _ _ _ _ => publish_readsBack, fun _ _ _ => receive_readsBack⟩

namespace Sample

/-- A server with an agent and a peer. -/
def exchangeDatabase : Database :=
  { relayDatabase with agentRegistrations := restrictedDatabase.agentRegistrations }

def bundleAt (createdAt : Nat) : ReflectionSummaryBundle :=
  { chainedBundle with sourceServer := "https://here", createdAt }

def publishAt (createdAt : Nat) :
    Except ApiError Nat × Session Database (List Outbound) :=
  publishHandler boundServer "agent" (bundleAt createdAt) ⟨exchangeDatabase, [], []⟩

def receiveFirst : Except FederationError Nat × Session Database (List Outbound) :=
  receiveFederatedRtxHandler boundServer (relayOf "first") ⟨exchangeDatabase, [], []⟩

theorem publishAt_ok {createdAt : Nat} (answered : (publishAt createdAt).1 = .ok 0) :
    publishHandler boundServer "agent" (bundleAt createdAt) ⟨exchangeDatabase, [], []⟩ =
      (.ok 0, (publishAt createdAt).2) :=
  Prod.ext answered rfl

theorem receiveFirst_ok :
    receiveFederatedRtxHandler boundServer (relayOf "first") ⟨exchangeDatabase, [], []⟩ =
      (.ok 0, receiveFirst.2) := by
  have answered : receiveFirst.1 = .ok 0 := by decide +kernel
  exact Prod.ext answered rfl

theorem accepted_readsBack_early :
    (∃ scope, PublishAdmitted boundServer "agent" (bundleAt 1) exchangeDatabase scope ∧
      (ReadsBack (bundleAt 1) scope (publishAt 1).2.database ↔
        (bundleAt 1).createdAt < 2 ^ 63)) ∧
    ∃ remote scope, RtxAdmitted boundServer (relayOf "first") exchangeDatabase remote scope ∧
      (ReadsBack (relayOf "first").bundle scope receiveFirst.2.database ↔
        ReceiptReadsBack boundServer.serverId (relayOf "first").bundle scope
          exchangeDatabase) := by
  have both := accepted_readsBack_iff boundServer exchangeDatabase []
  constructor
  · exact both.1 "agent" (bundleAt 1) 0 _ (publishAt_ok (by decide +kernel))
  · exact both.2 (relayOf "first") 0 _ receiveFirst_ok

/-- The first timestamp that the column cannot hold is accepted, and its row has another. -/
theorem late_not_readsBack :
    ¬ ∀ (pseudonymId : String) (bundle : ReflectionSummaryBundle) (delivered : Nat)
      (after : Session Database (List Outbound)),
      publishHandler boundServer pseudonymId bundle ⟨exchangeDatabase, [], []⟩ =
          (.ok delivered, after) →
        ∃ scope, PublishAdmitted boundServer pseudonymId bundle exchangeDatabase scope ∧
          ReadsBack bundle scope after.database := by
  intro all
  have ran := @publishAt_ok (2 ^ 63) (by decide +kernel)
  have times : (publishAt (2 ^ 63)).2.database.rtxBundles.rows.map RtxBundle.createdAtMs =
      [-2 ^ 63] := by
    decide +kernel
  rcases all "agent" _ 0 _ ran with ⟨scope, _, _, row, enforced, found, reads⟩
  have stored : row.createdAtMs ∈
      (publishAt (2 ^ 63)).2.database.rtxBundles.rows.map RtxBundle.createdAtMs :=
    List.mem_map_of_mem (List.mem_of_find?_eq_some found)
  rw [times, List.mem_singleton, reads.createdAt] at stored
  omega

end Sample

end Annex.Server
