import Mathlib.Algebra.Group.Nat.Defs
import Annex.Db.Schema
import Annex.Foundation.SqlAnswer
import Annex.Rtx.Validation

namespace Annex.Rtx

open Db Sql Vrp

/-! Storing bundles and delivering them to the subscribers of this server. -/

variable {Memory Error : Type}

/-- `as i64` of an unsigned integer: the low 64 bits, signed. -/
def asI64 (value : Nat) : Int :=
  Int.bmod value (2 ^ 64)

/-- A statement that refers to a server that is not there. -/
def serverMissing : DbError := .constraint .foreignKey "FOREIGN KEY constraint failed"

/-- `INSERT INTO rtx_bundles`. The bundle id is unique over all servers. -/
def insertBundle (serverId : Nat) (bundle : ReflectionSummaryBundle)
    (provenance : Option BundleProvenance) (database : Database) :
    Except DbError Database :=
  if database.rtxBundles.rows.any (·.bundleId = bundle.bundleId) then
    .error (.constraint .unique "UNIQUE constraint failed: rtx_bundles.bundle_id")
  else if database.servers.rows.any (·.id = serverId) = false then
    .error serverMissing
  else
    .ok
      { database with
        rtxBundles := database.rtxBundles.insert fun id =>
          { id
            serverId
            bundleId := bundle.bundleId
            sourcePseudonym := bundle.sourcePseudonym
            sourceServer := bundle.sourceServer
            domainTagsJson := .encoded bundle.domainTags
            summary := bundle.summary
            reasoningChain := bundle.reasoningChain
            caveatsJson := .encoded bundle.caveats
            createdAtMs := asI64 bundle.createdAt
            signature := bundle.signature
            vrpHandshakeRef := bundle.vrpHandshakeRef
            provenanceJson := provenance.map .encoded } }

/-- `INSERT INTO rtx_transfer_log`. -/
def insertTransfer (now : String) (serverId : Nat) (bundle : ReflectionSummaryBundle)
    (destinationPseudonym : Option String) (scope : VrpTransferScope)
    (redactionsApplied : Option String) (database : Database) : Except DbError Database :=
  if database.servers.rows.any (·.id = serverId) = false then
    .error serverMissing
  else
    .ok
      { database with
        rtxTransferLog := database.rtxTransferLog.insert fun id =>
          { id
            serverId
            bundleId := bundle.bundleId
            sourcePseudonym := bundle.sourcePseudonym
            destinationPseudonym
            transferScopeApplied := scope.toString
            redactionsApplied
            transferredAt := now } }

/-- What the log says of a bundle that went through a scope. -/
def redactions (bundle scopedBundle : ReflectionSummaryBundle) : Option String :=
  if scopedBundle.reasoningChain = none ∧ bundle.reasoningChain ≠ none then
    some "reasoning_chain_stripped"
  else
    none

/-- What the log says of a delivery. -/
def deliveryRedactions (bundle : ReflectionSummaryBundle) (scope : VrpTransferScope) :
    Option String :=
  if scope = .reflectionSummariesOnly ∧ bundle.reasoningChain ≠ none then
    some "reasoning_chain_stripped"
  else
    none

/-- A subscription with the transfer scope of its agent. -/
structure Subscriber where
  subscriberPseudonym : String
  domainFiltersJson : JsonText (List String)
  transferScope : String
deriving DecidableEq, Repr

/-- The wanted subscriptions of a server joined with the active registrations of
their agents. -/
def subscribers (serverId : Nat) (wanted : RtxSubscription → Bool) (database : Database) :
    List Subscriber :=
  (database.rtxSubscriptions.rows.filter fun row =>
    row.serverId = serverId && wanted row).flatMap fun subscription =>
      (database.agentRegistrations.rows.filter fun agent =>
        agent.serverId = subscription.serverId &&
          agent.pseudonymId = subscription.subscriberPseudonym && agent.active).map
        fun agent =>
          ⟨subscription.subscriberPseudonym, subscription.domainFiltersJson,
            agent.transferScope⟩

/-- The scope and the copy a subscriber gets of a bundle, if any: its filters must be
readable and let the bundle through (no filters accept all), and its scope must permit
transfers. -/
def delivery (bundle : ReflectionSummaryBundle) (subscriber : Subscriber) :
    Option (VrpTransferScope × ReflectionSummaryBundle) :=
  match subscriber.domainFiltersJson.decode with
  | none => none
  | some domainFilters =>
      if domainFilters.isEmpty || bundle.domainTags.any (domainFilters.contains ·) then
        match VrpTransferScope.parse subscriber.transferScope with
        | none => none
        | some scope =>
            if scope.rank < VrpTransferScope.reflectionSummariesOnly.rank then
              none
            else
              match enforceTransferScope bundle scope with
              | .ok scopedBundle => some (scope, scopedBundle)
              | .error _ => none
      else
        none

/-- Whether a bundle can be made a JSON value, whose numbers have 64 bits. A timestamp that
is larger makes the macro panic. -/
def fitsJson (bundle : ReflectionSummaryBundle) : Bool :=
  decide (bundle.createdAt < 2 ^ 64)

/-- Log the delivery to each subscriber that gets one; a failure to log is tolerated.
`panicked` is what the caller reports a panic as. -/
def deliver (panicked : Error) (now : String) (serverId : Nat)
    (bundle : ReflectionSummaryBundle) :
    List Subscriber →
      Sql Database Memory Error (List (String × ReflectionSummaryBundle))
  | [] => pure []
  | subscriber :: rest =>
      match delivery bundle subscriber with
      | none => deliver panicked now serverId bundle rest
      | some (scope, scopedBundle) =>
          if fitsJson scopedBundle then do
            let _ ← attempt (execute id (insertTransfer now serverId bundle
              (some subscriber.subscriberPseudonym) scope (deliveryRedactions bundle scope)))
            let others ← deliver panicked now serverId bundle rest
            pure ((subscriber.subscriberPseudonym, scopedBundle) :: others)
          else
            fail panicked

/-- The copies the subscribers get. -/
def deliveries (bundle : ReflectionSummaryBundle) (subscribers : List Subscriber) :
    List (String × ReflectionSummaryBundle) :=
  subscribers.filterMap fun subscriber =>
    (delivery bundle subscriber).map fun copy => (subscriber.subscriberPseudonym, copy.2)

section Insert

variable {now : String} {serverId : Nat} {bundle : ReflectionSummaryBundle}
  {provenance : Option BundleProvenance} {database changed : Database}

theorem insertBundle_eq_ok
    (inserted : insertBundle serverId bundle provenance database = .ok changed) :
    database.rtxBundles.rows.any (·.bundleId = bundle.bundleId) = false ∧
      database.servers.rows.any (·.id = serverId) = true := by
  unfold insertBundle at inserted
  split at inserted
  · cases inserted
  · next fresh =>
    split at inserted
    · cases inserted
    · next known => exact ⟨Bool.eq_false_iff.mpr fresh, Bool.not_eq_false _ ▸ known⟩

/-- A bundle with a new id is stored, in its table alone. -/
theorem insertBundle_new
    (fresh : database.rtxBundles.rows.any (·.bundleId = bundle.bundleId) = false)
    (known : database.servers.rows.any (·.id = serverId) = true) :
    ∃ rtxBundles, rtxBundles ≠ database.rtxBundles ∧
      insertBundle serverId bundle provenance database =
        .ok { database with rtxBundles } := by
  simp only [insertBundle, fresh, known, Bool.false_eq_true, Bool.true_eq_false, if_false]
  exact ⟨_, Table.insert_ne _ _ _, rfl⟩

theorem insertTransfer_eq_ok {destination redactionsApplied : Option String}
    {scope : VrpTransferScope}
    (inserted : insertTransfer now serverId bundle destination scope redactionsApplied
      database = .ok changed) :
    ∃ rtxTransferLog, changed = { database with rtxTransferLog } := by
  unfold insertTransfer at inserted
  split at inserted
  · cases inserted
  · cases inserted
    exact ⟨_, rfl⟩

theorem insertTransfer_known {destination redactionsApplied : Option String}
    {scope : VrpTransferScope}
    (known : database.servers.rows.any (·.id = serverId) = true) :
    ∃ rtxTransferLog,
      insertTransfer now serverId bundle destination scope redactionsApplied database =
        .ok { database with rtxTransferLog } := by
  simp only [insertTransfer, known, Bool.true_eq_false, if_false]
  exact ⟨_, rfl⟩

end Insert

section Deliver

variable {now : String} {serverId : Nat} {bundle : ReflectionSummaryBundle}

theorem deliveries_cons_none {subscriber : Subscriber} {rest : List Subscriber}
    (skipped : delivery bundle subscriber = none) :
    deliveries bundle (subscriber :: rest) = deliveries bundle rest := by
  simp [deliveries, skipped]

theorem deliveries_cons_some {subscriber : Subscriber} {rest : List Subscriber}
    {scope : VrpTransferScope} {scopedBundle : ReflectionSummaryBundle}
    (delivered : delivery bundle subscriber = some (scope, scopedBundle)) :
    deliveries bundle (subscriber :: rest) =
      (subscriber.subscriberPseudonym, scopedBundle) :: deliveries bundle rest := by
  simp [deliveries, delivered]

/-- Who gets a copy is a matter of the tags. -/
theorem delivery_eq_none_congr {other : ReflectionSummaryBundle}
    (tags : other.domainTags = bundle.domainTags) {subscriber : Subscriber} :
    delivery other subscriber = none ↔ delivery bundle subscriber = none := by
  unfold delivery
  rw [tags]
  split
  · exact Iff.rfl
  · split
    · split
      · exact Iff.rfl
      · next scope parsed =>
        split
        · exact Iff.rfl
        · cases scope <;> simp [enforceTransferScope]
    · exact Iff.rfl

/-- The copies can be made: the timestamp fits, or nobody gets one. -/
def Deliverable (bundle : ReflectionSummaryBundle) (subscribers : List Subscriber) : Prop :=
  fitsJson bundle = true ∨ ∀ subscriber ∈ subscribers, delivery bundle subscriber = none

theorem deliverable_congr {other : ReflectionSummaryBundle} {subscribers : List Subscriber}
    (tags : other.domainTags = bundle.domainTags)
    (stamp : other.createdAt = bundle.createdAt) :
    Deliverable other subscribers ↔ Deliverable bundle subscribers := by
  rw [Deliverable, Deliverable, fitsJson, fitsJson, stamp]
  apply or_congr_right
  apply forall₂_congr
  intro subscriber _
  exact delivery_eq_none_congr tags

theorem deliverable_enforceTransferScope {scopedBundle : ReflectionSummaryBundle}
    {scope : VrpTransferScope} {subscribers : List Subscriber}
    (enforced : enforceTransferScope bundle scope = .ok scopedBundle) :
    Deliverable scopedBundle subscribers ↔ Deliverable bundle subscribers := by
  cases scope with
  | noTransfer => cases enforced
  | reflectionSummariesOnly =>
      cases enforced
      exact deliverable_congr rfl rfl
  | fullKnowledgeBundle =>
      cases enforced
      exact Iff.rfl

theorem fitsJson_of_delivery {subscriber : Subscriber} {scope : VrpTransferScope}
    {scopedBundle : ReflectionSummaryBundle}
    (delivered : delivery bundle subscriber = some (scope, scopedBundle)) :
    fitsJson scopedBundle = fitsJson bundle := by
  unfold delivery at delivered
  split at delivered
  · cases delivered
  · split at delivered
    · split at delivered
      · cases delivered
      · next parsed _ =>
        split at delivered
        · cases delivered
        · split at delivered
          · next enforced =>
            cases delivered
            cases scope with
            | noTransfer => cases enforced
            | reflectionSummariesOnly =>
                cases enforced
                rfl
            | fullKnowledgeBundle =>
                cases enforced
                rfl
          · cases delivered
    · cases delivered

/-- Whatever fails, copies that can be made are delivered and only the transfer log is
written. -/
theorem deliver_tolerates {panicked : Error} {database : Database} {memory : Memory}
    {subscribers : List Subscriber} (deliverable : Deliverable bundle subscribers) :
    Tolerates (deliver panicked now serverId bundle subscribers :
        Sql Database Memory Error (List (String × ReflectionSummaryBundle)))
      database memory fun value changed after =>
        value = deliveries bundle subscribers ∧ after = memory ∧
          ∃ rtxTransferLog, changed = { database with rtxTransferLog } := by
  induction subscribers generalizing database with
  | nil => exact tolerates_pure ⟨rfl, rfl, database.rtxTransferLog, rfl⟩
  | cons subscriber rest induction =>
      have remaining : Deliverable bundle rest :=
        deliverable.imp_right fun none other member => none other (List.mem_cons_of_mem _ member)
      unfold deliver
      split
      · next skipped =>
        rw [deliveries_cons_none skipped]
        exact induction remaining
      · next scope scopedBundle delivered =>
        have fits : fitsJson scopedBundle = true := by
          rcases deliverable with fits | none
          · rw [fitsJson_of_delivery delivered, fits]
          · rw [none subscriber List.mem_cons_self] at delivered
            cases delivered
        rw [deliveries_cons_some delivered, if_pos fits]
        have others : ∀ rtxTransferLog, Tolerates
            (deliver panicked now serverId bundle rest >>= fun others =>
              pure ((subscriber.subscriberPseudonym, scopedBundle) :: others) :
                Sql Database Memory Error (List (String × ReflectionSummaryBundle)))
            { database with rtxTransferLog } memory fun value changed after =>
              value = (subscriber.subscriberPseudonym, scopedBundle) ::
                deliveries bundle rest ∧ after = memory ∧
              ∃ rtxTransferLog, changed = { database with rtxTransferLog } := by
          intro rtxTransferLog
          refine tolerates_bind (tolerates_mono ?_ (induction remaining))
          rintro _ _ _ ⟨rfl, rfl, log, rfl⟩
          exact tolerates_pure ⟨rfl, rfl, log, rfl⟩
        refine tolerates_bind (tolerates_attempt_execute ?_ ?_)
        · intro changed inserted
          rcases insertTransfer_eq_ok inserted with ⟨log, rfl⟩
          exact others log
        · exact fun _ => others database.rtxTransferLog

/-- Copies that cannot be made end in the panic, before anything is written. -/
theorem deliver_panics {panicked : Error} {session : Session Database Memory}
    {subscribers : List Subscriber} (undeliverable : ¬ Deliverable bundle subscribers) :
    (deliver panicked now serverId bundle subscribers :
        Sql Database Memory Error (List (String × ReflectionSummaryBundle))) session =
      (.error panicked, session) := by
  have large : fitsJson bundle = false := by
    rw [Deliverable, not_or] at undeliverable
    exact Bool.eq_false_iff.mpr undeliverable.1
  induction subscribers with
  | nil =>
      apply absurd (Or.inr _) undeliverable
      intro subscriber member
      cases member
  | cons subscriber rest induction =>
      cases delivered : delivery bundle subscriber with
      | none =>
          simp only [deliver, delivered]
          apply induction
          intro deliverable
          apply undeliverable
          apply deliverable.imp_right
          intro none other member
          rcases List.mem_cons.mp member with equal | member
          · rw [equal, delivered]
          · exact none other member
      | some copy =>
          have unfit : fitsJson copy.2 = false := (fitsJson_of_delivery delivered).trans large
          simp only [deliver, delivered, unfit]
          rfl

/-- Whatever fails, the copies are delivered or the delivery panics. -/
theorem deliver_ensures {panicked : Error} {database : Database} {memory : Memory}
    {subscribers : List Subscriber} :
    Ensures (deliver panicked now serverId bundle subscribers :
        Sql Database Memory Error (List (String × ReflectionSummaryBundle)))
      database memory fun result changed after => after = memory ∧
        ((¬ Deliverable bundle subscribers ∧ result = .error panicked ∧ changed = database) ∨
          (Deliverable bundle subscribers ∧ result = .ok (deliveries bundle subscribers) ∧
            ∃ rtxTransferLog, changed = { database with rtxTransferLog })) := by
  intro faults
  by_cases deliverable : Deliverable bundle subscribers
  · rcases deliver_tolerates deliverable faults with
      ⟨value, changed, after, rest, ran, -, same, kept, written⟩
    rw [ran]
    exact ⟨kept, Or.inr ⟨deliverable, by rw [same], written⟩⟩
  · rw [deliver_panics deliverable]
    exact ⟨rfl, Or.inl ⟨deliverable, rfl, rfl⟩⟩

end Deliver

end Annex.Rtx
