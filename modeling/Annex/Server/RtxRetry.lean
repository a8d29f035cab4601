import Annex.Foundation.SqlCount
import Annex.Server.RtxPublication

namespace Annex.Server

open Db Rtx Sql Vrp

/-! What a publish that is answered with an error leaves behind, and what publishing the
bundle again then does. -/

variable {Fq Key : Type}

section Definitions

variable (server : FederationServer Fq Key)

/-- No row is stored or logged, and nothing is delivered or relayed. -/
def LeavesNothing (pseudonymId : String) (bundle : ReflectionSummaryBundle)
    (database : Database) (faults : List (Option String)) : Prop :=
  (publishHandler server pseudonymId bundle ⟨database, [], faults⟩).2.database.rtxBundles =
      database.rtxBundles ∧
    (publishHandler server pseudonymId bundle ⟨database, [], faults⟩).2.database.rtxTransferLog =
      database.rtxTransferLog ∧
    ∀ relayDatabase relayFaults, publishedCopies server pseudonymId bundle database
      relayDatabase faults relayFaults = []

/-- Published again with no statement failing, the bundle is accepted and reaches every
matching subscriber. -/
def SucceedsAgain (pseudonymId : String) (bundle : ReflectionSummaryBundle)
    (database : Database) (faults : List (Option String)) : Prop :=
  ∃ delivered session, publishHandler server pseudonymId bundle
      ⟨(publishHandler server pseudonymId bundle ⟨database, [], faults⟩).2.database, [], []⟩ =
        (.ok delivered, session) ∧
    ∀ pseudonym other, OtherRecipient server bundle database pseudonym other →
      ∃ copy, Outbound.rtxBundle pseudonym copy none ∈ session.memory

/-- An error means that nothing happened and that the publish can be repeated. -/
def AllOrNothing (pseudonymId : String) (bundle : ReflectionSummaryBundle)
    (database : Database) (faults : List (Option String)) : Prop :=
  ∀ error, (publishHandler server pseudonymId bundle ⟨database, [], faults⟩).1 = .error error →
    LeavesNothing server pseudonymId bundle database faults ∧
      SucceedsAgain server pseudonymId bundle database faults

/-- Without failures the bundle is stored, and none of the six statements up to the commit is
made to fail. -/
structure Commits (pseudonymId : String) (bundle : ReflectionSummaryBundle)
    (database : Database) (faults : List (Option String)) : Prop where
  admitted : ∃ scope, PublishAdmitted server pseudonymId bundle database scope
  fresh : database.rtxBundles.rows.any (·.bundleId = bundle.bundleId) = false
  known : database.servers.rows.any (·.id = server.serverId) = true
  spared : Spared faults 6

/-- The bundle is stored, and then the subscribers cannot be read, by one statement or the
other, or their copies cannot be made. -/
def FailsLate (pseudonymId : String) (bundle : ReflectionSummaryBundle)
    (database : Database) (faults : List (Option String)) : Prop :=
  Commits server pseudonymId bundle database faults ∧
    (¬ Spared (faults.drop 6) 2 ∨ ¬ Deliverable bundle (otherSubscribers server bundle database))

/-- The handler up to the commit. -/
def storeChecked (pseudonymId : String) (bundle : ReflectionSummaryBundle) :
    Handler ReflectionSummaryBundle := do
  let checked ← checkPublish server pseudonymId bundle
  storePublished server bundle checked.2 checked.1
  pure checked.2

/-- The handler once the subscribers are known. -/
def handOut (storedBundle : ReflectionSummaryBundle) (found : List Subscriber) :
    Handler Nat := do
  let delivered ← deliver
    (.internalServerError ("task join error: " ++ server.environment.joinErrorText))
    server.clock.datetime server.serverId storedBundle found
  sendAll (delivered.map fun copy => .rtxBundle copy.1 copy.2 none)
  pure delivered.length

/-- The handler once the bundle is stored. -/
def deliverStored (bundle storedBundle : ReflectionSummaryBundle) : Handler Nat := do
  connect fun error => .internalServerError ("db prepare failed: " ++ error.text)
  let found ← query (fun error => .internalServerError ("db row error: " ++ error.text))
    fun database => .ok (otherSubscribers server bundle database)
  handOut server storedBundle found

theorem publishHandler_eq (pseudonymId : String) (bundle : ReflectionSummaryBundle) :
    publishHandler server pseudonymId bundle =
      storeChecked server pseudonymId bundle >>= deliverStored server bundle := by
  rw [storeChecked, bind_bind]
  apply congrArg (checkPublish server pseudonymId bundle >>= ·)
  funext checked
  rw [bind_bind]
  rfl

end Definitions

variable {server : FederationServer Fq Key} {database : Database} {pseudonymId : String}
  {bundle storedBundle : ReflectionSummaryBundle} {scope : VrpTransferScope}
  {faults : List (Option String)} {sent : List Outbound}

theorem takes_storeChecked : Takes 6 (storeChecked server pseudonymId bundle) :=
  takes_bind
    (takes_bind (takes_orElse _ _) fun _ => takes_bind (takes_check _ _) fun _ =>
      takes_bind (takes_check _ _) fun _ => takes_bind (takes_connect _) fun _ =>
      takes_bind (takes_query _ _) fun _ => takes_bind (takes_require _ _) fun _ =>
      takes_bind (takes_check _ _) fun _ => takes_bind (takes_orElse _ _) fun _ =>
      takes_bind (takes_orElse _ _) fun _ => takes_pure _)
    fun _ => takes_bind
      (takes_transaction (takes_bind (takes_execute _ _) fun _ => takes_execute _ _))
      fun _ => takes_pure _

/-- The bundle is checked and stored, or nothing is. -/
theorem storeChecked_ensures :
    Ensures (storeChecked server pseudonymId bundle) database [] fun result changed after =>
      after = [] ∧ match result with
        | .error _ => changed = database
        | .ok storedBundle => ∃ scope,
            PublishAdmitted server pseudonymId bundle database scope ∧
              enforceTransferScope bundle scope = .ok storedBundle ∧
              StoredAs server storedBundle database changed := by
  refine (looks_checkPublish pseudonymId bundle).ensures_bind (fun _ => ⟨rfl, rfl⟩) ?_
  intro checked answers
  rcases checked with ⟨scope, storedBundle⟩
  rcases answers_checkPublish.mp answers with ⟨admitted, enforced⟩
  refine ensures_bind (ensures_mono ?_ storePublished_ensures)
  intro result changed after stored
  cases result with
  | error error => exact stored
  | ok _ =>
      rw [andThen_ok, ensures_pure]
      exact ⟨stored.1, scope, admitted, enforced, stored.2⟩

theorem storeChecked_achieves (commits : Commits server pseudonymId bundle database faults) :
    Achieves (storeChecked server pseudonymId bundle) database sent fun _ _ _ => True := by
  rcases commits.admitted with ⟨scope, admitted⟩
  rcases enforceTransferScope_eq_ok admitted.permitted bundle with ⟨storedBundle, enforced⟩
  have checked : Answers (checkPublish server pseudonymId bundle) database sent
      (scope, storedBundle) := answers_checkPublish.mpr ⟨admitted, enforced⟩
  have fresh := commits.fresh
  rw [← bundleId_enforceTransferScope enforced] at fresh
  apply checked.achieves_bind
  refine achieves_bind (achieves_mono ?_ (storePublished_achieves fresh commits.known))
  exact fun _ _ _ _ => achieves_pure trivial

/-- A publish fails and leaves the database as it was, or commits and goes on to deliver. -/
theorem publishHandler_cases :
    ((∃ error, (publishHandler server pseudonymId bundle ⟨database, [], faults⟩).1 =
          .error error) ∧
        (publishHandler server pseudonymId bundle ⟨database, [], faults⟩).2.database = database ∧
        ¬ Commits server pseudonymId bundle database faults) ∨
      (Commits server pseudonymId bundle database faults ∧ ∃ scope storedBundle changed,
        enforceTransferScope bundle scope = .ok storedBundle ∧
          StoredAs server storedBundle database changed ∧
          publishHandler server pseudonymId bundle ⟨database, [], faults⟩ =
            deliverStored server bundle storedBundle ⟨changed, [], faults.drop 6⟩) := by
  rw [publishHandler_eq]
  have ensured := @storeChecked_ensures _ _ server database pseudonymId bundle faults
  cases ran : storeChecked server pseudonymId bundle ⟨database, [], faults⟩ with
  | mk result after =>
  rw [ran] at ensured
  cases result with
  | error error =>
      rw [bind_error ran]
      refine Or.inl ⟨⟨error, rfl⟩, ensured.2, ?_⟩
      intro commits
      rcases @storeChecked_achieves _ _ server database pseudonymId bundle faults [] commits with
        ⟨storedBundle, changed, kept, unfaulted, -⟩
      rw [(takes_storeChecked ..).mpr ⟨commits.spared, rfl, unfaulted⟩] at ran
      cases ran
  | ok storedBundle =>
      rcases ensured with ⟨kept, scope, admitted, enforced, stored⟩
      rcases after with ⟨changed, after, rest⟩
      rcases (takes_storeChecked ..).mp ran with ⟨spared, isRest, -⟩
      have new := stored.new
      rw [bundleId_enforceTransferScope enforced] at new
      rw [bind_ok ran, isRest, show after = [] from kept]
      exact Or.inr ⟨⟨⟨scope, admitted⟩, new.1, new.2, spared⟩, scope, storedBundle, changed,
        enforced, stored, rfl⟩

theorem StoredAs.rtxBundles_ne {changed : Database}
    (stored : StoredAs server storedBundle database changed) :
    changed.rtxBundles ≠ database.rtxBundles := by
  have new := stored.new
  rcases stored with ⟨inner, log, inserted, isChanged⟩
  rcases @insertBundle_new server.serverId storedBundle none database new.1 new.2 with
    ⟨rtxBundles, different, isInner⟩
  rw [isInner, Except.ok.injEq] at inserted
  subst inserted isChanged
  exact different

/-- Whatever statements fail, the copies are handed out unless they cannot be made. -/
theorem handOut_fails_iff {session : Session Database (List Outbound)}
    {found : List Subscriber} :
    (∃ error, (handOut server storedBundle found session).1 = .error error) ↔
      ¬ Deliverable storedBundle found := by
  unfold handOut
  by_cases deliverable : Deliverable storedBundle found
  · rcases (deliver_tolerates deliverable : Tolerates _ session.database session.memory _)
      session.faults with ⟨value, changed, after, rest, ran, -⟩
    apply iff_of_false _ (not_not_intro deliverable)
    intro failed
    rcases failed with ⟨error, failed⟩
    rw [bind_ok ran] at failed
    cases failed
  · apply iff_of_true _ deliverable
    rw [bind_error (deliver_panics deliverable)]
    exact ⟨_, rfl⟩

/-- The delivery fails when the subscribers cannot be read or the copies cannot be made. -/
theorem deliverStored_fails_iff :
    (∃ error, (deliverStored server bundle storedBundle ⟨database, sent, faults⟩).1 =
        .error error) ↔
      ¬ Spared faults 2 ∨
        ¬ Deliverable storedBundle (otherSubscribers server bundle database) := by
  have found : ∀ wrap : DbError → ApiError,
      Answers (query wrap fun database => .ok (otherSubscribers server bundle database))
        database sent (otherSubscribers server bundle database) :=
    fun _ => answers_query.mpr rfl
  rw [deliverStored, (takes_connect _).bind_fails_iff (connect_answers _),
    (takes_query _ _).bind_fails_iff (found _), handOut_fails_iff, ← or_assoc, ← not_and_or,
    ← spared_add]

/-- Where the delivery fails it has written nothing. -/
theorem deliverStored_ensures :
    Ensures (deliverStored server bundle storedBundle) database sent fun result changed _ =>
      ∀ error, result = .error error → changed = database := by
  refine (looks_connect _).ensures_bind (fun _ _ _ => rfl) fun _ _ => ?_
  refine (looks_query _ _).ensures_bind (fun _ _ _ => rfl) fun found _ => ?_
  refine ensures_bind (ensures_mono ?_ deliver_ensures)
  intro result changed after delivered
  cases result with
  | error error =>
      rcases delivered with ⟨-, ⟨-, -, unchanged⟩ | ⟨-, copies, -⟩⟩
      · exact fun _ _ => unchanged
      · cases copies
  | ok copies =>
      rw [andThen_ok]
      refine ensures_bind ((ensures_remember _).mpr ?_)
      rw [andThen_ok, ensures_pure]
      intro error failed
      cases failed

/-- A publish fails late exactly when it fails with the bundle stored. -/
theorem failsLate_iff :
    FailsLate server pseudonymId bundle database faults ↔
      (∃ error, (publishHandler server pseudonymId bundle ⟨database, [], faults⟩).1 =
          .error error) ∧
        (publishHandler server pseudonymId bundle ⟨database, [], faults⟩).2.database.rtxBundles ≠
          database.rtxBundles := by
  rcases @publishHandler_cases _ _ server database pseudonymId bundle faults with
    ⟨-, unchanged, uncommitted⟩ | ⟨commits, scope, storedBundle, changed, enforced, stored, ran⟩
  · rw [unchanged]
    exact iff_of_false (fun late => uncommitted late.1) fun stored => stored.2 rfl
  · have same := stored.otherSubscribers bundle
    rw [FailsLate, ran, ← deliverable_enforceTransferScope enforced, ← same,
      ← deliverStored_fails_iff, and_iff_right commits]
    constructor
    · intro failed
      refine ⟨failed, ?_⟩
      rcases failed with ⟨error, failed⟩
      rw [deliverStored_ensures _ error failed]
      exact stored.rtxBundles_ne
    · exact fun failed => failed.1

/-- A publish that can be repeated after it failed would have gone through in the first place. -/
theorem published_of_succeedsAgain
    (unchanged : (publishHandler server pseudonymId bundle ⟨database, [], faults⟩).2.database =
      database) (again : SucceedsAgain server pseudonymId bundle database faults) :
    ∃ scope, Published server pseudonymId bundle database scope := by
  rcases again with ⟨delivered, session, ran, -⟩
  rw [unchanged] at ran
  have ensured := @publishHandler_ensures _ _ server database pseudonymId bundle []
  rw [ran] at ensured
  rcases ensured with ⟨scope, storedBundle, published, -⟩
  exact ⟨scope, published⟩

theorem Published.succeedsAgain (published : Published server pseudonymId bundle database scope)
    (unchanged : (publishHandler server pseudonymId bundle ⟨database, [], faults⟩).2.database =
      database) : SucceedsAgain server pseudonymId bundle database faults := by
  rcases @publishHandler_achieves _ _ server database [] pseudonymId bundle _ published with
    ⟨delivered, changed, after, ran, -⟩
  have ensured := @publishHandler_ensures _ _ server database pseudonymId bundle []
  rw [ran] at ensured
  rcases ensured with ⟨_, storedBundle, -, enforced, -, copies, -⟩
  rw [SucceedsAgain, unchanged]
  refine ⟨delivered, _, ran, ?_⟩
  intro pseudonym other recipient
  rw [show after = _ from copies]
  exact OtherRecipient.copied recipient enforced

/-- Where nothing is stored nothing is left. -/
theorem leavesNothing_of_unchanged {error : ApiError}
    (failed : (publishHandler server pseudonymId bundle ⟨database, [], faults⟩).1 = .error error)
    (unchanged : (publishHandler server pseudonymId bundle ⟨database, [], faults⟩).2.database =
      database) : LeavesNothing server pseudonymId bundle database faults := by
  rw [LeavesNothing, unchanged]
  refine ⟨rfl, rfl, ?_⟩
  intro relayDatabase relayFaults
  have ensured := @publishHandler_ensures _ _ server database pseudonymId bundle faults
  rw [failed] at ensured
  unfold publishedCopies
  dsimp only
  rw [failed]
  exact ensured.1

/-- A publish that fails leaves nothing exactly when it does not fail late; and it is all or
nothing exactly when it would have gone through without failures and does not fail late. -/
theorem publish_all_or_nothing_iff (server : FederationServer Fq Key) (pseudonymId : String)
    (bundle : ReflectionSummaryBundle) (database : Database) (faults : List (Option String)) :
    ((∀ error, (publishHandler server pseudonymId bundle ⟨database, [], faults⟩).1 =
          .error error → LeavesNothing server pseudonymId bundle database faults) ↔
        ¬ FailsLate server pseudonymId bundle database faults) ∧
      (AllOrNothing server pseudonymId bundle database faults ↔
        (∃ scope, Published server pseudonymId bundle database scope) ∧
          ¬ FailsLate server pseudonymId bundle database faults) := by
  have unchanged : ∀ error, (publishHandler server pseudonymId bundle
      ⟨database, [], faults⟩).1 = .error error →
        ¬ FailsLate server pseudonymId bundle database faults →
          (publishHandler server pseudonymId bundle ⟨database, [], faults⟩).2.database =
            database := by
    intro error failed timely
    rcases @publishHandler_cases _ _ server database pseudonymId bundle faults with
      ⟨-, unchanged, -⟩ | ⟨-, scope, storedBundle, changed, -, stored, ran⟩
    · exact unchanged
    · apply absurd (failsLate_iff.mpr ⟨⟨error, failed⟩, _⟩) timely
      rw [ran] at failed ⊢
      rw [deliverStored_ensures _ error failed]
      exact stored.rtxBundles_ne
  have timely : (∀ error, (publishHandler server pseudonymId bundle
      ⟨database, [], faults⟩).1 = .error error →
        LeavesNothing server pseudonymId bundle database faults) →
          ¬ FailsLate server pseudonymId bundle database faults := by
    intro nothing late
    rcases failsLate_iff.mp late with ⟨⟨error, failed⟩, stored⟩
    exact stored (nothing error failed).1
  refine ⟨⟨timely, ?_⟩, ?_, ?_⟩
  · intro notLate error failed
    exact leavesNothing_of_unchanged failed (unchanged error failed notLate)
  · intro allOrNothing
    have notLate := timely fun error failed => (allOrNothing error failed).1
    refine ⟨?_, notLate⟩
    cases answered : (publishHandler server pseudonymId bundle ⟨database, [], faults⟩).1 with
    | error error =>
        exact published_of_succeedsAgain (unchanged error answered notLate)
          (allOrNothing error answered).2
    | ok delivered =>
        have ensured := @publishHandler_ensures _ _ server database pseudonymId bundle faults
        rw [answered] at ensured
        rcases ensured with ⟨scope, storedBundle, published, -⟩
        exact ⟨scope, published⟩
  · intro condition error failed
    rcases condition with ⟨⟨scope, published⟩, notLate⟩
    have same := unchanged error failed notLate
    exact ⟨leavesNothing_of_unchanged failed same, published.succeedsAgain same⟩

/-- The subscribers cannot be read once the bundle is stored: it stays, and is refused when it
is published again. -/
theorem not_publish_all_or_nothing :
    ¬ ∀ (server : FederationServer Unit Unit) (pseudonymId : String)
      (bundle : ReflectionSummaryBundle) (database : Database)
      (faults : List (Option String)), AllOrNothing server pseudonymId bundle database faults := by
  intro allOrNothing
  have busy := allOrNothing restrictedServer "agent" chainedBundle subscribedDatabase
    [none, none, none, none, none, none, some "disk I/O error"]
  have failed : (publishHandler restrictedServer "agent" chainedBundle ⟨subscribedDatabase, [],
      [none, none, none, none, none, none, some "disk I/O error"]⟩).1 =
        .error (.internalServerError "db prepare failed: disk I/O error") := by
    decide +kernel
  have stored : (publishHandler restrictedServer "agent" chainedBundle ⟨subscribedDatabase, [],
      [none, none, none, none, none, none, some "disk I/O error"]⟩).2.database.rtxBundles ≠
        subscribedDatabase.rtxBundles := by
    decide +kernel
  exact stored (busy _ failed).1.1

end Annex.Server
