import Annex.Server.FederationCorrectness
import Annex.Server.IdentityFetch

namespace Annex.Server

open Db Federation Identity Interleaving Sql

/-! Where the right to moderate comes from. Every step that makes an identity a moderator is
one of the documented sources, as long as the recovery rules act on what they have checked
and on active identities. -/

variable {Fq Key : Type}

/-- The identity is a moderator after a step, and was none before it. -/
structure BecomesModerator (before after : Database) (identity : PlatformIdentity) :
    Prop where
  member : identity ∈ after.platformIdentities.rows
  moderates : identity.canModerate = true
  before : ∀ old ∈ before.platformIdentities.rows, old.id = identity.id →
    old.canModerate = false

/-- The server has no active moderator. -/
def NoActiveModerator (serverId : Nat) (database : Database) : Prop :=
  ∀ row ∈ database.platformIdentities.rows, row.serverId = serverId → row.active = true →
    row.canModerate = false

/-- No active moderator of the server has a node that was seen after the cutoff. -/
def NoModeratorSeen (serverId : Nat) (cutoff : String) (database : Database) : Prop :=
  ∀ row ∈ database.platformIdentities.rows, row.serverId = serverId → row.active = true →
    row.canModerate = true → ∀ node ∈ database.graphNodes.rows,
      node.serverId = serverId → node.pseudonymId = row.pseudonymId →
        ∀ seen, node.lastSeenAt = some seen → ¬ cutoff < seen

/-- The documented sources: the first identity of a server, a grant, and the two recovery
rules, which promote active identities. -/
inductive Documented (database : Database) (identity : PlatformIdentity) :
    IdentityCall Fq Key → Prop where
  | first {participantType : RoleCode} :
      (∀ row ∈ database.platformIdentities.rows, row.serverId ≠ identity.serverId) →
        Documented database identity
          (.first (.create identity.serverId identity.pseudonymId participantType))
  | grant {caps : Capabilities} : caps.canModerate = true →
      Documented database identity
        (.first (.updateCapabilities identity.serverId identity.pseudonymId caps))
  | founder {reader : PlatformIdentity} {checkedWith : Database} :
      NoActiveModerator identity.serverId database → identity.active = true →
        Documented database identity
          (.promoteEarliest identity.serverId reader checkedWith)
  | stale {cutoff : String} {checkedWith : Database} :
      NoModeratorSeen identity.serverId cutoff database → identity.active = true →
        Documented database identity
          (.promoteRequested identity.serverId identity.pseudonymId cutoff checkedWith)

namespace Identities

/-- Whoever becomes a moderator in a step does so by a documented source. -/
def StepDocumented (state : Identities Fq Key) (label : IdentityLabel Fq Key) : Prop :=
  ∀ identity, BecomesModerator state.shared.database
      (step (identityProgram Fq Key) state label).shared.database identity →
    ∃ id input call, label = .advance id input ∧ state.calls id = some call ∧
      Documented state.shared.database identity call

/-- When the `UPDATE` of a recovery rule runs, its check would still get the answer it got,
and the identity that the rule for stale moderators names is active. -/
def RulesApply (state : Identities Fq Key) : IdentityLabel Fq Key → Prop
  | .start _ _ => True
  | .advance id _ =>
      match state.calls id with
      | some (.promoteEarliest serverId _ checkedWith) =>
          hasModerator serverId state.shared.database = hasModerator serverId checkedWith
      | some (.promoteRequested serverId pseudonymId cutoff checkedWith) =>
          hasLiveModerator serverId cutoff state.shared.database =
              hasLiveModerator serverId cutoff checkedWith ∧
            ∀ row ∈ state.shared.database.platformIdentities.rows,
              hasPseudonym serverId pseudonymId row = true → row.active = true
      | _ => True

/-- A recovery rule goes on to its `UPDATE` only where its check found no moderator. -/
def CheckedCall : IdentityCall Fq Key → Prop
  | .promoteEarliest serverId _ checkedWith => hasModerator serverId checkedWith = false
  | .promoteRequested serverId _ cutoff checkedWith =>
      hasLiveModerator serverId cutoff checkedWith = false
  | _ => True

end Identities

section Checks

variable {database : Database} {serverId : Nat}

theorem hasModerator_eq_false_iff :
    hasModerator serverId database = false ↔ NoActiveModerator serverId database := by
  simp only [hasModerator, List.any_eq_false, Bool.and_eq_true, decide_eq_true_eq, not_and,
    Bool.not_eq_true, NoActiveModerator]
  constructor
  · intro none row member server active
    by_contra moderates
    rw [Bool.not_eq_false] at moderates
    rw [none row member ⟨server, moderates⟩] at active
    cases active
  · intro none row member owned
    by_contra active
    rw [Bool.not_eq_false] at active
    have plain := none row member owned.1 active
    rw [owned.2] at plain
    cases plain

theorem noModeratorSeen_of_hasLiveModerator {cutoff : String}
    (checked : hasLiveModerator serverId cutoff database = false) :
    NoModeratorSeen serverId cutoff database := by
  intro row member server active moderates node nodeMember nodeServer named seen last later
  have missing := List.any_eq_false.mp checked row member
  refine missing ?_
  simp only [server, moderates, active, decide_true, Bool.and_true, Bool.true_and,
    List.any_eq_true, Bool.and_eq_true, decide_eq_true_eq]
  refine ⟨node, nodeMember, ⟨nodeServer, named⟩, ?_⟩
  rw [last, Option.any_some, decide_eq_true_eq]
  exact later

end Checks

/-! What each write does to the moderators. -/

section Writes

variable {database changed : Database} {identity : PlatformIdentity} {serverId : Nat}
  {pseudonymId : String}

/-- Who was a moderator before does not become one. -/
theorem BecomesModerator.not_moderator (becomes : BecomesModerator database changed identity)
    {row : PlatformIdentity} (member : row ∈ database.platformIdentities.rows)
    (same : row.id = identity.id) (moderates : row.canModerate = true) : False := by
  have plain := becomes.before row member same
  rw [moderates] at plain
  cases plain

theorem not_becomesModerator_of_eq
    (same : changed.platformIdentities = database.platformIdentities) :
    ¬ BecomesModerator database changed identity := by
  intro becomes
  have member := becomes.member
  rw [same] at member
  exact becomes.not_moderator member rfl becomes.moderates

/-- After an `UPDATE` that keeps the keys, a new moderator is a selected row, changed. -/
theorem BecomesModerator.of_updateWhere {selected : PlatformIdentity → Bool}
    {change : PlatformIdentity → PlatformIdentity} {keyed : ∀ row, key (change row) = key row}
    (becomes : BecomesModerator database
      { database with
        platformIdentities := database.platformIdentities.updateWhere selected change keyed }
      identity) :
    ∃ row ∈ database.platformIdentities.rows, selected row = true ∧ change row = identity ∧
      row.canModerate = false := by
  rcases (@Table.mem_updateWhere _ _ _ _ _ keyed _).mp becomes.member with
    ⟨row, member, same⟩
  split at same
  · next chosen =>
    subst same
    exact ⟨row, member, chosen, rfl, becomes.before row member (keyed row).symm⟩
  · subst same
    exact (becomes.not_moderator member rfl becomes.moderates).elim

theorem hasPseudonym_iff {row : PlatformIdentity} :
    hasPseudonym serverId pseudonymId row = true ↔
      row.serverId = serverId ∧ row.pseudonymId = pseudonymId := by
  simp [hasPseudonym]

/-- The first identity of a server is created as a moderator, and no other one is. -/
theorem createPlatformIdentity_moderators {Memory : Type} {memory : Memory}
    {participantType : RoleCode} :
    Ensures (createPlatformIdentity serverId pseudonymId participantType) database memory
      fun _ changed _ => ∀ identity, BecomesModerator database changed identity →
        identity.serverId = serverId ∧ identity.pseudonymId = pseudonymId ∧
          ∀ row ∈ database.platformIdentities.rows, row.serverId ≠ serverId := by
  have unchanged : ∀ identity, BecomesModerator database database identity →
      identity.serverId = serverId ∧ identity.pseudonymId = pseudonymId ∧
        ∀ row ∈ database.platformIdentities.rows, row.serverId ≠ serverId :=
    fun _ becomes => (not_becomesModerator_of_eq rfl becomes).elim
  refine ensures_bind (ensures_execute (fun _ => unchanged) ?_ fun _ _ => unchanged)
  intro changed inserted
  have created : ∀ identity, BecomesModerator database changed identity →
      identity.serverId = serverId ∧ identity.pseudonymId = pseudonymId ∧
        ∀ row ∈ database.platformIdentities.rows, row.serverId ≠ serverId := by
    intro identity becomes
    unfold insertPlatformIdentity at inserted
    split at inserted
    · cases inserted
    · cases inserted
      rcases Table.mem_insert.mp becomes.member with old | new
      · exact (becomes.not_moderator old rfl becomes.moderates).elim
      · have founder := becomes.moderates
        rw [new, Bool.not_eq_true', List.any_eq_false] at founder
        rw [new]
        exact ⟨rfl, rfl, fun row member => by simpa using founder row member⟩
  rw [andThen_ok]
  exact ensures_query (fun _ => created) (fun _ _ => created) fun _ _ => created

theorem updateIdentity_ensures {Memory : Type} {memory : Memory}
    {change : PlatformIdentity → PlatformIdentity}
    {keyed : ∀ row, key (change row) = key row} :
    Ensures (updateIdentity serverId pseudonymId change keyed) database memory
      fun _ changed _ => changed = database ∨
        changed =
          { database with
            platformIdentities := database.platformIdentities.updateWhere
              (hasPseudonym serverId pseudonymId) change keyed } := by
  refine ensures_bind (ensures_statement (fun _ => Or.inl rfl) ?_ fun _ _ => Or.inl rfl)
  intro value changed updated
  cases updated
  rw [andThen_ok]
  exact ensures_check (fun _ => Or.inr rfl) fun _ => Or.inr rfl

/-- An update makes moderators of the named identity only, as far as it grants the right. -/
theorem updateCapabilities_moderators {Memory : Type} {memory : Memory}
    {caps : Capabilities} :
    Ensures (updateCapabilities serverId pseudonymId caps) database memory
      fun _ changed _ => ∀ identity, BecomesModerator database changed identity →
        identity.serverId = serverId ∧ identity.pseudonymId = pseudonymId ∧
          caps.canModerate = true := by
  refine ensures_mono ?_ updateIdentity_ensures
  intro _ changed _ outcome identity becomes
  rcases outcome with rfl | rfl
  · exact (not_becomesModerator_of_eq rfl becomes).elim
  · rcases becomes.of_updateWhere with ⟨row, _, named, rfl, _⟩
    exact ⟨(hasPseudonym_iff.mp named).1, (hasPseudonym_iff.mp named).2, becomes.moderates⟩

theorem deactivatePlatformIdentity_moderators {Memory : Type} {memory : Memory} :
    Ensures (deactivatePlatformIdentity serverId pseudonymId) database memory
      fun _ changed _ => ∀ identity, ¬ BecomesModerator database changed identity := by
  refine ensures_mono ?_ updateIdentity_ensures
  intro _ changed _ outcome identity becomes
  rcases outcome with rfl | rfl
  · exact not_becomesModerator_of_eq rfl becomes
  · rcases becomes.of_updateWhere with ⟨row, _, _, rfl, plain⟩
    have moderates : row.canModerate = true := becomes.moderates
    rw [plain] at moderates
    cases moderates

theorem attestMembershipHandler_moderators {server : FederationServer Fq Key}
    {payload : AttestationRequest} {sent : List Outbound} :
    Ensures (attestMembershipHandler server payload) database sent
      fun _ changed _ => ∀ identity, ¬ BecomesModerator database changed identity := by
  refine ensures_mono ?_ (attestMembershipHandler_ensures payload)
  intro _ changed _ outcome identity becomes
  rcases outcome with rfl | ⟨remote, remoteRootHex, attestedId, nodeType, -, -, -, rfl⟩
  · exact not_becomesModerator_of_eq rfl becomes
  · have upserted : BecomesModerator database
        (upsertAttestedPlatformIdentity server attestedId payload.participantType database)
        identity :=
      ⟨becomes.member, becomes.moderates, becomes.before⟩
    unfold upsertAttestedPlatformIdentity Table.upsert at upserted
    split at upserted
    · rcases upserted.of_updateWhere with ⟨row, _, _, rfl, plain⟩
      have moderates : row.canModerate = true := upserted.moderates
      rw [plain] at moderates
      cases moderates
    · rcases Table.mem_insert.mp upserted.member with old | new
      · exact upserted.not_moderator old rfl upserted.moderates
      · have moderates := upserted.moderates
        rw [new] at moderates
        cases moderates

/-- The rule for servers without a moderator promotes an active identity of its server. -/
theorem promoteEarliest_moderators {Memory : Type} {memory : Memory} :
    Ensures (promoteEarliest serverId) database memory fun _ changed _ =>
      ∀ identity, BecomesModerator database changed identity →
        identity.serverId = serverId ∧ identity.active = true := by
  have unchanged : ∀ identity, BecomesModerator database database identity →
      identity.serverId = serverId ∧ identity.active = true :=
    fun _ becomes => (not_becomesModerator_of_eq rfl becomes).elim
  refine ensures_statement (fun _ => unchanged) ?_ fun _ _ => unchanged
  intro value changed updated identity becomes
  cases updated
  rcases becomes.of_updateWhere with ⟨row, member, chosen, rfl, _⟩
  rcases Option.map_eq_some_iff.mp (of_decide_eq_true chosen) with ⟨earliest, found, same⟩
  have unique : earliest = row := database.platformIdentities.eq_of_key
    (List.mem_of_find?_eq_some found) member same
  have active := List.find?_some found
  rw [unique, Bool.and_eq_true, decide_eq_true_eq] at active
  exact active

theorem promoteRequested_moderators {sent : List Outbound} :
    Ensures (promoteRequested serverId pseudonymId) database sent fun _ changed _ =>
      ∀ identity, BecomesModerator database changed identity →
        ∃ row ∈ database.platformIdentities.rows,
          hasPseudonym serverId pseudonymId row = true ∧ identity = grantFounder row := by
  have unchanged : ∀ identity, BecomesModerator database database identity →
      ∃ row ∈ database.platformIdentities.rows,
        hasPseudonym serverId pseudonymId row = true ∧ identity = grantFounder row :=
    fun _ becomes => (not_becomesModerator_of_eq rfl becomes).elim
  refine ensures_execute (fun _ => unchanged) ?_ fun _ _ => unchanged
  intro changed updated identity becomes
  cases updated
  rcases becomes.of_updateWhere with ⟨row, member, named, same, _⟩
  exact ⟨row, member, named, same.symm⟩

end Writes

namespace Identities

variable {state : IdentityState} {input : IdentityInput}

/-- The first step of a request makes a moderator by the first identity of a server or by a
grant. -/
theorem actRequest_documented {request : IdentityRequest Fq Key} {identity : PlatformIdentity}
    (becomes : BecomesModerator state.database
      (IdentityCall.actRequest input state request).1.database identity) :
    Documented state.database identity (.first request) := by
  cases request with
  | create serverId pseudonymId participantType =>
      rcases createPlatformIdentity_moderators input.faults identity becomes with
        ⟨rfl, rfl, only⟩
      exact .first only
  | attest server payload =>
      exact (attestMembershipHandler_moderators input.faults identity becomes).elim
  | deactivate serverId pseudonymId =>
      exact (deactivatePlatformIdentity_moderators input.faults identity becomes).elim
  | updateCapabilities serverId pseudonymId caps =>
      rcases updateCapabilities_moderators input.faults identity becomes with
        ⟨rfl, rfl, granted⟩
      exact .grant granted
  | fetch serverId pseudonymId =>
      have same : (@IdentityCall.actRequest Fq Key input state
          (.fetch serverId pseudonymId)).1.database = state.database := by
        unfold IdentityCall.actRequest
        dsimp only
        split
        · rfl
        · split <;> rfl
      exact (not_becomesModerator_of_eq (by rw [same]) becomes).elim
  | elsewhere write => exact (not_becomesModerator_of_eq (by rfl) becomes).elim

/-- A step that follows the rules makes a moderator by a documented source. -/
theorem act_documented {call : IdentityCall Fq Key} {calls : Nat → Option (IdentityCall Fq Key)}
    {id : Nat} {identity : PlatformIdentity} (found : calls id = some call)
    (checked : CheckedCall call) (applies : RulesApply ⟨state, calls⟩ (.advance id input))
    (becomes : BecomesModerator state.database (call.act input state).1.database identity) :
    Documented state.database identity call := by
  simp only [RulesApply, found] at applies
  cases call with
  | first request => exact actRequest_documented becomes
  | findModerator serverId reader =>
      have same : (@IdentityCall.act Fq Key input state
          (.findModerator serverId reader)).1.database = state.database := by
        unfold IdentityCall.act
        dsimp only
        split <;> rfl
      exact (not_becomesModerator_of_eq (by rw [same]) becomes).elim
  | promoteEarliest serverId reader checkedWith =>
      have ran : BecomesModerator state.database
          (state.ran () (promoteEarliest serverId) input.faults).database identity := by
        unfold IdentityCall.act at becomes
        dsimp only at becomes
        split at becomes
        · exact (not_becomesModerator_of_eq rfl becomes).elim
        · exact becomes
      rcases promoteEarliest_moderators input.faults identity ran with ⟨rfl, active⟩
      exact .founder (hasModerator_eq_false_iff.mp (applies.trans checked)) active
  | findLiveModerator serverId reader =>
      have same : (@IdentityCall.act Fq Key input state
          (.findLiveModerator serverId reader)).1.database = state.database := by
        unfold IdentityCall.act
        dsimp only
        split <;> rfl
      exact (not_becomesModerator_of_eq (by rw [same]) becomes).elim
  | promoteRequested serverId pseudonymId cutoff checkedWith =>
      have ran : BecomesModerator state.database
          (state.ran [] (promoteRequested serverId pseudonymId) input.faults).database
          identity := by
        unfold IdentityCall.act at becomes
        dsimp only at becomes
        split at becomes
        · exact (not_becomesModerator_of_eq rfl becomes).elim
        · exact becomes
      rcases promoteRequested_moderators input.faults identity ran with
        ⟨row, member, named, rfl⟩
      have active := applies.2 row member named
      rcases hasPseudonym_iff.mp named with ⟨rfl, rfl⟩
      exact .stale (noModeratorSeen_of_hasLiveModerator (applies.1.trans checked)) active
  | reread serverId pseudonymId => exact (not_becomesModerator_of_eq rfl becomes).elim

/-- The rest of a call has checked what it needs. -/
theorem act_checked {call rest : IdentityCall Fq Key}
    (continues : (call.act input state).2 = some rest) : CheckedCall rest := by
  cases call with
  | first request =>
      cases request with
      | fetch serverId pseudonymId =>
          simp only [IdentityCall.act, IdentityCall.actRequest] at continues
          split at continues
          · cases continues
          · split at continues
            · cases continues
            · cases continues
              trivial
      | _ => cases continues
  | findModerator serverId reader =>
      simp only [IdentityCall.act] at continues
      split at continues
      · cases continues
      · cases continues
        trivial
      · next answered =>
        cases continues
        have read := read_of_query_ok answered
        rwa [Except.ok.injEq] at read
  | promoteEarliest serverId reader checkedWith =>
      simp only [IdentityCall.act] at continues
      split at continues
      · cases continues
      · split at continues
        · cases continues
          trivial
        · cases continues
          trivial
  | findLiveModerator serverId reader =>
      simp only [IdentityCall.act] at continues
      split at continues
      · cases continues
      · cases continues
      · next answered =>
        cases continues
        have read := read_of_query_ok answered
        rwa [Except.ok.injEq] at read
  | promoteRequested serverId pseudonymId cutoff checkedWith =>
      simp only [IdentityCall.act] at continues
      split at continues
      · cases continues
      · cases continues
        trivial
  | reread serverId pseudonymId => cases continues

/-- Every call in progress has checked what it needs. -/
theorem checked_step (state : Identities Fq Key) (label : IdentityLabel Fq Key)
    (checked : Sound (fun _ => True) CheckedCall state) (applies : RulesApply state label) :
    Sound (fun _ => True) CheckedCall (step (identityProgram Fq Key) state label) := by
  refine sound_step (fun _ _ => trivial) ?_ state label checked applies
  intro state id call input shared next _ _ acts _
  have continues := congrArg Prod.snd (Option.some.inj acts)
  exact ⟨trivial, fun rest same => act_checked (continues.trans same)⟩

/-- A step that follows the rules is documented. -/
theorem step_documented (state : Identities Fq Key) (label : IdentityLabel Fq Key)
    (checked : Sound (fun _ => True) CheckedCall state) (applies : RulesApply state label) :
    StepDocumented state label := by
  intro identity becomes
  cases label with
  | start id request =>
      have same : (step (identityProgram Fq Key) state (.start id request)).shared =
          state.shared := by
        rw [step]
        split <;> rfl
      rw [same] at becomes
      exact (not_becomesModerator_of_eq rfl becomes).elim
  | advance id input =>
      cases found : state.calls id with
      | none =>
          rw [step, found] at becomes
          exact (not_becomesModerator_of_eq rfl becomes).elim
      | some call =>
          simp only [step, found, identityProgram] at becomes
          exact ⟨id, input, call, rfl, found,
            act_documented found (checked.calls id call found) applies becomes⟩

open Execution

/-- In a run in which the recovery rules apply whenever their `UPDATE`s run, nobody becomes a
moderator but by a documented source. -/
theorem documented_of_rulesApply {database : Database} {labels : List (IdentityLabel Fq Key)}
    (follows : Guarded (step (identityProgram Fq Key)) RulesApply (idle ⟨database, []⟩)
      labels) :
    Guarded (step (identityProgram Fq Key)) StepDocumented (idle ⟨database, []⟩) labels :=
  guarded_of_invariant (Sound (fun _ => True) CheckedCall) checked_step step_documented
    (sound_idle trivial) follows

section Sample

/-! A moderator that was never seen, and an identity without rights. -/

def platformIdentity (pseudonymId : String) (canModerate active : Bool) (id : Nat) :
    PlatformIdentity :=
  ⟨id, 1, pseudonymId, "HUMAN", false, canModerate, false, false, false, active⟩

def twoIdentities (moderatorActive otherActive : Bool) : Database :=
  { migrated with
    platformIdentities := (Table.empty.insert (platformIdentity "alice" true
      moderatorActive)).insert (platformIdentity "bob" false otherActive) }

def readOfBob (steps : Nat) : List (IdentityLabel Unit Unit) :=
  .start 0 (.fetch 1 "bob") :: List.replicate steps (.advance 0 ⟨[], ""⟩)

/-- A read on a server whose only moderator is inactive promotes the reader. -/
theorem documented_of_rulesApply_founder :
    Guarded (step (identityProgram Unit Unit)) StepDocumented
      (idle ⟨twoIdentities false true, []⟩) (readOfBob 4) := by
  apply documented_of_rulesApply
  exact ⟨trivial, trivial, trivial, rfl, trivial, trivial⟩

/-- A read of an inactive identity, on a server whose moderator was never seen, promotes the
inactive identity. -/
theorem not_documented_of_inactive :
    ¬ ∀ (database : Database) (labels : List (IdentityLabel Unit Unit)),
      Guarded (step (identityProgram Unit Unit)) StepDocumented (idle ⟨database, []⟩)
        labels := by
  intro documented
  have promotes := (documented (twoIdentities true false) (readOfBob 4)).2.2.2.2.1
  have becomes : BecomesModerator (twoIdentities true false)
      (promoteRequested 1 "bob" ⟨twoIdentities true false, [], []⟩).2.database
      (grantFounder (platformIdentity "bob" false false 2)) := by
    refine ⟨by decide +kernel, rfl, ?_⟩
    intro old member same
    rcases List.mem_pair.mp member with rfl | rfl
    · cases same
    · rfl
  rcases promotes _ becomes with ⟨id, input, call, sameLabel, found, source⟩
  cases sameLabel
  cases found
  cases source with
  | stale _ active => cases active

end Sample

end Identities

end Annex.Server
