import Annex.Server.Config
import Annex.Server.Join
import Annex.Server.MessageRelay

namespace Annex.Server

open Channels Db Sql

/-! Joining the voice of a channel. A failure is answered with a status and a text. -/

namespace VoiceService

end VoiceService

open Identity

/-! The proof of a request and who sends it. Three handlers look up the commitment of the
pseudonym and check the proof of the header against it before anything else. -/

variable {Fq Key : Type} (server : ChannelServer Fq Key)

/-- A commitment is registered for a pseudonym by the lookup columns of a row or, where a
row has none, as that of an identity with the row's nullifier. -/
inductive RegisteredCommitment (environment : Environment) (database : Database) :
    (pseudonymId commitment : String) → Prop where
  | columns {pseudonymId commitment : String} (row : ZkNullifier) :
      row ∈ database.zkNullifiers.rows → row.pseudonymId = some pseudonymId →
        row.commitmentHex = some commitment →
          RegisteredCommitment environment database pseudonymId commitment
  | nullifier {pseudonymId : String} (row : ZkNullifier) (identity : VrpIdentity) :
      row ∈ database.zkNullifiers.rows → row.pseudonymId = none →
        derivePseudonymId environment row.topic row.nullifierHex = .ok pseudonymId →
          identity ∈ database.vrpIdentities.rows →
            deriveNullifierHex environment identity.commitmentHex row.topic =
              .ok row.nullifierHex →
              RegisteredCommitment environment database pseudonymId identity.commitmentHex

section Lookup

variable {environment : Environment} {database : Database} {pseudonymId : String}

theorem registered_of_findSome?_columns {found : String × String}
    (fast : (database.zkNullifiers.rows.findSome? fun row =>
      if row.pseudonymId = some pseudonymId then
        row.commitmentHex.map fun commitment => (commitment, row.topic)
      else none) = some found) :
    RegisteredCommitment environment database pseudonymId found.1 := by
  rcases List.exists_of_findSome?_eq_some fast with ⟨row, member, columns⟩
  split at columns
  · next named =>
    rcases Option.map_eq_some_iff.mp columns with ⟨commitment, stored, rfl⟩
    exact .columns row member named stored
  · cases columns

theorem candidate_iff {row : ZkNullifier} :
    (row ∈ database.zkNullifiers.rows.filter fun row =>
        row.pseudonymId = none && derivesPseudonym environment pseudonymId row) ↔
      row ∈ database.zkNullifiers.rows ∧ row.pseudonymId = none ∧
        derivePseudonymId environment row.topic row.nullifierHex = .ok pseudonymId := by
  simp only [List.mem_filter, Bool.and_eq_true, decide_eq_true_eq, derivesPseudonym_iff]

theorem registered_of_findSome?_candidates {found : String × String}
    (slow : ((database.zkNullifiers.rows.filter fun row =>
        row.pseudonymId = none && derivesPseudonym environment pseudonymId row).findSome?
      fun row => ((database.vrpIdentities.rows.map VrpIdentity.commitmentHex).find?
        (derivesNullifier environment row)).map fun commitment => (commitment, row.topic)) =
      some found) :
    RegisteredCommitment environment database pseudonymId found.1 := by
  rcases List.exists_of_findSome?_eq_some slow with ⟨row, candidate, named⟩
  rcases Option.map_eq_some_iff.mp named with ⟨commitment, looked, rfl⟩
  rcases List.mem_map.mp (List.mem_of_find?_eq_some looked) with ⟨identity, registered, rfl⟩
  rcases candidate_iff.mp candidate with ⟨member, unset, derived⟩
  exact .nullifier row identity member unset derived registered
    (derivesNullifier_iff.mp (List.find?_some looked))

/-- Where neither search finds a commitment none is registered. -/
theorem not_registered_of_eq_none
    (fast : (database.zkNullifiers.rows.findSome? fun row =>
      if row.pseudonymId = some pseudonymId then
        row.commitmentHex.map fun commitment => (commitment, row.topic)
      else none) = none)
    (slow : ((database.zkNullifiers.rows.filter fun row =>
        row.pseudonymId = none && derivesPseudonym environment pseudonymId row).findSome?
      fun row => ((database.vrpIdentities.rows.map VrpIdentity.commitmentHex).find?
        (derivesNullifier environment row)).map fun commitment => (commitment, row.topic)) =
      none) (commitment : String) :
    ¬ RegisteredCommitment environment database pseudonymId commitment := by
  intro registered
  cases registered with
  | columns row member named stored =>
      have missing := List.findSome?_eq_none_iff.mp fast row member
      rw [if_pos named, stored] at missing
      cases missing
  | nullifier row identity member unset derived known derives =>
      have missing := List.findSome?_eq_none_iff.mp slow row
        (candidate_iff.mpr ⟨member, unset, derived⟩)
      rw [Option.map_eq_none_iff, List.find?_eq_none] at missing
      exact missing identity.commitmentHex (List.mem_map_of_mem known)
        (derivesNullifier_iff.mpr derives)

/-- The commitment that is found is registered, and none is found only where none is. -/
theorem findCommitmentForPseudonym_registered {Memory : Type} {memory : Memory}
    {found : Option (String × String)}
    (answered : Answers (findCommitmentForPseudonym environment pseudonymId) database memory
      found) :
    (∀ pair, found = some pair → RegisteredCommitment environment database pseudonymId pair.1) ∧
      (found = none →
        ∀ commitment, ¬ RegisteredCommitment environment database pseudonymId commitment) := by
  unfold findCommitmentForPseudonym at answered
  rcases (answers_bind (looks_query _ _)).mp answered with ⟨fast, read, rest⟩
  have looked := answers_query.mp read
  rw [Except.ok.injEq] at looked
  cases fast with
  | some pair =>
      have result := answers_pure.mp rest
      subst result
      exact ⟨fun _ same => Option.some.inj same ▸ registered_of_findSome?_columns looked,
        fun none => nomatch none⟩
  | none =>
      rcases (answers_bind (looks_query _ _)).mp rest with ⟨candidates, candidatesRead, last⟩
      have same := answers_query.mp candidatesRead
      rw [Except.ok.injEq] at same
      subst same
      split at last
      · next empty =>
        have result := answers_pure.mp last
        subst result
        refine ⟨fun _ same => (nomatch same), fun _ => not_registered_of_eq_none looked ?_⟩
        rw [empty, List.findSome?_nil]
      · rcases (answers_bind (looks_query _ _)).mp last with ⟨commitments, known, final⟩
        have identities := answers_query.mp known
        rw [Except.ok.injEq] at identities
        subst identities
        have result := answers_pure.mp final
        subst result
        exact ⟨fun _ same => registered_of_findSome?_candidates same,
          not_registered_of_eq_none looked⟩

end Lookup

section Check

variable {server} {database : Database} {pseudonymId : String}
  {header : Option (JsonText ZkProofPayload)}

end Check

section Sample

/-! The enforcing server of one registered member, whose proof is the only one its curve
accepts, and a pseudonym no commitment is registered for. -/

end Sample

end Annex.Server
