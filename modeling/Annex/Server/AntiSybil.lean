import Annex.Identity.RegistryCorrectness
import Annex.Server.VerifyMembership
import Mathlib.Logic.Equiv.Basic

namespace Annex.Server

open Db Identity Sql

/-! Registrations and membership verifications in any order. A pseudonym belongs
to the text of a commitment; proofs and the tree only see the field element. -/

/-- The field element a text of hexadecimal digits denotes. -/
def fieldElement (commitmentHex : String) : Option Fr :=
  (Hex.decode commitmentHex).map frFromBeBytesModOrder

/-- A pseudonym as it was handed out. -/
structure Issued where
  topic : String
  commitment : String
  pseudonymId : String
deriving DecidableEq, Repr

/-- The tree in memory, the database, and the pseudonyms handed out so far. -/
structure Issuance where
  tree : MerkleTree Fr
  database : Database
  issued : List Issued

/-- A call, the clock while it runs, and which of its statements fail. -/
inductive IssuanceCall where
  | register (commitmentHex : String) (role : RoleCode) (nodeId : Int) (now : String)
      (faults : List (Option String))
  | verify (payload : VerifyMembershipRequest) (now : String)
      (faults : List (Option String))
deriving DecidableEq

namespace Issuance

variable {Fq Key : Type} (environment : Environment) (H : Fr → Fr → Fr)
  (curve : Curve Fq Key) (membershipVkey : Key) (stateServerId : Nat)

/-- The server before any identity is registered. -/
def initial (depth : Nat) (database : Database) : Issuance :=
  ⟨MerkleTree.new H depth, database, []⟩

/-- Run a call, and note the pseudonym an accepted verification hands out. -/
def step (state : Issuance) : IssuanceCall → Issuance
  | .register commitmentHex role nodeId now faults =>
      let after := (registerIdentity H now commitmentHex role nodeId
        ⟨state.database, state.tree, faults⟩).2
      ⟨after.memory, after.database, state.issued⟩
  | .verify payload now faults =>
      match verifyMembershipHandler environment curve membershipVkey now stateServerId
          payload ⟨state.database, [], faults⟩ with
      | (.ok pseudonymId, after) =>
          ⟨state.tree, after.database,
            state.issued ++ [⟨payload.topic, payload.commitment, pseudonymId⟩]⟩
      | (.error _, after) => ⟨state.tree, after.database, state.issued⟩

/-- A registration brings no second text of a field element that is registered. -/
def NewElement (state : Issuance) : IssuanceCall → Prop
  | .register commitmentHex _ _ _ _ =>
      ∀ row ∈ state.database.vrpIdentities.rows,
        fieldElement row.commitmentHex = fieldElement (toAsciiLowercase commitmentHex) →
          row.commitmentHex = toAsciiLowercase commitmentHex
  | .verify .. => True

/-- One registered text for each field element, and every pseudonym handed out is
that of a registered text. -/
structure OneText (state : Issuance) : Prop where
  texts : ∀ left ∈ state.database.vrpIdentities.rows,
    ∀ right ∈ state.database.vrpIdentities.rows,
      fieldElement left.commitmentHex = fieldElement right.commitmentHex →
        left.commitmentHex = right.commitmentHex
  derived : ∀ entry ∈ state.issued,
    deriveTopicScopedPseudonym environment entry.commitment entry.topic =
      .ok entry.pseudonymId
  registered : ∀ entry ∈ state.issued,
    ∃ row ∈ state.database.vrpIdentities.rows, row.commitmentHex = entry.commitment

variable {environment H curve membershipVkey stateServerId}

section Run

theorem OneText.register {state : Issuance} (oneText : state.OneText environment)
    {tree : MerkleTree Fr} {database : Database} {commitmentHex : String}
    (new : ∀ row ∈ state.database.vrpIdentities.rows,
      fieldElement row.commitmentHex = fieldElement (toAsciiLowercase commitmentHex) →
        row.commitmentHex = toAsciiLowercase commitmentHex)
    (old : ∀ row ∈ state.database.vrpIdentities.rows, row ∈ database.vrpIdentities.rows)
    (added : ∀ row ∈ database.vrpIdentities.rows,
      row ∈ state.database.vrpIdentities.rows ∨
        row.commitmentHex = toAsciiLowercase commitmentHex) :
    OneText environment ⟨tree, database, state.issued⟩ where
  texts := by
    intro left leftMember right rightMember equal
    rcases added left leftMember with leftOld | leftNew <;>
      rcases added right rightMember with rightOld | rightNew
    · exact oneText.texts left leftOld right rightOld equal
    · rw [rightNew]
      exact new left leftOld (rightNew ▸ equal)
    · rw [leftNew]
      exact (new right rightOld (leftNew ▸ equal.symm)).symm
    · rw [leftNew, rightNew]
  derived := oneText.derived
  registered := by
    intro entry member
    rcases oneText.registered entry member with ⟨row, rowMember, text⟩
    exact ⟨row, old row rowMember, text⟩

theorem OneText.verify {state : Issuance} (oneText : state.OneText environment)
    {database : Database}
    (unchanged : database.vrpIdentities = state.database.vrpIdentities)
    {entry : Issued}
    (derived : deriveTopicScopedPseudonym environment entry.commitment entry.topic =
      .ok entry.pseudonymId)
    (registered : ∃ row ∈ state.database.vrpIdentities.rows,
      row.commitmentHex = entry.commitment) :
    OneText environment ⟨state.tree, database, state.issued ++ [entry]⟩ where
  texts := by
    rw [unchanged]
    exact oneText.texts
  derived := by
    intro issued member
    rcases List.mem_append.mp member with member | member
    · exact oneText.derived issued member
    · rw [List.mem_singleton.mp member]
      exact derived
  registered := by
    rw [unchanged]
    intro issued member
    rcases List.mem_append.mp member with member | member
    · exact oneText.registered issued member
    · rw [List.mem_singleton.mp member]
      exact registered

theorem OneText.refuse {state : Issuance} (oneText : state.OneText environment)
    {database : Database}
    (unchanged : database.vrpIdentities = state.database.vrpIdentities) :
    OneText environment ⟨state.tree, database, state.issued⟩ where
  texts := by
    rw [unchanged]
    exact oneText.texts
  derived := oneText.derived
  registered := by
    rw [unchanged]
    exact oneText.registered

/-- A call that brings no second text keeps one text for each element. -/
theorem step_oneText {state : Issuance} {call : IssuanceCall}
    (oneText : state.OneText environment) (new : NewElement state call) :
    (step environment H curve membershipVkey stateServerId state call).OneText
      environment := by
  cases call with
  | register commitmentHex role nodeId now faults =>
      have rows := @registerIdentity_rows state.database H state.tree now commitmentHex
        role nodeId faults
      exact oneText.register new rows.1 rows.2
  | verify payload now faults =>
      have outcome := @verifyMembershipHandler_ensures _ _ environment curve
        membershipVkey now stateServerId payload state.database [] faults
      have unchanged := @verifyMembershipHandler_vrpIdentities _ _ environment curve
        membershipVkey now stateServerId payload ⟨state.database, [], faults⟩
      unfold step
      dsimp only
      revert outcome unchanged
      rcases verifyMembershipHandler environment curve membershipVkey now stateServerId
        payload ⟨state.database, [], faults⟩ with ⟨error | pseudonymId, after⟩
      · intro _ unchanged
        exact oneText.refuse unchanged
      · intro outcome unchanged
        have verified := outcome.2 pseudonymId rfl
        rcases verified.created with ⟨_, _, _, registered, _⟩
        exact oneText.verify unchanged verified.derived (mem_of_registeredRole registered)

theorem initial_oneText (depth : Nat) {database : Database}
    (fresh : database.vrpIdentities = Table.empty) :
    (initial H depth database).OneText environment := by
  refine ⟨?_, by simp [initial], by simp [initial]⟩
  simp [initial, fresh]

/-- As long as no registration brings a second text of a registered field element,
no two pseudonyms are handed out for one element in one topic. -/
theorem pseudonym_unique (environment : Environment) (H : Fr → Fr → Fr)
    (curve : Curve Fq Key) (membershipVkey : Key) (stateServerId depth : Nat)
    (database : Database) (fresh : database.vrpIdentities = Table.empty)
    (calls : List IssuanceCall)
    (guarded : Execution.Guarded
      (step environment H curve membershipVkey stateServerId) NewElement
      (initial H depth database) calls) :
    ∀ left ∈ (Execution.run (step environment H curve membershipVkey stateServerId)
        (initial H depth database) calls).issued,
      ∀ right ∈ (Execution.run (step environment H curve membershipVkey stateServerId)
          (initial H depth database) calls).issued,
        left.topic = right.topic →
          fieldElement left.commitment = fieldElement right.commitment →
            left.pseudonymId = right.pseudonymId := by
  have oneText := Execution.run_invariant_of_guarded
    (fun state : Issuance => state.OneText environment)
    (fun _ _ => step_oneText) (initial_oneText depth fresh) guarded
  intro left leftMember right rightMember topic element
  rcases oneText.registered left leftMember with ⟨leftRow, leftRowMember, leftText⟩
  rcases oneText.registered right rightMember with ⟨rightRow, rightRowMember, rightText⟩
  have text : left.commitment = right.commitment := by
    rw [← leftText, ← rightText]
    exact oneText.texts leftRow leftRowMember rightRow rightRowMember
      (by rw [leftText, rightText, element])
  have leftDerived := oneText.derived left leftMember
  rw [topic, text, oneText.derived right rightMember] at leftDerived
  exact (Except.ok.inj leftDerived).symm

end Run

section Alias

/-! One participant, both texts of whose commitment are registered: the commitment
of secret key, role and node 1, with the Poseidon and SHA-256 values it meets. -/

def aliasCommitment : Fr :=
  1243904711429961858774220647610724273798918457991486031567244100767259239747

/-- The canonical text of the commitment. -/
def canonicalText : String :=
  "02c0066e10a72abd2b33c3b214cb3e81bcb1b6e30961cd23c202b18673bf2543"

/-- The text of the commitment plus the order of the field. -/
def shiftedText : String :=
  "332454e0f1d8cae6e3840968964c96dee4e59f2b831b3db505e4a71a63bf2544"

def canonicalNullifier : String :=
  "3caf13effaace2a6b3cbee731567508bd802738a883693219abe2fa2eaa79af4"

def shiftedNullifier : String :=
  "4d9b33d43d2b05e4db8bd418bcc373c8f19b9dc512a057a4992228bb6fe5c350"

def canonicalPseudonym : String :=
  "87ebeaa15997d86be4fc411147347c09b22d05e503fe9ea9b147c67284fcaebd"

def shiftedPseudonym : String :=
  "90bea2be19cb2820cfea137c9648a7fe0649664bf0f76c371cd769a360e9529d"

def aliasTopic : String := "annex:server:v1"

def aliasHash (left right : Fr) : Fr :=
  if left = 0 ∧ right = 0 then
    14744269619966411208579211824598458697587494354926760081771325075741142829156
  else if left = aliasCommitment ∧ right = 0 then
    12781674961356225165083694412909311291025655672924312967096050332147865988621
  else if left = aliasCommitment ∧ right = aliasCommitment then
    3812588999361383586831331213132550722315969470483602366861206826905682665609
  else
    left

/-- A permutation of the byte strings with the digests the run meets. -/
def aliasDigest : Equiv.Perm (List Byte) :=
  let exchange (text digest : String) : Equiv.Perm (List Byte) :=
    Equiv.swap (utf8 text) ((Hex.decode digest).getD [])
  exchange (canonicalText ++ ":" ++ aliasTopic) canonicalNullifier *
    exchange (aliasTopic ++ ":" ++ canonicalNullifier) canonicalPseudonym *
    exchange (shiftedText ++ ":" ++ aliasTopic) shiftedNullifier *
    exchange (aliasTopic ++ ":" ++ shiftedNullifier) shiftedPseudonym

def aliasEnvironment : Environment := Environment.sample aliasDigest

/-- Digits read as a field element. -/
def readDecimal (text : String) : Option Fr :=
  if text.toList.all Char.isDigit then
    some (text.toList.foldl (fun value digit => 10 * value + (digit.toNat - 48)) 0 : Nat)
  else
    none

/-- A verifier that accepts proofs which name a sibling on the path of a tree of
depth one. -/
def aliasCurve : Curve Fr Unit where
  parseFq := readDecimal
  parseFr := readDecimal
  validG1 := fun _ => true
  validG2 := fun _ => true
  verify := fun _ publicInputs proof =>
    match publicInputs with
    | [root, commitment] =>
        .ok (decide (aliasHash commitment proof.a.1 = root ∨
          aliasHash proof.a.1 commitment = root))
    | _ => .error "malformed verifying key"

def aliasDatabase : Database :=
  { migrated with servers := Table.empty.insert fun id => ⟨id, .foreign "\x7b\x7d"⟩ }

def aliasRequest (commitment : String) : VerifyMembershipRequest where
  root := "086dd951aa2cb1453a9eaaecb8cb49846101b7acadc725cae2dbfb69a9496089"
  commitment := commitment
  topic := aliasTopic
  proof := .encoded
    { piA :=
        ["1243904711429961858774220647610724273798918457991486031567244100767259239747",
          "0", "1"]
      piB := [["0", "0"], ["0", "0"], ["1", "0"]]
      piC := ["0", "0", "1"] }
  publicSignals :=
    ["3812588999361383586831331213132550722315969470483602366861206826905682665609",
      "1243904711429961858774220647610724273798918457991486031567244100767259239747"]

def aliasRegister (commitment : String) : IssuanceCall :=
  .register commitment .human 1 "2026-01-01 00:00:00" []

def aliasVerify (commitment : String) : IssuanceCall :=
  .verify (aliasRequest commitment) "2026-01-01 00:00:00" []

def aliasRun : Issuance :=
  Execution.run (step aliasEnvironment aliasHash aliasCurve () 1)
    (initial aliasHash 1 aliasDatabase)
    [aliasRegister canonicalText, aliasRegister shiftedText, aliasVerify canonicalText,
      aliasVerify shiftedText]

theorem aliasRun_issued : aliasRun.issued =
    [⟨aliasTopic, canonicalText, canonicalPseudonym⟩,
      ⟨aliasTopic, shiftedText, shiftedPseudonym⟩] := by
  decide +kernel

/-- A request under the root of the first registration alone. -/
def canonicalRequest : VerifyMembershipRequest where
  root := "1c422bf1d3d6fcb94952604824d627ba7b64a2f307be27722a8dc59cae35ae0d"
  commitment := canonicalText
  topic := aliasTopic
  proof := .encoded
    { piA := ["0", "0", "1"]
      piB := [["0", "0"], ["0", "0"], ["1", "0"]]
      piC := ["0", "0", "1"] }
  publicSignals :=
    ["12781674961356225165083694412909311291025655672924312967096050332147865988621",
      "1243904711429961858774220647610724273798918457991486031567244100767259239747"]

def canonicalRun : Issuance :=
  Execution.run (step aliasEnvironment aliasHash aliasCurve () 1)
    (initial aliasHash 1 aliasDatabase)
    [aliasRegister canonicalText,
      .verify canonicalRequest "2026-01-01 00:00:00" []]

theorem pseudonym_unique_canonical :
    canonicalRun.issued ≠ [] ∧
      ∀ left ∈ canonicalRun.issued, ∀ right ∈ canonicalRun.issued,
        left.topic = right.topic →
          fieldElement left.commitment = fieldElement right.commitment →
            left.pseudonymId = right.pseudonymId := by
  refine ⟨by decide +kernel,
    pseudonym_unique aliasEnvironment aliasHash aliasCurve () 1 1 aliasDatabase rfl _ ?_⟩
  rw [Execution.guarded_cons, Execution.guarded_cons]
  refine ⟨?_, trivial, trivial⟩
  intro row member
  cases member

/-- The digest is injective and every accepted proof names a path, and still the
two texts of one element are given two pseudonyms in one topic. -/
theorem one_element_two_pseudonyms :
    Function.Injective aliasEnvironment.sha256 ∧
    (∀ root commitment proof, aliasCurve.verify () [root, commitment] proof = .ok true →
      ∃ sibling, aliasHash commitment sibling = root ∨
        aliasHash sibling commitment = root) ∧
    ∃ left ∈ aliasRun.issued, ∃ right ∈ aliasRun.issued,
      left.topic = right.topic ∧
      fieldElement left.commitment = fieldElement right.commitment ∧
      left.pseudonymId ≠ right.pseudonymId := by
  refine ⟨aliasDigest.injective, ?_, ?_⟩
  · intro root commitment proof accepted
    simp only [aliasCurve, Except.ok.injEq, decide_eq_true_eq] at accepted
    exact ⟨proof.a.1, accepted⟩
  · rw [aliasRun_issued]
    exact ⟨_, List.mem_cons_self, _, List.mem_cons_of_mem _ List.mem_cons_self, rfl,
      by decide +kernel, by decide +kernel⟩

end Alias

end Issuance

end Annex.Server
