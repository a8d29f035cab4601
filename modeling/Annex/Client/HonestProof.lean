import Annex.Client.KeyRecovery
import Annex.Client.Registration
import Annex.Server.NewIdentity
import Annex.Zk.Membership

namespace Annex.Client

open Identity

/-! The keys of an identity, as an attempt to register reads them and as the server knows
them. -/

/-- The numbers an identity is made of. -/
structure Keys where
  sk : Nat
  roleCode : Nat
  nodeId : Nat
deriving DecidableEq, Repr

def Keys.commitment (poseidon3 : Fr → Fr → Fr → Fr) (keys : Keys) : Fr :=
  poseidon3 keys.sk keys.roleCode keys.nodeId

theorem readKey_storedKey (sk : Nat) : readKey (storedKey sk) = some sk := by
  rcases exists_storedKey_digits sk with ⟨digits, text, number⟩
  rw [text, readKey_digits, number, if_neg]
  intro none
  have empty := congrArg (fun text => text.toList.length) text
  simp only [none, storedKey, String.toList_ofList, List.map_nil, List.length_nil] at empty
  have positive := @Nat.length_toDigits_pos 16 sk
  omega

section Digits

/-- The last hexadecimal digits of a number. -/
def lastDigits : (length value : Nat) → List Char
  | 0, _ => []
  | length + 1, value => lastDigits length (value / 16) ++ [Hex.digit (Fin.ofNat 16 value)]

theorem lastDigits_zero (length : Nat) : lastDigits length 0 = List.replicate length '0' := by
  induction length with
  | zero => rfl
  | succ length induction =>
      rw [lastDigits, Nat.zero_div, induction, List.replicate_succ']
      rfl

/-- Two digits make a byte. -/
theorem flatMap_encodeByte_bytes (length value : Nat) :
    (Hex.bytes length value).flatMap Hex.encodeByte = lastDigits (2 * length) value := by
  induction length generalizing value with
  | zero => rfl
  | succ length induction =>
      have twice : 2 * (length + 1) = 2 * length + 1 + 1 := by omega
      have high : Fin.ofNat 16 ((Fin.ofNat 256 value).val / 16) = Fin.ofNat 16 (value / 16) := by
        apply Fin.ext
        simp only [Fin.ofNat]
        omega
      have low : Fin.ofNat 16 ((Fin.ofNat 256 value).val % 16) = Fin.ofNat 16 value := by
        apply Fin.ext
        simp only [Fin.ofNat]
        omega
      rw [Hex.bytes, List.flatMap_append, induction, List.flatMap_singleton, Hex.encodeByte, high,
        low, twice, lastDigits, lastDigits, Nat.div_div_eq_div_mul, List.append_assoc]
      rfl

/-- A number is filled up to its last digits. -/
theorem fill_toDigits (length value : Nat) (bound : value < 16 ^ (length + 1)) :
    List.replicate (length + 1 - (Nat.toDigits 16 value).length) '0' ++ Nat.toDigits 16 value =
      lastDigits (length + 1) value := by
  have digit (small : Fin 16) : Nat.digitChar small = Hex.digit small :=
    (digit_eq_digitChar small).symm
  induction length generalizing value with
  | zero =>
      have small : value < 16 := by simpa using bound
      rw [Nat.toDigits_of_lt_base small, digit ⟨value, small⟩, lastDigits, lastDigits]
      congr 2
      exact congrArg Hex.digit (Fin.ext (Nat.mod_eq_of_lt small).symm)
  | succ length induction =>
      rcases Nat.lt_or_ge value 16 with small | large
      · rw [Nat.toDigits_of_lt_base small, digit ⟨value, small⟩, lastDigits,
          Nat.div_eq_of_lt small, lastDigits_zero]
        congr 2
        exact congrArg Hex.digit (Fin.ext (Nat.mod_eq_of_lt small).symm)
      · have quotient : value / 16 < 16 ^ (length + 1) := by
          rw [Nat.div_lt_iff_lt_mul (by decide), ← Nat.pow_succ]
          exact bound
        have last : value % 16 < 16 := Nat.mod_lt _ (by decide)
        rw [Nat.toDigits_of_base_le (by decide) large, digit ⟨value % 16, last⟩, lastDigits,
          ← induction _ quotient, List.length_append, List.length_singleton,
          Nat.add_sub_add_right, List.append_assoc]
        rfl

end Digits

/-- The client and the server write a commitment with the same text. -/
theorem computeCommitment_eq (poseidon3 : Fr → Fr → Fr → Fr) (sk roleCode nodeId : Nat) :
    computeCommitment poseidon3 sk roleCode nodeId = frToHex (poseidon3 sk roleCode nodeId) := by
  have bound : (poseidon3 sk roleCode nodeId).val < 16 ^ (63 + 1) :=
    Nat.lt_trans (ZMod.val_lt _) (by decide)
  unfold computeCommitment frToHex Hex.encode
  dsimp only
  rw [fill_toDigits 63 _ bound, flatMap_encodeByte_bytes]

open CompleteTree Db Identity Server Sql

/-! The proof a client makes of the leaf it was just given. -/

variable {Fq Key : Type}

/-- The prover proves what satisfies the circuit: the server takes its proof for one of the root
and the commitment. -/
def Proves (setting : Setting Fq Key) (poseidon3 : Fr → Fr → Fr → Fr) (depth : Nat) : Prop :=
  ∀ (random : Nat) (input : MembershipProofInput) (elements : List Fr) (signals : Zk.Membership),
    signals.Satisfies setting.server.hash poseidon3 depth →
    signals.sk = input.sk → signals.roleCode = input.roleCode →
    signals.nodeId = input.nodeId → signals.leafIndex = input.leafIndex →
    input.pathElements = elements.map frToHex →
    elements.length = depth → input.pathIndexBits.length = depth →
    (∀ i < depth, signals.pathElements i = elements.getD i 0) →
    (∀ i < depth, signals.pathIndexBits i = (input.pathIndexBits.getD i 0 : Nat)) →
    ∃ proof,
      parseProof setting.server.curve setting.server.environment
          (setting.fullProve random (circuitInput input)).proof = .ok proof ∧
        parsePublicSignals setting.server.curve
          (setting.fullProve random (circuitInput input)).publicSignals =
            .ok [signals.root, signals.commitment] ∧
        verifyProof setting.server.curve setting.server.membershipVkey proof
          [signals.root, signals.commitment] = .ok true

section Signals

variable {H : Fr → Fr → Fr} {poseidon3 : Fr → Fr → Fr → Fr} {depth : Nat} {registry : Registry}
  {leaves : List Fr} {commitment : Fr} {role : RoleCode} {result : RegistrationResult}
  {changed : Database} {tree : MerkleTree Fr}

/-- The answer to a registration satisfies the circuit together with the keys. -/
theorem exists_signals
    (added : Added H depth registry leaves commitment role result changed tree)
    {sk roleCode nodeId : Fr} (identity : commitment = poseidon3 sk roleCode nodeId) :
    ∃ (elements : List Fr) (signals : Zk.Membership),
      signals.Satisfies H poseidon3 depth ∧ signals.sk = sk ∧ signals.roleCode = roleCode ∧
      signals.nodeId = nodeId ∧ signals.leafIndex = result.leafIndex ∧
      result.pathElements = elements.map frToHex ∧ elements.length = depth ∧
      result.pathIndices.length = depth ∧
      (∀ i < depth, signals.pathElements i = elements.getD i 0) ∧
      (∀ i < depth, signals.pathIndexBits i = (result.pathIndices.getD i 0 : Nat)) ∧
      signals.root = tree.root ∧ signals.commitment = commitment := by
  have valid := added.synced.valid
  have depthEq : tree.depth = depth := valid.depth_eq
  have root : tree.root = node H (padded (leaves ++ [commitment])) depth 0 := by
    have whole := valid.represents.root_eq
    rw [valid.depth_eq] at whole
    exact whole
  have inside : leaves.length < (leaves ++ [commitment]).length := by
    simp
  have below : leaves.length < 2 ^ depth :=
    Nat.lt_of_lt_of_le inside (Nat.le_trans valid.fits (MerkleTree.capacity_le depth))
  have leaf : padded (leaves ++ [commitment]) leaves.length = commitment := by
    simp [padded]
  have proof := MerkleTree.getProof_eq valid.represents inside
  rcases added.path with ⟨elements, found, texts⟩
  have same := proof.symm.trans found
  simp only [Except.ok.injEq, Prod.mk.injEq, depthEq] at same
  rcases same with ⟨elementsEq, indicesEq⟩
  refine ⟨elements, Zk.honestSignals H (padded (leaves ++ [commitment])) depth leaves.length sk
    roleCode nodeId (fun i => elements.getD i 0) (fun i => (result.pathIndices.getD i 0 : Nat)),
    Zk.honestSignals_satisfies below (leaf.trans identity) ?_ ?_, rfl, rfl, rfl, ?_, texts, ?_, ?_,
    fun _ _ => rfl, fun _ _ => rfl, root.symm, leaf⟩
  · intro i bound
    rw [← elementsEq]
    simp [path, pathStep, bound]
  · intro i bound
    rw [← indicesEq]
    simp [path, pathStep, bound]
  · exact congrArg Nat.cast added.leafIndex.symm
  · rw [← elementsEq]
    simp [path]
  · rw [← indicesEq]
    simp [path]

theorem parseFrFromHex_frToHex (value : Fr) : parseFrFromHex (frToHex value) = .ok value := by
  have decoded := decode_frToHex value
  unfold parseFrFromHex
  cases found : Hex.decode (frToHex value) with
  | none => simp [found] at decoded
  | some bytes =>
      rw [found] at decoded
      exact congrArg Except.ok (Option.some.inj decoded)

/-- The root a registration answers with is stored. -/
theorem exists_root (added : Added H depth registry leaves commitment role result changed tree) :
    ∃ row ∈ changed.vrpRoots.rows, row.rootHex = result.rootHex := by
  have roots := added.synced.activeRoots
  rw [if_neg (by simp)] at roots
  have member : tree.rootHex ∈ activeRoots changed := by
    rw [roots]
    exact List.mem_singleton.mpr rfl
  rcases List.mem_map.mp member with ⟨row, active, text⟩
  exact ⟨row, (List.mem_filter.mp active).1, text.trans added.rootHex.symm⟩

end Signals

/-- The client's proof for the answer to its registration is one that the server takes. -/
theorem membershipProven_of_added {setting : Setting Fq Key} {poseidon3 : Fr → Fr → Fr → Fr}
    {depth : Nat} {registry : Registry} {leaves : List Fr} {keys : Keys} {role : RoleCode}
    {result : RegistrationResult} {changed : Database} {tree : MerkleTree Fr}
    (proves : Proves setting poseidon3 depth)
    (added : Added setting.server.hash depth registry leaves (keys.commitment poseidon3) role
      result changed tree)
    {input : MembershipProofInput} (random : Nat) (topic : String)
    (same : input =
      { sk := keys.sk
        roleCode := keys.roleCode
        nodeId := keys.nodeId
        leafIndex := result.leafIndex
        pathElements := result.pathElements
        pathIndexBits := result.pathIndices }) :
    MembershipProven setting.server.environment setting.server.curve setting.server.membershipVkey
      { root := result.rootHex
        commitment := frToHex (keys.commitment poseidon3)
        topic
        proof := (setting.fullProve random (circuitInput input)).proof
        publicSignals := (setting.fullProve random (circuitInput input)).publicSignals }
      changed := by
  rcases
    @exists_signals _ poseidon3 _ _ _ _ _ _ _ _ added keys.sk keys.roleCode keys.nodeId rfl with
    ⟨elements, signals, satisfies, sk, roleCode, nodeId, leafIndex, texts, elementsLength,
      indicesLength, pathElements, pathIndexBits, root, commitment⟩
  rcases proves random input elements signals satisfies (by rw [sk, same]) (by rw [roleCode, same])
    (by rw [nodeId, same]) (by rw [leafIndex, same]) (by rw [same]; exact texts) elementsLength
    (by rw [same]; exact indicesLength) pathElements (by rw [same]; exact pathIndexBits) with
    ⟨proof, parsed, publicSignals, verified⟩
  refine ⟨exists_root added, proof, _, signals.root, signals.commitment, parsed, publicSignals,
    verified, rfl, ?_, ?_, rfl, rfl⟩
  · rw [added.rootHex, root]
    exact parseFrFromHex_frToHex tree.root
  · rw [commitment]
    exact parseFrFromHex_frToHex _

end Annex.Client
