import Annex.Foundation.SqlAnswer
import Annex.Identity.RegistryCorrectness

namespace Annex.Identity

open Db Sql

/-! Registering a commitment that is new, and one that is not. -/

section Text

/-! The text of a field element is a valid commitment. -/

theorem length_flatMap_encodeByte (bytes : List Byte) :
    (bytes.flatMap Hex.encodeByte).length = 2 * bytes.length := by
  induction bytes with
  | nil => rfl
  | cons byte bytes induction =>
      rw [List.flatMap_cons, List.length_append, induction, List.length_cons]
      simp only [Hex.encodeByte, List.length_cons, List.length_nil]
      omega

theorem digit_of_mem_encode {bytes : List Byte} {character : Char}
    (member : character ∈ bytes.flatMap Hex.encodeByte) :
    ∃ value, character = Hex.digit value := by
  rcases List.mem_flatMap.mp member with ⟨byte, -, inByte⟩
  simp only [Hex.encodeByte, List.mem_cons, List.not_mem_nil, or_false] at inByte
  rcases inByte with high | low
  · exact ⟨_, high⟩
  · exact ⟨_, low⟩

theorem toLower_digit : ∀ value : Fin 16, (Hex.digit value).toLower = Hex.digit value := by
  decide

theorem validCommitment_frToHex (value : Fr) : ValidCommitment (frToHex value) := by
  unfold frToHex Hex.encode
  constructor
  · rw [String.toList_ofList, length_flatMap_encodeByte, Hex.length_bytes]
  · rw [String.toList_ofList, List.all_eq_true]
    intro character member
    rcases digit_of_mem_encode member with ⟨digit, same⟩
    rw [same, isAsciiHexdigit, Hex.digitValue_digit]
    rfl

theorem toAsciiLowercase_frToHex (value : Fr) :
    toAsciiLowercase (frToHex value) = frToHex value := by
  have same (bytes : List Byte) : (bytes.flatMap Hex.encodeByte).map Char.toLower =
      bytes.flatMap Hex.encodeByte := by
    conv_rhs => rw [← List.map_id (bytes.flatMap Hex.encodeByte)]
    apply List.map_congr_left
    intro character member
    rcases digit_of_mem_encode member with ⟨digit, same⟩
    rw [same]
    exact toLower_digit digit
  unfold toAsciiLowercase frToHex Hex.encode
  rw [String.toList_ofList, same]

end Text

section Refused

variable {H : Fr → Fr → Fr} {now commitmentHex : String} {role : RoleCode} {nodeId : Int}
  {database : Database}

/-- Whether the text of a commitment is registered. -/
def IsRegistered (commitmentHex : String) (database : Database) : Prop :=
  ∃ row ∈ database.vrpIdentities.rows, row.commitmentHex = commitmentHex

theorem insertIdentity_registered (registered : IsRegistered commitmentHex database) :
    insertIdentity commitmentHex role nodeId database = .error (.constraint .primaryKey
      "UNIQUE constraint failed: vrp_identities.commitment_hex") := by
  unfold insertIdentity
  rw [if_pos]
  rcases registered with ⟨row, member, text⟩
  exact List.any_eq_true.mpr ⟨row, member, decide_eq_true text⟩

theorem insertIdentity_new (new : ¬ IsRegistered commitmentHex database) :
    insertIdentity commitmentHex role nodeId database =
      .ok (database.vrpIdentities.lastId + 1,
        { database with
          vrpIdentities := database.vrpIdentities.insert fun rowId =>
            ⟨rowId, commitmentHex, role.asU8, nodeId⟩ }) := by
  unfold insertIdentity
  rw [if_neg]
  · rfl
  · intro found
    rcases List.any_eq_true.mp found with ⟨row, member, text⟩
    exact new ⟨row, member, of_decide_eq_true text⟩

/-- A commitment that is registered is not registered again. -/
theorem registerIdentity_refused {tree : MerkleTree Fr}
    (registered : IsRegistered (toAsciiLowercase commitmentHex) database) :
    Ensures (registerIdentity H now commitmentHex role nodeId) database tree
      fun result _ _ => ∃ error, result = .error error := by
  unfold registerIdentity
  refine ensures_bind (ensures_check (fun _ => ?_) fun _ => ⟨_, rfl⟩)
  rw [andThen_ok]
  refine ensures_bind (ensures_require (fun leafBytes _ => ?_) fun _ => ⟨_, rfl⟩)
  rw [andThen_ok]
  refine ensures_bind (ensures_readMemory.mpr ?_)
  rw [andThen_ok]
  refine ensures_bind ((ensures_ofExcept _).mpr ?_)
  cases MerkleTree.previewInsert H tree (frFromBeBytesModOrder leafBytes) with
  | error error => exact ⟨error, rfl⟩
  | ok preview =>
      rw [andThen_ok]
      refine ensures_bind (ensures_transaction (fun _ => ⟨_, rfl⟩) ?_)
      refine ensures_bind (ensures_statement (fun _ => ⟨_, rfl⟩) ?_ fun _ _ => ⟨_, rfl⟩)
      intro identityId changed inserted
      rw [insertIdentity_registered registered] at inserted
      cases inserted

/-- A commitment that was registered stays so. -/
theorem registerIdentity_keepsRegistered {tree : MerkleTree Fr} {text : String}
    (registered : IsRegistered text database) :
    Ensures (registerIdentity H now commitmentHex role nodeId) database tree
      fun _ changed _ => IsRegistered text changed := by
  refine ensures_mono ?_ (registerIdentity_rows now commitmentHex role nodeId)
  intro _ changed _ rows
  rcases registered with ⟨row, member, same⟩
  exact ⟨row, rows.1 row member, same⟩

/-- A commitment that is answered is registered. -/
theorem registerIdentity_answered {tree : MerkleTree Fr} :
    Ensures (registerIdentity H now commitmentHex role nodeId) database tree
      fun result changed _ => ∀ answer, result = .ok answer →
        IsRegistered (toAsciiLowercase commitmentHex) changed := by
  have refused {α : Type} (error : IdentityError) (answer : α)
      (failed : Except.error error = .ok answer) : False := nomatch failed
  unfold registerIdentity
  refine ensures_bind (ensures_check (fun _ => ?_) fun _ _ failed => (refused _ _ failed).elim)
  rw [andThen_ok]
  refine ensures_bind (ensures_require (fun leafBytes _ => ?_)
    fun _ _ failed => (refused _ _ failed).elim)
  rw [andThen_ok]
  refine ensures_bind (ensures_readMemory.mpr ?_)
  rw [andThen_ok]
  refine ensures_bind ((ensures_ofExcept _).mpr ?_)
  cases MerkleTree.previewInsert H tree (frFromBeBytesModOrder leafBytes) with
  | error error => exact fun _ failed => (refused _ _ failed).elim
  | ok preview =>
      rw [andThen_ok]
      apply ensures_bind
      apply ensures_transaction
      · exact fun _ _ failed => (refused _ _ failed).elim
      · refine ensures_bind (ensures_statement ?_ ?_ ?_)
        · exact fun _ _ failed => (refused _ _ failed).elim
        · intro identityId changed inserted
          rcases insertIdentity_rows inserted with ⟨vrpIdentities, same, row, text, rows⟩
          have registered : IsRegistered (toAsciiLowercase commitmentHex) changed := by
            refine ⟨row, ?_, text⟩
            rw [same]
            dsimp only
            rw [rows]
            exact List.mem_append_right _ (List.mem_singleton.mpr rfl)
          have kept : Keeps Database.vrpIdentities (MerkleTree.persistLeafAndRoot now preview.1
              (frFromBeBytesModOrder leafBytes) preview.2.1 :
              Sql Database (MerkleTree Fr) IdentityError Unit) :=
            fun _ => persistLeafAndRoot_preserves (fun _ _ held => held) fun _ _ held => held
          rw [andThen_ok]
          refine kept.ensures_bind ?_ ?_
          · exact fun error _ _ _ _ failed => (refused _ _ failed).elim
          · intro _ stored after same
            rw [ensures_pure]
            refine ⟨?_, fun _ _ failed => (refused _ _ failed).elim⟩
            have still : IsRegistered (toAsciiLowercase commitmentHex) stored := by
              unfold IsRegistered
              rw [same]
              exact registered
            rw [andThen_ok]
            refine ensures_bind ((ensures_remember _).mpr ?_)
            rw [andThen_ok]
            refine ensures_bind (ensures_readMemory.mpr ?_)
            rw [andThen_ok]
            refine ensures_bind ((ensures_ofExcept _).mpr ?_)
            cases (after.applyUpdates (preview.1 + 1) preview.2.2).getProof preview.1 with
            | error error => exact fun _ failed => (refused _ _ failed).elim
            | ok proof =>
                rw [andThen_ok, ensures_pure]
                exact fun _ _ => still
        · exact fun _ _ _ failed => (refused _ _ failed).elim

end Refused

section New

variable {H : Fr → Fr → Fr} {depth : Nat} {registry : Registry} {leaves : List Fr} {now : String}
  {role : RoleCode} {nodeId : Int} {commitment : Fr}

theorem persistLeafAndRoot_achieves {Memory : Type} {memory : Memory} {database : Database}
    (rows : database.vrpLeaves.rows = leafRows leaves) (representable : leaves.length < 2 ^ 63)
    (leaf root : Fr) :
    Achieves (MerkleTree.persistLeafAndRoot now leaves.length leaf root) database memory
      fun _ changed after => after = memory ∧ changed.vrpIdentities = database.vrpIdentities ∧
        changed.vrpLeaves.rows = leafRows (leaves ++ [leaf]) ∧
        activeRoots changed = [frToHex root] := by
  have above : ∀ old ∈ database.vrpLeaves.rows,
      key old < key (⟨leaves.length, frToHex leaf⟩ : VrpLeaf) := by
    intro old member
    rw [rows] at member
    exact leafIndex_lt_of_mem_leafRows member
  rcases Table.place_of_above above with ⟨placed, place, placedRows⟩
  have inserted : MerkleTree.insertLeaf leaves.length (frToHex leaf) database =
      .ok { database with vrpLeaves := placed } := by
    rw [MerkleTree.insertLeaf, if_neg (by omega), place]
  refine ⟨(), MerkleTree.insertRoot (frToHex root) now
    (MerkleTree.deactivateRoots { database with vrpLeaves := placed }), memory, ?_, rfl, rfl,
    ?_, ?_⟩
  · unfold MerkleTree.persistLeafAndRoot
    rw [bind_apply, execute_apply, inserted]
    rfl
  · rw [leafRows_concat, ← rows]
    exact placedRows
  · rw [activeRoots_insertRoot, activeRoots_deactivateRoots, List.nil_append]

/-- What registering a new commitment answers with and leaves behind. -/
structure Added (H : Fr → Fr → Fr) (depth : Nat) (registry : Registry) (leaves : List Fr)
    (commitment : Fr) (role : RoleCode) (result : RegistrationResult) (changed : Database)
    (tree : MerkleTree Fr) : Prop where
  synced : (Registry.mk tree changed).Synced H depth (leaves ++ [commitment])
  leafIndex : result.leafIndex = leaves.length
  rootHex : result.rootHex = tree.rootHex
  path : ∃ pathElements, tree.getProof leaves.length = .ok (pathElements, result.pathIndices) ∧
    result.pathElements = pathElements.map frToHex
  identity : ∃ row, changed.vrpIdentities.rows = registry.database.vrpIdentities.rows ++ [row] ∧
    row.commitmentHex = frToHex commitment ∧ row.roleCode = role.asU8

theorem Added.logged {result : RegistrationResult} {changed : Database} {tree : MerkleTree Fr}
    {publicEventLog : Table Observe.PublicEvent}
    (added : Added H depth registry leaves commitment role result changed tree) :
    Added H depth registry leaves commitment role result { changed with publicEventLog } tree where
  synced := ⟨added.synced.history, added.synced.leafRows, added.synced.activeRoots⟩
  leafIndex := added.leafIndex
  rootHex := added.rootHex
  path := added.path
  identity := added.identity

theorem registerIdentity_achieves (synced : registry.Synced H depth leaves)
    (room : leaves.length < capacity depth) (representable : leaves.length < 2 ^ 63)
    (new : ¬ IsRegistered (frToHex commitment) registry.database) :
    Achieves (registerIdentity H now (frToHex commitment) role nodeId) registry.database
      registry.tree (Added H depth registry leaves commitment role) := by
  have decoded : Hex.decode (frToHex commitment) = some (Hex.bytes 32 commitment.val) :=
    Hex.decode_encode _
  have leaf : frFromBeBytesModOrder (Hex.bytes 32 commitment.val) = commitment := by
    have whole := decode_frToHex commitment
    rw [decoded] at whole
    exact Option.some.inj whole
  unfold registerIdentity
  rw [toAsciiLowercase_frToHex]
  apply achieves_check_bind (validCommitment_frToHex commitment)
  apply (answers_require.mpr decoded).achieves_bind
  rw [leaf]
  apply achieves_bind
  refine ⟨_, _, _, rfl, ?_⟩
  have preview := synced.previewInsert commitment
  rw [if_neg (by omega)] at preview
  apply (answers_ofExcept.mpr preview).achieves_bind
  apply achieves_bind
  apply achieves_transaction
  apply achieves_bind
  apply achieves_statement (insertIdentity_new new)
  apply achieves_bind
  apply achieves_mono _ (persistLeafAndRoot_achieves (by exact synced.leafRows) representable
    commitment _)
  intro _ changed after persisted
  rcases persisted with ⟨same, identities, newRows, roots⟩
  rw [same]
  apply achieves_pure
  have grown := synced.grow (by omega) newRows roots
  have inside : leaves.length < (leaves ++ [commitment]).length := by
    simp
  have proof := MerkleTree.getProof_eq grown.valid.represents inside
  apply achieves_bind
  apply achieves_remember
  apply achieves_bind
  refine ⟨_, _, _, rfl, ?_⟩
  apply (answers_ofExcept.mpr proof).achieves_bind
  apply achieves_pure
  have rooted := grown.activeRoots
  rw [if_neg (by simp), roots] at rooted
  exact
    { synced := grown
      leafIndex := rfl
      rootHex := (List.cons.inj rooted).1
      path := ⟨_, proof, rfl⟩
      identity := ⟨_, congrArg Table.rows identities, rfl, rfl⟩ }

end New

end Annex.Identity
