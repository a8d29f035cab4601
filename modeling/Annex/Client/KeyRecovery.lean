import Annex.Client.Shamir

namespace Annex.Client

/-! A secret key's way through its recovery shards. The shards keep the bytes of the key's
text, and the text's last digit is among them exactly when the number of digits is even. -/

/-- The number of hexadecimal digits. -/
def digitsNumber (digits : List (Fin 16)) : Nat :=
  digits.foldl (fun value digit => 16 * value + digit.val) 0

theorem digitsNumber_concat (digits : List (Fin 16)) (digit : Fin 16) :
    digitsNumber (digits ++ [digit]) = 16 * digitsNumber digits + digit.val := by
  simp [digitsNumber]

theorem digit_eq_digitChar : ∀ value : Fin 16, Hex.digit value = Nat.digitChar value := by
  decide

/-- A stored key is the text of digits that make up its number. -/
theorem exists_storedKey_digits (sk : Nat) :
    ∃ digits : List (Fin 16), storedKey sk = String.ofList (digits.map Hex.digit) ∧
      digitsNumber digits = sk := by
  induction sk using Nat.strongRecOn with
  | ind sk induction =>
      have last : Nat.digitChar (sk % 16) = Hex.digit ⟨sk % 16, Nat.mod_lt _ (by decide)⟩ :=
        (digit_eq_digitChar ⟨sk % 16, Nat.mod_lt _ (by decide)⟩).symm
      rcases Nat.lt_or_ge sk 16 with small | large
      · refine ⟨[⟨sk, small⟩], ?_, ?_⟩
        · rw [storedKey, Nat.toDigits_of_lt_base small]
          exact congrArg (fun digit => String.ofList [digit]) (digit_eq_digitChar ⟨sk, small⟩).symm
        · simp [digitsNumber]
      · rcases induction (sk / 16) (by omega) with ⟨digits, text, number⟩
        refine ⟨digits ++ [⟨sk % 16, Nat.mod_lt _ (by decide)⟩], ?_, ?_⟩
        · have front : Nat.toDigits 16 (sk / 16) = digits.map Hex.digit :=
            String.ofList_injective text
          rw [storedKey, Nat.toDigits_of_base_le (by decide) large, front, last, List.map_append]
          rfl
        · rw [digitsNumber_concat, number]
          exact Nat.div_add_mod sk 16

theorem readKey_digits (digits : List (Fin 16)) :
    readKey (String.ofList (digits.map Hex.digit)) =
      if digits = [] then none else some (digitsNumber digits) := by
  have values : (digits.map Hex.digit).mapM Hex.digitValue = some digits := by
    induction digits with
    | nil => rfl
    | cons digit digits induction =>
        rw [List.map_cons, List.mapM_cons, Hex.digitValue_digit, induction]
        rfl
  rw [readKey, String.toList_ofList, values]
  cases digits with
  | nil => rfl
  | cons digit digits => simp [digitsNumber]

theorem encodeByte_parseSlice : ∀ high low : Fin 16,
    Hex.encodeByte (parseSlice [Hex.digit high, Hex.digit low]) =
      [Hex.digit high, Hex.digit low] := by
  decide +kernel

/-- The bytes of a text keep its digits up to an even number. -/
theorem encode_hexToBytesLoop : ∀ digits : List (Fin 16),
    (hexToBytesLoop (digits.map Hex.digit)).flatMap Hex.encodeByte =
      (digits.take (2 * (digits.length / 2))).map Hex.digit
  | [] => rfl
  | [_] => by simp [hexToBytesLoop]
  | high :: low :: digits => by
      have count : 2 * ((high :: low :: digits).length / 2) =
          2 * (digits.length / 2) + 1 + 1 := by
        simp only [List.length_cons]
        omega
      rw [count, List.map_cons, List.map_cons, hexToBytesLoop, List.flatMap_cons,
        encodeByte_parseSlice, encode_hexToBytesLoop digits]
      rfl

theorem bytesToHex_hexToBytes (digits : List (Fin 16)) :
    bytesToHex (hexToBytes (String.ofList (digits.map Hex.digit))) =
      String.ofList ((digits.take (2 * (digits.length / 2))).map Hex.digit) := by
  rw [bytesToHex, hexToBytes, String.toList_ofList, Hex.encode, encode_hexToBytesLoop]

theorem parseSlice_encodeByte : ∀ byte : Byte, ∃ high low,
    Hex.encodeByte byte = [high, low] ∧ parseSlice [high, low] = byte := by
  intro byte
  refine ⟨_, _, rfl, ?_⟩
  revert byte
  decide +kernel

theorem hexToBytes_bytesToHex (bytes : List Byte) : hexToBytes (bytesToHex bytes) = bytes := by
  rw [hexToBytes, bytesToHex, Hex.encode, String.toList_ofList]
  induction bytes with
  | nil => rfl
  | cons byte bytes induction =>
      rcases parseSlice_encodeByte byte with ⟨high, low, text, value⟩
      rw [List.flatMap_cons, text]
      simp only [List.cons_append, List.nil_append, hexToBytesLoop, value, induction]

section Recovery

variable {skHex : String} {totalShards threshold : Nat}

def Share.toShard (share : Share) : Shard :=
  { index := share.index, data := bytesToHex share.data }

def Shard.toShare (shard : Shard) : Share :=
  { index := shard.index, data := hexToBytes shard.data }

@[simp] theorem Share.toShare_toShard (share : Share) : share.toShard.toShare = share := by
  rw [toShard, Shard.toShare, hexToBytes_bytesToHex]

theorem splitSecretKey_eq_ok (atLeast : 2 ≤ threshold) (within : threshold ≤ totalShards)
    (bound : totalShards ≤ 255)
    (random : Fin (hexToBytes skHex).length → Fin (threshold - 1) → Byte) :
    splitSecretKey skHex totalShards threshold random =
      .ok (((List.range totalShards).map fun i =>
        shareOf (hexToBytes skHex) random (i + 1)).map Share.toShard) := by
  rw [splitSecretKey, split_eq_ok atLeast within bound]
  rfl

/-- Distinct shards of a key, as many as its threshold, give back the text of its bytes. -/
theorem reconstructSecretKey_shards (atLeast : 2 ≤ threshold) (bound : totalShards ≤ 255)
    {random : Fin (hexToBytes skHex).length → Fin (threshold - 1) → Byte}
    {chosen : List Shard} (unique : chosen.Nodup)
    (fromShards : chosen ⊆ ((List.range totalShards).map fun i =>
      shareOf (hexToBytes skHex) random (i + 1)).map Share.toShard)
    (enough : threshold ≤ chosen.length) :
    reconstructSecretKey chosen = .ok (bytesToHex (hexToBytes skHex)) := by
  have origin : ∀ shard ∈ chosen, ∃ share : Share, share.toShard = shard ∧
      (1 ≤ share.index ∧ share.index ≤ totalShards) ∧
        share = shareOf (hexToBytes skHex) random share.index := by
    intro shard member
    rcases List.mem_map.mp (fromShards member) with ⟨share, made, rfl⟩
    exact ⟨share, rfl, mem_split.mp made⟩
  have made : ∀ share ∈ chosen.map Shard.toShare,
      share.index < 256 ∧ share = shareOf (hexToBytes skHex) random share.index := by
    intro share member
    rcases List.mem_map.mp member with ⟨shard, inChosen, rfl⟩
    rcases origin shard inChosen with ⟨share, rfl, range, made⟩
    rw [Share.toShare_toShard]
    exact ⟨by omega, made⟩
  have distinct : (chosen.map Shard.toShare).Nodup := by
    apply (List.nodup_map_iff_inj_on unique).mpr
    intro first firstMember second secondMember equal
    rcases origin first firstMember with ⟨firstShare, rfl, _⟩
    rcases origin second secondMember with ⟨secondShare, rfl, _⟩
    rw [Share.toShare_toShard, Share.toShare_toShard] at equal
    rw [equal]
  have secret := reconstruct_shareOf atLeast distinct made (by rw [List.length_map]; exact enough)
  rw [reconstructSecretKey]
  change (do let secret ← reconstruct (chosen.map Shard.toShare); return bytesToHex secret) = _
  rw [secret]
  rfl

/-- Every choice of enough shards of a stored key leads back to the key. -/
def RecoversKey (sk totalShards threshold : Nat)
    (random : Fin (hexToBytes (storedKey sk)).length → Fin (threshold - 1) → Byte) : Prop :=
  ∃ shards, splitSecretKey (storedKey sk) totalShards threshold random = .ok shards ∧
    ∀ chosen : List Shard, chosen.Nodup → chosen ⊆ shards → threshold ≤ chosen.length →
      ∃ text, reconstructSecretKey chosen = .ok text ∧ readKey text = some sk

/-- The text of a key's bytes is read as the key exactly when no digit was lost. -/
theorem readKey_bytesToHex_iff {sk : Nat} (positive : 0 < sk) :
    readKey (bytesToHex (hexToBytes (storedKey sk))) = some sk ↔
      (storedKey sk).length % 2 = 0 := by
  rcases exists_storedKey_digits sk with ⟨digits, text, number⟩
  rw [text, bytesToHex_hexToBytes, readKey_digits, String.length_ofList, List.length_map]
  rcases Nat.mod_two_eq_zero_or_one digits.length with even | odd
  · have all : digits.take (2 * (digits.length / 2)) = digits := by
      apply List.take_of_length_le
      omega
    have nonempty : digits ≠ [] := by
      intro isEmpty
      rw [isEmpty] at number
      exact absurd number.symm (Nat.ne_of_gt positive)
    simp [all, nonempty, number, even]
  · have nonempty : digits ≠ [] := by
      intro isEmpty
      rw [isEmpty] at odd
      exact absurd odd (by decide)
    have front : digits.take (2 * (digits.length / 2)) = digits.dropLast := by
      rw [List.dropLast_eq_take]
      congr 1
      omega
    have whole := digitsNumber_concat digits.dropLast (digits.getLast nonempty)
    rw [List.dropLast_append_getLast nonempty, number] at whole
    rw [front]
    constructor
    · intro read
      split at read
      · exact absurd read (by simp)
      · have same : digitsNumber digits.dropLast = sk := Option.some.inj read
        omega
    · intro even
      omega

/-- A key survives its recovery shards exactly when its text has an even number of digits. -/
theorem recoversKey_iff {sk : Nat} (positive : 0 < sk) (atLeast : 2 ≤ threshold)
    (within : threshold ≤ totalShards) (bound : totalShards ≤ 255)
    (random : Fin (hexToBytes (storedKey sk)).length → Fin (threshold - 1) → Byte) :
    RecoversKey sk totalShards threshold random ↔ (storedKey sk).length % 2 = 0 := by
  have splits := splitSecretKey_eq_ok atLeast within bound random
  rw [← readKey_bytesToHex_iff positive]
  constructor
  · intro recovers
    rcases recovers with ⟨shards, made, recovered⟩
    rw [splits] at made
    cases made
    have distinct : (((List.range totalShards).map fun i =>
        shareOf (hexToBytes (storedKey sk)) random (i + 1)).map Share.toShard).Nodup := by
      rw [List.map_map]
      apply List.Nodup.map _ List.nodup_range
      intro first second equal
      have sameIndex := congrArg Shard.index equal
      exact Nat.succ.inj sameIndex
    have enough : threshold ≤ (((List.range totalShards).map fun i =>
        shareOf (hexToBytes (storedKey sk)) random (i + 1)).map Share.toShard).length := by
      simpa using within
    have given := reconstructSecretKey_shards atLeast bound distinct (List.Subset.refl _) enough
    rcases recovered _ distinct (List.Subset.refl _) enough with ⟨text, reconstructed, read⟩
    rw [given] at reconstructed
    cases reconstructed
    exact read
  · intro read
    refine ⟨_, splits, ?_⟩
    intro chosen unique fromShards enough
    exact ⟨_, reconstructSecretKey_shards atLeast bound unique fromShards enough, read⟩

theorem recoversKey_iff_of_four_digits :
    RecoversKey 0x1234 3 2 (fun _ _ => 0x5a) ↔ (storedKey 0x1234).length % 2 = 0 :=
  recoversKey_iff (by decide) (by decide) (by decide) (by decide) _

/-- The shards of a key of three digits give back two of them. -/
theorem not_recoversKey_three_digits : ¬ RecoversKey 0x123 2 2 (fun _ _ => 0x5a) := by
  intro recovers
  rcases recovers with ⟨shards, made, recovered⟩
  have split : splitSecretKey (storedKey 0x123) 2 2 (fun _ _ => 0x5a) =
      .ok [{ index := 1, data := "48" }, { index := 2, data := "a6" }] := by
    decide +kernel
  rw [split] at made
  cases made
  rcases recovered [{ index := 1, data := "48" }, { index := 2, data := "a6" }] (by decide)
    (List.Subset.refl _) (by decide) with ⟨text, reconstructed, read⟩
  have lost : reconstructSecretKey [{ index := 1, data := "48" }, { index := 2, data := "a6" }] =
      .ok "12" := by
    decide +kernel
  rw [lost] at reconstructed
  cases reconstructed
  exact absurd read (by decide +kernel)

end Recovery

end Annex.Client
