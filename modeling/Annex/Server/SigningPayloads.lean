import Annex.Foundation.Delimited
import Annex.Server.Federation

namespace Annex.Server

open Delimited Federation Rtx

/-! What the signed texts tell of the fields they are made of. -/

/-- The fields of a relayed message that are signed. -/
def signedMessageFields (envelope : FederatedMessageEnvelope) : List String :=
  [envelope.messageId, envelope.channelId, envelope.content, envelope.senderPseudonym,
    envelope.originatingServer, envelope.attestationRef, envelope.createdAt]

/-- The texts of a bundle that are signed. -/
def signedBundleTexts (bundle : ReflectionSummaryBundle) : List String :=
  [bundle.bundleId, bundle.sourcePseudonym, bundle.sourceServer, bundle.summary]

theorem newline_notMem_toString (number : Nat) : '\n' ∉ (toString number).toList := by
  intro member
  have digits : (toString number).toList = Nat.toDigits 10 number := Nat.toList_repr
  rw [digits] at member
  have digit := Nat.isDigit_of_mem_toDigits (by decide) (by decide) member
  exact absurd digit (by decide)

theorem toString_inj {left right : Nat} (same : toString left = toString right) :
    left = right := by
  have digits : Nat.toDigits 10 left = Nat.toDigits 10 right := by
    rw [← Nat.toList_repr, ← Nat.toList_repr]
    exact congrArg String.toList same
  rw [← @Nat.ofDigitChars_ten_toDigits left, digits, Nat.ofDigitChars_ten_toDigits]

theorem bundleSigningPayload_eq (bundle : ReflectionSummaryBundle) :
    bundleSigningPayload bundle =
      String.intercalate "\n" (signedBundleTexts bundle) ++ "\n" ++
        toString bundle.createdAt := by
  have apart : bundleSigningPayload bundle =
      String.intercalate "\n" (signedBundleTexts bundle ++ [toString bundle.createdAt]) := rfl
  have texts : signedBundleTexts bundle ≠ [] := List.cons_ne_nil _ _
  rw [apart, String.intercalate_append_of_ne_nil texts (List.cons_ne_nil _ _),
    String.intercalate_singleton]

theorem messageSignatureInput_injective_iff (envelope : FederatedMessageEnvelope) :
    (∀ other, messageSignatureInput other = messageSignatureInput envelope →
      signedMessageFields other = signedMessageFields envelope) ↔
      ∀ field ∈ signedMessageFields envelope, '\n' ∉ field.toList := by
  rw [← forall_eq_of_length_iff_string (by simp [signedMessageFields])]
  constructor
  · intro unique others length same
    match others with
    | [messageId, channelId, content, senderPseudonym, originatingServer, attestationRef,
        createdAt] =>
        exact unique ⟨messageId, channelId, content, senderPseudonym, originatingServer,
          attestationRef, "", createdAt⟩ same
  · intro unique other same
    exact unique (signedMessageFields other) rfl same

theorem rtxRelaySigningPayload_injective_iff (bundleId relayingServer originServer : String)
    (relayPath : List String) :
    (∀ otherId otherRelaying otherOrigin otherPath,
      rtxRelaySigningPayload otherId otherRelaying otherOrigin otherPath =
        rtxRelaySigningPayload bundleId relayingServer originServer relayPath →
      otherId = bundleId ∧ otherRelaying = relayingServer ∧ otherOrigin = originServer ∧
        otherPath = relayPath) ↔
      (∀ field ∈ [bundleId, relayingServer, originServer], '\n' ∉ field.toList) ∧
        ∃ hop, relayPath = [hop] ∧ hop ≠ "" ∧ '|' ∉ hop.toList ∧ '\n' ∉ hop.toList := by
  have joined := @forall_eq_of_length_iff_string '\n' [bundleId, relayingServer, originServer,
    String.intercalate "|" relayPath] (by simp)
  have path := @forall_eq_iff_string '|' relayPath
  constructor
  · intro unique
    have paths : ∀ others : List String, String.intercalate "|" others =
        String.intercalate "|" relayPath → others = relayPath := by
      intro others same
      apply (unique bundleId relayingServer originServer others _).2.2.2
      rw [rtxRelaySigningPayload, rtxRelaySigningPayload, same]
    rcases path.mp paths with ⟨hop, isHop, nonempty, unbarred⟩
    subst isHop
    rw [String.intercalate_singleton] at joined
    have free := joined.mp fun others length same => by
      match others with
      | [otherId, otherRelaying, otherOrigin, otherHop] =>
          have equal := unique otherId otherRelaying otherOrigin [otherHop] (by
            rw [rtxRelaySigningPayload, rtxRelaySigningPayload, String.intercalate_singleton,
              String.intercalate_singleton]
            exact same)
          rcases equal with ⟨ids, relaying, origins, hops⟩
          rw [ids, relaying, origins, List.singleton_inj.mp hops]
    constructor
    · intro field member
      exact free field (List.mem_append_left [hop] member)
    · exact ⟨hop, rfl, nonempty, unbarred, free hop (by simp)⟩
  · intro free
    rcases free with ⟨fields, hop, isHop, nonempty, unbarred, unbroken⟩
    have apart : ∀ field ∈ [bundleId, relayingServer, originServer,
        String.intercalate "|" relayPath], '\n' ∉ field.toList := by
      intro field member
      rw [isHop, String.intercalate_singleton] at member
      rcases List.mem_append.mp (show field ∈ [bundleId, relayingServer, originServer] ++ [hop]
        from member) with member | member
      · exact fields field member
      · rw [List.mem_singleton.mp member]
        exact unbroken
    intro otherId otherRelaying otherOrigin otherPath same
    have equal := joined.mpr apart [otherId, otherRelaying, otherOrigin,
      String.intercalate "|" otherPath] rfl same
    rw [List.cons_eq_cons, List.cons_eq_cons, List.cons_eq_cons, List.singleton_inj] at equal
    exact ⟨equal.1, equal.2.1, equal.2.2.1,
      path.mpr ⟨hop, isHop, nonempty, unbarred⟩ otherPath equal.2.2.2⟩

theorem bundleSigningPayload_injective_iff (bundle : ReflectionSummaryBundle) :
    (∀ other, bundleSigningPayload other = bundleSigningPayload bundle →
      signedBundleTexts other = signedBundleTexts bundle ∧
        other.createdAt = bundle.createdAt) ↔
      ∀ field ∈ signedBundleTexts bundle, '\n' ∉ field.toList := by
  constructor
  · intro unique
    apply (forall_eq_of_length_iff_string (by simp [signedBundleTexts])).mp
    intro others length same
    match others with
    | [bundleId, sourcePseudonym, sourceServer, summary] =>
        have equal := unique { bundle with bundleId, sourcePseudonym, sourceServer, summary } (by
          rw [bundleSigningPayload_eq, bundleSigningPayload_eq]
          exact congrArg (fun text => text ++ "\n" ++ toString bundle.createdAt) same)
        exact equal.1
  · intro free other same
    have apart : ∀ field ∈ signedBundleTexts bundle ++ [toString bundle.createdAt],
        '\n' ∉ field.toList := by
      intro field member
      rcases List.mem_append.mp member with member | member
      · exact free field member
      · rw [List.mem_singleton.mp member]
        exact newline_notMem_toString bundle.createdAt
    have equal := (forall_eq_of_length_iff_string (by simp [signedBundleTexts])).mpr apart
      (signedBundleTexts other ++ [toString other.createdAt]) rfl same
    rcases List.append_inj' equal rfl with ⟨texts, stamps⟩
    exact ⟨texts, toString_inj (List.singleton_inj.mp stamps)⟩

/-- Each payload tells its fields apart from all others exactly when none has a newline and,
for a relay, the path is one hop, not empty and without a bar. -/
theorem signing_payloads_injective_iff (envelope : FederatedMessageEnvelope)
    (bundleId relayingServer originServer : String) (relayPath : List String)
    (bundle : ReflectionSummaryBundle) :
    ((∀ other, messageSignatureInput other = messageSignatureInput envelope →
        signedMessageFields other = signedMessageFields envelope) ↔
      ∀ field ∈ signedMessageFields envelope, '\n' ∉ field.toList) ∧
    ((∀ otherId otherRelaying otherOrigin otherPath,
        rtxRelaySigningPayload otherId otherRelaying otherOrigin otherPath =
          rtxRelaySigningPayload bundleId relayingServer originServer relayPath →
        otherId = bundleId ∧ otherRelaying = relayingServer ∧ otherOrigin = originServer ∧
          otherPath = relayPath) ↔
      (∀ field ∈ [bundleId, relayingServer, originServer], '\n' ∉ field.toList) ∧
        ∃ hop, relayPath = [hop] ∧ hop ≠ "" ∧ '|' ∉ hop.toList ∧ '\n' ∉ hop.toList) ∧
    ((∀ other, bundleSigningPayload other = bundleSigningPayload bundle →
        signedBundleTexts other = signedBundleTexts bundle ∧
          other.createdAt = bundle.createdAt) ↔
      ∀ field ∈ signedBundleTexts bundle, '\n' ∉ field.toList) :=
  ⟨messageSignatureInput_injective_iff envelope,
    rtxRelaySigningPayload_injective_iff bundleId relayingServer originServer relayPath,
    bundleSigningPayload_injective_iff bundle⟩

/-- A line of the content is taken for the sender. -/
theorem not_signing_payloads_injective :
    ¬ ((∀ envelope other : FederatedMessageEnvelope,
        messageSignatureInput other = messageSignatureInput envelope →
          signedMessageFields other = signedMessageFields envelope) ∧
      (∀ bundleId relayingServer originServer relayPath otherId otherRelaying otherOrigin
          otherPath,
        rtxRelaySigningPayload otherId otherRelaying otherOrigin otherPath =
          rtxRelaySigningPayload bundleId relayingServer originServer relayPath →
        otherId = bundleId ∧ otherRelaying = relayingServer ∧ otherOrigin = originServer ∧
          otherPath = relayPath) ∧
      ∀ bundle other : ReflectionSummaryBundle,
        bundleSigningPayload other = bundleSigningPayload bundle →
          signedBundleTexts other = signedBundleTexts bundle ∧
            other.createdAt = bundle.createdAt) := by
  intro injective
  have same := injective.1
    ⟨"m-1", "general", "hello\nalice", "bob", "https://peer", "topic:c0ffee", "", "now"⟩
    ⟨"m-1", "general", "hello", "alice\nbob", "https://peer", "topic:c0ffee", "", "now"⟩
    (by decide)
  exact absurd same (by decide)

end Annex.Server
