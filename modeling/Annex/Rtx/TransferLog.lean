import Mathlib.Data.List.Perm.Subperm
import Annex.Foundation.SqlCount
import Annex.Rtx.Store

namespace Annex.Rtx

open Db Sql Vrp

/-! What the transfer log says of the copies of a bundle. -/

/-- A transfer: the bundle, who it is from, and where it goes. The entry of a bundle that is
stored goes nowhere yet. -/
structure TransferEntry where
  bundleId : String
  sourcePseudonym : String
  destination : Option String
deriving DecidableEq, Repr

/-- What a row of the log says. -/
def loggedEntry (row : RtxTransfer) : TransferEntry :=
  ⟨row.bundleId, row.sourcePseudonym, row.destinationPseudonym⟩

/-- The transfer of a bundle to a destination, or of one that is stored. -/
def entryTo (bundle : ReflectionSummaryBundle) (destination : Option String) : TransferEntry :=
  ⟨bundle.bundleId, bundle.sourcePseudonym, destination⟩

/-- The rows that were written between two states of the log. -/
def newTransfers (before after : Database) : List RtxTransfer :=
  after.rtxTransferLog.rows.drop before.rtxTransferLog.rows.length

theorem newTransfers_of_append {before after : Database} {rows : List RtxTransfer}
    (written : after.rtxTransferLog.rows = before.rtxTransferLog.rows ++ rows) :
    newTransfers before after = rows := by
  rw [newTransfers, written, List.drop_left]

/-- Each transfer has a row of its own. -/
def EachLogged (transfers : List TransferEntry) (rows : List RtxTransfer) : Prop :=
  transfers.Subperm (rows.map loggedEntry)

theorem eachLogged_nil (rows : List RtxTransfer) : EachLogged [] rows :=
  List.nil_subperm

/-- Where the rows are the entry of the stored bundle and those of some of the deliveries, each
transfer has its row just when all deliveries have theirs and there are no other transfers. -/
theorem eachLogged_iff {bundle : ReflectionSummaryBundle}
    {deliveries others : List TransferEntry} {stored : RtxTransfer} {rows : List RtxTransfer}
    (publishes : loggedEntry stored = entryTo bundle none)
    (destined : ∀ transfer ∈ deliveries ++ others, transfer.destination ≠ none)
    (some : (rows.map loggedEntry).Sublist deliveries) :
    EachLogged (deliveries ++ others) (stored :: rows) ↔
      rows.length = deliveries.length ∧ others = [] := by
  rw [EachLogged, List.map_cons, publishes]
  constructor
  · intro logged
    have absent : entryTo bundle none ∉ deliveries ++ others :=
      fun member => destined _ member rfl
    have erased := logged.erase (entryTo bundle none)
    rw [List.erase_of_not_mem absent, List.erase_cons_head] at erased
    have enough := erased.length_le
    have few := some.length_le
    rw [List.length_append, List.length_map] at enough
    rw [List.length_map] at few
    exact ⟨by omega, List.length_eq_zero_iff.mp (by omega)⟩
  · intro all
    rcases all with ⟨same, none⟩
    rw [none, List.append_nil, ← some.eq_of_length (by rw [List.length_map, same])]
    exact (List.sublist_cons_self _ _).subperm

section Insert

variable {now : String} {serverId : Nat} {bundle : ReflectionSummaryBundle}
  {destination redactionsApplied : Option String} {scope : VrpTransferScope}
  {database : Database}

/-- A transfer that is logged adds its entry. -/
theorem insertTransfer_logs (known : database.servers.rows.any (·.id = serverId) = true) :
    ∃ log row, insertTransfer now serverId bundle destination scope redactionsApplied database =
        .ok { database with rtxTransferLog := log } ∧
      log.rows = database.rtxTransferLog.rows ++ [row] ∧
        loggedEntry row = entryTo bundle destination := by
  simp only [insertTransfer, known, Bool.true_eq_false, if_false]
  exact ⟨_, _, rfl, rfl, rfl⟩

end Insert

section Deliver

variable {Memory Error : Type} {now : String} {serverId : Nat}
  {bundle : ReflectionSummaryBundle} {panicked : Error} {database : Database} {memory : Memory}
  {faults : List (Option String)}

/-- The transfers of the copies the subscribers get. -/
def deliveredEntries (bundle : ReflectionSummaryBundle) (subscribers : List Subscriber) :
    List TransferEntry :=
  (deliveries bundle subscribers).map fun copy => entryTo bundle (some copy.1)

/-- The rows are entries of the deliveries, and all of them just when the statements that log
them are spared. -/
structure LogsDeliveries (bundle : ReflectionSummaryBundle) (subscribers : List Subscriber)
    (faults : List (Option String)) (rows : List RtxTransfer) : Prop where
  entries : (rows.map loggedEntry).Sublist (deliveredEntries bundle subscribers)
  all : rows.length = (deliveries bundle subscribers).length ↔
    Spared faults (deliveries bundle subscribers).length

/-- The statement that logs a delivery takes one fault, and adds a row just when it is spared. -/
theorem attempt_insertTransfer {destination redactionsApplied : Option String}
    {scope : VrpTransferScope} (known : database.servers.rows.any (·.id = serverId) = true) :
    ∃ outcome log rows,
      (attempt (execute id (insertTransfer now serverId bundle destination scope
          redactionsApplied)) : Sql Database Memory Error (Except DbError Unit))
        ⟨database, memory, faults⟩ =
          (.ok outcome, ⟨{ database with rtxTransferLog := log }, memory, faults.tail⟩) ∧
      log.rows = database.rtxTransferLog.rows ++ rows ∧
        (faultAt faults 0 = none ∧ rows.map loggedEntry = [entryTo bundle destination] ∨
          faultAt faults 0 ≠ none ∧ rows = []) := by
  unfold attempt
  cases fault : faultAt faults 0 with
  | none =>
      rcases @insertTransfer_logs now serverId bundle destination redactionsApplied scope database
        known with ⟨log, row, inserted, written, isEntry⟩
      rw [execute_done fault inserted]
      refine ⟨_, log, [row], rfl, written, Or.inl ⟨rfl, ?_⟩⟩
      rw [List.map_singleton, isEntry]
  | some text =>
      rw [execute_faulty fault]
      exact ⟨_, database.rtxTransferLog, [], rfl, (List.append_nil _).symm,
        Or.inr ⟨Option.some_ne_none text, rfl⟩⟩

/-- The deliveries are made and logged one by one. -/
theorem deliver_logs {subscribers : List Subscriber}
    (known : database.servers.rows.any (·.id = serverId) = true)
    (deliverable : Deliverable bundle subscribers) :
    ∃ log rows, (deliver panicked now serverId bundle subscribers :
          Sql Database Memory Error (List (String × ReflectionSummaryBundle)))
        ⟨database, memory, faults⟩ =
          (.ok (deliveries bundle subscribers), ⟨{ database with rtxTransferLog := log }, memory,
            faults.drop (deliveries bundle subscribers).length⟩) ∧
      log.rows = database.rtxTransferLog.rows ++ rows ∧
        LogsDeliveries bundle subscribers faults rows := by
  induction subscribers generalizing database faults with
  | nil =>
      exact ⟨database.rtxTransferLog, [], rfl, (List.append_nil _).symm,
        ⟨List.Sublist.refl _, iff_of_true rfl (spared_zero _)⟩⟩
  | cons subscriber rest induction =>
      have remaining : Deliverable bundle rest :=
        deliverable.imp_right fun none other member => none other (List.mem_cons_of_mem _ member)
      cases delivered : delivery bundle subscriber with
      | none =>
          rcases @induction database faults known remaining with
            ⟨log, rows, ran, written, some, all⟩
          refine ⟨log, rows, ?_, written, ?_, ?_⟩
          · simp only [deliver, delivered, deliveries_cons_none delivered]
            exact ran
          · rw [deliveredEntries, deliveries_cons_none delivered]
            exact some
          · rw [deliveries_cons_none delivered]
            exact all
      | some copy =>
          rcases copy with ⟨scope, scopedBundle⟩
          have fits : fitsJson scopedBundle = true := by
            rcases deliverable with fits | none
            · rw [fitsJson_of_delivery delivered, fits]
            · rw [none subscriber List.mem_cons_self] at delivered
              cases delivered
          rcases @attempt_insertTransfer Memory Error now serverId bundle database memory faults
            (some subscriber.subscriberPseudonym) (deliveryRedactions bundle scope) scope known
            with ⟨outcome, log, row, attempted, written, first⟩
          rcases @induction { database with rtxTransferLog := log } faults.tail known remaining
            with ⟨last, rows, ran, others, some, all⟩
          refine ⟨last, row ++ rows, ?_, ?_, ?_, ?_⟩
          · simp only [deliver, delivered, if_pos fits]
            rw [bind_ok attempted, bind_ok ran, deliveries_cons_some delivered,
              List.length_cons, List.drop_tail]
            rfl
          · rw [others]
            dsimp only
            rw [written, List.append_assoc]
          · rw [deliveredEntries, deliveries_cons_some delivered, List.map_append, List.map_cons]
            rcases first with ⟨_, isRow⟩ | ⟨_, isRow⟩
            · rw [isRow]
              exact some.cons_cons _
            · rw [isRow]
              exact some.cons _
          · have few := some.length_le
            rw [List.length_map, deliveredEntries, List.length_map] at few
            rw [deliveries_cons_some delivered, List.length_cons, Nat.add_comm, spared_add,
              spared_one, List.drop_one, ← all, List.length_append]
            rcases first with ⟨unfaulted, isRow⟩ | ⟨faulty, isRow⟩
            · have one := congrArg List.length isRow
              rw [List.length_map, List.length_singleton] at one
              rw [one, and_iff_right unfaulted]
              omega
            · rw [isRow]
              apply iff_of_false
              · intro same
                rw [List.length_nil] at same
                omega
              · exact fun spared => faulty spared.1

/-- Who gets a copy is a matter of the tags. -/
theorem pseudonyms_deliveries_congr {other : ReflectionSummaryBundle}
    {subscribers : List Subscriber} (tags : other.domainTags = bundle.domainTags) :
    (deliveries other subscribers).map Prod.fst = (deliveries bundle subscribers).map Prod.fst := by
  induction subscribers with
  | nil => rfl
  | cons subscriber rest induction =>
      cases delivered : delivery bundle subscriber with
      | none =>
          have neither := (delivery_eq_none_congr tags).mpr delivered
          rw [deliveries_cons_none delivered, deliveries_cons_none neither, induction]
      | some copy =>
          cases same : delivery other subscriber with
          | none =>
              rw [(delivery_eq_none_congr tags).mp same] at delivered
              cases delivered
          | some otherCopy =>
              rw [deliveries_cons_some delivered, deliveries_cons_some same, List.map_cons,
                List.map_cons, induction]

/-- A scope leaves who a bundle is from. -/
theorem entryTo_enforceTransferScope {storedBundle : ReflectionSummaryBundle}
    {scope : VrpTransferScope} (enforced : enforceTransferScope bundle scope = .ok storedBundle)
    (destination : Option String) :
    entryTo storedBundle destination = entryTo bundle destination := by
  cases scope with
  | noTransfer => cases enforced
  | reflectionSummariesOnly =>
      cases enforced
      rfl
  | fullKnowledgeBundle =>
      cases enforced
      rfl

/-- What a scope leaves of a bundle goes where the bundle goes. -/
theorem pseudonyms_enforceTransferScope {storedBundle : ReflectionSummaryBundle}
    {scope : VrpTransferScope} (enforced : enforceTransferScope bundle scope = .ok storedBundle)
    (subscribers : List Subscriber) :
    (deliveries storedBundle subscribers).map Prod.fst =
      (deliveries bundle subscribers).map Prod.fst := by
  apply pseudonyms_deliveries_congr
  cases scope with
  | noTransfer => cases enforced
  | reflectionSummariesOnly =>
      cases enforced
      rfl
  | fullKnowledgeBundle =>
      cases enforced
      rfl

theorem length_deliveries_enforceTransferScope {storedBundle : ReflectionSummaryBundle}
    {scope : VrpTransferScope} (enforced : enforceTransferScope bundle scope = .ok storedBundle)
    (subscribers : List Subscriber) :
    (deliveries storedBundle subscribers).length = (deliveries bundle subscribers).length := by
  have same := congrArg List.length (pseudonyms_enforceTransferScope enforced subscribers)
  rw [List.length_map, List.length_map] at same
  exact same

theorem deliveredEntries_enforceTransferScope {storedBundle : ReflectionSummaryBundle}
    {scope : VrpTransferScope} (enforced : enforceTransferScope bundle scope = .ok storedBundle)
    (subscribers : List Subscriber) :
    deliveredEntries storedBundle subscribers = deliveredEntries bundle subscribers := by
  have byName (bundle : ReflectionSummaryBundle) : deliveredEntries bundle subscribers =
      ((deliveries bundle subscribers).map Prod.fst).map fun pseudonym =>
        entryTo bundle (some pseudonym) := by
    rw [List.map_map]
    rfl
  rw [byName, byName, pseudonyms_enforceTransferScope enforced]
  apply List.map_congr_left
  intro pseudonym _
  exact entryTo_enforceTransferScope enforced _

end Deliver

end Annex.Rtx
