import Annex.Server.EventRecords
import Annex.Server.VerificationTrace

namespace Annex.Server

open Db Graph Identity Observe Sql Vrp

/-! What the log of events says about the nodes of the presence graph. -/

/-- The events about the presence of a node. -/
def isPresence (event : PublicEvent) : Bool :=
  event.eventType = "NODE_ADDED" || event.eventType = "NODE_REACTIVATED" ||
    event.eventType = "NODE_PRUNED"

/-- What the last presence event of a node says: that it is active, or that it is not. The log
is in the order of its sequence numbers (`GapFree.lt_of_append`). -/
def lastPresence (serverId : Nat) (pseudonymId : String) (database : Database) : Option Bool :=
  ((database.publicEventLog.rows.filter fun event =>
    event.serverId = serverId && event.entityId = pseudonymId &&
      isPresence event).getLast?).map fun event => event.eventType ≠ "NODE_PRUNED"

/-- Each node is active exactly when its last presence event says so. -/
def Audited (database : Database) : Prop :=
  ∀ node ∈ database.graphNodes.rows,
    lastPresence node.serverId node.pseudonymId database = some node.active

instance (database : Database) : Decidable (Audited database) :=
  inferInstanceAs (Decidable (∀ node ∈ database.graphNodes.rows, _))

/-- What a payload says about the presence of a node. -/
def presenceOf : EventPayload → Option Bool
  | .nodeAdded .. => some true
  | .nodeReactivated .. => some true
  | .nodePruned .. => some false
  | _ => none

def nodeKeys (database : Database) : List (Nat × String) :=
  database.graphNodes.rows.map fun node => (node.serverId, node.pseudonymId)

/-- Which nodes there are and which of them are active, and what the log says of them. -/
def presenceView (database : Database) :
    List ((Nat × String) × Bool) × (Nat → String → Option Bool) :=
  (database.graphNodes.rows.map fun node => ((node.serverId, node.pseudonymId), node.active),
    fun serverId pseudonymId => lastPresence serverId pseudonymId database)

/-- A node is as the log says, or as before, and the log says the same of it as before. -/
structure Accounted (before after : Database) : Prop where
  distinct : (nodeKeys before).Nodup → (nodeKeys after).Nodup
  noted : ∀ node ∈ after.graphNodes.rows,
    lastPresence node.serverId node.pseudonymId after = some node.active ∨
      lastPresence node.serverId node.pseudonymId after =
          lastPresence node.serverId node.pseudonymId before ∧
        ∃ old ∈ before.graphNodes.rows, old.serverId = node.serverId ∧
          old.pseudonymId = node.pseudonymId ∧ old.active = node.active

section Accounted

variable {first second third : Database}

theorem Accounted.audited (accounted : Accounted first second) (audited : Audited first) :
    Audited second := by
  intro node member
  rcases accounted.noted node member with noted | ⟨same, old, oldMember, server, pseudonym, active⟩
  · exact noted
  · rw [same, ← active, ← server, ← pseudonym]
    exact audited old oldMember

theorem Accounted.trans (earlier : Accounted first second) (later : Accounted second third) :
    Accounted first third := by
  constructor
  · exact fun distinct => later.distinct (earlier.distinct distinct)
  · intro node member
    rcases later.noted node member with noted | ⟨same, old, oldMember, server, pseudonym, active⟩
    · exact Or.inl noted
    · have before := earlier.noted old oldMember
      rw [server, pseudonym, active] at before
      rw [same]
      exact before

theorem nodeKeys_eq_of_view (same : presenceView second = presenceView first) :
    nodeKeys second = nodeKeys first := by
  have keys := congrArg (fun view => view.1.map Prod.fst) same
  simp only [presenceView, List.map_map] at keys
  exact keys

theorem exists_mem_of_view (same : presenceView second = presenceView first) {node : GraphNode}
    (member : node ∈ second.graphNodes.rows) :
    ∃ old ∈ first.graphNodes.rows, old.serverId = node.serverId ∧
      old.pseudonymId = node.pseudonymId ∧ old.active = node.active := by
  have flag : ((node.serverId, node.pseudonymId), node.active) ∈ (presenceView second).1 :=
    List.mem_map_of_mem member
  rw [same] at flag
  rcases List.mem_map.mp flag with ⟨old, oldMember, isOld⟩
  simp only [Prod.mk.injEq] at isOld
  exact ⟨old, oldMember, isOld.1.1, isOld.1.2, isOld.2⟩

theorem lastPresence_of_view (same : presenceView second = presenceView first) (serverId : Nat)
    (pseudonymId : String) :
    lastPresence serverId pseudonymId second = lastPresence serverId pseudonymId first :=
  congrFun (congrFun (congrArg Prod.snd same) serverId) pseudonymId

theorem accounted_of_view (same : presenceView second = presenceView first) :
    Accounted first second := by
  constructor
  · rw [nodeKeys_eq_of_view same]
    exact id
  · intro node member
    exact Or.inr ⟨lastPresence_of_view same _ _, exists_mem_of_view same member⟩

theorem accounted_refl (database : Database) : Accounted database database :=
  accounted_of_view rfl

end Accounted

/-! What one event says. -/

section Events

variable {now entityId : String} {serverId : Nat} {payload : EventPayload} {database : Database}

theorem presenceOf_eq {event : PublicEvent} (isType : event.eventType = payload.eventType) :
    presenceOf payload =
      if isPresence event then some (decide (event.eventType ≠ "NODE_PRUNED")) else none := by
  unfold isPresence
  rw [isType]
  cases payload <;> simp [EventPayload.eventType, presenceOf]

/-- The log after an event. -/
def withEvent (now : String) (serverId : Nat) (entityId : String) (payload : EventPayload)
    (database : Database) : Database :=
  { database with
    publicEventLog := (logged now serverId entityId payload database.publicEventLog).2 }

theorem getLast?_filter_concat {α : Type} (selected : α → Bool) (rows : List α) (last : α) :
    ((rows ++ [last]).filter selected).getLast? =
      if selected last then some last else (rows.filter selected).getLast? := by
  rw [List.filter_append]
  split
  · next isSelected => rw [List.filter_cons_of_pos isSelected, List.getLast?_append]; rfl
  · next others => rw [List.filter_cons_of_neg others, List.filter_nil, List.append_nil]

theorem lastPresence_withEvent (other : Nat) (pseudonymId : String) :
    lastPresence other pseudonymId (withEvent now serverId entityId payload database) =
      if serverId = other ∧ entityId = pseudonymId then
        (presenceOf payload).or (lastPresence other pseudonymId database)
      else lastPresence other pseudonymId database := by
  have meaning := @presenceOf_eq payload
    (logged now serverId entityId payload database.publicEventLog).1 rfl
  have selects : (serverId = other ∧ entityId = pseudonymId) ↔
      ((logged now serverId entityId payload database.publicEventLog).1.serverId = other ∧
        (logged now serverId entityId payload database.publicEventLog).1.entityId =
          pseudonymId) := Iff.rfl
  have rows : (withEvent now serverId entityId payload database).publicEventLog.rows =
      database.publicEventLog.rows ++
        [(logged now serverId entityId payload database.publicEventLog).1] := rfl
  rw [lastPresence, rows, getLast?_filter_concat]
  simp only [selects]
  generalize (logged now serverId entityId payload database.publicEventLog).1 = event at meaning ⊢
  by_cases own : event.serverId = other ∧ event.entityId = pseudonymId
  · rw [if_pos own, meaning]
    cases speaks : isPresence event with
    | true => simp [own.1, own.2]
    | false =>
        simp only [own.1, own.2, Bool.and_false, Bool.false_eq_true, if_false]
        rfl
  · rw [if_neg own, if_neg]
    · rfl
    · simp only [Bool.and_eq_true, decide_eq_true_eq]
      exact fun matching => own matching.1

/-- An event about something else. -/
theorem presenceView_withEvent (silent : presenceOf payload = none) :
    presenceView (withEvent now serverId entityId payload database) = presenceView database := by
  apply Prod.ext
  · rfl
  · funext other pseudonymId
    refine (lastPresence_withEvent other pseudonymId).trans ?_
    rw [silent]
    exact ite_id _

theorem emitAndBroadcast_presenceView {Error : Type} (silent : presenceOf payload = none) :
    Keeps presenceView (emitAndBroadcast now serverId entityId payload :
      Sql Database (List Outbound) Error Unit) := by
  intro view session held
  cases fault : faultAt session.faults 0 with
  | some text =>
      rw [emitAndBroadcast_faulty fault]
      exact held
  | none =>
      rw [emitAndBroadcast_done fault]
      exact (presenceView_withEvent silent).trans held

end Events

/-! What the statements on the nodes do. -/

section Nodes

variable {now pseudonymId : String} {serverId : Nat} {database changed : Database}

def isNode (serverId : Nat) (pseudonymId : String) (row : GraphNode) : Bool :=
  row.serverId = serverId && row.pseudonymId = pseudonymId

theorem isNode_iff {row : GraphNode} :
    isNode serverId pseudonymId row = true ↔
      row.serverId = serverId ∧ row.pseudonymId = pseudonymId := by
  simp [isNode]

/-- A change of nodes that leaves them whose they are. -/
theorem nodeKeys_updateWhere {selected : GraphNode → Bool} {change : GraphNode → GraphNode}
    {keyed : ∀ row, key (change row) = key row}
    (nodes : changed.graphNodes = database.graphNodes.updateWhere selected change keyed)
    (same : ∀ row, (change row).serverId = row.serverId ∧
      (change row).pseudonymId = row.pseudonymId) :
    nodeKeys changed = nodeKeys database := by
  unfold nodeKeys
  rw [nodes, Table.rows_updateWhere, List.map_map]
  apply List.map_congr_left
  intro row _
  dsimp only [Function.comp]
  split
  · rw [(same row).1, (same row).2]
  · rfl

/-- The node of a pseudonym is made active or not, and the log does not say so yet. -/
structure Switched (serverId : Nat) (pseudonymId : String) (active : Bool)
    (before after : Database) : Prop where
  silent : ∀ other user, lastPresence other user after = lastPresence other user before
  distinct : (nodeKeys before).Nodup → (nodeKeys after).Nodup
  nodes : ∀ node ∈ after.graphNodes.rows,
    isNode serverId pseudonymId node = true ∧ node.active = active ∨
      isNode serverId pseudonymId node = false ∧ ∃ old ∈ before.graphNodes.rows,
        old.serverId = node.serverId ∧ old.pseudonymId = node.pseudonymId ∧
          old.active = node.active

theorem Switched.accounted {payload : EventPayload} {active : Bool}
    (switched : Switched serverId pseudonymId active database changed)
    (meaning : presenceOf payload = some active) :
    Accounted database (withEvent now serverId pseudonymId payload changed) := by
  refine ⟨switched.distinct, ?_⟩
  intro node member
  rw [lastPresence_withEvent, switched.silent]
  rcases switched.nodes node member with ⟨own, isActive⟩ | ⟨other, old⟩
  · left
    rcases isNode_iff.mp own with ⟨server, pseudonym⟩
    rw [if_pos ⟨server.symm, pseudonym.symm⟩, meaning, isActive]
    rfl
  · right
    have different : ¬ (serverId = node.serverId ∧ pseudonymId = node.pseudonymId) := by
      intro same
      rw [← Bool.not_eq_true] at other
      exact other (isNode_iff.mpr ⟨same.1.symm, same.2.symm⟩)
    rw [if_neg different]
    exact ⟨rfl, old⟩

/-- What comes before may leave the nodes and what the log says of them as they are. -/
theorem Switched.of_view {active : Bool} {middle : Database}
    (switched : Switched serverId pseudonymId active middle changed)
    (same : presenceView middle = presenceView database) :
    Switched serverId pseudonymId active database changed := by
  refine ⟨?_, ?_, ?_⟩
  · intro other user
    exact (switched.silent other user).trans (lastPresence_of_view same other user)
  · rw [← nodeKeys_eq_of_view same]
    exact switched.distinct
  · intro node member
    rcases switched.nodes node member with own | ⟨other, old, oldMember, isOld⟩
    · exact Or.inl own
    · rcases exists_mem_of_view same oldMember with ⟨first, firstMember, isFirst⟩
      exact Or.inr ⟨other, first, firstMember, isFirst.1.trans isOld.1,
        isFirst.2.1.trans isOld.2.1, isFirst.2.2.trans isOld.2.2⟩

variable {nodeType : NodeType} {metadataJson : Option AgentMetadata}

theorem switched_upsertGraphNode
    (silent : ∀ other user, lastPresence other user changed = lastPresence other user database)
    (nodes : changed.graphNodes =
      (upsertGraphNode serverId pseudonymId nodeType metadataJson now database).graphNodes) :
    Switched serverId pseudonymId true database changed := by
  unfold upsertGraphNode Table.upsert at nodes
  dsimp only at nodes
  split at nodes
  · refine ⟨silent, ?_, ?_⟩
    · rw [nodeKeys_updateWhere nodes fun _ => ⟨rfl, rfl⟩]
      exact id
    · intro node member
      rw [nodes] at member
      rcases List.mem_map.mp member with ⟨old, oldMember, isNode⟩
      rw [← isNode]
      split
      · next own => exact Or.inl ⟨own, rfl⟩
      · next other =>
        exact Or.inr ⟨Bool.eq_false_iff.mpr other, old, oldMember, rfl, rfl, rfl⟩
  · next new =>
    refine ⟨silent, ?_, ?_⟩
    · intro distinct
      unfold nodeKeys
      rw [nodes, Table.rows_insert, List.map_append, List.map_singleton]
      apply List.Nodup.append distinct (List.nodup_singleton _)
      intro nodeKey old isNew
      rw [List.mem_singleton.mp isNew] at old
      rcases List.mem_map.mp old with ⟨row, member, same⟩
      rw [Prod.mk.injEq] at same
      apply new
      exact List.any_eq_true.mpr ⟨row, member, isNode_iff.mpr same⟩
    · intro node member
      rw [nodes] at member
      rcases Table.mem_insert.mp member with old | isNew
      · right
        refine ⟨?_, node, old, rfl, rfl, rfl⟩
        rw [Bool.not_eq_true, List.any_eq_false] at new
        exact Bool.eq_false_iff.mpr (new node old)
      · left
        rw [isNew]
        exact ⟨isNode_iff.mpr ⟨rfl, rfl⟩, rfl⟩

theorem updateNode_ensures {Memory : Type} {memory : Memory} {active : Bool}
    {change : GraphNode → GraphNode} {keyed : ∀ row, key (change row) = key row} :
    Ensures (updateNode serverId pseudonymId active change keyed :
        Sql Database Memory GraphError Nat) database memory fun result changed after =>
      after = memory ∧ match result with
        | .ok count =>
            count = database.graphNodes.rows.countP (hasActivity serverId pseudonymId active) ∧
            changed.graphNodes.rows = (database.graphNodes.rows.map fun row =>
              if hasActivity serverId pseudonymId active row then change row else row) ∧
            ∀ other user, lastPresence other user changed = lastPresence other user database
        | .error _ => changed = database := by
  apply ensures_statement
  · exact fun _ => ⟨rfl, rfl⟩
  · intro count changed done
    cases done
    exact ⟨rfl, rfl, rfl, fun _ _ => rfl⟩
  · exact fun _ _ => ⟨rfl, rfl⟩

/-- A change that leaves the nodes whose they are, and as active as they are. -/
theorem presenceView_of_map {change : GraphNode → GraphNode}
    (rows : changed.graphNodes.rows = database.graphNodes.rows.map change)
    (same : ∀ row ∈ database.graphNodes.rows, (change row).serverId = row.serverId ∧
      (change row).pseudonymId = row.pseudonymId ∧ (change row).active = row.active)
    (silent : ∀ other user, lastPresence other user changed = lastPresence other user database) :
    presenceView changed = presenceView database := by
  apply Prod.ext
  · unfold presenceView
    dsimp only
    rw [rows, List.map_map]
    apply List.map_congr_left
    intro row member
    rcases same row member with ⟨server, pseudonym, active⟩
    rw [Function.comp, server, pseudonym, active]
  · funext other user
    exact silent other user

theorem rows_of_none {active : Bool}
    (none : database.graphNodes.rows.countP (hasActivity serverId pseudonymId active) = 0)
    (change : GraphNode → GraphNode) :
    (database.graphNodes.rows.map fun row =>
      if hasActivity serverId pseudonymId active row then change row else row) =
        database.graphNodes.rows := by
  rw [List.countP_eq_zero] at none
  conv_rhs => rw [← List.map_id database.graphNodes.rows]
  exact List.map_congr_left fun row member => if_neg (none row member)

theorem hasActivity_eq {active : Bool} {row : GraphNode} :
    hasActivity serverId pseudonymId active row =
      (isNode serverId pseudonymId row && decide (row.active = active)) := rfl

/-- A node is noted as seen, and comes back if it was inactive. -/
theorem updateNodeActivity_ensures {Memory : Type} {memory : Memory} :
    Ensures (updateNodeActivity now serverId pseudonymId : Sql Database Memory GraphError Bool)
      database memory fun result changed after => after = memory ∧
        (result = .ok true → Switched serverId pseudonymId true database changed) ∧
        (result ≠ .ok true → presenceView changed = presenceView database) := by
  apply ensures_bind
  refine ensures_mono ?_ updateNode_ensures
  intro result noticed after held
  cases result with
  | error error =>
      rw [andThen_error]
      exact ⟨held.1, fun failed => (by cases failed), fun _ => congrArg presenceView held.2⟩
  | ok count =>
      rcases held with ⟨isAfter, isCount, rows, silent⟩
      have unchanged : presenceView noticed = presenceView database := by
        apply presenceView_of_map rows _ silent
        intro row _
        split <;> exact ⟨rfl, rfl, rfl⟩
      rw [andThen_ok]
      split
      · rw [ensures_pure]
        exact ⟨isAfter, fun same => (by cases same), fun _ => unchanged⟩
      · next none =>
        apply ensures_bind
        refine ensures_mono ?_ updateNode_ensures
        intro result changed last held
        cases result with
        | error error =>
            rw [andThen_error]
            refine ⟨held.1.trans isAfter, fun failed => (by cases failed), fun _ => ?_⟩
            rw [held.2]
            exact unchanged
        | ok second =>
            rcases held with ⟨isLast, isSecond, lastRows, lastSilent⟩
            rw [andThen_ok, ensures_pure]
            have allSilent : ∀ other user,
                lastPresence other user changed = lastPresence other user database :=
              fun other user => (lastSilent other user).trans (silent other user)
            have same := rows_of_none (isCount ▸ Nat.eq_zero_of_not_pos none) (seen now)
            rw [rows, same] at lastRows isSecond
            refine ⟨isLast.trans isAfter, fun _ => ⟨allSilent, ?_, ?_⟩, ?_⟩
            · have keys : nodeKeys changed = nodeKeys database := by
                unfold nodeKeys
                rw [lastRows, List.map_map]
                apply List.map_congr_left
                intro row _
                dsimp only [Function.comp]
                split <;> rfl
              rw [keys]
              exact id
            · intro node member
              rw [lastRows] at member
              rcases List.mem_map.mp member with ⟨old, oldMember, isNode⟩
              have inactive := List.countP_eq_zero.mp
                (isCount ▸ Nat.eq_zero_of_not_pos none) old oldMember
              rw [← isNode]
              split
              · next back =>
                rw [hasActivity_eq, Bool.and_eq_true] at back
                exact Or.inl ⟨back.1, rfl⟩
              · next other =>
                -- it is not inactive, and no node of the pseudonym is active
                right
                refine ⟨?_, old, oldMember, rfl, rfl, rfl⟩
                rw [hasActivity_eq] at inactive other
                cases own : Server.isNode serverId pseudonymId old with
                | false => rfl
                | true => cases active : old.active <;> simp [own, active] at inactive other
            · intro unchangedCount
              have isNone : second = 0 :=
                Nat.eq_zero_of_not_pos fun some =>
                  unchangedCount (congrArg Except.ok (decide_eq_true some))
              rw [rows_of_none (isSecond ▸ isNone) (reactivated now)] at lastRows
              refine @presenceView_of_map _ _ id ?_ (fun _ _ => ⟨rfl, rfl, rfl⟩) allSilent
              rw [lastRows, List.map_id]

theorem pruneInactiveNodes_ensures {Memory : Type} {memory : Memory}
    {secondsAgo : Nat → Option String} {thresholdSeconds : Nat} :
    Ensures (pruneInactiveNodes secondsAgo serverId thresholdSeconds :
        Sql Database Memory GraphError (List String)) database memory fun result changed after =>
      after = memory ∧ match result with
        | .ok pruned => thresholdSeconds < 2 ^ 63 ∧
            pruned = (database.graphNodes.rows.filter
              (isInactive serverId (secondsAgo thresholdSeconds))).map GraphNode.pseudonymId ∧
            changed.graphNodes.rows = (database.graphNodes.rows.map fun row =>
              if isInactive serverId (secondsAgo thresholdSeconds) row then
                { row with active := false }
              else row) ∧
            ∀ other user, lastPresence other user changed = lastPresence other user database
        | .error _ => changed = database := by
  apply ensures_statement
  · exact fun _ => ⟨rfl, rfl⟩
  · intro pruned changed done
    split at done
    · next bounded =>
      cases done
      exact ⟨rfl, bounded, rfl, rfl, fun _ _ => rfl⟩
    · cases done
  · exact fun _ _ => ⟨rfl, rfl⟩

/-- The log after the events of pruned nodes. -/
def withPruned (now : String) (serverId : Nat) (pruned : List String) (database : Database) :
    Database :=
  pruned.foldl (fun database pseudonymId =>
    withEvent now serverId pseudonymId (.nodePruned pseudonymId) database) database

theorem graphNodes_withPruned (pruned : List String) :
    (withPruned now serverId pruned database).graphNodes = database.graphNodes := by
  induction pruned generalizing database with
  | nil => rfl
  | cons first rest induction => exact induction

theorem lastPresence_withPruned (pruned : List String) (other : Nat) (user : String) :
    lastPresence other user (withPruned now serverId pruned database) =
      if serverId = other ∧ user ∈ pruned then some false
      else lastPresence other user database := by
  induction pruned generalizing database with
  | nil => simp [withPruned]
  | cons first rest induction =>
      refine induction.trans ?_
      rw [lastPresence_withEvent]
      by_cases server : serverId = other
      · by_cases later : user ∈ rest
        · simp [server, later]
        · by_cases isFirst : first = user
          · simp [server, isFirst, presenceOf]
          · simp [server, later, isFirst, Ne.symm isFirst]
      · simp [server]

theorem accounted_pruned {selected : GraphNode → Bool}
    (own : ∀ row, selected row = true → row.serverId = serverId)
    (distinct : (nodeKeys database).Nodup)
    (rows : changed.graphNodes.rows = (database.graphNodes.rows.map fun row =>
      if selected row then { row with active := false } else row))
    (silent : ∀ other user, lastPresence other user changed = lastPresence other user database) :
    Accounted database (withPruned now serverId
      ((database.graphNodes.rows.filter selected).map GraphNode.pseudonymId) changed) := by
  constructor
  · intro _
    have keys : nodeKeys changed = nodeKeys database := by
      unfold nodeKeys
      rw [rows, List.map_map]
      apply List.map_congr_left
      intro row _
      dsimp only [Function.comp]
      split <;> rfl
    have same (pruned : List String) :
        nodeKeys (withPruned now serverId pruned changed) = nodeKeys changed := by
      unfold nodeKeys
      rw [graphNodes_withPruned]
    rw [same, keys]
    exact distinct
  · intro node member
    rw [graphNodes_withPruned, rows] at member
    rcases List.mem_map.mp member with ⟨old, oldMember, isNode⟩
    rw [lastPresence_withPruned, silent]
    by_cases isSelected : selected old = true
    · rw [if_pos isSelected] at isNode
      rw [← isNode]
      left
      apply if_pos
      refine ⟨(own old isSelected).symm, ?_⟩
      exact List.mem_map.mpr ⟨old, List.mem_filter.mpr ⟨oldMember, isSelected⟩, rfl⟩
    · rw [if_neg isSelected] at isNode
      rw [← isNode]
      right
      refine ⟨if_neg ?_, old, oldMember, rfl, rfl, rfl⟩
      -- a pruned node of this name is the node itself
      intro pruned
      rcases List.mem_map.mp pruned.2 with ⟨row, rowMember, same⟩
      rcases List.mem_filter.mp rowMember with ⟨rowMember, rowSelected⟩
      have sameKey : (row.serverId, row.pseudonymId) = (old.serverId, old.pseudonymId) :=
        Prod.ext ((own row rowSelected).trans pruned.1) same
      have isOld := List.inj_on_of_nodup_map distinct rowMember oldMember sameKey
      rw [← isOld] at isSelected
      exact isSelected rowSelected

end Nodes

end Annex.Server
