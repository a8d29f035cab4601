import Mathlib.Data.Set.Insert
import Annex.Server.SessionRouter

namespace Annex.Server

/-! What the connection manager is for: a session for each connected pseudonym, and who is
subscribed to what. -/

/-- The live sessions with the place of their queue, the pairs of a channel and a pseudonym
subscribed to it, and the queues opened so far. -/
structure Routes where
  session : String → Option (String × Nat)
  pairs : Set (String × String)
  queue : Nat → Option MessageQueue
  opened : Nat

namespace Routes

def new : Routes := ⟨fun _ => none, ∅, fun _ => none, 0⟩

/-- The session of the pseudonym has the given sender. -/
def SendsTo (routes : Routes) (pseudonym : String) (sender : Nat) : Prop :=
  ∃ sessionId, routes.session pseudonym = some (sessionId, sender)

/-- The pairs without those of the pseudonym. -/
def withoutUser (pairs : Set (String × String)) (pseudonym : String) : Set (String × String) :=
  {pair ∈ pairs | pair.2 ≠ pseudonym}

open Classical in
/-- Offer a message to the queues of the senders that are reached. -/
noncomputable def offer (routes : Routes) (message : String) (reached : Nat → Prop) : Routes :=
  { routes with
    queue := fun sender =>
      (routes.queue sender).map fun queue =>
        if reached sender then queue.trySend message else queue }

open Classical in
/-- What each operation is for. A session ends with its subscriptions, also when another one
takes its place. -/
noncomputable def step (routes : Routes) : RouterOperation → Routes
  | .addSession pseudonym sessionId capacity =>
      { session := Function.update routes.session pseudonym (some (sessionId, routes.opened))
        pairs :=
          if routes.session pseudonym = none then routes.pairs
          else withoutUser routes.pairs pseudonym
        queue := Function.update routes.queue routes.opened (some (.open_ capacity))
        opened := routes.opened + 1 }
  | .disconnectUser pseudonym =>
      if routes.session pseudonym = none then routes
      else
        { routes with
          session := Function.update routes.session pseudonym none
          pairs := withoutUser routes.pairs pseudonym }
  | .removeSession pseudonym sessionId =>
      if ∃ sender, routes.session pseudonym = some (sessionId, sender) then
        { routes with
          session := Function.update routes.session pseudonym none
          pairs := withoutUser routes.pairs pseudonym }
      else routes
  | .subscribe channelId pseudonym =>
      { routes with pairs := insert (channelId, pseudonym) routes.pairs }
  | .unsubscribe channelId pseudonym =>
      { routes with pairs := routes.pairs \ {(channelId, pseudonym)} }
  | .broadcast _ channelId message =>
      routes.offer message fun sender =>
        ∃ pseudonym, (channelId, pseudonym) ∈ routes.pairs ∧ routes.SendsTo pseudonym sender
  | .send pseudonym message => routes.offer message (routes.SendsTo pseudonym)
  | .receive sender =>
      { routes with
        queue := Function.update routes.queue sender ((routes.queue sender).map .receive) }
  | .tell sender message => routes.offer message (· = sender)
  | .close sender =>
      { routes with
        queue := Function.update routes.queue sender ((routes.queue sender).map .close) }

/-- Every live session has a queue of its own. -/
structure Separate (routes : Routes) : Prop where
  distinct : ∀ left right sender, routes.SendsTo left sender → routes.SendsTo right sender →
    left = right
  opened : ∀ pseudonym sender, routes.SendsTo pseudonym sender → sender < routes.opened

end Routes

/-- The maps of the manager hold the sessions and the pairs, each pair from both sides, and
neither has an empty set. -/
structure Refines (router : SessionRouter) (routes : Routes) : Prop where
  sessions : router.sessions = routes.session
  channels : ∀ channelId pseudonym,
    router.channelSubscriptions.Lists channelId pseudonym ↔ (channelId, pseudonym) ∈ routes.pairs
  users : ∀ channelId pseudonym,
    router.userSubscriptions.Lists pseudonym channelId ↔ (channelId, pseudonym) ∈ routes.pairs
  channelSets : router.channelSubscriptions.NonemptySets
  userSets : router.userSubscriptions.NonemptySets
  queues : ∀ sender, router.queues[sender]? = routes.queue sender
  opened : router.queues.length = routes.opened

theorem refines_new : Refines .new .new where
  sessions := rfl
  channels _ _ := iff_of_false (SetMap.not_lists_empty _ _) (Set.notMem_empty _)
  users _ _ := iff_of_false (SetMap.not_lists_empty _ _) (Set.notMem_empty _)
  channelSets := SetMap.nonemptySets_empty
  userSets := SetMap.nonemptySets_empty
  queues _ := List.getElem?_nil
  opened := rfl

namespace Routes

theorem offer_congr {routes : Routes} {message : String} {reached also : Nat → Prop}
    (same : ∀ sender, reached sender ↔ also sender) :
    routes.offer message reached = routes.offer message also :=
  congrArg (routes.offer message) (funext fun sender => propext (same sender))

theorem offer_nobody {routes : Routes} {message : String} {reached : Nat → Prop}
    (nobody : ∀ sender, ¬ reached sender) : routes.offer message reached = routes := by
  have same (sender : Nat) : (routes.offer message reached).queue sender =
      routes.queue sender := by
    unfold offer
    dsimp only
    simp only [if_neg (nobody sender)]
    exact Option.map_id'
  unfold offer at same ⊢
  dsimp only at same
  simp only [same]

/-- Offers to different senders are one offer. -/
theorem offer_offer {routes : Routes} {message : String} {left right : Nat → Prop}
    (disjoint : ∀ sender, left sender → ¬ right sender) :
    (routes.offer message left).offer message right =
      routes.offer message fun sender => left sender ∨ right sender := by
  have same (sender : Nat) : ((routes.offer message left).offer message right).queue sender =
      (routes.offer message fun sender => left sender ∨ right sender).queue sender := by
    unfold offer
    dsimp only
    rw [Option.map_map]
    congr 1
    funext queue
    by_cases onLeft : left sender
    · simp only [Function.comp, if_pos onLeft, if_neg (disjoint sender onLeft),
        if_pos (Or.inl onLeft : left sender ∨ right sender)]
    · by_cases onRight : right sender
      · simp only [Function.comp, if_neg onLeft, if_pos onRight,
          if_pos (Or.inr onRight : left sender ∨ right sender)]
      · simp only [Function.comp, if_neg onLeft, if_neg onRight,
          if_neg (not_or.mpr ⟨onLeft, onRight⟩ : ¬ (left sender ∨ right sender))]
  exact congrArg (fun queue => { routes with queue }) (funext same)

theorem separate_new : Separate .new where
  distinct _ _ _ sends := nomatch sends
  opened _ _ sends := nomatch sends

section Separate

variable {routes : Routes}

/-- Sessions that are there already keep queues of their own. -/
theorem Separate.of_subset {after : Routes} (separate : Separate routes)
    (old : ∀ pseudonym sender, after.SendsTo pseudonym sender → routes.SendsTo pseudonym sender)
    (opened : after.opened = routes.opened) : Separate after where
  distinct left right sender sends also :=
    separate.distinct left right sender (old _ _ sends) (old _ _ also)
  opened pseudonym sender sends := by
    rw [opened]
    exact separate.opened pseudonym sender (old _ _ sends)

theorem sendsTo_of_update {pseudonym other : String} {sender : Nat}
    {session : Option (String × Nat)} {pairs : Set (String × String)}
    {queue : Nat → Option MessageQueue} {opened : Nat}
    (sends : SendsTo ⟨Function.update routes.session pseudonym session, pairs, queue, opened⟩
      other sender) :
    (other = pseudonym ∧ ∃ sessionId, session = some (sessionId, sender)) ∨
      other ≠ pseudonym ∧ routes.SendsTo other sender := by
  rcases sends with ⟨sessionId, found⟩
  dsimp only at found
  by_cases same : other = pseudonym
  · rw [same, Function.update_self] at found
    exact Or.inl ⟨same, sessionId, found⟩
  · rw [Function.update_of_ne same] at found
    exact Or.inr ⟨same, sessionId, found⟩

theorem separate_step (operation : RouterOperation) (separate : Separate routes) :
    Separate (routes.step operation) := by
  have removed (pseudonym : String) (pairs : Set (String × String)) :
      Separate { routes with session := Function.update routes.session pseudonym none, pairs } := by
    refine separate.of_subset ?_ rfl
    intro other sender sends
    rcases sendsTo_of_update sends with ⟨_, _, found⟩ | old
    · cases found
    · exact old.2
  cases operation with
  | addSession pseudonym sessionId capacity =>
      constructor
      · intro left right sender sends also
        rcases sendsTo_of_update sends with ⟨isLeft, _, new⟩ | old
        · rcases sendsTo_of_update also with ⟨isRight, _⟩ | other
          · exact isLeft.trans isRight.symm
          · cases new
            exact absurd (separate.opened _ _ other.2) (Nat.lt_irrefl _)
        · rcases sendsTo_of_update also with ⟨_, _, new⟩ | other
          · cases new
            exact absurd (separate.opened _ _ old.2) (Nat.lt_irrefl _)
          · exact separate.distinct left right sender old.2 other.2
      · intro other sender sends
        rcases sendsTo_of_update sends with ⟨_, _, new⟩ | old
        · cases new
          exact Nat.lt_succ_self _
        · exact Nat.lt_succ_of_lt (separate.opened _ _ old.2)
  | disconnectUser pseudonym =>
      rw [step]
      split
      · exact separate
      · exact removed pseudonym _
  | removeSession pseudonym sessionId =>
      rw [step]
      split
      · exact removed pseudonym _
      · exact separate
  | _ => exact separate.of_subset (fun _ _ sends => sends) rfl

end Separate

end Routes

section Refines

variable {router : SessionRouter} {routes : Routes}

theorem userListed_iff (refines : Refines router routes) {pseudonym : String}
    {channels : Finset String} (found : router.userSubscriptions pseudonym = some channels)
    (channelId : String) : channelId ∈ channels ↔ (channelId, pseudonym) ∈ routes.pairs := by
  rw [← refines.users]
  constructor
  · exact fun member => ⟨channels, found, member⟩
  · intro listed
    rcases listed with ⟨_, stored, member⟩
    rw [found] at stored
    exact Option.some.inj stored ▸ member

/-- A clean-up removes the pairs of the pseudonym. -/
theorem Refines.cleanUp (refines : Refines router routes) (pseudonym : String) :
    Refines (router.cleanUp pseudonym)
      { routes with pairs := Routes.withoutUser routes.pairs pseudonym } := by
  unfold SessionRouter.cleanUp
  cases found : router.userSubscriptions pseudonym with
  | none =>
      have same : Routes.withoutUser routes.pairs pseudonym = routes.pairs := by
        ext pair
        unfold Routes.withoutUser
        rw [Set.mem_ofPred_eq, and_iff_left_iff_imp]
        intro member isUser
        have listed := (refines.users pair.1 pair.2).mpr member
        rw [isUser] at listed
        rcases listed with ⟨_, stored, _⟩
        rw [found] at stored
        cases stored
      rw [same]
      exact refines
  | some channels =>
      constructor
      · exact refines.sessions
      · intro channelId other
        rw [SetMap.lists_eraseAll, refines.channels, userListed_iff refines found]
        constructor
        · intro kept
          exact ⟨kept.1, fun isUser => kept.2 ⟨isUser ▸ kept.1, isUser⟩⟩
        · intro kept
          exact ⟨kept.1, fun erased => kept.2 erased.2⟩
      · intro channelId other
        rw [SetMap.lists_remove, refines.users]
        rfl
      · exact refines.channelSets.eraseAll _ _
      · exact refines.userSets.remove _
      · exact refines.queues
      · exact refines.opened

theorem Refines.cleanPrevious (refines : Refines router routes) (pseudonym : String) :
    Refines (router.cleanPrevious pseudonym)
      { routes with
        pairs :=
          if routes.session pseudonym = none then routes.pairs
          else Routes.withoutUser routes.pairs pseudonym } := by
  unfold SessionRouter.cleanPrevious
  rw [congrFun refines.sessions pseudonym]
  cases routes.session pseudonym with
  | none =>
      rw [if_pos rfl]
      exact refines
  | some session =>
      rw [if_neg (Option.some_ne_none session)]
      exact refines.cleanUp pseudonym

theorem Refines.addSession (refines : Refines router routes) (pseudonym sessionId : String)
    (capacity : Nat) :
    Refines (router.addSession pseudonym sessionId capacity)
      (routes.step (.addSession pseudonym sessionId capacity)) := by
  have cleaned := refines.cleanPrevious pseudonym
  unfold SessionRouter.addSession Routes.step
  constructor
  · dsimp only
    rw [cleaned.sessions, refines.opened]
  · exact cleaned.channels
  · exact cleaned.users
  · exact cleaned.channelSets
  · exact cleaned.userSets
  · intro sender
    dsimp only
    by_cases new : sender = routes.opened
    · rw [new, Function.update_self]
      have isNext := cleaned.opened
      dsimp only at isNext
      rw [← isNext, List.getElem?_concat_length]
    · rw [Function.update_of_ne new]
      have old := cleaned.queues sender
      have isNext := cleaned.opened
      dsimp only at old isNext
      rw [← old, List.getElem?_append]
      split
      · rfl
      · next beyond =>
          rw [List.getElem?_eq_none (by rw [List.length_singleton]; omega),
            List.getElem?_eq_none (by omega)]
  · dsimp only
    rw [List.length_append, cleaned.opened, List.length_singleton]

theorem Refines.removed (refines : Refines router routes) (pseudonym : String) :
    Refines
      (SessionRouter.cleanUp pseudonym
        { router with sessions := Function.update router.sessions pseudonym none })
      { routes with
        session := Function.update routes.session pseudonym none
        pairs := Routes.withoutUser routes.pairs pseudonym } := by
  have without : Refines
      { router with sessions := Function.update router.sessions pseudonym none }
      { routes with session := Function.update routes.session pseudonym none } := by
    refine ⟨?_, refines.channels, refines.users, refines.channelSets, refines.userSets,
      refines.queues, refines.opened⟩
    dsimp only
    rw [refines.sessions]
  exact without.cleanUp pseudonym

/-- A session with another id than the one to remove stays. -/
theorem removeSession_eq_of_stale {pseudonym sessionId : String}
    (stale : ∀ sender, router.sessions pseudonym ≠ some (sessionId, sender)) :
    router.removeSession pseudonym sessionId = router := by
  unfold SessionRouter.removeSession
  cases found : router.sessions pseudonym with
  | none => rfl
  | some session =>
      dsimp only
      rw [if_neg]
      intro same
      exact stale session.2 (found.trans (congrArg some (Prod.ext same rfl)))

theorem removeSession_eq_of_current {pseudonym sessionId : String} {sender : Nat}
    (current : router.sessions pseudonym = some (sessionId, sender)) :
    router.removeSession pseudonym sessionId =
      SessionRouter.cleanUp pseudonym
        { router with sessions := Function.update router.sessions pseudonym none } := by
  unfold SessionRouter.removeSession
  rw [current]
  exact if_pos rfl

theorem Refines.removeSession (refines : Refines router routes) (pseudonym sessionId : String) :
    Refines (router.removeSession pseudonym sessionId)
      (routes.step (.removeSession pseudonym sessionId)) := by
  rw [Routes.step, ← refines.sessions]
  split
  · next current =>
      rcases current with ⟨sender, found⟩
      rw [removeSession_eq_of_current found]
      have removed := refines.removed pseudonym
      rw [← refines.sessions] at removed
      exact removed
  · next stale =>
      rw [removeSession_eq_of_stale fun sender found => stale ⟨sender, found⟩]
      exact refines

theorem Refines.disconnectUser (refines : Refines router routes) (pseudonym : String) :
    Refines (router.disconnectUser pseudonym) (routes.step (.disconnectUser pseudonym)) := by
  rw [Routes.step, SessionRouter.disconnectUser]
  have same := congrFun refines.sessions pseudonym
  cases found : routes.session pseudonym with
  | none =>
      rw [found] at same
      rw [same, if_pos rfl]
      exact refines
  | some session =>
      rw [found] at same
      rw [same, if_neg (Option.some_ne_none session)]
      dsimp only
      rw [removeSession_eq_of_current same]
      exact refines.removed pseudonym

theorem Refines.subscribe (refines : Refines router routes) (channelId pseudonym : String) :
    Refines (router.subscribe channelId pseudonym)
      (routes.step (.subscribe channelId pseudonym)) := by
  constructor
  · exact refines.sessions
  · intro other user
    unfold SessionRouter.subscribe Routes.step
    rw [SetMap.lists_insert, refines.channels, Set.mem_insert_iff, Prod.mk.injEq]
  · intro other user
    unfold SessionRouter.subscribe Routes.step
    rw [SetMap.lists_insert, refines.users, Set.mem_insert_iff, Prod.mk.injEq, and_comm]
  · exact refines.channelSets.insert _ _
  · exact refines.userSets.insert _ _
  · exact refines.queues
  · exact refines.opened

theorem Refines.unsubscribe (refines : Refines router routes) (channelId pseudonym : String) :
    Refines (router.unsubscribe channelId pseudonym)
      (routes.step (.unsubscribe channelId pseudonym)) := by
  constructor
  · exact refines.sessions
  · intro other user
    unfold SessionRouter.unsubscribe Routes.step
    rw [SetMap.lists_erase, refines.channels, Set.mem_sdiff, Set.mem_singleton_iff, Prod.mk.injEq]
  · intro other user
    unfold SessionRouter.unsubscribe Routes.step
    rw [SetMap.lists_erase, refines.users, Set.mem_sdiff, Set.mem_singleton_iff, Prod.mk.injEq,
      @and_comm (user = pseudonym)]
  · exact refines.channelSets.erase _ _
  · exact refines.userSets.erase _ _
  · exact refines.queues
  · exact refines.opened

theorem Refines.onQueue (refines : Refines router routes) (sender : Nat)
    (change : MessageQueue → MessageQueue) :
    Refines (router.onQueue sender change)
      { routes with
        queue := Function.update routes.queue sender ((routes.queue sender).map change) } := by
  refine ⟨refines.sessions, refines.channels, refines.users, refines.channelSets,
    refines.userSets, ?_, ?_⟩
  · intro other
    unfold SessionRouter.onQueue
    dsimp only
    rw [List.getElem?_modify, refines.queues]
    by_cases same : sender = other
    · simp only [if_pos same]
      rw [← same, Function.update_self]
      rfl
    · simp only [if_neg same]
      rw [Function.update_of_ne (Ne.symm same)]
      exact Option.map_id'
  · exact (List.length_modify _ _ _).trans refines.opened

theorem Refines.tell (refines : Refines router routes) (sender : Nat) (message : String) :
    Refines (router.onQueue sender (.trySend message)) (routes.offer message (· = sender)) := by
  have same : Function.update routes.queue sender ((routes.queue sender).map (.trySend message)) =
      (routes.offer message (· = sender)).queue := by
    funext other
    unfold Routes.offer
    dsimp only
    by_cases isSender : other = sender
    · simp only [isSender, Function.update_self, if_true]
    · rw [Function.update_of_ne isSender]
      simp only [if_neg isSender]
      exact Option.map_id'.symm
  have sent := refines.onQueue sender (.trySend message)
  rw [same] at sent
  exact sent

theorem Refines.send (refines : Refines router routes) (message pseudonym : String) :
    Refines (router.send message pseudonym) (routes.offer message (routes.SendsTo pseudonym)) := by
  unfold SessionRouter.send
  rw [refines.sessions]
  cases found : routes.session pseudonym with
  | none =>
      rw [Routes.offer_nobody]
      · exact refines
      · intro sender sends
        rcases sends with ⟨sessionId, current⟩
        rw [found] at current
        cases current
  | some session =>
      have only (sender : Nat) : routes.SendsTo pseudonym sender ↔ sender = session.2 := by
        unfold Routes.SendsTo
        rw [found]
        constructor
        · intro sends
          rcases sends with ⟨sessionId, current⟩
          exact (congrArg Prod.snd (Option.some.inj current)).symm
        · intro isSender
          exact ⟨session.1, congrArg some (Prod.ext rfl isSender.symm)⟩
      rw [Routes.offer_congr only]
      exact refines.tell session.2 message

/-- The loop of a broadcast offers the message to the listeners' queues. -/
theorem Refines.foldl_send (refines : Refines router routes) (separate : routes.Separate)
    (message : String) {pseudonyms : List String} (distinct : pseudonyms.Nodup) :
    Refines (pseudonyms.foldl (SessionRouter.send message) router)
      (routes.offer message fun sender =>
        ∃ pseudonym ∈ pseudonyms, routes.SendsTo pseudonym sender) := by
  induction pseudonyms generalizing router routes with
  | nil =>
      rw [Routes.offer_nobody fun sender found => by simp at found]
      exact refines
  | cons first rest induction =>
      rw [List.nodup_cons] at distinct
      have kept : (routes.offer message (routes.SendsTo first)).Separate :=
        separate.of_subset (fun _ _ sends => sends) rfl
      have sent := induction (refines.send message first) kept distinct.2
      rw [Routes.offer_offer] at sent
      · rw [Routes.offer_congr fun sender => List.exists_mem_cons_iff _ _ _]
        exact sent
      · intro sender sendsFirst found
        rcases found with ⟨pseudonym, member, sends⟩
        rw [separate.distinct pseudonym first sender sends sendsFirst] at member
        exact distinct.1 member

theorem Refines.broadcast (refines : Refines router routes) (separate : routes.Separate)
    (order : SetOrder) (channelId message : String) :
    Refines (router.broadcast order channelId message)
      (routes.step (.broadcast order channelId message)) := by
  unfold SessionRouter.broadcast
  rw [Routes.step]
  cases found : router.channelSubscriptions channelId with
  | none =>
      rw [Routes.offer_nobody]
      · exact refines
      · intro sender reached
        rcases reached with ⟨pseudonym, paired, _⟩
        rcases (refines.channels channelId pseudonym).mpr paired with ⟨_, stored, _⟩
        rw [found] at stored
        cases stored
  | some listeners =>
      have listed (pseudonym : String) : (channelId, pseudonym) ∈ routes.pairs ↔
          pseudonym ∈ order.toList listeners := by
        rw [order.mem_toList, ← refines.channels]
        constructor
        · intro listed
          rcases listed with ⟨_, stored, member⟩
          rw [found] at stored
          exact Option.some.inj stored ▸ member
        · exact fun member => ⟨listeners, found, member⟩
      simp only [listed]
      exact refines.foldl_send separate message (order.nodup listeners)

/-- Each operation does to the maps what it is for. -/
theorem Refines.step (refines : Refines router routes) (separate : routes.Separate)
    (operation : RouterOperation) : Refines (router.step operation) (routes.step operation) := by
  cases operation with
  | addSession pseudonym sessionId capacity => exact refines.addSession _ _ _
  | disconnectUser pseudonym => exact refines.disconnectUser _
  | removeSession pseudonym sessionId => exact refines.removeSession _ _
  | subscribe channelId pseudonym => exact refines.subscribe _ _
  | unsubscribe channelId pseudonym => exact refines.unsubscribe _ _
  | broadcast order channelId message => exact refines.broadcast separate _ _ _
  | send pseudonym message => exact refines.send _ _
  | receive sender => exact refines.onQueue _ _
  | tell sender message => exact refines.tell _ _
  | close sender => exact refines.onQueue _ _

end Refines

/-- The broadcast of a message on a channel puts it once into the queue of each live session
whose pseudonym is paired with the channel, if there is room, and changes nothing else. -/
structure EnqueuesExactly (routes : Routes) (channelId message : String)
    (before after : SessionRouter) : Prop where
  once : ∀ pseudonym sessionId sender queue,
    routes.session pseudonym = some (sessionId, sender) → before.queues[sender]? = some queue →
      (channelId, pseudonym) ∈ routes.pairs → queue.HasRoom →
        after.queues[sender]? = some (queue.push message)
  others : ∀ sender queue, before.queues[sender]? = some queue →
    (∀ pseudonym sessionId, routes.session pseudonym = some (sessionId, sender) →
      (channelId, pseudonym) ∈ routes.pairs → ¬ queue.HasRoom) →
        after.queues[sender]? = some queue
  routed : after.sessions = before.sessions ∧
    after.channelSubscriptions = before.channelSubscriptions ∧
      after.userSubscriptions = before.userSubscriptions ∧
        after.queues.length = before.queues.length

theorem foldl_send_eq (router : SessionRouter) (message : String) (pseudonyms : List String) :
    ∃ queues, queues.length = router.queues.length ∧
      pseudonyms.foldl (SessionRouter.send message) router = { router with queues } := by
  induction pseudonyms generalizing router with
  | nil => exact ⟨router.queues, rfl, rfl⟩
  | cons first rest induction =>
      have sent : ∃ queues, queues.length = router.queues.length ∧
          router.send message first = { router with queues } := by
        unfold SessionRouter.send
        cases router.sessions first with
        | none => exact ⟨router.queues, rfl, rfl⟩
        | some session => exact ⟨_, List.length_modify _ _ _, rfl⟩
      rcases sent with ⟨queues, size, sent⟩
      rcases induction (router.send message first) with ⟨later, laterSize, same⟩
      rw [List.foldl_cons, same, sent]
      rw [sent] at laterSize
      exact ⟨later, laterSize.trans size, rfl⟩

theorem enqueuesExactly_broadcast {router : SessionRouter} {routes : Routes}
    (refines : Refines router routes) (separate : routes.Separate) (order : SetOrder)
    (channelId message : String) :
    EnqueuesExactly routes channelId message router
      (router.broadcast order channelId message) := by
  have offered (sender : Nat) :
      (router.broadcast order channelId message).queues[sender]? =
        (routes.step (.broadcast order channelId message)).queue sender :=
    (refines.broadcast separate order channelId message).queues sender
  constructor
  · intro pseudonym sessionId sender queue live found paired hasRoom
    rw [offered, Routes.step, Routes.offer]
    dsimp only
    rw [← refines.queues, found, Option.map_some, if_pos ⟨pseudonym, paired, sessionId, live⟩,
      MessageQueue.trySend, if_pos hasRoom]
  · intro sender queue found unreached
    rw [offered, Routes.step, Routes.offer]
    dsimp only
    rw [← refines.queues, found, Option.map_some]
    split
    · next reached =>
        rcases reached with ⟨pseudonym, paired, sessionId, live⟩
        rw [MessageQueue.trySend, if_neg (unreached pseudonym sessionId live paired)]
    · rfl
  · unfold SessionRouter.broadcast
    cases router.channelSubscriptions channelId with
    | none => exact ⟨rfl, rfl, rfl, rfl⟩
    | some listeners =>
        rcases foldl_send_eq router message (order.toList listeners) with ⟨queues, size, same⟩
        dsimp only
        rw [same]
        exact ⟨rfl, rfl, rfl, size⟩

/-- The routers and the routes after the same operations. -/
theorem refines_run (operations : List RouterOperation) :
    Refines (Execution.run SessionRouter.step .new operations)
        (Execution.run Routes.step .new operations) ∧
      (Execution.run Routes.step .new operations).Separate := by
  induction operations using List.reverseRecOn with
  | nil => exact ⟨refines_new, Routes.separate_new⟩
  | append_singleton earlier operation induction =>
      rw [Execution.run_concat, Execution.run_concat]
      exact ⟨induction.1.step induction.2 operation,
        Routes.separate_step operation induction.2⟩

/-- After any operations the manager holds exactly the live sessions and the pairs, a broadcast
enqueues its message exactly where it should, and a stale removal changes nothing. -/
theorem routing_refines (operations : List RouterOperation) :
    Refines (Execution.run SessionRouter.step .new operations)
        (Execution.run Routes.step .new operations) ∧
      (Execution.run Routes.step .new operations).Separate ∧
      (∀ order channelId message,
        EnqueuesExactly (Execution.run Routes.step .new operations) channelId message
          (Execution.run SessionRouter.step .new operations)
          ((Execution.run SessionRouter.step .new operations).step
            (.broadcast order channelId message))) ∧
      ∀ pseudonym sessionId,
        (∀ sender, (Execution.run Routes.step .new operations).session pseudonym ≠
          some (sessionId, sender)) →
        (Execution.run SessionRouter.step .new operations).step
            (.removeSession pseudonym sessionId) =
          Execution.run SessionRouter.step .new operations := by
  rcases refines_run operations with ⟨refines, separate⟩
  refine ⟨refines, separate, ?_, ?_⟩
  · intro order channelId message
    exact enqueuesExactly_broadcast refines separate order channelId message
  · intro pseudonym sessionId stale
    apply removeSession_eq_of_stale
    rw [refines.sessions]
    exact stale

end Annex.Server
