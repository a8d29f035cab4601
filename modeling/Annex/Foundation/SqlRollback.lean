import Annex.Foundation.SqlJournal

namespace Annex.Sql

/-! Which faults undo what a transaction has announced. -/

variable {Database Memory Whole Extended Entry Key Error Inner α β : Type}

/-- What a program comes to: a statement that it needs, an entry that it writes and announces
if it can, or something that fails whatever the faults. -/
inductive Slot where
  | statement
  | emission
  | refusal
deriving DecidableEq, Repr

namespace Slot

/-- A statement with the given outcome. -/
def ofStatement : Except Error α → Slot
  | .ok _ => .statement
  | .error _ => .refusal

/-- A computation with the given outcome. -/
def ofResult : Except Error α → List Slot
  | .ok _ => []
  | .error _ => [.refusal]

def ofCondition (condition : Prop) [Decidable condition] : List Slot :=
  if condition then [] else [.refusal]

/-- An `INSERT` that a row may stand in the way of. -/
def ofTaken (taken : Bool) : Slot :=
  if taken then .refusal else .statement

theorem silent_ofStatement (result : Except Error α) : emission ∉ [ofStatement result] := by
  cases result with
  | error error => exact (by decide : emission ∉ [refusal])
  | ok value => exact (by decide : emission ∉ [statement])

theorem silent_ofResult (result : Except Error α) : emission ∉ ofResult result := by
  cases result with
  | error error => exact (by decide : emission ∉ [refusal])
  | ok value => exact List.not_mem_nil

theorem silent_ofCondition (condition : Prop) [Decidable condition] :
    emission ∉ ofCondition condition := by
  unfold ofCondition
  split <;> decide

theorem silent_ofTaken (taken : Bool) : emission ∉ [ofTaken taken] := by
  cases taken <;> decide

end Slot

/-- No statement that the program needs is made to fail. -/
def Completes : List Slot → List (Option String) → Prop
  | [], _ => True
  | .statement :: rest, faults => faultAt faults 0 = none ∧ Completes rest faults.tail
  | .emission :: rest, faults => Completes rest faults.tail
  | .refusal :: _, _ => False

/-- The program writes an entry, whether or not it fails later. -/
def Emits : List Slot → List (Option String) → Prop
  | [], _ => False
  | .statement :: rest, faults => faultAt faults 0 = none ∧ Emits rest faults.tail
  | .emission :: rest, faults => faultAt faults 0 = none ∨ Emits rest faults.tail
  | .refusal :: _, _ => False

/-- A transaction that writes an entry is not made to fail, nor is its commit. -/
def Stands (slots : List Slot) (faults : List (Option String)) : Prop :=
  Emits slots faults → Completes slots faults ∧ faultAt faults slots.length = none

instance decidableCompletes : (slots : List Slot) → (faults : List (Option String)) →
    Decidable (Completes slots faults)
  | [], _ => .isTrue trivial
  | .statement :: rest, faults =>
      have := decidableCompletes rest faults.tail
      inferInstanceAs (Decidable (_ ∧ _))
  | .emission :: rest, faults => decidableCompletes rest faults.tail
  | .refusal :: _, _ => .isFalse id

instance decidableEmits : (slots : List Slot) → (faults : List (Option String)) →
    Decidable (Emits slots faults)
  | [], _ => .isFalse id
  | .statement :: rest, faults =>
      have := decidableEmits rest faults.tail
      inferInstanceAs (Decidable (_ ∧ _))
  | .emission :: rest, faults =>
      have := decidableEmits rest faults.tail
      inferInstanceAs (Decidable (_ ∨ _))
  | .refusal :: _, _ => .isFalse id

instance (slots : List Slot) (faults : List (Option String)) :
    Decidable (Stands slots faults) :=
  inferInstanceAs (Decidable (_ → _))

section Slots

variable {slots more : List Slot} {faults : List (Option String)}

theorem completes_append : Completes (slots ++ more) faults ↔
    Completes slots faults ∧ Completes more (faults.drop slots.length) := by
  induction slots generalizing faults with
  | nil => exact (true_and _).to_iff.symm
  | cons slot slots induction =>
      rw [List.cons_append, List.length_cons, ← List.drop_tail]
      cases slot with
      | statement => rw [Completes, Completes, induction, and_assoc]
      | emission => rw [Completes, Completes, induction]
      | refusal => exact (false_and _).to_iff.symm

theorem emits_append : Emits (slots ++ more) faults ↔
    Emits slots faults ∨ Completes slots faults ∧ Emits more (faults.drop slots.length) := by
  induction slots generalizing faults with
  | nil => exact ((or_iff_right not_false).trans (true_and _).to_iff).symm
  | cons slot slots induction =>
      rw [List.cons_append, List.length_cons, ← List.drop_tail]
      cases slot with
      | statement =>
          rw [Emits, Emits, Completes, induction]
          tauto
      | emission =>
          rw [Emits, Emits, Completes, induction]
          tauto
      | refusal =>
          rw [Emits, Emits, Completes]
          tauto

/-- Without an emission nothing is written. -/
theorem not_emits (silent : .emission ∉ slots) : ¬ Emits slots faults := by
  induction slots generalizing faults with
  | nil => exact id
  | cons slot slots induction =>
      rw [List.mem_cons, not_or] at silent
      cases slot with
      | statement => exact fun emits => induction silent.2 emits.2
      | emission => exact absurd rfl silent.1
      | refusal => exact id

/-- Where nothing was written before, it matters only what comes after. -/
theorem stands_append_of_silent (silent : .emission ∉ slots) :
    Stands (slots ++ more) faults ↔
      (Completes slots faults → Stands more (faults.drop slots.length)) := by
  unfold Stands
  rw [emits_append, completes_append, List.length_append, or_iff_right (not_emits silent),
    show faultAt faults (slots.length + more.length) =
      faultAt (faults.drop slots.length) more.length by
        rw [faultAt, faultAt, List.drop_drop]]
  tauto

end Slots

/-- How a program ends that comes to the slots. -/
def Ends (slots : List Slot) (faults : List (Option String)) (post : α → Database → Prop) :
    Except Error α × Session Database Memory → Prop
  | (.ok value, after) => Completes slots faults ∧ after.faults = faults.drop slots.length ∧
      post value after.database
  | (.error _, _) => ¬ Completes slots faults

/-- From this database and memory the program comes to the slots, whatever fails. -/
def Follows (journal : Journal Database Memory Entry Key) (slots : List Slot)
    (program : Sql Database Memory Error α) (database : Database) (memory : Memory)
    (post : α → Database → Prop) : Prop :=
  ∀ faults, Ends slots faults post (program ⟨database, memory, faults⟩) ∧
    ∃ new, journal.Grows ⟨database, memory, faults⟩ (program ⟨database, memory, faults⟩).2 new ∧
      (new ≠ [] ↔ Emits slots faults)

section Follows

variable {journal : Journal Database Memory Entry Key} {database : Database} {memory : Memory}
  {slots more : List Slot} {faults : List (Option String)}

theorem Ends.mono {post weaker : α → Database → Prop}
    {ran : Except Error α × Session Database Memory} (ends : Ends slots faults post ran)
    (implies : ∀ value changed, post value changed → weaker value changed) :
    Ends slots faults weaker ran := by
  rcases ran with ⟨_ | value, after⟩
  · exact ends
  · exact ⟨ends.1, ends.2.1, implies value _ ends.2.2⟩

theorem follows_mono {program : Sql Database Memory Error α} {post weaker : α → Database → Prop}
    (implies : ∀ value changed, post value changed → weaker value changed)
    (follows : Follows journal slots program database memory post) :
    Follows journal slots program database memory weaker :=
  fun faults => ⟨(follows faults).1.mono implies, (follows faults).2⟩

/-- Where it does not matter what the program leaves. -/
theorem Follows.anyhow {program : Sql Database Memory Error α} {post : α → Database → Prop}
    (follows : Follows journal slots program database memory post) :
    Follows journal slots program database memory fun _ _ => True :=
  follows_mono (fun _ _ _ => trivial) follows

theorem follows_ofExcept (result : Except Error α) :
    Follows journal (Slot.ofResult result) (ofExcept result) database memory
      fun value changed => result = .ok value ∧ changed = database := by
  intro faults
  have grows : journal.Grows ⟨database, memory, faults⟩ ⟨database, memory, faults⟩ [] :=
    Journal.grows_nil rfl rfl
  cases result with
  | error error => exact ⟨id, [], grows, iff_of_false (fun some => some rfl) id⟩
  | ok value => exact ⟨⟨trivial, rfl, rfl, rfl⟩, [], grows, iff_of_false (fun some => some rfl) id⟩

theorem follows_pure (value : α) :
    Follows journal [] (pure value : Sql Database Memory Error α) database memory
      fun result changed => result = value ∧ changed = database := by
  apply follows_mono _ (follows_ofExcept (.ok value))
  intro result changed held
  exact ⟨(Except.ok.inj held.1).symm, held.2⟩

theorem follows_orElse (result : Except Inner α) (wrap : Inner → Error) :
    Follows journal (Slot.ofResult result) (orElse result wrap : Sql Database Memory Error α)
      database memory fun value changed => result = .ok value ∧ changed = database := by
  cases result with
  | error error =>
      apply follows_mono _ (follows_ofExcept (.error (wrap error)))
      intro value changed held
      cases held.1
  | ok value =>
      apply follows_mono _ (follows_ofExcept (.ok value))
      intro result changed held
      exact ⟨congrArg Except.ok (Except.ok.inj held.1), held.2⟩

theorem follows_check (condition : Prop) [Decidable condition] (error : Error) :
    Follows journal (Slot.ofCondition condition)
      (check condition error : Sql Database Memory Error Unit) database memory
      fun _ changed => condition ∧ changed = database := by
  unfold check Slot.ofCondition
  split
  · next holds => exact follows_mono (fun _ _ held => ⟨holds, held.2⟩) (follows_pure ())
  · exact follows_mono (fun _ _ held => nomatch held.1) (follows_ofExcept (.error error))

theorem follows_remember {change : Memory → Memory}
    (announced : journal.announced (change memory) = journal.announced memory) :
    Follows journal [] (remember change : Sql Database Memory Error Unit) database memory
      fun _ changed => changed = database :=
  fun _ => ⟨⟨trivial, rfl, rfl⟩, [], Journal.grows_nil rfl announced,
    iff_of_false (fun some => some rfl) id⟩

theorem follows_statement {wrap : DbError → Error}
    {effect : Database → Except DbError (α × Database)} {slot : Slot}
    {post : α → Database → Prop}
    (done : ∀ value changed, effect database = .ok (value, changed) → slot = .statement ∧
      journal.logged changed = journal.logged database ∧ post value changed)
    (refused : ∀ error, effect database = .error error → slot = .refusal) :
    Follows journal [slot] (statement wrap effect) database memory post := by
  intro faults
  have isSilent : slot ≠ .emission := by
    cases outcome : effect database with
    | error error => exact refused error outcome ▸ Slot.noConfusion
    | ok result => exact (done result.1 result.2 outcome).1 ▸ Slot.noConfusion
  have silent : (([] : List Entry) ≠ [] ↔ Emits [slot] faults) := by
    apply iff_of_false (fun some => some rfl)
    apply not_emits
    rw [List.mem_singleton]
    exact isSilent.symm
  cases fault : faultAt faults 0 with
  | some text =>
      rw [statement_faulty fault]
      refine ⟨?_, [], Journal.grows_nil rfl rfl, silent⟩
      intro completes
      cases slot with
      | statement =>
          rw [Completes, fault] at completes
          cases completes.1
      | emission => exact isSilent rfl
      | refusal => exact completes
  | none =>
      cases outcome : effect database with
      | error error =>
          rw [statement_refused fault outcome]
          refine ⟨?_, [], Journal.grows_nil rfl rfl, silent⟩
          rw [refused error outcome]
          exact id
      | ok result =>
          rcases done result.1 result.2 outcome with ⟨isStatement, logged, holds⟩
          rw [statement_done fault outcome]
          refine ⟨⟨?_, List.drop_one.symm, holds⟩, [], Journal.grows_nil logged rfl, silent⟩
          rw [isStatement]
          exact ⟨fault, trivial⟩

theorem follows_execute {wrap : DbError → Error} {write : Database → Except DbError Database}
    (logged : ∀ changed, write database = .ok changed →
      journal.logged changed = journal.logged database) :
    Follows journal [Slot.ofStatement (write database)] (execute wrap write) database memory
      fun _ changed => write database = .ok changed := by
  apply follows_statement
  · intro value changed done
    cases written : write database with
    | error error => simp [written] at done
    | ok found =>
        simp only [written, Except.ok.injEq, Prod.mk.injEq, true_and] at done
        exact ⟨rfl, done ▸ logged found written, congrArg _ done⟩
  · intro error refused
    cases written : write database with
    | error found => rfl
    | ok found => simp [written] at refused

/-- An `UPDATE`, which refuses nothing. -/
theorem follows_update {wrap : DbError → Error} {change : Database → Database}
    (logged : journal.logged (change database) = journal.logged database) :
    Follows journal [.statement] (execute wrap fun database => .ok (change database)) database
      memory fun _ changed => changed = change database := by
  apply follows_statement
  · intro _ changed done
    cases done
    exact ⟨rfl, logged, rfl⟩
  · intro error refused
    cases refused

/-- A `SELECT`, which finds what there is. -/
theorem follows_select {wrap : DbError → Error} {select : Database → α} :
    Follows journal [.statement] (query wrap fun database => .ok (select database)) database
      memory fun value changed => value = select database ∧ changed = database := by
  apply follows_statement
  · intro value changed done
    cases done
    exact ⟨rfl, rfl, rfl, rfl⟩
  · intro error refused
    cases refused

theorem follows_connect (wrap : DbError → Error) :
    Follows journal [.statement] (connect wrap) database memory
      fun _ changed => changed = database :=
  follows_mono (fun _ _ held => held.2) (@follows_select _ _ _ _ _ _ _ _ _ wrap fun _ => ())

theorem follows_bind {program : Sql Database Memory Error β}
    {next : β → Sql Database Memory Error α} {post : β → Database → Prop}
    {last : α → Database → Prop} (first : Follows journal slots program database memory post)
    (second : ∀ value changed after, post value changed →
      Follows journal more (next value) changed after last) :
    Follows journal (slots ++ more) (program >>= next) database memory last := by
  intro faults
  rcases first faults with ⟨ends, new, grows, emits⟩
  rw [bind_apply]
  rcases ran : program ⟨database, memory, faults⟩ with ⟨error | value, ⟨changed, after, rest⟩⟩
  · rw [ran] at ends grows
    refine ⟨fun completes => ends (completes_append.mp completes).1, new, grows, ?_⟩
    rw [emits, emits_append]
    exact (or_iff_left fun both => ends both.1).symm
  · rw [ran] at ends grows
    rcases ends with ⟨completes, isRest, holds⟩
    dsimp only at isRest holds ⊢
    rcases second value changed after holds rest with ⟨finishes, later, laterGrows, laterEmits⟩
    constructor
    · rcases last : next value ⟨changed, after, rest⟩ with ⟨_ | result, final⟩
      · rw [last, isRest] at finishes
        exact fun both => finishes (completes_append.mp both).2
      · rw [last, isRest] at finishes
        rcases finishes with ⟨completesLater, isFinal, held⟩
        refine ⟨completes_append.mpr ⟨completes, completesLater⟩, ?_, held⟩
        rw [isFinal, List.drop_drop, List.length_append]
    · refine ⟨new ++ later, grows.trans laterGrows, ?_⟩
      rw [isRest] at laterEmits
      rw [emits_append, ← emits, ne_eq, List.append_eq_nil_iff, not_and_or, ← ne_eq, ← ne_eq,
        laterEmits]
      exact or_congr_right (and_iff_right completes).symm

theorem follows_mapErr {program : Sql Database Memory Inner α} {wrap : Inner → Error}
    {post : α → Database → Prop}
    (follows : Follows journal slots program database memory post) :
    Follows journal slots (mapErr wrap program) database memory post := by
  intro faults
  rcases follows faults with ⟨ends, grows⟩
  rcases ran : program ⟨database, memory, faults⟩ with ⟨result, after⟩
  rw [ran] at ends grows
  rw [mapErr_apply ran]
  cases result <;> exact ⟨ends, grows⟩

theorem follows_onPart {read : Whole → Database} {write : Database → Whole → Whole}
    {program : Sql Database Memory Error α} {whole : Whole} {post : α → Database → Prop}
    (law : ∀ part whole, read (write part whole) = part)
    (follows : Follows journal slots program (read whole) memory post) :
    Follows (journal.comap read id) slots (onPart read write program) whole memory
      fun value changed => ∃ part, changed = write part whole ∧ post value part := by
  intro faults
  rcases follows faults with ⟨ends, new, ⟨fresh, logged, announced⟩, emits⟩
  have grows : (journal.comap read id).Grows ⟨whole, memory, faults⟩
      (onPart read write program ⟨whole, memory, faults⟩).2 new :=
    ⟨fresh, (congrArg journal.logged (law _ _)).trans logged, announced⟩
  refine ⟨?_, new, grows, emits⟩
  unfold onPart
  dsimp only
  rcases ran : program ⟨read whole, memory, faults⟩ with ⟨_ | value, after⟩
  · rw [ran] at ends
    exact ends
  · rw [ran] at ends
    exact ⟨ends.1, ends.2.1, after.database, rfl, ends.2.2⟩

end Follows

/-- What a run has written is announced, and is kept exactly when it stands. -/
def Settled (journal : Journal Database Memory Entry Key) (slots : List Slot)
    (before after : Session Database Memory) : Prop :=
  ∃ new, Journal.Fresh journal.key (journal.logged before.database) new ∧
    journal.announced after.memory = journal.announced before.memory ++ new ∧
    (Stands slots before.faults →
      journal.logged after.database = journal.logged before.database ++ new) ∧
    (¬ Stands slots before.faults →
      new ≠ [] ∧ journal.logged after.database = journal.logged before.database)

/-- Whatever fails, the program settles. -/
def Settles (journal : Journal Database Memory Entry Key) (slots : List Slot)
    (program : Sql Database Memory Error α) (database : Database) (memory : Memory) : Prop :=
  ∀ faults, Settled journal slots ⟨database, memory, faults⟩
    (program ⟨database, memory, faults⟩).2

/-- The program writes its entries as the slots say. Once it has written one it comes to the
slots; until then a failure may take it elsewhere. -/
def FillsSlots (journal : Journal Database Memory Entry Key) (slots : List Slot)
    (program : Sql Database Memory Error α) (database : Database) (memory : Memory) : Prop :=
  ∀ faults, ∃ new,
    journal.Grows ⟨database, memory, faults⟩ (program ⟨database, memory, faults⟩).2 new ∧
      (new ≠ [] ↔ Emits slots faults) ∧
      (Emits slots faults →
        Ends slots faults (fun _ _ => True) (program ⟨database, memory, faults⟩))

section FillsSlots

variable {journal : Journal Database Memory Entry Key} {database : Database} {memory : Memory}
  {slots more : List Slot}

theorem commits_of_follows {program : Sql Database Memory Error α}
    (follows : Follows journal slots program database memory fun _ _ => True) :
    FillsSlots journal slots program database memory := by
  intro faults
  rcases follows faults with ⟨ends, new, grows, emits⟩
  exact ⟨new, grows, emits, fun _ => ends⟩

theorem Follows.commits {program : Sql Database Memory Error α} {post : α → Database → Prop}
    (follows : Follows journal slots program database memory post) :
    FillsSlots journal slots program database memory :=
  commits_of_follows follows.anyhow

/-- A program that writes no entry. -/
theorem commits_of_keeps {program : Sql Database Memory Error α}
    (logged : Keeps journal.logged program)
    (announced : KeepsMemory journal.announced program) :
    FillsSlots journal [] program database memory := by
  intro faults
  refine ⟨[], Journal.grows_nil (logged _ _ rfl) (announced _), ?_, fun emits => emits.elim⟩
  exact iff_of_false (fun some => some rfl) id

/-- The failure of what has written no entry may be tolerated. -/
theorem commits_attempt {program : Sql Database Memory Inner β}
    {next : Except Inner β → Sql Database Memory Error α} {post : β → Database → Prop}
    (first : Follows journal slots program database memory post) (silent : .emission ∉ slots)
    (fails : ∀ error, Keeps journal.logged (next (.error error)) ∧
      KeepsMemory journal.announced (next (.error error)))
    (second : ∀ value changed after, post value changed →
      FillsSlots journal more (next (.ok value)) changed after) :
    FillsSlots journal (slots ++ more) (attempt program >>= next) database memory := by
  intro faults
  rcases first faults with ⟨ends, new, grows, emits⟩
  have nothing : new = [] := not_not.mp fun some => not_emits silent (emits.mp some)
  rw [nothing] at grows
  rw [bind_apply, attempt]
  dsimp only
  rcases ran : program ⟨database, memory, faults⟩ with ⟨error | value, ⟨changed, after, rest⟩⟩
  · rw [ran] at ends grows
    have silenced : ¬ Emits (slots ++ more) faults := by
      rw [emits_append, not_or]
      exact ⟨not_emits silent, fun both => ends both.1⟩
    refine ⟨[], grows.trans (Journal.grows_nil ((fails error).1 _ _ rfl) ((fails error).2 _)),
      iff_of_false (fun some => some rfl) silenced, fun emits => absurd emits silenced⟩
  · rw [ran] at ends grows
    rcases ends with ⟨completes, isRest, holds⟩
    dsimp only at isRest holds ⊢
    have later : Emits (slots ++ more) faults ↔ Emits more rest := by
      rw [emits_append, or_iff_right (not_emits silent), and_iff_right completes, isRest]
    rcases second value changed after holds rest with ⟨entries, laterGrows, laterEmits, finishes⟩
    rw [later]
    refine ⟨_, grows.trans laterGrows, laterEmits, ?_⟩
    intro emits
    replace finishes := finishes emits
    rcases last : next (.ok value) ⟨changed, after, rest⟩ with ⟨_ | result, final⟩
    · rw [last, isRest] at finishes
      exact fun both => finishes (completes_append.mp both).2
    · rw [last, isRest] at finishes
      rcases finishes with ⟨completesLater, isFinal, held⟩
      refine ⟨completes_append.mpr ⟨completes, completesLater⟩, ?_, held⟩
      rw [isFinal, List.drop_drop, List.length_append]

/-- What goes on after what has written no entry. -/
theorem commits_bind {program : Sql Database Memory Error β}
    {next : β → Sql Database Memory Error α} {post : β → Database → Prop}
    (first : Follows journal slots program database memory post) (silent : .emission ∉ slots)
    (second : ∀ value changed after, post value changed →
      FillsSlots journal more (next value) changed after) :
    FillsSlots journal (slots ++ more) (program >>= next) database memory := by
  have same : program >>= next = attempt program >>= fun result =>
      match result with
      | .ok value => next value
      | .error error => fail error := by
    funext session
    rw [bind_apply, bind_apply, attempt]
    rcases program session with ⟨_ | value, after⟩ <;> rfl
  rw [same]
  refine commits_attempt first silent ?_ second
  exact fun error => ⟨(reads_fail error).keeps, (reads_fail error).keepsMemory⟩

/-- What is computed from the value changes nothing. -/
theorem commits_bind_pure {program : Sql Database Memory Error β}
    (commits : FillsSlots journal slots program database memory) (compute : β → α) :
    FillsSlots journal slots (program >>= fun value => pure (compute value)) database memory := by
  intro faults
  rcases commits faults with ⟨new, grows, emits, ends⟩
  rw [bind_apply]
  rcases ran : program ⟨database, memory, faults⟩ with ⟨_ | value, after⟩
  · rw [ran] at grows ends
    exact ⟨new, grows, emits, ends⟩
  · rw [ran] at grows ends
    exact ⟨new, grows, emits, ends⟩

end FillsSlots

section Settles

variable {journal : Journal Database Memory Entry Key} {database : Database} {memory : Memory}
  {slots more : List Slot} {faults : List (Option String)}

/-- A transaction takes back what its body wrote when the body or the commit fails, and not
what the body announced. -/
theorem settles_transaction {wrapBegin wrapCommit : DbError → Error}
    {body : Sql Database Memory Error α} (commits : FillsSlots journal slots body database memory) :
    Settles journal (.statement :: slots) (transaction wrapBegin wrapCommit body) database
      memory := by
  intro faults
  have stands : Stands (.statement :: slots) faults ↔
      (faultAt faults 0 = none → Stands slots faults.tail) := by
    refine (stands_append_of_silent (by decide : Slot.emission ∉ [Slot.statement])).trans ?_
    rw [Completes, Completes, and_true, List.length_singleton, List.drop_one]
  unfold transaction
  cases begins : faultAt faults 0 with
  | some text =>
      rw [connect_faulty begins]
      refine ⟨[], Journal.fresh_nil, (List.append_nil _).symm, ?_, ?_⟩
      · exact fun _ => (List.append_nil _).symm
      · intro undone
        rw [stands, begins] at undone
        exact absurd (fun unfaulted => nomatch unfaulted) undone
  | none =>
      rw [connect_done begins]
      dsimp only
      rw [begins, forall_prop_of_true rfl] at stands
      rcases commits faults.tail with ⟨new, ⟨fresh, logged, announced⟩, emits, ends⟩
      by_cases emitted : Emits slots faults.tail
      · have some := emits.mpr emitted
        have lost (undone : ¬ Stands (.statement :: slots) faults) {log : List Entry}
            (same : log = journal.logged database) :
            new ≠ [] ∧ log = journal.logged database := ⟨some, same⟩
        replace ends := ends emitted
        replace stands := stands.trans (forall_prop_of_true emitted)
        rcases ran : body ⟨database, memory, faults.tail⟩ with ⟨_ | value, finished⟩
        · -- the body fails, and its writes are taken back
          rw [ran] at ends announced
          refine ⟨new, fresh, announced, ?_, fun undone => lost undone rfl⟩
          exact fun standing => absurd (stands.mp standing).1 ends
        · rw [ran] at ends logged announced
          rcases ends with ⟨completes, isRest, -⟩
          have commit : faultAt finished.faults 0 = faultAt faults.tail slots.length := by
            rw [isRest, faultAt, faultAt, List.drop_zero]
          cases committed : faultAt finished.faults 0 with
          | some text =>
              dsimp only
              rw [connect_faulty committed]
              refine ⟨new, fresh, announced, ?_, fun undone => lost undone rfl⟩
              intro standing
              rw [← commit, committed] at stands
              cases (stands.mp standing).2
          | none =>
              dsimp only
              rw [connect_done committed]
              refine ⟨new, fresh, announced, fun _ => logged, ?_⟩
              intro undone
              exact absurd (stands.mpr ⟨completes, commit ▸ committed⟩) undone
      · have nothing : new = [] := not_not.mp fun some => emitted (emits.mp some)
        have standing : Stands (.statement :: slots) faults :=
          stands.mpr fun emits => absurd emits emitted
        rw [nothing] at logged announced
        rcases ran : body ⟨database, memory, faults.tail⟩ with ⟨_ | value, finished⟩
        · rw [ran] at announced
          refine ⟨[], Journal.fresh_nil, announced, ?_, fun undone => absurd standing undone⟩
          exact fun _ => (List.append_nil _).symm
        · rw [ran] at logged announced
          cases committed : faultAt finished.faults 0 with
          | some text =>
              dsimp only
              rw [connect_faulty committed]
              refine ⟨[], Journal.fresh_nil, announced, ?_, fun undone => absurd standing undone⟩
              exact fun _ => (List.append_nil _).symm
          | none =>
              dsimp only
              rw [connect_done committed]
              exact ⟨[], Journal.fresh_nil, announced, fun _ => logged,
                fun undone => absurd standing undone⟩

/-- What comes before the first entry is written can fail without harm. -/
theorem settles_bind {program : Sql Database Memory Error β}
    {next : β → Sql Database Memory Error α} {post : β → Database → Prop}
    (first : Follows journal slots program database memory post) (silent : .emission ∉ slots)
    (second : ∀ value changed after, post value changed →
      Settles journal more (next value) changed after) :
    Settles journal (slots ++ more) (program >>= next) database memory := by
  intro faults
  rcases first faults with ⟨ends, new, ⟨-, logged, announced⟩, emits⟩
  have nothing : new = [] := not_not.mp fun some => not_emits silent (emits.mp some)
  rw [nothing, List.append_nil] at logged announced
  unfold Settled
  rw [bind_apply, stands_append_of_silent silent]
  rcases ran : program ⟨database, memory, faults⟩ with ⟨_ | value, ⟨changed, after, rest⟩⟩
  · rw [ran] at ends logged announced
    refine ⟨[], Journal.fresh_nil, announced.trans (List.append_nil _).symm, ?_, ?_⟩
    · exact fun _ => logged.trans (List.append_nil _).symm
    · intro undone
      exact absurd (fun completes => absurd completes ends) undone
  · rw [ran] at ends logged announced
    rcases ends with ⟨completes, isRest, holds⟩
    dsimp only at logged announced isRest holds ⊢
    rw [forall_prop_of_true completes, ← isRest, ← logged, ← announced]
    exact second value changed after holds rest

theorem settles_onPart {read : Whole → Database} {write : Database → Whole → Whole}
    {program : Sql Database Memory Error α} {whole : Whole}
    (law : ∀ part whole, read (write part whole) = part)
    (settles : Settles journal slots program (read whole) memory) :
    Settles (journal.comap read id) slots (onPart read write program) whole memory := by
  intro faults
  rcases settles faults with ⟨new, fresh, announced, kept, lost⟩
  refine ⟨new, fresh, announced, ?_, ?_⟩
  · intro standing
    exact (congrArg journal.logged (law _ _)).trans (kept standing)
  · intro undone
    exact ⟨(lost undone).1, (congrArg journal.logged (law _ _)).trans (lost undone).2⟩

theorem settles_inMemory {read : Extended → Memory} {write : Memory → Extended → Extended}
    {program : Sql Database Memory Error α} {extended : Extended}
    (law : ∀ part whole, read (write part whole) = part)
    (settles : Settles journal slots program database (read extended)) :
    Settles (journal.comap id read) slots (inMemory read write program) database extended := by
  intro faults
  rcases settles faults with ⟨new, fresh, announced, kept, lost⟩
  exact ⟨new, fresh, (congrArg journal.announced (law _ _)).trans announced, kept, lost⟩

/-- A program that records what it announces has nothing to lose. -/
theorem Records.settles {program : Sql Database Memory Error α}
    (records : Records journal program) : Settles journal [] program database memory := by
  intro faults
  rcases records ⟨database, memory, faults⟩ with ⟨new, fresh, logged, announced⟩
  refine ⟨new, fresh, announced, fun _ => logged, ?_⟩
  exact fun undone => absurd (fun emits => nomatch emits) undone

/-- What stands keeps the announcements in step with the log. -/
theorem Settled.agrees {before after : Session Database Memory}
    (settled : Settled journal slots before after) (stands : Stands slots before.faults)
    (agrees : Journal.Agrees journal.key (journal.logged before.database)
      (journal.announced before.memory)) :
    Journal.Agrees journal.key (journal.logged after.database)
      (journal.announced after.memory) := by
  rcases settled with ⟨new, fresh, announced, kept, -⟩
  rw [announced, kept stands]
  exact agrees.append fresh

/-- What does not stand leaves an announcement whose key the log does not have. -/
theorem Settled.lost {before after : Session Database Memory}
    (settled : Settled journal slots before after) (undone : ¬ Stands slots before.faults) :
    ∃ entry ∈ journal.announced after.memory, ∀ old ∈ journal.logged after.database,
      journal.key old ≠ journal.key entry := by
  rcases settled with ⟨new, fresh, announced, -, lost⟩
  rw [announced, (lost undone).2]
  exact fresh.lost (lost undone).1

end Settles

/-- Nothing that the slots need is made to fail, nor is the commit after them. -/
def Committed (slots : List Slot) (faults : List (Option String)) : Prop :=
  Completes slots faults ∧ faultAt faults slots.length = none

instance (slots : List Slot) (faults : List (Option String)) :
    Decidable (Committed slots faults) :=
  inferInstanceAs (Decidable (_ ∧ _))

/-- A program that comes to the slots and a commit does all that it does, or nothing. -/
def Concludes (slots : List Slot) (program : Sql Database Memory Error α) (database : Database)
    (memory : Memory) (post : α → Database → Prop) : Prop :=
  ∀ faults,
    (Committed slots faults → ∃ value, (program ⟨database, memory, faults⟩).1 = .ok value ∧
      post value (program ⟨database, memory, faults⟩).2.database) ∧
    (¬ Committed slots faults →
      (∃ error, (program ⟨database, memory, faults⟩).1 = .error error) ∧
        (program ⟨database, memory, faults⟩).2.database = database)

section Concludes

variable {journal : Journal Database Memory Entry Key} {database : Database} {memory : Memory}
  {slots more : List Slot} {faults : List (Option String)}

theorem committed_append : Committed (slots ++ more) faults ↔
    Completes slots faults ∧ Committed more (faults.drop slots.length) := by
  unfold Committed
  rw [completes_append, List.length_append, and_assoc,
    show faultAt faults (slots.length + more.length) =
      faultAt (faults.drop slots.length) more.length by
        rw [faultAt, faultAt, List.drop_drop]]

theorem concludes_transaction {wrapBegin wrapCommit : DbError → Error}
    {body : Sql Database Memory Error α} {post : α → Database → Prop}
    (follows : Follows journal slots body database memory post) :
    Concludes (.statement :: slots) (transaction wrapBegin wrapCommit body) database memory
      post := by
  intro faults
  have committed : Committed (.statement :: slots) faults ↔
      faultAt faults 0 = none ∧ Committed slots faults.tail := by
    rw [← List.singleton_append, committed_append, Completes, Completes, and_true,
      List.length_singleton, List.drop_one]
  rw [committed, Committed]
  unfold transaction
  cases begins : faultAt faults 0 with
  | some text =>
      rw [connect_faulty begins]
      constructor
      · intro done
        cases done.1
      · intro _
        exact ⟨⟨_, rfl⟩, rfl⟩
  | none =>
      rw [connect_done begins]
      have ends := (follows faults.tail).1
      rcases ran : body ⟨database, memory, faults.tail⟩ with ⟨error | value, finished⟩
      · rw [ran] at ends
        dsimp only
        rw [ran]
        constructor
        · intro done
          exact absurd done.2.1 ends
        · intro _
          exact ⟨⟨error, rfl⟩, rfl⟩
      · rw [ran] at ends
        rcases ends with ⟨completes, isRest, holds⟩
        dsimp only
        rw [ran]
        have commit : faultAt finished.faults 0 = faultAt faults.tail slots.length := by
          rw [isRest, faultAt, faultAt, List.drop_zero]
        rw [← commit]
        cases commits : faultAt finished.faults 0 with
        | some text =>
            dsimp only
            rw [connect_faulty commits]
            constructor
            · intro done
              cases done.2.2
            · intro _
              exact ⟨⟨_, rfl⟩, rfl⟩
        | none =>
            dsimp only
            rw [connect_done commits]
            constructor
            · intro _
              exact ⟨value, rfl, holds⟩
            · intro undone
              exact absurd ⟨rfl, completes, rfl⟩ undone

/-- What only looks can come before. -/
theorem concludes_bind {program : Sql Database Memory Error β}
    {next : β → Sql Database Memory Error α} {post : β → Database → Prop}
    {last : α → Database → Prop} (first : Follows journal slots program database memory post)
    (looks : Looks program)
    (second : ∀ value, post value database → Concludes more (next value) database memory last) :
    Concludes (slots ++ more) (program >>= next) database memory last := by
  intro faults
  have ends := (first faults).1
  have kept := looks.reads ⟨database, memory, faults⟩
  rw [committed_append, bind_apply]
  rcases ran : program ⟨database, memory, faults⟩ with ⟨error | value, ⟨changed, after, rest⟩⟩
  · rw [ran] at ends kept
    constructor
    · intro done
      exact absurd done.1 ends
    · intro _
      exact ⟨⟨error, rfl⟩, kept.1⟩
  · rw [ran] at ends kept
    rcases kept with ⟨sameDatabase, sameMemory⟩
    rcases ends with ⟨completes, isRest, holds⟩
    dsimp only at sameDatabase sameMemory isRest holds ⊢
    rw [sameDatabase] at holds ⊢
    rw [sameMemory, ← isRest, and_iff_right completes]
    exact second value holds rest

end Concludes

end Annex.Sql
