import Mathlib.Data.List.Induction
import Mathlib.Data.List.Infix
import Mathlib.Logic.Function.Basic
import Annex.Client.Registration
import Annex.Foundation.Execution

namespace Annex.Client

/-! Proofs are generated by workers of the browser, one at a time. What the page and the workers
do comes in any order. -/

inductive ProofGenerationStage where
  | loadingAssets
  | computingWitness
  | generatingProof
deriving DecidableEq, Repr

/-- An error of the worker's `fullProve`. -/
structure ProofError where
  name : String
  message : String
deriving DecidableEq, Repr

/-- A message of a worker to the page. -/
inductive ProofMessage where
  | status (jobId : String) (stage : ProofGenerationStage)
  | result (jobId : String) (output : MembershipProofOutput)
  | error (jobId : String) (error : ProofError)
deriving DecidableEq

def membershipWasmPath : String := "/zk/membership.wasm"

def membershipZkeyPath : String := "/zk/membership_final.zkey"

/-! The worker. -/

section Worker

variable (toLowerCase : String → String) (fullProve : Nat → CircuitInput → MembershipProofOutput)

def contains (text part : String) : Bool :=
  decide (part.toList <:+: text.toList)

def isLikelyProofAssetFailure (error : ProofError) (wasmPath zkeyPath : String) : Bool :=
  let message := toLowerCase error.message
  (contains message (toLowerCase wasmPath) || contains message (toLowerCase zkeyPath)) ||
    ["wasm", "zkey", "failed to fetch", "networkerror", "not found", "status code 404",
      "enoent"].any (contains message)

def mapProofError (error : ProofError) (wasmPath zkeyPath : String) : ProofError :=
  if error.name = "ZkProofAssetsError" ||
      isLikelyProofAssetFailure toLowerCase error wasmPath zkeyPath then
    { name := "ZkProofAssetsError"
      message := "Required proof asset could not be loaded. Ensure both assets are available: " ++
        wasmPath ++ " and " ++ zkeyPath ++ "." }
  else
    error

/-- How far a worker is. -/
inductive WorkerPhase where
  | starting
  | proving
  | answered
deriving DecidableEq, Repr

/-- A worker, and the messages it has posted that the page has not seen yet. -/
structure ProofWorker where
  running : Bool
  phase : WorkerPhase
  posted : List ProofMessage

def stageMessages (jobId : String) : List ProofMessage :=
  [.status jobId .loadingAssets, .status jobId .computingWitness, .status jobId .generatingProof]

/-- What the worker posts once `fullProve` is done, given what it drew at random or why it
failed. -/
def answerMessage (jobId : String) (input : CircuitInput) (outcome : Except ProofError Nat) :
    ProofMessage :=
  match outcome with
  | .ok random => .result jobId (fullProve random input)
  | .error error =>
      .error jobId (mapProofError toLowerCase error membershipWasmPath membershipZkeyPath)

def ProofWorker.work (jobId : String) (input : CircuitInput) (outcome : Except ProofError Nat)
    (worker : ProofWorker) : ProofWorker :=
  if worker.running then
    match worker.phase with
    | .starting =>
        { worker with phase := .proving, posted := worker.posted ++ stageMessages jobId }
    | .proving =>
        { worker with
          phase := .answered
          posted := worker.posted ++ [answerMessage toLowerCase fullProve jobId input outcome] }
    | .answered => worker
  else
    worker

end Worker

/-! The page. -/

inductive ProofPromise where
  | pending
  | resolved (output : MembershipProofOutput)
  | rejected (thrown : Thrown)
deriving DecidableEq

/-- A call of `runProofInWorker` and its worker. -/
structure ProofJob where
  jobId : String
  input : CircuitInput
  timeoutMs : Nat
  finished : Bool
  timeoutHandle : Bool
  /-- `onmessage` and `onerror` are set. -/
  listening : Bool
  /-- What `onStage` was called with. -/
  stages : List ProofGenerationStage
  promise : ProofPromise
  worker : ProofWorker

structure ProofWorld where
  jobs : Nat → Option ProofJob
  nextJob : Nat
  activeProofJob : Option Nat

def mapWorkerError (error : ProofError) : Thrown :=
  if error.name = "ZkProofAssetsError" then
    .zkProofAssetsError error.message
  else
    .error error.name error.message

/-- `Math.round(timeoutMs / 1000)`. -/
def roundedSeconds (timeoutMs : Nat) : Nat := (timeoutMs + 500) / 1000

def timeoutError (timeoutMs : Nat) : Thrown :=
  .zkProofTimeoutError ("Proof generation timed out after " ++
    toString (roundedSeconds timeoutMs) ++ "s (configured timeout: " ++
    toString timeoutMs ++ "ms).")

def ProofJob.start (jobId : String) (input : CircuitInput) (timeoutMs : Nat) : ProofJob where
  jobId
  input
  timeoutMs
  finished := false
  timeoutHandle := true
  listening := true
  stages := []
  promise := .pending
  worker := ⟨true, .starting, []⟩

/-- The job once its promise is settled, and all that could settle it again is taken down. -/
def ProofJob.cleanup (promise : ProofPromise) (job : ProofJob) : ProofJob :=
  { job with
    finished := true
    timeoutHandle := false
    listening := false
    promise
    worker.running := false }

namespace ProofWorld

def initial : ProofWorld := ⟨fun _ => none, 0, none⟩

def setJob (id : Nat) (job : ProofJob) (world : ProofWorld) : ProofWorld :=
  { world with jobs := Function.update world.jobs id (some job) }

/-- `fail`, `succeed` and `cancel`, whichever comes first. -/
def settle (id : Nat) (job : ProofJob) (promise : ProofPromise) (world : ProofWorld) :
    ProofWorld :=
  if job.finished then world
  else { world.setJob id (job.cleanup promise) with activeProofJob := none }

def fail (id : Nat) (job : ProofJob) (thrown : Thrown) (world : ProofWorld) : ProofWorld :=
  world.settle id job (.rejected thrown)

def succeed (id : Nat) (job : ProofJob) (output : MembershipProofOutput) (world : ProofWorld) :
    ProofWorld :=
  world.settle id job (.resolved output)

def cancel (id : Nat) (job : ProofJob) (reason : String) (world : ProofWorld) : ProofWorld :=
  world.settle id job (.rejected (.zkProofCancelledError reason))

/-- `onmessage`. -/
def onMessage (id : Nat) (job : ProofJob) (message : ProofMessage) (world : ProofWorld) :
    ProofWorld :=
  match message with
  | .status jobId stage =>
      if jobId = job.jobId then world.setJob id { job with stages := job.stages ++ [stage] }
      else world
  | .error jobId error =>
      if jobId = job.jobId then world.fail id job (mapWorkerError error) else world
  | .result jobId output => if jobId = job.jobId then world.succeed id job output else world

/-- `runProofInWorker`, where the worker may not be constructed. -/
def runProofInWorker (jobId : String) (input : CircuitInput) (timeoutMs : Nat)
    (construction : Except Thrown Unit) (world : ProofWorld) : Except Thrown Nat × ProofWorld :=
  match world.activeProofJob, construction with
  | some _, _ => (.error (.zkProofInFlightError "proof still running."), world)
  | none, .error thrown => (.error thrown, world)
  | none, .ok () =>
      (.ok world.nextJob,
        { jobs := Function.update world.jobs world.nextJob (some (.start jobId input timeoutMs))
          nextJob := world.nextJob + 1
          activeProofJob := some world.nextJob })

end ProofWorld

/-- What the page does, and what the workers and the browser do. -/
inductive ProofEvent where
  | generate (input : MembershipProofInput) (jobId : String) (timeoutMs : Nat)
    (construction : Except Thrown Unit)
  | work (id : Nat) (outcome : Except ProofError Nat)
  | deliver (id : Nat)
  | crash (id : Nat)
  | timeout (id : Nat)
  | cancel (reason : String)

namespace ProofWorld

section Step

variable (toLowerCase : String → String) (fullProve : Nat → CircuitInput → MembershipProofOutput)

/-- A job takes part in an event. -/
def withJob (id : Nat) (world : ProofWorld) (act : ProofJob → ProofWorld) : ProofWorld :=
  match world.jobs id with
  | none => world
  | some job => act job

def step (world : ProofWorld) : ProofEvent → ProofWorld
  | .generate input jobId timeoutMs construction =>
      (world.runProofInWorker jobId (circuitInput input) timeoutMs construction).2
  | .work id outcome =>
      world.withJob id fun job =>
        world.setJob id { job with
          worker := job.worker.work toLowerCase fullProve job.jobId job.input outcome }
  | .deliver id =>
      world.withJob id fun job =>
        match job.worker.posted with
        | [] => world
        | message :: rest =>
            let job := { job with worker.posted := rest }
            let world := world.setJob id job
            if job.listening then world.onMessage id job message else world
  | .crash id =>
      world.withJob id fun job =>
        if job.listening then world.fail id job (.error "Error" "Proof worker crashed.") else world
  | .timeout id =>
      world.withJob id fun job =>
        if job.timeoutHandle then world.fail id job (timeoutError job.timeoutMs) else world
  | .cancel reason =>
      match world.activeProofJob with
      | none => world
      | some id => world.withJob id fun job => world.cancel id job reason

def run (events : List ProofEvent) : ProofWorld :=
  Execution.run (step toLowerCase fullProve) initial events

end Step

end ProofWorld

section Jobs

variable {toLowerCase : String → String} {fullProve : Nat → CircuitInput → MembershipProofOutput}
  {job : ProofJob} {message : ProofMessage} {rest said : List ProofMessage}

def allStages : List ProofGenerationStage := [.loadingAssets, .computingWitness, .generatingProof]

def ProofMessage.stage? : ProofMessage → Option ProofGenerationStage
  | .status _ stage => some stage
  | _ => none

/-- All that the worker of the job has posted so far. -/
def ProofJob.HasPosted (toLowerCase : String → String)
    (fullProve : Nat → CircuitInput → MembershipProofOutput) (job : ProofJob)
    (said : List ProofMessage) : Prop :=
  match job.worker.phase with
  | .starting => said = []
  | .proving => said = stageMessages job.jobId
  | .answered => ∃ outcome, said = stageMessages job.jobId ++
      [answerMessage toLowerCase fullProve job.jobId job.input outcome]

/-- The promise is pending, and what settles it is in place. What the page has seen of the
worker's messages are the stages it was told. -/
structure ProofJob.Open (toLowerCase : String → String)
    (fullProve : Nat → CircuitInput → MembershipProofOutput) (job : ProofJob) : Prop where
  finished : job.finished = false
  promise : job.promise = .pending
  timeoutHandle : job.timeoutHandle = true
  listening : job.listening = true
  running : job.worker.running = true
  talk : ∃ said, job.HasPosted toLowerCase fullProve said ∧
    job.stages.map (.status job.jobId) ++ job.worker.posted = said

/-- The promise is settled, with a proof only for the job's own input and after all stages. -/
structure ProofJob.Closed (fullProve : Nat → CircuitInput → MembershipProofOutput)
    (job : ProofJob) : Prop where
  finished : job.finished = true
  promise : job.promise ≠ .pending
  timeoutHandle : job.timeoutHandle = false
  listening : job.listening = false
  running : job.worker.running = false
  stages : job.stages <+: allStages
  resolved : ∀ output, job.promise = .resolved output →
    job.stages = allStages ∧ ∃ random, output = fullProve random job.input

def ProofMessage.jobId : ProofMessage → String
  | .status jobId _ | .result jobId _ | .error jobId _ => jobId

theorem jobId_of_mem (posted : job.HasPosted toLowerCase fullProve said)
    (member : message ∈ said) : message.jobId = job.jobId := by
  have staged : ∀ message ∈ stageMessages job.jobId, message.jobId = job.jobId := by
    simp [stageMessages, ProofMessage.jobId]
  unfold ProofJob.HasPosted at posted
  split at posted
  · rw [posted] at member
    cases member
  · rw [posted] at member
    exact staged message member
  · rcases posted with ⟨outcome, rfl⟩
    rcases List.mem_append.mp member with member | member
    · exact staged message member
    · rw [List.mem_singleton.mp member]
      cases outcome <;> rfl

theorem stages_begin (posted : job.HasPosted toLowerCase fullProve said)
    (seen : job.stages.map (.status job.jobId) ++ job.worker.posted = said) :
    job.stages <+: allStages := by
  have shown : said.filterMap ProofMessage.stage? <+: allStages := by
    unfold ProofJob.HasPosted at posted
    split at posted
    · rw [posted]
      exact List.nil_prefix
    · rw [posted]
      exact List.prefix_rfl
    · rcases posted with ⟨_ | _, rfl⟩ <;> exact List.prefix_rfl
  have told : (job.stages.map (ProofMessage.status job.jobId)).filterMap ProofMessage.stage? =
      job.stages := by
    rw [List.filterMap_map]
    exact List.filterMap_some
  rw [← seen, List.filterMap_append, told] at shown
  exact (List.prefix_append _ _).trans shown

/-- A message that is no stage is the answer, and comes after all stages. -/
theorem answer_of_seen (posted : job.HasPosted toLowerCase fullProve said)
    (seen : job.stages.map (.status job.jobId) ++ message :: rest = said)
    (answers : message.stage? = none) :
    job.stages = allStages ∧ ∃ outcome,
      message = answerMessage toLowerCase fullProve job.jobId job.input outcome := by
  have silent : ∀ before after, stageMessages job.jobId ≠ before ++ message :: after := by
    intro before after same
    have member : message ∈ stageMessages job.jobId := by
      rw [same]
      exact List.mem_append_right _ List.mem_cons_self
    simp only [stageMessages, List.mem_cons, List.not_mem_nil, or_false] at member
    rcases member with rfl | rfl | rfl <;> cases answers
  unfold ProofJob.HasPosted at posted
  split at posted
  · rw [posted, List.append_eq_nil_iff] at seen
    cases seen.2
  · rw [posted] at seen
    exact absurd seen.symm (silent _ _)
  · rcases posted with ⟨outcome, rfl⟩
    rcases List.append_eq_append_iff.mp seen with ⟨extra, stages, last⟩ | ⟨extra, stages, last⟩
    · rcases extra with _ | ⟨first, others⟩
      · rw [List.append_nil] at stages
        cases last
        refine ⟨?_, outcome, rfl⟩
        have same : job.stages.map (ProofMessage.status job.jobId) =
            allStages.map (ProofMessage.status job.jobId) := stages.symm
        exact (List.map_injective_iff.mpr fun _ _ equal => by cases equal; rfl) same
      · cases last
        exact absurd stages (silent _ _)
    · rcases extra with _ | ⟨first, others⟩
      · rw [List.append_nil] at stages
        cases last
        refine ⟨?_, outcome, rfl⟩
        exact (List.map_injective_iff.mpr fun _ _ equal => by cases equal; rfl) stages
      · have lengths := congrArg List.length last
        simp at lengths

end Jobs

section Moves

variable {toLowerCase : String → String} {fullProve : Nat → CircuitInput → MembershipProofOutput}
  {job : ProofJob}

/-- What a step that does not settle the promise makes of a job. -/
structure ProofJob.Moves (toLowerCase : String → String)
    (fullProve : Nat → CircuitInput → MembershipProofOutput) (job next : ProofJob) : Prop where
  input : next.input = job.input
  promise : next.promise = job.promise
  opened : job.Open toLowerCase fullProve → next.Open toLowerCase fullProve
  closed : job.Closed fullProve → next.Closed fullProve ∧ next.stages = job.stages

theorem moves_work (outcome : Except ProofError Nat) :
    job.Moves toLowerCase fullProve { job with
      worker := job.worker.work toLowerCase fullProve job.jobId job.input outcome } where
  input := rfl
  promise := rfl
  opened isOpen := by
    rcases isOpen.talk with ⟨said, posted, seen⟩
    have running : (job.worker.work toLowerCase fullProve job.jobId job.input
        outcome).running = true := by
      unfold ProofWorker.work
      rw [if_pos isOpen.running]
      split <;> exact isOpen.running
    refine ⟨isOpen.finished, isOpen.promise, isOpen.timeoutHandle, isOpen.listening, running, ?_⟩
    unfold ProofJob.HasPosted at posted ⊢
    unfold ProofWorker.work
    rw [if_pos isOpen.running]
    cases phase : job.worker.phase with
    | starting =>
        rw [phase] at posted
        refine ⟨_, rfl, ?_⟩
        rw [← List.append_assoc, seen, posted, List.nil_append]
    | proving =>
        rw [phase] at posted
        refine ⟨_, ⟨outcome, rfl⟩, ?_⟩
        rw [← List.append_assoc, seen, posted]
    | answered =>
        rw [phase] at posted
        dsimp only
        rw [phase]
        exact ⟨said, posted, seen⟩
  closed isClosed := by
    have stopped : job.worker.work toLowerCase fullProve job.jobId job.input outcome =
        job.worker := by
      unfold ProofWorker.work
      rw [isClosed.running]
      rfl
    rw [stopped]
    exact ⟨isClosed, rfl⟩

/-- A settled job drops what its worker had posted. -/
theorem ProofJob.Closed.drop (isClosed : job.Closed fullProve) (rest : List ProofMessage) :
    ({ job with worker.posted := rest } : ProofJob).Closed fullProve :=
  ⟨isClosed.finished, isClosed.promise, isClosed.timeoutHandle, isClosed.listening,
    isClosed.running, isClosed.stages, isClosed.resolved⟩

theorem closed_cleanup {promise : ProofPromise} (settles : promise ≠ .pending)
    (stages : job.stages <+: allStages)
    (resolved : ∀ output, promise = .resolved output →
      job.stages = allStages ∧ ∃ random, output = fullProve random job.input) :
    (job.cleanup promise).Closed fullProve :=
  ⟨rfl, settles, rfl, rfl, rfl, stages, resolved⟩

theorem closed_reject (isOpen : job.Open toLowerCase fullProve) (thrown : Thrown) :
    (job.cleanup (.rejected thrown)).Closed fullProve := by
  rcases isOpen.talk with ⟨said, posted, seen⟩
  exact closed_cleanup (fun same => by cases same) (stages_begin posted seen)
    fun _ same => by cases same

end Moves

namespace ProofWorld

variable {toLowerCase : String → String} {fullProve : Nat → CircuitInput → MembershipProofOutput}
  {world : ProofWorld} {job : ProofJob} {id : Nat}

/-- The active job is the one whose promise is pending. -/
structure Sound (toLowerCase : String → String)
    (fullProve : Nat → CircuitInput → MembershipProofOutput) (world : ProofWorld) : Prop where
  active : ∀ id, world.activeProofJob = some id →
    ∃ job, world.jobs id = some job ∧ job.Open toLowerCase fullProve
  others : ∀ id job, world.jobs id = some job → world.activeProofJob ≠ some id →
    job.Closed fullProve
  fresh : ∀ id, world.nextJob ≤ id → world.jobs id = none

/-- All that an event can do. -/
inductive Steps (toLowerCase : String → String)
    (fullProve : Nat → CircuitInput → MembershipProofOutput) (world : ProofWorld) :
    ProofWorld → Prop where
  | nothing : Steps toLowerCase fullProve world world
  | starts (jobId : String) (input : CircuitInput) (timeoutMs : Nat)
      (inactive : world.activeProofJob = none) :
      Steps toLowerCase fullProve world
        { jobs := Function.update world.jobs world.nextJob (some (.start jobId input timeoutMs))
          nextJob := world.nextJob + 1
          activeProofJob := some world.nextJob }
  | moves (id : Nat) (job next : ProofJob) (found : world.jobs id = some job)
      (moves : job.Moves toLowerCase fullProve next) :
      Steps toLowerCase fullProve world (world.setJob id next)
  | settles (id : Nat) (job next : ProofJob) (promise : ProofPromise)
      (active : world.activeProofJob = some id) (found : world.jobs id = some job)
      (input : next.input = job.input) (closed : (next.cleanup promise).Closed fullProve) :
      Steps toLowerCase fullProve world
        { world.setJob id (next.cleanup promise) with activeProofJob := none }

theorem jobs_setJob_self : (world.setJob id job).jobs id = some job :=
  Function.update_self _ _ _

theorem jobs_setJob_other {other : Nat} (different : other ≠ id) :
    (world.setJob id job).jobs other = world.jobs other :=
  Function.update_of_ne different _ _

theorem setJob_setJob (id : Nat) (first second : ProofJob) (world : ProofWorld) :
    (world.setJob id first).setJob id second = world.setJob id second := by
  rw [setJob, setJob, setJob, Function.update_idem]

/-- A job that listens is the active one. -/
theorem Sound.active_of (sound : world.Sound toLowerCase fullProve)
    (found : world.jobs id = some job) (differs : job.finished = false ∨ job.listening = true ∨
      job.timeoutHandle = true) :
    world.activeProofJob = some id ∧ job.Open toLowerCase fullProve := by
  by_cases active : world.activeProofJob = some id
  · rcases sound.active id active with ⟨other, known, isOpen⟩
    rw [found] at known
    cases known
    exact ⟨active, isOpen⟩
  · have closed := sound.others id job found active
    rw [closed.finished, closed.listening, closed.timeoutHandle] at differs
    simp at differs

theorem steps_reject (found : world.jobs id = some job) (active : world.activeProofJob = some id)
    (isOpen : job.Open toLowerCase fullProve) (thrown : Thrown) :
    Steps toLowerCase fullProve world (world.settle id job (.rejected thrown)) := by
  rw [settle, if_neg (by rw [isOpen.finished]; decide)]
  exact .settles id job job _ active found rfl (closed_reject isOpen thrown)

theorem Sound.closed_of (sound : world.Sound toLowerCase fullProve)
    (found : world.jobs id = some job) (settled : job.promise ≠ .pending) :
    job.Closed fullProve := by
  refine sound.others id job found fun active => ?_
  rcases sound.active id active with ⟨_, same, isOpen⟩
  rw [found] at same
  cases same
  exact settled isOpen.promise

/-- What the page makes of the next message of an open job. -/
theorem onMessage_open (active : world.activeProofJob = some id)
    (found : world.jobs id = some job) (isOpen : job.Open toLowerCase fullProve)
    {message : ProofMessage} {rest : List ProofMessage}
    (queued : job.worker.posted = message :: rest) :
    Steps toLowerCase fullProve world
      ((world.setJob id { job with worker.posted := rest }).onMessage id
        { job with worker.posted := rest } message) := by
  rcases isOpen.talk with ⟨said, posted, seen⟩
  have begun := stages_begin posted seen
  rw [queued] at seen
  have own : message.jobId = job.jobId :=
    jobId_of_mem posted (seen ▸ List.mem_append_right _ List.mem_cons_self)
  unfold onMessage
  cases message with
  | status jobId stage =>
      cases own
      dsimp only
      rw [if_pos rfl, setJob_setJob]
      refine .moves id job _ found ⟨rfl, rfl, fun _ => ?_, fun closed => ?_⟩
      · refine ⟨isOpen.finished, isOpen.promise, isOpen.timeoutHandle, isOpen.listening,
          isOpen.running, said, posted, ?_⟩
        rw [← seen, List.map_append, List.append_assoc]
        rfl
      · exact absurd (isOpen.listening.symm.trans closed.listening) (by decide)
  | result jobId output =>
      cases own
      dsimp only
      rw [if_pos rfl, succeed, settle, if_neg (by rw [isOpen.finished]; decide), setJob_setJob]
      refine .settles id job _ _ active found rfl ?_
      rcases answer_of_seen posted seen rfl with ⟨stages, random | random, answer⟩
      · cases answer
      · cases answer
        refine closed_cleanup (fun same => by cases same) ?_ fun _ same => ?_
        · exact stages ▸ List.prefix_rfl
        · cases same
          exact ⟨stages, random, rfl⟩
  | error jobId error =>
      cases own
      dsimp only
      rw [if_pos rfl, fail, settle, if_neg (by rw [isOpen.finished]; decide), setJob_setJob]
      refine .settles id job _ _ active found rfl ?_
      exact closed_cleanup (fun same => by cases same) begun fun _ same => by cases same

theorem Sound.deliver (sound : world.Sound toLowerCase fullProve)
    (found : world.jobs id = some job) {message : ProofMessage} {rest : List ProofMessage}
    (queued : job.worker.posted = message :: rest) :
    Steps toLowerCase fullProve world
      (let job := { job with worker.posted := rest }
      let world := world.setJob id job
      if job.listening then world.onMessage id job message else world) := by
  dsimp only
  split
  · next listening =>
    have active := sound.active_of found (Or.inr (Or.inl listening))
    exact onMessage_open active.1 found active.2 queued
  · next deaf =>
    refine .moves id job _ found ⟨rfl, rfl, fun isOpen => ?_, fun closed => ?_⟩
    · exact absurd isOpen.listening deaf
    · exact ⟨closed.drop rest, rfl⟩

theorem Sound.step_cases (sound : world.Sound toLowerCase fullProve) (event : ProofEvent) :
    Steps toLowerCase fullProve world (step toLowerCase fullProve world event) := by
  cases event with
  | generate input jobId timeoutMs construction =>
      dsimp only [step, runProofInWorker]
      cases active : world.activeProofJob with
      | some id => exact .nothing
      | none =>
          rcases construction with thrown | _
          · exact .nothing
          · exact .starts jobId (circuitInput input) timeoutMs active
  | work id outcome =>
      dsimp only [step, withJob]
      cases found : world.jobs id with
      | none => exact .nothing
      | some job => exact .moves id job _ found (moves_work outcome)
  | deliver id =>
      dsimp only [step, withJob]
      cases found : world.jobs id with
      | none => exact .nothing
      | some job =>
          dsimp only
          cases posted : job.worker.posted with
          | nil => exact .nothing
          | cons message rest => exact sound.deliver found posted
  | crash id =>
      dsimp only [step, withJob]
      cases found : world.jobs id with
      | none => exact .nothing
      | some job =>
          dsimp only
          split
          · next listening =>
            have active := sound.active_of found (Or.inr (Or.inl listening))
            exact steps_reject found active.1 active.2 _
          · exact .nothing
  | timeout id =>
      dsimp only [step, withJob]
      cases found : world.jobs id with
      | none => exact .nothing
      | some job =>
          dsimp only
          split
          · next armed =>
            have active := sound.active_of found (Or.inr (Or.inr armed))
            exact steps_reject found active.1 active.2 _
          · exact .nothing
  | cancel reason =>
      dsimp only [step, withJob]
      cases active : world.activeProofJob with
      | none => exact .nothing
      | some id =>
          rcases sound.active id active with ⟨job, found, isOpen⟩
          dsimp only
          rw [found]
          exact steps_reject found active isOpen _

theorem Sound.step (sound : world.Sound toLowerCase fullProve) (event : ProofEvent) :
    (step toLowerCase fullProve world event).Sound toLowerCase fullProve := by
  have stepped := sound.step_cases event
  generalize ProofWorld.step toLowerCase fullProve world event = after at stepped ⊢
  have distinct : ∀ id job, world.jobs id = some job → ∀ other, world.nextJob ≤ other →
      other ≠ id := by
    rintro id job found other later rfl
    rw [sound.fresh other later] at found
    cases found
  cases stepped with
  | nothing => exact sound
  | starts jobId input timeoutMs inactive =>
      refine ⟨?_, fun other old found differs => ?_, fun other later => ?_⟩
      · rintro _ ⟨⟩
        exact ⟨_, Function.update_self _ _ _, rfl, rfl, rfl, rfl, rfl, [], rfl, rfl⟩
      · have different : other ≠ world.nextJob := fun same => differs (same ▸ rfl)
        refine sound.others other old ((Function.update_of_ne different _ _).symm.trans found) ?_
        rw [inactive]
        simp
      · exact (Function.update_of_ne (Nat.ne_of_gt later) _ _).trans
          (sound.fresh other (Nat.le_of_lt later))
  | moves id job next found moves =>
      refine ⟨fun other active => ?_, fun other old known inactive => ?_, fun other later => ?_⟩
      · rcases sound.active other active with ⟨old, known, isOpen⟩
        by_cases same : other = id
        · subst same
          rw [found] at known
          cases known
          exact ⟨next, jobs_setJob_self, moves.opened isOpen⟩
        · exact ⟨old, (jobs_setJob_other same).trans known, isOpen⟩
      · by_cases same : other = id
        · subst same
          rw [jobs_setJob_self] at known
          cases known
          exact (moves.closed (sound.others _ job found inactive)).1
        · exact sound.others other old ((jobs_setJob_other same).symm.trans known) inactive
      · exact (jobs_setJob_other (distinct id job found other later)).trans
          (sound.fresh other later)
  | settles id job next promise active found input closed =>
      refine ⟨fun _ none => (by cases none), fun other old known _ => ?_, fun other later => ?_⟩
      · by_cases same : other = id
        · subst same
          cases jobs_setJob_self.symm.trans known
          exact closed
        · refine sound.others other old ((jobs_setJob_other same).symm.trans known) ?_
          rw [active]
          exact fun equal => same (Option.some.inj equal).symm
      · exact (jobs_setJob_other (distinct id job found other later)).trans
          (sound.fresh other later)

theorem run_sound (toLowerCase : String → String)
    (fullProve : Nat → CircuitInput → MembershipProofOutput) (events : List ProofEvent) :
    (run toLowerCase fullProve events).Sound toLowerCase fullProve :=
  Execution.run_invariant (Sound toLowerCase fullProve) (fun _ event sound => sound.step event)
    ⟨fun _ none => (by cases none), fun _ _ none => (by cases none), fun _ _ => rfl⟩ events

/-- A job stays, with its input, and once its promise is settled it stays as it is. -/
def KeepsJob (id : Nat) (job : ProofJob) (world : ProofWorld) : Prop :=
  ∃ next, world.jobs id = some next ∧ next.input = job.input ∧
    (job.promise ≠ .pending → next.promise = job.promise ∧ next.stages = job.stages)

theorem Sound.step_keeps (sound : world.Sound toLowerCase fullProve) (event : ProofEvent)
    (found : world.jobs id = some job) :
    (ProofWorld.step toLowerCase fullProve world event).KeepsJob id job := by
  have stepped := sound.step_cases event
  generalize ProofWorld.step toLowerCase fullProve world event = after at stepped ⊢
  cases stepped with
  | nothing => exact ⟨job, found, rfl, fun _ => ⟨rfl, rfl⟩⟩
  | starts jobId input timeoutMs inactive =>
      have different : id ≠ world.nextJob := fun same => by
        rw [sound.fresh id (Nat.le_of_eq same.symm)] at found
        cases found
      exact ⟨job, (Function.update_of_ne different _ _).trans found, rfl, fun _ => ⟨rfl, rfl⟩⟩
  | moves other old next known moves =>
      by_cases same : id = other
      · subst same
        rw [found] at known
        cases known
        refine ⟨next, jobs_setJob_self, moves.input, fun settled => ⟨moves.promise, ?_⟩⟩
        exact (moves.closed (sound.closed_of found settled)).2
      · exact ⟨job, (jobs_setJob_other same).trans found, rfl, fun _ => ⟨rfl, rfl⟩⟩
  | settles other old next promise active known input closed =>
      by_cases same : id = other
      · subst same
        rcases sound.active id active with ⟨_, same, isOpen⟩
        rw [found] at same known
        cases same
        cases known
        exact ⟨_, jobs_setJob_self, input, fun settled => absurd isOpen.promise settled⟩
      · exact ⟨job, (jobs_setJob_other same).trans found, rfl, fun _ => ⟨rfl, rfl⟩⟩

theorem run_keeps (events more : List ProofEvent)
    (found : (run toLowerCase fullProve events).jobs id = some job) :
    (run toLowerCase fullProve (events ++ more)).KeepsJob id job := by
  induction more using List.reverseRecOn with
  | nil => exact ⟨job, by rwa [List.append_nil], rfl, fun _ => ⟨rfl, rfl⟩⟩
  | append_singleton more event induction =>
      rcases induction with ⟨middle, there, input, kept⟩
      rw [← List.append_assoc, run, Execution.run_concat]
      rcases (run_sound toLowerCase fullProve (events ++ more)).step_keeps event there with
        ⟨last, after, sameInput, stays⟩
      refine ⟨last, after, sameInput.trans input, fun settled => ?_⟩
      have first := kept settled
      have second := stays (first.1 ▸ settled)
      exact ⟨second.1.trans first.1, second.2.trans first.2⟩

/-- In every run at most one worker runs. It is that of the active job, which is the one with a
pending promise and a timer, so that a call is refused only while another can still settle. -/
theorem proofJobs_exclusive (toLowerCase : String → String)
    (fullProve : Nat → CircuitInput → MembershipProofOutput) (events : List ProofEvent) :
    let world := run toLowerCase fullProve events
    (∀ id job, world.jobs id = some job →
      (job.worker.running = true ↔ world.activeProofJob = some id) ∧
      (job.promise = .pending ↔ world.activeProofJob = some id) ∧
      (job.timeoutHandle = true ↔ world.activeProofJob = some id)) ∧
    ∀ jobId input timeoutMs,
      (world.runProofInWorker jobId input timeoutMs (.ok ())).1 =
          .error (.zkProofInFlightError "proof still running.") ↔
        ∃ id job, world.jobs id = some job ∧ job.promise = .pending := by
  intro world
  have sound := run_sound toLowerCase fullProve events
  refine ⟨fun id job found => ?_, fun jobId input timeoutMs => ?_⟩
  · by_cases active : world.activeProofJob = some id
    · rcases sound.active id active with ⟨other, known, isOpen⟩
      rw [found] at known
      cases known
      exact ⟨iff_of_true isOpen.running active, iff_of_true isOpen.promise active,
        iff_of_true isOpen.timeoutHandle active⟩
    · have closed := sound.others id job found active
      exact ⟨iff_of_false (by rw [closed.running]; decide) active,
        iff_of_false closed.promise active,
        iff_of_false (by rw [closed.timeoutHandle]; decide) active⟩
  · unfold runProofInWorker
    cases active : world.activeProofJob with
    | some id =>
        rcases sound.active id active with ⟨job, found, isOpen⟩
        exact iff_of_true rfl ⟨id, job, found, isOpen.promise⟩
    | none =>
        refine iff_of_false (fun same => by cases same) ?_
        rintro ⟨id, job, found, pending⟩
        refine (sound.others id job found ?_).promise pending
        rw [active]
        simp

end ProofWorld

/-- What an identity store shows of a stage. -/
def ProofGenerationStage.provingStatus : ProofGenerationStage → ProvingStatus
  | .loadingAssets => .loadingAssets
  | .computingWitness => .computingWitness
  | .generatingProof => .generatingProof

/-- A promise that is settled stays as it is, whatever comes: it has a proof, made from the
job's own input and after all stages were shown in their order, or an error. -/
theorem proofJob_settled (toLowerCase : String → String)
    (fullProve : Nat → CircuitInput → MembershipProofOutput) (events more : List ProofEvent)
    (id : Nat) (job : ProofJob)
    (found : (ProofWorld.run toLowerCase fullProve events).jobs id = some job)
    (settled : job.promise ≠ .pending) :
    (∃ last, (ProofWorld.run toLowerCase fullProve (events ++ more)).jobs id = some last ∧
      last.promise = job.promise ∧ last.stages = job.stages) ∧
    job.stages <+: allStages ∧
    ∀ output, job.promise = .resolved output →
      job.stages = allStages ∧ ∃ random, output = fullProve random job.input := by
  rcases ProofWorld.run_keeps events more found with ⟨last, after, _, kept⟩
  have closed := (ProofWorld.run_sound toLowerCase fullProve events).closed_of found settled
  exact ⟨⟨last, after, kept settled⟩, closed.stages, closed.resolved⟩

theorem proofJob_settled_cancelled :
    let events : List ProofEvent := [.generate ⟨1, 1, 1, 0, [], []⟩ "job" 1000 (.ok ()),
      .work 0 (.ok 0), .deliver 0, .cancel "stop"]
    ∃ last, (ProofWorld.run id (fun _ _ => ⟨.malformed "", []⟩)
        (events ++ [.work 0 (.ok 0), .deliver 0, .timeout 0])).jobs 0 = some last ∧
      last.promise = .rejected (.zkProofCancelledError "stop") ∧
      last.stages = [.loadingAssets] :=
  (proofJob_settled id (fun _ _ => ⟨.malformed "", []⟩)
    [.generate ⟨1, 1, 1, 0, [], []⟩ "job" 1000 (.ok ()), .work 0 (.ok 0), .deliver 0,
      .cancel "stop"]
    [.work 0 (.ok 0), .deliver 0, .timeout 0] 0 _ rfl (by simp [ProofJob.cleanup])).1

/-- The stages are shown, one after the other. -/
def Place.show (stages : List ProvingStatus) (place : Place) : Place :=
  { place with
    store := stages.foldl (fun store provingStatus => { store with provingStatus }) place.store }

/-- What a job gives a registration that awaits it. -/
def ProofPromise.Gives (promise : ProofPromise) (place : Place)
    (result : EStateM.Result Thrown Place MembershipProofOutput) : Prop :=
  match promise with
  | .pending => False
  | .resolved output => result = .ok output place
  | .rejected thrown => result = .error thrown place

/-- A registration that awaits a proof is given what a job comes to: the stages that it shows
and the outcome that it meets are those of the job. -/
theorem generateMembershipProof_of_job {Fq Key : Type} (setting : Setting Fq Key)
    (toLowerCase : String → String) (events : List ProofEvent) (id : Nat) (job : ProofJob)
    (found : (ProofWorld.run toLowerCase setting.fullProve events).jobs id = some job)
    (input : MembershipProofInput) (asked : job.input = circuitInput input)
    (settled : job.promise ≠ .pending) :
    ∃ outcome, ∀ place : Place,
      job.promise.Gives (place.show (job.stages.map ProofGenerationStage.provingStatus))
        (generateMembershipProof setting input
          (job.stages.map ProofGenerationStage.provingStatus) outcome place) := by
  have closed := (ProofWorld.run_sound toLowerCase setting.fullProve events).closed_of found
    settled
  cases promise : job.promise with
  | pending => exact absurd promise settled
  | resolved output =>
      rcases (closed.resolved output promise).2 with ⟨random, rfl⟩
      refine ⟨.ok random, fun place => ?_⟩
      rw [asked]
      rfl
  | rejected thrown => exact ⟨.error thrown, fun place => rfl⟩

end Annex.Client
