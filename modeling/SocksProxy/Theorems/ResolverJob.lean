import Mathlib.Logic.Relation
import SocksProxy.Runs
import SocksProxy.Lemmas.Control
import SocksProxy.Library.Traces
import SocksProxy.Resolver

/-!
# The life of a resolver job

`JobState` follows a job access by access; the server takes a critical section on a job, and a release of it, as one step. Both
make the moves of one abstract job, `JobMove`: `step_refines` says so of every step of either party, by a relation
(`JobRefines`) that says for every place the two parties can be in what the job holds, and `step_moves` says so of every step of
the server. `JobRefines` leaves no place for a fault, a second `free` or a lost list.
-/

namespace SocksProxy

/-- What is known of a job from outside: whether it is there, and what its thread has published. -/
inductive JobRecord where
  | absent
  | unanswered
  | answered (status : Int) (result : List AddrInfo)

/-- A job from outside: its record, the phase of its thread, and whether a session still has it. -/
structure JobView where
  record : JobRecord
  phase : ThreadPhase
  held : Bool

/-- What can happen to a job, seen from outside. -/
inductive JobMove : JobView → JobView → Prop where
  | start : JobMove ⟨.absent, .finished, false⟩ ⟨.unanswered, .resolving, true⟩
  | publish (status : Int) (result : List AddrInfo) (clientFd : Int) :
    JobMove ⟨.unanswered, .resolving, true⟩ ⟨.answered status result, .notifying clientFd, true⟩
  | publishAlone (status : Int) (result : List AddrInfo) :
    JobMove ⟨.unanswered, .resolving, false⟩ ⟨.answered status result, .releasing, false⟩
  | notify (record : JobRecord) (clientFd : Int) (held : Bool) :
    JobMove ⟨record, .notifying clientFd, held⟩ ⟨record, .finished, held⟩
  | release (status : Int) (result : List AddrInfo) :
    JobMove ⟨.answered status result, .releasing, false⟩ ⟨.absent, .finished, false⟩
  | take (status : Int) (result : List AddrInfo) (phase : ThreadPhase) :
    JobMove ⟨.answered status result, phase, true⟩ ⟨.absent, phase, false⟩
  | abandon : JobMove ⟨.unanswered, .resolving, true⟩ ⟨.unanswered, .resolving, false⟩

/-- Any number of moves. -/
abbrev JobMoves : JobView → JobView → Prop := Relation.ReflTransGen JobMove

/-- The record once the thread has published an answer. -/
def ResolverJob.publish (job : ResolverJob) (answer : GaiAnswer) : ResolverJob :=
  { job with result := answer.result, status := answer.status, done := true }

/-- A pointer names at most one list. -/
theorem listCount_le (result : List AddrInfo) : listCount result ≤ 1 := by
  unfold listCount
  split <;> omega

/-! ## Where the two parties can be -/

/-- The event loop is still in `start_target_resolution`, or left it without a thread. -/
inductive Starting : LoopPc → Option ResolverJob → JobMutex → Bool → JobLedger → Prop where
  | calloc : Starting .calloc none .uninitialised false ⟨0, 0, 0, 0, 0, 0, 0⟩
  | mutexInit (job : ResolverJob) (undone : job.done = false) :
    Starting .mutexInit (some job) .uninitialised false ⟨1, 0, 0, 0, 0, 0, 0⟩
  | freeUninitialised (job : ResolverJob) : Starting .freeUninitialised (some job) .uninitialised false ⟨1, 0, 0, 0, 0, 0, 0⟩
  | fill (job : ResolverJob) (undone : job.done = false) : Starting .fill (some job) .unlocked false ⟨1, 0, 1, 0, 0, 0, 0⟩
  | create (job : ResolverJob) (undone : job.done = false) (waiting : job.state.isSome = true) :
    Starting .create (some job) .unlocked true ⟨1, 0, 1, 0, 0, 0, 0⟩
  | forgetUnstarted (job : ResolverJob) : Starting .forgetUnstarted (some job) .unlocked true ⟨1, 0, 1, 0, 0, 0, 0⟩
  | destroyUnstarted (job : ResolverJob) : Starting .destroyUnstarted (some job) .unlocked false ⟨1, 0, 1, 0, 0, 0, 0⟩
  | freeUnstarted (job : ResolverJob) : Starting .freeUnstarted (some job) .destroyed false ⟨1, 0, 1, 1, 0, 0, 0⟩
  | failed (mutex : JobMutex) (a i : Nat) (ha : a ≤ 1) (hi : i ≤ 1) : Starting .between none mutex false ⟨a, a, i, i, 0, 0, 0⟩

/-- The thread has not locked the mutex yet; the number is that of the lists it has obtained. -/
inductive Resolving : ResolverPc → Nat → Prop where
  | getaddrinfo : Resolving .getaddrinfo 0
  | lock (answer : GaiAnswer) : Resolving (.lock answer) (listCount answer.result)

/-- The thread is in its critical section on the job, which was `job` when it locked the mutex. -/
inductive Publishing (job : ResolverJob) : ResolverPc → ResolverJob → Nat → Prop where
  | storeResult (answer : GaiAnswer) : Publishing job (.storeResult answer) job (listCount answer.result)
  | storeStatus (answer : GaiAnswer) :
    Publishing job (.storeStatus answer) { job with result := answer.result } (listCount answer.result)
  | storeDone (answer : GaiAnswer) :
    Publishing job (.storeDone answer) { job with result := answer.result, status := answer.status } (listCount answer.result)
  | loadState (answer : GaiAnswer) : Publishing job (.loadState answer) (job.publish answer) (listCount answer.result)
  | loadSelector (answer : GaiAnswer) :
    Publishing job (.loadSelector answer job.state.isSome) (job.publish answer) (listCount answer.result)
  | loadClientFd (answer : GaiAnswer) :
    Publishing job (.loadClientFd answer job.state.isSome) (job.publish answer) (listCount answer.result)
  | unlock (answer : GaiAnswer) :
    Publishing job (.unlock answer job.state.isSome job.clientFd) (job.publish answer) (listCount answer.result)

/-- The thread is past its critical section, where it found a client, or past the release of the job. -/
inductive Told : ResolverPc → ThreadPhase → Prop where
  | notify (clientFd : Int) : Told (.notify clientFd) (.notifying clientFd)
  | returned : Told .returned .finished

/-- The thread is past its critical section, where it found no client. -/
inductive Releasing : ResolverPc → JobMutex → JobLedger → Prop where
  | freeaddrinfo (answer : GaiAnswer) :
    Releasing (.freeaddrinfo answer) .unlocked ⟨1, 0, 1, 0, listCount answer.result, 0, 0⟩
  | destroy (n : Nat) (hn : n ≤ 1) : Releasing .destroy .unlocked ⟨1, 0, 1, 0, n, 0, n⟩
  | free (n : Nat) (hn : n ≤ 1) : Releasing .free .destroyed ⟨1, 0, 1, 1, n, 0, n⟩

/-- The event loop is in none of its critical sections: `pointer` is what `state->resolver_job` says, and `held` whether the job
still names the session. -/
inductive Away : LoopPc → (pointer held : Bool) → Prop where
  | between (held : Bool) : Away .between held held
  | resolveLock : Away .resolveLock true true
  | detachLock : Away .detachLock true true
  | detachForget : Away .detachForget true false

/-- The event loop is in a critical section on a job whose thread has not published. -/
inductive Looking (job : ResolverJob) : LoopPc → ResolverJob → Prop where
  | resolveLoadDone : Looking job .resolveLoadDone job
  | resolveUnlockUndone : Looking job .resolveUnlockUndone job
  | detachClearState : Looking job .detachClearState job
  | detachLoadDone : Looking job .detachLoadDone { job with state := none }
  | detachUnlockUndone : Looking job .detachUnlockUndone { job with state := none }

/-- The event loop is in a critical section on a job whose thread has published, or past it, and has still to forget it. -/
inductive Taking (job : ResolverJob) : LoopPc → Option ResolverJob → JobMutex → JobLedger → Prop where
  | resolveLoadDone :
    Taking job .resolveLoadDone (some job) (.locked .eventLoop) ⟨1, 0, 1, 0, listCount job.result, 0, 0⟩
  | resolveLoadResult :
    Taking job .resolveLoadResult (some job) (.locked .eventLoop) ⟨1, 0, 1, 0, listCount job.result, 0, 0⟩
  | resolveLoadStatus :
    Taking job (.resolveLoadStatus job.result) (some job) (.locked .eventLoop) ⟨1, 0, 1, 0, listCount job.result, 0, 0⟩
  | resolveClearResult :
    Taking job (.resolveClearResult job.result job.status) (some job) (.locked .eventLoop)
      ⟨1, 0, 1, 0, listCount job.result, 0, 0⟩
  | resolveClearState (now : ResolverJob) :
    Taking job (.resolveClearState job.result job.status) (some now) (.locked .eventLoop)
      ⟨1, 0, 1, 0, listCount job.result, 0, 0⟩
  | resolveUnlock (now : ResolverJob) :
    Taking job (.resolveUnlock job.result job.status) (some now) (.locked .eventLoop)
      ⟨1, 0, 1, 0, listCount job.result, 0, 0⟩
  | resolveDestroy (now : ResolverJob) :
    Taking job (.resolveDestroy job.result job.status) (some now) .unlocked ⟨1, 0, 1, 0, listCount job.result, 0, 0⟩
  | resolveFree (now : ResolverJob) :
    Taking job (.resolveFree job.result job.status) (some now) .destroyed ⟨1, 0, 1, 1, listCount job.result, 0, 0⟩
  | resolveForget :
    Taking job (.resolveForget job.result job.status) none .destroyed ⟨1, 1, 1, 1, listCount job.result, 0, 0⟩
  | detachClearState :
    Taking job .detachClearState (some job) (.locked .eventLoop) ⟨1, 0, 1, 0, listCount job.result, 0, 0⟩
  | detachLoadDone :
    Taking job .detachLoadDone (some { job with state := none }) (.locked .eventLoop)
      ⟨1, 0, 1, 0, listCount job.result, 0, 0⟩
  | detachLoadResult :
    Taking job .detachLoadResult (some { job with state := none }) (.locked .eventLoop)
      ⟨1, 0, 1, 0, listCount job.result, 0, 0⟩
  | detachFreeaddrinfo :
    Taking job .detachFreeaddrinfo (some { job with state := none }) (.locked .eventLoop)
      ⟨1, 0, 1, 0, listCount job.result, 0, 0⟩
  | detachClearResult (now : ResolverJob) :
    Taking job .detachClearResult (some now) (.locked .eventLoop)
      ⟨1, 0, 1, 0, listCount job.result, 0, listCount job.result⟩
  | detachUnlockDone (now : ResolverJob) :
    Taking job .detachUnlockDone (some now) (.locked .eventLoop)
      ⟨1, 0, 1, 0, listCount job.result, 0, listCount job.result⟩
  | detachDestroy (now : ResolverJob) :
    Taking job .detachDestroy (some now) .unlocked ⟨1, 0, 1, 0, listCount job.result, 0, listCount job.result⟩
  | detachFree (now : ResolverJob) :
    Taking job .detachFree (some now) .destroyed ⟨1, 0, 1, 1, listCount job.result, 0, listCount job.result⟩
  | detachForget : Taking job .detachForget none .destroyed ⟨1, 1, 1, 1, listCount job.result, 0, listCount job.result⟩

/-- The job is freed, and the event loop has at most its pointer left to clear, or the list to take. -/
inductive Gone : LoopPc → Bool → JobLedger → Prop where
  | away (l : LoopPc) (pointer : Bool) (n m k : Nat) (h : Away l pointer false) (hn : n ≤ 1) (hk : m + k = n) :
    Gone l pointer ⟨1, 1, 1, 1, n, m, k⟩
  | resolveSettle (result : List AddrInfo) (status : Int) (failed : status ≠ 0 → result = []) :
    Gone (.resolveSettle result status) false ⟨1, 1, 1, 1, listCount result, 0, 0⟩

/-- A job and the server's view of it, wherever the two parties are. -/
inductive JobRefines : JobState → JobView → Prop where
  | starting (l : LoopPc) (job : Option ResolverJob) (mutex : JobMutex) (pointer : Bool) (ledger : JobLedger)
    (h : Starting l job mutex pointer ledger) :
    JobRefines ⟨job, mutex, pointer, .unborn, l, ledger, []⟩ ⟨.absent, .finished, false⟩
  | resolving (job : ResolverJob) (t : ResolverPc) (l : LoopPc) (pointer held : Bool) (n : Nat) (ht : Resolving t n)
    (hl : Away l pointer held) (undone : job.done = false) (waiting : job.state.isSome = held) :
    JobRefines ⟨some job, .unlocked, pointer, t, l, ⟨1, 0, 1, 0, n, 0, 0⟩, []⟩ ⟨.unanswered, .resolving, held⟩
  | publishing (job now : ResolverJob) (t : ResolverPc) (l : LoopPc) (pointer held : Bool) (n : Nat)
    (ht : Publishing job t now n) (hl : Away l pointer held) (waiting : job.state.isSome = held) :
    JobRefines ⟨some now, .locked .resolver, pointer, t, l, ⟨1, 0, 1, 0, n, 0, 0⟩, []⟩ ⟨.unanswered, .resolving, held⟩
  | looking (job now : ResolverJob) (t : ResolverPc) (l : LoopPc) (n : Nat) (ht : Resolving t n) (hl : Looking job l now)
    (undone : job.done = false) (waiting : job.state.isSome = true) :
    JobRefines ⟨some now, .locked .eventLoop, true, t, l, ⟨1, 0, 1, 0, n, 0, 0⟩, []⟩ ⟨.unanswered, .resolving, true⟩
  | published (job : ResolverJob) (t : ResolverPc) (phase : ThreadPhase) (l : LoopPc) (ht : Told t phase)
    (hl : Away l true true) (done : job.done = true) (failed : job.status ≠ 0 → job.result = []) :
    JobRefines ⟨some job, .unlocked, true, t, l, ⟨1, 0, 1, 0, listCount job.result, 0, 0⟩, []⟩
      ⟨.answered job.status job.result, phase, true⟩
  | taking (job : ResolverJob) (now : Option ResolverJob) (mutex : JobMutex) (t : ResolverPc) (phase : ThreadPhase) (l : LoopPc)
    (ledger : JobLedger) (ht : Told t phase) (hl : Taking job l now mutex ledger) (done : job.done = true)
    (failed : job.status ≠ 0 → job.result = []) :
    JobRefines ⟨now, mutex, true, t, l, ledger, []⟩ ⟨.answered job.status job.result, phase, true⟩
  | releasing (job : ResolverJob) (mutex : JobMutex) (t : ResolverPc) (l : LoopPc) (pointer : Bool) (ledger : JobLedger)
    (ht : Releasing t mutex ledger) (hl : Away l pointer false) :
    JobRefines ⟨some job, mutex, pointer, t, l, ledger, []⟩ ⟨.answered job.status job.result, .releasing, false⟩
  | gone (t : ResolverPc) (phase : ThreadPhase) (l : LoopPc) (pointer : Bool) (ledger : JobLedger) (ht : Told t phase)
    (hl : Gone l pointer ledger) :
    JobRefines ⟨none, .destroyed, pointer, t, l, ledger, []⟩ ⟨.absent, phase, false⟩

/-! ## The steps of the thread -/

section

variable {j : JobState} {v : JobView}

/-- Every step of the thread is some moves of the view. -/
theorem resolver_refines (h : JobRefines j v) (answer : Option GaiAnswer) :
    ∃ v', JobMoves v v' ∧ JobRefines (j.step (.resolver answer)) v' := by
  cases h with
  | starting l job mutex pointer ledger h => exact ⟨_, .refl, .starting l job mutex pointer ledger h⟩
  | resolving job t l pointer held n ht hl undone waiting =>
    cases ht with
    | getaddrinfo =>
      cases answer with
      | none => exact ⟨_, .refl, .resolving job _ l pointer held 0 .getaddrinfo hl undone waiting⟩
      | some answer =>
        refine ⟨_, .refl, ?_⟩
        simpa only [JobState.step, JobState.resolveTarget, JobState.access, Nat.zero_add] using
          JobRefines.resolving job _ l pointer held _ (.lock answer) hl undone waiting
    | lock answer => exact ⟨_, .refl, .publishing job job _ l pointer held _ (.storeResult answer) hl waiting⟩
  | publishing job now t l pointer held n ht hl waiting =>
    cases ht with
    | storeResult answer => exact ⟨_, .refl, .publishing job _ _ l pointer held _ (.storeStatus answer) hl waiting⟩
    | storeStatus answer => exact ⟨_, .refl, .publishing job _ _ l pointer held _ (.storeDone answer) hl waiting⟩
    | storeDone answer => exact ⟨_, .refl, .publishing job _ _ l pointer held _ (.loadState answer) hl waiting⟩
    | loadState answer => exact ⟨_, .refl, .publishing job _ _ l pointer held _ (.loadSelector answer) hl waiting⟩
    | loadSelector answer => exact ⟨_, .refl, .publishing job _ _ l pointer held _ (.loadClientFd answer) hl waiting⟩
    | loadClientFd answer => exact ⟨_, .refl, .publishing job _ _ l pointer held _ (.unlock answer) hl waiting⟩
    | unlock answer =>
      rw [waiting]
      cases held with
      | false =>
        exact ⟨_, .single (.publishAlone answer.status answer.result),
          .releasing (job.publish answer) _ _ l pointer _ (.freeaddrinfo answer) hl⟩
      | true =>
        obtain rfl : pointer = true := by cases hl <;> rfl
        exact ⟨_, .single (.publish answer.status answer.result job.clientFd),
          .published (job.publish answer) _ _ l (.notify job.clientFd) hl rfl answer.failed⟩
  | looking job now t l n ht hl undone waiting =>
    -- a thread at its `lock` waits: the event loop holds the mutex
    cases ht with
    | getaddrinfo =>
      cases answer with
      | none => exact ⟨_, .refl, .looking job now _ l 0 .getaddrinfo hl undone waiting⟩
      | some answer =>
        refine ⟨_, .refl, ?_⟩
        simpa only [JobState.step, JobState.resolveTarget, JobState.access, Nat.zero_add] using
          JobRefines.looking job now _ l _ (.lock answer) hl undone waiting
    | lock answer => exact ⟨_, .refl, .looking job now _ l _ (.lock answer) hl undone waiting⟩
  | published job t phase l ht hl done failed =>
    cases ht with
    | notify clientFd => exact ⟨_, .single (.notify _ clientFd true), .published job _ _ l .returned hl done failed⟩
    | returned => exact ⟨_, .refl, .published job _ _ l .returned hl done failed⟩
  | taking job now mutex t phase l ledger ht hl done failed =>
    cases ht with
    | notify clientFd =>
      exact ⟨_, .single (.notify _ clientFd true), .taking job now mutex _ _ l ledger .returned hl done failed⟩
    | returned => exact ⟨_, .refl, .taking job now mutex _ _ l ledger .returned hl done failed⟩
  | releasing job mutex t l pointer ledger ht hl =>
    cases ht with
    | freeaddrinfo answer =>
      refine ⟨_, .refl, ?_⟩
      simpa only [JobState.step, JobState.resolveTarget, JobState.freeaddrinfo, Nat.zero_add] using
        JobRefines.releasing job _ _ l pointer _ (.destroy (listCount answer.result) (listCount_le _)) hl
    | destroy n hn => exact ⟨_, .refl, .releasing job _ _ l pointer _ (.free n hn) hl⟩
    | free n hn =>
      exact ⟨_, .single (.release job.status job.result),
        .gone _ _ l pointer _ .returned (.away l pointer n 0 n hl hn (Nat.zero_add n))⟩
  | gone t phase l pointer ledger ht hl =>
    cases ht with
    | notify clientFd => exact ⟨_, .single (.notify _ clientFd false), .gone _ _ l pointer ledger .returned hl⟩
    | returned => exact ⟨_, .refl, .gone _ _ l pointer ledger .returned hl⟩

/-! ## The steps of the event loop -/

/-- Every step of `start_target_resolution` is some moves of the view. -/
theorem start_refines (h : JobRefines j v) (sid : Nat) (clientFd : Int) (host : CString) (port : UInt16) (ok : Bool) :
    ∃ v', JobMoves v v' ∧ JobRefines (j.step (.start sid clientFd host port ok)) v' := by
  have same := h
  cases h with
  | starting l job mutex pointer ledger h =>
    cases h with
    | calloc =>
      cases ok with
      | false => exact ⟨_, .refl, .starting _ _ _ _ _ (.failed .uninitialised 0 0 (by omega) (by omega))⟩
      | true => exact ⟨_, .refl, .starting _ _ _ _ _ (.mutexInit _ rfl)⟩
    | mutexInit job undone =>
      cases ok with
      | false => exact ⟨_, .refl, .starting _ _ _ _ _ (.freeUninitialised job)⟩
      | true => exact ⟨_, .refl, .starting _ _ _ _ _ (.fill job undone)⟩
    | freeUninitialised job => exact ⟨_, .refl, .starting _ _ _ _ _ (.failed .uninitialised 1 0 (by omega) (by omega))⟩
    | fill job undone => exact ⟨_, .refl, .starting _ _ _ _ _ (.create _ undone rfl)⟩
    | create job undone waiting =>
      cases ok with
      | false => exact ⟨_, .refl, .starting _ _ _ _ _ (.forgetUnstarted job)⟩
      | true =>
        exact ⟨_, .single .start, .resolving job _ _ _ true 0 .getaddrinfo (.between true) undone waiting⟩
    | forgetUnstarted job => exact ⟨_, .refl, .starting _ _ _ _ _ (.destroyUnstarted job)⟩
    | destroyUnstarted job => exact ⟨_, .refl, .starting _ _ _ _ _ (.freeUnstarted job)⟩
    | freeUnstarted job => exact ⟨_, .refl, .starting _ _ _ _ _ (.failed .destroyed 1 1 (by omega) (by omega))⟩
    | failed mutex a i ha hi => exact ⟨_, .refl, .starting _ _ _ _ _ (.failed mutex a i ha hi)⟩
  | resolving job t l pointer held n ht hl undone waiting => cases hl <;> exact ⟨_, .refl, same⟩
  | publishing job now t l pointer held n ht hl waiting => cases hl <;> exact ⟨_, .refl, same⟩
  | looking job now t l n ht hl undone waiting => cases hl <;> exact ⟨_, .refl, same⟩
  | published job t phase l ht hl done failed => cases hl <;> exact ⟨_, .refl, same⟩
  | taking job now mutex t phase l ledger ht hl done failed => cases hl <;> exact ⟨_, .refl, same⟩
  | releasing job mutex t l pointer ledger ht hl => cases hl <;> exact ⟨_, .refl, same⟩
  | gone t phase l pointer ledger ht hl =>
    cases hl with
    | away l pointer n m k hl => cases hl <;> exact ⟨_, .refl, same⟩
    | resolveSettle result status failed => exact ⟨_, .refl, same⟩

/-- Every step of `target_connection_on_resolve` and of `target_connection_detach_resolver` is some moves of the view. -/
theorem resume_refines (h : JobRefines j v) : ∃ v', JobMoves v v' ∧ JobRefines (j.step .resume) v' := by
  have same := h
  cases h with
  | starting l job mutex pointer ledger h => cases h <;> exact ⟨_, .refl, same⟩
  | resolving job t l pointer held n ht hl undone waiting =>
    cases hl with
    | between => exact ⟨_, .refl, same⟩
    | resolveLock => exact ⟨_, .refl, .looking job job t _ n ht .resolveLoadDone undone waiting⟩
    | detachLock => exact ⟨_, .refl, .looking job job t _ n ht .detachClearState undone waiting⟩
    | detachForget => exact ⟨_, .refl, .resolving job t _ _ _ n ht (.between false) undone waiting⟩
  | publishing job now t l pointer held n ht hl waiting =>
    -- the event loop waits at its `lock`: the thread holds the mutex
    cases hl with
    | between => exact ⟨_, .refl, same⟩
    | resolveLock => exact ⟨_, .refl, same⟩
    | detachLock => exact ⟨_, .refl, same⟩
    | detachForget => exact ⟨_, .refl, .publishing job now t _ _ _ n ht (.between false) waiting⟩
  | looking job now t l n ht hl undone waiting =>
    cases hl with
    | resolveLoadDone =>
      refine ⟨_, .refl, ?_⟩
      simpa [JobState.step, JobState.targetConnectionOnResolve, JobState.targetConnectionDetachResolver, JobState.access,
        undone] using JobRefines.looking job job t _ n ht .resolveUnlockUndone undone waiting
    | resolveUnlockUndone => exact ⟨_, .refl, .resolving job t _ _ _ n ht (.between true) undone waiting⟩
    | detachClearState => exact ⟨_, .refl, .looking job _ t _ n ht .detachLoadDone undone waiting⟩
    | detachLoadDone =>
      refine ⟨_, .refl, ?_⟩
      simpa [JobState.step, JobState.targetConnectionOnResolve, JobState.targetConnectionDetachResolver, JobState.access,
        undone] using JobRefines.looking job _ t _ n ht .detachUnlockUndone undone waiting
    | detachUnlockUndone => exact ⟨_, .single .abandon, .resolving _ t _ _ _ n ht .detachForget undone rfl⟩
  | published job t phase l ht hl done failed =>
    cases hl with
    | between => exact ⟨_, .refl, same⟩
    | resolveLock => exact ⟨_, .refl, .taking job _ _ t phase _ _ ht .resolveLoadDone done failed⟩
    | detachLock => exact ⟨_, .refl, .taking job _ _ t phase _ _ ht .detachClearState done failed⟩
  | taking job now mutex t phase l ledger ht hl done failed =>
    cases hl with
    | resolveLoadDone =>
      refine ⟨_, .refl, ?_⟩
      simpa [JobState.step, JobState.targetConnectionOnResolve, JobState.targetConnectionDetachResolver, JobState.access,
        done] using JobRefines.taking job _ _ t phase _ _ ht .resolveLoadResult done failed
    | resolveLoadResult => exact ⟨_, .refl, .taking job _ _ t phase _ _ ht .resolveLoadStatus done failed⟩
    | resolveLoadStatus => exact ⟨_, .refl, .taking job _ _ t phase _ _ ht .resolveClearResult done failed⟩
    | resolveClearResult => exact ⟨_, .refl, .taking job _ _ t phase _ _ ht (.resolveClearState _) done failed⟩
    | resolveClearState now => exact ⟨_, .refl, .taking job _ _ t phase _ _ ht (.resolveUnlock _) done failed⟩
    | resolveUnlock now => exact ⟨_, .refl, .taking job _ _ t phase _ _ ht (.resolveDestroy now) done failed⟩
    | resolveDestroy now => exact ⟨_, .refl, .taking job _ _ t phase _ _ ht (.resolveFree now) done failed⟩
    | resolveFree now => exact ⟨_, .refl, .taking job _ _ t phase _ _ ht .resolveForget done failed⟩
    | resolveForget =>
      exact ⟨_, .single (.take job.status job.result phase),
        .gone t phase _ _ _ ht (.resolveSettle job.result job.status failed)⟩
    | detachClearState => exact ⟨_, .refl, .taking job _ _ t phase _ _ ht .detachLoadDone done failed⟩
    | detachLoadDone =>
      refine ⟨_, .refl, ?_⟩
      simpa [JobState.step, JobState.targetConnectionOnResolve, JobState.targetConnectionDetachResolver, JobState.access,
        done] using JobRefines.taking job _ _ t phase _ _ ht .detachLoadResult done failed
    | detachLoadResult =>
      refine ⟨_, .refl, ?_⟩
      by_cases hr : job.result = []
      · have hk := JobRefines.taking job _ _ t phase _ _ ht (.detachUnlockDone { job with state := none }) done failed
        simpa [JobState.step, JobState.targetConnectionOnResolve, JobState.targetConnectionDetachResolver, JobState.access,
          hr, listCount] using hk
      · simpa [JobState.step, JobState.targetConnectionOnResolve, JobState.targetConnectionDetachResolver, JobState.access,
          hr] using JobRefines.taking job _ _ t phase _ _ ht .detachFreeaddrinfo done failed
    | detachFreeaddrinfo =>
      refine ⟨_, .refl, ?_⟩
      simpa only [JobState.step, JobState.targetConnectionOnResolve, JobState.targetConnectionDetachResolver,
        JobState.access, JobState.freeaddrinfo, Nat.zero_add] using
        JobRefines.taking job _ _ t phase _ _ ht (.detachClearResult { job with state := none }) done failed
    | detachClearResult now => exact ⟨_, .refl, .taking job _ _ t phase _ _ ht (.detachUnlockDone _) done failed⟩
    | detachUnlockDone now => exact ⟨_, .refl, .taking job _ _ t phase _ _ ht (.detachDestroy now) done failed⟩
    | detachDestroy now => exact ⟨_, .refl, .taking job _ _ t phase _ _ ht (.detachFree now) done failed⟩
    | detachFree now => exact ⟨_, .refl, .taking job _ _ t phase _ _ ht .detachForget done failed⟩
    | detachForget =>
      exact ⟨_, .single (.take job.status job.result phase),
        .gone t phase _ _ _ ht (.away _ _ _ 0 _ (.between false) (listCount_le _) (Nat.zero_add _))⟩
  | releasing job mutex t l pointer ledger ht hl =>
    cases hl with
    | between => exact ⟨_, .refl, same⟩
    | detachForget => exact ⟨_, .refl, .releasing job mutex t _ _ ledger ht (.between false)⟩
  | gone t phase l pointer ledger ht hl =>
    cases hl with
    | away l pointer n m k hl hn hk =>
      cases hl with
      | between => exact ⟨_, .refl, same⟩
      | detachForget => exact ⟨_, .refl, .gone t phase _ _ _ ht (.away _ _ n m k (.between false) hn hk)⟩
    | resolveSettle result status failed =>
      refine ⟨_, .refl, ?_⟩
      by_cases hr : result = []
      · have hk := JobRefines.gone t phase _ _ _ ht (.away _ _ 0 0 0 (.between false) (by omega) rfl)
        simpa [JobState.step, JobState.targetConnectionOnResolve, JobState.targetConnectionDetachResolver, hr,
          listCount] using hk
      · have hs : status = 0 := by
          by_contra hs
          exact hr (failed hs)
        have hk := JobRefines.gone t phase _ _ _ ht (.away _ _ 1 1 0 (.between false) (by omega) rfl)
        simpa [JobState.step, JobState.targetConnectionOnResolve, JobState.targetConnectionDetachResolver, hr, hs,
          listCount] using hk

/-- The start of a call is no move. -/
theorem call_refines (h : JobRefines j v) (first : LoopPc) (hf : first = .resolveLock ∨ first = .detachLock) :
    JobRefines (j.call first) v := by
  have hl : Away first true true := by
    rcases hf with rfl | rfl
    · exact .resolveLock
    · exact .detachLock
  have same := h
  cases h with
  | starting l job mutex pointer ledger h => cases h <;> exact same
  | resolving job t l pointer held n ht hl' undone waiting =>
    cases hl' with
    | between =>
      cases pointer with
      | false => exact same
      | true => exact .resolving job t first true true n ht hl undone waiting
    | resolveLock => exact same
    | detachLock => exact same
    | detachForget => exact same
  | publishing job now t l pointer held n ht hl' waiting =>
    cases hl' with
    | between =>
      cases pointer with
      | false => exact same
      | true => exact .publishing job now t first true true n ht hl waiting
    | resolveLock => exact same
    | detachLock => exact same
    | detachForget => exact same
  | looking job now t l n ht hl' undone waiting => cases hl' <;> exact same
  | published job t phase l ht hl' done failed =>
    cases hl' with
    | between => exact .published job t phase first ht hl done failed
    | resolveLock => exact same
    | detachLock => exact same
  | taking job now mutex t phase l ledger ht hl' done failed => cases hl' <;> exact same
  | releasing job mutex t l pointer ledger ht hl' => cases hl' <;> exact same
  | gone t phase l pointer ledger ht hl' =>
    cases hl' with
    | away l pointer n m k hl' => cases hl' <;> exact same
    | resolveSettle result status failed => exact same

/-- Every step of either party is some moves of the view. -/
theorem step_refines (h : JobRefines j v) (e : JobEvent) : ∃ v', JobMoves v v' ∧ JobRefines (j.step e) v' := by
  cases e with
  | resolver answer => exact resolver_refines h answer
  | start sid clientFd host port ok => exact start_refines h sid clientFd host port ok
  | resume => exact resume_refines h
  | onResolve => exact ⟨v, .refl, call_refines h .resolveLock (.inl rfl)⟩
  | detach => exact ⟨v, .refl, call_refines h .detachLock (.inr rfl)⟩

end

/-- After every run the job refines a view that moves lead to. -/
theorem run_refines (es : List JobEvent) :
    ∃ v, JobMoves ⟨.absent, .finished, false⟩ v ∧ JobRefines (JobState.run es) v := by
  refine Traces.foldl_invariant (P := fun j => ∃ v, JobMoves ⟨.absent, .finished, false⟩ v ∧ JobRefines j v)
    ⟨_, .refl, .starting _ _ _ _ _ .calloc⟩ ?_ es
  intro j e hj
  obtain ⟨v, hv, h⟩ := hj
  obtain ⟨v', hm, h'⟩ := step_refines h e
  exact ⟨v', hv.trans hm, h'⟩

/-! ## What a run does to the job -/

/-- The thread accesses the job no more. -/
def ResolverPc.PastJob : ResolverPc → Prop
  | .unborn | .notify _ | .returned => True
  | _ => False

/-- The event loop accesses the job no more, now or in a later call. -/
def LoopPc.PastJob (pointer : Bool) : LoopPc → Prop
  | .between => pointer = false
  | .resolveForget _ _ | .resolveSettle _ _ | .detachForget => True
  | _ => False

/-- The life of the job is over: the thread has returned, or was never made, and the session has no job. -/
structure JobState.Over (j : JobState) : Prop where
  resolver : j.resolver = .unborn ∨ j.resolver = .returned
  loop : j.loop = .between
  pointer : j.pointer = false

/-- Nothing undefined was done to the job; the job is freed at most once, when neither party accesses it any more, its mutex
destroyed at most once, and its list moved or freed at most once; and in the end each is done as often as it was to be. -/
structure JobState.Once (j : JobState) : Prop where
  faults : j.faults = []
  allocated : j.ledger.allocated ≤ 1
  freed : j.ledger.freed ≤ j.ledger.allocated
  initialised : j.ledger.initialised ≤ 1
  destroyed : j.ledger.destroyed ≤ j.ledger.initialised
  obtained : j.ledger.obtained ≤ 1
  given : j.ledger.moved + j.ledger.released ≤ j.ledger.obtained
  past : j.ledger.freed = 1 → j.resolver.PastJob ∧ j.loop.PastJob j.pointer
  done : j.Over → j.ledger.freed = j.ledger.allocated ∧ j.ledger.destroyed = j.ledger.initialised ∧
    j.ledger.moved + j.ledger.released = j.ledger.obtained

section

variable {j : JobState} {v : JobView}

/-- A job that stands, with a party still to be done with it, was treated as it should. -/
theorem JobState.Once.of_standing (hf : j.faults = []) {d n k : Nat} (hl : j.ledger = ⟨1, 0, 1, d, n, 0, k⟩) (hd : d ≤ 1)
    (hn : n ≤ 1) (hk : k ≤ n) (ho : ¬ j.Over) : j.Once where
  faults := hf
  allocated := by rw [hl]
  freed := by rw [hl]; exact Nat.zero_le 1
  initialised := by rw [hl]
  destroyed := by rw [hl]; exact hd
  obtained := by rw [hl]; exact hn
  given := by rw [hl]; exact (Nat.zero_add k).le.trans hk
  past := by
    intro h
    rw [hl] at h
    exact Nat.noConfusion h
  done := fun h => absurd h ho

/-- A freed job that neither party accesses any more was treated as it should. -/
theorem JobState.Once.of_freed (hf : j.faults = []) {n m k : Nat} (hl : j.ledger = ⟨1, 1, 1, 1, n, m, k⟩) (hn : n ≤ 1)
    (hk : m + k ≤ n) (hp : j.resolver.PastJob ∧ j.loop.PastJob j.pointer) (ho : j.Over → m + k = n) : j.Once where
  faults := hf
  allocated := by rw [hl]
  freed := by rw [hl]
  initialised := by rw [hl]
  destroyed := by rw [hl]
  obtained := by rw [hl]; exact hn
  given := by rw [hl]; exact hk
  past := fun _ => hp
  done := by
    intro h
    rw [hl]
    exact ⟨rfl, rfl, ho h⟩

/-- A job without a thread was treated as it should: what was made is unmade by the time the event loop leaves. -/
theorem Starting.spec {l : LoopPc} {job : Option ResolverJob} {mutex : JobMutex} {pointer : Bool} {ledger : JobLedger}
    (h : Starting l job mutex pointer ledger) :
    ledger.allocated ≤ 1 ∧ ledger.freed ≤ ledger.allocated ∧ ledger.initialised ≤ 1 ∧ ledger.destroyed ≤ ledger.initialised ∧
    (ledger.obtained = 0 ∧ ledger.moved = 0 ∧ ledger.released = 0) ∧ (ledger.freed = 1 → l.PastJob pointer) ∧
    (l = .between → ledger.freed = ledger.allocated ∧ ledger.destroyed = ledger.initialised) := by
  cases h with
  | failed mutex a i ha hi => exact ⟨ha, Nat.le_refl a, hi, Nat.le_refl i, ⟨rfl, rfl, rfl⟩, fun _ => rfl, fun _ => ⟨rfl, rfl⟩⟩
  | _ => simp

/-- A thread that has not locked the mutex has obtained at most one list, and is not at its end. -/
theorem Resolving.spec {t : ResolverPc} {n : Nat} (h : Resolving t n) : n ≤ 1 ∧ ¬ (t = .unborn ∨ t = .returned) := by
  cases h with
  | getaddrinfo => exact ⟨Nat.zero_le 1, nofun⟩
  | lock answer => exact ⟨listCount_le _, nofun⟩

/-- A thread in its critical section has obtained at most one list, and is not at its end. -/
theorem Publishing.spec {job now : ResolverJob} {t : ResolverPc} {n : Nat} (h : Publishing job t now n) :
    n ≤ 1 ∧ ¬ (t = .unborn ∨ t = .returned) := by
  cases h <;> exact ⟨listCount_le _, nofun⟩

/-- A thread that was told of its client is past the job. -/
theorem Told.past {t : ResolverPc} {phase : ThreadPhase} (h : Told t phase) : t.PastJob := by
  cases h <;> trivial

/-- A job with a view was treated as it should. -/
theorem JobRefines.once (h : JobRefines j v) : j.Once := by
  cases h with
  | starting l job mutex pointer ledger h =>
    obtain ⟨ha, hf, hi, hd, hl, hp, ho⟩ := h.spec
    have hone : ledger.obtained ≤ 1 := by omega
    have hall : ledger.moved + ledger.released = ledger.obtained := by omega
    exact ⟨rfl, ha, hf, hi, hd, hone, hall.le, fun h => ⟨trivial, hp h⟩, fun h => ⟨(ho h.loop).1, (ho h.loop).2, hall⟩⟩
  | resolving job t l pointer held n ht hl undone waiting =>
    exact .of_standing rfl rfl (Nat.zero_le 1) ht.spec.1 (Nat.zero_le n) fun h => ht.spec.2 h.resolver
  | publishing job now t l pointer held n ht hl waiting =>
    exact .of_standing rfl rfl (Nat.zero_le 1) ht.spec.1 (Nat.zero_le n) fun h => ht.spec.2 h.resolver
  | looking job now t l n ht hl undone waiting =>
    exact .of_standing rfl rfl (Nat.zero_le 1) ht.spec.1 (Nat.zero_le n) fun h => ht.spec.2 h.resolver
  | published job t phase l ht hl done failed =>
    exact .of_standing rfl rfl (Nat.zero_le 1) (listCount_le _) (Nat.zero_le _) fun h => Bool.noConfusion h.pointer
  | taking job now mutex t phase l ledger ht hl done failed =>
    have ho : ¬ JobState.Over ⟨now, mutex, true, t, l, ledger, []⟩ := fun h => Bool.noConfusion h.pointer
    have hn := listCount_le job.result
    have h0 := Nat.zero_le (listCount job.result)
    cases hl with
    | resolveForget => exact .of_freed rfl rfl hn h0 ⟨ht.past, trivial⟩ fun h => absurd h ho
    | detachForget => exact .of_freed rfl rfl hn (Nat.zero_add _).le ⟨ht.past, trivial⟩ fun h => absurd h ho
    | resolveFree | detachFree => exact .of_standing rfl rfl (Nat.le_refl 1) hn (by first | exact h0 | exact Nat.le_refl _) ho
    | _ => exact .of_standing rfl rfl (Nat.zero_le 1) hn (by first | exact h0 | exact Nat.le_refl _) ho
  | releasing job mutex t l pointer ledger ht hl =>
    cases ht with
    | freeaddrinfo answer =>
      exact .of_standing rfl rfl (Nat.zero_le 1) (listCount_le _) (Nat.zero_le _) fun h => h.resolver.elim nofun nofun
    | destroy n hn => exact .of_standing rfl rfl (Nat.zero_le 1) hn (Nat.le_refl n) fun h => h.resolver.elim nofun nofun
    | free n hn => exact .of_standing rfl rfl (Nat.le_refl 1) hn (Nat.le_refl n) fun h => h.resolver.elim nofun nofun
  | gone t phase l pointer ledger ht hl =>
    cases hl with
    | away l pointer n m k hl hn hk =>
      have hp : l.PastJob pointer := by cases hl <;> trivial
      exact .of_freed rfl rfl hn hk.le ⟨ht.past, hp⟩ fun _ => hk
    | resolveSettle result status failed =>
      exact .of_freed rfl rfl (listCount_le _) (Nat.zero_le _) ⟨ht.past, trivial⟩ fun h => nomatch h.loop

/-! ## Every run can be brought to its end -/

/-- How many steps the thread has before it at most. -/
def ResolverPc.left : ResolverPc → Nat
  | .unborn | .returned => 0
  | .free => 1
  | .destroy => 2
  | .freeaddrinfo _ | .notify _ => 3
  | .unlock _ _ _ => 4
  | .loadClientFd _ _ => 5
  | .loadSelector _ _ => 6
  | .loadState _ => 7
  | .storeDone _ => 8
  | .storeStatus _ => 9
  | .storeResult _ => 10
  | .lock _ => 11
  | .getaddrinfo => 12

/-- How many steps the event loop has before it at most, when no call of `calloc`, `pthread_mutex_init` or `pthread_create`
succeeds any more and the next call is that of `target_connection_detach_resolver`. -/
def LoopPc.left (pointer : Bool) : LoopPc → Nat
  | .between => if pointer then 12 else 0
  | .detachForget | .resolveSettle _ _ | .freeUninitialised | .freeUnstarted => 1
  | .detachFree | .detachUnlockUndone | .resolveForget _ _ | .destroyUnstarted => 2
  | .detachDestroy | .resolveFree _ _ | .forgetUnstarted => 3
  | .detachUnlockDone | .resolveDestroy _ _ | .create => 4
  | .detachClearResult | .resolveUnlock _ _ | .fill => 5
  | .detachFreeaddrinfo | .resolveClearState _ _ | .mutexInit => 6
  | .detachLoadResult | .resolveClearResult _ _ | .calloc => 7
  | .detachLoadDone | .resolveLoadStatus _ => 8
  | .detachClearState | .resolveLoadResult => 9
  | .detachLock => 10
  | .resolveUnlockUndone => 13
  | .resolveLoadDone => 14
  | .resolveLock => 15

/-- How many steps the two parties have before them at most. -/
def JobState.left (j : JobState) : Nat := j.resolver.left + j.loop.left j.pointer

/-- A thread that holds the mutex, or need not wait for it, has fewer steps before it after the next one. -/
theorem Publishing.left {job now : ResolverJob} {t : ResolverPc} {l : LoopPc} {pointer : Bool} {n : Nat} {ledger : JobLedger}
    (h : Publishing job t now n) :
    (JobState.step ⟨some now, .locked .resolver, pointer, t, l, ledger, []⟩ (.resolver none)).left <
      JobState.left ⟨some now, .locked .resolver, pointer, t, l, ledger, []⟩ := by
  cases h with
  | unlock answer => cases job.state.isSome <;> exact Nat.add_lt_add_right (Nat.lt_add_one _) _
  | _ => exact Nat.add_lt_add_right (Nat.lt_add_one _) _

/-- An event loop that holds the mutex of an unpublished job has fewer steps before it after the next one. -/
theorem Looking.left {job now : ResolverJob} {t : ResolverPc} {l : LoopPc} {ledger : JobLedger} (h : Looking job l now)
    (undone : job.done = false) :
    (JobState.step ⟨some now, .locked .eventLoop, true, t, l, ledger, []⟩ .resume).left <
      JobState.left ⟨some now, .locked .eventLoop, true, t, l, ledger, []⟩ := by
  cases h <;>
    simp [JobState.left, JobState.step, JobState.targetConnectionOnResolve, JobState.targetConnectionDetachResolver,
      JobState.access, JobState.unlock, LoopPc.left, undone]

/-- An event loop that takes a published job has fewer steps before it after the next one. -/
theorem Taking.left {job : ResolverJob} {now : Option ResolverJob} {mutex : JobMutex} {t : ResolverPc} {l : LoopPc}
    {ledger : JobLedger} (h : Taking job l now mutex ledger) (done : job.done = true) :
    (JobState.step ⟨now, mutex, true, t, l, ledger, []⟩ .resume).left <
      JobState.left ⟨now, mutex, true, t, l, ledger, []⟩ := by
  cases h with
  | detachLoadResult =>
    by_cases hr : job.result = [] <;>
      simp [JobState.left, JobState.step, JobState.targetConnectionOnResolve, JobState.targetConnectionDetachResolver,
        JobState.access, LoopPc.left, hr]
  | _ =>
    simp [JobState.left, JobState.step, JobState.targetConnectionOnResolve, JobState.targetConnectionDetachResolver,
      JobState.access, JobState.unlock, JobState.destroy, JobState.free, JobState.freeaddrinfo, LoopPc.left, done]

/-- Unless its life is over, one of the parties of a job with a view has a step to take, and has fewer before it then. -/
theorem JobRefines.progress (h : JobRefines j v) : j.Over ∨ ∃ e, (j.step e).left < j.left := by
  have answer : GaiAnswer := ⟨0, [], fun _ => rfl⟩
  cases h with
  | starting l job mutex pointer ledger h =>
    cases h with
    | failed mutex a i ha hi => exact .inl ⟨.inl rfl, rfl, rfl⟩
    | _ => exact .inr ⟨.start 0 0 .empty 0 false, Nat.le_of_ble_eq_true rfl⟩
  | resolving job t l pointer held n ht hl undone waiting =>
    refine .inr ⟨.resolver (some answer), ?_⟩
    cases ht <;> exact Nat.add_lt_add_right (Nat.lt_add_one _) _
  | publishing job now t l pointer held n ht hl waiting => exact .inr ⟨.resolver none, ht.left⟩
  | looking job now t l n ht hl undone waiting => exact .inr ⟨.resume, hl.left undone⟩
  | published job t phase l ht hl done failed =>
    cases hl with
    | between => exact .inr ⟨.detach, Nat.add_lt_add_left (Nat.le_of_ble_eq_true rfl) _⟩
    | resolveLock => exact .inr ⟨.resume, Nat.add_lt_add_left (Nat.le_of_ble_eq_true rfl) _⟩
    | detachLock => exact .inr ⟨.resume, Nat.add_lt_add_left (Nat.le_of_ble_eq_true rfl) _⟩
  | taking job now mutex t phase l ledger ht hl done failed => exact .inr ⟨.resume, hl.left done⟩
  | releasing job mutex t l pointer ledger ht hl =>
    refine .inr ⟨.resolver none, ?_⟩
    cases ht <;> exact Nat.add_lt_add_right (Nat.lt_add_one _) _
  | gone t phase l pointer ledger ht hl =>
    cases ht with
    | notify clientFd => exact .inr ⟨.resolver none, Nat.add_lt_add_right (Nat.le_of_ble_eq_true rfl) _⟩
    | returned =>
      cases hl with
      | away l pointer n m k hl hn hk =>
        cases hl with
        | between => exact .inl ⟨.inr rfl, rfl, rfl⟩
        | detachForget => exact .inr ⟨.resume, Nat.le_of_ble_eq_true rfl⟩
      | resolveSettle result status failed =>
        refine .inr ⟨.resume, ?_⟩
        by_cases hr : status ≠ 0 ∨ result = [] <;>
          simp [JobState.left, JobState.step, JobState.targetConnectionOnResolve, JobState.targetConnectionDetachResolver,
            ResolverPc.left, LoopPc.left, hr]

/-- A job with a view can be brought to the end of its life. -/
theorem JobRefines.ends (h : JobRefines j v) : ∃ more : List JobEvent, (more.foldl JobState.step j).Over := by
  induction hn : j.left using Nat.strong_induction_on generalizing j v with
  | _ n ih =>
    subst hn
    rcases h.progress with ho | ⟨e, he⟩
    · exact ⟨[], ho⟩
    · obtain ⟨v', _, h'⟩ := step_refines h e
      obtain ⟨more, ho⟩ := ih _ he h' rfl
      exact ⟨e :: more, ho⟩

end

/-! ## The server's steps are moves too -/

/-- What a job shows from outside. -/
def ResolverJob.seen (job : ResolverJob) : JobRecord := if job.done then .answered job.status job.result else .unanswered

/-- The server's view of a job. -/
def Server.jobView (s : Server) (job : Nat) : JobView where
  record := (s.jobs job).elim .absent ResolverJob.seen
  phase := s.threads job
  held := (s.jobs job).any (·.state.isSome)

section

variable {s s' : Server} {job : Nat}

/-- The view of a job that is not there. -/
theorem jobView_absent (h : s.jobs job = none) : s.jobView job = ⟨.absent, s.threads job, false⟩ := by
  unfold Server.jobView
  rw [h]
  rfl

/-- The view of a job whose thread has not published. -/
theorem jobView_unanswered (h : JobsOwned s) {record : ResolverJob} (hr : s.jobs job = some record) (hd : record.done = false) :
    s.jobView job = ⟨.unanswered, .resolving, record.state.isSome⟩ := by
  unfold Server.jobView ResolverJob.seen
  rw [h.undone job record hr hd, hr]
  simp [hd]

/-- The view of a job whose thread has published. -/
theorem jobView_answered {record : ResolverJob} (hr : s.jobs job = some record) (hd : record.done = true) :
    s.jobView job = ⟨.answered record.status record.result, s.threads job, record.state.isSome⟩ := by
  unfold Server.jobView ResolverJob.seen
  rw [hr]
  simp [hd]

/-- The thread of a job that is not there has nothing to do with it any more. -/
theorem JobsOwned.thread_of_absent (h : JobsOwned s) (hn : s.jobs job = none) :
    s.threads job ≠ .resolving ∧ s.threads job ≠ .releasing := by
  constructor
  · intro ht
    obtain ⟨record, hr, _⟩ := h.resolving job ht
    exact absurd (hn.symm.trans hr) nofun
  · intro ht
    obtain ⟨record, hr, _⟩ := h.releasing job ht
    exact absurd (hn.symm.trans hr) nofun

/-- A published job is held by a session exactly when its thread is not there to release it. -/
theorem JobsOwned.held_iff (h : JobsOwned s) {record : ResolverJob} (hr : s.jobs job = some record) (hd : record.done = true) :
    record.state.isSome = true ↔ s.threads job ≠ .releasing := by
  constructor
  · intro hs ht
    obtain ⟨record', hr', hs'⟩ := h.releasing job ht
    obtain rfl := Option.some.inj (hr.symm.trans hr')
    rw [hs'] at hs
    exact Bool.noConfusion hs
  · intro ht
    cases hs : record.state with
    | some sid => rfl
    | none => exact ((h.abandoned job record hr hs).elim (h.done job record hr hd) ht).elim

/-- A job that no session had is not taken up by one. -/
theorem unheld_of_spares (h : JobsOwned s) (h' : JobsOwned s') (hs : ∀ sid, s.Spares sid job → s'.Spares sid job)
    {record record' : ResolverJob} (hr : s.jobs job = some record) (hr' : s'.jobs job = some record')
    (hn : record.state = none) : record'.state = none := by
  cases hw : record'.state with
  | none => rfl
  | some sid =>
    exfalso
    obtain ⟨fd, hfd⟩ := h'.waiting job record' sid hr' hw
    refine hs sid (fun fd' hfd' => ?_) fd hfd
    obtain ⟨record1, hr1, hs1, _⟩ := h.owned sid job fd' hfd'
    obtain rfl := Option.some.inj (hr.symm.trans hr1)
    exact absurd (hn.symm.trans hs1) nofun

/-- A step in which the thread of a job does nothing, but may be started, makes at most the moves of the event loop. -/
theorem quiet_moves (h : JobsOwned s) (h' : JobsOwned s')
    (ht : s'.threads job = s.threads job ∨ s.nextObject ≤ job ∧ s'.threads job = .resolving)
    (hres : s'.resultOf job = none ∨ s'.resultOf job = s.resultOf job)
    (hs : ∀ sid, job < s.nextObject → s.Spares sid job → s'.Spares sid job) :
    JobMoves (s.jobView job) (s'.jobView job) := by
  cases hr : s.jobs job with
  | none =>
    rw [jobView_absent hr]
    rcases ht with ht | ⟨hnew, ht⟩
    · have hnone : s'.jobs job = none := by
        cases hr' : s'.jobs job with
        | none => rfl
        | some record' =>
          exfalso
          cases hd' : record'.done with
          | false => exact (h.thread_of_absent hr).1 (ht.symm.trans (h'.undone job record' hr' hd'))
          | true => simp [Server.resultOf, hr, hr', hd'] at hres
      rw [jobView_absent hnone, ht]
    · obtain ⟨record', hr', hd'⟩ := h'.resolving job ht
      rw [(h.fresh job hnew).1, jobView_unanswered h' hr' hd']
      cases record'.state.isSome with
      | false => exact (Relation.ReflTransGen.single .start).tail .abandon
      | true => exact .single .start
  | some record =>
    have hlt : job < s.nextObject := by
      by_contra hle
      exact absurd (hr.symm.trans (h.fresh job (by omega)).2) (Option.some_ne_none _)
    have ht : s'.threads job = s.threads job := ht.elim id fun hc => absurd hc.1 (by omega)
    cases hd : record.done with
    | false =>
      obtain ⟨record', hr', hd'⟩ := h'.resolving job (ht.trans (h.undone job record hr hd))
      rw [jobView_unanswered h hr hd, jobView_unanswered h' hr' hd']
      cases hw : record.state with
      | none =>
        rw [unheld_of_spares h h' (fun sid => hs sid hlt) hr hr' hw]
      | some sid =>
        cases record'.state.isSome with
        | false => exact .single .abandon
        | true => exact .refl
    | true =>
      rw [jobView_answered hr hd]
      cases hr' : s'.jobs job with
      | none =>
        have hheld : record.state.isSome = true := by
          rw [h.held_iff hr hd, ← ht]
          exact (h'.thread_of_absent hr').2
        rw [jobView_absent hr', ht, hheld]
        exact .single (.take record.status record.result (s.threads job))
      | some record' =>
        have hd' : record'.done = true := by
          by_contra hn
          exact h.done job record hr hd (ht.symm.trans (h'.undone job record' hr' (by simpa using hn)))
        have hheld : record'.state.isSome = record.state.isSome := by
          rw [Bool.eq_iff_iff, h'.held_iff hr' hd', h.held_iff hr hd, ht]
        have hsame : record'.status = record.status ∧ record'.result = record.result := by
          simpa [Server.resultOf, hr, hr', hd, hd'] using hres
        rw [jobView_answered hr' hd', ht, hheld, hsame.1, hsame.2]

/-- The critical section of the thread is a move. -/
theorem publishResult_moves (h : JobsOwned s) (status : Int) (result : List AddrInfo) (hp : s.threads job = .resolving) :
    JobMoves (s.jobView job) ((publishResult s job status result).jobView job) := by
  obtain ⟨record, hr, hd⟩ := h.resolving job hp
  have hjobs : (publishResult s job status result).jobs job = some { record with result, status, done := true } := by
    simp [publishResult, hp, hr]
  have hthread : (publishResult s job status result).threads job =
      if record.state.isSome then ThreadPhase.notifying record.clientFd else .releasing := by
    simp [publishResult, hp, hr]
  rw [jobView_unanswered h hr hd, jobView_answered hjobs rfl, hthread]
  cases record.state.isSome with
  | false => exact .single (.publishAlone status result)
  | true => exact .single (.publish status result record.clientFd)

/-- The notification is a move. -/
theorem notifyClient_moves (fd : Int) (hp : s.threads job = .notifying fd) (allocated : Bool) :
    JobMoves (s.jobView job) ((notifyClient s job allocated).jobView job) := by
  have hjobs : (notifyClient s job allocated).jobs = s.jobs := by
    simp only [notifyClient, hp]
    split <;> try split
    all_goals rfl
  have hthread : (notifyClient s job allocated).threads job = .finished := by
    rw [notifyClient_threads]
    simp [Server.threadAfter, hp]
  unfold Server.jobView
  rw [hjobs, hthread, hp]
  exact .single (.notify _ fd _)

/-- The release is a move. -/
theorem releaseJob_moves (h : JobsOwned s) (hp : s.threads job = .releasing) :
    JobMoves (s.jobView job) ((releaseJob s job).jobView job) := by
  obtain ⟨record, hr, hn⟩ := h.releasing job hp
  have hd : record.done = true := by
    by_contra hd
    exact absurd (hp.symm.trans (h.undone job record hr (by simpa using hd))) nofun
  have hjobs : (releaseJob s job).jobs job = none := by simp [releaseJob, hp, hr]
  have hthread : (releaseJob s job).threads job = .finished := by simp [releaseJob, hp, hr]
  rw [jobView_answered hr hd, jobView_absent hjobs, hthread, hp, hn]
  exact .single (.release record.status record.result)

/-- Every step of the server is some moves of every job. -/
theorem step_moves (h : Inv s) (e : Event) (job : Nat) : JobMoves (s.jobView job) ((step s e).jobView job) := by
  have h' := (step_inv h e).1
  obtain ⟨hn, hs, hr⟩ := step_jobs h e
  have hquiet : s.threadAfter job e = s.threads job → JobMoves (s.jobView job) ((step s e).jobView job) := by
    intro hsame
    refine quiet_moves h.jobs h'.jobs ((step_threads h e job).imp (·.trans hsame) id) ?_ fun sid => hs sid job
    rcases hr job with hnone | heq | ⟨status, result, rfl, hp, hres⟩
    · exact .inl hnone
    · exact .inr heq
    · obtain ⟨record, hrec, _⟩ := h.jobs.resolving job hp
      exfalso
      rw [hp] at hsame
      simp only [Server.threadAfter, hp, hrec, and_self, if_true] at hsame
      split at hsame <;> cases hsame
  cases e with
  | publish job' status result =>
    by_cases he : job' = job ∧ s.threads job = .resolving
    · obtain ⟨rfl, hp⟩ := he
      exact publishResult_moves h.jobs status result hp
    · exact hquiet (if_neg he)
  | notify job' allocated =>
    by_cases he : job' = job
    · subst he
      cases hp : s.threads job' with
      | notifying fd => exact notifyClient_moves fd hp allocated
      | _ => exact hquiet (by simp [Server.threadAfter, hp])
    · exact hquiet (if_neg he)
  | release job' =>
    by_cases he : job' = job ∧ s.threads job = .releasing
    · obtain ⟨rfl, hp⟩ := he
      exact releaseJob_moves h.jobs hp
    · exact hquiet (if_neg he)
  | _ => exact hquiet rfl

/-- The moves of a job along a run of the process. -/
theorem run_moves (c : Config) (es : List Event) (job : Nat) :
    JobMoves ⟨.absent, .finished, false⟩ ((run c.start es).jobView job) := by
  induction es using List.reverseRecOn with
  | nil => exact .refl
  | append_singleton es e ih =>
    rw [run_append]
    exact ih.trans (step_moves (run_inv c es) e job)

end

/-- However the steps of the resolver thread and of the event loop interleave, nothing undefined is done to the job: it is never
accessed once freed, and its mutex is never destroyed while held. The job is freed at most once, when the thread and the session
are past it, its mutex destroyed at most once, and its list moved to the session or freed at most once; once the thread has
returned and the session has no job, each has been done as often as it was to be. Every run can be brought to that point. -/
theorem resolverJob_once (es : List JobEvent) : (JobState.run es).Once ∧ ∃ more, (JobState.run (es ++ more)).Over := by
  obtain ⟨v, _, h⟩ := run_refines es
  obtain ⟨more, ho⟩ := h.ends
  refine ⟨h.once, more, ?_⟩
  unfold JobState.run at ho ⊢
  rw [List.foldl_append]
  exact ho

end SocksProxy
