import SocksProxy.TargetConnection

/-!
# A resolver job, instruction by instruction

The life of one `struct resolver_job`, from `calloc` to `free`, as its two parties run it: the event loop, in
`start_target_resolution`, `target_connection_on_resolve` and `target_connection_detach_resolver`, and the thread that runs
`resolve_target`. A step is one access to the job or one call, and the steps of the two parties interleave in any order; a
party that locks a mutex the other holds waits. The event loop calls `target_connection_on_resolve` and
`target_connection_detach_resolver` at any moment, one call at a time.

Two jobs share nothing, and nothing else in the program touches a job. The fields that `start_target_resolution` fills before
it creates the thread are filled in one step: until then no other thread has the pointer.
-/

namespace SocksProxy

/-- The two threads that use a job. -/
inductive Party where
  | eventLoop | resolver
  deriving DecidableEq, Repr

/-- `job->mutex`. -/
inductive JobMutex where
  | uninitialised
  | unlocked
  | locked (holder : Party)
  | destroyed
  deriving DecidableEq, Repr

/-- What must never happen to a job: an access to it once it is freed, a call on its mutex that POSIX leaves undefined, or a
`free` of a job whose mutex still stands. -/
inductive JobFault where
  | useAfterFree | badLock | badUnlock | badDestroy | badFree
  deriving DecidableEq, Repr

/-- What was done to the job, its mutex and the list that `getaddrinfo` allocates, as counts. -/
structure JobLedger where
  allocated : Nat
  freed : Nat
  initialised : Nat
  destroyed : Nat
  obtained : Nat
  moved : Nat
  released : Nat
  deriving DecidableEq, Repr

/-- What `getaddrinfo` answers: when it fails it leaves `result` as it was, NULL. -/
structure GaiAnswer where
  status : Int
  result : List AddrInfo
  failed : status ≠ 0 → result = []

/-- Where the thread stands in `resolve_target`, with the locals it still needs. -/
inductive ResolverPc where
  | unborn
  | getaddrinfo
  | lock (answer : GaiAnswer)
  | storeResult (answer : GaiAnswer)
  | storeStatus (answer : GaiAnswer)
  | storeDone (answer : GaiAnswer)
  | loadState (answer : GaiAnswer)
  | loadSelector (answer : GaiAnswer) (hasWaitingClient : Bool)
  | loadClientFd (answer : GaiAnswer) (hasWaitingClient : Bool)
  | unlock (answer : GaiAnswer) (hasWaitingClient : Bool) (clientFd : Int)
  | notify (clientFd : Int)
  | freeaddrinfo (answer : GaiAnswer)
  | destroy
  | free
  | returned

/-- Where the event loop stands: in `start_target_resolution`, between two calls, in `target_connection_on_resolve` or in
`target_connection_detach_resolver`, with the locals it still needs. -/
inductive LoopPc where
  | calloc
  | mutexInit
  | freeUninitialised
  | fill
  | create
  | forgetUnstarted
  | destroyUnstarted
  | freeUnstarted
  | between
  | resolveLock
  | resolveLoadDone
  | resolveUnlockUndone
  | resolveLoadResult
  | resolveLoadStatus (result : List AddrInfo)
  | resolveClearResult (result : List AddrInfo) (status : Int)
  | resolveClearState (result : List AddrInfo) (status : Int)
  | resolveUnlock (result : List AddrInfo) (status : Int)
  | resolveDestroy (result : List AddrInfo) (status : Int)
  | resolveFree (result : List AddrInfo) (status : Int)
  | resolveForget (result : List AddrInfo) (status : Int)
  | resolveSettle (result : List AddrInfo) (status : Int)
  | detachLock
  | detachClearState
  | detachLoadDone
  | detachLoadResult
  | detachFreeaddrinfo
  | detachClearResult
  | detachUnlockDone
  | detachDestroy
  | detachFree
  | detachUnlockUndone
  | detachForget

/-- A job and its two parties. `pointer` says whether `state->resolver_job` is not NULL. -/
structure JobState where
  job : Option ResolverJob
  mutex : JobMutex
  pointer : Bool
  resolver : ResolverPc
  loop : LoopPc
  ledger : JobLedger
  faults : List JobFault

/-- How many lists a pointer to one names: none when it is NULL. -/
def listCount (result : List AddrInfo) : Nat := if result = [] then 0 else 1

namespace JobState

/-- Before `start_target_resolution`. -/
def initial : JobState where
  job := none
  mutex := .uninitialised
  pointer := false
  resolver := .unborn
  loop := .calloc
  ledger := ⟨0, 0, 0, 0, 0, 0, 0⟩
  faults := []

/-- Record a fault: the party that meets it goes no further. -/
def fault (j : JobState) (f : JobFault) : JobState := { j with faults := f :: j.faults }

/-- Read or write the job through its pointer and go on. -/
def access (j : JobState) (next : ResolverJob → JobState) : JobState :=
  match j.job with
  | none => j.fault .useAfterFree
  | some job => next job

/-- `pthread_mutex_lock(&job->mutex)`. -/
def lock (j : JobState) (party : Party) (next : JobState → JobState) : JobState :=
  j.access fun _ =>
    match j.mutex with
    | .unlocked => next { j with mutex := .locked party }
    | .locked holder => if holder = party then j.fault .badLock else j
    | .uninitialised | .destroyed => j.fault .badLock

/-- `pthread_mutex_unlock(&job->mutex)`. -/
def unlock (j : JobState) (party : Party) (next : JobState → JobState) : JobState :=
  j.access fun _ => if j.mutex = .locked party then next { j with mutex := .unlocked } else j.fault .badUnlock

/-- `pthread_mutex_destroy(&job->mutex)`. -/
def destroy (j : JobState) (next : JobState → JobState) : JobState :=
  j.access fun _ =>
    if j.mutex = .unlocked then
      next { j with mutex := .destroyed, ledger := { j.ledger with destroyed := j.ledger.destroyed + 1 } }
    else j.fault .badDestroy

/-- `free(job)`. -/
def free (j : JobState) (next : JobState → JobState) : JobState :=
  j.access fun _ =>
    if j.mutex = .uninitialised ∨ j.mutex = .destroyed then
      next { j with job := none, ledger := { j.ledger with freed := j.ledger.freed + 1 } }
    else j.fault .badFree

/-- `if (result != NULL) freeaddrinfo(result)`. -/
def freeaddrinfo (j : JobState) (result : List AddrInfo) : JobState :=
  { j with ledger := { j.ledger with released := j.ledger.released + listCount result } }

/-- The next step of `resolve_target`. An absent answer says that `getaddrinfo` is still at work, on the host and the port of
the job. -/
def resolveTarget (j : JobState) (answer : Option GaiAnswer) : JobState :=
  match j.resolver with
  | .unborn => j
  | .getaddrinfo =>
    j.access fun _ =>
      match answer with
      | none => j
      | some answer =>
        { j with
          resolver := .lock answer
          ledger := { j.ledger with obtained := j.ledger.obtained + listCount answer.result } }
  | .lock answer => j.lock .resolver fun j => { j with resolver := .storeResult answer }
  | .storeResult answer =>
    j.access fun job => { j with job := some { job with result := answer.result }, resolver := .storeStatus answer }
  | .storeStatus answer =>
    j.access fun job => { j with job := some { job with status := answer.status }, resolver := .storeDone answer }
  | .storeDone answer => j.access fun job => { j with job := some { job with done := true }, resolver := .loadState answer }
  | .loadState answer => j.access fun job => { j with resolver := .loadSelector answer job.state.isSome }
  | .loadSelector answer waiting => j.access fun _ => { j with resolver := .loadClientFd answer waiting }
  | .loadClientFd answer waiting => j.access fun job => { j with resolver := .unlock answer waiting job.clientFd }
  | .unlock answer waiting clientFd =>
    j.unlock .resolver fun j => { j with resolver := if waiting then .notify clientFd else .freeaddrinfo answer }
  | .notify _ => { j with resolver := .returned }
  | .freeaddrinfo answer => { j.freeaddrinfo answer.result with resolver := .destroy }
  | .destroy => j.destroy fun j => { j with resolver := .free }
  | .free => j.free fun j => { j with resolver := .returned }
  | .returned => j

/-- The next step of `start_target_resolution`, for the session `sid` whose client has the descriptor `clientFd`; `ok` is what
`calloc`, `pthread_mutex_init` or `pthread_create` answers. -/
def startTargetResolution (j : JobState) (sid : Nat) (clientFd : Int) (host : CString) (port : UInt16) (ok : Bool) :
    JobState :=
  match j.loop with
  | .calloc =>
    if ok then
      { j with
        job := some { clientFd := 0, state := none, host := .empty, port := [], result := [], status := 0, done := false }
        ledger := { j.ledger with allocated := j.ledger.allocated + 1 }
        loop := .mutexInit }
    else { j with loop := .between }
  | .mutexInit =>
    j.access fun _ =>
      if ok then
        { j with
          mutex := .unlocked
          ledger := { j.ledger with initialised := j.ledger.initialised + 1 }
          loop := .fill }
      else { j with loop := .freeUninitialised }
  | .freeUninitialised => j.free fun j => { j with loop := .between }
  | .fill =>
    j.access fun job =>
      { j with
        job := some { job with
          clientFd := clientFd
          state := some sid
          host := host.snprintf (socks5MaxDomainLength + 1)
          port := decimal port.toNat
          status := eaiAgain }
        pointer := true
        loop := .create }
  | .create => if ok then { j with resolver := .getaddrinfo, loop := .between } else { j with loop := .forgetUnstarted }
  | .forgetUnstarted => { j with pointer := false, loop := .destroyUnstarted }
  | .destroyUnstarted => j.destroy fun j => { j with loop := .freeUnstarted }
  | .freeUnstarted => j.free fun j => { j with loop := .between }
  | _ => j

/-- The next step of `target_connection_on_resolve`. The session takes the list at the end, unless the resolution failed. -/
def targetConnectionOnResolve (j : JobState) : JobState :=
  match j.loop with
  | .resolveLock => j.lock .eventLoop fun j => { j with loop := .resolveLoadDone }
  | .resolveLoadDone =>
    j.access fun job => { j with loop := if !job.done then .resolveUnlockUndone else .resolveLoadResult }
  | .resolveUnlockUndone => j.unlock .eventLoop fun j => { j with loop := .between }
  | .resolveLoadResult => j.access fun job => { j with loop := .resolveLoadStatus job.result }
  | .resolveLoadStatus result => j.access fun job => { j with loop := .resolveClearResult result job.status }
  | .resolveClearResult result status =>
    j.access fun job => { j with job := some { job with result := [] }, loop := .resolveClearState result status }
  | .resolveClearState result status =>
    j.access fun job => { j with job := some { job with state := none }, loop := .resolveUnlock result status }
  | .resolveUnlock result status => j.unlock .eventLoop fun j => { j with loop := .resolveDestroy result status }
  | .resolveDestroy result status => j.destroy fun j => { j with loop := .resolveFree result status }
  | .resolveFree result status => j.free fun j => { j with loop := .resolveForget result status }
  | .resolveForget result status => { j with pointer := false, loop := .resolveSettle result status }
  | .resolveSettle result status =>
    if status ≠ 0 ∨ result = [] then { j with loop := .between }
    else { j with loop := .between, ledger := { j.ledger with moved := j.ledger.moved + 1 } }
  | _ => j

/-- The next step of `target_connection_detach_resolver`. -/
def targetConnectionDetachResolver (j : JobState) : JobState :=
  match j.loop with
  | .detachLock => j.lock .eventLoop fun j => { j with loop := .detachClearState }
  | .detachClearState => j.access fun job => { j with job := some { job with state := none }, loop := .detachLoadDone }
  | .detachLoadDone => j.access fun job => { j with loop := if job.done then .detachLoadResult else .detachUnlockUndone }
  | .detachLoadResult =>
    j.access fun job => { j with loop := if job.result ≠ [] then .detachFreeaddrinfo else .detachUnlockDone }
  | .detachFreeaddrinfo => j.access fun job => { j.freeaddrinfo job.result with loop := .detachClearResult }
  | .detachClearResult => j.access fun job => { j with job := some { job with result := [] }, loop := .detachUnlockDone }
  | .detachUnlockDone => j.unlock .eventLoop fun j => { j with loop := .detachDestroy }
  | .detachDestroy => j.destroy fun j => { j with loop := .detachFree }
  | .detachFree => j.free fun j => { j with loop := .detachForget }
  | .detachUnlockUndone => j.unlock .eventLoop fun j => { j with loop := .detachForget }
  | .detachForget => { j with pointer := false, loop := .between }
  | _ => j

end JobState

/-- One step of one party. The first three are the next step of the call that the event loop is in; the event loop starts a
call with one of the last two, and leaves it at once when the session has no job. -/
inductive JobEvent where
  | resolver (answer : Option GaiAnswer)
  | start (sid : Nat) (clientFd : Int) (host : CString) (port : UInt16) (ok : Bool)
  | resume
  | onResolve
  | detach

/-- The event loop calls a function that uses the job: it goes to the function's first access. -/
def JobState.call (j : JobState) (first : LoopPc) : JobState :=
  match j.loop with
  | .between => if j.pointer then { j with loop := first } else j
  | _ => j

/-- One step. -/
def JobState.step (j : JobState) : JobEvent → JobState
  | .resolver answer => j.resolveTarget answer
  | .start sid clientFd host port ok => j.startTargetResolution sid clientFd host port ok
  | .resume => j.targetConnectionOnResolve.targetConnectionDetachResolver
  | .onResolve => j.call .resolveLock
  | .detach => j.call .detachLock

/-- A run: the steps one after another, in the order the scheduler chose. -/
def JobState.run (es : List JobEvent) : JobState := es.foldl JobState.step JobState.initial

end SocksProxy
