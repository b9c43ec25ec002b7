import SocksProxy.EventLoop
import SocksProxy.Lemmas.Consistent

/-!
# Who owns what

The invariant behind the memory safety of the server. Every registered slot belongs to exactly one object that is still
allocated: a client slot and a target slot to the session whose descriptor fields name them, a management slot to its
connection, the two listeners to the main loop. Every open descriptor is registered. Every resolver job belongs to the session
that waits for it, or to the thread that will free it. The invariant holds between the steps of a run and also between the
steps of `selector_destroy`; inside a handler it is broken and restored.
-/

namespace SocksProxy

namespace Obs

/-- The acts of a session in a trace, in order. -/
def acts (sid : Nat) (trace : List Obs) : List Act :=
  trace.filterMap fun o => match o with
    | .act sid' a => if sid' = sid then some a else none
    | _ => none

/-- How often an open file description was made. -/
def openings (file : Nat) (trace : List Obs) : Nat :=
  trace.countP fun o => match o with
    | .opened file' _ => file' == file
    | _ => false

/-- How often an open file description was closed. -/
def closings (file : Nat) (trace : List Obs) : Nat :=
  trace.countP fun o => match o with
    | .closed file' => file' == file
    | _ => false

end Obs

/-- The acts of a session so far. -/
def Server.acts (s : Server) (sid : Nat) : List Act := Obs.acts sid s.trace

/-- The open file descriptions are accounted for: each was made once, and was closed once unless it is open now, under the one
descriptor it was made for. -/
structure Ledger (files : Int → Option OpenFile) (nextFile : Nat) (trace : List Obs) : Prop where
  opened : ∀ file, Obs.openings file trace = if file < nextFile then 1 else 0
  closedOpen : ∀ fd f, files fd = some f → Obs.closings f.serial trace = 0
  closedGone : ∀ file, file < nextFile → (∀ fd f, files fd = some f → f.serial ≠ file) → Obs.closings file trace = 1
  unborn : ∀ file, nextFile ≤ file → Obs.closings file trace = 0
  below : ∀ fd f, files fd = some f → f.serial < nextFile
  distinct : ∀ fd fd' f f', files fd = some f → files fd' = some f' → f.serial = f'.serial → fd = fd'
  under : ∀ fd f, files fd = some f → .opened f.serial fd ∈ trace

/-- The object a registered slot stands for is allocated and names the slot's descriptor. -/
def Server.SlotOwned (s : Server) (fd : Int) (item : Item FdHandler Nat) : Prop :=
  match item.handler, item.data with
  | some .clientHandler, some sid => ∃ state, s.sessions sid = some state ∧ state.clientFd = fd
  | some .targetHandler, some sid => ∃ state, s.sessions sid = some state ∧ state.targetFd = fd
  | some .managementClientHandler, some mid => ∃ state, s.managements mid = some state
  | some .acceptHandler, _ => fd = s.serverFd
  | some .managementAcceptHandler, _ => fd = s.managementFd
  | _, _ => False

/-- A registered slot of this handler and this object. -/
def Server.Registered (s : Server) (fd : Int) (handler : FdHandler) (data : Option Nat) : Prop :=
  ∃ item, s.selector.slot fd = some item ∧ item.handler = some handler ∧ item.data = data

/-- A slot that belongs to a session. -/
def Item.Of (sid : Nat) (item : Item FdHandler Nat) : Prop :=
  (item.handler = some .clientHandler ∨ item.handler = some .targetHandler) ∧ item.data = some sid

/-- Whose a slot is, whatever its descriptor: the two slots of a session have one owner. -/
def Item.owner (item : Item FdHandler Nat) : Option FdHandler × Option Nat :=
  (if item.handler = some .targetHandler then some .clientHandler else item.handler, item.data)

/-- An open file description is in the hands of this owner: it is open under the descriptor of one of the owner's slots. -/
def Server.Holds (s : Server) (file : Nat) (owner : Option FdHandler × Option Nat) : Prop :=
  ∃ fd f item, s.files fd = some f ∧ f.serial = file ∧ s.selector.slot fd = some item ∧ item.owner = owner

/-- From one server to another, no file that was there came into new hands, and what had been observed stays so. -/
structure Custody (s s' : Server) : Prop where
  nextFile : s.nextFile ≤ s'.nextFile
  holds : ∀ file owner, file < s.nextFile → s'.Holds file owner → s.Holds file owner
  trace : s.trace <+: s'.trace

/-- The ownership of slots, descriptors and sessions. -/
structure Own (s : Server) : Prop where
  selector : s.selector.Consistent
  size : s.selector.fdSize = 1025
  indexed : ∀ fd item, s.selector.slot fd = some item → item.fd = fd
  owned : ∀ fd item, s.selector.slot fd = some item → s.SlotOwned fd item
  client : ∀ sid state, s.sessions sid = some state → s.Registered state.clientFd .clientHandler (some sid)
  target : ∀ sid state, s.sessions sid = some state → state.targetFd ≠ -1 →
    s.Registered state.targetFd .targetHandler (some sid)
  management : ∀ mid fd fd', s.Registered fd .managementClientHandler (some mid) →
    s.Registered fd' .managementClientHandler (some mid) → fd = fd'
  opened : ∀ fd, (s.files fd).isSome = (s.selector.slot fd).isSome
  ledger : Ledger s.files s.nextFile s.trace
  fresh : ∀ o, s.nextObject ≤ o → s.sessions o = none ∧ s.managements o = none
  faults : ∀ f ∈ s.faults, f = .selectorDestroyed

/-- The resolver job a session waits for, with the descriptor of its client. -/
def Server.waits (s : Server) (sid : Nat) : Option (Nat × Int) :=
  (s.sessions sid).bind fun state => state.resolverJob.map (·, state.clientFd)

/-- A session waits for a job whose result is there. -/
structure Server.Awaits (s : Server) (sid job : Nat) (fd : Int) (record : ResolverJob) : Prop where
  waits : s.waits sid = some (job, fd)
  job : s.jobs job = some record
  done : record.done = true

/-- The ownership of resolver jobs. A session's job is allocated and points back to it; a job that points to a session is that
session's; a job without a session is left to its thread, which has not freed it yet. -/
structure JobsOwned (s : Server) : Prop where
  owned : ∀ sid job fd, s.waits sid = some (job, fd) →
    ∃ record, s.jobs job = some record ∧ record.state = some sid ∧ record.clientFd = fd
  waiting : ∀ job record sid, s.jobs job = some record → record.state = some sid → ∃ fd, s.waits sid = some (job, fd)
  undone : ∀ job record, s.jobs job = some record → record.done = false → s.threads job = .resolving
  done : ∀ job record, s.jobs job = some record → record.done = true → s.threads job ≠ .resolving
  abandoned : ∀ job record, s.jobs job = some record → record.state = none →
    s.threads job = .resolving ∨ s.threads job = .releasing
  resolving : ∀ job, s.threads job = .resolving → ∃ record, s.jobs job = some record ∧ record.done = false
  releasing : ∀ job, s.threads job = .releasing → ∃ record, s.jobs job = some record ∧ record.state = none
  fresh : ∀ job, s.nextObject ≤ job → s.threads job = .finished ∧ s.jobs job = none

/-- The notifications on their way: each descriptor of the queue `q`, and each one a thread is about to push, is that of the
client of a session that waits for a job whose result is there. -/
structure Notices (q : List Int) (s : Server) : Prop where
  queued : ∀ fd ∈ q, ∃ sid job record, s.waits sid = some (job, fd) ∧ s.jobs job = some record ∧ record.done = true ∧
    s.threads job = .finished
  nodup : q.Nodup
  notifying : ∀ job fd, s.threads job = .notifying fd →
    ∃ sid record, s.waits sid = some (job, fd) ∧ s.jobs job = some record ∧ record.done = true

/-- The notification is on its way that a session waits for with this job and this descriptor: the job's thread has not
published its result yet, is about to push the notification, or has pushed it to the queue `q`. -/
def Server.Coming (s : Server) (q : List Int) (job : Nat) (fd : Int) : Prop :=
  s.threads job = .resolving ∨ s.threads job = .notifying fd ∨ fd ∈ q

/-- Every session that waits has its notification on its way, as long as the selector is there. -/
def Attended (q : List Int) (s : Server) : Prop :=
  s.phase ≠ .destroyed → ∀ sid job fd, s.waits sid = some (job, fd) → s.Coming q job fd

/-- From one server to another, the notifications of `q` became those of `q'`. -/
structure Notified (q q' : List Int) (s s' : Server) : Prop where
  notices : Notices q s → Notices q' s'
  attended : Attended q s → Attended q' s'

/-- A slot that belongs to a listener. -/
def Item.Listens (item : Item FdHandler Nat) : Prop :=
  item.handler = some .acceptHandler ∨ item.handler = some .managementAcceptHandler

/-- The two listeners are registered until the server stops accepting, and are only ever read from. -/
structure Listening (s : Server) : Prop where
  registered : s.stoppedAccepting = false → s.phase ≠ .destroyed → s.Registered s.serverFd .acceptHandler none ∧
    s.Registered s.managementFd .managementAcceptHandler none
  stopped : s.stoppedAccepting = true → ∀ fd item, s.selector.slot fd = some item → ¬item.Listens
  interest : ∀ fd item, s.selector.slot fd = some item → item.Listens → item.interest = opRead

end SocksProxy
