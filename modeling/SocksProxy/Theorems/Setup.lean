import SocksProxy.Runs
import SocksProxy.ServerRun

/-!
# The start of the server

`server_run` up to its loop. Whatever the kernel answers, either the loop is reached with the two passive sockets open and registered,
and nothing else, or 1 is returned and every descriptor that was opened on the way has been closed, once.
-/

namespace SocksProxy

/-! ## A process that only has descriptors -/

/-- The process on its way to the loop: it has these descriptors open, perhaps a selector, and is otherwise as `main` left it. -/
structure Server.Prepared (users : ManagedUsers) (fds : List Int) (s : Server) : Prop where
  rest : s = { Server.idle users with
    selector := s.selector, serverFd := s.serverFd, managementFd := s.managementFd, files := s.files, nextFile := s.nextFile,
    trace := s.trace, errno := s.errno }
  opened : ∀ fd, (s.files fd).isSome = true ↔ fd ∈ fds
  ledger : Ledger s.files s.nextFile s.trace
  quiet : ∀ o ∈ s.trace, ∀ sid a, o ≠ .act sid a

/-- The number that an attempt at a passive socket yields: its socket's, if no call fails. -/
def PassiveAttempt.served (a : PassiveAttempt) (s : Server) : Option Int :=
  match s.handOut a.socket, a.failure with
  | .ok fd, none => some fd
  | _, _ => none

section Preparing

variable {users : ManagedUsers} {fds : List Int} {s : Server} {fd : Int}

namespace Server.Prepared

/-- A call that fails opens nothing. -/
theorem setErrno (h : s.Prepared users fds) (e : Errno) : (s.setErrno e).Prepared users fds where
  rest := by
    have hr := h.rest
    unfold Server.setErrno
    rw [hr]
  opened := h.opened
  ledger := h.ledger
  quiet := h.quiet

/-- A socket is made. -/
theorem openFd (h : s.Prepared users fds) (hf : s.files fd = none) : (s.openFd fd).Prepared users (fd :: fds) where
  rest := by
    have hr := h.rest
    unfold Server.openFd
    rw [hr]
  opened := fun fd' => by
    show (Function.update s.files fd _ fd').isSome = true ↔ _
    rw [Function.update_apply, List.mem_cons]
    split
    · simp [*]
    · rw [h.opened]
      simp [*]
  ledger := h.ledger.openFd hf .unconnected
  quiet := fun o ho sid a => by
    obtain ho | ho := List.mem_append.mp ho
    · exact h.quiet o ho sid a
    · rw [List.mem_singleton.mp ho]
      exact fun he => by cases he

/-- A socket is closed. -/
theorem close (h : s.Prepared users fds) (hm : fd ∈ fds) (hd : fds.Nodup) : (s.close fd).Prepared users (fds.erase fd) := by
  obtain ⟨f, hf⟩ := Option.isSome_iff_exists.mp ((h.opened fd).mpr hm)
  rw [Server.close_of_open hf]
  have hr := h.rest
  refine ⟨by rw [hr], fun fd' => ?_, h.ledger.close hf, fun o ho sid a => ?_⟩
  · show (Function.update s.files fd none fd').isSome = true ↔ _
    rw [Function.update_apply, hd.mem_erase_iff]
    split
    · simp [*]
    · rw [h.opened]
      simp [*]
  · obtain ho | ho := List.mem_append.mp ho
    · exact h.quiet o ho sid a
    · rw [List.mem_singleton.mp ho]
      exact fun he => by cases he

end Server.Prepared

/-- The process at the head of its loop: what the configuration starts from, with the descriptors that were opened on the way. -/
structure Config.Outfits (c : Config) (s : Server) : Prop where
  rest : s = { c.start with files := s.files, nextFile := s.nextFile, trace := s.trace, errno := s.errno }
  opened : ∀ fd, (s.files fd).isSome = true ↔ fd = c.managementFd ∨ fd = c.serverFd
  ledger : Ledger s.files s.nextFile s.trace
  quiet : ∀ o ∈ s.trace, ∀ sid a, o ≠ .act sid a

/-- What is no act counts for nothing. -/
theorem countObs_quiet {trace : List Obs} (hq : ∀ o ∈ trace, ∀ sid a, o ≠ .act sid a) (c : Accounts) :
    trace.foldl Accounts.countObs c = c := by
  induction trace with
  | nil => rfl
  | cons o trace ih =>
    rw [List.foldl_cons]
    cases o with
    | opened file fd => exact ih fun o' ho' => hq o' (List.mem_cons_of_mem _ ho')
    | closed file => exact ih fun o' ho' => hq o' (List.mem_cons_of_mem _ ho')
    | act sid a => exact absurd rfl (hq _ List.mem_cons_self sid a)

/-- The invariant holds at the head of the loop. -/
theorem Config.Outfits.inv {c : Config} (h : c.Outfits s) : Inv s := by
  have h0 := c.inv_start
  have hopened : ∀ fd, (s.files fd).isSome = (c.start.selector.slot fd).isSome := by
    intro fd
    rw [Bool.eq_iff_iff, h.opened, c.slot_start]
    by_cases hm : fd = c.managementFd
    · simp [hm]
    · by_cases hs : fd = c.serverFd
      · rw [if_neg hm, if_pos hs]
        simp [hs]
      · simp [hm, hs]
  have hlife : ∀ sid, ({ c.start with files := s.files, nextFile := s.nextFile, trace := s.trace, errno := s.errno } :
      Server).life sid = .unborn := c.life_start
  rw [h.rest]
  exact {
    own := { h0.own with opened := hopened, ledger := h.ledger }
    jobs := { h0.jobs with }
    notices := fun hne => { h0.notices hne with }
    ready := fun sid => by
      rw [hlife]
      trivial
    listening := { h0.listening with }
    accounts := (countObs_quiet h.quiet .zeroed).symm
    errno := .inl fun _ => rfl }

/-- The process is in its loop then. -/
theorem Config.Outfits.running {c : Config} (h : c.Outfits s) : s.phase = .running := by
  rw [h.rest]
  rfl

/-- A configuration starts from what outfits it. -/
theorem Config.outfits_start (c : Config) : c.Outfits c.start where
  rest := rfl
  opened := fun fd => by
    rw [c.own_start.opened, c.slot_start]
    by_cases hm : fd = c.managementFd
    · simp [hm]
    · by_cases hs : fd = c.serverFd
      · rw [if_neg hm, if_pos hs]
        simp [hs]
      · simp [hm, hs]
  ledger := c.own_start.ledger
  quiet := fun o ho sid a => by
    have ho' : o ∈ [Obs.opened 0 c.serverFd, .opened 1 c.managementFd] := ho
    rintro rfl
    simp at ho'

end Preparing

end SocksProxy
