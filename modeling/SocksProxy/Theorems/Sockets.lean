import SocksProxy.Theorems.Attempts
import SocksProxy.Theorems.Lifetimes

/-!
# The sockets of the attempts

Every attempt to connect makes a socket, or fails to. The socket of an attempt that failed is closed, once, before anything else is
attempted, whether the attempt failed at once or its connection did so later. So a session never has two attempts under way.
-/

namespace SocksProxy

/-- This file was made for an attempt of a session: it was opened right after the attempt was begun. -/
def Obs.Created (sid file : Nat) (trace : List Obs) : Prop :=
  ∃ pre addr fd post, trace = pre ++ .act sid (.attempted addr) :: .opened file fd :: post

/-- A trace that ends with an attempt of a session. -/
def Obs.Asks (sid : Nat) (trace : List Obs) : Prop := ∃ pre addr, trace = pre ++ [.act sid (.attempted addr)]

/-- A file is open as the target of a session. -/
def Server.Target (s : Server) (sid file : Nat) : Prop :=
  ∃ state f, s.sessions sid = some state ∧ s.files state.targetFd = some f ∧ f.serial = file

/-- The attempts a session makes in one go, from the number the next file has: what is observed, and the file that is left open, if
there is one. Each but the last fails: there is no socket for it, or the socket is closed again. -/
inductive Trials (sid : Nat) : Nat → List Obs → Option Nat → Prop where
  | none (n : Nat) : Trials sid n [] none
  | unopened {n : Nat} {addr : SockAddr} {obs : List Obs} {left : Option Nat} : Trials sid n obs left →
    Trials sid n (.act sid (.attempted addr) :: obs) left
  | closed {n : Nat} {addr : SockAddr} {fd : Int} {obs : List Obs} {left : Option Nat} : Trials sid (n + 1) obs left →
    Trials sid n (.act sid (.attempted addr) :: .opened n fd :: .closed n :: obs) left
  | started {n : Nat} {addr : SockAddr} {fd : Int} :
    Trials sid n [.act sid (.attempted addr), .opened n fd] (some n)

/-! ## Files made for attempts -/

namespace Obs

variable {sid file : Nat} {trace trace' : List Obs}

/-- No file was made in an empty trace. -/
theorem not_created_nil : ¬Created sid file [] := by
  intro ⟨pre, _, _, _, h⟩
  cases pre <;> cases h

/-- A file was made in the first part of a trace, or in the second, or where they meet. -/
theorem created_append (h : Created sid file (trace ++ trace')) :
    Created sid file trace ∨ Created sid file trace' ∨ Asks sid trace ∧ ∃ fd rest, trace' = .opened file fd :: rest := by
  obtain ⟨pre, addr, fd, post, h⟩ := h
  obtain ⟨m, rfl, hm⟩ | ⟨m, rfl, hm⟩ := List.append_eq_append_iff.mp h
  · exact .inr (.inl ⟨m, addr, fd, post, hm⟩)
  · cases m with
    | nil => exact .inr (.inl ⟨[], addr, fd, post, hm.symm⟩)
    | cons o m =>
      simp only [List.cons_append, List.cons.injEq] at hm
      obtain ⟨rfl, hm⟩ := hm
      cases m with
      | nil => exact .inr (.inr ⟨⟨pre, addr, rfl⟩, fd, post, hm.symm⟩)
      | cons o m =>
        simp only [List.cons_append, List.cons.injEq] at hm
        obtain ⟨rfl, rfl⟩ := hm
        exact .inl ⟨pre, addr, fd, m, rfl⟩

/-- An attempt of a session is among its acts. -/
theorem mem_acts {a : Act} : .act sid a ∈ trace ↔ a ∈ acts sid trace := by
  simp only [acts, List.mem_filterMap]
  constructor
  · intro h
    exact ⟨_, h, if_pos rfl⟩
  · rintro ⟨o, ho, he⟩
    split at he
    · split at he
      · cases he
        subst_vars
        exact ho
      · cases he
    · cases he

/-- The attempt a file was made for is among the acts of the session. -/
theorem Created.attempted (h : Created sid file trace) : ∃ addr, .attempted addr ∈ acts sid trace := by
  obtain ⟨pre, addr, fd, post, rfl⟩ := h
  exact ⟨addr, mem_acts.mp (List.mem_append_right _ (List.mem_cons_self ..))⟩

/-- A file was opened when it was made. -/
theorem Created.opened (h : Created sid file trace) : 0 < openings file trace := by
  obtain ⟨pre, addr, fd, post, rfl⟩ := h
  refine List.countP_pos_iff.mpr ⟨.opened file fd, ?_, by simp⟩
  exact List.mem_append_right _ (List.mem_cons_of_mem _ (List.mem_cons_self ..))

end Obs

namespace Trials

variable {sid n file : Nat} {obs : List Obs} {left : Option Nat}

/-- What is observed first is an attempt. -/
theorem head (h : Trials sid n obs left) : obs = [] ∨ ∃ addr rest, obs = .act sid (.attempted addr) :: rest := by
  cases h with
  | none => exact .inl rfl
  | unopened => exact .inr ⟨_, _, rfl⟩
  | closed => exact .inr ⟨_, _, rfl⟩
  | started => exact .inr ⟨_, _, rfl⟩

/-- A file made in one attempt without a socket and what follows it was made in what follows it. -/
theorem created_unopened {addr : SockAddr} {rest : List Obs} (h : Trials sid n obs left) (hr : rest <+: obs)
    (hc : Obs.Created sid file (.act sid (.attempted addr) :: rest)) : Obs.Created sid file rest := by
  obtain hc | hc | ⟨_, fd, tail, rfl⟩ := Obs.created_append (by exact hc : Obs.Created sid file ([.act sid (.attempted addr)] ++ rest))
  · obtain ⟨pre, _, _, _, he⟩ := hc
    have := congrArg List.length he
    simp only [List.length_cons, List.length_append, List.length_nil] at this
    omega
  · exact hc
  · -- what follows does not begin with an opening
    obtain ⟨t, ht⟩ := hr
    obtain he | ⟨_, _, he⟩ := h.head <;> rw [he] at ht <;> cases ht

/-- A file made in one attempt whose socket is closed, and what follows it, is that socket or was made in what follows it. -/
theorem created_closed {addr : SockAddr} {fd : Int} {rest : List Obs}
    (hc : Obs.Created sid file (.act sid (.attempted addr) :: .opened n fd :: .closed n :: rest)) :
    file = n ∨ Obs.Created sid file rest := by
  obtain ⟨pre, _, _, post, he⟩ := hc
  rcases pre with _ | ⟨_, _ | ⟨_, _ | ⟨_, pre⟩⟩⟩ <;> simp only [List.nil_append, List.cons_append, List.cons.injEq] at he
  · obtain ⟨_, ho, _⟩ := he
    cases ho
    exact .inl rfl
  · cases he.2.1
  · cases he.2.2.1
  · exact .inr ⟨pre, _, _, post, he.2.2.2⟩

/-- The files made are closed again, but for the one that is left. -/
theorem created (h : Trials sid n obs left) (hc : Obs.Created sid file obs) : .closed file ∈ obs ∨ left = some file := by
  induction h with
  | none => exact absurd hc Obs.not_created_nil
  | unopened h ih => exact (ih (created_unopened h List.prefix_rfl hc)).imp_left (List.mem_cons_of_mem _)
  | closed _ ih =>
    rcases created_closed hc with rfl | hc
    · exact .inl (by simp)
    · exact (ih hc).imp_left fun hm => List.mem_cons_of_mem _ (List.mem_cons_of_mem _ (List.mem_cons_of_mem _ hm))
  | started =>
    obtain ⟨pre, _, _, post, he⟩ := hc
    rcases pre with _ | ⟨_, _ | ⟨_, _ | ⟨_, pre⟩⟩⟩ <;> cases he
    exact .inr rfl

/-- When an attempt is begun, the files of the attempts before it are closed. -/
theorem ordered (h : Trials sid n obs left) {pre post : List Obs} {addr : SockAddr}
    (ho : obs = pre ++ .act sid (.attempted addr) :: post) (hc : Obs.Created sid file pre) : .closed file ∈ pre := by
  induction h generalizing pre with
  | none => cases pre <;> cases ho
  | unopened h ih =>
    cases pre with
    | nil => exact absurd hc Obs.not_created_nil
    | cons o pre =>
      simp only [List.cons_append, List.cons.injEq] at ho
      obtain ⟨rfl, rfl⟩ := ho
      exact List.mem_cons_of_mem _ (ih rfl (created_unopened h (List.prefix_append _ _) hc))
  | closed _ ih =>
    rcases pre with _ | ⟨_, _ | ⟨_, _ | ⟨_, pre⟩⟩⟩ <;> simp only [List.nil_append, List.cons_append, List.cons.injEq] at ho
    · exact absurd hc Obs.not_created_nil
    · cases ho.2.1
    · cases ho.2.2.1
    · obtain ⟨rfl, rfl, rfl, rfl⟩ := ho
      rcases created_closed hc with rfl | hc
      · simp
      · exact List.mem_cons_of_mem _ (List.mem_cons_of_mem _ (List.mem_cons_of_mem _ (ih rfl hc)))
  | started =>
    rcases pre with _ | ⟨_, _ | ⟨_, pre⟩⟩ <;> simp only [List.nil_append, List.cons_append, List.cons.injEq] at ho
    · exact absurd hc Obs.not_created_nil
    · cases ho.2.1
    · exact absurd ho.2.2 (by simp)

/-- Attempts that leave a file open end with its opening. -/
theorem not_asks (h : Trials sid n obs (some file)) : ¬Obs.Asks sid obs := by
  intro ⟨pre, addr, ho⟩
  generalize hl : some file = left at h
  induction h generalizing pre with
  | none => cases hl
  | unopened h ih =>
    cases pre with
    | nil =>
      cases ho
      cases h
      cases hl
    | cons o pre =>
      simp only [List.cons_append, List.cons.injEq] at ho
      exact ih pre ho.2 hl
  | closed h ih =>
    rcases pre with _ | ⟨_, _ | ⟨_, _ | ⟨_, pre⟩⟩⟩ <;> simp only [List.nil_append, List.cons_append, List.cons.injEq] at ho
    · exact absurd ho.2 nofun
    · exact absurd ho.2.2 nofun
    · cases ho.2.2.1
    · exact ih pre ho.2.2.2 hl
  | started =>
    rcases pre with _ | ⟨_, _ | ⟨_, pre⟩⟩ <;> simp only [List.nil_append, List.cons_append, List.cons.injEq] at ho
    · exact absurd ho.2 nofun
    · cases ho.2.1
    · exact absurd ho.2.2 (by simp)

end Trials

/-! ## The attempts of one call -/

section Calls

variable {s : Server} {sid : Nat} {state : ClientState}

/-- What one attempt of a session came to: it failed, and there was no socket or the socket was closed again, or its socket is the
target of the session. -/
def Attempted (s : Server) (sid : Nat) (addr : SockAddr) (r : Server × Bool) : Prop :=
  (∃ state, r.1.sessions sid = some state) ∧
    (r.2 = false ∧ (r.1.trace = s.trace ++ [.act sid (.attempted addr)] ∧ r.1.nextFile = s.nextFile ∨
        ∃ fd, r.1.trace = s.trace ++ [.act sid (.attempted addr), .opened s.nextFile fd, .closed s.nextFile] ∧
          r.1.nextFile = s.nextFile + 1) ∨
      r.2 = true ∧ (∃ fd, r.1.trace = s.trace ++ [.act sid (.attempted addr), .opened s.nextFile fd]) ∧
        r.1.Target sid s.nextFile)

/-- What closing an open descriptor does to the trace; the sessions and the number of the next file stay. -/
theorem close_observed {fd : Int} {file : OpenFile} (hf : s.files fd = some file) :
    (s.close fd).trace = s.trace ++ [.closed file.serial] ∧ (s.close fd).sessions = s.sessions ∧
      (s.close fd).nextFile = s.nextFile := by
  unfold Server.close
  rw [hf]
  exact ⟨rfl, rfl, rfl⟩

/-- What moving a connection on leaves of the file and of everything else. -/
theorem setConnect_observed {fd : Int} {file : OpenFile} (hf : s.files fd = some file) (connect : ConnectStatus) :
    (s.setConnect fd connect).files fd = some { file with connect } ∧ (s.setConnect fd connect).trace = s.trace ∧
      (s.setConnect fd connect).sessions = s.sessions ∧ (s.setConnect fd connect).nextFile = s.nextFile := by
  unfold Server.setConnect
  rw [hf]
  exact ⟨Function.update_self .., rfl, rfl, rfl⟩

/-- The last call of an attempt: the socket is closed again, or it is the target of the session. -/
theorem registerConnectingSocket_observed {fd : Int} {file : OpenFile} (hs : s.sessions sid = some state)
    (ht : state.targetFd = fd) (hf : s.files fd = some file) :
    (∃ state, (registerConnectingSocket s sid fd).1.sessions sid = some state) ∧
      ((registerConnectingSocket s sid fd).2 = false ∧
          (registerConnectingSocket s sid fd).1.trace = s.trace ++ [.closed file.serial] ∧
          (registerConnectingSocket s sid fd).1.nextFile = s.nextFile ∨
        (registerConnectingSocket s sid fd).2 = true ∧ (registerConnectingSocket s sid fd).1.trace = s.trace ∧
          (registerConnectingSocket s sid fd).1.Target sid file.serial) := by
  unfold registerConnectingSocket Server.register
  generalize s.selector.selectorRegister fd (some .targetHandler) opWrite (some sid) true = registered
  obtain ⟨selector, status⟩ := registered
  dsimp only
  rw [hs]
  dsimp only
  by_cases hst : status ≠ .success
  · rw [if_pos hst]
    obtain ⟨htrace, hsessions, hnext⟩ := close_observed
      (s := ({ s with selector } : Server).put sid { state with lastConnectError := s.errno, targetFd := -1 }) hf
    refine ⟨⟨{ state with lastConnectError := s.errno, targetFd := -1 }, ?_⟩, .inl ⟨rfl, htrace, hnext⟩⟩
    rw [hsessions]
    exact Function.update_self ..
  · rw [if_neg hst]
    refine ⟨⟨_, Function.update_self ..⟩, .inr ⟨rfl, rfl, _, file, Function.update_self .., ?_, rfl⟩⟩
    rw [← ht] at hf
    exact hf

/-- What one attempt comes to. -/
theorem startTargetConnection_attempted (hs : s.sessions sid = some state) (addr : SockAddr) (attempt : Attempt) :
    Attempted s sid addr (startTargetConnection s sid addr attempt) := by
  have hs0 : (s.observe [.act sid (.attempted addr)]).sessions sid = some state := hs
  unfold startTargetConnection
  dsimp only
  rw [hs0]
  dsimp only
  cases (s.observe [.act sid (.attempted addr)]).handOut attempt.socket with
  | error e => exact ⟨⟨_, Function.update_self ..⟩, .inl ⟨rfl, .inl ⟨rfl, rfl⟩⟩⟩
  | ok fd =>
    dsimp only
    generalize hopen : (s.observe [.act sid (.attempted addr)]).openFd fd = s0
    have hfiles : s0.files fd = some { serial := s.nextFile, connect := .unconnected } := by
      rw [← hopen]
      exact Function.update_self ..
    have hnext : s0.nextFile = s.nextFile + 1 := by rw [← hopen]; rfl
    have htrace : s0.trace = s.trace ++ [.act sid (.attempted addr), .opened s.nextFile fd] := by
      rw [← hopen]
      simp only [Server.openFd, Server.observe, List.append_assoc, List.singleton_append]
    -- a socket that is closed again
    have hclosed : ∀ s1 : Server, s1.files = s0.files → s1.trace = s0.trace → s1.nextFile = s0.nextFile →
        (∃ state', s1.sessions sid = some state') → Attempted s sid addr (s1.close fd, false) := by
      intro s1 hf ht hn hsess
      obtain ⟨htr, hse, hne⟩ := close_observed (hf ▸ hfiles)
      refine ⟨hse ▸ hsess, .inl ⟨rfl, .inr ⟨fd, ?_, hne.trans (hn.trans hnext)⟩⟩⟩
      rw [htr, ht, htrace, List.append_assoc]
      rfl
    -- a socket that is registered, unless it is closed again
    have hregistered : ∀ (s1 : Server) (c : ConnectStatus), s1.files = s0.files → s1.trace = s0.trace →
        s1.nextFile = s0.nextFile → s1.sessions sid = some { state with targetFd := fd } →
        Attempted s sid addr (registerConnectingSocket (s1.setConnect fd c) sid fd) := by
      intro s1 c hf ht hn hsess
      obtain ⟨hf', htr, hse, hne⟩ := setConnect_observed (hf ▸ hfiles) c
      obtain ⟨hs', ⟨h2, htr', hne'⟩ | ⟨h2, htr', htarget⟩⟩ := registerConnectingSocket_observed (hse ▸ hsess) rfl hf'
      · refine ⟨hs', .inl ⟨h2, .inr ⟨fd, ?_, hne'.trans (hne.trans (hn.trans hnext))⟩⟩⟩
        rw [htr', htr, ht, htrace, List.append_assoc]
        rfl
      · refine ⟨hs', .inr ⟨h2, ⟨fd, ?_⟩, htarget⟩⟩
        rw [htr', htr, ht, htrace]
    cases attempt.setNonblocking with
    | error e => exact hclosed _ rfl rfl rfl ⟨_, Function.update_self ..⟩
    | ok =>
      dsimp only
      cases attempt.connect with
      | ok => exact hregistered _ (.completed 0) rfl rfl rfl (Function.update_self ..)
      | error e =>
        dsimp only
        by_cases he : e ≠ .einprogress
        · rw [if_pos he]
          exact hclosed _ rfl rfl rfl ⟨_, Function.update_self ..⟩
        · rw [if_neg he]
          exact hregistered _ .pending rfl rfl rfl (Function.update_self ..)

/-- The attempts of the loop over a list of addresses. -/
theorem startNextLoop_trials (l : List AddrInfo) (attempts : List Attempt) (hs : s.sessions sid = some state) :
    ∃ obs left, (startNextLoop sid l attempts s).1.trace = s.trace ++ obs ∧ Trials sid s.nextFile obs left ∧
      (startNextLoop sid l attempts s).2 = left.isSome ∧
      ∀ file, left = some file → (startNextLoop sid l attempts s).1.Target sid file := by
  induction l generalizing s state attempts with
  | nil => exact ⟨[], none, (List.append_nil _).symm, .none _, rfl, nofun⟩
  | cons current next ih =>
    unfold startNextLoop
    rw [hs]
    dsimp only
    have hput : (s.put sid { state with targetAddressCurrent := next }).sessions sid =
        some { state with targetAddressCurrent := next } := Function.update_self ..
    by_cases hfam : current.family ≠ .inet ∧ current.family ≠ .inet6
    · rw [if_pos hfam]
      exact ih attempts hput
    · rw [if_neg hfam]
      have hatt := startTargetConnection_attempted hput current.addr (attempts.headD .exhausted)
      generalize startTargetConnection (s.put sid { state with targetAddressCurrent := next }) sid current.addr
        (attempts.headD .exhausted) = r at hatt ⊢
      obtain ⟨s1, started⟩ := r
      obtain ⟨⟨state1, hs1⟩, ⟨rfl, hfailed⟩ | ⟨rfl, ⟨fd, htrace⟩, htarget⟩⟩ := hatt
      · obtain ⟨obs, left, htr, htrials, hsome, htarget⟩ := ih attempts.tail hs1
        obtain ⟨htrace, hnext⟩ | ⟨fd, htrace, hnext⟩ := hfailed
        · refine ⟨.act sid (.attempted current.addr) :: obs, left, ?_, .unopened (hnext ▸ htrials), hsome, htarget⟩
          rw [htr, htrace, List.append_assoc]
          rfl
        · refine ⟨.act sid (.attempted current.addr) :: .opened s.nextFile fd :: .closed s.nextFile :: obs, left, ?_,
            .closed (hnext ▸ htrials), hsome, htarget⟩
          rw [htr, htrace, List.append_assoc]
          rfl
      · exact ⟨_, some _, htrace, .started, rfl, fun file hf => Option.some.inj hf ▸ htarget⟩

end Calls

/-! ## Between two events -/

/-- What holds of the attempts of a session between two events: when an attempt was begun, the files of those before it were
closed; a file that was not closed is open as the session's target; and no attempt is under way. -/
structure Tidy (sid : Nat) (s : Server) : Prop where
  ordered : ∀ pre addr post, s.trace = pre ++ .act sid (.attempted addr) :: post →
    ∀ file, Obs.Created sid file pre → .closed file ∈ pre
  closed : ∀ file, Obs.Created sid file s.trace → .closed file ∈ s.trace ∨ s.Target sid file
  settled : ¬Obs.Asks sid s.trace

/-- From one server to another, a session made attempts in one go, and went on to other acts if none of them was started. -/
def Tried (sid : Nat) (s s' : Server) : Prop :=
  ∃ obs left after, s'.trace = s.trace ++ obs ++ after.map (.act sid) ∧ Trials sid s.nextFile obs left ∧
    (∀ addr, .attempted addr ∉ after) ∧ (left = none → after ≠ []) ∧
    ∀ file, left = some file → after = [] ∧ s'.Target sid file

section Tidy

variable {s s1 s' : Server} {sid file : Nat} {obs before : List Obs}

/-- A file was opened under one descriptor. -/
theorem opened_unique {trace : List Obs} {fd fd' : Int} (h : Obs.openings file trace ≤ 1) (ho : .opened file fd ∈ trace)
    (ho' : .opened file fd' ∈ trace) : fd = fd' := by
  induction trace with
  | nil => cases ho
  | cons o trace ih =>
    have hpos : ∀ fd, .opened file fd ∈ trace → 0 < Obs.openings file trace :=
      fun fd hm => List.countP_pos_iff.mpr ⟨_, hm, by simp⟩
    have hcons : Obs.openings file (o :: trace) = Obs.openings file [o] + Obs.openings file trace :=
      @List.countP_append _ _ [o] _
    have hone : ∀ fd, Obs.openings file [.opened file fd] = 1 := by
      intro fd
      simp [Obs.openings]
    rcases List.mem_cons.mp ho with he | hm <;> rcases List.mem_cons.mp ho' with he' | hm'
    · cases he.trans he'.symm
      rfl
    · have := hpos fd' hm'
      have := hone fd
      rw [he] at this
      omega
    · have := hpos fd hm
      have := hone fd'
      rw [he'] at this
      omega
    · exact ih (by omega) hm hm'

/-- A file that was closed is found closed in the trace. -/
theorem closed_mem {trace : List Obs} (h : Obs.closings file trace = 1) : .closed file ∈ trace := by
  obtain ⟨o, ho, he⟩ := List.countP_pos_iff.mp (h ▸ Nat.zero_lt_one : 0 < Obs.closings file trace)
  cases o with
  | closed file' =>
    rw [← eq_of_beq he]
    exact ho
  | opened _ _ => cases he
  | act _ _ => cases he

/-- The target of a session is closed, or it is still the target of the session. -/
theorem Server.Target.kept (h : s.Target sid file) (own : Own s) (own' : Own s') (hcus : Custody s s')
    (htrace : s'.trace = s.trace ++ obs)
    (hclient : ∀ state state', s.sessions sid = some state → s'.sessions sid = some state' →
      state'.clientFd = state.clientFd) : .closed file ∈ s'.trace ∨ s'.Target sid file := by
  obtain ⟨state, f, hs, hf, rfl⟩ := h
  have hlt := own.ledger.below _ f hf
  have hlt' := Nat.lt_of_lt_of_le hlt hcus.nextFile
  obtain hc | ⟨_, owner, hown, _⟩ := own'.closed_or_held hlt'
  · exact .inl (closed_mem hc)
  · -- whoever holds the file held it before, and then it was the session
    obtain ⟨fd, f1, item, hf1, hserial, hi, ho⟩ := hcus.holds f.serial owner hlt hown
    obtain rfl := own.ledger.distinct _ _ f1 f hf1 hf hserial
    have ht : state.targetFd ≠ -1 := ne_neg_one_of_slot hi
    obtain ⟨item1, hi1, hh, hd⟩ := own.target sid state hs ht
    rw [hi] at hi1
    cases hi1
    obtain rfl : sessionOwner sid = owner := by rw [← ho, Item.owner, hh, hd]; rfl
    obtain ⟨fd', f', item', hf', hserial', hi', ho'⟩ := hown
    obtain ⟨state', hs', hfd⟩ := own'.fd_of_slot hi' (Item.of_iff_owner.mpr ho')
    have hu : state.targetFd = fd' := by
      refine opened_unique ?_ (htrace ▸ List.mem_append_left _ (own.ledger.under _ f hf)) (hserial' ▸ own'.ledger.under fd' f' hf')
      rw [own'.ledger.opened, if_pos hlt']
    obtain ⟨_, hfd⟩ | ⟨_, hfd⟩ := hfd
    · refine absurd ?_ (own.fds hs).apart
      rw [hu, ← hfd]
      exact (hclient state state' hs hs').symm
    · exact .inr ⟨state', f', hs', hfd ▸ hf', hserial'⟩

/-- A trace that does not end with an attempt does not end with one after anything else. -/
theorem not_asks_append {trace : List Obs} (h : ¬Obs.Asks sid trace) (hno : ∀ addr, .act sid (.attempted addr) ∉ obs) :
    ¬Obs.Asks sid (trace ++ obs) := by
  rintro ⟨pre, addr, he⟩
  rcases obs.eq_nil_or_concat with rfl | ⟨obs, o, rfl⟩
  · rw [List.append_nil] at he
    exact h ⟨pre, addr, he⟩
  · rw [List.concat_eq_append, ← List.append_assoc] at he
    have ho := (List.append_inj' he rfl).2
    refine hno addr ?_
    rw [List.concat_eq_append, ← (List.cons.inj ho).1]
    exact List.mem_append_right _ (List.mem_singleton_self _)

/-- An attempt in a trace with nothing but other things after it is in its first part. -/
theorem split_attempt {trace pre post : List Obs} {addr : SockAddr} (hno : ∀ addr, .act sid (.attempted addr) ∉ obs)
    (h : trace ++ obs = pre ++ .act sid (.attempted addr) :: post) :
    ∃ m, trace = pre ++ .act sid (.attempted addr) :: m := by
  obtain ⟨m, rfl, hm⟩ | ⟨m, rfl, hm⟩ := List.append_eq_append_iff.mp h
  · exact absurd (hm ▸ List.mem_append_right _ (List.mem_cons_self ..)) (hno addr)
  · cases m with
    | nil =>
      rw [List.nil_append] at hm
      exact absurd (hm ▸ List.mem_cons_self ..) (hno addr)
    | cons o m =>
      simp only [List.cons_append, List.cons.injEq] at hm
      obtain ⟨rfl, _⟩ := hm
      exact ⟨m, rfl⟩

/-- What attempts nothing leaves the attempts as they are. -/
theorem Tidy.quiet (h : Tidy sid s) (own : Own s) (own' : Own s') (hcus : Custody s s') (htrace : s'.trace = s.trace ++ obs)
    (hno : ∀ addr, .attempted addr ∉ Obs.acts sid obs)
    (hclient : ∀ state state', s.sessions sid = some state → s'.sessions sid = some state' →
      state'.clientFd = state.clientFd) : Tidy sid s' := by
  have hno' : ∀ addr, .act sid (.attempted addr) ∉ obs := fun addr hm => hno addr (Obs.mem_acts.mp hm)
  refine ⟨fun pre addr post he file hc => ?_, fun file hc => ?_, htrace ▸ not_asks_append h.settled hno'⟩
  · obtain ⟨m, hm⟩ := split_attempt hno' (htrace.symm.trans he)
    exact h.ordered pre addr m hm file hc
  · rw [htrace] at hc
    obtain hc | hc | ⟨hasks, _⟩ := Obs.created_append hc
    · obtain hc | ht := h.closed file hc
      · exact .inl (htrace ▸ List.mem_append_left _ hc)
      · exact ht.kept own own' hcus htrace hclient
    · obtain ⟨addr, hm⟩ := hc.attempted
      exact absurd hm (hno addr)
    · exact absurd hasks h.settled

/-- Attempts made in one go, once every file made before is closed. -/
theorem Tidy.tried (h : Tidy sid s) (hb : s1.trace = s.trace ++ before) (hno : ∀ addr, .act sid (.attempted addr) ∉ before)
    (hclosed : ∀ file, Obs.Created sid file s.trace → .closed file ∈ s1.trace) (ht : Tried sid s1 s') : Tidy sid s' := by
  obtain ⟨obs, left, after, htrace, htrials, hafter, hnone, hsome⟩ := ht
  have hafter' : ∀ addr, .act sid (.attempted addr) ∉ after.map (Obs.act sid) := by
    intro addr hm
    obtain ⟨a, ha, he⟩ := List.mem_map.mp hm
    cases he
    exact hafter addr ha
  have hs1 : ¬Obs.Asks sid s1.trace := hb ▸ not_asks_append h.settled hno
  -- a file made before the attempts is closed before them
  have hbefore : ∀ file, Obs.Created sid file s1.trace → .closed file ∈ s1.trace := by
    intro file hc
    have hc' := hb ▸ hc
    obtain hc' | hc' | ⟨hasks, _⟩ := Obs.created_append hc'
    · exact hclosed file hc'
    · obtain ⟨addr, hm⟩ := hc'.attempted
      exact absurd (Obs.mem_acts.mpr hm) (hno addr)
    · exact absurd hasks h.settled
  refine ⟨fun pre addr post he file hc => ?_, fun file hc => ?_, ?_⟩
  · obtain ⟨m, hm⟩ := split_attempt hafter' (htrace.symm.trans he)
    obtain ⟨k, rfl, hk⟩ | ⟨k, hpre, hk⟩ := List.append_eq_append_iff.mp hm
    · -- an attempt of this go
      obtain hc | hc | ⟨hasks, _⟩ := Obs.created_append hc
      · exact List.mem_append_left _ (hbefore file hc)
      · exact List.mem_append_right _ (htrials.ordered hk hc)
      · exact absurd hasks hs1
    · cases k with
      | nil =>
        rw [List.append_nil] at hpre
        exact hpre ▸ hbefore file (hpre ▸ hc)
      | cons o k =>
        -- an attempt made before
        simp only [List.cons_append, List.cons.injEq] at hk
        obtain ⟨rfl, _⟩ := hk
        obtain ⟨m', hm'⟩ := split_attempt hno (hb.symm.trans hpre)
        exact h.ordered pre addr m' hm' file hc
  · rw [htrace] at hc ⊢
    obtain hc | hc | ⟨_, _, _, hstart⟩ := Obs.created_append hc
    · obtain hc | hc | ⟨hasks, _⟩ := Obs.created_append hc
      · exact .inl (List.mem_append_left _ (List.mem_append_left _ (hbefore file hc)))
      · obtain hc | hl := htrials.created hc
        · exact .inl (List.mem_append_left _ (List.mem_append_right _ hc))
        · exact .inr (hsome file hl).2
      · exact absurd hasks hs1
    · obtain ⟨addr, hm⟩ := hc.attempted
      exact absurd (Obs.mem_acts.mpr hm) (hafter' addr)
    · cases after <;> cases hstart
  · rw [htrace]
    cases left with
    | none =>
      obtain ⟨last, a, rfl⟩ | rfl := (List.eq_nil_or_concat after).symm
      · rintro ⟨pre, addr, he⟩
        rw [List.concat_eq_append, List.map_append, ← List.append_assoc] at he
        have ho := (List.cons.inj (List.append_inj' he rfl).2).1
        cases ho
        exact hafter addr (by simp)
      · exact absurd rfl (hnone rfl)
    | some file =>
      obtain ⟨rfl, _⟩ := hsome file rfl
      rw [List.map_nil, List.append_nil]
      rintro ⟨pre, addr, he⟩
      obtain ⟨k, _, hk⟩ | ⟨k, hpre, hk⟩ := List.append_eq_append_iff.mp he
      · exact htrials.not_asks ⟨k, addr, hk⟩
      · cases k with
        | nil => exact htrials.not_asks ⟨[], addr, hk.symm⟩
        | cons o k =>
          simp only [List.cons_append, List.cons.injEq] at hk
          obtain ⟨_, rfl⟩ := List.append_eq_nil_iff.mp hk.2.symm
          cases htrials

end Tidy

/-! ## The handlers that attempt -/

section Handlers

variable {s s1 s' : Server} {sid file : Nat} {v v' : View} {obs : List Obs} {acts : List Act}

/-- Attempts that all failed, and the refusal of the request. -/
theorem Tried.refused (htrace : s1.trace = s.trace ++ obs) (htrials : Trials sid s.nextFile obs none) (st : ClientState)
    (code : Byte) (h : Served sid s1 s' v (st.refusedActs code)) : Tried sid s s' := by
  refine ⟨obs, none, st.refusedActs code, by rw [h.trace, htrace], htrials, fun addr hm => ?_, fun _ => nofun, nofun⟩
  rw [Act.mem_attempts, st.attempts_refusedActs] at hm
  cases hm

/-- Attempts of which the last was started. -/
theorem Tried.started (htrace : s'.trace = s.trace ++ obs) (htrials : Trials sid s.nextFile obs (some file))
    (h : s'.Target sid file) : Tried sid s s' :=
  ⟨obs, some file, [], by rw [htrace, List.map_nil, List.append_nil], htrials, nofun, nofun, fun _ hf => ⟨rfl, Option.some.inj hf ▸ h⟩⟩

/-- Trying the next address attempts. -/
theorem connectNext_tried (own : Own s) (jobs : JobsOwned s) (hl : s.life sid = .live v) (ht : v.state.targetFd = -1)
    (he : s.errno ≠ 0) (attempts : List Attempt) : Tried sid s (connectNext s sid attempts) := by
  obtain ⟨obs, left, htrace, htrials, hsome, htarget⟩ :=
    startNextLoop_trials v.state.targetAddressCurrent attempts (Server.sessions_of_life hl).1
  unfold connectNext
  rw [startNextTargetConnection_eq hl]
  rcases startNextLoop_worked v.state.targetAddressCurrent attempts own jobs hl ht he with
    ⟨st', acts, s', _, heq, hw⟩ | ⟨st', acts, c, s', _, heq, hw⟩ <;> rw [heq] at htrace hsome htarget ⊢
  · obtain rfl := Option.not_isSome_iff_eq_none.mp (by simpa using hsome.symm)
    exact .refused htrace htrials _ _ (hw.refl.answerConnect false)
  · obtain ⟨file, rfl⟩ := Option.isSome_iff_exists.mp hsome.symm
    exact .started htrace htrials (htarget file rfl)

/-- Trying the addresses of a result attempts. -/
theorem connectResolved_tried (own : Own s) (jobs : JobsOwned s) (hl : s.life sid = .live v) (ht : v.state.targetFd = -1)
    (he : s.errno ≠ 0) (attempts : List Attempt) : Tried sid s (connectResolved s v.state.clientFd sid attempts) := by
  obtain ⟨obs, left, htrace, htrials, hsome, htarget⟩ :=
    startNextLoop_trials v.state.targetAddressCurrent attempts (Server.sessions_of_life hl).1
  unfold connectResolved
  rw [startNextTargetConnection_eq hl]
  rcases startNextLoop_worked v.state.targetAddressCurrent attempts own jobs hl ht he with
    ⟨st', acts, s', htries, heq, hw⟩ | ⟨st', acts, c, s', _, heq, hw⟩ <;> rw [heq] at htrace hsome htarget ⊢
  · obtain rfl := Option.not_isSome_iff_eq_none.mp (by simpa using hsome.symm)
    obtain ⟨current, e, ⟨_, hst⟩ | ⟨_, _, _, hc, _⟩⟩ := htries.eq
    · have hfd : st'.clientFd = v.state.clientFd := by rw [hst]
      dsimp only
      rw [hw.refl.withSession, ← hfd]
      exact .refused htrace htrials _ _ (hw.refl.failRequest _)
    · cases hc
  · obtain ⟨file, rfl⟩ := Option.isSome_iff_exists.mp hsome.symm
    exact .started htrace htrials (htarget file rfl)

/-- Connecting to the address of a request attempts. -/
theorem beginConnection_tried (own : Own s) (jobs : JobsOwned s) (hl : s.life sid = .live v) (ht : v.state.targetFd = -1)
    (he : s.errno ≠ 0) (r : Socks5Request) (attempt : Attempt) :
    Tried sid s (beginConnection s v.state.clientFd sid r attempt) := by
  have h0 := Served.refl hl (own.held hl)
  unfold beginConnection
  rw [h0.withSession]
  have hw1 := Worked.of_served own jobs (h0.put { v.state with targetAddr := r.addr } rfl rfl rfl)
  have hatt := startTargetConnection_attempted (Server.sessions_of_life hw1.life).1 r.addr attempt
  dsimp only
  rcases startTargetConnection_worked hw1.own hw1.jobs hw1.life ht he r.addr attempt with
    ⟨e, s', _, heq, hw⟩ | ⟨fd, c, s', _, _, heq, hw⟩ <;> rw [heq] at hatt ⊢
  · obtain ⟨_, ⟨_, hfailed⟩ | ⟨htrue, _⟩⟩ := hatt
    · dsimp only
      rw [hw.refl.withSession]
      have hserved := hw.refl.failRequest (socks5ReplyForErrno e)
      obtain ⟨htrace, _⟩ | ⟨fd, htrace, _⟩ := hfailed
      · exact .refused (s := s) htrace (.unopened (.none _)) _ _ hserved
      · exact .refused (s := s) htrace (.closed (.none _)) _ _ hserved
    · cases htrue
  · obtain ⟨_, ⟨hfalse, _⟩ | ⟨_, ⟨fd, htrace⟩, htarget⟩⟩ := hatt
    · cases hfalse
    · exact .started (s := s) htrace .started htarget

end Handlers

end SocksProxy
