import SocksProxy.Theorems.MainLoop

/-!
# No connection is passed over

`handle_iteration` walks the slots in their order, while the handlers it calls change the table. A slot that `pselect` has found ready
is served in the same walk all the same: no handler touches the slot of another connection, so a slot waits unchanged until the walk
comes to it, unless the other side of its session is served before. The walk has an end, and so has the wait.
-/

namespace SocksProxy

/-- Two slots are of one connection: they are the two sides of one session, or the same slot. -/
def Item.Joined (item item' : Item FdHandler Nat) : Prop := (∃ sid, item.Of sid ∧ item'.Of sid) ∨ item'.fd = item.fd

/-! ## The handlers of other connections -/

section Keeping

variable {s : Server} {fd fd' : Int} {item item' : Item FdHandler Nat}

/-- The turns of an accept loop keep the slots in use. -/
theorem turns_keep (fd : Int) (item : Item FdHandler Nat) : Turns fun s => Own s ∧ s.selector.slot fd = some item where
  own := fun h => h.1
  fail := fun h _ => ⟨{ h.1 with }, h.2⟩
  blink := fun h hf => ⟨own_blink h.1 hf, h.2⟩
  skip := fun h => ⟨own_skip h.1, h.2⟩

/-- A descriptor in use is not that of a closed file. -/
theorem Own.ne_of_closed (own : Own s) (hi : s.selector.slot fd = some item) {closed : Int} (hf : s.files closed = none) :
    fd ≠ closed := by
  rintro rfl
  rw [own.slot_of_closed hf] at hi
  cases hi

/-- The accept loop of the sessions keeps the slots in use. -/
theorem acceptConnection_keeps (own : Own s) (hi : s.selector.slot fd = some item) (accepts : List AcceptResult) :
    (acceptConnection s accepts).selector.slot fd = some item := by
  obtain ⟨s1, e, h1, heq⟩ := acceptConnection_turns (turns_keep fd item)
    (fun h hv hf => ⟨own_enroll h.1 hv hf, by rw [slot_enroll h.1 hv hf, if_neg (h.1.ne_of_closed h.2 hf)]; exact h.2⟩)
    ⟨own, hi⟩ accepts
  rw [heq]
  exact h1.2

/-- The accept loop of the management connections keeps the slots in use. -/
theorem acceptManagementConnection_keeps (own : Own s) (hi : s.selector.slot fd = some item) (accepts : List AcceptResult) :
    (acceptManagementConnection s accepts).selector.slot fd = some item := by
  obtain ⟨s1, e, h1, heq⟩ := acceptManagementConnection_loop (turns_keep fd item)
    (fun h hv hf => ⟨(register_management h.1 hv hf).2.own h.1,
      ((register_management h.1 hv hf).2.others fd (h.1.ne_of_closed h.2 hf)).1.trans h.2⟩) ⟨own, hi⟩ accepts
  rw [heq]
  exact h1.2

/-- A read handler leaves the slots of other connections as they are. -/
theorem handleRead_keeps (h : Inv s) (hp : s.phase = .running) (hi : s.selector.slot fd = some item)
    (hi' : s.selector.slot fd' = some item') (hr : item'.interest.read = true) (hj : ¬item.Joined item') (a : Answers) :
    (handleRead a item'.handler { fd := item'.fd, data := item'.data } s).selector.slot fd = some item := by
  have hne : fd ≠ fd' := by
    rintro rfl
    rw [hi] at hi'
    cases hi'
    exact hj (.inr rfl)
  rcases h.own.slot_cases hi' with ⟨sid, ho⟩ | ⟨mid, hm⟩ | hl
  · obtain ⟨v, -, hh⟩ := handleRead_handled h hp hi' hr ho a
    obtain ⟨acts, fr, -⟩ := hh.steps
    exact (fr.kept fd item hi fun hof => hj (.inl ⟨sid, hof, ho⟩)).1
  · have hmanaged := managementRead_managed h.own hm a
    rw [hm.handler]
    exact (hmanaged.others fd hne).1.trans hi
  · rcases hl with hl | hl <;> rw [hl]
    · exact acceptConnection_keeps h.own hi a.accepts
    · exact acceptManagementConnection_keeps h.own hi a.accepts

/-- A write handler leaves the slots of other connections as they are. -/
theorem handleWrite_keeps (h : Inv s) (hp : s.phase = .running) (hi : s.selector.slot fd = some item)
    (hi' : s.selector.slot fd' = some item') (hw : item'.interest.write = true) (hj : ¬item.Joined item') (a : Answers) :
    (handleWrite a item'.handler { fd := item'.fd, data := item'.data } s).selector.slot fd = some item := by
  have hne : fd ≠ fd' := by
    rintro rfl
    rw [hi] at hi'
    cases hi'
    exact hj (.inr rfl)
  rcases h.own.slot_cases hi' with ⟨sid, ho⟩ | ⟨mid, hm⟩ | hl
  · obtain ⟨v, -, hh⟩ := handleWrite_handled h hp hi' hw ho a
    obtain ⟨acts, fr, -⟩ := hh.steps
    exact (fr.kept fd item hi fun hof => hj (.inl ⟨sid, hof, ho⟩)).1
  · have hmanaged := managementWrite_managed h.own hm a.sends
    rw [hm.handler]
    exact (hmanaged.others fd hne).1.trans hi
  · exact absurd hl (h.not_listens hi' hw)

end Keeping

/-! ## The walk -/

/-- The walk has still to come to slot `k`, which was found ready for something it is interested in, in at most so many moves. -/
def MainPc.Before (k : Nat) (interest : FdInterest) (n : Nat) : MainPc → Prop
  | .turn i last slaveR slaveW =>
    i ≤ k ∧ k ≤ last ∧ 2 * (k - i) + 2 ≤ n ∧ (slaveR k = true ∧ interest.read = true ∨ slaveW k = true ∧ interest.write = true)
  | .write i last _ slaveR slaveW =>
    i ≤ k ∧ k ≤ last ∧ 2 * (k - i) + 1 ≤ n ∧ (slaveR k = true ∧ interest.read = true ∨ slaveW k = true ∧ interest.write = true) ∧
      (i = k → slaveW k = true ∧ interest.write = true)
  | _ => False

/-- A slot waits for the walk. -/
structure Process.Awaits (p : Process) (k : Nat) (item : Item FdHandler Nat) (n : Nat) : Prop where
  slot : p.server.selector.slot k = some item
  before : p.pc.Before k item.interest n

section Walking

variable {p : Process} {k n : Nat} {item : Item FdHandler Nat}

/-- Who waits has moves to wait for. -/
theorem MainPc.Before.pos {pc : MainPc} {interest : FdInterest} (h : pc.Before k interest n) : 0 < n := by
  cases pc with
  | turn i last slaveR slaveW =>
    obtain ⟨_, _, hn, _⟩ := h
    omega
  | write i last key slaveR slaveW =>
    obtain ⟨_, _, hn, _⟩ := h
    omega
  | _ => exact h.elim

/-- A turn that is not the slot's leaves it for a later one. -/
theorem before_afterTurn {i last : Nat} {slaveR slaveW : Int → Bool} {interest : FdInterest} (hlt : i < k) (hle : k ≤ last)
    (hn : 2 * (k - i) ≤ n)
    (hready : slaveR k = true ∧ interest.read = true ∨ slaveW k = true ∧ interest.write = true) :
    (MainPc.afterTurn i last slaveR slaveW).Before k interest n := by
  unfold MainPc.afterTurn
  rw [if_pos (by omega)]
  exact ⟨hlt, hle, by omega, hready⟩

/-- The read half of a turn serves the connection of the slot, or leaves the slot waiting. -/
theorem Process.Awaits.turn (h : p.Ok) (x : p.Awaits k item (n + 1)) {i last : Nat} {slaveR slaveW : Int → Bool}
    (hpc : p.pc = .turn i last slaveR slaveW) (a : MainAnswers) :
    (∃ item', p.calls = some item' ∧ item.Joined item') ∨ (p.advance a).Awaits k item n := by
  have hp : p.server.phase = .running := h.phase.trans (by rw [hpc]; rfl)
  have hbefore := x.before
  rw [hpc] at hbefore
  obtain ⟨hik, hkl, hn, hready⟩ := hbefore
  obtain ⟨hno, -, hadv⟩ | ⟨item', hslot, ⟨hidle, -, hadv⟩ | ⟨⟨-, hint⟩, hcalls, hadv, hstep⟩⟩ := h.turn_cases hpc a
  · have hne : i ≠ k := by
      rintro rfl
      rw [x.slot] at hno
      cases hno
    rw [hadv]
    exact .inr ⟨x.slot, before_afterTurn (by omega) hkl (by omega) hready⟩
  · rw [hadv]
    refine .inr ⟨x.slot, hik, hkl, by omega, hready, fun he => hready.resolve_left fun hread => hidle ?_⟩
    subst he
    rw [x.slot] at hslot
    exact Option.some.inj hslot ▸ hread
  · by_cases hj : item.Joined item'
    · exact .inl ⟨item', hcalls, hj⟩
    · have hne : i ≠ k := by
        rintro rfl
        rw [x.slot] at hslot
        exact hj (.inr (congrArg Item.fd (Option.some.inj hslot).symm))
      rw [hadv, hstep]
      exact .inr ⟨handleRead_keeps h.inv hp x.slot hslot hint hj a.handler, hik, hkl, by omega, hready, fun he => absurd he hne⟩

/-- The write half of a turn serves the connection of the slot, or leaves the slot waiting. -/
theorem Process.Awaits.write (h : p.Ok) (x : p.Awaits k item (n + 1)) {i last : Nat} {key : SelectorKey Nat}
    {slaveR slaveW : Int → Bool} (hpc : p.pc = .write i last key slaveR slaveW) (a : MainAnswers) :
    (∃ item', p.calls = some item' ∧ item.Joined item') ∨ (p.advance a).Awaits k item n := by
  have hp : p.server.phase = .running := h.phase.trans (by rw [hpc]; rfl)
  have hbefore := x.before
  rw [hpc] at hbefore
  obtain ⟨hik, hkl, hn, hready, hown⟩ := hbefore
  obtain ⟨hidle, -, hadv⟩ | ⟨item', hslot, ⟨-, hint⟩, hcalls, hadv, hstep⟩ := h.write_cases hpc a
  · have hne : i ≠ k := by
      rintro rfl
      exact hidle item x.slot (hown rfl)
    rw [hadv]
    exact .inr ⟨x.slot, before_afterTurn (by omega) hkl (by omega) hready⟩
  · by_cases hj : item.Joined item'
    · exact .inl ⟨item', hcalls, hj⟩
    · have hne : i ≠ k := by
        rintro rfl
        rw [x.slot] at hslot
        exact hj (.inr (congrArg Item.fd (Option.some.inj hslot).symm))
      rw [hadv, hstep]
      exact .inr ⟨handleWrite_keeps h.inv hp x.slot hslot hint hj a.handler, before_afterTurn (by omega) hkl (by omega) hready⟩

/-- A move of the main thread serves the connection of the slot, or brings the walk closer to it. -/
theorem Process.Awaits.advance (h : p.Ok) (x : p.Awaits k item (n + 1)) (a : MainAnswers) :
    (∃ item', p.calls = some item' ∧ item.Joined item') ∨ (p.advance a).Awaits k item n := by
  cases hpc : p.pc with
  | turn i last slaveR slaveW => exact x.turn h hpc a
  | write i last key slaveR slaveW => exact x.write h hpc a
  | _ =>
    have hbefore := x.before
    rw [hpc] at hbefore
    exact hbefore.elim

/-- One move of a process in which a slot waits for the walk: the connection of the slot is served, or the slot still waits. -/
theorem Process.Awaits.step (h : p.Ok) (x : p.Awaits k item n) (m : Move) :
    (m.isMain = true ∧ ∃ item', p.calls = some item' ∧ item.Joined item') ∨
    (p.step m).Ok ∧ (p.step m).Awaits k item (if m.isMain then n - 1 else n) := by
  obtain ⟨_, -, -, hok⟩ := process_matched p p.server m ⟨rfl, h⟩
  cases m with
  | outside e =>
    refine .inr ⟨hok, ?_⟩
    dsimp only [Process.step]
    split
    · rename_i ho
      exact ⟨by dsimp only; rw [(step_outside h.inv ho).1]; exact x.slot, x.before⟩
    · exact x
  | main a =>
    cases n with
    | zero => exact absurd x.before.pos (Nat.lt_irrefl 0)
    | succ n => exact (x.advance h a).imp (fun hserved => ⟨rfl, hserved⟩) fun hnext => ⟨hok, hnext⟩

/-- However the others move, the connection of a slot that waits is served within the moves of the main thread it waits for. -/
theorem Process.Awaits.served (h : p.Ok) (x : p.Awaits k item n) (ms : List Move) (hmany : n ≤ ms.countP Move.isMain) :
    ∃ pre m post item', ms = pre ++ m :: post ∧ m.isMain = true ∧ (p.run pre).calls = some item' ∧ item.Joined item' := by
  obtain ⟨pre, m, post, rfl, hm, item', hcall, hj⟩ | ⟨-, hend⟩ := Traces.foldl_countdown
    (W := fun n (p : Process) => p.Ok ∧ p.Awaits k item n)
    (H := fun (p : Process) (m : Move) => m.isMain = true ∧ ∃ item', p.calls = some item' ∧ item.Joined item')
    (fun n p m _ x => x.2.step x.1 m) ⟨h, x⟩ hmany
  · exact ⟨pre, m, post, item', rfl, hm, hcall, hj⟩
  · exact absurd hend.before.pos (Nat.lt_irrefl 0)

end Walking

/-- No connection is passed over. Wherever the process has got to `pselect` by moves of the main thread, of resolver threads, of the
kernel and of signals: if a descriptor is found ready for what it is registered for, then within the next 2048 moves of the main
thread a handler of its connection is called, whatever the handlers before it do to the table and whoever moves in between. -/
theorem ready_served {c : Config} {s : Server} (h : c.Outfits s) (ms : List Move) (a : MainAnswers) {readable writable : Int → Bool}
    (hpc : (Process.run ⟨s, .test⟩ ms).pc = .select) (ha : a.pselect = .ready readable writable) {fd : Int}
    {item : Item FdHandler Nat} (hi : (Process.run ⟨s, .test⟩ ms).server.selector.slot fd = some item)
    (hready : readable fd = true ∧ item.interest.read = true ∨ writable fd = true ∧ item.interest.write = true) (ms' : List Move)
    (hmany : 2048 ≤ ms'.countP Move.isMain) :
    ∃ pre m post item', ms' = pre ++ m :: post ∧ m.isMain = true ∧
      (Process.run ⟨s, .test⟩ (ms ++ .main a :: pre)).calls = some item' ∧ item.Joined item' := by
  have hok := process_ok h.inv h.running ms
  generalize hrun : Process.run ⟨s, .test⟩ ms = p at hpc hi hok
  have hafter : ∀ pre, Process.run ⟨s, .test⟩ (ms ++ .main a :: pre) = (p.advance a).run pre := by
    intro pre
    unfold Process.run at hrun ⊢
    rw [List.foldl_append, hrun]
    rfl
  have hsel := hok.inv.own.selector
  obtain ⟨k, rfl⟩ : ∃ k : Nat, (k : Int) = fd := ⟨fd.toNat, Int.toNat_of_nonneg (invalidFd_eq_false_iff.mp
    (FdSelector.valid_of_slot hi)).1⟩
  have hadv : p.advance a = ⟨p.server, .turn 0 p.server.selector.maxFd.toNat (fun fd => p.server.selector.masterR fd && readable fd)
      (fun fd => p.server.selector.masterW fd && writable fd)⟩ := by
    unfold Process.advance
    rw [hpc]
    dsimp only
    rw [ha]
    rfl
  have hlast : k ≤ p.server.selector.maxFd.toNat := by
    have := hsel.above k item hi
    omega
  have hvalid := (invalidFd_eq_false_iff.mp (FdSelector.valid_of_slot hi)).2
  have hbits : p.server.selector.masterR k = item.interest.read ∧ p.server.selector.masterW k = item.interest.write := by
    rw [hsel.readable, hsel.writable, hi]
    exact ⟨rfl, rfl⟩
  have hwait : (p.advance a).Awaits k item 2048 := by
    rw [hadv]
    refine ⟨hi, Nat.zero_le k, hlast, by omega, ?_⟩
    simp only [hbits.1, hbits.2, Bool.and_eq_true]
    exact hready.imp (fun hr => ⟨hr.symm, hr.2⟩) fun hw => ⟨hw.symm, hw.2⟩
  obtain ⟨_, -, -, hok'⟩ := process_matched p p.server (.main a) ⟨rfl, hok⟩
  obtain ⟨pre, m, post, item', hsplit, hm, hcall, hj⟩ := hwait.served hok' ms' hmany
  exact ⟨pre, m, post, item', hsplit, hm, hafter pre ▸ hcall, hj⟩

/-- The listener of the sessions is found ready at the first call of `pselect`. -/
theorem ready_served_first :
    ∃ pre m post item', List.replicate 2048 (Move.main {}) = pre ++ m :: post ∧ m.isMain = true ∧
      (Process.run ⟨(Config.first .zeroed).start, .test⟩ ([.main {}] ++
        .main { pselect := .ready (fun fd => fd == 3) fun _ => false } :: pre)).calls = some item' ∧
      Item.Joined { fd := 3, interest := opRead, handler := some .acceptHandler, data := none, serial := 0 } item' := by
  have hi : (Process.run ⟨(Config.first .zeroed).start, .test⟩ [.main {}]).server.selector.slot 3 =
      some { fd := 3, interest := opRead, handler := some .acceptHandler, data := none, serial := 0 } := rfl
  exact ready_served (Config.first .zeroed).outfits_start [.main {}] _ rfl rfl hi (.inl ⟨rfl, rfl⟩) _
    (by rw [List.countP_replicate]; exact Nat.le_refl _)

end SocksProxy
