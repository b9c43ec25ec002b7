import SocksProxy.Runs
import SocksProxy.Lemmas.Control
import SocksProxy.Theorems.ManagementLines

/-!
# What a management connection executes

The bytes that a management connection receives, and the commands that are executed of them. A connection is answered when a line
feed has come or when its buffer is full, so what is executed is the first line of the connection, unless no line feed is among the
bytes that fill the buffer: then it is a line cut short, and if what is left of it is a command, that command is executed.
-/

namespace SocksProxy

/-- The end of a line. -/
def lineFeed : Byte := 0x0A

/-- How many bytes of a connection fit into its buffer. -/
def managementLineMax : Nat := managementBufferSize - 1

/-- The bytes an event brings to a management connection: what `recv` gives to its read handler. -/
def Server.heard (s : Server) (e : Event) (mid : Nat) : List Byte :=
  match s.managementReads e with
  | none => []
  | some (mid', a) =>
    if mid' = mid then
      match s.managements mid with
      | none => []
      | some state =>
        match a.recv.limit (managementBufferSize - state.readBuffer.length - 1) with
        | .data bytes => bytes
        | _ => []
    else []

/-- The buffer for which an event has `management_prepare_response` called, if it has: a line feed has come, or the buffer is full. -/
def Server.prepares (s : Server) (e : Event) (mid : Nat) : Option (List Byte) :=
  match s.managements mid with
  | none => none
  | some state =>
    if s.heard e mid ≠ [] ∧ (lineFeed ∈ state.readBuffer ++ s.heard e mid ∨
        (state.readBuffer ++ s.heard e mid).length = managementLineMax) then
      some (state.readBuffer ++ s.heard e mid)
    else none

/-- The bytes that events bring to a management connection, one after another. -/
def Server.received (s : Server) (mid : Nat) : List Event → List Byte
  | [] => []
  | e :: es => s.heard e mid ++ (step s e).received mid es

/-- The bytes a management connection has received in a run. -/
def Config.received (c : Config) (mid : Nat) (es : List Event) : List Byte := c.start.received mid es

/-- Whatever command is executed for a management connection in a run has the effect of its whole first line, the end of which has
been received. -/
def Config.WholeLines (c : Config) (mid : Nat) (es : List Event) : Prop :=
  ∀ pre e post, es = pre ++ e :: post → ∀ buf, (run c.start pre).prepares e mid = some buf →
    Commanded (managementWords buf) → lineFeed ∈ c.received mid (pre ++ [e]) ∧
    ∀ users metrics, managementPrepareResponse users metrics buf =
      managementPrepareResponse users metrics ((c.received mid es).takeWhile (· != lineFeed))

/-! ## The accept loops hear nothing -/

/-- From one server to another, nothing was heard: the users are the same, and so are the lines and the answers of the connections
that were there. Those that came are empty. -/
structure Unspoken (s s' : Server) : Prop where
  users : s'.managedUsers = s.managedUsers
  input : ∀ mid state', s'.managements mid = some state' →
    (∃ state off, s.managements mid = some state ∧ state' = { state with writeOff := off }) ∨
    s.nextObject ≤ mid ∧ state'.readBuffer = [] ∧ state'.writeBuffer = []
  nextObject : s.nextObject ≤ s'.nextObject

section Unspoken

variable {s s' s'' : Server}

/-- The management connections and the users are the same. -/
theorem Unspoken.same (managements : s'.managements = s.managements) (users : s'.managedUsers = s.managedUsers)
    (nextObject : s.nextObject ≤ s'.nextObject) : Unspoken s s' :=
  ⟨users, fun _ state h => .inl ⟨state, _, managements ▸ h, rfl⟩, nextObject⟩

/-- One change after another. -/
theorem Unspoken.trans (h : Unspoken s s') (h' : Unspoken s' s'') : Unspoken s s'' := by
  refine ⟨h'.users.trans h.users, fun mid state'' hm => ?_, Nat.le_trans h.nextObject h'.nextObject⟩
  rcases h'.input mid state'' hm with ⟨state', off', hm', rfl⟩ | ⟨hle, he⟩
  · rcases h.input mid state' hm' with ⟨state, off, hm0, rfl⟩ | ⟨hle, he⟩
    · exact .inl ⟨state, off', hm0, rfl⟩
    · exact .inr ⟨hle, he⟩
  · exact .inr ⟨Nat.le_trans h.nextObject hle, he⟩

/-- A management connection came. -/
theorem Unspoken.came {fd : Int} (h : Managed s.nextObject fd s s') (users : s'.managedUsers = s.managedUsers)
    (hm : s'.managements s.nextObject = some { readBuffer := [], writeBuffer := [], writeOff := 0 }) : Unspoken s s' := by
  refine ⟨users, fun mid state' hst => ?_, h.nextObject⟩
  by_cases he : mid = s.nextObject
  · subst he
    rw [hm] at hst
    cases hst
    exact .inr ⟨Nat.le_refl _, rfl, rfl⟩
  · exact .inl ⟨state', _, (h.managements mid he).symm.trans hst, rfl⟩

/-- The turns of an accept loop hear nothing. -/
theorem turns_unspoken (s0 : Server) : Turns fun s => Own s ∧ Unspoken s0 s where
  own := fun h => h.1
  fail := fun h _ => ⟨{ h.1 with }, { h.2 with }⟩
  blink := fun h hf => ⟨own_blink h.1 hf, { h.2 with }⟩
  skip := fun h => ⟨own_skip h.1, h.2.trans (.same rfl rfl (Nat.le_succ _))⟩

/-- The accept loop of the sessions hears nothing. -/
theorem acceptConnection_unspoken (own : Own s) (accepts : List AcceptResult) : Unspoken s (acceptConnection s accepts) := by
  obtain ⟨s1, e, h1, heq⟩ := acceptConnection_turns (turns_unspoken s)
    (fun h hv hf => ⟨own_enroll h.1 hv hf, h.2.trans (.same rfl rfl (Nat.le_succ _))⟩)
    ⟨own, .same rfl rfl (Nat.le_refl _)⟩ accepts
  rw [heq]
  exact { h1.2 with }

/-- The accept loop of the management connections hears nothing. -/
theorem acceptManagementConnection_unspoken (own : Own s) (accepts : List AcceptResult) :
    Unspoken s (acceptManagementConnection s accepts) := by
  obtain ⟨s1, e, h1, heq⟩ := acceptManagementConnection_turns (turns_unspoken s)
    (fun h hm hu hnew => ⟨hm.own h.1, h.2.trans (.came hm hu hnew)⟩) ⟨own, .same rfl rfl (Nat.le_refl _)⟩ accepts
  rw [heq]
  exact { h1.2 with }

end Unspoken

/-! ## What an event does to the lines -/

/-- An event brings bytes to the management connection `mid`, whose record is `state`: they fit, no other connection notices, and
either they are kept for later or a response is prepared, with the effect of the buffer on the users. -/
structure Server.Hears (s : Server) (e : Event) (mid : Nat) (state : ManagementState) : Prop where
  record : s.managements mid = some state
  fits : state.readBuffer.length + (s.heard e mid).length ≤ managementLineMax
  others : ∀ mid', mid' ≠ mid → s.heard e mid' = [] ∧ (step s e).managements mid' = s.managements mid'
  waits : s.prepares e mid = none → (step s e).managedUsers = s.managedUsers ∧
    (step s e).managements mid = some { state with readBuffer := state.readBuffer ++ s.heard e mid }
  prepared : ∀ buf, s.prepares e mid = some buf →
    (step s e).managedUsers = (managementPrepareResponse s.managedUsers s.metrics buf).1 ∧
    (step s e).managements mid = some
      { readBuffer := buf, writeBuffer := managementReply s.managedUsers s.metrics buf, writeOff := 0 }

section Steps

variable {s : Server} {e : Event}

/-- No response is prepared for a connection that hears nothing. -/
theorem Server.prepares_of_silent {mid : Nat} (h : s.heard e mid = []) : s.prepares e mid = none := by
  unfold Server.prepares
  rw [h]
  cases s.managements mid with
  | none => rfl
  | some state => exact if_neg (fun hc => hc.1 rfl)

/-- `management_read`, once `recv` has given it bytes. -/
theorem managementRead_data {mid : Nat} {fd : Int} {item : Item FdHandler Nat} (h : ManagementSlot s mid fd item) {a : Answers}
    {state : ManagementState} {bytes : List Byte} (hst : s.managements mid = some state)
    (hd : a.recv.limit (managementBufferSize - state.readBuffer.length - 1) = .data bytes) :
    ((lineFeed ∈ state.readBuffer ++ bytes ∨ (state.readBuffer ++ bytes).length = managementLineMax) →
      (managementRead s { fd := item.fd, data := item.data } a).managedUsers =
        (managementPrepareResponse s.managedUsers s.metrics (state.readBuffer ++ bytes)).1 ∧
      (managementRead s { fd := item.fd, data := item.data } a).managements mid = some
        { readBuffer := state.readBuffer ++ bytes, writeOff := 0
          writeBuffer := managementReply s.managedUsers s.metrics (state.readBuffer ++ bytes) }) ∧
    (¬(lineFeed ∈ state.readBuffer ++ bytes ∨ (state.readBuffer ++ bytes).length = managementLineMax) →
      (managementRead s { fd := item.fd, data := item.data } a).managedUsers = s.managedUsers ∧
      (managementRead s { fd := item.fd, data := item.data } a).managements mid = some
        { state with readBuffer := state.readBuffer ++ bytes }) := by
  have hiff : ((state.readBuffer ++ bytes).contains 0x0A = true ∨
      (state.readBuffer ++ bytes).length = managementBufferSize - 1) ↔
      (lineFeed ∈ state.readBuffer ++ bytes ∨ (state.readBuffer ++ bytes).length = managementLineMax) := by
    rw [List.contains_iff_mem]
    rfl
  unfold managementRead
  rw [h.data]
  dsimp only
  rw [hst]
  dsimp only
  rw [hd]
  dsimp only
  constructor
  · intro hc
    rw [if_pos (hiff.mpr hc)]
    exact ⟨rfl, Function.update_self ..⟩
  · intro hc
    rw [if_neg (fun h => hc (hiff.mp h))]
    exact ⟨rfl, Function.update_self ..⟩

/-- `management_read`, when `recv` has nothing to give. -/
theorem managementRead_unheard (own : Own s) {mid : Nat} {fd : Int} {item : Item FdHandler Nat}
    (h : ManagementSlot s mid fd item) {a : Answers} {state : ManagementState} (hst : s.managements mid = some state)
    (hd : ∀ bytes, a.recv.limit (managementBufferSize - state.readBuffer.length - 1) ≠ .data bytes) :
    Unheard s (managementRead s { fd := item.fd, data := item.data } a) := by
  unfold managementRead
  rw [h.data, h.fd_eq]
  dsimp only
  rw [hst]
  dsimp only
  split
  · exact absurd ‹_› (hd _)
  · exact .unregister_management own h
  · rename_i e _
    have herr : Unheard s (s.setErrno e) := .same rfl rfl (fun _ => rfl) rfl
    split
    · exact herr
    · exact herr.trans (.unregister_management ((setErrno_managed own h e).own own) (h.congr rfl rfl h.state))

/-- What an event does to the lines: it brings bytes to one connection, or nothing is heard. -/
theorem step_hears (h : Inv s) (e : Event) :
    (∃ mid state, s.Hears e mid state) ∨ (∀ mid, s.heard e mid = []) ∧ Unspoken s (step s e) := by
  have hquiet : Unheard s (step s e) → Unspoken s (step s e) := fun hu =>
    ⟨hu.users, fun mid state' hm => .inl (hu.input mid state' hm), (step_jobs h e).1⟩
  cases hm : s.managementReads e with
  | none =>
    refine .inr ⟨fun mid => by simp only [Server.heard, hm], ?_⟩
    by_cases hacc : e.Accepts s
    · obtain ⟨fd, a, item, rfl, hp, hi, hl⟩ := hacc
      simp only [step, hi]
      split
      · rcases hl with hl | hl
        · rw [hl]
          exact acceptConnection_unspoken h.own a.accepts
        · rw [hl]
          exact acceptManagementConnection_unspoken h.own a.accepts
      · exact .same rfl rfl (Nat.le_refl _)
    · exact hquiet (step_unheard h e hacc hm)
  | some r =>
    obtain ⟨mid, a⟩ := r
    obtain ⟨fd, item, hslot, heq⟩ := Server.managementReads_some h hm
    obtain ⟨state, hst⟩ := hslot.state
    have hother : ∀ mid', mid' ≠ mid → s.heard e mid' = [] := by
      intro mid' hne
      simp only [Server.heard, hm]
      exact if_neg hne.symm
    by_cases hd : ∃ bytes, a.recv.limit (managementBufferSize - state.readBuffer.length - 1) = .data bytes
    · obtain ⟨bytes, hd⟩ := hd
      have hheard : s.heard e mid = bytes := by simp only [Server.heard, hm, if_true, hst, hd]
      obtain ⟨hne, hlen⟩ := limit_data hd
      obtain ⟨hdone, hmore⟩ := managementRead_data hslot hst hd
      refine .inl ⟨mid, state, hst, ?_, fun mid' hmid => ⟨hother mid' hmid, ?_⟩, fun hx => ?_, fun buf hx => ?_⟩
      · have hpos := List.length_pos_iff.mpr hne
        rw [hheard]
        unfold managementLineMax
        omega
      · rw [heq]
        exact (managementRead_managed h.own hslot a).managements mid' hmid
      · rw [heq, hheard]
        refine hmore fun hc => ?_
        simp only [Server.prepares, hst, hheard] at hx
        rw [if_pos ⟨hne, hc⟩] at hx
        cases hx
      · simp only [Server.prepares, hst, hheard] at hx
        split at hx
        · rename_i hc
          cases hx
          rw [heq]
          exact hdone hc.2
        · cases hx
    · have hno : ∀ bytes, a.recv.limit (managementBufferSize - state.readBuffer.length - 1) ≠ .data bytes :=
        fun bytes hb => hd ⟨bytes, hb⟩
      refine .inr ⟨fun mid' => ?_, hquiet ?_⟩
      · by_cases he : mid' = mid
        · subst he
          simp only [Server.heard, hm, if_true, hst]
        · exact hother mid' he
      · rw [heq]
        exact managementRead_unheard h.own hslot hst hno

end Steps

/-! ## What a run brings to the lines -/

/-- What is received one run after another. -/
theorem Server.received_append (s : Server) (mid : Nat) (es es' : List Event) :
    s.received mid (es ++ es') = s.received mid es ++ (run s es).received mid es' := by
  induction es generalizing s with
  | nil => rfl
  | cons e es ih =>
    rw [List.cons_append, Server.received, ih, Server.received, List.append_assoc]
    rfl

section Runs

variable (c : Config) {mid : Nat}

/-- What is received in a run one event longer. -/
theorem Config.received_append (es : List Event) (e : Event) :
    c.received mid (es ++ [e]) = c.received mid es ++ (run c.start es).heard e mid := by
  unfold Config.received
  rw [Server.received_append]
  simp only [Server.received, List.append_nil]

/-- The buffer of a management connection is all it has received; what was not yet accepted has received nothing; and what was
received fits into a buffer. -/
theorem run_received (es : List Event) :
    (∀ state, (run c.start es).managements mid = some state → state.readBuffer = c.received mid es) ∧
    ((run c.start es).nextObject ≤ mid → c.received mid es = []) ∧
    (c.received mid es).length ≤ managementLineMax := by
  induction es using List.reverseRecOn with
  | nil =>
    refine ⟨fun state hst => ?_, fun _ => rfl, Nat.zero_le _⟩
    cases hst
  | append_singleton es e ih =>
    obtain ⟨hbuf, hnew, hmax⟩ := ih
    have h := run_inv c es
    rw [run_append, c.received_append]
    rcases step_hears h e with ⟨mid0, state0, hh⟩ | ⟨hsilent, hu⟩
    · by_cases he : mid = mid0
      · subst he
        have hlt : mid < (run c.start es).nextObject := by
          by_contra hge
          have := (h.own.fresh mid (Nat.le_of_not_lt hge)).2
          rw [hh.record] at this
          cases this
        rw [← hbuf state0 hh.record, List.length_append]
        refine ⟨fun state hst => ?_, fun hge => ?_, hh.fits⟩
        · cases hx : (run c.start es).prepares e mid with
          | none =>
            rw [(hh.waits hx).2] at hst
            cases hst
            rfl
          | some buf =>
            rw [(hh.prepared buf hx).2] at hst
            cases hst
            simp only [Server.prepares, hh.record] at hx
            split at hx
            · cases hx
              rfl
            · cases hx
        · have := (step_jobs h e).1
          omega
      · obtain ⟨hno, hsame⟩ := hh.others mid he
        rw [hno, List.append_nil, hsame]
        exact ⟨hbuf, fun hge => hnew (Nat.le_trans (step_jobs h e).1 hge), hmax⟩
    · rw [hsilent, List.append_nil]
      refine ⟨fun state' hst => ?_, fun hge => hnew (Nat.le_trans hu.nextObject hge), hmax⟩
      rcases hu.input mid state' hst with ⟨state, off, hst0, rfl⟩ | ⟨hge, hempty, _⟩
      · exact hbuf state hst0
      · rw [hnew hge, hempty]

/-- A response is prepared for all that the connection has received, and that contains a line feed or fills the buffer. -/
theorem run_prepares (es : List Event) {e : Event} {buf : List Byte} (hx : (run c.start es).prepares e mid = some buf) :
    buf = c.received mid (es ++ [e]) ∧ (lineFeed ∈ buf ∨ buf.length = managementLineMax) := by
  unfold Server.prepares at hx
  cases hst : (run c.start es).managements mid with
  | none =>
    rw [hst] at hx
    cases hx
  | some state =>
    rw [hst] at hx
    dsimp only at hx
    split at hx
    · rename_i hc
      cases hx
      rw [c.received_append, (run_received c es).1 state hst] at *
      exact ⟨rfl, hc.2⟩
    · cases hx

/-- A response was prepared for what fills the buffer of a connection. -/
theorem exists_full (es : List Event) (hfull : (c.received mid es).length = managementLineMax) :
    ∃ pre e post, es = pre ++ e :: post ∧ (run c.start pre).prepares e mid = some (c.received mid es) := by
  induction es using List.reverseRecOn with
  | nil => cases hfull
  | append_singleton es e ih =>
    rw [c.received_append] at hfull ⊢
    by_cases hno : (run c.start es).heard e mid = []
    · rw [hno, List.append_nil] at hfull ⊢
      obtain ⟨pre, e', post, rfl, hx⟩ := ih hfull
      exact ⟨pre, e', post ++ [e], by simp, hx⟩
    · refine ⟨es, e, [], rfl, ?_⟩
      rcases step_hears (run_inv c es) e with ⟨mid0, state0, hh⟩ | ⟨hsilent, _⟩
      · by_cases he : mid = mid0
        · subst he
          have hbuf := (run_received c es).1 state0 hh.record
          simp only [Server.prepares, hh.record]
          rw [← hbuf] at hfull ⊢
          exact if_pos ⟨hno, .inr hfull⟩
        · exact absurd (hh.others mid he).1 hno
      · exact absurd (hsilent mid) hno

/-- What is executed of a buffer is what precedes its first line feed. -/
theorem managementPrepareResponse_line {buf stream : List Byte} (hp : buf <+: stream) (hl : lineFeed ∈ buf)
    (users : ManagedUsers) (metrics : ServerMetrics) :
    managementPrepareResponse users metrics buf =
      managementPrepareResponse users metrics (stream.takeWhile (· != lineFeed)) := by
  obtain ⟨rest, rfl⟩ := hp
  have hline : buf.takeWhile (fun b => b != 0x0D && b != 0x0A) =
      ((buf ++ rest).takeWhile (· != lineFeed)).takeWhile (fun b => b != 0x0D && b != 0x0A) := by
    have hstop : (buf.takeWhile fun b => b != 0x0D && b != 0x0A).length ≠ buf.length := by
      intro he
      have hall := (List.takeWhile_prefix _).eq_of_length he
      rw [List.takeWhile_eq_self_iff] at hall
      exact absurd (hall lineFeed hl) (by decide)
    have hsame : (fun b : Byte => decide ((b != 0x0D && b != 0x0A) = true ∧ (b != lineFeed) = true)) =
        fun b => b != 0x0D && b != 0x0A := by
      funext b
      rw [Bool.eq_iff_iff, decide_eq_true_iff, and_iff_left_iff_imp, Bool.and_eq_true]
      exact fun hb => hb.2
    rw [List.takeWhile_takeWhile, hsame, List.takeWhile_append, if_neg hstop]
  unfold managementPrepareResponse
  rw [hline]

/-- The commands executed for a management connection in a run are whole lines if and only if a line feed is among the first bytes
of it that fill the buffer, or the buffer was not filled, or what fills it is no command. -/
theorem wholeLines_iff (es : List Event) :
    c.WholeLines mid es ↔ (c.received mid es).length < managementLineMax ∨
      lineFeed ∈ (c.received mid es).take managementLineMax ∨
      ¬Commanded (managementWords ((c.received mid es).take managementLineMax)) := by
  have hmax : (c.received mid es).length ≤ _ := (run_received c es).2.2
  rw [List.take_of_length_le hmax]
  constructor
  · intro hw
    by_cases hlt : (c.received mid es).length < managementLineMax
    · exact .inl hlt
    · obtain ⟨pre, e, post, rfl, hx⟩ := exists_full c es (Nat.le_antisymm hmax (Nat.le_of_not_lt hlt))
      refine .inr (or_iff_not_imp_right.mpr fun hc => ?_)
      have hbuf := (run_prepares c pre hx).1
      rw [hbuf]
      exact (hw pre e post rfl _ hx (not_not.mp hc)).1
  · rintro hc pre e post rfl buf hx hcommand
    obtain ⟨hbuf, hdone⟩ := run_prepares c pre hx
    have hp : buf <+: c.received mid (pre ++ e :: post) := by
      have happ : c.received mid (pre ++ [e] ++ post) = _ := Server.received_append c.start mid (pre ++ [e]) post
      rw [hbuf, show pre ++ e :: post = pre ++ [e] ++ post from List.append_cons .., happ]
      exact List.prefix_append _ _
    have hl : lineFeed ∈ buf := by
      rcases hdone with hl | hlen
      · exact hl
      · -- the buffer is full, so it is all there is
        have heq := hp.eq_of_length_le (by omega)
        rw [← heq] at hc
        exact (hc.resolve_left (by omega)).resolve_right (not_not.mpr hcommand)
    exact ⟨hbuf ▸ hl, managementPrepareResponse_line hp hl⟩

end Runs

/-- The commands of the management connections, for every run, every step after it and every connection. A step that prepares a
response has the effect of `management_prepare_response` on the buffer of its connection, and the answer of it, which is a refusal
and leaves the users alone unless the buffer is a command; a step that prepares none changes no user and no answer. The commands that
are executed for a connection are its first line, whole and ended by a line feed, if and only if there is a line feed among the first
1023 bytes that it receives, or it has not received so many, or they are no command. -/
theorem commands_of_lines (c : Config) (es : List Event) :
    (∀ e mid buf, (run c.start es).prepares e mid = some buf →
      (run c.start (es ++ [e])).managedUsers =
        (managementPrepareResponse (run c.start es).managedUsers (run c.start es).metrics buf).1 ∧
      ∃ state, (run c.start (es ++ [e])).managements mid = some state ∧
        state.writeBuffer = managementReply (run c.start es).managedUsers (run c.start es).metrics buf ∧
        (Commanded (managementWords buf) → state.writeBuffer ∉ refusals) ∧
        (¬Commanded (managementWords buf) → state.writeBuffer ∈ refusals ∧
          (run c.start (es ++ [e])).managedUsers = (run c.start es).managedUsers)) ∧
    (∀ e, (∀ mid, (run c.start es).prepares e mid = none) →
      (run c.start (es ++ [e])).managedUsers = (run c.start es).managedUsers ∧
      ∀ mid state, (run c.start (es ++ [e])).managements mid = some state →
        state.writeBuffer = ((run c.start es).managements mid).elim [] (·.writeBuffer)) ∧
    ∀ mid, c.WholeLines mid es ↔ (c.received mid es).length < managementLineMax ∨
      lineFeed ∈ (c.received mid es).take managementLineMax ∨
      ¬Commanded (managementWords ((c.received mid es).take managementLineMax)) := by
  have h := run_inv c es
  refine ⟨fun e mid buf hx => ?_, fun e hx => ?_, fun mid => wholeLines_iff c es⟩
  · rw [run_append]
    rcases step_hears h e with ⟨mid0, state0, hh⟩ | ⟨hsilent, _⟩
    · by_cases he : mid = mid0
      · subst he
        obtain ⟨husers, hrecord⟩ := hh.prepared buf hx
        refine ⟨husers, _, hrecord, rfl, managementReply_commanded _ _, fun hno => ?_⟩
        obtain ⟨hsame, hm⟩ := managementReply_refused _ _ hno
        exact ⟨hm, husers.trans hsame⟩
      · rw [Server.prepares_of_silent (hh.others mid he).1] at hx
        cases hx
    · rw [Server.prepares_of_silent (hsilent mid)] at hx
      cases hx
  · rw [run_append]
    rcases step_hears h e with ⟨mid0, state0, hh⟩ | ⟨_, hu⟩
    · obtain ⟨husers, hrecord⟩ := hh.waits (hx mid0)
      refine ⟨husers, fun mid state hst => ?_⟩
      by_cases he : mid = mid0
      · subst he
        rw [hrecord] at hst
        cases hst
        rw [hh.record]
        rfl
      · rw [(hh.others mid he).2] at hst
        rw [hst]
        rfl
    · refine ⟨hu.users, fun mid state' hst => ?_⟩
      rcases hu.input mid state' hst with ⟨state, off, hst0, rfl⟩ | ⟨hge, _, hempty⟩
      · rw [hst0]
        rfl
      · rw [hempty, (h.own.fresh mid hge).2]
        rfl

/-- A line that adds a user with a long password, as much of it as fills the buffer: the rest of the password and the line feed are
still on their way. -/
def cutLine : List Byte := ascii "ADDUSER a " ++ List.replicate 1009 0x20 ++ ascii "pass"

/-- A management connection is accepted, and receives the line that is cut. -/
def cutRun : List Event :=
  [.read 4 { accepts := [.accepted 5 .ok true] }, .read 5 { recv := .data cutLine }]

/-- A user is added with the password that was cut, though no line feed was received. -/
theorem cutRun_commands :
    lineFeed ∉ (Config.first .zeroed).received 0 cutRun ∧
    usersCredentialsAreValid (run (Config.first .zeroed).start cutRun).managedUsers (ascii "a") (ascii "pass") = true ∧
    ¬∀ (c : Config) (es : List Event) (mid : Nat), c.WholeLines mid es := by
  have hno : lineFeed ∉ (Config.first .zeroed).received 0 cutRun := by decide +kernel
  refine ⟨hno, by decide +kernel, fun hall => ?_⟩
  have hx : (run (Config.first .zeroed).start (cutRun.take 1)).prepares (.read 5 { recv := .data cutLine }) 0 = some cutLine := by
    decide +kernel
  exact hno (hall _ cutRun 0 (cutRun.take 1) _ [] rfl cutLine hx (by decide +kernel)).1

end SocksProxy
