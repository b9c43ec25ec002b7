import SocksProxy.Theorems.ClientCommand
import SocksProxy.Theorems.UsersHistory

/-!
# The client and the server

The two ends of a management connection together. The client opens one socket after another until one is connected, sends its line,
prints what comes back, and closes the socket before it returns. Whatever it prints is a beginning of the one answer to the command
it was given, and a user it was told to have been added can log in until some line takes the name away.
-/

namespace SocksProxy

/-! ## The socket of the client -/

/-- The bytes an act sends. -/
def ClientAct.sentBytes : ClientAct → List Byte
  | sent _ bytes => bytes
  | _ => []

/-- The bytes an act prints. -/
def ClientAct.printedBytes : ClientAct → List Byte
  | printed bytes => bytes
  | _ => []

/-- What the client sends. -/
def clientSent (acts : List ClientAct) : List Byte := acts.flatMap ClientAct.sentBytes

/-- What the client prints. -/
def clientPrinted (acts : List ClientAct) : List Byte := acts.flatMap ClientAct.printedBytes

/-- The socket of the client: there is none, or how far it has got. -/
inductive ClientSocket where
  | absent
  | fresh (fd : Nat)
  | connected (fd : Nat)
  | ended (fd : Nat)

/-- The client has read the end of the stream. -/
def ReadToEnd (acts : List ClientAct) : Prop := ∃ fd, .ended fd ∈ acts

/-- What an act makes of the socket, where the socket allows the act. -/
def ClientSocket.after : ClientSocket → ClientAct → Option ClientSocket
  | absent, .opened fd => some (fresh fd)
  | fresh fd, .connected fd' => if fd' = fd then some (connected fd) else none
  | fresh fd, .closed fd' => if fd' = fd then some absent else none
  | connected fd, .sent fd' _ => if fd' = fd then some (connected fd) else none
  | connected fd, .printed _ => some (connected fd)
  | connected fd, .ended fd' => if fd' = fd then some (ended fd) else none
  | connected fd, .closed fd' => if fd' = fd then some absent else none
  | ended fd, .closed fd' => if fd' = fd then some absent else none
  | _, _ => none

/-- What acts make of the socket, one after another. -/
def ClientSocket.follow (socket : ClientSocket) (acts : List ClientAct) : Option ClientSocket := acts.foldlM after socket

namespace ClientSocket

@[simp] theorem after_connect (fd : Nat) : (fresh fd).after (.connected fd) = some (connected fd) := if_pos rfl

@[simp] theorem after_refused (fd : Nat) : (fresh fd).after (.closed fd) = some absent := if_pos rfl

@[simp] theorem after_send (fd : Nat) (bytes : List Byte) : (connected fd).after (.sent fd bytes) = some (connected fd) :=
  if_pos rfl

@[simp] theorem after_end (fd : Nat) : (connected fd).after (.ended fd) = some (ended fd) := if_pos rfl

@[simp] theorem after_broken (fd : Nat) : (connected fd).after (.closed fd) = some absent := if_pos rfl

@[simp] theorem after_close (fd : Nat) : (ended fd).after (.closed fd) = some absent := if_pos rfl

/-- Acts after others. -/
theorem follow_append {s s' : ClientSocket} {acts : List ClientAct} (h : s.follow acts = some s') (acts' : List ClientAct) :
    s.follow (acts ++ acts') = s'.follow acts' := by
  unfold follow at h ⊢
  rw [List.foldlM_append, h]
  rfl

/-- One act, then others. -/
theorem follow_cons {s s' : ClientSocket} {act : ClientAct} (h : s.after act = some s') (acts : List ClientAct) :
    s.follow (act :: acts) = s'.follow acts := by
  unfold follow
  rw [List.foldlM_cons, h]
  rfl

end ClientSocket

/-- The chunks of a line are sent on a connected socket. -/
theorem follow_chunks (fd : Nat) (chunks : List (List Byte)) :
    (ClientSocket.connected fd).follow (chunks.map (.sent fd)) = some (.connected fd) := by
  induction chunks with
  | nil => rfl
  | cons chunk chunks ih =>
    rw [List.map_cons, ClientSocket.follow_cons (ClientSocket.after_send fd chunk)]
    exact ih

/-- The answer is read from a connected socket, to its end if `print_response` says so. -/
theorem follow_printLoop (fd : Nat) (recvs : List RecvResult) :
    (ClientSocket.connected fd).follow (printLoop fd recvs).1 =
      some (if (printLoop fd recvs).2 = some true then .ended fd else .connected fd) := by
  induction recvs with
  | nil => rfl
  | cons answer recvs ih =>
    rw [printLoop]
    cases answer.limit clientBufferSize with
    | data received =>
      dsimp only
      rw [ClientSocket.follow_cons (show (ClientSocket.connected fd).after (.printed received) = some (.connected fd) from rfl)]
      exact ih
    | eof => exact ClientSocket.follow_cons (ClientSocket.after_end fd) []
    | error e =>
      dsimp only
      split
      · exact ih
      · rfl

/-- The addresses are tried one after another, and the socket of each that is refused is closed. -/
theorem follow_connectLoop (attempts : List ConnectAttempt) :
    ClientSocket.absent.follow (connectLoop attempts).1 =
      some (match (connectLoop attempts).2 with | none => .absent | some fd => .connected fd) := by
  induction attempts with
  | nil => rfl
  | cons attempt attempts ih =>
    obtain ⟨socket, connect⟩ := attempt
    have hopen : ∀ fd, ClientSocket.absent.after (.opened fd) = some (.fresh fd) := fun fd => rfl
    cases socket with
    | error e => exact ih
    | ok fd =>
      cases connect with
      | ok =>
        rw [connectLoop, ClientSocket.follow_cons (hopen fd), ClientSocket.follow_cons (ClientSocket.after_connect fd)]
        rfl
      | error e =>
        rw [connectLoop, ClientSocket.follow_cons (hopen fd), ClientSocket.follow_cons (ClientSocket.after_refused fd)]
        exact ih

/-- The exchange of the client, on its connected socket. -/
theorem follow_clientExchange (fd : Nat) (command : CString) (sends : List SendResult) (recvs : List RecvResult) :
    (ClientSocket.connected fd).follow (clientExchange fd command sends recvs).1 =
      some (if (clientExchange fd command sends recvs).2 = some true then .ended fd else .connected fd) := by
  unfold clientExchange
  split
  · rfl
  · rename_i chunks _
    rw [ClientSocket.follow_append (follow_chunks fd chunks)]
    exact follow_printLoop fd recvs
  · rename_i chunks ret hret _
    rw [follow_chunks, if_neg hret]

/-! ## What is sent and printed -/

section Exchange

variable {acts acts' : List ClientAct}

theorem clientSent_append : clientSent (acts ++ acts') = clientSent acts ++ clientSent acts' := List.flatMap_append

theorem clientPrinted_append : clientPrinted (acts ++ acts') = clientPrinted acts ++ clientPrinted acts' :=
  List.flatMap_append

theorem not_readToEnd_nil : ¬ReadToEnd [] := by
  rintro ⟨fd, h⟩
  cases h

theorem readToEnd_append : ReadToEnd (acts ++ acts') ↔ ReadToEnd acts ∨ ReadToEnd acts' := by
  unfold ReadToEnd
  simp only [List.mem_append, exists_or]

/-- Nothing is sent, printed or read to its end. -/
structure Wordless (acts : List ClientAct) : Prop where
  sent : clientSent acts = []
  printed : clientPrinted acts = []
  unread : ¬ReadToEnd acts

/-- The search for an address is quiet. -/
theorem connectLoop_wordless (attempts : List ConnectAttempt) : Wordless (connectLoop attempts).1 := by
  induction attempts with
  | nil => exact ⟨rfl, rfl, not_readToEnd_nil⟩
  | cons attempt attempts ih =>
    obtain ⟨socket, connect⟩ := attempt
    cases socket with
    | error e => exact ih
    | ok fd =>
      cases connect with
      | ok => exact ⟨rfl, rfl, by simp [ReadToEnd, connectLoop]⟩
      | error e =>
        refine ⟨ih.sent, ih.printed, fun h => ih.unread ?_⟩
        obtain ⟨fd', hfd⟩ := h
        simp only [connectLoop, List.mem_cons, reduceCtorEq, false_or] at hfd
        exact ⟨fd', hfd⟩

/-- The chunks of a line are all that is sent. -/
theorem sent_chunks (fd : Nat) (chunks : List (List Byte)) :
    clientSent (chunks.map (.sent fd)) = chunks.flatten ∧ clientPrinted (chunks.map (.sent fd)) = [] ∧
      ¬ReadToEnd (chunks.map (.sent fd)) := by
  refine ⟨?_, ?_, ?_⟩
  · rw [clientSent, List.flatMap_map]
    exact List.flatMap_id
  · rw [clientPrinted, List.flatMap_map]
    exact List.flatMap_eq_nil_iff.mpr fun _ _ => rfl
  · rintro ⟨fd', h⟩
    obtain ⟨chunk, _, h⟩ := List.mem_map.mp h
    cases h

/-- The answer is read to its end if and only if `print_response` says so, and nothing is sent then. -/
theorem printLoop_spec (fd : Nat) (recvs : List RecvResult) :
    clientSent (printLoop fd recvs).1 = [] ∧ (ReadToEnd (printLoop fd recvs).1 ↔ (printLoop fd recvs).2 = some true) := by
  induction recvs with
  | nil => exact ⟨rfl, iff_of_false not_readToEnd_nil (by rw [printLoop]; decide)⟩
  | cons answer recvs ih =>
    rw [printLoop]
    cases answer.limit clientBufferSize with
    | data received =>
      refine ⟨ih.1, ?_⟩
      dsimp only
      rw [← ih.2]
      unfold ReadToEnd
      simp only [List.mem_cons, reduceCtorEq, false_or]
    | eof => exact ⟨rfl, iff_of_true ⟨fd, List.mem_singleton_self _⟩ rfl⟩
    | error e =>
      dsimp only
      split
      · exact ih
      · exact ⟨rfl, iff_of_false not_readToEnd_nil (by decide)⟩

/-- The exchange of the client: a beginning of its line is sent, if the line fits; all of it, before anything is printed and before
the end of the stream is read; and the exchange succeeds if and only if that was read. -/
theorem clientExchange_spec (fd : Nat) (command : CString) (sends : List SendResult) (recvs : List RecvResult) :
    (Wordless (clientExchange fd command sends recvs).1 ∨ (command.bytes ++ [lineFeed]).length < clientBufferSize) ∧
    clientSent (clientExchange fd command sends recvs).1 <+: command.bytes ++ [lineFeed] ∧
    (clientPrinted (clientExchange fd command sends recvs).1 ≠ [] ∨ ReadToEnd (clientExchange fd command sends recvs).1 →
      clientSent (clientExchange fd command sends recvs).1 = command.bytes ++ [lineFeed]) ∧
    (ReadToEnd (clientExchange fd command sends recvs).1 ↔ (clientExchange fd command sends recvs).2 = some true) := by
  have hs := sendCommand_eq command sends
  obtain ⟨hp, hall⟩ := sendCommandLoop_spec (command.bytes ++ [lineFeed]) sends
  unfold clientExchange
  split
  · exact ⟨.inl ⟨rfl, rfl, not_readToEnd_nil⟩, List.nil_prefix, fun h => (h.elim (absurd rfl) not_readToEnd_nil).elim,
      iff_of_false not_readToEnd_nil (by decide)⟩
  · rename_i chunks hc
    rw [hc] at hs
    split at hs
    · rename_i hfit
      rw [← Option.some.inj hs] at hp hall
      obtain ⟨h1, h2, h3⟩ := sent_chunks fd chunks
      obtain ⟨h4, h5⟩ := printLoop_spec fd recvs
      dsimp only
      rw [clientSent_append, readToEnd_append, h1, h4, List.append_nil]
      exact ⟨.inr hfit, hp, fun _ => hall rfl, by rw [← h5, or_iff_right h3]⟩
    · cases hs
  · rename_i chunks ret hret hc
    rw [hc] at hs
    split at hs
    · rename_i hfit
      rw [← Option.some.inj hs] at hp hall
      obtain ⟨h1, h2, h3⟩ := sent_chunks fd chunks
      dsimp only
      rw [h1, h2]
      exact ⟨.inr hfit, hp, fun h => (h.elim (absurd rfl) h3).elim, iff_of_false h3 hret⟩
    · cases hs

end Exchange

/-! ## What `main` does -/

/-- The operands of a command line. -/
def clientOperands (argv : List CString) : List CString := (clientGetopt none argv).2

/-- The client is asked for its usage before anything is wrong with the options. -/
def AsksHelp (argv : List CString) : Prop :=
  clientOptions (literal "127.0.0.1") (literal "8080") (clientGetopt none argv).1 = .error 0

/-- What the client does: it stops before it opens a socket; or no address accepts a connection; or it sends its command to one
that does, prints what comes back, and closes the socket unless it blocks. -/
theorem clientMain_cases (argv : List CString) (a : ClientAnswers) :
    (∃ code, clientMain argv a = ([], some code) ∧ (code = 0 ↔ AsksHelp argv)) ∨
    ¬AsksHelp argv ∧ ∃ command attempts, buildCommand (clientOperands argv) clientBufferSize = some command ∧
      ((connectLoop attempts).2 = none ∧ clientMain argv a = ((connectLoop attempts).1, some 1) ∨
        ∃ fd, (connectLoop attempts).2 = some fd ∧
          clientMain argv a = ((connectLoop attempts).1 ++ (clientExchange fd command a.sends a.recvs).1 ++
              (if (clientExchange fd command a.sends a.recvs).2 = none then [] else [.closed fd]),
            (clientExchange fd command a.sends a.recvs).2.map fun ok => if ok then 0 else 1)) := by
  unfold clientMain AsksHelp
  dsimp only
  cases hopts : clientOptions (literal "127.0.0.1") (literal "8080") (clientGetopt none argv).1 with
  | error code => exact .inl ⟨code, rfl, by rw [Except.error.injEq]⟩
  | ok address =>
    obtain ⟨host, port⟩ := address
    dsimp only
    cases hb : buildCommand (clientGetopt none argv).2 clientBufferSize with
    | none => exact .inl ⟨1, rfl, fun h => absurd h (by decide), fun h => by cases h⟩
    | some command =>
      refine .inr ⟨(by intro h; cases h), command, (a.getaddrinfo host port).getD [], hb, ?_⟩
      have hconnect : connectToManagement (a.getaddrinfo host port) = connectLoop ((a.getaddrinfo host port).getD []) := by
        cases a.getaddrinfo host port <;> rfl
      dsimp only
      rw [hconnect]
      generalize connectLoop ((a.getaddrinfo host port).getD []) = r
      obtain ⟨acts, ret⟩ := r
      cases ret with
      | none => exact .inl ⟨rfl, rfl⟩
      | some fd =>
        refine .inr ⟨fd, rfl, ?_⟩
        dsimp only
        cases (clientExchange fd command a.sends a.recvs).2 with
        | none => simp
        | some ok => simp

/-- What the client sends, prints and reads, and what it returns: nothing, and zero only for its usage; or what its exchange does. -/
theorem clientMain_exchange (argv : List CString) (a : ClientAnswers) :
    (Wordless (clientMain argv a).1 ∧ (AsksHelp argv → (clientMain argv a).1 = []) ∧
      ((clientMain argv a).2 = some 0 ↔ AsksHelp argv)) ∨
    ¬AsksHelp argv ∧ ∃ command fd, buildCommand (clientOperands argv) clientBufferSize = some command ∧
      clientSent (clientMain argv a).1 = clientSent (clientExchange fd command a.sends a.recvs).1 ∧
      clientPrinted (clientMain argv a).1 = clientPrinted (clientExchange fd command a.sends a.recvs).1 ∧
      (ReadToEnd (clientMain argv a).1 ↔ ReadToEnd (clientExchange fd command a.sends a.recvs).1) ∧
      ((clientMain argv a).2 = some 0 ↔ (clientExchange fd command a.sends a.recvs).2 = some true) := by
  obtain ⟨code, heq, hcode⟩ | ⟨hhelp, command, attempts, hb, ⟨_, heq⟩ | ⟨fd, _, heq⟩⟩ := clientMain_cases argv a
  · rw [heq]
    exact .inl ⟨⟨rfl, rfl, not_readToEnd_nil⟩, fun _ => rfl, Option.some_inj.trans hcode⟩
  · rw [heq]
    exact .inl ⟨connectLoop_wordless attempts, fun h => absurd h hhelp,
      iff_of_false (fun h => absurd (Option.some.inj h) (by decide)) hhelp⟩
  · have hw := connectLoop_wordless attempts
    refine .inr ⟨hhelp, command, fd, hb, ?_⟩
    rw [heq]
    generalize clientExchange fd command a.sends a.recvs = r
    obtain ⟨acts, ret⟩ := r
    have hlast : Wordless (if ret = none then [] else [.closed fd]) := by
      split
      · exact ⟨rfl, rfl, not_readToEnd_nil⟩
      · exact ⟨rfl, rfl, by simp [ReadToEnd]⟩
    dsimp only
    simp only [clientSent_append, clientPrinted_append, readToEnd_append, hw.sent, hw.printed, hw.unread, hlast.sent,
      hlast.printed, hlast.unread, List.nil_append, List.append_nil, false_or, or_false, true_and]
    cases ret with
    | none => decide
    | some ok => cases ok <;> decide

/-- The exit code is zero if and only if the usage was asked for or the end of the stream was read. -/
theorem clientMain_code (argv : List CString) (a : ClientAnswers) :
    (clientMain argv a).2 = some 0 ↔ AsksHelp argv ∨ ReadToEnd (clientMain argv a).1 := by
  obtain ⟨hw, _, hcode⟩ | ⟨hhelp, command, fd, _, _, _, hend, hcode⟩ := clientMain_exchange argv a
  · rw [hcode, or_iff_left hw.unread]
  · rw [hcode, or_iff_right hhelp, hend, (clientExchange_spec fd command a.sends a.recvs).2.2.2]

/-- What the client sends is a beginning of one line, which is no longer than the buffer of the server, and all of it before anything
is printed or the end of the stream is read. -/
theorem clientMain_sends (argv : List CString) (a : ClientAnswers) :
    Wordless (clientMain argv a).1 ∨
    ∃ command, buildCommand (clientOperands argv) clientBufferSize = some command ∧
      (command.bytes ++ [lineFeed]).length ≤ managementLineMax ∧ clientSent (clientMain argv a).1 <+: command.bytes ++ [lineFeed] ∧
      (clientPrinted (clientMain argv a).1 ≠ [] ∨ ReadToEnd (clientMain argv a).1 →
        clientSent (clientMain argv a).1 = command.bytes ++ [lineFeed]) := by
  obtain ⟨hw, _, _⟩ | ⟨_, command, fd, hb, hsent, hprinted, hend, _⟩ := clientMain_exchange argv a
  · exact .inl hw
  · obtain ⟨hfit, hp, hall, _⟩ := clientExchange_spec fd command a.sends a.recvs
    rcases hfit with hw | hfit
    · exact .inl ⟨hsent.trans hw.sent, hprinted.trans hw.printed, fun h => hw.unread (hend.mp h)⟩
    · refine .inr ⟨command, hb, Nat.le_sub_one_of_lt hfit, ?_⟩
      rw [hsent, hprinted, hend]
      exact ⟨hp, hall⟩

/-- The client and its socket, for every command line and whatever `getaddrinfo`, `socket`, `connect`, `send` and `recv` answer. There
is at most one socket at a time, it is used between `connect` and `close` only, and it is closed once before `main` returns. The exit
code is zero if and only if the usage was asked for or the end of the stream was read, and that is read, and anything printed, only
after the whole line was sent. -/
theorem client_socket (argv : List CString) (a : ClientAnswers) :
    (∃ socket, ClientSocket.absent.follow (clientMain argv a).1 = some socket ∧
      ((clientMain argv a).2 ≠ none → socket = .absent) ∧ ((clientMain argv a).2 = none → ∃ fd, socket = .connected fd)) ∧
    ((clientMain argv a).2 = some 0 ↔ AsksHelp argv ∨ ReadToEnd (clientMain argv a).1) ∧
    (clientPrinted (clientMain argv a).1 ≠ [] ∨ ReadToEnd (clientMain argv a).1 →
      ∃ command, buildCommand (clientOperands argv) clientBufferSize = some command ∧
        clientSent (clientMain argv a).1 = command.bytes ++ [lineFeed]) := by
  refine ⟨?_, clientMain_code argv a, fun h => ?_⟩
  · obtain ⟨code, heq, _⟩ | ⟨_, command, attempts, _, ⟨hnone, heq⟩ | ⟨fd, hfd, heq⟩⟩ := clientMain_cases argv a
    · rw [heq]
      exact ⟨_, rfl, fun _ => rfl, fun h => by cases h⟩
    · have hf := follow_connectLoop attempts
      rw [hnone] at hf
      rw [heq]
      exact ⟨_, hf, fun _ => rfl, fun h => by cases h⟩
    · have hf := follow_connectLoop attempts
      have hx := follow_clientExchange fd command a.sends a.recvs
      rw [hfd] at hf
      rw [heq]
      generalize clientExchange fd command a.sends a.recvs = r at hx ⊢
      obtain ⟨acts, ret⟩ := r
      dsimp only at hx ⊢
      rw [List.append_assoc, ClientSocket.follow_append hf, ClientSocket.follow_append hx]
      cases ret with
      | none => exact ⟨_, rfl, fun h => absurd rfl h, fun _ => ⟨fd, rfl⟩⟩
      | some ok =>
        refine ⟨.absent, ?_, fun _ => rfl, fun h => by cases h⟩
        rw [if_neg (Option.some_ne_none ok)]
        split
        · exact ClientSocket.follow_cons (ClientSocket.after_close fd) []
        · exact ClientSocket.follow_cons (ClientSocket.after_broken fd) []
  · obtain hw | ⟨command, hb, _, _, hall⟩ := clientMain_sends argv a
    · exact (h.elim (absurd hw.printed) hw.unread).elim
    · exact ⟨command, hb, hall h⟩

/-! ## The client and its connection -/

/-- The connection between a client and the server carries what is sent over it: the server has received a beginning of what the
client has sent, the client has printed a beginning of what the server has sent, and the client reads the end of the stream after all
of that, when the server has closed its end. -/
structure Carries (c : Config) (mid : Nat) (es : List Event) (acts : List ClientAct) : Prop where
  up : c.received mid es <+: clientSent acts
  down : clientPrinted acts <+: c.told mid es
  ended : ReadToEnd acts → clientPrinted acts = c.told mid es ∧ (run c.start es).managements mid = none

section Carried

variable {c : Config} {mid : Nat} {es : List Event} {argv : List CString} {a : ClientAnswers}

/-- What the server executes for the client are the words the client was given. -/
theorem Carries.words (net : Carries c mid es (clientMain argv a).1) (hargs : ∀ arg ∈ clientOperands argv, Token arg.bytes)
    {pre post : List Event} {e : Event} (hes : es = pre ++ e :: post) {line : List Byte}
    (hx : (run c.start pre).prepares e mid = some line) :
    managementWords line = (clientArgs (clientOperands argv)).map CString.bytes := by
  obtain hw | ⟨command, hb, hfit, hp, _⟩ := clientMain_sends argv a
  · have hup := net.up
    obtain ⟨hall, hc, _, _⟩ := run_prepared c pre e post hx
    rw [hw.sent, hes, hall] at hup
    obtain rfl := List.prefix_nil.mp hup
    exact (hc.elim (fun hm => by cases hm) fun hl => by cases hl)
  · obtain ⟨hlf, hwords⟩ := buildCommand_words hargs hb
    rw [(executesLine c hlf hfit (net.up.trans hp)).whole pre e post hes line hx]
    exact hwords

/-- What the client prints is a beginning of the answer to its line. -/
theorem Carries.answer (net : Carries c mid es (clientMain argv a).1) (hsome : clientPrinted (clientMain argv a).1 ≠ []) :
    ∃ pre e post line, es = pre ++ e :: post ∧ (run c.start pre).prepares e mid = some line ∧
      clientPrinted (clientMain argv a).1 <+: managementReply (run c.start pre).managedUsers (run c.start pre).metrics line := by
  have hp := net.down.trans (@run_exchanged c mid es).begun
  obtain hnil | ⟨pre, e, post, rfl, hx⟩ := @run_answers c mid es
  · rw [hnil] at hp
    exact absurd (List.prefix_nil.mp hp) hsome
  · rw [(run_prepared c pre e post hx).2.2.2, List.flatten_singleton] at hp
    exact ⟨pre, e, post, _, rfl, hx, hp⟩

end Carried

/-- The client and the server, for every command line of words, every behaviour of the system calls of the client, every run of the
server, and every way in which the connection between the two cuts and delays what it carries. The server executes at most one line of
the client, whose words are those the client was given, and has executed it once its line feed has come. What the client prints is
a beginning of the answer to it, at the moment it was executed. If the exit code is zero, then the usage was asked for and nothing
done, or all that the server has sent was printed and the server has freed the connection. -/
theorem client_prints (argv : List CString) (hargs : ∀ arg ∈ clientOperands argv, Token arg.bytes) (a : ClientAnswers) (c : Config)
    (mid : Nat) (es : List Event) (net : Carries c mid es (clientMain argv a).1) :
    (c.executed es).countP (·.1 == mid) ≤ 1 ∧
    (∀ line, (mid, line) ∈ c.executed es → managementWords line = (clientArgs (clientOperands argv)).map CString.bytes) ∧
    (lineFeed ∈ c.received mid es → ∃ line, (mid, line) ∈ c.executed es) ∧
    (clientPrinted (clientMain argv a).1 ≠ [] → ∃ pre e post line, es = pre ++ e :: post ∧
      (run c.start pre).executed e = [(mid, line)] ∧
      clientPrinted (clientMain argv a).1 <+: managementReply (run c.start pre).managedUsers (run c.start pre).metrics line) ∧
    ((clientMain argv a).2 = some 0 → AsksHelp argv ∧ (clientMain argv a).1 = [] ∨
      clientPrinted (clientMain argv a).1 = c.told mid es ∧ (run c.start es).managements mid = none) := by
  refine ⟨?_, fun line hline => ?_, fun hlf => ?_, fun hsome => ?_, fun hcode => ?_⟩
  · rw [run_countP_executed]
    exact (run_exchanged c es).once
  · obtain ⟨before, later, hsplit⟩ := List.append_of_mem hline
    obtain ⟨pre, e, post, hes, _, hx⟩ := Traces.emitted_split Server.length_executed hsplit
    exact net.words hargs hes (Server.executed_eq_iff.mp hx)
  · have hsome : 0 < (c.executed es).countP (·.1 == mid) := by
      rw [run_countP_executed]
      exact List.length_pos_iff.mpr fun hnil => run_unanswered c es hnil (.inl hlf)
    obtain ⟨x, hx, hmid⟩ := List.countP_pos_iff.mp hsome
    obtain ⟨mid', line⟩ := x
    obtain rfl : mid' = mid := by simpa using hmid
    exact ⟨line, hx⟩
  · obtain ⟨pre, e, post, line, hes, hx, hp⟩ := net.answer hsome
    exact ⟨pre, e, post, line, hes, Server.executed_eq_iff.mpr hx, hp⟩
  · obtain ⟨_, hnil, hhelp⟩ | ⟨hhelp, _⟩ := clientMain_exchange argv a
    · exact .inl ⟨hhelp.mp hcode, hnil (hhelp.mp hcode)⟩
    · exact .inr (net.ended (((clientMain_code argv a).mp hcode).resolve_left hhelp))

/-- What the server sends to a client that adds a user, and what the client makes of it. -/
def addAnswers : ClientAnswers where
  getaddrinfo := fun _ _ => some [⟨.ok 3, .error .econnrefused⟩, ⟨.ok 3, .ok⟩]
  sends := [.sent 4, .error .eintr, .sent 8]
  recvs := [.data (ascii "adduser=ok\n"), .data (ascii "users_count=1\n"), .eof]

/-- The server reads the line of that client in two parts and answers. -/
def addedRun : List Event :=
  addRun ++ [.write 5 { sends := [.sent 11, .error .eagain] }, .write 5 { sends := [.sent 14] }]

/-- The connection carries all of it. -/
theorem carries_added :
    Carries (.first (usersInitFromArgs [])) 0 addedRun (clientMain addArgs addAnswers).1 where
  up := by decide +kernel
  down := by decide +kernel
  ended := fun _ => by
    have htold : clientPrinted (clientMain addArgs addAnswers).1 = (Config.first (usersInitFromArgs [])).told 0 addedRun := by
      decide +kernel
    have hfreed : ((run (Config.first (usersInitFromArgs [])).start addedRun).managements 0).isNone = true := by decide +kernel
    exact ⟨htold, Option.isNone_iff_eq_none.mp hfreed⟩

/-- A user is added by a client whose first address refuses. -/
theorem client_prints_added :
    clientPrinted (clientMain addArgs addAnswers).1 = (Config.first (usersInitFromArgs [])).told 0 addedRun := by
  obtain ⟨_, _, _, _, hcode⟩ := client_prints addArgs (by decide +kernel) addAnswers (.first (usersInitFromArgs [])) 0 addedRun
    carries_added
  rcases hcode (by decide +kernel) with ⟨_, hnil⟩ | ⟨hall, _⟩
  · exact absurd hnil (by decide +kernel)
  · exact hall

example : clientPrinted (clientMain addArgs addAnswers).1 = ascii "adduser=ok\nusers_count=1\n" := by decide +kernel

/-! ## What a client may rely on -/

/-- The name a change is about. -/
def UsersChange.username : UsersChange → List Byte
  | insert username _ => username
  | erase username => username

/-- Lines ask for no change of a name. -/
def LeftAlone (username : List Byte) (lines : List (Nat × List Byte)) : Prop :=
  ∀ x ∈ lines, ∀ change, UsersChange.asked (managementWords x.2) = some change → change.username ≠ username

section Names

variable {m : UserMap} {change : UsersChange} {username : List Byte}

/-- A change leaves the other names alone. -/
theorem UsersChange.lookup_on (h : change.username ≠ username) :
    (change.on m.passwords).lookup username = m.passwords.lookup username := by
  cases change with
  | insert username' password => exact Finmap.lookup_insert_of_ne _ (Ne.symm h)
  | erase username' => exact Finmap.lookup_erase_ne (Ne.symm h)

/-- Lines that ask for no change of a name leave it alone. -/
theorem UserMap.lookup_history (m : UserMap) {lines : List (Nat × List Byte)} (h : LeftAlone username lines) :
    (m.history lines).passwords.lookup username = m.passwords.lookup username := by
  induction lines generalizing m with
  | nil => rfl
  | cons x lines ih =>
    refine (ih (m.after x.2) fun y hy => h y (List.mem_cons_of_mem x hy)).trans ?_
    unfold UserMap.after
    split
    · rfl
    · rename_i change ha
      split
      · rw [m.change_passwords]
        exact UsersChange.lookup_on (h x (List.mem_cons_self ..) change ha)
      · rfl

/-- After a change of a name, it has the password the change gives it, or none. -/
theorem UsersChange.lookup_on_self (change : UsersChange) (m : UserMap) (password : List Byte) :
    (change.on m.passwords).lookup change.username = some password ↔ change = .insert change.username password := by
  cases change with
  | insert username' password' =>
    rw [UsersChange.on, UsersChange.username, Finmap.lookup_insert, Option.some_inj, UsersChange.insert.injEq]
    exact ⟨fun h => ⟨rfl, h⟩, And.right⟩
  | erase username' =>
    rw [UsersChange.on, UsersChange.username, Finmap.lookup_erase]
    exact iff_of_false (fun h => by cases h) fun h => by cases h

/-- A report that begins with `ok` is that of a change that was made. -/
theorem UsersChange.report_ok {result : UsersResult} (h : change.word ++ ascii "ok" <+: change.report result m) : result = .ok := by
  have hname : ascii "ok" <+: usersResultName result := by
    unfold UsersChange.report at h
    rw [List.append_assoc, List.append_assoc, List.append_assoc, List.prefix_append_right_inj] at h
    exact List.prefix_of_prefix_length_le h (List.prefix_append ..) (by cases result <;> decide)
  cases result with
  | ok => rfl
  | _ => exact absurd hname (by decide)

end Names

/-- A client that asks for a change of the users, and is told that it was made, may rely on it. At the moment its line was executed
the change was one that the users before it allowed; and from then on, in whatever way the run goes on, as long as no other line asks
for a change of the same name, that name is valid with the password of an added user, and with none if it was deleted. -/
theorem client_relies (argv : List CString) (hargs : ∀ arg ∈ clientOperands argv, Token arg.bytes) (a : ClientAnswers) (c : Config)
    {m : UserMap} (h : c.users.StandsFor m) (mid : Nat) (es : List Event) (net : Carries c mid es (clientMain argv a).1)
    {change : UsersChange} (hasked : UsersChange.asked ((clientArgs (clientOperands argv)).map CString.bytes) = some change)
    (hok : change.word ++ ascii "ok" <+: clientPrinted (clientMain argv a).1) :
    ∃ pre e post line, es = pre ++ e :: post ∧ (run c.start pre).executed e = [(mid, line)] ∧
      change.Legal (m.history (c.executed pre)) ∧
      ∀ next later, c.executed (pre ++ e :: next) = c.executed (pre ++ [e]) ++ later → LeftAlone change.username later →
        ∀ password, usersCredentialsAreValid (run c.start (pre ++ e :: next)).managedUsers change.username password = true ↔
          change = .insert change.username password := by
  have hsome : clientPrinted (clientMain argv a).1 ≠ [] := by
    intro hnil
    rw [hnil] at hok
    have := List.append_eq_nil_iff.mp (List.prefix_nil.mp hok)
    exact absurd this.2 (by decide)
  obtain ⟨pre, e, post, line, hes, hx, hp⟩ := net.answer hsome
  have hthen := run_users c h pre
  have hline : UsersChange.asked (managementWords line) = some change := by rw [net.words hargs hes hx, hasked]
  have hexec := Server.executed_eq_iff.mpr hx
  obtain ⟨result, hreply, hlegal⟩ := (managementPrepareResponse_after hthen (run c.start pre).metrics line).2 change hline
  rw [hreply] at hp
  have hl := hlegal.mp (UsersChange.report_ok (hok.trans hp))
  have hafter : (m.history (c.executed (pre ++ [e]))).passwords = change.on (m.history (c.executed pre)).passwords := by
    have hmade : (m.history (c.executed pre)).change change hl = (m.history (c.executed pre)).after line :=
      UserMap.after_asked hline (fun hl => UserMap.change_passwords _ hl) fun hn => absurd hl hn
    rw [c.executed_concat, hexec, UserMap.history, List.foldl_append]
    exact (congrArg UserMap.passwords hmade).symm.trans (UserMap.change_passwords _ hl)
  refine ⟨pre, e, post, line, hes, hexec, hl, fun next later hlater hfree password => ?_⟩
  rw [(run_users c h (pre ++ e :: next)).credentialsAreValid, UserMap.valid, beq_iff_eq, hlater, UserMap.history, List.foldl_append,
    ← UserMap.history, ← UserMap.history, UserMap.lookup_history _ hfree, hafter]
  exact change.lookup_on_self _ password

/-- The user of the command can log in until somebody takes the name away. -/
theorem client_relies_added :
    ∃ pre e post line, addedRun = pre ++ e :: post ∧ (run (Config.first (usersInitFromArgs [])).start pre).executed e = [(0, line)] ∧
      (UsersChange.insert (ascii "a") (ascii "p")).Legal
        ((UserMap.ofArgs []).history ((Config.first (usersInitFromArgs [])).executed pre)) := by
  have hasked : UsersChange.asked ((clientArgs (clientOperands addArgs)).map CString.bytes) =
      some (.insert (ascii "a") (ascii "p")) := by decide +kernel
  obtain ⟨pre, e, post, line, hes, hx, hl, _⟩ := client_relies addArgs (by decide +kernel) addAnswers (.first (usersInitFromArgs []))
    (standsFor_usersInitFromArgs []) 0 addedRun carries_added hasked (by decide +kernel)
  exact ⟨pre, e, post, line, hes, hx, hl⟩

end SocksProxy
