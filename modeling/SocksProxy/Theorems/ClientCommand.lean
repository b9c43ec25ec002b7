import SocksProxy.Client
import SocksProxy.Theorems.ManagementInput

/-!
# The line of the management client

The client and the server have a buffer each, and the sizes agree: what the client does not refuse fits into the buffer of the server
with its line feed, which is the last byte of it. However the line is cut on its way, the server executes nothing before that byte
has come, and then it reads the arguments of the client.
-/

namespace SocksProxy

/-- A word of the protocol: not empty, and without spaces, tabs and ends of line. -/
def Token (word : List Byte) : Prop := word ≠ [] ∧ ∀ b ∈ word, isSeparator b = false ∧ b ≠ 0x0D ∧ b ≠ lineFeed

instance (word : List Byte) : Decidable (Token word) := inferInstanceAs (Decidable (_ ∧ _))

/-- The arguments of the client, or the command that it sends when it has none. -/
def clientArgs (args : List CString) : List CString := if args = [] then [literal "STATS"] else args

/-- A management connection executes this line and nothing else: a response is prepared for the whole line only, and when the line has
been received, its effect on the users has been made and its answer is there. -/
structure Config.ExecutesLine (c : Config) (mid : Nat) (es : List Event) (line : List Byte) : Prop where
  whole : ∀ pre e post, es = pre ++ e :: post → ∀ buf, (run c.start pre).prepares e mid = some buf → buf = line
  done : c.received mid es = line → ∃ pre e post, es = pre ++ e :: post ∧ (run c.start pre).prepares e mid = some line ∧
    (run c.start (pre ++ [e])).managedUsers =
      (managementPrepareResponse (run c.start pre).managedUsers (run c.start pre).metrics line).1 ∧
    ∃ state, (run c.start (pre ++ [e])).managements mid = some state ∧
      state.writeBuffer = managementReply (run c.start pre).managedUsers (run c.start pre).metrics line

/-! ## What the client sends -/

/-- The arguments with a space between them. -/
def joinArgs (args : List CString) : List Byte := List.intercalate (ascii " ") (args.map CString.bytes)

/-- The loop of `build_command` behind the first argument: all that follows, if it fits. -/
theorem buildLoop_eq {bufferSize : Nat} (args : List CString) {buffer : List Byte} (h : buffer.length < bufferSize) :
    buildLoop bufferSize false args buffer =
      if (buffer ++ args.flatMap (ascii " " ++ ·.bytes)).length < bufferSize then
        some (buffer ++ args.flatMap (ascii " " ++ ·.bytes))
      else none := by
  induction args generalizing buffer with
  | nil => rw [List.flatMap_nil, List.append_nil, if_pos h, buildLoop]
  | cons arg args ih =>
    rw [buildLoop, List.flatMap_cons, ← List.append_assoc]
    simp only [Bool.false_eq_true, if_false]
    generalize hword : ascii " " ++ arg.bytes = word
    rw [snprintfText]
    dsimp only
    by_cases hfit : word.length ≥ bufferSize - buffer.length
    · rw [if_pos hfit, if_neg]
      simp only [List.length_append]
      omega
    · rw [if_neg hfit, List.take_of_length_le (by omega)]
      exact ih (by rw [List.length_append]; omega)

/-- `build_command` with arguments: all of them with a space between, if they fit. -/
theorem buildCommand_eq {args : List CString} (hne : args ≠ []) {bufferSize : Nat} (h : 0 < bufferSize) :
    buildCommand args bufferSize =
      if (joinArgs args).length < bufferSize then some (CString.ofBuffer (joinArgs args)) else none := by
  cases args with
  | nil => exact absurd rfl hne
  | cons arg args =>
    have hjoin : joinArgs (arg :: args) = arg.bytes ++ args.flatMap (ascii " " ++ ·.bytes) := by
      rw [joinArgs, List.map_cons, Words.intercalate_cons, List.flatMap_map]
    rw [buildCommand, if_neg hne, hjoin, buildLoop]
    simp only [if_true, List.nil_append, List.length_nil, Nat.sub_zero]
    rw [snprintfText]
    dsimp only
    by_cases hfit : arg.bytes.length ≥ bufferSize
    · rw [if_pos hfit, if_neg]
      · rfl
      · rw [List.length_append]
        omega
    · rw [if_neg hfit, List.take_of_length_le (by omega), buildLoop_eq args (by omega)]
      split <;> rfl

/-- The loop of `send_command` sends a beginning of the line, and all of it if it returns that it did. -/
theorem sendCommandLoop_spec (line : List Byte) (sends : List SendResult) :
    (sendCommandLoop line sends).1.flatten <+: line ∧
      ((sendCommandLoop line sends).2 = some true → (sendCommandLoop line sends).1.flatten = line) := by
  induction sends generalizing line with
  | nil =>
    cases line with
    | nil => exact ⟨List.nil_prefix, fun _ => rfl⟩
    | cons b line => exact ⟨List.nil_prefix, fun h => by cases h⟩
  | cons answer sends ih =>
    cases line with
    | nil => exact ⟨List.nil_prefix, fun _ => rfl⟩
    | cons b line =>
      cases answer with
      | sent count =>
        rw [sendCommandLoop]
        split
        · exact ⟨List.nil_prefix, fun h => by cases h⟩
        · obtain ⟨⟨rest, hp⟩, hall⟩ := ih ((b :: line).drop count)
          refine ⟨⟨rest, ?_⟩, fun h => ?_⟩
          · rw [List.flatten_cons, List.append_assoc, hp, List.take_append_drop]
          · rw [List.flatten_cons, hall h, List.take_append_drop]
      | error e =>
        rw [sendCommandLoop]
        split
        · exact ih (b :: line)
        · exact ⟨List.nil_prefix, fun h => by cases h⟩

/-- `send_command` refuses a line that does not fit into its buffer, and else sends the command and a line feed. -/
theorem sendCommand_eq (command : CString) (sends : List SendResult) :
    sendCommand command sends = if (command.bytes ++ [lineFeed]).length < clientBufferSize then
      some (sendCommandLoop (command.bytes ++ [lineFeed]) sends) else none := by
  have hlf : ascii "\n" = [lineFeed] := rfl
  rw [sendCommand, hlf, snprintfText]
  dsimp only
  by_cases hfit : (command.bytes ++ [lineFeed]).length < clientBufferSize
  · rw [if_pos hfit, if_neg (Nat.not_le_of_lt hfit), List.take_of_length_le (Nat.le_sub_one_of_lt hfit)]
  · rw [if_neg hfit, if_pos (Nat.le_of_not_lt hfit)]

/-! ## What the words of the line are -/

/-- What a client without too long arguments sends has the words that the client was given, and one line feed, at its end. -/
theorem buildCommand_words {args : List CString} (hargs : ∀ arg ∈ args, Token arg.bytes) {command : CString}
    (h : buildCommand args clientBufferSize = some command) :
    lineFeed ∉ command.bytes ∧ managementWords (command.bytes ++ [lineFeed]) = (clientArgs args).map CString.bytes := by
  have hwords : ∀ as : List CString, (∀ arg ∈ as, Token arg.bytes) → command.bytes = joinArgs as →
      lineFeed ∉ command.bytes ∧ managementWords (command.bytes ++ [lineFeed]) = as.map CString.bytes := by
    intro as has hc
    -- every byte of the command is one of an argument, or a space
    have hbytes : ∀ b ∈ command.bytes, b ≠ 0x0D ∧ b ≠ lineFeed := by
      intro b hb
      rw [hc] at hb
      cases as with
      | nil => cases hb
      | cons arg as =>
        rw [joinArgs, List.map_cons, Words.intercalate_cons, List.flatMap_map] at hb
        rcases List.mem_append.mp hb with hb | hb
        · exact ((has arg (List.mem_cons_self ..)).2 b hb).2
        · obtain ⟨arg', harg', hb⟩ := List.mem_flatMap.mp hb
          rcases List.mem_append.mp hb with hb | hb
          · exact (by decide +kernel : ∀ b ∈ ascii " ", b ≠ 0x0D ∧ b ≠ lineFeed) b hb
          · exact ((has arg' (List.mem_cons_of_mem _ harg')).2 b hb).2
    refine ⟨fun hlf => (hbytes lineFeed hlf).2 rfl, ?_⟩
    have hline : (command.bytes ++ [lineFeed]).takeWhile (fun b => b != 0x0D && b != 0x0A && b != 0) = command.bytes := by
      rw [List.takeWhile_append_of_pos, List.takeWhile_cons_of_neg (by decide), List.append_nil]
      intro b hb
      have h0 : b ≠ 0 := fun he => command.noNul (he ▸ hb)
      simp only [Bool.and_eq_true, bne_iff_ne]
      exact ⟨hbytes b hb, h0⟩
    rw [managementWords, hline, hc]
    refine Words.words_intercalate isSeparator (by decide) ?_ ?_
    · intro w hw
      obtain ⟨arg, harg, rfl⟩ := List.mem_map.mp hw
      exact (has arg harg).1
    · intro w hw x hx
      obtain ⟨arg, harg, rfl⟩ := List.mem_map.mp hw
      exact ((has arg harg).2 x hx).1
  by_cases hne : args = []
  · subst hne
    cases h
    exact hwords [literal "STATS"] (by decide +kernel) (by decide +kernel)
  · rw [buildCommand_eq hne (by decide)] at h
    split at h
    · cases h
      have hnul : (0 : Byte) ∉ joinArgs args := by
        cases args with
        | nil => exact absurd rfl hne
        | cons arg args =>
          rw [joinArgs, List.map_cons, Words.intercalate_cons, List.flatMap_map]
          intro h0
          rcases List.mem_append.mp h0 with h0 | h0
          · exact arg.noNul h0
          · obtain ⟨arg', _, h0⟩ := List.mem_flatMap.mp h0
            rcases List.mem_append.mp h0 with h0 | h0
            · exact absurd h0 (by decide)
            · exact arg'.noNul h0
      rw [clientArgs, if_neg hne]
      exact hwords args hargs (by rw [CString.ofBuffer_of_noNul hnul])
    · cases h

/-- The four words that `management_prepare_response` asks for are the first four arguments, as far as there are that many. -/
theorem strtoks_args {line : List Byte} {args : List CString} (h : managementWords line = args.map CString.bytes) :
    ∃ line1 line2 line3, Strtoks line args[0]? args[1]? args[2]? args[3]? line1 line2 line3 := by
  obtain ⟨c, a1, a2, a3, line1, line2, line3, ht⟩ := strtoks line
  have hinj : Function.Injective (Option.map CString.bytes) := Option.map_injective fun _ _ he => CString.ext he
  have hget : ∀ i : Nat, (managementWords line)[i]? = (args[i]?).map CString.bytes := by
    intro i
    rw [h, List.getElem?_map]
  obtain rfl : c = args[0]? := hinj (ht.command.trans (hget 0))
  obtain rfl : a1 = args[1]? := hinj (ht.arg1.trans (hget 1))
  obtain rfl : a2 = args[2]? := hinj (ht.arg2.trans (hget 2))
  obtain rfl : a3 = args[3]? := hinj (ht.arg3.trans (hget 3))
  exact ⟨line1, line2, line3, ht⟩

/-! ## What the server receives -/

section Runs

variable (c : Config) {mid : Nat}

/-- A response was prepared for a connection that has received a line feed. -/
theorem exists_prepared (es : List Event) (hlf : lineFeed ∈ c.received mid es) :
    ∃ pre e post buf, es = pre ++ e :: post ∧ (run c.start pre).prepares e mid = some buf := by
  induction es using List.reverseRecOn with
  | nil => cases hlf
  | append_singleton es e ih =>
    rw [c.received_append] at hlf
    by_cases hno : (run c.start es).heard e mid = []
    · rw [hno, List.append_nil] at hlf
      obtain ⟨pre, e', post, buf, rfl, hx⟩ := ih hlf
      exact ⟨pre, e', post ++ [e], buf, by simp, hx⟩
    · rcases step_hears (run_inv c es) e with ⟨mid0, state0, hh⟩ | ⟨hsilent, _⟩
      · by_cases he : mid = mid0
        · subst he
          rw [← (run_received c es).1 state0 hh.record] at hlf
          refine ⟨es, e, [], state0.readBuffer ++ (run c.start es).heard e mid, rfl, ?_⟩
          simp only [Server.prepares, hh.record]
          exact if_pos ⟨hno, .inl hlf⟩
        · exact absurd (hh.others mid he).1 hno
      · exact absurd (hsilent mid) hno

/-- A connection that receives nothing but a line that fits, with a line feed at its end only, executes this line. -/
theorem executesLine {body : List Byte} (hbody : lineFeed ∉ body) (hfit : (body ++ [lineFeed]).length ≤ managementLineMax)
    {es : List Event} (h : c.received mid es <+: body ++ [lineFeed]) : c.ExecutesLine mid es (body ++ [lineFeed]) := by
  have hwhole : ∀ pre e post, es = pre ++ e :: post → ∀ buf, (run c.start pre).prepares e mid = some buf →
      buf = body ++ [lineFeed] := by
    rintro pre e post rfl buf hx
    obtain ⟨hbuf, hdone⟩ := run_prepares c pre hx
    have happ : c.received mid (pre ++ e :: post) = buf ++ (run c.start (pre ++ [e])).received mid post := by
      have := Server.received_append c.start mid (pre ++ [e]) post
      rw [← List.append_cons] at this
      rw [hbuf]
      exact this
    have hp : buf <+: body ++ [lineFeed] := by
      rw [happ] at h
      exact (List.prefix_append _ _).trans h
    rcases hdone with hlf | hlen
    · rcases List.prefix_concat_iff.mp hp with he | hp
      · exact he
      · exact absurd (hp.subset hlf) hbody
    · exact hp.eq_of_length_le (hlen ▸ hfit)
  refine ⟨hwhole, fun hall => ?_⟩
  have hlf : lineFeed ∈ c.received mid es := hall ▸ List.mem_append_right _ (List.mem_singleton_self _)
  obtain ⟨pre, e, post, buf, rfl, hx⟩ := exists_prepared c es hlf
  obtain rfl := hwhole pre e post rfl buf hx
  refine ⟨pre, e, post, rfl, hx, ?_⟩
  rw [run_append]
  rcases step_hears (run_inv c pre) e with ⟨mid0, state0, hh⟩ | ⟨hsilent, _⟩
  · by_cases he : mid = mid0
    · subst he
      obtain ⟨husers, hrecord⟩ := hh.prepared _ hx
      exact ⟨husers, _, hrecord, rfl⟩
    · rw [Server.prepares_of_silent (hh.others mid he).1] at hx
      cases hx
  · rw [Server.prepares_of_silent (hsilent mid)] at hx
    cases hx

end Runs

/-- The line of the management client, for every list of words and every way in which `send` cuts it. Either `build_command` or
`send_command` refuses it, because it is too long for the buffer of the client, or what is sent is a beginning of a line that fits
into the buffer of the server, and all of it if `send_command` says so. The words of the line are the arguments of the client, or the
command that it sends without arguments, and the calls of `strtok` find them one after another. In every run of the server, a
connection that receives nothing but this line, cut in any way, executes the whole line, with its line feed, and nothing else. -/
theorem client_command (args : List CString) (hargs : ∀ arg ∈ args, Token arg.bytes) (sends : List SendResult) :
    (buildCommand args clientBufferSize = none ∧ clientBufferSize ≤ (joinArgs args).length) ∨
    ∃ command, buildCommand args clientBufferSize = some command ∧
      ((sendCommand command sends = none ∧ clientBufferSize ≤ (command.bytes ++ [lineFeed]).length) ∨
        ∃ chunks ret, sendCommand command sends = some (chunks, ret) ∧
        chunks.flatten <+: command.bytes ++ [lineFeed] ∧
        (ret = some true → chunks.flatten = command.bytes ++ [lineFeed]) ∧
        (command.bytes ++ [lineFeed]).length ≤ managementLineMax ∧
        managementWords (command.bytes ++ [lineFeed]) = (clientArgs args).map CString.bytes ∧
        (∃ line1 line2 line3, Strtoks (command.bytes ++ [lineFeed]) (clientArgs args)[0]? (clientArgs args)[1]?
          (clientArgs args)[2]? (clientArgs args)[3]? line1 line2 line3) ∧
        ∀ (c : Config) (mid : Nat) (es : List Event), c.received mid es <+: chunks.flatten →
          c.ExecutesLine mid es (command.bytes ++ [lineFeed])) := by
  cases hb : buildCommand args clientBufferSize with
  | none =>
    refine .inl ⟨rfl, ?_⟩
    by_cases hne : args = []
    · rw [hne] at hb
      cases hb
    · rw [buildCommand_eq hne (by decide)] at hb
      split at hb
      · cases hb
      · exact Nat.le_of_not_lt ‹_›
  | some command =>
    obtain ⟨hlf, hwords⟩ := buildCommand_words hargs hb
    refine .inr ⟨command, rfl, ?_⟩
    rw [sendCommand_eq]
    by_cases hfit : (command.bytes ++ [lineFeed]).length < clientBufferSize
    · rw [if_pos hfit]
      obtain ⟨hp, hall⟩ := sendCommandLoop_spec (command.bytes ++ [lineFeed]) sends
      refine .inr ⟨_, _, rfl, hp, hall, Nat.le_sub_one_of_lt hfit, hwords, strtoks_args hwords, fun c mid es hr => ?_⟩
      exact executesLine c hlf (Nat.le_sub_one_of_lt hfit) (hr.trans hp)
    · rw [if_neg hfit]
      exact .inl ⟨rfl, Nat.le_of_not_lt hfit⟩

/-- The arguments of a command that adds a user. -/
def addArgs : List CString := [literal "ADDUSER", literal "a", literal "p"]

/-- A management connection receives the command in two parts. -/
def addRun : List Event :=
  [.read 4 { accepts := [.accepted 5 .ok true] }, .read 5 { recv := .data (ascii "ADDU") },
    .read 5 { recv := .data (ascii "SER a p\n") }]

/-- A command is sent in two parts, with an interruption between them, and executed. -/
theorem client_command_add :
    ∃ chunks, sendCommand (literal "ADDUSER a p") [.sent 4, .error .eintr, .sent 8] = some (chunks, some true) ∧
      chunks.flatten = ascii "ADDUSER a p\n" ∧ (Config.first .zeroed).received 0 addRun = ascii "ADDUSER a p\n" ∧
      (Config.first .zeroed).ExecutesLine 0 addRun (ascii "ADDUSER a p\n") := by
  have hsent : sendCommand (literal "ADDUSER a p") [.sent 4, .error .eintr, .sent 8] =
      some ([ascii "ADDU", ascii "SER a p\n"], some true) := by decide +kernel
  have hreceived : (Config.first .zeroed).received 0 addRun = ascii "ADDUSER a p\n" := by decide +kernel
  have hbuilt : buildCommand addArgs clientBufferSize = some (literal "ADDUSER a p") := by decide +kernel
  refine ⟨_, hsent, by decide, hreceived, ?_⟩
  rcases client_command addArgs (by decide +kernel) [.sent 4, .error .eintr, .sent 8] with ⟨hno, _⟩ | ⟨command, hb, ⟨hno, _⟩ | hsome⟩
  · rw [hbuilt] at hno
    cases hno
  · rw [hbuilt] at hb
    cases hb
    rw [hsent] at hno
    cases hno
  · obtain ⟨chunks, ret, hs, _, _, _, _, _, hexec⟩ := hsome
    rw [hbuilt] at hb
    cases hb
    rw [hsent] at hs
    cases hs
    exact hexec (.first .zeroed) 0 addRun (by rw [hreceived]; decide)

/-- Without arguments the client sends a word that is not among its arguments. -/
theorem client_command_none :
    ¬∀ args : List CString, (∀ arg ∈ args, Token arg.bytes) → ∀ command, buildCommand args clientBufferSize = some command →
      sendCommand command [] = none ∨ managementWords (command.bytes ++ [lineFeed]) = args.map CString.bytes := by
  intro hall
  have h := hall [] (by simp) (literal "STATS") (by decide +kernel)
  exact absurd h (by decide +kernel)

end SocksProxy
