import SocksProxy.Management
import SocksProxy.Library.Words
import SocksProxy.Theorems.UsersTable
import SocksProxy.Theorems.LogLines

/-!
# The lines of the management protocol

A line is read word by word, and the last word of one command is asked for in one branch only. Taken as a whole, a line changes the
users if and only if its words are a command that asks for a change, with exactly the arguments of that command, and the map of
users allows the change. Every other line leaves the table as it is, and no reply pretends otherwise.
-/

namespace SocksProxy

open Words

/-- The words of a management line: of what comes before the first CR, LF or NUL. -/
def managementWords (readBuffer : List Byte) : List (List Byte) :=
  words isSeparator (readBuffer.takeWhile fun b => b != 0x0D && b != 0x0A && b != 0)

/-- What `management_prepare_response` leaves in the write buffer. -/
def managementReply (users : ManagedUsers) (metrics : ServerMetrics) (readBuffer : List Byte) : List Byte :=
  ((CString.ofBuffer (managementPrepareResponse users metrics readBuffer).2).snprintf managementBufferSize).bytes

/-- A word is this name, each letter of it in either case. -/
def Spells (word : List Byte) (name : String) : Prop := word.map tolower = (ascii name).map tolower

instance (word : List Byte) (name : String) : Decidable (Spells word name) := inferInstanceAs (Decidable (_ = _))

/-- A change of the users: a pair more, or a name less. -/
inductive UsersChange where
  | insert (username password : List Byte)
  | erase (username : List Byte)
  deriving DecidableEq

namespace UsersChange

/-- The change that a line of these words asks for, if it asks for one. -/
def asked : List (List Byte) → Option UsersChange
  | [command, username, password] => if Spells command "ADDUSER" then some (insert username password) else none
  | [command, username] => if Spells command "DELUSER" then some (erase username) else none
  | _ => none

/-- The map of users allows the change: the pair is valid, its name new, and there is room; or the name is there. -/
def Legal (m : UserMap) : UsersChange → Prop
  | insert username password =>
    (FieldBytes username ∧ FieldBytes password) ∧ username ∉ m.passwords ∧ m.passwords.keys.card < usersMax
  | erase username => username ∈ m.passwords

/-- The passwords after the change. -/
def on (passwords : Finmap fun _ : List Byte => List Byte) : UsersChange → Finmap fun _ : List Byte => List Byte
  | insert username password => passwords.insert username password
  | erase username => passwords.erase username

/-- The word a reply to the command begins with. -/
def word : UsersChange → List Byte
  | insert _ _ => ascii "adduser="
  | erase _ => ascii "deluser="

end UsersChange

/-- The commands that take no arguments, and do not mind any. -/
def plainCommands : List String := ["STATS", "METRICS", "USERS", "QUIT", "HELP"]

/-- A line of these words is a command, with as many arguments as the command takes. -/
def Commanded : List (List Byte) → Prop
  | [] => False
  | command :: args => UsersChange.asked (command :: args) ≠ none ∨ ∃ name ∈ plainCommands, Spells command name

instance : ∀ words : List (List Byte), Decidable (Commanded words)
  | [] => inferInstanceAs (Decidable False)
  | _ :: _ => inferInstanceAs (Decidable (_ ∨ _))

/-- The answers to a line that is no command. -/
def refusals : List (List Byte) :=
  [ascii "error=empty_command\n", ascii "error=usage_ADDUSER_user_pass\n", ascii "error=usage_DELUSER_user\n",
    ascii "error=unknown_command\n"]

/-- No equals sign of a text is followed by an `o`: the text says `=ok` nowhere. -/
def NoOk (text : List Byte) : Prop := text.IsChain fun a b => a = 0x3D → b ≠ 0x6F

instance (text : List Byte) : Decidable (NoOk text) := inferInstanceAs (Decidable (List.IsChain _ _))

namespace NoOk

variable {text text' : List Byte}

/-- A text that continues another, and not with an `o`. -/
theorem append (h : NoOk text) (h' : NoOk text') (ho : text'.head? ≠ some 0x6F) : NoOk (text ++ text') :=
  List.IsChain.append h h' fun _ _ _ hb _ he => ho (he ▸ hb)

/-- A number. -/
theorem of_decimal (n : Nat) : NoOk (decimal n) := by
  refine (List.pairwise_of_forall_mem_list fun a ha b _ he => ?_).isChain
  have := (digit_of_mem_decimal ha).2
  rw [he] at this
  exact absurd this (by decide)

/-- A number does not begin with an `o`. -/
theorem head_decimal (n : Nat) : (decimal n).head? ≠ some 0x6F := by
  intro hb
  exact absurd (digit_of_mem_decimal (List.mem_of_mem_head? hb)).2 (by decide)

/-- A text that says `=ok` nowhere does not have it for a part. -/
theorem not_ok (h : NoOk text) : ¬ascii "=ok" <:+: text := by
  rintro ⟨pre, post, rfl⟩
  have hok : NoOk (ascii "=ok") := (List.IsChain.left_of_append h).right_of_append
  exact absurd hok (by decide)

end NoOk

/-! ## Word after word -/

/-- One call of `strtok` gives the first word, and leaves the others. -/
theorem strtok_eq (line : CString) :
    ∃ token line', strtok line = (token, line') ∧ token.map CString.bytes = (words isSeparator line.bytes).head? ∧
      words isSeparator line'.bytes = (words isSeparator line.bytes).tail := by
  have hnul : (0 : Byte) ∉ rest isSeparator line.bytes := by
    intro hm
    exact line.noNul ((List.dropWhile_sublist _).subset (List.mem_of_mem_drop (List.mem_of_mem_drop hm)))
  have hnul' : (0 : Byte) ∉ first isSeparator line.bytes := by
    intro hm
    exact line.noNul ((List.dropWhile_sublist _).subset ((List.takeWhile_sublist _).subset hm))
  have heq : strtok line = if first isSeparator line.bytes = [] then (none, .empty)
      else (some (CString.ofBuffer (first isSeparator line.bytes)), CString.ofBuffer (rest isSeparator line.bytes)) := rfl
  rw [heq, words_eq isSeparator line.bytes]
  split
  · exact ⟨_, _, rfl, rfl, rfl⟩
  · rw [CString.ofBuffer_of_noNul hnul, CString.ofBuffer_of_noNul hnul']
    exact ⟨_, _, rfl, rfl, rfl⟩

/-- The line `strtok` is called on has the words of the line that was sent. -/
theorem words_line (readBuffer : List Byte) :
    words isSeparator (CString.ofBuffer (readBuffer.takeWhile fun b => b != 0x0D && b != 0x0A)).bytes =
      managementWords readBuffer := by
  simp only [CString.ofBuffer, managementWords, List.takeWhile_takeWhile]
  congr 2
  funext b
  rw [Bool.eq_iff_iff]
  simp only [decide_eq_true_eq, Bool.and_eq_true, bne_iff_ne]
  tauto

/-- What four calls of `strtok` make of a line: its first four words, as far as there are that many. -/
structure Strtoks (readBuffer : List Byte) (command arg1 arg2 arg3 : Option CString) (line1 line2 line3 : CString) : Prop where
  first : strtok (CString.ofBuffer (readBuffer.takeWhile fun b => b != 0x0D && b != 0x0A)) = (command, line1)
  second : strtok line1 = (arg1, line2)
  third : strtok line2 = (arg2, line3)
  fourth : (strtok line3).1 = arg3
  command : command.map CString.bytes = (managementWords readBuffer)[0]?
  arg1 : arg1.map CString.bytes = (managementWords readBuffer)[1]?
  arg2 : arg2.map CString.bytes = (managementWords readBuffer)[2]?
  arg3 : arg3.map CString.bytes = (managementWords readBuffer)[3]?

/-- The first four words of a line are read one after another. -/
theorem strtoks (readBuffer : List Byte) :
    ∃ command arg1 arg2 arg3 line1 line2 line3, Strtoks readBuffer command arg1 arg2 arg3 line1 line2 line3 := by
  obtain ⟨c, line1, h1, ht1, hr1⟩ := strtok_eq (CString.ofBuffer (readBuffer.takeWhile fun b => b != 0x0D && b != 0x0A))
  obtain ⟨a1, line2, h2, ht2, hr2⟩ := strtok_eq line1
  obtain ⟨a2, line3, h3, ht3, hr3⟩ := strtok_eq line2
  obtain ⟨a3, line4, h4, ht4, _⟩ := strtok_eq line3
  rw [words_line] at ht1 hr1
  rw [hr1] at ht2 hr2
  rw [hr2] at ht3 hr3
  rw [hr3] at ht4
  refine ⟨c, a1, a2, a3, line1, line2, line3, h1, h2, h3, congrArg Prod.fst h4, ?_, ?_, ?_, ?_⟩
  · rw [ht1, List.head?_eq_getElem?]
  · rw [ht2, List.head?_eq_getElem?, List.getElem?_tail]
  · rw [ht3, List.head?_eq_getElem?, List.getElem?_tail, List.getElem?_tail]
  · rw [ht4, List.head?_eq_getElem?, List.getElem?_tail, List.getElem?_tail, List.getElem?_tail]

/-- Two words, when there is no third. -/
theorem words_of_two {words : List (List Byte)} {w w' : List Byte} (h : words[0]? = some w) (h' : words[1]? = some w')
    (hno : words[2]? = none) : words = [w, w'] := by
  rcases words with _ | ⟨a, _ | ⟨b, _ | ⟨c, words⟩⟩⟩ <;> simp at h h' hno
  rw [h, h']

/-- Three words, when there is no fourth. -/
theorem words_of_three {words : List (List Byte)} {w w' w'' : List Byte} (h : words[0]? = some w) (h' : words[1]? = some w')
    (h'' : words[2]? = some w'') (hno : words[3]? = none) : words = [w, w', w''] := by
  rcases words with _ | ⟨a, _ | ⟨b, _ | ⟨c, _ | ⟨d, words⟩⟩⟩⟩ <;> simp at h h' h'' hno
  rw [h, h', h'']

/-- A command is compared with a name letter by letter. -/
theorem strcaseeq_eq (command : CString) (name : String) : strcaseeq command name = decide (Spells command.bytes name) := by
  rw [Bool.eq_iff_iff, decide_eq_true_eq]
  exact beq_iff_eq

/-- A word that spells a name spells no other. -/
theorem strcaseeq_eq_false {command : CString} {name : String} (h : Spells command.bytes name) (name' : String)
    (hne : (ascii name').map tolower ≠ (ascii name).map tolower) : strcaseeq command name' = false := by
  rw [strcaseeq_eq]
  exact decide_eq_false fun h' => hne (h'.symm.trans h)

section Response

variable (users : ManagedUsers) (metrics : ServerMetrics) {readBuffer : List Byte}

/-- The response to a command to add a user with exactly a name and a password. -/
theorem managementPrepareResponse_add {command username password : List Byte}
    (hw : managementWords readBuffer = [command, username, password]) (hc : Spells command "ADDUSER") :
    ∃ u p : CString, u.bytes = username ∧ p.bytes = password ∧
      managementPrepareResponse users metrics readBuffer =
        ((usersAdd users (some u) (some p)).1, ascii "adduser=" ++ usersResultName (usersAdd users (some u) (some p)).2 ++
          ascii "\nusers_count=" ++ decimal (usersCount (usersAdd users (some u) (some p)).1) ++ ascii "\n") := by
  obtain ⟨c, a1, a2, a3, line1, line2, line3, h⟩ := strtoks readBuffer
  have hcommand := h.command
  have harg1 := h.arg1
  have harg2 := h.arg2
  have harg3 := h.arg3
  rw [hw] at hcommand harg1 harg2 harg3
  obtain ⟨c, rfl, rfl⟩ := Option.map_eq_some_iff.mp hcommand
  obtain ⟨u, rfl, hu⟩ := Option.map_eq_some_iff.mp harg1
  obtain ⟨p, rfl, hp⟩ := Option.map_eq_some_iff.mp harg2
  obtain rfl := Option.map_eq_none_iff.mp harg3
  have hyes : strcaseeq c "ADDUSER" = true := by rw [strcaseeq_eq, decide_eq_true hc]
  refine ⟨u, p, hu, hp, ?_⟩
  unfold managementPrepareResponse
  simp only [h.first, h.second, h.third, h.fourth, hyes, strcaseeq_eq_false hc "STATS" (by decide),
    strcaseeq_eq_false hc "METRICS" (by decide), strcaseeq_eq_false hc "USERS" (by decide)]
  rfl

/-- The response to a command to remove a user with exactly a name. -/
theorem managementPrepareResponse_remove {command username : List Byte}
    (hw : managementWords readBuffer = [command, username]) (hc : Spells command "DELUSER") :
    ∃ u : CString, u.bytes = username ∧
      managementPrepareResponse users metrics readBuffer =
        ((usersRemove users (some u)).1, ascii "deluser=" ++ usersResultName (usersRemove users (some u)).2 ++
          ascii "\nusers_count=" ++ decimal (usersCount (usersRemove users (some u)).1) ++ ascii "\n") := by
  obtain ⟨c, a1, a2, a3, line1, line2, line3, h⟩ := strtoks readBuffer
  have hcommand := h.command
  have harg1 := h.arg1
  have harg2 := h.arg2
  rw [hw] at hcommand harg1 harg2
  obtain ⟨c, rfl, rfl⟩ := Option.map_eq_some_iff.mp hcommand
  obtain ⟨u, rfl, hu⟩ := Option.map_eq_some_iff.mp harg1
  obtain rfl := Option.map_eq_none_iff.mp harg2
  have hyes : strcaseeq c "DELUSER" = true := by rw [strcaseeq_eq, decide_eq_true hc]
  refine ⟨u, hu, ?_⟩
  unfold managementPrepareResponse
  simp only [h.first, h.second, h.third, hyes, strcaseeq_eq_false hc "STATS" (by decide),
    strcaseeq_eq_false hc "METRICS" (by decide), strcaseeq_eq_false hc "USERS" (by decide),
    strcaseeq_eq_false hc "ADDUSER" (by decide)]
  rfl

/-- The metrics say `=ok` nowhere. -/
theorem noOk_formatMetricsResponse (metrics : ServerMetrics) : NoOk (formatMetricsResponse metrics) := by
  have hfield : ∀ text name n, NoOk text → NoOk (ascii name) → (ascii name).head? ≠ some 0x6F →
      NoOk (text ++ ascii name ++ decimal n ++ ascii "\n") := by
    intro text name n ht hn hh
    exact (((ht.append hn hh).append (.of_decimal n) (NoOk.head_decimal n))).append (by decide) (by decide)
  have h1 := hfield [] "historical_connections=" metrics.historicalConnections.toNat (by decide) (by decide) (by decide)
  have h2 := hfield _ "concurrent_connections=" metrics.concurrentConnections.toNat h1 (by decide) (by decide)
  have h3 := hfield _ "successful_connections=" metrics.successfulConnections.toNat h2 (by decide) (by decide)
  have h4 := hfield _ "failed_connections=" metrics.failedConnections.toNat h3 (by decide) (by decide)
  have h5 := hfield _ "bytes_transferred=" metrics.totalTransferredBytes.toNat h4 (by decide) (by decide)
  have h6 := hfield _ "bytes_client_to_target=" metrics.bytesClientToTarget.toNat h5 (by decide) (by decide)
  exact hfield _ "bytes_target_to_client=" metrics.bytesTargetToClient.toNat h6 (by decide) (by decide)

/-- The response to a line that asks for no change: the users stay, and the line is refused, or it is a command that only reads. -/
theorem managementPrepareResponse_unasked (hw : UsersChange.asked (managementWords readBuffer) = none) :
    (managementPrepareResponse users metrics readBuffer).1 = users ∧
      (¬Commanded (managementWords readBuffer) ∧ (managementPrepareResponse users metrics readBuffer).2 ∈ refusals ∨
        Commanded (managementWords readBuffer) ∧ ((managementPrepareResponse users metrics readBuffer).2 ∈ [formatMetricsResponse
            metrics, ascii "ok=bye\n", ascii "commands=STATS,METRICS,USERS,ADDUSER,DELUSER,HELP,QUIT\n"] ∨
          (managementPrepareResponse users metrics readBuffer).2 = usersFormatList users managementBufferSize ∧
            ∃ command ∈ (managementWords readBuffer).head?, Spells command "USERS")) := by
  obtain ⟨c, a1, a2, a3, line1, line2, line3, h⟩ := strtoks readBuffer
  have hcommand := h.command
  have harg1 := h.arg1
  have harg2 := h.arg2
  have harg3 := h.arg3
  unfold managementPrepareResponse
  simp only [h.first, h.second, h.third, h.fourth]
  cases c with
  | none =>
    refine ⟨rfl, .inl ⟨fun hc => ?_, (by decide : ascii "error=empty_command\n" ∈ refusals)⟩⟩
    rw [List.eq_nil_of_length_eq_zero (Nat.le_zero.mp (List.getElem?_eq_none_iff.mp hcommand.symm))] at hc
    exact hc
  | some c =>
    have hplain : Commanded (managementWords readBuffer) ↔ ∃ name ∈ plainCommands, strcaseeq c name = true := by
      obtain ⟨args, hargs⟩ := List.head?_eq_some_iff.mp (List.head?_eq_getElem?.trans hcommand.symm)
      rw [hargs] at hw ⊢
      simp only [Commanded, hw, ne_eq, not_true_eq_false, false_or, strcaseeq_eq, decide_eq_true_eq]
    simp only [plainCommands, List.mem_cons, List.not_mem_nil, or_false, exists_eq_or_imp, exists_eq_left] at hplain
    have hrefused : ¬(strcaseeq c "STATS" || strcaseeq c "METRICS") = true → ¬strcaseeq c "USERS" = true →
        strcaseeq c "QUIT" = false → strcaseeq c "HELP" = false → ¬Commanded (managementWords readBuffer) := by
      intro h1 h2 h5 h6 hc
      rw [Bool.or_eq_true] at h1
      rcases hplain.mp hc with hs | hs | hs | hs | hs
      · exact h1 (.inl hs)
      · exact h1 (.inr hs)
      · exact h2 hs
      · exact absurd hs (by simp [h5])
      · exact absurd hs (by simp [h6])
    dsimp only
    by_cases h1 : (strcaseeq c "STATS" || strcaseeq c "METRICS") = true
    · rw [if_pos h1]
      rw [Bool.or_eq_true] at h1
      exact ⟨rfl, .inr ⟨hplain.mpr (h1.imp_right .inl), .inl List.mem_cons_self⟩⟩
    · rw [if_neg h1]
      by_cases h2 : strcaseeq c "USERS" = true
      · rw [if_pos h2]
        refine ⟨rfl, .inr ⟨hplain.mpr (.inr (.inr (.inl h2))), .inr ⟨rfl, c.bytes, List.head?_eq_getElem?.trans hcommand.symm, ?_⟩⟩⟩
        rw [strcaseeq_eq, decide_eq_true_eq] at h2
        exact h2
      · rw [if_neg h2]
        by_cases h3 : strcaseeq c "ADDUSER" = true
        · rw [if_pos h3]
          rw [strcaseeq_eq, decide_eq_true_eq] at h3
          split
          · exact ⟨rfl, .inl ⟨hrefused h1 h2 (strcaseeq_eq_false h3 "QUIT" (by decide))
              (strcaseeq_eq_false h3 "HELP" (by decide)), (by decide : ascii "error=usage_ADDUSER_user_pass\n" ∈ refusals)⟩⟩
          · -- the line asks for a user to be added
            rename_i hargs
            obtain ⟨u, rfl⟩ := Option.isSome_iff_exists.mp (show a1.isSome = true by cases a1 <;> simp_all)
            obtain ⟨p, rfl⟩ := Option.isSome_iff_exists.mp (show a2.isSome = true by cases a2 <;> simp_all)
            obtain rfl : a3 = none := by cases a3 <;> simp_all
            rw [words_of_three hcommand.symm harg1.symm harg2.symm harg3.symm, UsersChange.asked, if_pos h3] at hw
            cases hw
        · rw [if_neg h3]
          by_cases h4 : strcaseeq c "DELUSER" = true
          · rw [if_pos h4]
            rw [strcaseeq_eq, decide_eq_true_eq] at h4
            split
            · exact ⟨rfl, .inl ⟨hrefused h1 h2 (strcaseeq_eq_false h4 "QUIT" (by decide))
                (strcaseeq_eq_false h4 "HELP" (by decide)), (by decide : ascii "error=usage_DELUSER_user\n" ∈ refusals)⟩⟩
            · -- the line asks for a user to be removed
              rename_i hargs
              obtain ⟨u, rfl⟩ := Option.isSome_iff_exists.mp (show a1.isSome = true by cases a1 <;> simp_all)
              obtain rfl : a2 = none := by cases a2 <;> simp_all
              rw [words_of_two hcommand.symm harg1.symm harg2.symm, UsersChange.asked, if_pos h4] at hw
              cases hw
          · rw [if_neg h4]
            by_cases h5 : strcaseeq c "QUIT" = true
            · rw [if_pos h5]
              exact ⟨rfl, .inr ⟨hplain.mpr (.inr (.inr (.inr (.inl h5)))), .inl (.tail _ (.head _))⟩⟩
            · rw [if_neg h5]
              by_cases h6 : strcaseeq c "HELP" = true
              · rw [if_pos h6]
                exact ⟨rfl, .inr ⟨hplain.mpr (.inr (.inr (.inr (.inr h6)))), .inl (.tail _ (.tail _ (.head _)))⟩⟩
              · rw [if_neg h6]
                exact ⟨rfl, .inl ⟨hrefused h1 h2 (by simpa using h5) (by simpa using h6),
                  (by decide : ascii "error=unknown_command\n" ∈ refusals)⟩⟩

/-- The response to a line that asks for no change: the users stay, and unless it is the list of the users it says `=ok` nowhere. -/
theorem managementPrepareResponse_other (hw : UsersChange.asked (managementWords readBuffer) = none) :
    (managementPrepareResponse users metrics readBuffer).1 = users ∧
      ((managementPrepareResponse users metrics readBuffer).2 = usersFormatList users managementBufferSize ∧
          (∃ command ∈ (managementWords readBuffer).head?, Spells command "USERS") ∨
        NoOk (managementPrepareResponse users metrics readBuffer).2) := by
  obtain ⟨hsame, ⟨_, hresponse⟩ | ⟨_, hresponse | hlist⟩⟩ := managementPrepareResponse_unasked users metrics hw
  · exact ⟨hsame, .inr ((by decide : ∀ text ∈ refusals, NoOk text) _ hresponse)⟩
  · refine ⟨hsame, .inr ?_⟩
    simp only [List.mem_cons, List.not_mem_nil, or_false] at hresponse
    rcases hresponse with hr | hr | hr
    · rw [hr]
      exact noOk_formatMetricsResponse metrics
    · rw [hr]
      decide
    · rw [hr]
      decide
  · exact ⟨hsame, .inl hlist⟩

/-- The loop over the users leaves the beginning of the buffer alone. -/
theorem head_usersFormatLoop (bufferSize : Nat) (buffer : List Byte) {b : Byte} (hb : buffer.head? = some b) {written : Nat}
    (hw : 0 < written) : (usersFormatLoop bufferSize users buffer written).head? = some b := by
  induction users generalizing buffer written with
  | nil => exact hb
  | cons u users ih =>
    unfold usersFormatLoop
    split
    · split
      · refine ih _ ?_ (Nat.add_pos_left hw _)
        obtain ⟨rest, rfl⟩ := List.head?_eq_some_iff.mp hb
        obtain ⟨n, rfl⟩ := Nat.exists_eq_add_one.mpr hw
        rfl
      · exact ih _ hb hw
    · exact hb

/-- The list of the users begins with its own name. -/
theorem head_usersFormatList : (usersFormatList users managementBufferSize).head? = some 0x75 :=
  head_usersFormatLoop users _ (snprintfText managementBufferSize
    (ascii "users_count=" ++ decimal (usersCount users) ++ ascii "\n")).1 rfl (Nat.succ_pos _)

/-- What is left in the write buffer is the beginning of the response. -/
theorem managementReply_begins (readBuffer : List Byte) :
    managementReply users metrics readBuffer <+: (managementPrepareResponse users metrics readBuffer).2 :=
  (List.take_prefix _ _).trans (List.takeWhile_prefix _)

/-- A short response without NUL is left in the write buffer as it is. -/
theorem managementReply_eq {users users' : ManagedUsers} {metrics : ServerMetrics} {text : List Byte}
    (h : managementPrepareResponse users metrics readBuffer = (users', text)) (hnul : (0 : Byte) ∉ text)
    (hlen : text.length < managementBufferSize) : managementReply users metrics readBuffer = text := by
  rw [managementReply, h, CString.ofBuffer_of_noNul hnul, CString.snprintf_of_lt hlen]

/-- A text begins with the first byte of its first part. -/
theorem head_append {text : List Byte} {b : Byte} (h : text.head? = some b) (rest : List Byte) :
    (text ++ rest).head? = some b := by
  rw [List.head?_append, h]
  rfl

/-- The metrics begin with the name of the first. -/
theorem head_formatMetricsResponse (metrics : ServerMetrics) : (formatMetricsResponse metrics).head? = some 0x68 := by
  unfold formatMetricsResponse
  iterate 20 refine head_append ?_ _
  decide

/-- A refusal is short, without NUL, and begins with an `e`. -/
theorem refusals_fit : ∀ text ∈ refusals,
    (0 : Byte) ∉ text ∧ text.length < managementBufferSize ∧ text.head? = some 0x65 := by decide

/-- A line that is no command changes no user, and is answered with a refusal. -/
theorem managementReply_refused (hno : ¬Commanded (managementWords readBuffer)) :
    (managementPrepareResponse users metrics readBuffer).1 = users ∧ managementReply users metrics readBuffer ∈ refusals := by
  have ha : UsersChange.asked (managementWords readBuffer) = none := by
    revert hno
    cases managementWords readBuffer with
    | nil => exact fun _ => rfl
    | cons command args => exact fun hno => not_not.mp (not_or.mp hno).1
  obtain ⟨hsame, ⟨_, hresponse⟩ | ⟨hc, _⟩⟩ := managementPrepareResponse_unasked users metrics ha
  · obtain ⟨hnul, hlen, _⟩ := refusals_fit _ hresponse
    rw [managementReply_eq rfl hnul hlen]
    exact ⟨hsame, hresponse⟩
  · exact absurd hc hno

/-- The response to a command is not empty, and does not begin with an `e`. -/
theorem head_commanded (hc : Commanded (managementWords readBuffer)) :
    ∃ b, (managementPrepareResponse users metrics readBuffer).2.head? = some b ∧ b ≠ 0x65 ∧ b ≠ 0 := by
  cases ha : UsersChange.asked (managementWords readBuffer) with
  | none =>
    obtain ⟨_, ⟨hno, _⟩ | ⟨_, hresponse | ⟨hlist, _⟩⟩⟩ :=
      managementPrepareResponse_unasked users metrics ha
    · exact absurd hc hno
    · simp only [List.mem_cons, List.not_mem_nil, or_false] at hresponse
      rcases hresponse with hr | hr | hr <;> rw [hr]
      · exact ⟨_, head_formatMetricsResponse metrics, by decide, by decide⟩
      · exact ⟨0x6F, by decide⟩
      · exact ⟨0x63, by decide⟩
    · rw [hlist]
      exact ⟨_, head_usersFormatList users, by decide, by decide⟩
  | some change =>
    unfold UsersChange.asked at ha
    split at ha
    · rename_i hw
      split at ha
      · obtain ⟨u, p, _, _, heq⟩ := managementPrepareResponse_add users metrics hw ‹_›
        simp only [heq, List.append_assoc]
        exact ⟨0x61, head_append (by decide) _, by decide, by decide⟩
      · cases ha
    · rename_i hw
      split at ha
      · obtain ⟨u, _, heq⟩ := managementPrepareResponse_remove users metrics hw ‹_›
        simp only [heq, List.append_assoc]
        exact ⟨0x64, head_append (by decide) _, by decide, by decide⟩
      · cases ha
    · cases ha

/-- A command is answered with no refusal. -/
theorem managementReply_commanded (hc : Commanded (managementWords readBuffer)) :
    managementReply users metrics readBuffer ∉ refusals := by
  intro hm
  obtain ⟨b, hb, hne, _⟩ := head_commanded users metrics hc
  obtain ⟨rest, hrest⟩ := managementReply_begins users metrics readBuffer
  rw [← hrest, head_append (refusals_fit _ hm).2.2] at hb
  exact hne (Option.some.inj hb).symm

/-- An answer is never empty. -/
theorem managementReply_ne_nil (readBuffer : List Byte) : managementReply users metrics readBuffer ≠ [] := by
  by_cases hc : Commanded (managementWords readBuffer)
  · obtain ⟨b, hb, _, hne⟩ := head_commanded users metrics hc
    unfold managementReply CString.snprintf CString.ofBuffer
    generalize (managementPrepareResponse users metrics readBuffer).2 = text at hb
    cases text with
    | nil => cases hb
    | cons b' rest =>
      cases hb
      simp [hne, managementBufferSize]
  · intro hnil
    have hm := (managementReply_refused users metrics hc).2
    rw [hnil] at hm
    exact absurd (refusals_fit _ hm).2.2 (by decide)

/-- The report on a change of the users is short, and without NUL. -/
theorem report_fits (result : UsersResult) {n : Nat} (hn : n ≤ usersMax) (word : List Byte) (hnul : (0 : Byte) ∉ word)
    (hlen : word.length ≤ 8) :
    (0 : Byte) ∉ word ++ usersResultName result ++ ascii "\nusers_count=" ++ decimal n ++ ascii "\n" ∧
      (word ++ usersResultName result ++ ascii "\nusers_count=" ++ decimal n ++ ascii "\n").length < managementBufferSize := by
  have hdec : (decimal n).length ≤ 2 := by
    revert n
    decide
  have hname : (0 : Byte) ∉ usersResultName result ∧ (usersResultName result).length ≤ 9 := by cases result <;> decide
  have hdigits : (0 : Byte) ∉ decimal n := fun h => absurd (digit_of_mem_decimal h).1 (by decide)
  refine ⟨?_, ?_⟩
  · simp only [List.mem_append, not_or]
    exact ⟨⟨⟨⟨hnul, hname.1⟩, by decide⟩, hdigits⟩, by decide⟩
  · simp only [List.length_append]
    have h1 : (ascii "\nusers_count=").length = 13 := rfl
    have h2 : (ascii "\n").length = 1 := rfl
    have h3 : managementBufferSize = 1024 := rfl
    omega

/-- The report on a change that was not made says `=ok` nowhere. -/
theorem noOk_report {result : UsersResult} (h : result ≠ .ok) (n : Nat) {word : List Byte} (hw : NoOk word) :
    NoOk (word ++ usersResultName result ++ ascii "\nusers_count=" ++ decimal n ++ ascii "\n") := by
  have hname : NoOk (usersResultName result) ∧ (usersResultName result).head? ≠ some 0x6F := by
    cases result with
    | ok => exact absurd rfl h
    | «exists» => decide
    | notFound => decide
    | full => decide
    | invalid => decide
  exact ((((hw.append hname.1 hname.2).append (by decide) (by decide)).append (.of_decimal n) (NoOk.head_decimal n))).append
    (by decide) (by decide)

end Response

/-! ## A change of the map -/

section Change

variable {m : UserMap}

/-- Adding a user succeeds when it is legal, and then it is the insertion; otherwise nothing is changed. -/
theorem UserMap.add_eq (m : UserMap) (u p : CString) :
    ((UsersChange.insert u.bytes p.bytes).Legal m → (m.add (some u) (some p)).2 = .ok ∧
      (m.add (some u) (some p)).1.passwords = (UsersChange.insert u.bytes p.bytes).on m.passwords) ∧
    (¬(UsersChange.insert u.bytes p.bytes).Legal m → (m.add (some u) (some p)).2 ≠ .ok ∧ (m.add (some u) (some p)).1 = m) := by
  unfold UserMap.add
  dsimp only
  constructor
  · rintro ⟨hf, hk, hc⟩
    rw [dif_pos hf, dif_neg hk, dif_pos hc]
    exact ⟨rfl, rfl⟩
  · intro hno
    split
    · rename_i hf
      split
      · exact ⟨by simp, rfl⟩
      · rename_i hk
        split
        · exact absurd ⟨hf, hk, ‹_›⟩ hno
        · exact ⟨by simp, rfl⟩
    · exact ⟨by simp, rfl⟩

/-- Removing a user succeeds when it is legal, and then it is the erasure; otherwise nothing is changed. -/
theorem UserMap.remove_eq (m : UserMap) (u : CString) :
    ((UsersChange.erase u.bytes).Legal m → (m.remove (some u)).2 = .ok ∧
      (m.remove (some u)).1.passwords = (UsersChange.erase u.bytes).on m.passwords) ∧
    (¬(UsersChange.erase u.bytes).Legal m → (m.remove (some u)).2 ≠ .ok ∧ (m.remove (some u)).1 = m) := by
  unfold UserMap.remove
  dsimp only
  refine ⟨fun hk => ?_, fun hno => ?_⟩
  · have hk : u.bytes ∈ m.passwords := hk
    obtain ⟨password, hp⟩ := Option.isSome_iff_exists.mp (Finmap.lookup_isSome.mpr hk)
    rw [if_pos (m.fields _ _ hp).1, if_pos hk]
    exact ⟨rfl, rfl⟩
  · split
    · split
      · exact absurd ‹_› hno
      · exact ⟨by simp, rfl⟩
    · exact ⟨by simp, rfl⟩

/-- A user that was not added leaves the table as it was. -/
theorem usersAdd_unchanged {users : ManagedUsers} {username password : Option CString}
    (h : (usersAdd users username password).2 ≠ .ok) : (usersAdd users username password).1 = users := by
  revert h
  unfold usersAdd
  split
  · split
    · exact fun _ => rfl
    · split
      · exact fun _ => rfl
      · split
        · exact fun _ => rfl
        · exact fun h => absurd rfl h
  · exact fun _ => rfl

/-- A user that was not removed leaves the table as it was. -/
theorem usersRemove_unchanged {users : ManagedUsers} {username : Option CString} (h : (usersRemove users username).2 ≠ .ok) :
    (usersRemove users username).1 = users := by
  revert h
  unfold usersRemove
  split
  · exact fun _ => rfl
  · split
    · exact fun _ => rfl
    · split
      · exact fun _ => rfl
      · exact fun h => absurd rfl h

/-- The report on a line that asks for a change, when the change is as the map dictates. -/
theorem management_asked {users : ManagedUsers} (h : users.StandsFor m) (metrics : ServerMetrics) {readBuffer : List Byte}
    {change : UsersChange} (ha : UsersChange.asked (managementWords readBuffer) = some change) :
    ∃ result m', (managementPrepareResponse users metrics readBuffer).1.StandsFor m' ∧
      managementReply users metrics readBuffer = change.word ++ usersResultName result ++ ascii "\nusers_count=" ++
        decimal m'.passwords.keys.card ++ ascii "\n" ∧
      (change.Legal m → result = .ok ∧ m'.passwords = change.on m.passwords) ∧
      (¬change.Legal m → result ≠ .ok ∧ m' = m ∧ (managementPrepareResponse users metrics readBuffer).1 = users) := by
  unfold UsersChange.asked at ha
  split at ha
  · rename_i command username password hw
    split at ha
    · rename_i hc
      cases ha
      obtain ⟨u, p, rfl, rfl, heq⟩ := managementPrepareResponse_add users metrics hw hc
      obtain ⟨hstands, hresult⟩ := h.add (some u) (some p)
      obtain ⟨hlegal, hillegal⟩ := m.add_eq u p
      rw [hstands.count] at heq
      obtain ⟨hnul, hlen⟩ := report_fits (usersAdd users (some u) (some p)).2 (m.add (some u) (some p)).1.bounded
        (ascii "adduser=") (by decide) (by decide)
      refine ⟨_, _, heq ▸ hstands, managementReply_eq heq hnul hlen, fun hl => ?_, fun hn => ?_⟩
      · rw [hresult]
        exact hlegal hl
      · have hno := (hillegal hn).1
        rw [← hresult] at hno
        rw [heq]
        exact ⟨hno, (hillegal hn).2, usersAdd_unchanged hno⟩
    · cases ha
  · rename_i command username hw
    split at ha
    · rename_i hc
      cases ha
      obtain ⟨u, rfl, heq⟩ := managementPrepareResponse_remove users metrics hw hc
      obtain ⟨hstands, hresult⟩ := h.remove (some u)
      obtain ⟨hlegal, hillegal⟩ := m.remove_eq u
      rw [hstands.count] at heq
      obtain ⟨hnul, hlen⟩ := report_fits (usersRemove users (some u)).2 (m.remove (some u)).1.bounded
        (ascii "deluser=") (by decide) (by decide)
      refine ⟨_, _, heq ▸ hstands, managementReply_eq heq hnul hlen, fun hl => ?_, fun hn => ?_⟩
      · rw [hresult]
        exact hlegal hl
      · have hno := (hillegal hn).1
        rw [← hresult] at hno
        rw [heq]
        exact ⟨hno, (hillegal hn).2, usersRemove_unchanged hno⟩
    · cases ha
  · cases ha

/-- What `management_prepare_response` does to the users, for every line and every table. A line whose words are a command to
change the users, with exactly the arguments of that command, is answered with the result and the number of users that are left; if
the map of users allows the change, the change is made and the result is `ok`, and otherwise the table stays as it is and the result
is another. After every other line the table stays as it is too, and then the reply begins with neither report of success and, unless
it is the list of the users, says `=ok` nowhere. -/
theorem management_line (users : ManagedUsers) (m : UserMap) (h : users.StandsFor m) (metrics : ServerMetrics)
    (readBuffer : List Byte) :
    (∀ change, UsersChange.asked (managementWords readBuffer) = some change → ∃ result m',
      (managementPrepareResponse users metrics readBuffer).1.StandsFor m' ∧
      managementReply users metrics readBuffer = change.word ++ usersResultName result ++ ascii "\nusers_count=" ++
        decimal m'.passwords.keys.card ++ ascii "\n" ∧
      (change.Legal m → result = .ok ∧ m'.passwords = change.on m.passwords) ∧
      (¬change.Legal m → result ≠ .ok ∧ m' = m)) ∧
    ((∀ change, UsersChange.asked (managementWords readBuffer) = some change → ¬change.Legal m) →
      (managementPrepareResponse users metrics readBuffer).1 = users ∧
      ¬ascii "adduser=ok" <+: managementReply users metrics readBuffer ∧
      ¬ascii "deluser=ok" <+: managementReply users metrics readBuffer ∧
      ((∃ command ∈ (managementWords readBuffer).head?, Spells command "USERS") ∨
        ¬ascii "=ok" <:+: managementReply users metrics readBuffer)) := by
  -- a reply that says `=ok` nowhere does not begin with it either
  have hquiet : ¬ascii "=ok" <:+: managementReply users metrics readBuffer →
      ¬ascii "adduser=ok" <+: managementReply users metrics readBuffer ∧
      ¬ascii "deluser=ok" <+: managementReply users metrics readBuffer := by
    intro hno
    refine ⟨fun hp => hno ?_, fun hp => hno ?_⟩
    · exact (List.suffix_append (ascii "adduser") (ascii "=ok")).isInfix.trans hp.isInfix
    · exact (List.suffix_append (ascii "deluser") (ascii "=ok")).isInfix.trans hp.isInfix
  refine ⟨fun change ha => ?_, fun hno => ?_⟩
  · obtain ⟨result, m', hstands, hreply, hlegal, hillegal⟩ := management_asked h metrics ha
    exact ⟨result, m', hstands, hreply, hlegal, fun hn => ⟨(hillegal hn).1, (hillegal hn).2.1⟩⟩
  · cases ha : UsersChange.asked (managementWords readBuffer) with
    | some change =>
      obtain ⟨result, m', _, hreply, _, hillegal⟩ := management_asked h metrics ha
      obtain ⟨hresult, _, hsame⟩ := hillegal (hno change ha)
      have hok : ¬ascii "=ok" <:+: managementReply users metrics readBuffer := by
        rw [hreply]
        refine (noOk_report hresult _ ?_).not_ok
        cases change with
        | insert _ _ => exact (by decide : NoOk (ascii "adduser="))
        | erase _ => exact (by decide : NoOk (ascii "deluser="))
      exact ⟨hsame, (hquiet hok).1, (hquiet hok).2, .inr hok⟩
    | none =>
      obtain ⟨hsame, ⟨hlist, hcommand⟩ | hok⟩ := managementPrepareResponse_other users metrics ha
      · -- the list of the users begins with neither report
        have hhead : ∀ text b, text.head? = some b → b ≠ 0x75 → ¬text <+: managementReply users metrics readBuffer := by
          intro text b hb hne hp
          obtain ⟨rest, hrest⟩ := hp.trans (hlist ▸ managementReply_begins _ _ _)
          have hu := head_usersFormatList users
          obtain ⟨tail, rfl⟩ := List.head?_eq_some_iff.mp hb
          rw [← hrest] at hu
          exact hne (Option.some.inj hu)
        exact ⟨hsame, hhead _ 0x61 rfl (by decide), hhead _ 0x64 rfl (by decide), .inl hcommand⟩
      · have hno : ¬ascii "=ok" <:+: managementReply users metrics readBuffer := fun hi =>
          hok.not_ok (hi.trans (managementReply_begins _ _ _).isInfix)
        exact ⟨hsame, (hquiet hno).1, (hquiet hno).2, .inr hno⟩

end Change

/-- A line adds a first user to an empty table. -/
theorem management_line_first :
    ∃ m', (managementPrepareResponse (usersInitFromArgs []) .zeroed (ascii "AddUser  a\tb\r\n")).1.StandsFor m' ∧
      m'.passwords = (∅ : Finmap fun _ : List Byte => List Byte).insert (ascii "a") (ascii "b") ∧
      managementReply (usersInitFromArgs []) .zeroed (ascii "AddUser  a\tb\r\n") =
        ascii "adduser=ok\nusers_count=" ++ decimal m'.passwords.keys.card ++ ascii "\n" := by
  obtain ⟨result, m', hstands, hreply, hlegal, _⟩ :=
    (management_line (usersInitFromArgs []) (.ofArgs []) (standsFor_usersInitFromArgs []) .zeroed
      (ascii "AddUser  a\tb\r\n")).1 (.insert (ascii "a") (ascii "b")) (by decide)
  obtain ⟨rfl, hm⟩ := hlegal ⟨by decide, Finmap.notMem_empty, by decide⟩
  exact ⟨m', hstands, hm, hreply⟩

example :
    (managementPrepareResponse .zeroed .zeroed (ascii "adduser a b c\n")).2 = ascii "error=usage_ADDUSER_user_pass\n" ∧
      (managementPrepareResponse .zeroed .zeroed (ascii " \t\n")).2 = ascii "error=empty_command\n" := by decide

end SocksProxy
