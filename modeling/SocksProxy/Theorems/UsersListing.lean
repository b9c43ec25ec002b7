import SocksProxy.Library.Lines
import Mathlib.Algebra.Ring.Nat
import SocksProxy.Theorems.ManagementInput

/-!
# The list of the users

The reply to `USERS` says how many users there are and then names them, one on each line. It is printed into the write buffer of its
connection, piece after piece, and what does not fit is left out without a word: the number stays that of all users.
-/

namespace SocksProxy

/-- The users after lines of the management protocol, each with the metrics of its moment, from a table without users. -/
def managedBy (lines : List (ServerMetrics × List Byte)) : ManagedUsers :=
  lines.foldl (fun users line => (managementPrepareResponse users line.1 line.2).1) .zeroed

/-- A line of the protocol whose command is `USERS`. -/
def AsksUsers (readBuffer : List Byte) : Prop := ∃ command ∈ (managementWords readBuffer).head?, Spells command "USERS"

/-- The value of a line with this key, if the line has it. -/
def lineValue (key : List Byte) (line : List Byte) : Option (List Byte) :=
  if key <+: line then some (line.drop key.length) else none

/-- The values of the complete lines of a reply that have this key. -/
def replyValues (key : List Byte) (reply : List Byte) : List (List Byte) :=
  (Lines.complete lineFeed reply).filterMap (lineValue key)

/-- A reply lists the users of a map: it has a line for each of them, and one with their number. -/
structure ListsUsers (reply : List Byte) (m : UserMap) : Prop where
  count : replyValues (ascii "users_count=") reply = [decimal (replyValues (ascii "user=") reply).length]
  once : (replyValues (ascii "user=") reply).Nodup
  names : (replyValues (ascii "user=") reply).toFinset = m.passwords.keys

/-- The parts of a buffer that the loop of `users_format_list` prints into, each with its offset and how many bytes of it are
written: as many as the text has, and its terminator, but no more than `buffer_size - written`. -/
def usersFormatStores (bufferSize : Nat) : ManagedUsers → Nat → List (Nat × Nat)
  | [], _ => []
  | u :: rest, written =>
    if written < bufferSize then
      if u.inUse then
        let n := (snprintfText (bufferSize - written) (ascii "user=" ++ u.username.bytes ++ ascii "\n")).2
        (written, min (n + 1) (bufferSize - written)) :: usersFormatStores bufferSize rest (written + n)
      else usersFormatStores bufferSize rest written
    else []

/-- The parts of a buffer that `users_format_list` prints into. -/
def usersListStores (users : ManagedUsers) (bufferSize : Nat) : List (Nat × Nat) :=
  if bufferSize = 0 then []
  else
    let n := (snprintfText bufferSize (ascii "users_count=" ++ decimal (usersCount users) ++ ascii "\n")).2
    (0, min (n + 1) bufferSize) :: usersFormatStores bufferSize users n

/-- How long the list of the users is: the line of their number, and a line for each name. -/
def usersListLength (users : ManagedUsers) : Nat :=
  (ascii "users_count=").length + (decimal (usersCount users)).length + 1 +
    ((users.filter (·.inUse)).map fun u => (ascii "user=").length + u.username.strlen + 1).sum

/-! ## The text that is printed -/

/-- The line of the number of users. -/
def countLine (users : ManagedUsers) : List Byte := ascii "users_count=" ++ decimal (usersCount users)

/-- The lines of the users. -/
def userLines (users : ManagedUsers) : List (List Byte) := users.entries.keys.map (ascii "user=" ++ ·)

@[simp] theorem userLines_nil : userLines [] = [] := rfl

/-- A slot that is not in use has no line. -/
theorem userLines_free {u : ManagedUser} (h : u.inUse = false) (users : ManagedUsers) : userLines (u :: users) = userLines users := by
  simp [userLines, ManagedUsers.entries, SlotTable.entries, ManagedUser.entry_eq_none.mpr h]

/-- The line of a slot in use. -/
theorem userLines_used {u : ManagedUser} (h : u.inUse = true) (users : ManagedUsers) :
    userLines (u :: users) = (ascii "user=" ++ u.username.bytes) :: userLines users := by
  have he : u.entry = some ⟨u.username.bytes, u.password.bytes⟩ := ManagedUser.entry_eq_some.mpr ⟨h, rfl, rfl⟩
  simp [userLines, ManagedUsers.entries, SlotTable.entries, he]

/-- The loop goes on printing the lines, and drops what is beyond the buffer. -/
theorem usersFormatLoop_eq (bufferSize : Nat) (users : ManagedUsers) (text : List Byte) :
    usersFormatLoop bufferSize users (text.take (bufferSize - 1)) text.length =
      (text ++ Lines.text lineFeed (userLines users)).take (bufferSize - 1) := by
  induction users generalizing text with
  | nil => rw [userLines_nil, Lines.text_nil, List.append_nil, usersFormatLoop]
  | cons u users ih =>
    rw [usersFormatLoop]
    by_cases hw : text.length < bufferSize
    · rw [if_pos hw]
      cases hu : u.inUse with
      | false =>
        rw [userLines_free hu]
        exact ih text
      | true =>
        rw [userLines_used hu, if_pos rfl]
        have hnext := ih (text ++ (ascii "user=" ++ u.username.bytes ++ ascii "\n"))
        have hlines : text ++ Lines.text lineFeed ((ascii "user=" ++ u.username.bytes) :: userLines users) =
            text ++ (ascii "user=" ++ u.username.bytes ++ ascii "\n") ++ Lines.text lineFeed (userLines users) := by
          simp [lineFeed, ascii]
        have hbuffer : (text.take (bufferSize - 1)).take text.length = text := by
          rw [List.take_of_length_le (show text.length ≤ bufferSize - 1 by omega), List.take_length]
        rw [hlines, ← hnext]
        generalize ascii "user=" ++ u.username.bytes ++ ascii "\n" = line
        rw [snprintfText]
        dsimp only
        rw [hbuffer, List.take_append, List.take_of_length_le (show text.length ≤ bufferSize - 1 by omega), List.length_append,
          Nat.sub_right_comm]
    · rw [if_neg hw, List.take_append_of_le_length (by omega)]

/-- What is printed is the beginning of all the lines. -/
theorem usersFormatList_eq (users : ManagedUsers) {bufferSize : Nat} (h : 0 < bufferSize) :
    usersFormatList users bufferSize =
      (Lines.text lineFeed (countLine users :: userLines users)).take (bufferSize - 1) := by
  have hloop := usersFormatLoop_eq bufferSize users (countLine users ++ [lineFeed])
  rw [usersFormatList, if_neg (Nat.ne_of_gt h), Lines.text_cons, List.append_cons, ← hloop]
  rfl

/-- The length of all the lines. -/
theorem length_usersList (users : ManagedUsers) :
    (Lines.text lineFeed (countLine users :: userLines users)).length = usersListLength users := by
  have hlines : (Lines.text lineFeed (userLines users)).length =
      ((users.filter (·.inUse)).map fun u => (ascii "user=").length + u.username.strlen + 1).sum := by
    induction users with
    | nil => rfl
    | cons u users ih =>
      cases hu : u.inUse with
      | false => rw [userLines_free hu, ih, List.filter_cons_of_neg (by simp [hu])]
      | true =>
        rw [userLines_used hu, List.filter_cons_of_pos (by simp [hu]), List.map_cons, List.sum_cons, ← ih, Lines.text_cons]
        simp only [List.length_append, List.length_cons, CString.strlen]
        omega
  rw [Lines.text_cons, List.length_append, List.length_cons, hlines, countLine, List.length_append, usersListLength]
  omega

/-- Every part that is printed into is inside the buffer. -/
theorem usersListStores_inside (users : ManagedUsers) (bufferSize : Nat) :
    ∀ store ∈ usersListStores users bufferSize, store.1 + store.2 ≤ bufferSize := by
  have hloop : ∀ written, ∀ store ∈ usersFormatStores bufferSize users written, store.1 + store.2 ≤ bufferSize := by
    induction users with
    | nil => simp [usersFormatStores]
    | cons u users ih =>
      intro written store hm
      rw [usersFormatStores] at hm
      split at hm
      · split at hm
        · rcases List.mem_cons.mp hm with rfl | hm
          · dsimp only
            omega
          · exact ih _ _ hm
        · exact ih _ _ hm
      · cases hm
  intro store hm
  rw [usersListStores] at hm
  split at hm
  · cases hm
  · rcases List.mem_cons.mp hm with rfl | hm
    · dsimp only
      omega
    · exact hloop _ _ hm

/-! ## Names without a line feed -/

/-- The words of a line have no line feed and no NUL. -/
theorem letter_of_mem_managementWords {readBuffer word : List Byte} (h : word ∈ managementWords readBuffer) {b : Byte}
    (hb : b ∈ word) : b ≠ lineFeed ∧ b ≠ 0 := by
  have hline := List.mem_takeWhile_imp (Words.letter_of_mem_words _ h hb).1
  simp only [Bool.and_eq_true, bne_iff_ne] at hline
  exact ⟨hline.1.2, hline.2⟩

/-- The users of a table have a map, and no name has a line feed. -/
def ManagedUsers.Plain (users : ManagedUsers) : Prop :=
  ∃ m, users.StandsFor m ∧ ∀ name ∈ m.passwords, lineFeed ∉ name

/-- A line keeps names without a line feed. -/
theorem ManagedUsers.Plain.line {users : ManagedUsers} (h : users.Plain) (metrics : ServerMetrics) (readBuffer : List Byte) :
    (managementPrepareResponse users metrics readBuffer).1.Plain := by
  obtain ⟨m, hm, hnames⟩ := h
  cases ha : UsersChange.asked (managementWords readBuffer) with
  | none =>
    rw [(managementPrepareResponse_unasked users metrics ha).1]
    exact ⟨m, hm, hnames⟩
  | some change =>
    obtain ⟨_, m', hm', _, hlegal, hillegal⟩ := management_asked hm metrics ha
    by_cases hl : change.Legal m
    · refine ⟨m', hm', fun name hname => ?_⟩
      rw [(hlegal hl).2] at hname
      cases change with
      | erase username => exact hnames name (Finmap.mem_erase.mp hname).2
      | insert username password =>
        rcases Finmap.mem_insert.mp hname with rfl | hname
        · -- the name is the second word of the line
          unfold UsersChange.asked at ha
          split at ha
          · rename_i command username password hw
            split at ha
            · cases ha
              intro hlf
              exact (letter_of_mem_managementWords (by rw [hw]; simp) hlf).1 rfl
            · cases ha
          · split at ha <;> cases ha
          · cases ha
        · exact hnames name hname
    · rw [(hillegal hl).2.2]
      exact ⟨m, hm, hnames⟩

/-- The users of the protocol have names without a line feed. -/
theorem plain_managedBy (lines : List (ServerMetrics × List Byte)) : (managedBy lines).Plain := by
  induction lines using List.reverseRecOn with
  | nil => exact ⟨.ofArgs [], standsFor_usersInitFromArgs [], fun name hname => absurd hname Finmap.notMem_empty⟩
  | append_singleton lines line ih =>
    rw [managedBy, List.foldl_append]
    exact ih.line line.1 line.2

/-! ## The reply -/

section Reply

variable (users : ManagedUsers) (metrics : ServerMetrics) {readBuffer : List Byte}

/-- The response to a line whose command is `USERS`. -/
theorem managementPrepareResponse_users (h : AsksUsers readBuffer) :
    managementPrepareResponse users metrics readBuffer = (users, usersFormatList users managementBufferSize) := by
  obtain ⟨word, hword, hspells⟩ := h
  obtain ⟨c, a1, a2, a3, line1, line2, line3, ht⟩ := strtoks readBuffer
  have hcommand := ht.command
  rw [← List.head?_eq_getElem?, Option.mem_def.mp hword] at hcommand
  obtain ⟨c, rfl, rfl⟩ := Option.map_eq_some_iff.mp hcommand
  have hyes : strcaseeq c "USERS" = true := by rw [strcaseeq_eq, decide_eq_true hspells]
  unfold managementPrepareResponse
  simp only [ht.first, ht.second, ht.third, hyes, strcaseeq_eq_false hspells "STATS" (by decide),
    strcaseeq_eq_false hspells "METRICS" (by decide)]
  rfl

variable {users}

/-- No line of the list has a line feed. -/
theorem lineFeed_notMem_lines {m : UserMap} (hm : users.StandsFor m) (hnames : ∀ name ∈ m.passwords, lineFeed ∉ name) :
    ∀ line ∈ countLine users :: userLines users, lineFeed ∉ line := by
  intro line hline
  rcases List.mem_cons.mp hline with rfl | hline
  · intro hlf
    rcases List.mem_append.mp hlf with hlf | hlf
    · exact absurd hlf (by decide)
    · exact absurd (digit_of_mem_decimal hlf).1 (by decide)
  · obtain ⟨name, hname, rfl⟩ := List.mem_map.mp hline
    have hkey : name ∈ m.passwords := by
      rw [Finmap.mem_def, show m.passwords.entries = _ from hm.entries, Multiset.coe_keys, Multiset.mem_coe]
      exact hname
    intro hlf
    rcases List.mem_append.mp hlf with hlf | hlf
    · exact absurd hlf (by decide)
    · exact hnames name hkey hlf

/-- The list of the users has no NUL. -/
theorem nul_notMem_lines (users : ManagedUsers) : (0 : Byte) ∉ Lines.text lineFeed (countLine users :: userLines users) := by
  intro hnul
  obtain ⟨line, hline, hnul⟩ := List.mem_flatMap.mp hnul
  rcases List.mem_append.mp hnul with hnul | hnul
  · rcases List.mem_cons.mp hline with rfl | hline
    · rcases List.mem_append.mp hnul with hnul | hnul
      · exact absurd hnul (by decide)
      · exact absurd (digit_of_mem_decimal hnul).1 (by decide)
    · obtain ⟨name, hname, rfl⟩ := List.mem_map.mp hline
      rcases List.mem_append.mp hnul with hnul | hnul
      · exact absurd hnul (by decide)
      · obtain ⟨e, he, rfl⟩ := List.mem_map.mp hname
        obtain ⟨u, _, hu⟩ := List.mem_filterMap.mp he
        rw [← (ManagedUser.entry_eq_some.mp hu).2.1] at hnul
        exact u.username.noNul hnul
  · exact absurd hnul (by decide)

/-- The reply to `USERS` is the list of the users, as much of it as fits. -/
theorem managementReply_users (h : AsksUsers readBuffer) :
    managementReply users metrics readBuffer =
      (Lines.text lineFeed (countLine users :: userLines users)).take (managementBufferSize - 1) := by
  have hnul : (0 : Byte) ∉ usersFormatList users managementBufferSize := by
    rw [usersFormatList_eq users (by decide)]
    exact fun hm => nul_notMem_lines users (List.mem_of_mem_take hm)
  rw [managementReply, managementPrepareResponse_users users metrics h, CString.ofBuffer_of_noNul hnul]
  simp only [CString.snprintf]
  rw [usersFormatList_eq users (by decide), List.take_take, Nat.min_self]

/-- The value of a line with the key. -/
theorem lineValue_key (key value : List Byte) : lineValue key (key ++ value) = some value := by
  rw [lineValue, if_pos (List.prefix_append key value), List.drop_left]

/-- A line with another key has no value. -/
theorem lineValue_other {key key' : List Byte} (h : ¬key <+: key') (h' : ¬key' <+: key) (value : List Byte) :
    lineValue key (key' ++ value) = none := by
  rw [lineValue, if_neg]
  intro hp
  exact (List.prefix_or_prefix_of_prefix hp (List.prefix_append key' value)).elim h h'

/-- The values of the first lines of the list, when the line of the number is among them. -/
theorem values_lines (users : ManagedUsers) (n : Nat) :
    ((countLine users :: userLines users).take (n + 1)).filterMap (lineValue (ascii "users_count=")) = [decimal (usersCount users)] ∧
    ((countLine users :: userLines users).take (n + 1)).filterMap (lineValue (ascii "user=")) = users.entries.keys.take n := by
  have hothers : lineValue (ascii "users_count=") ∘ (ascii "user=" ++ ·) = fun _ => none :=
    funext fun name => lineValue_other (by decide) (by decide) name
  have hnames : lineValue (ascii "user=") ∘ (ascii "user=" ++ ·) = some := funext fun name => lineValue_key _ name
  rw [List.take_succ_cons, userLines, ← List.map_take]
  constructor
  · rw [List.filterMap_cons, countLine, lineValue_key, List.filterMap_map, hothers]
    simp
  · rw [List.filterMap_cons, countLine, lineValue_other (by decide) (by decide), List.filterMap_map, hnames, List.filterMap_some]

/-- The reply lists the users if and only if the list fits. -/
theorem listsUsers_iff {m : UserMap} (hm : users.StandsFor m) (hnames : ∀ name ∈ m.passwords, lineFeed ∉ name)
    (h : AsksUsers readBuffer) :
    ListsUsers (managementReply users metrics readBuffer) m ↔ usersListLength users < managementBufferSize := by
  obtain ⟨n, hlines, hfit, hmore⟩ := Lines.complete_take (lineFeed_notMem_lines hm hnames) (managementBufferSize - 1)
  have hlen := length_usersList users
  have hkeys : (userLines users).length = users.entries.keys.length := List.length_map _
  have hcard : usersCount users = users.entries.keys.length := by rw [← users.length_entries, List.keys, List.length_map]
  rw [← managementReply_users metrics h] at hlines
  -- the line of the number fits
  obtain ⟨n, rfl⟩ : ∃ j, n = j + 1 := by
    cases n with
    | succ j => exact ⟨j, rfl⟩
    | zero =>
      have hone := hmore (Nat.succ_pos _)
      have hdec : (decimal (usersCount users)).length ≤ 2 := by
        have hle : usersCount users ≤ usersMax := hm.length ▸ List.countP_le_length
        exact (by decide : ∀ n < usersMax + 1, (decimal n).length ≤ 2) _ (Nat.lt_succ_of_le hle)
      rw [Nat.zero_add, List.take_succ_cons, List.take_zero, Lines.text_cons, Lines.text_nil, List.length_append, countLine,
        List.length_append] at hone
      have hword : (ascii "users_count=").length = 12 := by decide
      have hsize : managementBufferSize = 1024 := rfl
      simp only [List.length_cons, List.length_nil] at hone
      omega
  obtain ⟨hcount, husers⟩ := values_lines users n
  have hvalues : replyValues (ascii "users_count=") (managementReply users metrics readBuffer) = [decimal (usersCount users)] ∧
      replyValues (ascii "user=") (managementReply users metrics readBuffer) = users.entries.keys.take n := by
    simp only [replyValues, hlines]
    exact ⟨hcount, husers⟩
  constructor
  · intro hl
    have hall := hl.count
    rw [hvalues.1, hvalues.2, List.cons.injEq] at hall
    have heq := decimal_inj hall.1
    rw [List.length_take] at heq
    have hwhole : (countLine users :: userLines users).take (n + 1) = countLine users :: userLines users := by
      refine List.take_of_length_le ?_
      rw [List.length_cons, hkeys]
      omega
    rw [hwhole, hlen] at hfit
    exact Nat.lt_of_le_of_lt hfit (by decide)
  · intro hlt
    have hn : (users.entries.keys).length ≤ n := by
      by_contra hlt'
      have hcut := hmore (by rw [List.length_cons, hkeys]; omega)
      have hle : (Lines.text lineFeed ((countLine users :: userLines users).take (n + 1 + 1))).length ≤ usersListLength users := by
        rw [← hlen]
        conv_rhs => rw [← List.take_append_drop (n + 1 + 1) (countLine users :: userLines users), Lines.text_append,
          List.length_append]
        exact Nat.le_add_right _ _
      omega
    rw [List.take_of_length_le hn] at hvalues
    refine ⟨?_, ?_, ?_⟩
    · rw [hvalues.1, hvalues.2, hcard]
    · rw [hvalues.2]
      exact hm.entries.nodupKeys
    · rw [hvalues.2]
      ext name
      rw [List.mem_toFinset, Finmap.mem_keys, Finmap.mem_def, show m.passwords.entries = _ from hm.entries, Multiset.coe_keys,
        Multiset.mem_coe]
      rfl

end Reply

/-- The list of the users, after every sequence of lines of the management protocol from a table without users. The reply to `USERS`
stays inside the write buffer, and so does everything that is printed for it. It has a line for each user, with the whole name, and as
many of these lines as it says, if and only if all of the list fits into the buffer with its terminator. -/
theorem users_listed (lines : List (ServerMetrics × List Byte)) (metrics : ServerMetrics) (readBuffer : List Byte)
    (h : AsksUsers readBuffer) :
    (managementReply (managedBy lines) metrics readBuffer).length < managementBufferSize ∧
    (∀ store ∈ usersListStores (managedBy lines) managementBufferSize, store.1 + store.2 ≤ managementBufferSize) ∧
    ∃ m, (managedBy lines).StandsFor m ∧
      (ListsUsers (managementReply (managedBy lines) metrics readBuffer) m ↔
        usersListLength (managedBy lines) < managementBufferSize) := by
  obtain ⟨m, hm, hnames⟩ := plain_managedBy lines
  refine ⟨?_, usersListStores_inside _ _, m, hm, listsUsers_iff metrics hm hnames h⟩
  rw [managementReply_users metrics h, List.length_take]
  exact Nat.lt_of_le_of_lt (Nat.min_le_left _ _) (by decide)

/-- The line that adds a user whose name is 255 bytes long. -/
def longUserLine (digit : String) : List Byte := ascii "ADDUSER " ++ List.replicate 254 0x61 ++ ascii digit ++ ascii " p\n"

/-- Four users with long names are added. -/
def longUserLines : List (ServerMetrics × List Byte) := ["1", "2", "3", "4"].map fun digit => (.zeroed, longUserLine digit)

/-- One user with a short name is listed. -/
theorem users_listed_one :
    AsksUsers (ascii "USERS\n") ∧ ∃ m, (managedBy [(.zeroed, ascii "ADDUSER a p\n")]).StandsFor m ∧
      ListsUsers (managementReply (managedBy [(.zeroed, ascii "ADDUSER a p\n")]) .zeroed (ascii "USERS\n")) m := by
  have hasks : AsksUsers (ascii "USERS\n") := ⟨ascii "USERS", by decide, by decide⟩
  obtain ⟨_, _, m, hm, hlists⟩ := users_listed [(.zeroed, ascii "ADDUSER a p\n")] .zeroed (ascii "USERS\n") hasks
  exact ⟨hasks, m, hm, hlists.mpr (by decide +kernel)⟩

/-- Of four users with long names, the reply says that they are four and names three. -/
theorem longUserLines_listed :
    replyValues (ascii "users_count=") (managementReply (managedBy longUserLines) .zeroed (ascii "USERS\n")) = [ascii "4"] ∧
    (replyValues (ascii "user=") (managementReply (managedBy longUserLines) .zeroed (ascii "USERS\n"))).length = 3 ∧
    ¬∀ lines metrics readBuffer, AsksUsers readBuffer → ∀ m, (managedBy lines).StandsFor m →
      ListsUsers (managementReply (managedBy lines) metrics readBuffer) m := by
  have hcount : replyValues (ascii "users_count=") (managementReply (managedBy longUserLines) .zeroed (ascii "USERS\n")) =
      [ascii "4"] := by decide +kernel
  have hnames : (replyValues (ascii "user=") (managementReply (managedBy longUserLines) .zeroed (ascii "USERS\n"))).length = 3 := by
    decide +kernel
  refine ⟨hcount, hnames, fun hall => ?_⟩
  obtain ⟨m, hm, _⟩ := plain_managedBy longUserLines
  have hl := (hall longUserLines .zeroed (ascii "USERS\n") ⟨ascii "USERS", by decide, by decide⟩ m hm).count
  rw [hcount, hnames] at hl
  exact absurd hl (by decide)

end SocksProxy
