import SocksProxy.Theorems.MetricsReport
import SocksProxy.Theorems.UsersHistory

/-!
# No password is told

What the management protocol answers depends on who the users are, never on their passwords. Two runs that execute the same lines, but
for the passwords in them, from tables of the same users, give the same answers, byte by byte, whatever the passwords are.
-/

namespace SocksProxy

/-! ## The table without its passwords -/

/-- Whose a slot is, if it is in use. -/
def ManagedUser.name (u : ManagedUser) : Option CString := if u.inUse then some u.username else none

/-- Who the users are, slot by slot. -/
def ManagedUsers.names (users : ManagedUsers) : List (Option CString) := users.map ManagedUser.name

section Table

variable {users users' : ManagedUsers}

/-- A slot is in use where there is a name. -/
theorem ManagedUser.isSome_name (u : ManagedUser) : u.name.isSome = u.inUse := by
  unfold ManagedUser.name
  cases u.inUse <;> rfl

/-- The count of the users is that of their names. -/
theorem usersCount_names (users : ManagedUsers) : usersCount users = users.names.countP (·.isSome) := by
  unfold usersCount ManagedUsers.names
  rw [List.countP_map]
  exact List.countP_congr fun u _ => by rw [Function.comp_apply, ManagedUser.isSome_name]

/-- A user is found by the names. -/
theorem findUserIndex_names (users : ManagedUsers) (username : CString) :
    findUserIndex users username = users.names.findIdx? (· == some username) := by
  unfold findUserIndex ManagedUsers.names
  rw [List.findIdx?_map]
  refine congrArg (users.findIdx? ·) (funext fun u => ?_)
  rw [Function.comp_apply, ManagedUser.name]
  cases u.inUse <;> simp

/-- A free slot is found by the names. -/
theorem findFreeIndex_names (users : ManagedUsers) : findFreeIndex users = users.names.findIdx? (!·.isSome) := by
  unfold findFreeIndex ManagedUsers.names
  rw [List.findIdx?_map]
  exact congrArg (users.findIdx? ·) (funext fun u => by rw [Function.comp_apply, ManagedUser.isSome_name])

/-- The names after a slot was filled or freed. -/
theorem ManagedUsers.names_set (users : ManagedUsers) (i : Nat) (u : ManagedUser) :
    ManagedUsers.names (users.set i u) = users.names.set i u.name :=
  List.map_set

/-- The list of the users shows their names. -/
theorem usersFormatLoop_names {bufferSize : Nat} (h : users.names = users'.names) (buffer : List Byte) (written : Nat) :
    usersFormatLoop bufferSize users buffer written = usersFormatLoop bufferSize users' buffer written := by
  induction users generalizing users' buffer written with
  | nil =>
    obtain rfl : users' = [] := List.map_eq_nil_iff.mp h.symm
    rfl
  | cons u users ih =>
    cases users' with
    | nil => cases h
    | cons u' users' =>
      obtain ⟨hu, hrest⟩ := List.cons.inj h
      unfold usersFormatLoop
      unfold ManagedUser.name at hu
      cases hin : u.inUse <;> cases hin' : u'.inUse <;> rw [hin, hin'] at hu
      · split
        · exact ih hrest _ _
        · rfl
      · cases hu
      · cases hu
      · rw [Option.some.inj hu]
        split
        · exact ih hrest _ _
        · rfl

/-- The answer to USERS shows the names. -/
theorem usersFormatList_names (h : users.names = users'.names) (bufferSize : Nat) :
    usersFormatList users bufferSize = usersFormatList users' bufferSize := by
  unfold usersFormatList
  rw [usersCount_names users, usersCount_names users', h]
  split
  · rfl
  · exact usersFormatLoop_names h _ _

/-- Whether a user is added, and the names then, depend on the password by its validity only. -/
theorem usersAdd_names (h : users.names = users'.names) (username : CString) {password password' : CString}
    (hp : fieldIsValid (some password) = fieldIsValid (some password')) :
    (usersAdd users (some username) (some password)).2 = (usersAdd users' (some username) (some password')).2 ∧
    (usersAdd users (some username) (some password)).1.names = (usersAdd users' (some username) (some password')).1.names := by
  unfold usersAdd
  dsimp only
  rw [hp, findUserIndex_names users, findUserIndex_names users', findFreeIndex_names users, findFreeIndex_names users', h]
  split
  · exact ⟨rfl, h⟩
  · split
    · exact ⟨rfl, h⟩
    · split
      · exact ⟨rfl, h⟩
      · refine ⟨rfl, ?_⟩
        dsimp only
        rw [ManagedUsers.names_set, ManagedUsers.names_set, h]
        rfl

/-- Whether a user is removed, and the names then, depend on the names. -/
theorem usersRemove_names (h : users.names = users'.names) (username : CString) :
    (usersRemove users (some username)).2 = (usersRemove users' (some username)).2 ∧
    (usersRemove users (some username)).1.names = (usersRemove users' (some username)).1.names := by
  unfold usersRemove
  dsimp only
  rw [findUserIndex_names users, findUserIndex_names users', h]
  split
  · exact ⟨rfl, h⟩
  · split
    · exact ⟨rfl, h⟩
    · refine ⟨rfl, ?_⟩
      dsimp only
      rw [ManagedUsers.names_set, ManagedUsers.names_set, h]

end Table

/-! ## The answer without the passwords -/

/-- Two lines are the same but for a password: they have the same words, or they ask to add the same user with two passwords that
are both valid or both not. -/
inductive SameButPassword (line line' : List Byte) : Prop where
  | words : managementWords line = managementWords line' → SameButPassword line line'
  | password (username password password' : List Byte) :
    UsersChange.asked (managementWords line) = some (.insert username password) →
    UsersChange.asked (managementWords line') = some (.insert username password') →
    (FieldBytes password ↔ FieldBytes password') → SameButPassword line line'

section Response

variable {users users' : ManagedUsers} {metrics metrics' : ServerMetrics} {line line' : List Byte}

/-- Two C strings of the same bytes are the same, and so are two that are missing. -/
theorem option_ext {a b : Option CString} (h : a.map CString.bytes = b.map CString.bytes) : a = b :=
  Option.map_injective (fun _ _ => CString.ext) h

/-- Lines of the same words are answered the same. -/
theorem managementPrepareResponse_words (users : ManagedUsers) (metrics : ServerMetrics)
    (hw : managementWords line = managementWords line') :
    managementPrepareResponse users metrics line = managementPrepareResponse users metrics line' := by
  obtain ⟨c, a1, a2, a3, line1, line2, line3, h⟩ := strtoks line
  obtain ⟨c', a1', a2', a3', line1', line2', line3', h'⟩ := strtoks line'
  obtain rfl := option_ext (h.command.trans (hw ▸ h'.command.symm))
  obtain rfl := option_ext (h.arg1.trans (hw ▸ h'.arg1.symm))
  obtain rfl := option_ext (h.arg2.trans (hw ▸ h'.arg2.symm))
  obtain rfl := option_ext (h.arg3.trans (hw ▸ h'.arg3.symm))
  unfold managementPrepareResponse
  simp only [h.first, h.second, h.third, h.fourth, h'.first, h'.second, h'.third, h'.fourth]

/-- A report on a change of the users shows its result and the count of the names. -/
theorem report_names {text : List Byte} {r r' : ManagedUsers × UsersResult} (hr : r.2 = r'.2 ∧ r.1.names = r'.1.names) :
    text ++ usersResultName r.2 ++ ascii "\nusers_count=" ++ decimal (usersCount r.1) ++ ascii "\n" =
      text ++ usersResultName r'.2 ++ ascii "\nusers_count=" ++ decimal (usersCount r'.1) ++ ascii "\n" := by
  rw [hr.1, usersCount_names r.1, usersCount_names r'.1, hr.2]

/-- To the same line, tables of the same users answer the same, and have the same users then. -/
theorem managementPrepareResponse_names (h : users.names = users'.names) (hm : AsksMetrics line → metrics = metrics') :
    (managementPrepareResponse users metrics line).2 = (managementPrepareResponse users' metrics' line).2 ∧
    (managementPrepareResponse users metrics line).1.names = (managementPrepareResponse users' metrics' line).1.names := by
  obtain ⟨c, a1, a2, a3, line1, line2, line3, hs⟩ := strtoks line
  have hcommand := hs.command
  unfold managementPrepareResponse
  simp only [hs.first, hs.second, hs.third, hs.fourth]
  cases c with
  | none => exact ⟨rfl, h⟩
  | some c =>
    dsimp only
    split
    · rename_i hc
      refine ⟨congrArg formatMetricsResponse (hm ⟨c.bytes, List.head?_eq_getElem?.trans hcommand.symm, ?_⟩), h⟩
      rw [strcaseeq_eq, strcaseeq_eq, Bool.or_eq_true, decide_eq_true_eq, decide_eq_true_eq] at hc
      exact hc
    · split
      · exact ⟨usersFormatList_names h managementBufferSize, h⟩
      · split
        · split
          · exact ⟨rfl, h⟩
          · rename_i hargs
            obtain ⟨u, rfl⟩ := Option.isSome_iff_exists.mp (show a1.isSome = true by cases a1 <;> simp_all)
            obtain ⟨p, rfl⟩ := Option.isSome_iff_exists.mp (show a2.isSome = true by cases a2 <;> simp_all)
            have hadd := usersAdd_names h u (rfl : fieldIsValid (some p) = fieldIsValid (some p))
            exact ⟨report_names hadd, hadd.2⟩
        · split
          · split
            · exact ⟨rfl, h⟩
            · rename_i hargs
              obtain ⟨u, rfl⟩ := Option.isSome_iff_exists.mp (show a1.isSome = true by cases a1 <;> simp_all)
              have hremove := usersRemove_names h u
              exact ⟨report_names hremove, hremove.2⟩
          · split
            · exact ⟨rfl, h⟩
            · split <;> exact ⟨rfl, h⟩

/-- A line that asks to add a user has three words. -/
theorem managementPrepareResponse_insert (users : ManagedUsers) (metrics : ServerMetrics) {username password : List Byte}
    (ha : UsersChange.asked (managementWords line) = some (.insert username password)) :
    ∃ u p : CString, u.bytes = username ∧ p.bytes = password ∧
      managementPrepareResponse users metrics line =
        ((usersAdd users (some u) (some p)).1, ascii "adduser=" ++ usersResultName (usersAdd users (some u) (some p)).2 ++
          ascii "\nusers_count=" ++ decimal (usersCount (usersAdd users (some u) (some p)).1) ++ ascii "\n") := by
  unfold UsersChange.asked at ha
  split at ha
  · rename_i hw
    split at ha
    · rename_i hc
      cases ha
      exact managementPrepareResponse_add users metrics hw hc
    · cases ha
  · split at ha <;> cases ha
  · cases ha

/-- To lines that are the same but for a password, tables of the same users answer the same, and have the same users then. -/
theorem managementPrepareResponse_untold (h : users.names = users'.names) (hl : SameButPassword line line')
    (hm : AsksMetrics line → metrics = metrics') :
    (managementPrepareResponse users metrics line).2 = (managementPrepareResponse users' metrics' line').2 ∧
    (managementPrepareResponse users metrics line).1.names = (managementPrepareResponse users' metrics' line').1.names := by
  cases hl with
  | words hw =>
    rw [← managementPrepareResponse_words users' metrics' hw]
    exact managementPrepareResponse_names h hm
  | password username password password' ha ha' hp =>
    obtain ⟨u, p, hu, rfl, heq⟩ := managementPrepareResponse_insert users metrics ha
    obtain ⟨u', p', hu', rfl, heq'⟩ := managementPrepareResponse_insert users' metrics' ha'
    obtain rfl := CString.ext (hu.trans hu'.symm)
    have hvalid : fieldIsValid (some p) = fieldIsValid (some p') := by
      rw [fieldIsValid_some, fieldIsValid_some]
      exact decide_eq_decide.mpr hp
    have hadd := usersAdd_names h u hvalid
    rw [heq, heq']
    exact ⟨report_names hadd, hadd.2⟩

end Response

/-! ## The runs -/

/-- A line that was executed: whose it was, what it said, and the metrics at that moment. -/
structure Consultation where
  mid : Nat
  line : List Byte
  metrics : ServerMetrics
  deriving DecidableEq

/-- The line an event has executed, with the metrics it found. -/
def Server.consulted (s : Server) (e : Event) : List Consultation :=
  (s.executed e).map fun x => { mid := x.1, line := x.2, metrics := s.metrics }

/-- The lines executed in a run, with the metrics each has found. -/
def Config.consulted (c : Config) (es : List Event) : List Consultation := Traces.emitted step Server.consulted c.start es

/-- Two executed lines are the same but for a password, and if they ask for the metrics, these are the same too. -/
def Consultation.Alike (x x' : Consultation) : Prop :=
  SameButPassword x.line x'.line ∧ (AsksMetrics x.line → x.metrics = x'.metrics)

/-- The table after a line was executed. -/
def ManagedUsers.consult (users : ManagedUsers) (x : Consultation) : ManagedUsers :=
  (managementPrepareResponse users x.metrics x.line).1

section Runs

variable (c : Config)

/-- No event executes more than one line. -/
theorem Server.length_consulted (s : Server) (e : Event) : (s.consulted e).length ≤ 1 := by
  rw [Server.consulted, List.length_map]
  exact s.length_executed e

/-- The table after an event is what the line it executes makes of it. -/
theorem step_consulted {s : Server} (h : Inv s) (e : Event) :
    (step s e).managedUsers = (s.consulted e).foldl ManagedUsers.consult s.managedUsers := by
  unfold Server.consulted
  rw [List.foldl_map, step_executed h e]
  rfl

/-- The lines executed in a run one event longer. -/
theorem Config.consulted_concat (es : List Event) (e : Event) :
    c.consulted (es ++ [e]) = c.consulted es ++ (run c.start es).consulted e :=
  Traces.emitted_concat ..

/-- The table after a run is what the lines executed make of it, one after another. -/
theorem run_consulted (es : List Event) :
    (run c.start es).managedUsers = (c.consulted es).foldl ManagedUsers.consult c.users := by
  induction es using List.reverseRecOn with
  | nil => rfl
  | append_singleton es e ih =>
    rw [run_append, step_consulted (run_inv c es) e, ih, c.consulted_concat, List.foldl_append]

/-- The answer to an executed line is that of the table which the lines before it have made. -/
theorem answers_consulted {es : List Event} {before later : List Consultation} {x : Consultation}
    (h : c.consulted es = before ++ x :: later) :
    c.answers x.mid es = [managementReply (before.foldl ManagedUsers.consult c.users) x.metrics x.line] := by
  obtain ⟨pre, e, post, rfl, rfl, hx⟩ := Traces.emitted_split Server.length_consulted h
  obtain ⟨⟨mid, line⟩, hone, rfl⟩ := List.map_eq_singleton_iff.mp hx
  rw [← show Config.consulted c pre = Traces.emitted step Server.consulted c.start pre from rfl, ← run_consulted c pre]
  exact (run_prepared c pre e post (Server.executed_eq_iff.mp hone)).2.2.2

end Runs

/-- Lines that are the same but for passwords leave tables of the same users. -/
theorem consult_alike {xs xs' : List Consultation} (h : List.Forall₂ Consultation.Alike xs xs') {users users' : ManagedUsers}
    (hnames : users.names = users'.names) :
    (xs.foldl ManagedUsers.consult users).names = (xs'.foldl ManagedUsers.consult users').names := by
  induction h generalizing users users' with
  | nil => exact hnames
  | cons hx _ ih => exact ih (managementPrepareResponse_untold hnames hx.1 hx.2).2

/-- What is left of two runs is answered the same, if it is the same but for passwords and so was what came before. -/
theorem answers_alike {c c' : Config} (hnames : c.users.names = c'.users.names) {es es' : List Event}
    {before before' later later' : List Consultation} (h : c.consulted es = before ++ later)
    (h' : c'.consulted es' = before' ++ later') (hbefore : List.Forall₂ Consultation.Alike before before')
    (hlater : List.Forall₂ Consultation.Alike later later') :
    List.Forall₂ (fun x x' => c.answers x.mid es = c'.answers x'.mid es') later later' := by
  induction hlater generalizing before before' with
  | nil => exact .nil
  | @cons x x' later later' hx _ ih =>
    refine .cons ?_ ?_
    · have htold := managementPrepareResponse_untold (consult_alike hbefore hnames) hx.1 hx.2
      rw [answers_consulted c h, answers_consulted c' h', managementReply, managementReply, htold.1]
    · have hnext : c.consulted es = (before ++ [x]) ++ later := by rw [h, List.append_assoc, List.singleton_append]
      have hnext' : c'.consulted es' = (before' ++ [x']) ++ later' := by rw [h', List.append_assoc, List.singleton_append]
      exact ih hnext hnext' (List.rel_append hbefore (.cons hx .nil))

/-- No answer tells a password. In two runs, of whatever events, from tables of the same users: if the lines executed in the one and
the lines executed in the other are the same, one by one, but for passwords, and those that ask for the metrics find the same metrics,
then they are answered the same, one by one, and in the end the tables have the same users. The passwords that the tables hold, at the
beginning or later, need have nothing in common. -/
theorem passwords_untold {c c' : Config} (hnames : c.users.names = c'.users.names) (es es' : List Event)
    (h : List.Forall₂ Consultation.Alike (c.consulted es) (c'.consulted es')) :
    List.Forall₂ (fun x x' => c.answers x.mid es = c'.answers x'.mid es') (c.consulted es) (c'.consulted es') ∧
    (run c.start es).managedUsers.names = (run c'.start es').managedUsers.names := by
  refine ⟨answers_alike hnames (List.nil_append _).symm (List.nil_append _).symm .nil h, ?_⟩
  rw [run_consulted c es, run_consulted c' es']
  exact consult_alike h hnames

/-- The table after `-u a:` and this password. -/
def secretUsers (password : String) : ManagedUsers :=
  usersInitFromArgs [(some (CString.ofBuffer (ascii "a")), some (CString.ofBuffer (ascii password)))]

/-- A management connection adds a user with this password, and then another asks for the users. -/
def secretRun (password : String) : List Event :=
  [.read 4 { accepts := [.accepted 5 .ok true] }, .read 5 { recv := .data (ascii "ADDUSER b " ++ ascii password ++ ascii "\n") },
    .read 4 { accepts := [.accepted 6 .ok true] }, .read 6 { recv := .data (ascii "USERS\n") }]

/-- Two runs that differ in both passwords. -/
theorem passwords_untold_two :
    List.Forall₂ (fun x x' => (Config.first (secretUsers "p")).answers x.mid (secretRun "secret") =
        (Config.first (secretUsers "q")).answers x'.mid (secretRun "x"))
      ((Config.first (secretUsers "p")).consulted (secretRun "secret"))
      ((Config.first (secretUsers "q")).consulted (secretRun "x")) ∧
    (run (Config.first (secretUsers "p")).start (secretRun "secret")).managedUsers.names =
      (run (Config.first (secretUsers "q")).start (secretRun "x")).managedUsers.names := by
  have h : (Config.first (secretUsers "p")).consulted (secretRun "secret") =
      [⟨0, ascii "ADDUSER b secret\n", .zeroed⟩, ⟨1, ascii "USERS\n", .zeroed⟩] := by decide +kernel
  have h' : (Config.first (secretUsers "q")).consulted (secretRun "x") =
      [⟨0, ascii "ADDUSER b x\n", .zeroed⟩, ⟨1, ascii "USERS\n", .zeroed⟩] := by decide +kernel
  refine passwords_untold (by decide +kernel) _ _ ?_
  rw [h, h']
  exact .cons ⟨.password (ascii "b") (ascii "secret") (ascii "x") (by decide) (by decide) (by decide), fun _ => rfl⟩
    (.cons ⟨.words rfl, fun _ => rfl⟩ .nil)

example : (Config.first (secretUsers "p")).answers 1 (secretRun "secret") = [ascii "users_count=2\nuser=a\nuser=b\n"] := by
  decide +kernel

end SocksProxy
