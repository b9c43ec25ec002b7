import SocksProxy.Theorems.ManagementExchange

/-!
# One history of the users

Any number of management connections change the users, while any number of sessions look credentials up. There is one history of
it all: the lines of the connections in the order in which they became complete. The table is at every moment what the history makes
of a map, one line after another, and the answer to each line is what the map says to it at its place in the history.
-/

namespace SocksProxy

/-! ## The users as the lines change them -/

/-- The map is decided by its passwords. -/
theorem UserMap.ext_passwords {m m' : UserMap} (h : m.passwords = m'.passwords) : m = m' := by
  cases m
  cases m'
  cases h
  rfl

/-- The map allows a change, or not. -/
instance UsersChange.decidableLegal (m : UserMap) : ∀ change : UsersChange, Decidable (change.Legal m)
  | insert _ _ => inferInstanceAs (Decidable (_ ∧ _))
  | erase _ => inferInstanceAs (Decidable (_ ∈ _))

/-- The map after a change, if it allows the change. -/
def UserMap.change (m : UserMap) : (change : UsersChange) → change.Legal m → UserMap
  | .insert username password, h => m.insert username password h.1 h.2.1 h.2.2
  | .erase username, _ => m.erase username

/-- What a line does to the users: the change it asks for, if it asks for one that the map allows. -/
def UserMap.after (m : UserMap) (line : List Byte) : UserMap :=
  match UsersChange.asked (managementWords line) with
  | none => m
  | some change => if h : change.Legal m then m.change change h else m

/-- What lines do to the users, one after another. -/
def UserMap.history (m : UserMap) (lines : List (Nat × List Byte)) : UserMap := lines.foldl (fun m x => m.after x.2) m

/-- The answer to a line that asks for a change: its result, and how many users there are then. -/
def UsersChange.report (change : UsersChange) (result : UsersResult) (m : UserMap) : List Byte :=
  change.word ++ usersResultName result ++ ascii "\nusers_count=" ++ decimal m.passwords.keys.card ++ ascii "\n"

/-- The passwords after a change. -/
theorem UserMap.change_passwords (m : UserMap) {change : UsersChange} (h : change.Legal m) :
    (m.change change h).passwords = change.on m.passwords := by
  cases change <;> rfl

/-- A map that a line was executed on, when the line asks for a change. -/
theorem UserMap.after_asked {m m' : UserMap} {line : List Byte} {change : UsersChange}
    (ha : UsersChange.asked (managementWords line) = some change)
    (hlegal : change.Legal m → m'.passwords = change.on m.passwords) (hillegal : ¬change.Legal m → m' = m) : m' = m.after line := by
  unfold UserMap.after
  rw [ha]
  dsimp only
  split
  · rename_i hl
    exact UserMap.ext_passwords ((hlegal hl).trans (m.change_passwords hl).symm)
  · rename_i hl
    exact hillegal hl

/-- `management_prepare_response` does to the table what its line does to the map, and answers what the map says. -/
theorem managementPrepareResponse_after {users : ManagedUsers} {m : UserMap} (h : users.StandsFor m) (metrics : ServerMetrics)
    (line : List Byte) :
    (managementPrepareResponse users metrics line).1.StandsFor (m.after line) ∧
    ∀ change, UsersChange.asked (managementWords line) = some change → ∃ result,
      managementReply users metrics line = change.report result (m.after line) ∧ (result = .ok ↔ change.Legal m) := by
  cases ha : UsersChange.asked (managementWords line) with
  | none =>
    refine ⟨?_, fun change hc => by cases hc⟩
    rw [(managementPrepareResponse_other users metrics ha).1]
    unfold UserMap.after
    rw [ha]
    exact h
  | some change =>
    obtain ⟨result, m', hstands, hreply, hlegal, hillegal⟩ := management_asked h metrics ha
    obtain rfl := UserMap.after_asked ha (fun hl => (hlegal hl).2) fun hn => (hillegal hn).2.1
    refine ⟨hstands, fun change' hc => ?_⟩
    cases hc
    refine ⟨result, hreply, fun hr => ?_, fun hl => (hlegal hl).1⟩
    by_contra hn
    exact (hillegal hn).1 hr

/-! ## The history of a run -/

/-- The line an event has executed, and whose it is. -/
def Server.executed (s : Server) (e : Event) : List (Nat × List Byte) :=
  match s.managementReads e with
  | none => []
  | some (mid, _) => ((s.prepares e mid).map (mid, ·)).toList

/-- The lines executed in a run, in their order. -/
def Config.executed (c : Config) (es : List Event) : List (Nat × List Byte) := Traces.emitted step Server.executed c.start es

section History

variable {s : Server} {e : Event} {mid : Nat} {line : List Byte}

/-- A line is executed for a connection by the event that prepares its answer. -/
theorem Server.executed_eq_iff : s.executed e = [(mid, line)] ↔ s.prepares e mid = some line := by
  constructor
  · intro h
    unfold Server.executed at h
    split at h
    · cases h
    · rename_i mid' a _
      cases hx : s.prepares e mid' with
      | none =>
        rw [hx] at h
        cases h
      | some buf =>
        rw [hx] at h
        cases h
        exact hx
  · intro h
    have hheard : s.heard e mid ≠ [] := by
      intro hno
      rw [Server.prepares_of_silent hno] at h
      cases h
    unfold Server.heard at hheard
    unfold Server.executed
    cases hm : s.managementReads e with
    | none =>
      rw [hm] at hheard
      exact absurd rfl hheard
    | some r =>
      obtain ⟨mid', a⟩ := r
      rw [hm] at hheard
      dsimp only at hheard ⊢
      split at hheard
      · rename_i he
        subst he
        rw [h]
        rfl
      · exact absurd rfl hheard

/-- No event executes more than one line. -/
theorem Server.length_executed (s : Server) (e : Event) : (s.executed e).length ≤ 1 := by
  unfold Server.executed
  split
  · exact Nat.zero_le _
  · exact Option.length_toList_le

/-- An event answers a connection as often as it executes a line of it. -/
theorem Server.countP_executed (s : Server) (e : Event) (mid : Nat) :
    (s.executed e).countP (·.1 == mid) = (s.answered mid e).length := by
  unfold Server.answered
  cases hp : s.prepares e mid with
  | some line =>
    rw [Server.executed_eq_iff.mpr hp]
    simp
  | none =>
    refine (List.countP_eq_zero.mpr fun x hx he => ?_).trans rfl
    have hone := s.length_executed e
    obtain ⟨mid', line⟩ := x
    obtain rfl : mid' = mid := by simpa using he
    obtain ⟨x, hx'⟩ := List.length_eq_one_iff.mp (Nat.le_antisymm hone (List.length_pos_of_mem hx))
    rw [hx'] at hx
    obtain rfl := List.mem_singleton.mp hx
    rw [Server.executed_eq_iff.mp hx'] at hp
    cases hp

/-- An event makes of the table what `management_prepare_response` makes of it for the line that the event executes. -/
theorem step_executed (h : Inv s) (e : Event) : (step s e).managedUsers =
    (s.executed e).foldl (fun users x => (managementPrepareResponse users s.metrics x.2).1) s.managedUsers := by
  rcases step_hears h e with ⟨mid, state, hh⟩ | ⟨hsilent, hu⟩
  · cases hx : s.prepares e mid with
    | some line =>
      rw [Server.executed_eq_iff.mpr hx, (hh.prepared line hx).1]
      rfl
    | none =>
      have hnil : s.executed e = [] := by
        cases he : s.executed e with
        | nil => rfl
        | cons x rest =>
          have hone := s.length_executed e
          rw [he] at hone
          obtain rfl : rest = [] := List.length_eq_zero_iff.mp (by simpa using hone)
          obtain ⟨mid', line⟩ := x
          have hp := Server.executed_eq_iff.mp he
          by_cases hmid : mid' = mid
          · subst hmid
            rw [hx] at hp
            cases hp
          · rw [Server.prepares_of_silent (hh.others mid' hmid).1] at hp
            cases hp
      rw [hnil, (hh.waits hx).1]
      rfl
  · have hnil : s.executed e = [] := by
      unfold Server.executed
      split
      · rfl
      · rw [Server.prepares_of_silent (hsilent _)]
        rfl
    rw [hnil, hu.users]
    rfl

/-- An event makes of the table what the line it executes makes of the map. -/
theorem step_users {m : UserMap} (h : Inv s) (e : Event) (hm : s.managedUsers.StandsFor m) :
    (step s e).managedUsers.StandsFor (m.history (s.executed e)) := by
  rw [step_executed h e]
  unfold UserMap.history
  generalize s.managedUsers = users at hm
  induction s.executed e generalizing users m with
  | nil => exact hm
  | cons x lines ih => exact ih _ (managementPrepareResponse_after hm s.metrics x.2).1

end History

section Runs

variable (c : Config)

/-- The lines executed in a run one event longer. -/
theorem Config.executed_concat (es : List Event) (e : Event) :
    c.executed (es ++ [e]) = c.executed es ++ (run c.start es).executed e :=
  Traces.emitted_concat ..

/-- The table is what the lines make of the map it stood for. -/
theorem run_users {m : UserMap} (h : c.users.StandsFor m) (es : List Event) :
    (run c.start es).managedUsers.StandsFor (m.history (c.executed es)) := by
  induction es using List.reverseRecOn with
  | nil => exact h
  | append_singleton es e ih =>
    rw [run_append, c.executed_concat]
    unfold UserMap.history at ih ⊢
    rw [List.foldl_append]
    exact step_users (run_inv c es) e ih

/-- A connection is answered as often as it has executed a line. -/
theorem run_countP_executed (es : List Event) (mid : Nat) :
    (c.executed es).countP (·.1 == mid) = (c.answers mid es).length := by
  induction es using List.reverseRecOn with
  | nil => rfl
  | append_singleton es e ih =>
    rw [c.executed_concat, c.answers_concat, List.countP_append, List.length_append, ih, Server.countP_executed]

end Runs

/-- One history of the users, whatever the order in which connections are read, written, accepted and closed. The table always stands
for what the map has become by the lines executed so far, one after another, and a username and a password are valid at a moment if
and only if that map sends the one to the other. Every connection has executed at most one line, and it has if and only if it was
answered; the line is all that it has received. The answer to a line that asks for a change is the report on the change at the line's
place in the history: it says `ok` if and only if what the lines before it made of the map allows the change, and the number of users
that this line leaves. -/
theorem users_history (c : Config) {m : UserMap} (h : c.users.StandsFor m) (es : List Event) :
    (run c.start es).managedUsers.StandsFor (m.history (c.executed es)) ∧
    (∀ username password, usersCredentialsAreValid (run c.start es).managedUsers username password =
      (m.history (c.executed es)).valid username password) ∧
    ((c.executed es).map Prod.fst).Nodup ∧
    (∀ mid, mid ∈ (c.executed es).map Prod.fst ↔ c.answers mid es ≠ []) ∧
    ∀ before mid line later, c.executed es = before ++ (mid, line) :: later →
      line = c.received mid es ∧ LineComplete line ∧
      ∀ change, UsersChange.asked (managementWords line) = some change → ∃ result,
        c.answers mid es = [change.report result ((m.history before).after line)] ∧
        (result = .ok ↔ change.Legal (m.history before)) := by
  have hstands := run_users c h es
  have hcount : ∀ mid, ((c.executed es).map Prod.fst).count mid = (c.answers mid es).length := by
    intro mid
    rw [← run_countP_executed, List.count, List.countP_map]
    rfl
  refine ⟨hstands, hstands.credentialsAreValid, ?_, fun mid => ?_, fun before mid line later hsplit => ?_⟩
  · refine List.nodup_iff_count_le_one.mpr fun mid => ?_
    rw [hcount]
    exact (run_exchanged c es).once
  · rw [← List.count_pos_iff, hcount, List.length_pos_iff]
  · obtain ⟨pre, e, post, rfl, hbefore, hx⟩ := Traces.emitted_split Server.length_executed hsplit
    have hp : (run c.start pre).prepares e mid = some line := Server.executed_eq_iff.mp hx
    obtain ⟨hline, hc, _, ha⟩ := run_prepared c pre e post hp
    have hthen : (run c.start pre).managedUsers.StandsFor (m.history before) := hbefore ▸ run_users c h pre
    refine ⟨hline.symm, hc, fun change hasked => ?_⟩
    obtain ⟨result, hreply, hok⟩ :=
      (managementPrepareResponse_after hthen (run c.start pre).metrics line).2 change hasked
    exact ⟨result, by rw [ha, hreply], hok⟩

/-- Two management connections add a user of the same name. The line of the one that came first is complete last. -/
def rivalsRun : List Event :=
  [.read 4 { accepts := [.accepted 5 .ok true, .accepted 6 .ok true] }, .read 5 { recv := .data (ascii "ADDUSER a ") },
    .read 6 { recv := .data (ascii "ADDUSER a p\n") }, .read 5 { recv := .data (ascii "q\n") }]

/-- The connection whose line is complete last is told what the other one has left. -/
theorem users_history_rivals :
    ∃ result, (Config.first (usersInitFromArgs [])).answers 0 rivalsRun =
        [(UsersChange.insert (ascii "a") (ascii "q")).report result
          (((UserMap.ofArgs []).history [(1, ascii "ADDUSER a p\n")]).after (ascii "ADDUSER a q\n"))] ∧
      (result = .ok ↔ (UsersChange.insert (ascii "a") (ascii "q")).Legal
        ((UserMap.ofArgs []).history [(1, ascii "ADDUSER a p\n")])) :=
  ((users_history (.first (usersInitFromArgs [])) (standsFor_usersInitFromArgs []) rivalsRun).2.2.2.2
    [(1, ascii "ADDUSER a p\n")] 0 (ascii "ADDUSER a q\n") [] (by decide +kernel)).2.2 _ (by decide)

example : (Config.first .zeroed).answers 0 rivalsRun = [ascii "adduser=exists\nusers_count=1\n"] := by decide +kernel

end SocksProxy
