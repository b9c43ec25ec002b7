import SocksProxy.Args
import SocksProxy.Theorems.UsersTable
import SocksProxy.Machine

/-!
# The users of the command line

When the operator configured users, no client is to be served without authentication. `users_add` rejects a pair whose name or
password is empty or too long and `users_init_from_args` ignores what it answers: if it rejects every pair, the table is empty
and the server asks nobody for credentials.
-/

namespace SocksProxy

/-- The arguments of the `-u` options of a command line, in order. -/
def userOptions (argv : List CString) : List CString :=
  ((getoptLong none argv).1.filter (·.letter = 'u')).filterMap (·.optarg)

/-- The argument of a `-u` option has a name and a password `users_add` accepts. -/
def AcceptableUser (optarg : CString) : Prop := ∃ pair, user optarg = some pair ∧ (validPair pair).isSome = true

/-- The server asks for credentials: the table has users, authentication is required, and whatever methods a client offers, the
one without authentication is not chosen. -/
def AsksForCredentials (users : ManagedUsers) : Prop :=
  0 < usersCount users ∧ authIsRequired users = true ∧ ∀ methods, chosenMethod users methods ≠ socks5MethodNoAuth

/-- A server with users asks for credentials. -/
theorem asksForCredentials_iff (users : ManagedUsers) : AsksForCredentials users ↔ 0 < usersCount users := by
  refine ⟨fun h => h.1, fun h => ?_⟩
  have hreq : authIsRequired users = true := decide_eq_true h
  refine ⟨h, hreq, fun methods => ?_⟩
  unfold chosenMethod
  rw [hreq]
  split
  · decide
  · rw [if_neg (by simp)]
    decide

/-- The pairs of some options, in order. -/
def optionPairs (opts : List Opt) : List (Option CString × Option CString) :=
  ((opts.filter (·.letter = 'u')).filterMap (·.optarg)).filterMap user

/-- The array of pairs once some of them are stored. -/
def storedPairs (pairs : List (Option CString × Option CString)) : List (Option CString × Option CString) :=
  pairs ++ List.replicate (maxUsers - pairs.length) (none, none)

/-- Storing one pair more. -/
theorem set_storedPairs {pairs : List (Option CString × Option CString)} (hlt : pairs.length < maxUsers)
    (p : Option CString × Option CString) : (storedPairs pairs).set pairs.length p = storedPairs (pairs ++ [p]) := by
  unfold storedPairs
  rw [List.set_append_right _ _ (Nat.le_refl _), Nat.sub_self, List.length_append, List.length_singleton, List.append_assoc,
    show maxUsers - pairs.length = (maxUsers - (pairs.length + 1)) + 1 by omega, List.replicate_succ, List.set_cons_zero]
  rfl

/-- One turn of the loop of `parse_args` stores the pair of a `-u` option after those that are there; another option stores
none. -/
theorem parseOpt_users {args args' : Socks5Args} {pairs : List (Option CString × Option CString)} {nusers' : Nat} {o : Opt}
    (hu : args.users = storedPairs pairs) (h : parseOpt args pairs.length o = some (args', nusers')) :
    args'.users = storedPairs (pairs ++ optionPairs [o]) ∧ nusers' = (pairs ++ optionPairs [o]).length ∧
      (pairs.length ≤ maxUsers → nusers' ≤ maxUsers) := by
  unfold parseOpt at h
  split at h
  · rename_i hl _
    cases h
    simp [optionPairs, hl, hu]
  · rename_i hl _
    cases h
    simp [optionPairs, hl, hu]
  · rename_i hl _
    obtain ⟨p, _, hp⟩ := Option.map_eq_some_iff.mp h
    cases hp
    simp [optionPairs, hl, hu]
  · rename_i hl _
    obtain ⟨p, _, hp⟩ := Option.map_eq_some_iff.mp h
    cases hp
    simp [optionPairs, hl, hu]
  · rename_i optarg hl ho
    split at h
    · cases h
    · rename_i hlt
      obtain ⟨p, hp, hq⟩ := Option.map_eq_some_iff.mp h
      cases hq
      have hpairs : optionPairs [o] = [p] := by simp [optionPairs, hl, ho, hp]
      rw [hpairs, hu, set_storedPairs (by omega), List.length_append, List.length_singleton]
      exact ⟨rfl, rfl, fun _ => by omega⟩
  · cases h

/-- The loop of `parse_args` stores the pairs of the `-u` options, in order. -/
theorem parseOpts_users {args args' : Socks5Args} {pairs : List (Option CString × Option CString)} {opts : List Opt}
    (hu : args.users = storedPairs pairs) (hlen : pairs.length ≤ maxUsers)
    (h : parseOpts args pairs.length opts = some args') :
    args'.users = storedPairs (pairs ++ optionPairs opts) ∧ (pairs ++ optionPairs opts).length ≤ maxUsers := by
  induction opts generalizing args pairs with
  | nil =>
    cases h
    simpa [optionPairs] using ⟨hu, hlen⟩
  | cons o opts ih =>
    rw [parseOpts] at h
    split at h
    · cases h
    · rename_i args1 nusers1 ho
      obtain ⟨hu1, hn1, hlen1⟩ := parseOpt_users hu ho
      subst hn1
      have hcons : optionPairs (o :: opts) = optionPairs [o] ++ optionPairs opts := by
        unfold optionPairs
        rw [← List.filterMap_append, ← List.filterMap_append, ← List.filter_append]
        rfl
      rw [hcons, ← List.append_assoc]
      exact ih hu1 (hlen1 hlen) h

/-- Every argument of a `-u` option is cut in two. -/
theorem user_isSome {optarg : CString} {pair : Option CString × Option CString} (h : user optarg = some pair) :
    pair.1.isSome = true := by
  unfold user at h
  split at h <;> cases h
  rfl

/-- `main` counts the pairs stored. -/
theorem take_countUsers {pairs : List (Option CString × Option CString)} (hlen : pairs.length ≤ maxUsers)
    (hsome : ∀ p ∈ pairs, p.1.isSome = true) : (storedPairs pairs).take (countUsers (storedPairs pairs)) = pairs := by
  have htake : (storedPairs pairs).take maxUsers = storedPairs pairs := by
    refine List.take_of_length_le ?_
    rw [storedPairs, List.length_append, List.length_replicate]
    omega
  have hcount : countUsers (storedPairs pairs) = pairs.length := by
    rw [countUsers, htake, storedPairs, List.takeWhile_append_of_pos hsome]
    cases maxUsers - pairs.length <;> simp [List.replicate_succ]
  rw [hcount, storedPairs, List.take_left]

/-- The table of a command line that is accepted is made of the pairs of its `-u` options. -/
theorem managedUsers_eq {argv : List CString} {args : Socks5Args} (h : parseArgs argv = some args) :
    args.managedUsers = usersInitFromArgs ((userOptions argv).filterMap user) ∧
      ((userOptions argv).filterMap user).length ≤ usersMax := by
  unfold parseArgs at h
  dsimp only at h
  split at h
  · cases h
  · rename_i args' hp
    split at h
    · cases h
    · cases h
      obtain ⟨hu, hlen⟩ := parseOpts_users (show _ = storedPairs [] from rfl) (Nat.zero_le _) hp
      rw [List.nil_append] at hu hlen
      refine ⟨?_, hlen⟩
      rw [Socks5Args.managedUsers, hu, take_countUsers hlen fun p hm => ?_]
      · rfl
      · obtain ⟨_, _, hq⟩ := List.mem_filterMap.mp hm
        exact user_isSome hq

/-- The table the pairs of the command line make has users when one of the pairs is valid. -/
theorem usersCount_usersInitFromArgs {pairs : List (Option CString × Option CString)} (hlen : pairs.length ≤ usersMax) :
    0 < usersCount (usersInitFromArgs pairs) ↔ ∃ p ∈ pairs, (validPair p).isSome = true := by
  rw [← ManagedUsers.length_entries, entries_usersInitFromArgs, List.take_of_length_le hlen, List.length_pos_iff_exists_mem]
  constructor
  · rintro ⟨e, he⟩
    obtain ⟨p, hp, hv⟩ := List.mem_filterMap.mp ((SlotTable.dedupKeys_sublist _).subset he)
    exact ⟨p, hp, Option.isSome_iff_exists.mpr ⟨e, hv⟩⟩
  · rintro ⟨p, hp, hv⟩
    obtain ⟨e, hv⟩ := Option.isSome_iff_exists.mp hv
    have hm : e.1 ∈ (pairs.filterMap validPair).keys := List.mem_keys_of_mem (List.mem_filterMap.mpr ⟨p, hp, hv⟩)
    obtain ⟨b, hb⟩ := List.exists_of_mem_keys (SlotTable.mem_keys_dedupKeys.mpr hm)
    exact ⟨_, hb⟩

/-- A server whose command line is accepted asks for credentials exactly if the argument of one of its `-u` options has a name
and a password of one to 255 bytes. -/
theorem configured_users_in_force {argv : List CString} {args : Socks5Args} (h : parseArgs argv = some args) :
    AsksForCredentials args.managedUsers ↔ ∃ optarg ∈ userOptions argv, AcceptableUser optarg := by
  obtain ⟨ht, hlen⟩ := managedUsers_eq h
  rw [asksForCredentials_iff, ht, usersCount_usersInitFromArgs hlen]
  constructor
  · rintro ⟨p, hp, hv⟩
    obtain ⟨optarg, ho, hq⟩ := List.mem_filterMap.mp hp
    exact ⟨optarg, ho, p, hq, hv⟩
  · rintro ⟨optarg, ho, p, hq, hv⟩
    exact ⟨p, List.mem_filterMap.mpr ⟨optarg, ho, hq⟩, hv⟩

/-- With one user of three letters the server asks for credentials. -/
theorem configured_users_in_force_one :
    ∃ args, parseArgs [literal "-u", literal "bob:x"] = some args ∧
      (AsksForCredentials args.managedUsers ↔
        ∃ optarg ∈ userOptions [literal "-u", literal "bob:x"], AcceptableUser optarg) := by
  have hsome : (parseArgs [literal "-u", literal "bob:x"]).isSome = true := by decide +kernel
  obtain ⟨args, h⟩ := Option.isSome_iff_exists.mp hsome
  exact ⟨args, h, configured_users_in_force h⟩

/-- A user whose password is empty: the option is accepted, and the server asks nobody for credentials. -/
theorem configured_users_ignored :
    ∃ argv args, parseArgs argv = some args ∧ userOptions argv ≠ [] ∧ ¬AsksForCredentials args.managedUsers := by
  have hcount : (parseArgs [literal "-u", literal "bob:"]).map (fun args => usersCount args.managedUsers) = some 0 := by
    decide +kernel
  obtain ⟨args, h, h0⟩ := Option.map_eq_some_iff.mp hcount
  refine ⟨_, args, h, fun hnil => ?_, fun hasks => ?_⟩
  · have hlen : (userOptions [literal "-u", literal "bob:"]).length = 1 := by decide +kernel
    rw [hnil] at hlen
    cases hlen
  · have hpos := hasks.1
    omega

end SocksProxy
