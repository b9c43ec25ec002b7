import SocksProxy.UserMap
import SocksProxy.Library.Traces

/-!
# The users table is a map

Whatever is done to the users table, it stands for a map from usernames to passwords, and every call answers what the map
dictates. The table has ten slots and compares C strings by `strcmp` and the bytes of the wire by `strlen` and `memcmp`; the
map knows neither.
-/

namespace SocksProxy

/-- A call of the users table. -/
inductive UsersCall where
  | initFromArgs (initial : List (Option CString × Option CString))
  | add (username password : Option CString)
  | remove (username : Option CString)
  | credentialsAreValid (username password : List Byte)

/-- What a call answers. -/
inductive UsersAnswer where
  | done
  | result (r : UsersResult)
  | valid (b : Bool)

/-- A call on the table. -/
def UsersCall.onTable (users : ManagedUsers) : UsersCall → ManagedUsers × UsersAnswer
  | .initFromArgs initial => (usersInitFromArgs initial, .done)
  | .add username password => ((usersAdd users username password).1, .result (usersAdd users username password).2)
  | .remove username => ((usersRemove users username).1, .result (usersRemove users username).2)
  | .credentialsAreValid username password => (users, .valid (usersCredentialsAreValid users username password))

/-- A call on the map. -/
def UsersCall.onMap (m : UserMap) : UsersCall → UserMap × UsersAnswer
  | .initFromArgs initial => (.ofArgs initial, .done)
  | .add username password => ((m.add username password).1, .result (m.add username password).2)
  | .remove username => ((m.remove username).1, .result (m.remove username).2)
  | .credentialsAreValid username password => (m, .valid (m.valid username password))

/-- What a slot holds. -/
def ManagedUser.entry (u : ManagedUser) : Option (Sigma fun _ : List Byte => List Byte) :=
  if u.inUse then some ⟨u.username.bytes, u.password.bytes⟩ else none

/-- The entries of a table, in slot order. -/
def ManagedUsers.entries (users : ManagedUsers) : List (Sigma fun _ : List Byte => List Byte) :=
  SlotTable.entries ManagedUser.entry users

/-- The table stands for the map: all its slots are there, and they hold the entries of the map. -/
structure ManagedUsers.StandsFor (users : ManagedUsers) (m : UserMap) : Prop where
  length : users.length = usersMax
  entries : SlotTable.Represents ManagedUser.entry users m.passwords

/-! ## Looking up -/

/-- A slot in use holds its two strings. -/
theorem ManagedUser.entry_eq_some {u : ManagedUser} {e : Sigma fun _ : List Byte => List Byte} :
    u.entry = some e ↔ u.inUse = true ∧ u.username.bytes = e.1 ∧ u.password.bytes = e.2 := by
  obtain ⟨a, b⟩ := e
  unfold ManagedUser.entry
  split
  · simp_all
  · simp_all

/-- A slot holds nothing when it is not in use. -/
theorem ManagedUser.entry_eq_none {u : ManagedUser} : u.entry = none ↔ u.inUse = false := by
  simp [ManagedUser.entry]

/-- The copy of a valid field is the field. -/
theorem FieldBytes.snprintf {c : CString} (h : FieldBytes c.bytes) : c.snprintf (usersFieldMax + 1) = c :=
  CString.snprintf_of_lt (Nat.lt_succ_of_le h.2)

/-- The check of a field. -/
theorem fieldIsValid_some (c : CString) : fieldIsValid (some c) = decide (FieldBytes c.bytes) :=
  (Bool.decide_and _ _).symm

/-- A table has as many entries as slots in use. -/
theorem ManagedUsers.length_entries (users : ManagedUsers) : users.entries.length = usersCount users := by
  unfold ManagedUsers.entries SlotTable.entries usersCount
  rw [List.length_filterMap_eq_countP]
  refine List.countP_congr fun u _ => ?_
  simp only [ManagedUser.entry]
  split <;> simp_all

/-- A slot was found for a username: it is in use and holds the name. -/
theorem findUserIndex_some {users : ManagedUsers} {username : CString} {i : Nat} (h : findUserIndex users username = some i) :
    ∃ u, users[i]? = some u ∧ u.entry = some ⟨username.bytes, u.password.bytes⟩ := by
  obtain ⟨hlt, hp, _⟩ := List.findIdx?_eq_some_iff_getElem.mp h
  simp only [Bool.and_eq_true, beq_iff_eq] at hp
  exact ⟨users[i], List.getElem?_eq_getElem hlt, ManagedUser.entry_eq_some.mpr ⟨hp.1, by rw [hp.2], rfl⟩⟩

/-- A free slot was found. -/
theorem findFreeIndex_some {users : ManagedUsers} {i : Nat} (h : findFreeIndex users = some i) :
    ∃ u, users[i]? = some u ∧ u.entry = none ∧ ∀ j (hj : j < users.length), j < i → users[j].inUse = true := by
  obtain ⟨hlt, hp, hbefore⟩ := List.findIdx?_eq_some_iff_getElem.mp h
  refine ⟨users[i], List.getElem?_eq_getElem hlt, ManagedUser.entry_eq_none.mpr (by simpa using hp), ?_⟩
  intro j hj hji
  simpa using hbefore j hji

/-- No free slot was found: all slots are in use. -/
theorem findFreeIndex_none {users : ManagedUsers} (h : findFreeIndex users = none) : usersCount users = users.length := by
  rw [findFreeIndex, List.findIdx?_eq_none_iff] at h
  rw [usersCount, List.countP_eq_length]
  intro u hu
  simpa using h u hu

namespace ManagedUsers.StandsFor

variable {users : ManagedUsers} {m : UserMap}

/-- The table counts the keys of the map. -/
theorem count (h : users.StandsFor m) : usersCount users = m.passwords.keys.card := by
  rw [h.entries.card, ← users.length_entries]
  rfl

/-- A username is found when the map has it. -/
theorem findUserIndex (h : users.StandsFor m) (username : CString) :
    (findUserIndex users username).isSome = true ↔ username.bytes ∈ m.passwords := by
  rw [h.entries.mem_iff, SocksProxy.findUserIndex, List.findIdx?_isSome, List.any_eq_true]
  constructor
  · rintro ⟨u, hu, hp⟩
    simp only [Bool.and_eq_true, beq_iff_eq] at hp
    exact ⟨u, hu, u.password.bytes, ManagedUser.entry_eq_some.mpr ⟨hp.1, by rw [hp.2], rfl⟩⟩
  · rintro ⟨u, hu, password, he⟩
    obtain ⟨hin, hname, _⟩ := ManagedUser.entry_eq_some.mp he
    refine ⟨u, hu, ?_⟩
    simp only [Bool.and_eq_true, beq_iff_eq]
    exact ⟨hin, CString.ext hname⟩

/-- Credentials are found when the map sends the one to the other. -/
theorem credentialsAreValid (h : users.StandsFor m) (username password : List Byte) :
    usersCredentialsAreValid users username password = m.valid username password := by
  rw [Bool.eq_iff_iff, usersCredentialsAreValid, UserMap.valid, beq_iff_eq, h.entries.lookup_iff, List.any_eq_true]
  constructor
  · rintro ⟨u, hu, hp⟩
    simp only [Bool.and_eq_true, beq_iff_eq] at hp
    exact ⟨u, hu, ManagedUser.entry_eq_some.mpr ⟨hp.1, hp.2.1.2, hp.2.2⟩⟩
  · rintro ⟨u, hu, he⟩
    obtain ⟨hin, hname, hpass⟩ := ManagedUser.entry_eq_some.mp he
    refine ⟨u, hu, ?_⟩
    simp only [Bool.and_eq_true, beq_iff_eq, CString.strlen]
    exact ⟨hin, ⟨⟨congrArg _ hname, congrArg _ hpass⟩, hname⟩, hpass⟩

/-- Adding a user answers what the map answers, and leaves what the map becomes. -/
theorem add (h : users.StandsFor m) (username password : Option CString) :
    (usersAdd users username password).1.StandsFor (m.add username password).1 ∧
      (usersAdd users username password).2 = (m.add username password).2 := by
  cases username with
  | none => exact ⟨h, rfl⟩
  | some u =>
    cases password with
    | none => exact ⟨h, rfl⟩
    | some p =>
      simp only [usersAdd, UserMap.add, fieldIsValid_some]
      by_cases hf : FieldBytes u.bytes ∧ FieldBytes p.bytes
      · rw [dif_pos hf, if_neg (by simp [hf.1, hf.2])]
        by_cases hk : u.bytes ∈ m.passwords
        · rw [dif_pos hk, if_pos ((h.findUserIndex u).mpr hk)]
          exact ⟨h, rfl⟩
        · rw [dif_neg hk, if_neg (mt (h.findUserIndex u).mp hk)]
          cases hfree : findFreeIndex users with
          | none =>
            have hfull : m.passwords.keys.card = usersMax := by
              rw [← h.count, findFreeIndex_none hfree, h.length]
            rw [dif_neg (by omega)]
            exact ⟨h, rfl⟩
          | some i =>
            obtain ⟨slot, hi, he, _⟩ := findFreeIndex_some hfree
            have hroom : m.passwords.keys.card < usersMax := by
              rw [← h.count, ← h.length, usersCount]
              refine lt_of_le_of_ne List.countP_le_length fun hall => ?_
              have := List.countP_eq_length.mp hall slot (List.mem_of_getElem? hi)
              rw [ManagedUser.entry_eq_none.mp he] at this
              cases this
            rw [dif_pos hroom]
            refine ⟨⟨by simp [h.length], h.entries.fill hi he ?_ hk⟩, rfl⟩
            exact ManagedUser.entry_eq_some.mpr ⟨rfl, by rw [hf.1.snprintf], by rw [hf.2.snprintf]⟩
      · rw [dif_neg hf, if_pos (by simpa [Decidable.or_iff_not_imp_left] using hf)]
        exact ⟨h, rfl⟩

/-- Removing a user answers what the map answers, and leaves what the map becomes. -/
theorem remove (h : users.StandsFor m) (username : Option CString) :
    (usersRemove users username).1.StandsFor (m.remove username).1 ∧
      (usersRemove users username).2 = (m.remove username).2 := by
  cases username with
  | none => exact ⟨h, rfl⟩
  | some u =>
    simp only [usersRemove, UserMap.remove, fieldIsValid_some]
    by_cases hf : FieldBytes u.bytes
    · rw [if_pos hf, if_neg (by simp [hf])]
      cases hi : SocksProxy.findUserIndex users u with
      | none =>
        rw [if_neg (fun hk => by simpa [hi] using (h.findUserIndex u).mpr hk)]
        exact ⟨h, rfl⟩
      | some i =>
        rw [if_pos ((h.findUserIndex u).mp (by simp [hi]))]
        obtain ⟨slot, hslot, he⟩ := findUserIndex_some hi
        exact ⟨⟨by simp [h.length], h.entries.clear hslot he rfl⟩, rfl⟩
    · rw [if_neg hf, if_pos (by simpa using hf)]
      exact ⟨h, rfl⟩

end ManagedUsers.StandsFor

/-! ## The users of the command line -/

/-- The slots in use come before the free ones, as long as no user was removed. -/
def ManagedUsers.Packed (users : ManagedUsers) : Prop :=
  ∀ i (hi : i < users.length), users[i].inUse = false → ∀ u ∈ users.drop (i + 1), u.entry = none

/-- Adding a pair to a packed table with room: an invalid pair or a name that is taken changes nothing, any other pair goes
after the entries that are there. -/
theorem usersAdd_packed {users : ManagedUsers} (hp : users.Packed) (hroom : usersCount users < users.length)
    (p : Option CString × Option CString) :
    (usersAdd users p.1 p.2).1.length = users.length ∧ (usersAdd users p.1 p.2).1.Packed ∧
    (usersAdd users p.1 p.2).1.entries =
      match validPair p with
      | none => users.entries
      | some e => if e.1 ∈ users.entries.keys then users.entries else users.entries ++ [e] := by
  have hsame : users.length = users.length ∧ users.Packed ∧ users.entries = users.entries := ⟨rfl, hp, rfl⟩
  match p with
  | (none, _) => exact hsame
  | (some u, none) => exact hsame
  | (some u, some q) =>
    simp only [usersAdd, validPair, fieldIsValid_some]
    by_cases hf : FieldBytes u.bytes ∧ FieldBytes q.bytes
    · rw [if_neg (by simp [hf.1, hf.2])]
      simp only [if_pos hf]
      have hname : u.bytes ∈ users.entries.keys ↔ (findUserIndex users u).isSome = true := by
        rw [findUserIndex, List.findIdx?_isSome, List.any_eq_true, List.mem_keys]
        simp only [ManagedUsers.entries, SlotTable.entries, List.mem_filterMap, ManagedUser.entry_eq_some,
          Bool.and_eq_true, beq_iff_eq]
        constructor
        · rintro ⟨b, v, hv, hin, hb, _⟩
          exact ⟨v, hv, hin, CString.ext hb⟩
        · rintro ⟨v, hv, hin, rfl⟩
          exact ⟨v.password.bytes, v, hv, hin, rfl, rfl⟩
      by_cases hk : u.bytes ∈ users.entries.keys
      · rw [if_pos (hname.mp hk), if_pos hk]
        exact hsame
      · rw [if_neg (mt hname.mpr hk), if_neg hk]
        cases hfree : findFreeIndex users with
        | none => exact absurd (findFreeIndex_none hfree) (Nat.ne_of_lt hroom)
        | some i =>
          obtain ⟨slot, hi, he, hbefore⟩ := findFreeIndex_some hfree
          obtain ⟨hlt, rfl⟩ := List.getElem?_eq_some_iff.mp hi
          have hafter := hp i hlt (ManagedUser.entry_eq_none.mp he)
          refine ⟨List.length_set, fun j hj hin v hv => ?_, SlotTable.entries_fill_last hi he ?_ hafter⟩
          · -- a slot that is still free comes after the one just filled
            rw [List.length_set] at hj
            have hij : i < j := by
              rcases Nat.lt_trichotomy j i with h | h | h
              · rw [List.getElem_set_ne (by omega), hbefore j hj h] at hin
                cases hin
              · subst h
                rw [List.getElem_set_self] at hin
                cases hin
              · exact h
            rw [List.drop_set_of_lt (by omega)] at hv
            exact hafter v (List.mem_of_mem_drop (by
              rw [List.drop_drop, show i + 1 + (j - i) = j + 1 by omega]
              exact hv))
          · exact ManagedUser.entry_eq_some.mpr ⟨rfl, by rw [hf.1.snprintf], by rw [hf.2.snprintf]⟩
    · rw [if_pos (by simpa [Decidable.or_iff_not_imp_left] using hf)]
      simp only [if_neg hf]
      exact ⟨trivial, hp, trivial⟩

/-- The table after some of the pairs of the command line: its entries are the valid ones, in order, the first of those with
the same name. -/
theorem entries_foldl (initial : List (Option CString × Option CString)) (hlen : initial.length ≤ usersMax) :
    (initial.foldl (fun users p => (usersAdd users p.1 p.2).1) ManagedUsers.zeroed).length = usersMax ∧
    (initial.foldl (fun users p => (usersAdd users p.1 p.2).1) ManagedUsers.zeroed).Packed ∧
    (initial.foldl (fun users p => (usersAdd users p.1 p.2).1) ManagedUsers.zeroed).entries =
      (initial.filterMap validPair).dedupKeys := by
  induction initial using List.reverseRecOn with
  | nil =>
    refine ⟨List.length_replicate, fun i _ _ u hu => ?_, rfl⟩
    rw [List.eq_of_mem_replicate (List.mem_of_mem_drop hu)]
    rfl
  | append_singleton initial p ih =>
    rw [List.length_append, List.length_singleton] at hlen
    obtain ⟨hl, hp, he⟩ := ih (by omega)
    rw [List.foldl_append, List.filterMap_append]
    generalize initial.foldl (fun users p => (usersAdd users p.1 p.2).1) ManagedUsers.zeroed = users at hl hp he ⊢
    have hroom : usersCount users < users.length := by
      rw [← users.length_entries, he, hl]
      have h1 := (SlotTable.dedupKeys_sublist (initial.filterMap validPair)).length_le
      have h2 := List.length_filterMap_le validPair initial
      omega
    obtain ⟨hl', hp', he'⟩ := usersAdd_packed hp hroom p
    refine ⟨hl'.trans hl, hp', he'.trans ?_⟩
    cases hv : validPair p with
    | none => simp [hv, he]
    | some e =>
      simp only [List.filterMap_cons, hv, List.filterMap_nil, SlotTable.dedupKeys_append_singleton]
      rw [he]
      by_cases hk : e.1 ∈ (initial.filterMap validPair).keys
      · rw [if_pos (SlotTable.mem_keys_dedupKeys.mpr hk), if_pos hk]
      · rw [if_neg (mt SlotTable.mem_keys_dedupKeys.mp hk), if_neg hk]

/-- The entries of the table the command line makes, in slot order. -/
theorem entries_usersInitFromArgs (initial : List (Option CString × Option CString)) :
    (usersInitFromArgs initial).entries = ((initial.take usersMax).filterMap validPair).dedupKeys :=
  (entries_foldl _ (by rw [List.length_take]; omega)).2.2

/-- The table the command line makes stands for the map it makes. -/
theorem standsFor_usersInitFromArgs (initial : List (Option CString × Option CString)) :
    (usersInitFromArgs initial).StandsFor (.ofArgs initial) where
  length := (entries_foldl _ (by rw [List.length_take]; omega)).1
  entries := by
    have he := entries_usersInitFromArgs initial
    unfold ManagedUsers.entries at he
    rw [SlotTable.Represents, he]
    rfl

/-! ## Every sequence of calls -/

/-- One call answers on the table what it answers on the map. -/
theorem UsersCall.refines {users : ManagedUsers} {m : UserMap} (call : UsersCall) (h : users.StandsFor m) :
    (call.onTable users).1.StandsFor (call.onMap m).1 ∧ (call.onTable users).2 = (call.onMap m).2 := by
  cases call with
  | initFromArgs initial => exact ⟨standsFor_usersInitFromArgs initial, rfl⟩
  | add username password => exact ⟨(h.add username password).1, congrArg _ (h.add username password).2⟩
  | remove username => exact ⟨(h.remove username).1, congrArg _ (h.remove username).2⟩
  | credentialsAreValid username password => exact ⟨h, congrArg _ (h.credentialsAreValid username password)⟩

/-- The users table is a map, whatever the calls made on it. After any sequence of calls it stands for the map that the same
calls make of the empty map: no two slots hold one name, the fields have one to 255 bytes, there are at most ten entries, and
`users_count` is their number. Every call answers what it answers on the map. The pairs of the command line are entered in
order, each name with its first password. -/
theorem users_table_is_map (calls : List UsersCall) :
    (Traces.respond UsersCall.onTable ManagedUsers.zeroed calls).2 = (Traces.respond UsersCall.onMap .empty calls).2 ∧
    (Traces.respond UsersCall.onTable ManagedUsers.zeroed calls).1.StandsFor (Traces.respond UsersCall.onMap .empty calls).1 ∧
    usersCount (Traces.respond UsersCall.onTable ManagedUsers.zeroed calls).1 =
      (Traces.respond UsersCall.onMap .empty calls).1.passwords.keys.card ∧
    ∀ initial, (usersInitFromArgs initial).entries = ((initial.take usersMax).filterMap validPair).dedupKeys := by
  have h0 : ManagedUsers.zeroed.StandsFor .empty := by
    refine ⟨List.length_replicate, SlotTable.Represents.empty fun slot hs => ?_⟩
    rw [List.eq_of_mem_replicate hs]
    rfl
  obtain ⟨hs, ha⟩ := Traces.respond_simulates (fun _ _ call h => call.refines h) calls h0
  exact ⟨ha, hs, hs.count, entries_usersInitFromArgs⟩

end SocksProxy
