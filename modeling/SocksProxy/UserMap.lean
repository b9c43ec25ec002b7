import SocksProxy.Users
import SocksProxy.Library.SlotTable

/-!
# The users as a map

What the users table is for: a finite map from usernames to passwords, bounded in its size and in the length of its fields.
Neither the slots of `managed_users` nor C strings appear in it; a username and a password are the bytes they consist of.
-/

namespace SocksProxy

/-- The bytes of a username or a password: at least one of them, and at most 255. -/
def FieldBytes (bytes : List Byte) : Prop := 0 < bytes.length ∧ bytes.length ≤ usersFieldMax

instance (bytes : List Byte) : Decidable (FieldBytes bytes) := inferInstanceAs (Decidable (_ ∧ _))

/-- The users: a map from usernames to passwords with at most ten entries, every name and password a valid field. -/
structure UserMap where
  passwords : Finmap fun _ : List Byte => List Byte
  fields : ∀ username password, passwords.lookup username = some password → FieldBytes username ∧ FieldBytes password
  bounded : passwords.keys.card ≤ usersMax

/-- The entry a pair of pointers stands for, if both are valid fields. -/
def validPair : Option CString × Option CString → Option (Sigma fun _ : List Byte => List Byte)
  | (some username, some password) =>
    if FieldBytes username.bytes ∧ FieldBytes password.bytes then some ⟨username.bytes, password.bytes⟩ else none
  | _ => none

/-- A valid pair has valid fields. -/
theorem fieldBytes_of_validPair {p : Option CString × Option CString} {e : Sigma fun _ : List Byte => List Byte}
    (h : validPair p = some e) : FieldBytes e.1 ∧ FieldBytes e.2 := by
  unfold validPair at h
  split at h
  · split at h
    · rename_i hf
      cases h
      exact hf
    · cases h
  · cases h

namespace UserMap

/-- No users. -/
def empty : UserMap where
  passwords := ∅
  fields := fun username password h => by simp at h
  bounded := by simp

/-- The map with one entry more. -/
def insert (m : UserMap) (username password : List Byte) (hf : FieldBytes username ∧ FieldBytes password)
    (hk : username ∉ m.passwords) (hc : m.passwords.keys.card < usersMax) : UserMap where
  passwords := m.passwords.insert username password
  fields := fun u p h => by
    by_cases he : u = username
    · subst he
      rw [Finmap.lookup_insert] at h
      cases h
      exact hf
    · rw [Finmap.lookup_insert_of_ne _ he] at h
      exact m.fields u p h
  bounded := by
    rw [SlotTable.card_keys] at hc ⊢
    rw [Finmap.entries_insert_of_notMem hk, Multiset.card_cons]
    exact hc

/-- The map with one entry less. -/
def erase (m : UserMap) (username : List Byte) : UserMap where
  passwords := m.passwords.erase username
  fields := fun u p h => by
    by_cases he : u = username
    · subst he
      rw [Finmap.lookup_erase] at h
      cases h
    · rw [Finmap.lookup_erase_ne he] at h
      exact m.fields u p h
  bounded := by
    rw [Finmap.keys_erase]
    exact (Finset.card_erase_le).trans m.bounded

/-- Add a user: the pair must be valid, the name new, and there must be room. -/
def add (m : UserMap) (username password : Option CString) : UserMap × UsersResult :=
  match username, password with
  | some u, some p =>
    if hf : FieldBytes u.bytes ∧ FieldBytes p.bytes then
      if hk : u.bytes ∈ m.passwords then (m, .exists)
      else if hc : m.passwords.keys.card < usersMax then (m.insert u.bytes p.bytes hf hk hc, .ok)
      else (m, .full)
    else (m, .invalid)
  | _, _ => (m, .invalid)

/-- Remove a user: the name must be valid, and there. -/
def remove (m : UserMap) (username : Option CString) : UserMap × UsersResult :=
  match username with
  | some u =>
    if FieldBytes u.bytes then
      if u.bytes ∈ m.passwords then (m.erase u.bytes, .ok) else (m, .notFound)
    else (m, .invalid)
  | none => (m, .invalid)

/-- Credentials are valid when the map sends the one to the other. -/
def valid (m : UserMap) (username password : List Byte) : Bool := m.passwords.lookup username == some password

/-- The users of the command line: the valid pairs among the first ten, the first of those with the same name. -/
def ofArgs (initial : List (Option CString × Option CString)) : UserMap where
  passwords := ((initial.take usersMax).filterMap validPair).toFinmap
  fields := fun u p h => by
    rw [Finmap.dlookup_list_toFinmap] at h
    obtain ⟨pair, _, hp⟩ := List.mem_filterMap.mp (List.of_mem_dlookup h)
    exact fieldBytes_of_validPair hp
  bounded := by
    rw [SlotTable.card_keys]
    show (List.dedupKeys _).length ≤ usersMax
    refine (List.Sublist.length_le (SlotTable.dedupKeys_sublist _)).trans ?_
    refine (List.length_filterMap_le _ _).trans ?_
    rw [List.length_take]
    omega

end UserMap

end SocksProxy
