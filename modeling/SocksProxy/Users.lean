import SocksProxy.Bytes

/-!
# The users table

`users.c`: ten slots, each free or holding a username and a password as C strings. The management commands add and remove
entries at run time and the SOCKS5 authentication looks credentials up.
-/

namespace SocksProxy

/-- `USERS_MAX`. -/
def usersMax : Nat := 10

/-- `USERS_FIELD_MAX`. -/
def usersFieldMax : Nat := 255

/-- `users_result_t`. -/
inductive UsersResult where
  | ok | exists | notFound | full | invalid
  deriving DecidableEq, Repr

/-- `managed_user_t`: a slot of the table. -/
structure ManagedUser where
  username : CString
  password : CString
  inUse : Bool
  deriving DecidableEq

/-- A slot of zeros. -/
def ManagedUser.zeroed : ManagedUser := { username := .empty, password := .empty, inUse := false }

/-- `managed_users`: the slots, in order. -/
abbrev ManagedUsers := List ManagedUser

/-- The table after `memset(managed_users, 0, sizeof(managed_users))`. -/
def ManagedUsers.zeroed : ManagedUsers := List.replicate usersMax ManagedUser.zeroed

/-- The credentials the table holds: the username and password of each slot in use, in slot order. -/
def ManagedUsers.credentials (users : ManagedUsers) : List (CString × CString) :=
  (users.filter (·.inUse)).map (fun u => (u.username, u.password))

/-- `field_is_valid`. A NULL pointer is `none`. -/
def fieldIsValid : Option CString → Bool
  | none => false
  | some field => 0 < field.strlen && field.strlen ≤ usersFieldMax

/-- `find_user_index`. -/
def findUserIndex (users : ManagedUsers) (username : CString) : Option Nat :=
  users.findIdx? (fun u => u.inUse && u.username == username)

/-- `find_free_index`. -/
def findFreeIndex (users : ManagedUsers) : Option Nat :=
  users.findIdx? (fun u => !u.inUse)

/-- `users_count`. -/
def usersCount (users : ManagedUsers) : Nat := users.countP (·.inUse)

/-- `users_are_configured`. -/
def usersAreConfigured (users : ManagedUsers) : Bool := 0 < usersCount users

/-- `users_credentials_are_valid`: some slot in use has this username and this password, compared by length and content with
the bytes of the wire. -/
def usersCredentialsAreValid (users : ManagedUsers) (username password : List Byte) : Bool :=
  users.any (fun u => u.inUse && (u.username.strlen == username.length && u.password.strlen == password.length &&
    u.username.bytes == username && u.password.bytes == password))

/-- `users_add`. -/
def usersAdd (users : ManagedUsers) (username password : Option CString) : ManagedUsers × UsersResult :=
  match username, password with
  | some username, some password =>
    if !fieldIsValid (some username) || !fieldIsValid (some password) then (users, .invalid)
    else if (findUserIndex users username).isSome then (users, .exists)
    else
      match findFreeIndex users with
      | none => (users, .full)
      | some index =>
        (users.set index
          { username := username.snprintf (usersFieldMax + 1), password := password.snprintf (usersFieldMax + 1),
            inUse := true }, .ok)
  | _, _ => (users, .invalid)

/-- `users_remove`. -/
def usersRemove (users : ManagedUsers) (username : Option CString) : ManagedUsers × UsersResult :=
  match username with
  | none => (users, .invalid)
  | some username =>
    if !fieldIsValid (some username) then (users, .invalid)
    else
      match findUserIndex users username with
      | none => (users, .notFound)
      | some index => (users.set index ManagedUser.zeroed, .ok)

/-- `users_init_from_args`: the first `USERS_MAX` pairs, added in order to an empty table. The result of each addition is
ignored. -/
def usersInitFromArgs (initial : List (Option CString × Option CString)) : ManagedUsers :=
  (initial.take usersMax).foldl (fun users p => (usersAdd users p.1 p.2).1) ManagedUsers.zeroed

/-- `users_result_name`. -/
def usersResultName : UsersResult → List Byte
  | .ok => ascii "ok"
  | .exists => ascii "exists"
  | .notFound => ascii "not_found"
  | .full => ascii "full"
  | .invalid => ascii "invalid"

/-- The loop of `users_format_list`: each user in use is appended at the offset the lengths so far add up to, for as long as
that offset is inside the buffer. -/
def usersFormatLoop (bufferSize : Nat) : ManagedUsers → List Byte → Nat → List Byte
  | [], buffer, _ => buffer
  | u :: rest, buffer, written =>
    if written < bufferSize then
      if u.inUse then
        let (text, n) := snprintfText (bufferSize - written) (ascii "user=" ++ u.username.bytes ++ ascii "\n")
        usersFormatLoop bufferSize rest (buffer.take written ++ text) (written + n)
      else usersFormatLoop bufferSize rest buffer written
    else buffer

/-- `users_format_list`: the text it leaves in a buffer of this size. -/
def usersFormatList (users : ManagedUsers) (bufferSize : Nat) : List Byte :=
  if bufferSize = 0 then []
  else
    let (text, written) :=
      snprintfText bufferSize (ascii "users_count=" ++ decimal (usersCount users) ++ ascii "\n")
    usersFormatLoop bufferSize users text written

end SocksProxy
