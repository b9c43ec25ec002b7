import SocksProxy.EventLoop

/-!
# The command line

`args.c`, and `main` up to the call of `server_run`: the options are read with `getopt_long`, each `-u` option is split into a
name and a password, and the pairs make the users table. Where the source leaves through `exit` the result is `none`.
-/

namespace SocksProxy

/-- `MAX_USERS`. -/
def maxUsers : Nat := 10

/-- An option as `getopt_long` returns it: its letter, `?` for one that is unknown or lacks its argument, and `optarg`. -/
structure Opt where
  letter : Char
  optarg : Option CString

/-- `"hl:L:p:P:u:v"`: whether an option takes an argument, for the letters that are options. -/
def takesArgument (letter : Char) : Option Bool :=
  if letter = 'h' ∨ letter = 'v' then some false
  else if letter = 'l' ∨ letter = 'L' ∨ letter = 'p' ∨ letter = 'P' ∨ letter = 'u' then some true
  else none

/-- The options in one element of the command line, past its dash: their letters follow one another, and what comes after a
letter that takes an argument is its argument. If nothing does, the next element is, and the letter is returned. -/
def getoptCluster : List Byte → List Opt × Option Char
  | [] => ([], none)
  | c :: rest =>
    let letter := Char.ofNat c.toNat
    match takesArgument letter with
    | none => let (opts, waiting) := getoptCluster rest; (⟨'?', none⟩ :: opts, waiting)
    | some false => let (opts, waiting) := getoptCluster rest; (⟨letter, none⟩ :: opts, waiting)
    | some true =>
      if rest = [] then ([], some letter) else ([⟨letter, some (CString.ofBuffer rest)⟩], none)

/-- `getopt_long` over the elements of the command line, with a letter that waits for its argument: the options in order, and
the operands. There are no long options, so that every element with two dashes is an unknown one, but for the two dashes alone,
which end the options. -/
def getoptLong : Option Char → List CString → List Opt × List CString
  | none, [] => ([], [])
  | some _, [] => ([⟨'?', none⟩], [])
  | some letter, arg :: rest =>
    let (opts, operands) := getoptLong none rest
    (⟨letter, some arg⟩ :: opts, operands)
  | none, arg :: rest =>
    match arg.bytes with
    | [45, 45] => ([], rest)
    | 45 :: 45 :: _ => let (opts, operands) := getoptLong none rest; (⟨'?', none⟩ :: opts, operands)
    | 45 :: c :: cs =>
      let (opts, waiting) := getoptCluster (c :: cs)
      let (opts', operands) := getoptLong waiting rest
      (opts ++ opts', operands)
    | _ => let (opts, operands) := getoptLong none rest; (opts, arg :: operands)

/-- `isspace`, in the C locale. -/
def isSpace (c : Byte) : Bool := c == 32 || (9 ≤ c && c ≤ 13)

/-- `isdigit`. -/
def isDigit (c : Byte) : Bool := 48 ≤ c && c ≤ 57

/-- `LONG_MAX`. -/
def longMax : Int := 9223372036854775807

/-- `LONG_MIN`. -/
def longMin : Int := -9223372036854775808

/-- `strtol` in base ten: the number and what is left of the string, or nothing if there is no number. -/
def strtol (s : List Byte) : Option (Int × List Byte) :=
  let s := s.dropWhile isSpace
  let (negative, s) :=
    match s with
    | 45 :: rest => (true, rest)
    | 43 :: rest => (false, rest)
    | _ => (false, s)
  let digits := s.takeWhile isDigit
  if digits = [] then none
  else
    let value : Int := digits.foldl (fun (n : Int) (c : Byte) => 10 * n + (c.toNat - 48 : Nat)) 0
    some (max longMin (min longMax (if negative then -value else value)), s.dropWhile isDigit)

/-- `port`. A number outside the range of `long` is outside that of a port, whatever `errno` says. -/
def port (s : CString) : Option UInt16 :=
  match strtol s.bytes with
  | none => none
  | some (sl, rest) => if rest ≠ [] ∨ sl < 0 ∨ sl > 65535 then none else some (UInt16.ofNat sl.toNat)

/-- `user`: the argument is cut at its first colon. -/
def user (s : CString) : Option (Option CString × Option CString) :=
  match s.bytes.dropWhile (· != 58) with
  | [] => none
  | _ :: password => some (some (CString.ofBuffer (s.bytes.takeWhile (· != 58))), some (CString.ofBuffer password))

/-- `struct socks5args`. -/
structure Socks5Args where
  socksAddr : CString
  socksPort : UInt16
  mngAddr : CString
  mngPort : UInt16
  users : List (Option CString × Option CString)

/-- The defaults of `parse_args`. -/
def Socks5Args.initial : Socks5Args where
  socksAddr := literal "0.0.0.0"
  socksPort := 1080
  mngAddr := literal "127.0.0.1"
  mngPort := 8080
  users := List.replicate maxUsers (none, none)

/-- One turn of the loop of `parse_args`, with the number of users so far. An option that takes an argument has one. -/
def parseOpt (args : Socks5Args) (nusers : Nat) (o : Opt) : Option (Socks5Args × Nat) :=
  match o.letter, o.optarg with
  | 'l', some optarg => some ({ args with socksAddr := optarg }, nusers)
  | 'L', some optarg => some ({ args with mngAddr := optarg }, nusers)
  | 'p', some optarg => (port optarg).map fun p => ({ args with socksPort := p }, nusers)
  | 'P', some optarg => (port optarg).map fun p => ({ args with mngPort := p }, nusers)
  | 'u', some optarg =>
    if nusers ≥ maxUsers then none
    else (user optarg).map fun u => ({ args with users := args.users.set nusers u }, nusers + 1)
  | _, _ => none

/-- The loop of `parse_args`. -/
def parseOpts (args : Socks5Args) (nusers : Nat) : List Opt → Option Socks5Args
  | [] => some args
  | o :: opts =>
    match parseOpt args nusers o with
    | none => none
    | some (args, nusers) => parseOpts args nusers opts

/-- `parse_args`, on the elements after the name of the program: it accepts no operands. -/
def parseArgs (argv : List CString) : Option Socks5Args :=
  let (opts, operands) := getoptLong none argv
  match parseOpts .initial 0 opts with
  | none => none
  | some args => if operands ≠ [] then none else some args

/-- The loop of `main` that counts the users. -/
def countUsers (users : List (Option CString × Option CString)) : Nat :=
  ((users.take maxUsers).takeWhile fun u => u.1.isSome).length

/-- The users table `main` makes. -/
def Socks5Args.managedUsers (args : Socks5Args) : ManagedUsers :=
  usersInitFromArgs (args.users.take (countUsers args.users))

end SocksProxy
