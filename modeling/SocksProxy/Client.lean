import SocksProxy.Args

/-!
# The management client

`client.c`: the program that sends one command to the management port. Its arguments are printed into a buffer with a space between
them, the line of that is sent to the server by a blocking socket, and what comes back is printed until the server closes the
connection.
-/

namespace SocksProxy

/-- `CLIENT_BUFFER_SIZE`. -/
def clientBufferSize : Nat := 1024

/-- `EINTR`. -/
def Errno.eintr : Errno := ⟨4, by decide⟩

/-- The loop of `build_command`: each argument is printed behind what the buffer has so far, and there is no command when one does
not fit. `start` says that the argument is the first. A text that is too long for the result of `snprintf` is refused like any
other that does not fit. -/
def buildLoop (bufferSize : Nat) : Bool → List CString → List Byte → Option (List Byte)
  | _, [], buffer => some buffer
  | start, arg :: args, buffer =>
    let (text, written) := snprintfText (bufferSize - buffer.length) ((if start then [] else ascii " ") ++ arg.bytes)
    if written ≥ bufferSize - buffer.length then none
    else buildLoop bufferSize false args (buffer ++ text)

/-- `build_command`: the command that is left in the buffer, unless it is too long. -/
def buildCommand (args : List CString) (bufferSize : Nat) : Option CString :=
  if args = [] then some (CString.ofBuffer (snprintfText bufferSize (ascii "STATS")).1)
  else (buildLoop bufferSize true args []).map CString.ofBuffer

/-- The loop of `send_command`, over the bytes that are left: the chunks that were sent, and what the call returned, if it did. Where
it asks for more than is listed, `send` blocks. -/
def sendCommandLoop : List Byte → List SendResult → List (List Byte) × Option Bool
  | [], _ => ([], some true)
  | _ :: _, [] => ([], none)
  | b :: left, .sent count :: sends =>
    if count = 0 then ([], some false)
    else
      let (chunks, ret) := sendCommandLoop ((b :: left).drop count) sends
      ((b :: left).take count :: chunks, ret)
  | b :: left, .error e :: sends => if e = .eintr then sendCommandLoop (b :: left) sends else ([], some false)

/-- `send_command`: nothing when the line is too long, else what was sent of it and what the call returned. -/
def sendCommand (command : CString) (sends : List SendResult) : Option (List (List Byte) × Option Bool) :=
  let (buffer, len) := snprintfText clientBufferSize (command.bytes ++ ascii "\n")
  if len ≥ clientBufferSize then none else some (sendCommandLoop buffer sends)

/-- What the client does that the outside can see. -/
inductive ClientAct where
  | opened (fd : Nat)
  | connected (fd : Nat)
  | sent (fd : Nat) (bytes : List Byte)
  | printed (bytes : List Byte)
  | ended (fd : Nat)
  | closed (fd : Nat)
  deriving DecidableEq

/-- The loop of `print_response`: what is printed, and what the call returned, if it did. Where it asks for more than is listed,
`recv` blocks. -/
def printLoop (fd : Nat) : List RecvResult → List ClientAct × Option Bool
  | [] => ([], none)
  | answer :: recvs =>
    match answer.limit clientBufferSize with
    | .data received => let (acts, ret) := printLoop fd recvs; (.printed received :: acts, ret)
    | .eof => ([.ended fd], some true)
    | .error e => if e = .eintr then printLoop fd recvs else ([], some false)

/-- `send_command(fd, command) && print_response(fd)`. -/
def clientExchange (fd : Nat) (command : CString) (sends : List SendResult) (recvs : List RecvResult) :
    List ClientAct × Option Bool :=
  match sendCommand command sends with
  | none => ([], some false)
  | some (chunks, some true) => let (acts, ret) := printLoop fd recvs; (chunks.map (.sent fd) ++ acts, ret)
  | some (chunks, ret) => (chunks.map (.sent fd), ret)

/-- An address that `getaddrinfo` lists: what `socket` returns for it, and what `connect` does with that. -/
structure ConnectAttempt where
  socket : Except Errno Nat
  connect : SysResult

/-- The loop of `connect_to_management`. -/
def connectLoop : List ConnectAttempt → List ClientAct × Option Nat
  | [] => ([], none)
  | ⟨.error _, _⟩ :: attempts => connectLoop attempts
  | ⟨.ok fd, .ok⟩ :: _ => ([.opened fd, .connected fd], some fd)
  | ⟨.ok fd, .error _⟩ :: attempts =>
    let (acts, ret) := connectLoop attempts
    (.opened fd :: .closed fd :: acts, ret)

/-- `connect_to_management`, on what `getaddrinfo` answers: the descriptor, unless it is -1. -/
def connectToManagement : Option (List ConnectAttempt) → List ClientAct × Option Nat
  | none => ([], none)
  | some result => connectLoop result

/-- `"hL:P:"`: whether an option takes an argument, for the letters that are options. -/
def clientTakesArgument (letter : Char) : Option Bool :=
  if letter = 'h' then some false else if letter = 'L' ∨ letter = 'P' then some true else none

/-- The options in one element of the command line, past its dash, as in `getoptCluster`. -/
def clientCluster : List Byte → List Opt × Option Char
  | [] => ([], none)
  | c :: rest =>
    let letter := Char.ofNat c.toNat
    match clientTakesArgument letter with
    | none => let (opts, waiting) := clientCluster rest; (⟨'?', none⟩ :: opts, waiting)
    | some false => let (opts, waiting) := clientCluster rest; (⟨letter, none⟩ :: opts, waiting)
    | some true =>
      if rest = [] then ([], some letter) else ([⟨letter, some (CString.ofBuffer rest)⟩], none)

/-- `getopt` over the elements of the command line, with a letter that waits for its argument: the options in order, and the
operands. Two dashes alone end the options; without long options a second dash is an unknown letter like any other. -/
def clientGetopt : Option Char → List CString → List Opt × List CString
  | none, [] => ([], [])
  | some _, [] => ([⟨'?', none⟩], [])
  | some letter, arg :: rest =>
    let (opts, operands) := clientGetopt none rest
    (⟨letter, some arg⟩ :: opts, operands)
  | none, arg :: rest =>
    match arg.bytes with
    | [45, 45] => ([], rest)
    | 45 :: c :: cs =>
      let (opts, waiting) := clientCluster (c :: cs)
      let (opts', operands) := clientGetopt waiting rest
      (opts ++ opts', operands)
    | _ => let (opts, operands) := clientGetopt none rest; (opts, arg :: operands)

/-- The loop of `main` over the options: the host and the port, or what `main` returns at once. -/
def clientOptions (host port : CString) : List Opt → Except Nat (CString × CString)
  | [] => .ok (host, port)
  | o :: opts =>
    match o.letter, o.optarg with
    | 'h', _ => .error 0
    | 'L', some optarg => clientOptions optarg port opts
    | 'P', some optarg => clientOptions host optarg opts
    | _, _ => .error 1

/-- The answers to the system calls of the client, in which `getaddrinfo` is a function of the host and the port. -/
structure ClientAnswers where
  getaddrinfo : CString → CString → Option (List ConnectAttempt)
  sends : List SendResult
  recvs : List RecvResult

/-- `main` of the client, on the elements after the name of the program: what it does, and its exit code, unless it blocks. -/
def clientMain (argv : List CString) (a : ClientAnswers) : List ClientAct × Option Nat :=
  let (opts, operands) := clientGetopt none argv
  match clientOptions (literal "127.0.0.1") (literal "8080") opts with
  | .error code => ([], some code)
  | .ok (host, port) =>
    match buildCommand operands clientBufferSize with
    | none => ([], some 1)
    | some command =>
      match connectToManagement (a.getaddrinfo host port) with
      | (acts, none) => (acts, some 1)
      | (acts, some fd) =>
        let (acts', ok) := clientExchange fd command a.sends a.recvs
        match ok with
        | none => (acts ++ acts', none)
        | some ok => (acts ++ acts' ++ [.closed fd], some (if ok then 0 else 1))

end SocksProxy
