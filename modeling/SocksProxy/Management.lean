import SocksProxy.Close

/-!
# The management protocol

`management.c`: each connection sends one line and gets one answer, after which it is closed. Two of the commands change the
users table, between any two events of any session.
-/

namespace SocksProxy

/-- `format_metrics_response`. -/
def formatMetricsResponse (metrics : ServerMetrics) : List Byte :=
  ascii "historical_connections=" ++ decimal metrics.historicalConnections.toNat ++ ascii "\n" ++
  ascii "concurrent_connections=" ++ decimal metrics.concurrentConnections.toNat ++ ascii "\n" ++
  ascii "successful_connections=" ++ decimal metrics.successfulConnections.toNat ++ ascii "\n" ++
  ascii "failed_connections=" ++ decimal metrics.failedConnections.toNat ++ ascii "\n" ++
  ascii "bytes_transferred=" ++ decimal metrics.totalTransferredBytes.toNat ++ ascii "\n" ++
  ascii "bytes_client_to_target=" ++ decimal metrics.bytesClientToTarget.toNat ++ ascii "\n" ++
  ascii "bytes_target_to_client=" ++ decimal metrics.bytesTargetToClient.toNat ++ ascii "\n"

/-- A space or a tab: the separators of `strtok`. -/
def isSeparator (b : Byte) : Bool := b == 0x20 || b == 0x09

/-- One call of `strtok(..., " \t")` on what is left of the line: the token, if there is one, and what is left after it. -/
def strtok (line : CString) : Option CString × CString :=
  let rest := line.bytes.dropWhile isSeparator
  let token := rest.takeWhile (!isSeparator ·)
  if token = [] then (none, .empty)
  else (some (CString.ofBuffer token), CString.ofBuffer ((rest.drop token.length).drop 1))

/-- A letter in lower case, in the C locale. -/
def tolower (b : Byte) : Byte := if 0x41 ≤ b ∧ b ≤ 0x5A then b + 0x20 else b

/-- `strcasecmp(command, name) == 0`. -/
def strcaseeq (command : CString) (name : String) : Bool :=
  command.bytes.map tolower == (ascii name).map tolower

/-- `management_prepare_response`: the users table after the command, and the answer. -/
def managementPrepareResponse (users : ManagedUsers) (metrics : ServerMetrics) (readBuffer : List Byte) :
    ManagedUsers × List Byte :=
  let line := CString.ofBuffer (readBuffer.takeWhile (fun b => b != 0x0D && b != 0x0A))
  let (command, line) := strtok line
  let (arg1, line) := strtok line
  let (arg2, line) := strtok line
  match command with
  | none => (users, ascii "error=empty_command\n")
  | some command =>
    if strcaseeq command "STATS" || strcaseeq command "METRICS" then (users, formatMetricsResponse metrics)
    else if strcaseeq command "USERS" then (users, usersFormatList users managementBufferSize)
    else if strcaseeq command "ADDUSER" then
      if arg1.isNone || arg2.isNone || (strtok line).1.isSome then (users, ascii "error=usage_ADDUSER_user_pass\n")
      else
        let (users, result) := usersAdd users arg1 arg2
        (users, ascii "adduser=" ++ usersResultName result ++ ascii "\nusers_count=" ++ decimal (usersCount users) ++
          ascii "\n")
    else if strcaseeq command "DELUSER" then
      if arg1.isNone || arg2.isSome then (users, ascii "error=usage_DELUSER_user\n")
      else
        let (users, result) := usersRemove users arg1
        (users, ascii "deluser=" ++ usersResultName result ++ ascii "\nusers_count=" ++ decimal (usersCount users) ++
          ascii "\n")
    else if strcaseeq command "QUIT" then (users, ascii "ok=bye\n")
    else if strcaseeq command "HELP" then
      (users, ascii "commands=STATS,METRICS,USERS,ADDUSER,DELUSER,HELP,QUIT\n")
    else (users, ascii "error=unknown_command\n")

/-- Write a management connection. -/
def Server.putManagement (s : Server) (mid : Nat) (state : ManagementState) : Server :=
  { s with managements := Function.update s.managements mid (some state) }

/-- `management_write`. -/
def managementWrite (s : Server) (key : SelectorKey Nat) (sends : List SendResult) : Server :=
  match key.data with
  | none => s.fault .nullPointer
  | some mid =>
    match s.managements mid with
    | none => s.fault (.useAfterFree mid)
    | some state =>
      let (chunks, ending) := sendLoop (state.writeBuffer.drop state.writeOff) sends
      let s := s.putManagement mid { state with writeOff := state.writeOff + chunks.flatten.length }
      let s := s.afterSend ending
      match ending with
      | .wouldBlock => s
      | .failed _ => (s.unregister key.fd).1
      | .drained => (s.unregister key.fd).1

/-- `management_read`. The answer is a C string, so it ends at its first NUL, and it is cut to the write buffer. -/
def managementRead (s : Server) (key : SelectorKey Nat) (a : Answers) : Server :=
  match key.data with
  | none => s.fault .nullPointer
  | some mid =>
    match s.managements mid with
    | none => s.fault (.useAfterFree mid)
    | some state =>
      match a.recv.limit (managementBufferSize - state.readBuffer.length - 1) with
      | .data bytes =>
        let state := { state with readBuffer := state.readBuffer ++ bytes }
        let s := s.putManagement mid state
        if state.readBuffer.contains 0x0A ∨ state.readBuffer.length = managementBufferSize - 1 then
          let (users, response) := managementPrepareResponse s.managedUsers s.metrics state.readBuffer
          let response := (CString.ofBuffer response).snprintf managementBufferSize
          let s := { s with managedUsers := users }
          let s := s.putManagement mid { state with writeBuffer := response.bytes, writeOff := 0 }
          s.setInterest key.fd opWrite
        else s
      | .eof => (s.unregister key.fd).1
      | .error e =>
        let s := s.setErrno e
        if e = .eagain then s else (s.unregister key.fd).1

/-- `accept_management_connection`. -/
def acceptManagementConnection : Server → List AcceptResult → Server
  | s, [] => s.setErrno .eagain
  | s, .error e :: _ => s.setErrno e
  | s, .accepted fd setNonblocking allocated :: rest =>
    match s.handOut (.ok fd) with
    | .error e => s.setErrno e
    | .ok clientFd =>
      let s := s.openFd clientFd
      match setNonblocking with
      | .error e => acceptManagementConnection ((s.setErrno e).close clientFd) rest
      | .ok =>
        if !allocated then acceptManagementConnection (s.close clientFd) rest
        else
          let mid := s.nextObject
          let s := { s with nextObject := s.nextObject + 1 }.putManagement mid
            { readBuffer := [], writeBuffer := [], writeOff := 0 }
          match s.register clientFd .managementClientHandler opRead (some mid) with
          | (s, .success) => acceptManagementConnection s rest
          | (s, _) =>
            acceptManagementConnection ({ s with managements := Function.update s.managements mid none }.close clientFd) rest

end SocksProxy
