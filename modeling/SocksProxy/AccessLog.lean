import SocksProxy.Server

/-!
# The access log

`access_log.c`: the line a call of `access_log_connection` appends to the file. The time of the call, as `strftime` writes it, is
a parameter.
-/

namespace SocksProxy

/-- The text `access_log_connection` prints: its format, with the names used in place of empty ones. -/
def accessLogLine (timestamp : List Byte) (entry : AccessLogEntry) : List Byte :=
  timestamp ++ ascii " user=" ++ (if entry.username.bytes = [] then ascii "anonymous" else entry.username.bytes) ++
    ascii " dest=" ++ (if entry.host.bytes = [] then ascii "unknown" else entry.host.bytes) ++
    ascii " port=" ++ decimal entry.port.toNat ++ ascii " status=" ++ (if entry.success then ascii "OK" else ascii "FAIL") ++
    ascii "\n"

/-- `access_log_connection`: what the file holds after it, with whether it could be opened. -/
def accessLogConnection (opened : Bool) (timestamp : List Byte) (entry : AccessLogEntry) (file : List Byte) : List Byte :=
  if !opened then file else file ++ accessLogLine timestamp entry

end SocksProxy
