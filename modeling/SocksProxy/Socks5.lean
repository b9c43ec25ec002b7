import SocksProxy.Bytes

/-!
# The SOCKS5 wire format

`socks5.c`: the constants of the protocol, the methods a greeting offers, the replies, and the parser of the CONNECT request.
The parsers read the bytes received so far; a read beyond them yields `none`, so that a parser that never yields `none` never
reads outside what was received.
-/

namespace SocksProxy

/-- `SOCKS5_VERSION`. -/
def socks5Version : Byte := 0x05

/-- `SOCKS5_METHOD_NO_AUTH`. -/
def socks5MethodNoAuth : Byte := 0x00

/-- `SOCKS5_METHOD_USERNAME_PASSWORD`. -/
def socks5MethodUsernamePassword : Byte := 0x02

/-- `SOCKS5_METHOD_NO_ACCEPTABLE`. -/
def socks5MethodNoAcceptable : Byte := 0xFF

/-- `SOCKS5_CMD_CONNECT`. -/
def socks5CmdConnect : Byte := 0x01

/-- `SOCKS5_ATYP_IPV4`. -/
def socks5AtypIpv4 : Byte := 0x01

/-- `SOCKS5_ATYP_DOMAIN`. -/
def socks5AtypDomain : Byte := 0x03

/-- `SOCKS5_ATYP_IPV6`. -/
def socks5AtypIpv6 : Byte := 0x04

/-- `SOCKS5_REPLY_SUCCESS`. -/
def socks5ReplySuccess : Byte := 0x00

/-- `SOCKS5_REPLY_GENERAL_FAILURE`. -/
def socks5ReplyGeneralFailure : Byte := 0x01

/-- `SOCKS5_REPLY_NETWORK_UNREACHABLE`. -/
def socks5ReplyNetworkUnreachable : Byte := 0x03

/-- `SOCKS5_REPLY_HOST_UNREACHABLE`. -/
def socks5ReplyHostUnreachable : Byte := 0x04

/-- `SOCKS5_REPLY_CONNECTION_REFUSED`. -/
def socks5ReplyConnectionRefused : Byte := 0x05

/-- `SOCKS5_REPLY_TTL_EXPIRED`. -/
def socks5ReplyTtlExpired : Byte := 0x06

/-- `SOCKS5_REPLY_COMMAND_NOT_SUPPORTED`. -/
def socks5ReplyCommandNotSupported : Byte := 0x07

/-- `SOCKS5_REPLY_ADDRESS_TYPE_NOT_SUPPORTED`. -/
def socks5ReplyAddressTypeNotSupported : Byte := 0x08

/-- `SOCKS5_AUTH_VERSION`. -/
def socks5AuthVersion : Byte := 0x01

/-- `SOCKS5_AUTH_SUCCESS`. -/
def socks5AuthSuccess : Byte := 0x00

/-- `SOCKS5_AUTH_FAILURE`. -/
def socks5AuthFailure : Byte := 0x01

/-- `SOCKS5_IPV4_REQUEST_SIZE`. -/
def socks5Ipv4RequestSize : Nat := 10

/-- `SOCKS5_IPV6_REQUEST_SIZE`. -/
def socks5Ipv6RequestSize : Nat := 22

/-- `SOCKS5_MAX_DOMAIN_LENGTH`. -/
def socks5MaxDomainLength : Nat := 255

/-- A socket address: `struct sockaddr_storage` as this program fills and reads it. The port is kept in host order. -/
inductive SockAddr where
  | zeroed
  | inet (addr : List Byte) (port : UInt16)
  | inet6 (addr : List Byte) (port : UInt16)
  | other (family : Nat)
  deriving DecidableEq

/-- The octets of the address, where the family has them. -/
def SockAddr.octets : SockAddr → List Byte
  | .inet addr _ => addr
  | .inet6 addr _ => addr
  | .zeroed => []
  | .other _ => []

/-- `socks5_request_t`. The host is the `char` array up to the terminator the parser writes; its bytes come from the wire. -/
structure Socks5Request where
  atyp : Byte
  port : UInt16
  host : List Byte
  addr : SockAddr
  deriving DecidableEq

/-- `len` bytes of a buffer from an offset on, when the buffer holds them all. -/
def slice (buffer : List Byte) (off len : Nat) : Option (List Byte) :=
  if off + len ≤ buffer.length then some ((buffer.drop off).take len) else none

/-- `socks5_client_offers_no_auth`. -/
def socks5ClientOffersNoAuth (methods : List Byte) : Bool := methods.any (· == socks5MethodNoAuth)

/-- `socks5_client_offers_username_password`. -/
def socks5ClientOffersUsernamePassword (methods : List Byte) : Bool := methods.any (· == socks5MethodUsernamePassword)

/-- `socks5_prepare_greeting_response`: the bytes it writes; the length it sets is theirs and the offset it sets is zero. -/
def socks5PrepareGreetingResponse (method : Byte) : List Byte := [socks5Version, method]

/-- `socks5_prepare_request_response`. -/
def socks5PrepareRequestResponse (reply : Byte) : List Byte :=
  [socks5Version, reply, 0x00, socks5AtypIpv4, 0x00, 0x00, 0x00, 0x00, 0x00, 0x00]

/-- `socks5_prepare_auth_response`. -/
def socks5PrepareAuthResponse (status : Byte) : List Byte := [socks5AuthVersion, status]

/-- A reply of the server: to a greeting, to an authentication, or to a request. -/
inductive Reply where
  | greeting (method : Byte)
  | auth (status : Byte)
  | request (code : Byte)
  deriving DecidableEq

/-- The bytes of a reply. -/
def Reply.bytes : Reply → List Byte
  | .greeting method => socks5PrepareGreetingResponse method
  | .auth status => socks5PrepareAuthResponse status
  | .request code => socks5PrepareRequestResponse code

/-- `socks5_request_is_incomplete`. -/
def socks5RequestIsIncomplete (buffer : List Byte) : Option Bool :=
  if buffer.length < 4 then some true
  else do
    let atyp ← buffer[3]?
    if atyp = socks5AtypIpv4 then some (buffer.length < socks5Ipv4RequestSize)
    else if atyp = socks5AtypIpv6 then some (buffer.length < socks5Ipv6RequestSize)
    else if atyp = socks5AtypDomain then
      if buffer.length < 5 then some true
      else do
        let domainLen ← buffer[4]?
        some (buffer.length < 5 + domainLen.toNat + 2)
    else some false

/-- `socks5_request_reply_for`. -/
def socks5RequestReplyFor (buffer : List Byte) : Option Byte :=
  if buffer.length < 4 then some socks5ReplyGeneralFailure
  else do
    let version ← buffer[0]?
    let rsv ← buffer[2]?
    if version ≠ socks5Version ∨ rsv ≠ 0x00 then some socks5ReplyGeneralFailure
    else do
      let cmd ← buffer[1]?
      if cmd ≠ socks5CmdConnect then some socks5ReplyCommandNotSupported
      else do
        let atyp ← buffer[3]?
        if atyp ≠ socks5AtypIpv4 ∧ atyp ≠ socks5AtypDomain ∧ atyp ≠ socks5AtypIpv6 then
          some socks5ReplyAddressTypeNotSupported
        else do
          let incomplete ← socks5RequestIsIncomplete buffer
          if incomplete then some socks5ReplyGeneralFailure else some socks5ReplySuccess

/-- `((uint16_t) hi << 8) | (uint16_t) lo`. -/
def bigEndian (hi lo : Byte) : UInt16 := (hi.toUInt16 <<< 8) ||| lo.toUInt16

/-- `socks5_parse_connect_request`, with a request to fill: `none` for a read outside the buffer, `some none` when it returns
false. -/
def socks5ParseConnectRequest (buffer : List Byte) : Option (Option Socks5Request) := do
  let reply ← socks5RequestReplyFor buffer
  if reply ≠ socks5ReplySuccess then some none
  else do
    let atyp ← buffer[3]?
    if atyp = socks5AtypIpv4 then do
      let hi ← buffer[8]?
      let lo ← buffer[9]?
      let addr ← slice buffer 4 4
      some (some { atyp, port := bigEndian hi lo, host := [], addr := .inet addr (bigEndian hi lo) })
    else if atyp = socks5AtypIpv6 then do
      let hi ← buffer[20]?
      let lo ← buffer[21]?
      let addr ← slice buffer 4 16
      some (some { atyp, port := bigEndian hi lo, host := [], addr := .inet6 addr (bigEndian hi lo) })
    else if atyp = socks5AtypDomain then do
      let domainLen ← buffer[4]?
      let portIndex := 5 + domainLen.toNat
      if domainLen = 0 then some none
      else do
        let host ← slice buffer 5 domainLen.toNat
        let hi ← buffer[portIndex]?
        let lo ← buffer[portIndex + 1]?
        some (some { atyp, port := bigEndian hi lo, host, addr := .zeroed })
    else some none

end SocksProxy
