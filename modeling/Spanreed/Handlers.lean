import Spanreed.Lib.Flatbuffers

/-! # The values that travel between hub, client handlers and destination handlers

`pkg/handlers` with the errors of `pkg/errors`, `internal` and `pkg/proxy`. A Go `[]byte` that may
be nil is an `Option Bytes`; a Go `string` is its bytes, except for handler names, which are only
compared. Times are microseconds since the start of the proxy. -/

namespace Spanreed
open Flatbuffers

abbrev ClientId := UInt32
abbrev Timestamp := Int

/-- An ASCII literal as the bytes of a Go string. -/
def ascii (s : String) : Bytes := s.toList.map fun c => c.toNat.toUInt8

/-- The errors of the proxy. `other` is an error of a library, known by its text. -/
inductive GoError
  | duplicateClientId (id : ClientId)
  | missingClientId (id : ClientId)
  | tooManyClients
  | missingDestinationHandler (name : String)
  | missingClientHandler (name : String)
  | noMatchingHandlerForConnectionString (connectionString : Bytes)
  | nameCollision (context name : String)
  | authTimeout
  | connectionTimeout
  | proxyShutdown
  | deformedMessage
  | notUdpConnectionString
  | deniedDestination
  | other (text : Bytes)
deriving DecidableEq

/-- A decimal number as the bytes of a Go string. -/
def decimal (n : Nat) : Bytes := ascii (toString n)

/-- `Error()`. `NoMatchingHandlerForConnectionString` slices its connection string at 32, which
panics on a shorter one. -/
def GoError.error : GoError → Option Bytes
  | .duplicateClientId id =>
    some (ascii "Attempted to create client with duplicate ID " ++ decimal id.toNat)
  | .missingClientId id => some (ascii "Missing client with id=" ++ decimal id.toNat)
  | .tooManyClients => some (ascii "Too many clients are connected - cannot create new client")
  | .missingDestinationHandler name =>
    some (ascii "Missing destination handler with name " ++ ascii name)
  | .missingClientHandler name =>
    some (ascii "Missing client message handler with name " ++ ascii name)
  | .noMatchingHandlerForConnectionString connectionString => do
    let shown ← (Slice.ofBytes connectionString).range 0 32
    some (ascii "No destination handler can match connection string " ++ shown.bytes)
  | .nameCollision context name => some (ascii "Name collision for name '" ++ ascii name ++
      ascii "' in context '" ++ ascii context ++ ascii "'")
  | .authTimeout => some (ascii "Auth timeout")
  | .connectionTimeout => some (ascii "Connection timed out")
  | .proxyShutdown => some (ascii "disconnecting due to proxy shutdown request")
  | .deformedMessage => some (ascii "deformed message: <nil>")
  | .notUdpConnectionString => some (ascii "not a UDP connection string")
  | .deniedDestination => some (ascii "cannot connect to denied destination")
  | .other text => some text

structure OpenClientConnectionCommand where
  clientId : ClientId
  recvTimestamp : Timestamp
  routeTimestamp : Timestamp
  connectionString : Bytes
  appData : Option Bytes
deriving DecidableEq

/-- The error of a verdict is only ever rendered, so it is kept as the text `Error()` returns. -/
structure OpenClientConnectionVerdict where
  clientId : ClientId
  verdict : Bool
  error : Option Bytes
  appData : Option Bytes
deriving DecidableEq

structure ClientCloseCommand where
  clientId : ClientId
  reason : Bytes
  error : Option GoError
  appData : Option Bytes
deriving DecidableEq

structure ClientMessage where
  clientId : ClientId
  recvTimestamp : Timestamp
  routeTimestamp : Timestamp
  data : Option Bytes
deriving DecidableEq

structure DestinationMessage where
  clientId : ClientId
  recvTimestamp : Timestamp
  routeTimestamp : Timestamp
  data : Option Bytes
deriving DecidableEq

/-! ## What a channel carries for one client -/

/-- The payload of a message, if it is one of client `c`. -/
def ClientMessage.dataFor (c : ClientId) (m : ClientMessage) : Option (Option Bytes) :=
  if m.clientId = c then some m.data else none

/-- The payload of a message, if it is one of client `c`. -/
def DestinationMessage.dataFor (c : ClientId) (m : DestinationMessage) : Option (Option Bytes) :=
  if m.clientId = c then some m.data else none

end Spanreed
