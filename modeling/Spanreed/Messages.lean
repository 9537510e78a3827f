import Spanreed.Handlers

/-! # The FlatBuffers messages the proxy reads

The generated accessors of `pkg/transport/SpanreedMessage` for the two root tables that come from
outside, `ConnectClientMessage` and `DestinationMessage`, and the two parsers that run under
`recover`. `none` is a panic. -/

namespace Spanreed
open Flatbuffers

/-- `InnerMsg`, a byte; every value without a name is `unknown`. -/
inductive InnerMsg
  | none
  | proxyMessage
  | connectionVerdict
  | closeConnection
  | unknown (tag : UInt8)
deriving DecidableEq

def InnerMsg.ofByte (b : UInt8) : InnerMsg :=
  if b = 0 then .none
  else if b = 1 then .proxyMessage
  else if b = 2 then .connectionVerdict
  else if b = 3 then .closeConnection
  else .unknown b

namespace DestinationMessageTable

def msgType (t : Table) : Option InnerMsg := (t.field 4 t.getByte 0).map InnerMsg.ofByte

/-- `Msg`: the table of the union, if the field is present. `Union` adds the position of the table
itself, so it is given the bare offset. -/
def msg (t : Table) : Option (Option Table) := do
  let o := (← t.offset 6).toUInt32
  if o ≠ 0 then (t.union o).map some else pure none

def appDataBytes (t : Table) : Option (Option Slice) := t.bytesField 8

end DestinationMessageTable

def ConnectionVerdict.clientId (t : Table) : Option ClientId := t.field 4 t.getUint32 0
def ConnectionVerdict.accepted (t : Table) : Option Bool := t.field 6 t.getBool false
def ProxyMessage.clientId (t : Table) : Option ClientId := t.field 4 t.getUint32 0
def CloseConnection.clientId (t : Table) : Option ClientId := t.field 4 t.getUint32 0
def CloseConnection.reason (t : Table) : Option (Option Slice) := t.bytesField 6
def ConnectClientMessage.connectionString (t : Table) : Option (Option Slice) := t.bytesField 4
def ConnectClientMessage.appDataBytes (t : Table) : Option (Option Slice) := t.bytesField 6

/-- `string(b)` of a slice that may be nil. -/
def goString (b : Option Slice) : Bytes := (b.map Slice.bytes).getD []

/-- `safeParseDestinationMessage`: only `GetRootAsDestinationMessage` runs under `recover`. -/
def safeParseDestinationMessage (payload : Slice) : Except GoError Table :=
  match getRoot payload with
  | some t => .ok t
  | none => .error .deformedMessage

/-- `safeParseConnectClientMessage`: both fields are read once under `recover`. -/
def safeParseConnectClientMessage (payload : Slice) : Except GoError Table :=
  let o : Option Table := do
    let o ← getRoot payload
    let _ ← ConnectClientMessage.connectionString o
    let _ ← ConnectClientMessage.appDataBytes o
    pure o
  match o with
  | some t => .ok t
  | none => .error .deformedMessage

end Spanreed
