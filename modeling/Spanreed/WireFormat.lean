import Spanreed.AppData
import Spanreed.Lib.FlatbuffersFormat

/-! # Messages on the wire

The four FlatBuffers messages between the proxy and its clients and destinations. What the proxy
reads (`ConnectClientMessage`, `DestinationMessage`) it reads as it is meant, from every finished
buffer of the schema, however its writer has laid it out. What it writes (`ConnectClientVerdict`,
`ProxyDestinationMessage`) the generated accessors read back.

The builder of `github.com/google/flatbuffers/go` is a parameter `finish`: what it is asked to build
is given by the fields, and that it builds it is a hypothesis (`Finished`). -/

namespace Spanreed
open Flatbuffers

/-- A byte vector or a string that may be absent. -/
def bytesCell (b : Option Bytes) : Option Cell := (b.map Leaf.bytes).map Cell.leaf

/-! ## What the proxy reads -/

/-- A finished `ConnectClientMessage`. -/
def IsConnectClientMessage (buf : Bytes) (connectionString appData : Option Bytes) : Prop :=
  ∃ fields, Finished buf fields ∧ fields[0]? = some (bytesCell connectionString) ∧
    fields[1]? = some (bytesCell appData)

/-- What a destination says about a client. -/
inductive DestinationContent
  | proxyMessage (clientId : ClientId)
  | connectionVerdict (clientId : ClientId) (accepted : Bool)
  | closeConnection (clientId : ClientId) (reason : Option Bytes)
deriving DecidableEq

namespace DestinationContent

def clientId : DestinationContent → ClientId
  | .proxyMessage id | .connectionVerdict id _ | .closeConnection id _ => id

/-- The value of `InnerMsg`. -/
def tag : DestinationContent → UInt8
  | .proxyMessage _ => 1
  | .connectionVerdict .. => 2
  | .closeConnection .. => 3

/-- The fields of the table of the union. -/
def Fields : DestinationContent → List (Option Leaf) → Prop
  | .proxyMessage id, l => ∃ o, l[0]? = some o ∧ IsUint32 0 id o
  | .connectionVerdict id accepted, l =>
    (∃ o, l[0]? = some o ∧ IsUint32 0 id o) ∧ ∃ o, l[1]? = some o ∧ IsBool false accepted o
  | .closeConnection id reason, l =>
    (∃ o, l[0]? = some o ∧ IsUint32 0 id o) ∧ l[1]? = some (reason.map Leaf.bytes)

/-- What the UDP handler makes of it. -/
def forward (appData : Option Bytes) : DestinationContent → Forward
  | .proxyMessage id => .message id appData
  | .connectionVerdict id accepted => .verdict ⟨id, accepted, none, appData⟩
  | .closeConnection id reason => .close ⟨id, reason.getD [], none, appData⟩

end DestinationContent

/-- A finished `DestinationMessage`. -/
def IsDestinationMessage (buf : Bytes) (content : DestinationContent) (appData : Option Bytes) :
    Prop :=
  ∃ fields inner, Finished buf fields ∧
    fields[0]? = some (some (.leaf (.byte content.tag))) ∧
    fields[1]? = some (some (.table inner)) ∧ content.Fields inner ∧
    fields[2]? = some (bytesCell appData)

theorem cell_leaf {buf : Bytes} : ∀ p l, Cell.At buf p (.leaf l) → l.At buf p := fun _ _ h => h

theorem leaf_leaf {buf : Bytes} : ∀ p l, Leaf.At buf p (id l) → l.At buf p := fun _ _ h => h

/-- Every finished `ConnectClientMessage` is parsed, and the open command has its fields. -/
theorem connectClientMessage_read {connectionString appData : Option Bytes} {packet : Slice}
    (h : IsConnectClientMessage packet.bytes connectionString appData) (c : ClientId)
    (now : Timestamp) : ∃ authMsg, safeParseConnectClientMessage packet = .ok authMsg ∧
      Connection.openCommand c authMsg now =
        some ⟨c, now, 0, connectionString.getD [], appData⟩ := by
  obtain ⟨fields, hfin, h₀, h₁⟩ := h
  obtain ⟨pos, hroot, htable⟩ := hfin.getRoot rfl
  obtain ⟨str, hstr, rfl⟩ := htable.bytes_field rfl (by decide) cell_leaf h₀
  obtain ⟨data, hdata, rfl⟩ := htable.bytes_field rfl (by decide) cell_leaf h₁
  have hstr : ConnectClientMessage.connectionString _ = some str := hstr
  have hdata : ConnectClientMessage.appDataBytes _ = some data := hdata
  refine ⟨TableAt.read packet pos, ?_, ?_⟩
  · simp [safeParseConnectClientMessage, hroot, hstr, hdata]
  · simp [Connection.openCommand, hstr, hdata, goString]

section
variable {content : DestinationContent} {appData : Option Bytes} {rawMsg : Slice}

/-- The root table of a finished `DestinationMessage`, as the datagram listener reads it. -/
theorem destinationMessage_root (h : IsDestinationMessage rawMsg.bytes content appData) :
    ∃ t ut pos inner data, safeParseDestinationMessage rawMsg = .ok t ∧
      DestinationMessageTable.msg t = some (some ut) ∧
      DestinationMessageTable.msgType t = some (InnerMsg.ofByte content.tag) ∧
      DestinationMessageTable.appDataBytes t = some data ∧ data.map Slice.bytes = appData ∧
      ut = TableAt.read rawMsg pos ∧ TableAt (Leaf.At rawMsg.bytes) rawMsg.bytes pos inner ∧
      content.Fields inner := by
  obtain ⟨fields, inner, hfin, h₀, h₁, hinner, h₂⟩ := h
  obtain ⟨pos, hroot, htable⟩ := hfin.getRoot rfl
  obtain ⟨e, pos', hoff, hne, hunion, hut⟩ := htable.union_field rfl (by decide) h₁
  obtain ⟨data, hdata, hbytes⟩ := htable.bytes_field rfl (by decide) cell_leaf h₂
  have hbyte := htable.byte_field rfl (by decide) cell_leaf (o := some (.byte content.tag)) h₀
    (.inl rfl : IsByte 0 _ _)
  refine ⟨_, _, pos', inner, data, ?_, ?_, ?_, hdata, hbytes, rfl, hut, hinner⟩
  · rw [safeParseDestinationMessage, hroot]
  · have hoff : Table.offset _ 6 = some e := hoff
    simp [DestinationMessageTable.msg, hoff, hne, hunion]
  · have hbyte : Table.field _ 4 _ 0 = some content.tag := hbyte
    rw [DestinationMessageTable.msgType, hbyte, Option.map_some]

section
variable {buf : Bytes} {pos : Nat} {inner : List (Option Leaf)}
  (hut : TableAt (Leaf.At buf) buf pos inner) (hs : rawMsg.bytes = buf)
include hut hs

theorem clientId_read {id : ClientId} (h : ∃ o, inner[0]? = some o ∧ IsUint32 0 id o) :
    (TableAt.read rawMsg pos).field 4 (TableAt.read rawMsg pos).getUint32 0 = some id := by
  obtain ⟨o, ho, hid⟩ := h
  exact hut.uint32_field (i := 0) hs (by decide) leaf_leaf (by simpa using ho) hid

theorem accepted_read {accepted : Bool} (h : ∃ o, inner[1]? = some o ∧ IsBool false accepted o) :
    (TableAt.read rawMsg pos).field 6 (TableAt.read rawMsg pos).getBool false = some accepted := by
  obtain ⟨o, ho, hacc⟩ := h
  exact hut.bool_field (i := 1) hs (by decide) leaf_leaf (by simpa using ho) hacc

theorem reason_read {reason : Option Bytes} (h : inner[1]? = some (reason.map Leaf.bytes)) :
    ∃ v, (TableAt.read rawMsg pos).bytesField 6 = some v ∧ v.map Slice.bytes = reason :=
  hut.bytes_field (i := 1) hs (by decide) leaf_leaf (by simpa using h)

end

/-- Every finished `DestinationMessage` is understood: what it says goes to the hub, if it is about
a client that is registered. -/
theorem onDatagram_read (h : IsDestinationMessage rawMsg.bytes content appData)
    (registered : ClientId → Bool) : onDatagram registered rawMsg =
      some (if registered content.clientId then some (content.forward appData) else none) := by
  obtain ⟨t, ut, pos, inner, data, hparse, hmsg, htype, hdata, rfl, rfl, hut, hfields⟩ :=
    destinationMessage_root h
  cases content with
  | proxyMessage id =>
    have htype : DestinationMessageTable.msgType t = some .proxyMessage := htype
    have hid : ProxyMessage.clientId _ = some id := clientId_read hut rfl hfields
    simp only [onDatagram, hparse, hmsg, htype, hdata, onReceiveProxyMessage, hid,
      Option.bind_eq_bind, Option.bind_some, DestinationContent.clientId]
    by_cases hreg : registered id = true <;> simp [hreg, DestinationContent.forward]
  | connectionVerdict id accepted =>
    have htype : DestinationMessageTable.msgType t = some .connectionVerdict := htype
    have hid : ConnectionVerdict.clientId _ = some id := clientId_read hut rfl hfields.1
    have hacc : ConnectionVerdict.accepted _ = some accepted := accepted_read hut rfl hfields.2
    simp only [onDatagram, hparse, hmsg, htype, hdata, onReceiveVerdict, hid, hacc,
      Option.bind_eq_bind, Option.bind_some, DestinationContent.clientId]
    by_cases hreg : registered id = true <;> simp [hreg, DestinationContent.forward]
  | closeConnection id reason =>
    obtain ⟨v, hv, rfl⟩ := reason_read hut rfl hfields.2
    have htype : DestinationMessageTable.msgType t = some .closeConnection := htype
    have hid : CloseConnection.clientId _ = some id := clientId_read hut rfl hfields.1
    have hreason : CloseConnection.reason _ = some v := hv
    simp only [onDatagram, hparse, hmsg, htype, hdata, onReceiveCloseRequest, hid, hreason,
      Option.bind_eq_bind, Option.bind_some, DestinationContent.clientId]
    by_cases hreg : registered id = true <;> simp [hreg, DestinationContent.forward, goString]

end

/-- What its peers write the proxy reads as they mean it, however they lay the buffer out: every
finished `ConnectClientMessage` is parsed and makes the open command with its fields, and every
datagram that is a finished `DestinationMessage` makes what it says, if it is about a client that
is registered, and otherwise nothing. -/
theorem peers_understood :
    (∀ (packet : Slice) connectionString appData,
      IsConnectClientMessage packet.bytes connectionString appData →
      ∀ c now, ∃ authMsg, safeParseConnectClientMessage packet = .ok authMsg ∧
        Connection.openCommand c authMsg now =
          some ⟨c, now, 0, connectionString.getD [], appData⟩) ∧
    ∀ (d : Datagram) content appData, IsDestinationMessage d.bytes content appData →
      ∀ registered, onDatagram registered d.rawMsg =
        some (if registered content.clientId then some (content.forward appData) else none) := by
  refine ⟨fun packet connectionString appData h c now => connectClientMessage_read h c now,
    fun d content appData h registered => ?_⟩
  rw [← d.bytes_rawMsg] at h
  exact onDatagram_read h registered

theorem peers_understood_samples :
    (∃ authMsg, safeParseConnectClientMessage Sample.authPacket = .ok authMsg ∧
      Connection.openCommand 1 authMsg 0 = some Sample.openCommand) ∧
    onDatagram (· == 1) (Sample.datagram 3).rawMsg = some (some (.close ⟨1, [], none, some [42]⟩)) ∧
    onDatagram (fun _ => false) (Sample.datagram 3).rawMsg = some none := by
  have hconnect : IsConnectClientMessage Sample.authPacket.bytes
      (some Sample.openCommand.connectionString) none :=
    ⟨[bytesCell (some Sample.openCommand.connectionString), none], by decide +kernel, rfl, rfl⟩
  have h : IsDestinationMessage (Sample.datagram 3).bytes (.closeConnection 1 none) (some [42]) :=
    ⟨[some (.leaf (.byte 3)), some (.table [some (.uint32 1), none]), bytesCell (some [42])],
      [some (.uint32 1), none], by decide +kernel, rfl, rfl, ⟨⟨_, rfl, .inl rfl⟩, rfl⟩, rfl⟩
  have hd := peers_understood.2 _ _ _ h
  exact ⟨peers_understood.1 _ _ _ hconnect 1 0, hd (· == 1), hd fun _ => false⟩

/-! ## What the proxy writes -/

/-! The builder stores no default. -/

def prependByteSlot (x d : UInt8) : Option Leaf := if x = d then none else some (.byte x)
def prependUint32Slot (x d : UInt32) : Option Leaf := if x = d then none else some (.uint32 x)
def prependBoolSlot (x d : Bool) : Option Leaf :=
  if x = d then none else some (.byte (if x then 1 else 0))

theorem isByte_prepend (x d : UInt8) : IsByte d x (prependByteSlot x d) := by
  unfold prependByteSlot
  split
  · next h => exact .inr ⟨rfl, h⟩
  · exact .inl rfl

theorem isUint32_prepend (x d : UInt32) : IsUint32 d x (prependUint32Slot x d) := by
  unfold prependUint32Slot
  split
  · next h => exact .inr ⟨rfl, h⟩
  · exact .inl rfl

theorem isBool_prepend (x d : Bool) : IsBool d x (prependBoolSlot x d) := by
  unfold prependBoolSlot
  split
  · next h => exact .inr ⟨rfl, h⟩
  · exact .inl rfl

/-- `createVerdictMsg`, as the fields of the `ConnectClientVerdict` it builds. -/
def createVerdictMsg (verdict : Bool) (reason : Bytes) (appData : Option Bytes) :
    List (Option Cell) :=
  [(prependBoolSlot verdict false).map .leaf,
    bytesCell (if reason ≠ [] then some reason else none), bytesCell appData]

def ConnectClientVerdict.accepted (t : Table) : Option Bool := t.field 4 t.getBool false
def ConnectClientVerdict.errorReason (t : Table) : Option (Option Slice) := t.bytesField 6
def ConnectClientVerdict.appDataBytes (t : Table) : Option (Option Slice) := t.bytesField 8

/-- A verdict packet, read with the generated accessors. -/
def readConnectClientVerdict (packet : Slice) : Option Packet := do
  let t ← getRoot packet
  let accepted ← ConnectClientVerdict.accepted t
  let reason ← ConnectClientVerdict.errorReason t
  let appData ← ConnectClientVerdict.appDataBytes t
  pure (.verdict accepted (goString reason) (appData.map Slice.bytes))

theorem verdict_read_back {accepted : Bool} {reason : Bytes} {appData : Option Bytes}
    {packet : Slice} (h : Finished packet.bytes (createVerdictMsg accepted reason appData)) :
    readConnectClientVerdict packet = some (.verdict accepted reason appData) := by
  obtain ⟨pos, hroot, htable⟩ := h.getRoot rfl
  have hacc : ConnectClientVerdict.accepted _ = some accepted :=
    htable.bool_field (i := 0) rfl (by decide) cell_leaf rfl (isBool_prepend accepted false)
  obtain ⟨str, hstr, hreason⟩ := htable.bytes_field (i := 1) rfl (by decide) cell_leaf rfl
  obtain ⟨data, hdata, rfl⟩ := htable.bytes_field (i := 2) rfl (by decide) cell_leaf rfl
  have hstr : ConnectClientVerdict.errorReason _ = some str := hstr
  have hdata : ConnectClientVerdict.appDataBytes _ = some data := hdata
  have hgo : goString str = reason := by
    rw [goString, hreason]
    split
    · rfl
    · next hnil => exact (not_not.mp hnil).symm
  simp [readConnectClientVerdict, hroot, hacc, hstr, hdata, hgo]

def ProxyDestInnerMsg.tag : ProxyDestInnerMsg → UInt8
  | .proxyDestConnectionRequest => 1
  | .proxyDestClientMessage => 2
  | .proxyDestCloseConnection => 3

def ProxyDestInnerMsg.ofByte (b : UInt8) : Option ProxyDestInnerMsg :=
  if b = 1 then some .proxyDestConnectionRequest
  else if b = 2 then some .proxyDestClientMessage
  else if b = 3 then some .proxyDestCloseConnection
  else none

/-- The fields of the datagram that `onConnectClient`, `onClientMessage`, `onProxyRequestClose` and
the closing goroutine build. -/
def ProxyDestinationMessage.fields (m : ProxyDestinationMessage) : List (Option Cell) :=
  [(prependByteSlot m.innerMessage.tag 0).map .leaf,
    some (.table [prependUint32Slot m.clientId 0]), bytesCell m.appData]

namespace ProxyDestinationMessageTable

def innerMessageType (t : Table) : Option (Option ProxyDestInnerMsg) :=
  (t.field 4 t.getByte 0).map ProxyDestInnerMsg.ofByte

def innerMessage (t : Table) : Option (Option Table) := do
  let o := (← t.offset 6).toUInt32
  if o ≠ 0 then (t.union o).map some else pure none

def appDataBytes (t : Table) : Option (Option Slice) := t.bytesField 8

end ProxyDestinationMessageTable

/-- The client of each of the three inner messages. -/
def ProxyDestInnerMessage.clientId (t : Table) : Option ClientId := t.field 4 t.getUint32 0

/-- A datagram for a destination, read with the generated accessors: `some none` if it is not about
a client. -/
def readProxyDestinationMessage (datagram : Slice) : Option (Option ProxyDestinationMessage) := do
  let t ← getRoot datagram
  match ← ProxyDestinationMessageTable.innerMessageType t,
    ← ProxyDestinationMessageTable.innerMessage t with
  | some kind, some inner =>
    let clientId ← ProxyDestInnerMessage.clientId inner
    let appData ← ProxyDestinationMessageTable.appDataBytes t
    pure (some ⟨kind, clientId, appData.map Slice.bytes⟩)
  | _, _ => pure none

theorem proxyDestinationMessage_read_back {m : ProxyDestinationMessage} {datagram : Slice}
    (h : Finished datagram.bytes m.fields) :
    readProxyDestinationMessage datagram = some (some m) := by
  obtain ⟨pos, hroot, htable⟩ := h.getRoot rfl
  have hbyte := htable.byte_field (i := 0) rfl (by decide) cell_leaf rfl
    (isByte_prepend m.innerMessage.tag 0)
  obtain ⟨e, pos', hoff, hne, hunion, hut⟩ := htable.union_field (i := 1) rfl (by decide) rfl
  obtain ⟨data, hdata, hbytes⟩ := htable.bytes_field (i := 2) rfl (by decide) cell_leaf rfl
  have hid : ProxyDestInnerMessage.clientId _ = some m.clientId :=
    hut.uint32_field (i := 0) rfl (by decide) leaf_leaf (by simp) (isUint32_prepend m.clientId 0)
  have hkind : ProxyDestinationMessageTable.innerMessageType (TableAt.read datagram pos) =
      some (some m.innerMessage) := by
    have hbyte : (TableAt.read datagram pos).field 4 _ 0 = some m.innerMessage.tag := hbyte
    rw [ProxyDestinationMessageTable.innerMessageType, hbyte]
    cases m.innerMessage <;> rfl
  have hinner : ProxyDestinationMessageTable.innerMessage (TableAt.read datagram pos) =
      some (some (TableAt.read datagram pos')) := by
    have hoff : (TableAt.read datagram pos).offset 6 = some e := hoff
    simp [ProxyDestinationMessageTable.innerMessage, hoff, hne, hunion]
  have hdata : ProxyDestinationMessageTable.appDataBytes _ = some data := hdata
  simp [readProxyDestinationMessage, hroot, hkind, hinner, hid, hdata, hbytes]

/-- What the proxy writes is read back: a verdict packet with its arguments, a datagram for a
destination with its kind, its client and its app data, also if these are defaults that are not
stored. -/
theorem written_read_back {finish : List (Option Cell) → Bytes} :
    (∀ accepted reason appData,
      Finished (finish (createVerdictMsg accepted reason appData))
        (createVerdictMsg accepted reason appData) →
      ∀ packet : Slice, packet.bytes = finish (createVerdictMsg accepted reason appData) →
        readConnectClientVerdict packet = some (.verdict accepted reason appData)) ∧
    ∀ m : ProxyDestinationMessage, Finished (finish m.fields) m.fields →
      ∀ datagram : Slice, datagram.bytes = finish m.fields →
        readProxyDestinationMessage datagram = some (some m) := by
  refine ⟨fun accepted reason appData h packet hp => ?_, fun m h datagram hd => ?_⟩
  · exact verdict_read_back (hp.symm ▸ h)
  · exact proxyDestinationMessage_read_back (hd.symm ▸ h)

/-- The bytes the builder gives for a refusal with reason `no` and app data `[7]`, and for a
connection request of client 1 with the same app data. -/
def builtVerdict : Bytes :=
  [0x10, 0, 0, 0, 0, 0, 0x0a, 0, 0x0c, 0, 0, 0, 0x08, 0, 0x04, 0, 0x0a, 0, 0, 0, 0x10, 0, 0, 0,
    0x04, 0, 0, 0, 0x02, 0, 0, 0, 0x6e, 0x6f, 0, 0, 0x01, 0, 0, 0, 0x07, 0, 0, 0]

def builtRequest : Bytes :=
  [0x10, 0, 0, 0, 0, 0, 0x0a, 0, 0x10, 0, 0x0f, 0, 0x08, 0, 0x04, 0, 0x0a, 0, 0, 0, 0x0c, 0, 0, 0,
    0x14, 0, 0, 0, 0, 0, 0, 0x01, 0x01, 0, 0, 0, 0x07, 0, 0x06, 0, 0x08, 0, 0x04, 0, 0x06, 0, 0, 0,
    0x01, 0, 0, 0]

theorem written_read_back_built :
    readConnectClientVerdict (.ofBytes builtVerdict) =
      some (.verdict false (ascii "no") (some [7])) ∧
    readProxyDestinationMessage (.ofBytes builtRequest) =
      some (some ⟨.proxyDestConnectionRequest, 1, some [7]⟩) := by
  let finish : List (Option Cell) → Bytes := fun fields =>
    if fields = createVerdictMsg false (ascii "no") (some [7]) then builtVerdict else builtRequest
  have h := @written_read_back finish
  exact ⟨h.1 false (ascii "no") (some [7]) (by decide +kernel) _ (by decide +kernel),
    h.2 ⟨.proxyDestConnectionRequest, 1, some [7]⟩ (by decide +kernel) _ (by decide +kernel)⟩

end Spanreed
