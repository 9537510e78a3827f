import Spanreed.System
import Spanreed.UdpFacts

/-! # Datagrams that break the listener, and datagrams from strangers

Only the root of a datagram is read under `recover`. `Datagram.InRange` says, on the bytes alone,
which of the reads after it stay in range; exactly then the listener survives the datagram
(`datagram_survives_iff`). The source address of a datagram is not looked at: what it takes for a
client's own destination to be the only one to speak for it is in `only_own_destination_speaks`. -/

namespace Spanreed
open Flatbuffers Automata

namespace Datagram
variable (rawMsg : Slice)

/-- The root table. -/
def root : Table := ⟨rawMsg, u32At rawMsg 0⟩

/-- The datagram has a root and a `msg` field. -/
def HasMsg : Prop := InRange rawMsg 0 4 ∧ (root rawMsg).fieldOffset 6 ≠ 0

/-- The table in the `msg` field. -/
def inner : Table :=
  let off := (root rawMsg).fieldOffset 6 + (root rawMsg).pos
  ⟨rawMsg, off + u32At rawMsg off⟩

/-- The kind of message that the `msg_type` field announces. -/
def kind : InnerMsg := .ofByte ((root rawMsg).fieldValue 4 (byteAt rawMsg) 0)

/-- The client id in the inner table. -/
def namedClient : ClientId := (inner rawMsg).fieldValue 4 (u32At rawMsg) 0

instance : Decidable (HasMsg rawMsg) := inferInstanceAs (Decidable (_ ∧ _))

/-- What is read for a message of this kind lies in range. The reason of a close request is only
read for a registered client. -/
def KindInRange (registered : ClientId → Bool) : InnerMsg → Prop
  | .connectionVerdict => (root rawMsg).FieldInRange 8 (root rawMsg).VectorInRange ∧
    (inner rawMsg).FieldInRange 4 (InRange rawMsg · 4) ∧
    (inner rawMsg).FieldInRange 6 (InRange rawMsg · 1)
  | .proxyMessage => (root rawMsg).FieldInRange 8 (root rawMsg).VectorInRange ∧
    (inner rawMsg).FieldInRange 4 (InRange rawMsg · 4)
  | .closeConnection => (root rawMsg).FieldInRange 8 (root rawMsg).VectorInRange ∧
    (inner rawMsg).FieldInRange 4 (InRange rawMsg · 4) ∧
    (registered (namedClient rawMsg) = true →
      (inner rawMsg).FieldInRange 6 (inner rawMsg).VectorInRange)
  | .none | .unknown _ => True

/-- Every read after the root lies in range: of the reference to the inner table and, if there is
an inner table, of the kind of message and of what a message of this kind has. -/
def ReadsInRange (registered : ClientId → Bool) : Prop :=
  InRange rawMsg 0 4 →
    (root rawMsg).FieldInRange 6 (InRange rawMsg · 4) ∧
    (HasMsg rawMsg → (root rawMsg).FieldInRange 4 (InRange rawMsg · 1) ∧
      KindInRange rawMsg registered (kind rawMsg))

end Datagram
open Datagram

section
variable {registered : ClientId → Bool} {rawMsg : Slice}

theorem msg_eq : DestinationMessageTable.msg (root rawMsg) =
    if (root rawMsg).FieldInRange 6 (InRange rawMsg · 4) then
      some (if (root rawMsg).fieldOffset 6 ≠ 0 then some (inner rawMsg) else none)
    else none := by
  have hfield : DestinationMessageTable.msg (root rawMsg) =
      (root rawMsg).field 6 (fun off => ((root rawMsg).getUint32 off).map fun n =>
        some (⟨rawMsg, off + n⟩ : Table)) none := by
    unfold DestinationMessageTable.msg Table.field Table.union
    cases (root rawMsg).offset 6 with
    | none => rfl
    | some o =>
      simp only [Option.bind_eq_bind, Option.bind_some]
      split
      · cases (root rawMsg).getUint32 (o.toUInt32 + (root rawMsg).pos) <;> rfl
      · rfl
  rw [hfield, Table.field_eq (p := (InRange rawMsg · 4))
    (v := fun off => some ⟨rawMsg, off + u32At rawMsg off⟩)]
  · rfl
  · intro off
    rw [Table.getUint32_eq]
    by_cases h : InRange rawMsg off 4 <;> simp [root, h]

theorem msgType_eq : DestinationMessageTable.msgType (root rawMsg) =
    if (root rawMsg).FieldInRange 4 (InRange rawMsg · 1) then some (kind rawMsg) else none := by
  rw [DestinationMessageTable.msgType,
    Table.field_eq (p := (InRange rawMsg · 1)) fun off => @Table.getByte_eq (root rawMsg) off]
  split <;> rfl

theorem clientId_eq : (inner rawMsg).field 4 (inner rawMsg).getUint32 0 =
    if (inner rawMsg).FieldInRange 4 (InRange rawMsg · 4) then some (namedClient rawMsg)
    else none :=
  Table.field_eq fun off => @Table.getUint32_eq (inner rawMsg) off

theorem accepted_isSome : (ConnectionVerdict.accepted (inner rawMsg)).isSome ↔
    (inner rawMsg).FieldInRange 6 (InRange rawMsg · 1) := by
  rw [ConnectionVerdict.accepted, Table.field_isSome]
  simp only [Table.getBool, Option.bind_eq_bind, Table.getByte_eq]
  have hsome : ∀ off, ((if InRange (inner rawMsg).bytes off 1 then
      some (byteAt (inner rawMsg).bytes off) else none).bind fun b => some (b == 1)).isSome ↔
      InRange rawMsg off 1 := by
    intro off
    rw [show (inner rawMsg).bytes = rawMsg from rfl]
    by_cases h : InRange rawMsg off 1 <;> simp [h]
  simp only [Option.pure_def, hsome]

/-- What the three handlers do once the app data and the client id are read. -/
theorem onReceiveVerdict_isSome {appData : Option Slice} :
    (onReceiveVerdict registered (inner rawMsg) appData).isSome ↔
      (inner rawMsg).FieldInRange 4 (InRange rawMsg · 4) ∧
      (inner rawMsg).FieldInRange 6 (InRange rawMsg · 1) := by
  simp only [onReceiveVerdict, ConnectionVerdict.clientId, clientId_eq, Option.bind_eq_bind]
  rw [← accepted_isSome]
  by_cases h : (inner rawMsg).FieldInRange 4 (InRange rawMsg · 4)
  · simp only [h, if_true, Option.bind_some, true_and]
    cases ConnectionVerdict.accepted (inner rawMsg) with
    | none => simp
    | some b => simp only [Option.bind_some]; split <;> simp
  · simp [h]

theorem onReceiveProxyMessage_isSome {appData : Option Slice} :
    (onReceiveProxyMessage registered (inner rawMsg) appData).isSome ↔
      (inner rawMsg).FieldInRange 4 (InRange rawMsg · 4) := by
  simp only [onReceiveProxyMessage, ProxyMessage.clientId, clientId_eq, Option.bind_eq_bind]
  by_cases h : (inner rawMsg).FieldInRange 4 (InRange rawMsg · 4)
  · simp only [h, if_true, Option.bind_some, iff_true]
    split <;> simp
  · simp [h]

theorem onReceiveCloseRequest_isSome {appData : Option Slice} :
    (onReceiveCloseRequest registered (inner rawMsg) appData).isSome ↔
      (inner rawMsg).FieldInRange 4 (InRange rawMsg · 4) ∧
      (registered (namedClient rawMsg) = true →
        (inner rawMsg).FieldInRange 6 (inner rawMsg).VectorInRange) := by
  simp only [onReceiveCloseRequest, CloseConnection.clientId, clientId_eq, Option.bind_eq_bind]
  rw [← Table.bytesField_isSome]
  by_cases h : (inner rawMsg).FieldInRange 4 (InRange rawMsg · 4)
  · simp only [h, if_true, Option.bind_some, true_and]
    split
    · next hreg =>
      simp only [hreg, forall_const, CloseConnection.reason]
      cases (inner rawMsg).bytesField 6 <;> simp
    · next hreg => simp [hreg]
  · simp [h]

/-- A datagram with an inner table goes to the handler of its kind. -/
theorem onDatagram_eq (hhas : HasMsg rawMsg)
    (hmsg : (root rawMsg).FieldInRange 6 (InRange rawMsg · 4))
    (htype : (root rawMsg).FieldInRange 4 (InRange rawMsg · 1)) :
    onDatagram registered rawMsg = match kind rawMsg with
      | .connectionVerdict => (DestinationMessageTable.appDataBytes (root rawMsg)).bind
          (onReceiveVerdict registered (inner rawMsg))
      | .proxyMessage => (DestinationMessageTable.appDataBytes (root rawMsg)).bind
          (onReceiveProxyMessage registered (inner rawMsg))
      | .closeConnection => (DestinationMessageTable.appDataBytes (root rawMsg)).bind
          (onReceiveCloseRequest registered (inner rawMsg))
      | .none | .unknown _ => some none := by
  unfold onDatagram safeParseDestinationMessage
  rw [getRoot_eq, if_pos hhas.1]
  simp only [Option.bind_eq_bind]
  rw [show (⟨rawMsg, u32At rawMsg 0⟩ : Table) = root rawMsg from rfl, msg_eq, msgType_eq,
    if_pos hmsg, if_pos htype, if_pos hhas.2]
  simp only [Option.bind_some]
  cases kind rawMsg <;> rfl

/-- Without one it is skipped, if it can be looked for. -/
theorem onDatagram_of_not_hasMsg (hhas : ¬HasMsg rawMsg) : onDatagram registered rawMsg =
    if InRange rawMsg 0 4 → (root rawMsg).FieldInRange 6 (InRange rawMsg · 4) then some none
    else none := by
  unfold onDatagram safeParseDestinationMessage
  rw [getRoot_eq]
  by_cases hroot : InRange rawMsg 0 4
  swap
  · simp [hroot]
  have hzero : (root rawMsg).fieldOffset 6 = 0 := by
    by_contra hne
    exact hhas ⟨hroot, hne⟩
  simp only [hroot, if_true, forall_const, Option.bind_eq_bind]
  rw [show (⟨rawMsg, u32At rawMsg 0⟩ : Table) = root rawMsg from rfl, msg_eq]
  by_cases hmsg : (root rawMsg).FieldInRange 6 (InRange rawMsg · 4) <;> simp [hmsg, hzero]

/-- Nor can it be handled if the inner table or its kind cannot be read. -/
theorem onDatagram_eq_none (hhas : HasMsg rawMsg)
    (h : ¬((root rawMsg).FieldInRange 6 (InRange rawMsg · 4) ∧
      (root rawMsg).FieldInRange 4 (InRange rawMsg · 1))) :
    onDatagram registered rawMsg = none := by
  unfold onDatagram safeParseDestinationMessage
  rw [getRoot_eq, if_pos hhas.1]
  simp only [Option.bind_eq_bind]
  rw [show (⟨rawMsg, u32At rawMsg 0⟩ : Table) = root rawMsg from rfl, msg_eq, msgType_eq]
  by_cases hmsg : (root rawMsg).FieldInRange 6 (InRange rawMsg · 4)
  · have htype : ¬(root rawMsg).FieldInRange 4 (InRange rawMsg · 1) := fun ht => h ⟨hmsg, ht⟩
    rw [if_pos hmsg, if_neg htype, if_pos hhas.2]
    rfl
  · rw [if_neg hmsg]
    rfl

theorem appDataBytes_bind {f : Option Slice → Option (Option Forward)} {p : Prop}
    (hf : ∀ appData, (f appData).isSome ↔ p) :
    ((DestinationMessageTable.appDataBytes (root rawMsg)).bind f).isSome ↔
      (root rawMsg).FieldInRange 8 (root rawMsg).VectorInRange ∧ p := by
  rw [← Table.bytesField_isSome, DestinationMessageTable.appDataBytes]
  cases (root rawMsg).bytesField 8 with
  | none => simp
  | some appData => simp [hf]

theorem onDatagram_isSome :
    (onDatagram registered rawMsg).isSome ↔ ReadsInRange rawMsg registered := by
  unfold ReadsInRange
  by_cases hhas : HasMsg rawMsg
  swap
  · rw [onDatagram_of_not_hasMsg hhas]
    split <;> simp_all
  by_cases h : (root rawMsg).FieldInRange 6 (InRange rawMsg · 4) ∧
      (root rawMsg).FieldInRange 4 (InRange rawMsg · 1)
  swap
  · rw [onDatagram_eq_none hhas h]
    simp only [hhas, hhas.1, forall_const, Option.isSome_none, Bool.false_eq_true, false_iff]
    exact fun h' => h ⟨h'.1, h'.2.1⟩
  rw [onDatagram_eq hhas h.1 h.2]
  simp only [hhas, hhas.1, h.1, h.2, forall_const, true_and]
  cases kind rawMsg with
  | none => simp [KindInRange]
  | unknown tag => simp [KindInRange]
  | connectionVerdict => exact appDataBytes_bind fun _ => onReceiveVerdict_isSome
  | proxyMessage => exact appDataBytes_bind fun _ => onReceiveProxyMessage_isSome
  | closeConnection => exact appDataBytes_bind fun _ => onReceiveCloseRequest_isSome

end

/-- The listener survives a datagram exactly if what it reads of it after the root lies in range:
in every state of the handler, for every content and every length. -/
theorem datagram_survives_iff (u : Udp) (d : Datagram) :
    (onDatagram u.registered d.rawMsg).isSome ↔ ReadsInRange d.rawMsg u.registered :=
  onDatagram_isSome

/-- Four bytes are enough: a root that lies outside the datagram. -/
theorem datagram_breaks_listener :
    ¬∀ (params : UdpSpanreedDestinationParams) (tr : List UdpEvent) (u : Udp),
      Udp.automaton.Run (.start params) tr u →
        ∀ d : Datagram, (onDatagram u.registered d.rawMsg).isSome := by
  intro hall
  have h := hall Sample.config.udp [] _ .nil ⟨[0xff, 0xff, 0xff, 0x7f], by decide⟩
  exact absurd h (by decide +kernel)

/-! ## Who speaks for a client -/

/-- The datagram carries something about a client. -/
def Datagram.AboutClient (rawMsg : Slice) : Prop :=
  HasMsg rawMsg ∧
    (kind rawMsg = .connectionVerdict ∨ kind rawMsg = .proxyMessage ∨
      kind rawMsg = .closeConnection)

def Forward.appData : Forward → Option Bytes
  | .verdict v => v.appData
  | .message _ appData => appData
  | .close m => m.appData

/-- What is forwarded is about the client the datagram names, which is registered, and carries this
app data. -/
structure Forward.Tells (registered : ClientId → Bool) (rawMsg : Slice) (appData : Option Slice)
    (f : Forward) : Prop where
  clientId : f.clientId = namedClient rawMsg
  registered : registered (namedClient rawMsg) = true
  appData : f.appData = appData.map Slice.bytes

section
variable {registered : ClientId → Bool} {rawMsg : Slice} {f : Forward} {appData : Option Slice}

theorem onReceiveVerdict_forward
    (h : onReceiveVerdict registered (inner rawMsg) appData = some (some f)) :
    f.Tells registered rawMsg appData := by
  simp only [onReceiveVerdict, ConnectionVerdict.clientId, clientId_eq, Option.bind_eq_bind,
    Option.bind_eq_some_iff] at h
  obtain ⟨id, hid, accepted, -, h⟩ := h
  split at hid
  · obtain rfl := Option.some.inj hid
    split at h
    · next hreg => cases h; exact ⟨rfl, hreg, rfl⟩
    · cases h
  · cases hid

theorem onReceiveProxyMessage_forward
    (h : onReceiveProxyMessage registered (inner rawMsg) appData = some (some f)) :
    f.Tells registered rawMsg appData := by
  simp only [onReceiveProxyMessage, ProxyMessage.clientId, clientId_eq, Option.bind_eq_bind,
    Option.bind_eq_some_iff] at h
  obtain ⟨id, hid, h⟩ := h
  split at hid
  · obtain rfl := Option.some.inj hid
    split at h
    · next hreg => cases h; exact ⟨rfl, hreg, rfl⟩
    · cases h
  · cases hid

theorem onReceiveCloseRequest_forward
    (h : onReceiveCloseRequest registered (inner rawMsg) appData = some (some f)) :
    f.Tells registered rawMsg appData := by
  simp only [onReceiveCloseRequest, CloseConnection.clientId, clientId_eq, Option.bind_eq_bind,
    Option.bind_eq_some_iff] at h
  obtain ⟨id, hid, h⟩ := h
  split at hid
  · obtain rfl := Option.some.inj hid
    split at h
    · next hreg =>
      obtain ⟨reason, -, h⟩ := Option.bind_eq_some_iff.mp h
      cases h
      exact ⟨rfl, hreg, rfl⟩
    · cases h
  · cases hid

/-- Whatever the kind of the datagram, what is forwarded says what the datagram does. -/
theorem tells_of_forward (h : onDatagram registered rawMsg = some (some f)) :
    AboutClient rawMsg ∧
      ∃ appData, DestinationMessageTable.appDataBytes (root rawMsg) = some appData ∧
        f.Tells registered rawMsg appData := by
  have hsome : (onDatagram registered rawMsg).isSome := by rw [h]; rfl
  have hin := onDatagram_isSome.mp hsome
  by_cases hhas : HasMsg rawMsg
  · obtain ⟨hmsg, hrest⟩ := hin hhas.1
    obtain ⟨htype, -⟩ := hrest hhas
    rw [onDatagram_eq hhas hmsg htype] at h
    split at h
    · next hkind =>
      obtain ⟨appData, happ, h⟩ := Option.bind_eq_some_iff.mp h
      exact ⟨⟨hhas, .inl hkind⟩, appData, happ, onReceiveVerdict_forward h⟩
    · next hkind =>
      obtain ⟨appData, happ, h⟩ := Option.bind_eq_some_iff.mp h
      exact ⟨⟨hhas, .inr (.inl hkind)⟩, appData, happ, onReceiveProxyMessage_forward h⟩
    · next hkind =>
      obtain ⟨appData, happ, h⟩ := Option.bind_eq_some_iff.mp h
      exact ⟨⟨hhas, .inr (.inr hkind)⟩, appData, happ, onReceiveCloseRequest_forward h⟩
    all_goals cases h
  · rw [onDatagram_of_not_hasMsg hhas] at h
    split at h <;> cases h

/-- A datagram about a registered client is forwarded if it can be read. -/
theorem forward_of_registered (hin : ReadsInRange rawMsg registered) (habout : AboutClient rawMsg)
    (hreg : registered (namedClient rawMsg) = true) :
    ∃ f, onDatagram registered rawMsg = some (some f) := by
  obtain ⟨hhas, hkind⟩ := habout
  obtain ⟨hmsg, hrest⟩ := hin hhas.1
  obtain ⟨htype, hkindIn⟩ := hrest hhas
  rw [onDatagram_eq hhas hmsg htype]
  have happ : (root rawMsg).FieldInRange 8 (root rawMsg).VectorInRange := by
    rcases hkind with hkind | hkind | hkind <;> rw [hkind] at hkindIn <;> exact hkindIn.1
  obtain ⟨appData, happ⟩ := Option.isSome_iff_exists.mp (Table.bytesField_isSome.mpr happ)
  simp only [DestinationMessageTable.appDataBytes, happ, Option.bind_some]
  rcases hkind with hkind | hkind | hkind <;> rw [hkind] at hkindIn ⊢
  · obtain ⟨-, hid, hacc⟩ := hkindIn
    obtain ⟨accepted, hacc⟩ := Option.isSome_iff_exists.mp (accepted_isSome.mpr hacc)
    simp [onReceiveVerdict, ConnectionVerdict.clientId, clientId_eq, hid, hacc, hreg]
  · obtain ⟨-, hid⟩ := hkindIn
    simp [onReceiveProxyMessage, ProxyMessage.clientId, clientId_eq, hid, hreg]
  · obtain ⟨-, hid, hreason⟩ := hkindIn
    obtain ⟨reason, hreason⟩ :=
      Option.isSome_iff_exists.mp (Table.bytesField_isSome.mpr (hreason hreg))
    simp [onReceiveCloseRequest, CloseConnection.clientId, CloseConnection.reason, clientId_eq,
      hid, hreason, hreg]

end

/-- Source address and client of what an event sends to the hub. -/
def UdpEvent.tellsHub : UdpEvent → Option (UDPAddr × ClientId)
  | .sendVerdict src v => some (src, v.clientId)
  | .sendMessage src m => some (src, m.clientId)
  | .sendClose src m => some (src, m.clientId)
  | _ => none

/-- Source address and client of what the datagram listener is about to send to the hub. -/
def DatagramPc.speaks : DatagramPc → Option (UDPAddr × ClientId)
  | .messageNow src clientId _ => some (src, clientId)
  | .sendVerdict src v => some (src, v.clientId)
  | .sendMessage src m => some (src, m.clientId)
  | .sendClose src m => some (src, m.clientId)
  | _ => none

theorem Forward.speaks_pc {src : UDPAddr} {f : Forward} :
    (f.pc src).speaks = some (src, f.clientId) := by
  cases f <;> rfl

namespace Udp
variable {params : UdpSpanreedDestinationParams} {tr : List UdpEvent} {u : Udp}

/-- If the datagram can be read and is about a registered client, it comes from the address of this
client. -/
def FromOwnDestination (u : Udp) (src : UDPAddr) (d : Datagram) : Prop :=
  ReadsInRange d.rawMsg u.registered → AboutClient d.rawMsg →
    u.registered (namedClient d.rawMsg) = true → u.address (namedClient d.rawMsg) = some src

/-- Every datagram of the history that was forwarded came from its client's own destination. -/
def OnlyOwnDestinations (params : UdpSpanreedDestinationParams) (tr : List UdpEvent) : Prop :=
  ∀ tr₁ u₁ src d f, automaton.Run (start params) tr₁ u₁ →
    tr₁ ++ [.datagramForward src d f] <+: tr → u₁.FromOwnDestination src d

theorem OnlyOwnDestinations.mono {tr' : List UdpEvent} (h : OnlyOwnDestinations params tr)
    (hp : tr' <+: tr) : OnlyOwnDestinations params tr' :=
  fun tr₁ u₁ src d f hr hp' => h tr₁ u₁ src d f hr (hp'.trans hp)

/-- A datagram is only forwarded for its client if it comes from there. -/
theorem forwards_own_iff {src : UDPAddr} {d : Datagram} :
    (∀ f, onDatagram u.registered d.rawMsg = some (some f) → u.address f.clientId = some src) ↔
      u.FromOwnDestination src d := by
  constructor
  · intro h hin habout hreg
    obtain ⟨f, hf⟩ := forward_of_registered hin habout hreg
    obtain ⟨-, appData, -, htells⟩ := tells_of_forward hf
    exact htells.clientId ▸ h f hf
  · intro h f hf
    obtain ⟨habout, appData, -, htells⟩ := tells_of_forward hf
    rw [htells.clientId]
    exact h (onDatagram_isSome.mp (by rw [hf]; rfl)) habout htells.registered

/-- The read and the write lock of the registry exclude each other. -/
theorem not_reading_of_closing (h : automaton.Run (start params) tr u) :
    u.closer = .closing → u.datagrams.readsConnections = false := by
  refine h.invariant (I := fun u => u.closer = .closing → u.datagrams.readsConnections = false)
    (by simp [start]) ?_
  intro u e ih he hclosing
  cases e
  case closerLock => exact he.2.2
  case closerClose => cases hclosing
  case datagramForward => exact (he.2.1 hclosing).elim
  case messageNow =>
    have hnot := ih hclosing
    rw [he.1] at hnot
    cases hnot
  case readFromUDP | datagramSkip | sendVerdict | sendMessage | sendClose | exitDatagrams => rfl
  all_goals exact ih hclosing

/-- While the datagram listener reads the registry, nobody changes it. -/
theorem connections_of_reading (h : automaton.Run (start params) tr u)
    (hread : u.datagrams.readsConnections = true) {e : UdpEvent} (he : u.enabled e) :
    (u.next e).destinationConnections = u.destinationConnections := by
  cases e
  case register | closeDelete =>
    have hlock := he.2.2
    rw [hread] at hlock
    cases hlock
  case closerWrite =>
    have hnot := not_reading_of_closing h he.1
    rw [hread] at hnot
    cases hnot
  all_goals rfl

theorem reads_of_speaks {pc : DatagramPc} (h : pc.speaks.isSome) : pc.readsConnections = true := by
  cases pc <;> first | rfl | cases h

/-- What the listener is about to send comes from the client's own destination. -/
theorem speaks_own (h : automaton.Run (start params) tr u) (hown : OnlyOwnDestinations params tr)
    {src : UDPAddr} {c : ClientId} (hs : u.datagrams.speaks = some (src, c)) :
    u.address c = some src := by
  induction h with
  | nil => cases hs
  | @snoc tr u e hr he ih =>
    have ih := ih (hown.mono (List.prefix_append _ _))
    -- the listener kept the lock if it already had this to say
    have stay : u.datagrams.speaks = some (src, c) → (u.next e).address c = some src := by
      intro hs
      unfold address
      rw [connections_of_reading hr (reads_of_speaks (by simp [hs])) he]
      exact ih hs
    cases e
    case datagramForward src' d f =>
      have hsrc := forwards_own_iff.mpr (hown _ _ _ _ _ hr (List.prefix_refl _)) f he.2.2
      have hs : (f.pc src').speaks = some (src, c) := hs
      rw [Forward.speaks_pc] at hs
      cases hs
      exact hsrc
    case messageNow src' m => exact stay (by rw [he.1]; exact hs)
    case readFromUDP | datagramSkip | sendVerdict | sendMessage | sendClose | exitDatagrams =>
      cases hs
    all_goals exact stay hs

/-- In every reachable state a datagram is only forwarded on behalf of the client whose destination
sent it exactly if it is unreadable, not about a registered client, or really comes from there; and
along every history in which each forwarded datagram is such, whatever is sent to the hub for a
client is sent while it is registered with the address that it came from. -/
theorem only_own_destination_speaks (h : automaton.Run (start params) tr u) :
    (∀ src d,
      (∀ f, onDatagram u.registered d.rawMsg = some (some f) → u.address f.clientId = some src) ↔
        u.FromOwnDestination src d) ∧
    (OnlyOwnDestinations params tr →
      ∀ e src c, u.enabled e → e.tellsHub = some (src, c) → u.address c = some src) := by
  refine ⟨fun src d => forwards_own_iff, ?_⟩
  intro hown e src c he ht
  refine speaks_own h hown ?_
  cases e <;> simp only [UdpEvent.tellsHub, reduceCtorEq] at ht <;>
    simp only [enabled] at he <;> rw [he] <;> exact ht

/-- The handler registers client 1 and reads its destination's verdict, sent from `src`. -/
def verdictFrom (src : UDPAddr) : List UdpEvent := [
  .recvOpen Sample.openCommand, .connect Sample.openCommand Sample.addr,
  .register Sample.openCommand Sample.addr, .readFromUDP src Sample.verdictDatagram]

theorem only_own_destination_speaks_sample :
    (automaton.exec (start Sample.config.udp) (verdictFrom Sample.addr ++
      [.datagramForward Sample.addr Sample.verdictDatagram (.verdict Sample.verdict)])).address 1 =
        some Sample.addr := by
  refine (only_own_destination_speaks (Automaton.Admits.run (by decide +kernel))).2 ?_
    (.sendVerdict Sample.addr Sample.verdict) Sample.addr 1 (by decide +kernel) rfl
  intro tr₁ u₁ src d f hr hp
  rcases List.prefix_concat_iff.mp hp with heq | hp
  · obtain ⟨rfl, he⟩ := List.append_inj' heq rfl
    cases he
    rw [hr.eq_exec]
    exact fun _ _ _ => by decide +kernel
  · have hmem := hp.subset (List.mem_append_right _ (List.mem_singleton.mpr rfl))
    simp [verdictFrom] at hmem

/-- A stranger accepts client 1 on behalf of its destination. -/
theorem stranger_speaks :
    ¬∀ (params : UdpSpanreedDestinationParams) (tr : List UdpEvent) (u : Udp),
      automaton.Run (start params) tr u →
        ∀ e src c, u.enabled e → e.tellsHub = some (src, c) → u.address c = some src := by
  intro hall
  let stranger : UDPAddr := ⟨[10, 0, 0, 1], 7, []⟩
  have h := hall Sample.config.udp (verdictFrom stranger ++
      [.datagramForward stranger Sample.verdictDatagram (.verdict Sample.verdict)]) _
    (Automaton.Admits.run (by decide +kernel)) (.sendVerdict stranger Sample.verdict) stranger 1
    (by decide +kernel) rfl
  exact absurd h (by decide +kernel)

end Udp

end Spanreed
