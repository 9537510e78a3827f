import Spanreed.Datagrams

/-! # App data inside its datagram

The datagram listener hands a datagram on as `buf[0:bytesRead]`, which keeps the capacity of the
buffer, and Go bounds the end of `Bytes[start : start+length]` by the capacity. The app data of a
datagram therefore lies inside what was received exactly if the length written in the datagram says
so (`app_data_inside`); else it runs on into the zeroes of the buffer. -/

namespace Spanreed
open Flatbuffers Automata Datagram

@[simp] theorem Datagram.bytes_rawMsg (d : Datagram) : d.rawMsg.bytes = d.bytes := by
  simp [rawMsg, Slice.bytes]

namespace Udp
variable {params : UdpSpanreedDestinationParams} {tr : List UdpEvent} {u : Udp} {d : Datagram}

/-- What the datagram is forwarded as has no app data, or a part of the received bytes. -/
def AppDataInside (u : Udp) (d : Datagram) : Prop :=
  ∀ f, onDatagram u.registered d.rawMsg = some (some f) →
    f.appData = none ∨
      ∃ s, DestinationMessageTable.appDataBytes (root d.rawMsg) = some (some s) ∧
        f.appData = some s.bytes ∧ s.Within d.rawMsg

/-- Where the datagram says that its app data ends. -/
def appDataEnd (d : Datagram) : Nat :=
  (root d.rawMsg).vectorEnd ((root d.rawMsg).fieldOffset 8 + (root d.rawMsg).pos)

/-- If the datagram can be read, is about a registered client and has app data, it says that they
end before it does. -/
def AppDataEndsInside (u : Udp) (d : Datagram) : Prop :=
  ReadsInRange d.rawMsg u.registered → AboutClient d.rawMsg →
    u.registered (namedClient d.rawMsg) = true → (root d.rawMsg).fieldOffset 8 ≠ 0 →
      appDataEnd d ≤ d.bytes.length

theorem appData_within {s : Slice}
    (h : DestinationMessageTable.appDataBytes (root d.rawMsg) = some (some s)) :
    (root d.rawMsg).fieldOffset 8 ≠ 0 ∧ (s.Within d.rawMsg ↔ appDataEnd d ≤ d.bytes.length) := by
  rcases Table.bytesField_eq_some h with ⟨hnone, -⟩ | ⟨s', hs', hne, hvec⟩
  · cases hnone
  · cases hs'
    exact ⟨hne, Table.byteVector_within hvec⟩

theorem appData_inside_iff : u.AppDataInside d ↔ u.AppDataEndsInside d := by
  constructor
  · intro h hin habout hreg hne
    obtain ⟨f, hf⟩ := forward_of_registered hin habout hreg
    obtain ⟨-, appData, happ, htells⟩ := tells_of_forward hf
    rcases Table.bytesField_eq_some happ with ⟨-, hzero⟩ | ⟨s, rfl, -, -⟩
    · exact (hne hzero).elim
    · rcases h f hf with hnone | ⟨s', happ', -, hwithin⟩
      · rw [htells.appData] at hnone
        cases hnone
      · exact (appData_within happ').2.mp hwithin
  · intro h f hf
    obtain ⟨habout, appData, happ, htells⟩ := tells_of_forward hf
    have hin := onDatagram_isSome.mp (Option.isSome_of_eq_some hf)
    cases appData with
    | none => exact .inl htells.appData
    | some s =>
      obtain ⟨hne, hwithin⟩ := appData_within happ
      exact .inr ⟨s, happ, htells.appData, hwithin.mpr (h hin habout htells.registered hne)⟩

theorem AppDataInside.isInfix (h : u.AppDataInside d) {f : Forward} {b : Bytes}
    (hf : onDatagram u.registered d.rawMsg = some (some f)) (hb : f.appData = some b) :
    b <:+: d.bytes := by
  rcases h f hf with hnone | ⟨s, -, happ, hwithin⟩
  · rw [hnone] at hb
    cases hb
  · obtain rfl := Option.some.inj (happ.symm.trans hb)
    rw [← d.bytes_rawMsg]
    exact hwithin.bytes_isInfix

/-! ## What the hub gets -/

end Udp

/-- Source address and app data of what an event sends to the hub. -/
def UdpEvent.delivers : UdpEvent → Option (UDPAddr × Option Bytes)
  | .sendVerdict src v => some (src, v.appData)
  | .sendMessage src m => some (src, m.data)
  | .sendClose src m => some (src, m.appData)
  | _ => none

/-- Source address and app data of what the datagram listener is about to send to the hub. -/
def DatagramPc.carries : DatagramPc → Option (UDPAddr × Option Bytes)
  | .messageNow src _ appData => some (src, appData)
  | .sendVerdict src v => some (src, v.appData)
  | .sendMessage src m => some (src, m.data)
  | .sendClose src m => some (src, m.appData)
  | _ => none

theorem Forward.carries_pc {src : UDPAddr} {f : Forward} :
    (f.pc src).carries = some (src, f.appData) := by
  cases f <;> rfl

namespace Udp
variable {params : UdpSpanreedDestinationParams} {tr : List UdpEvent} {u : Udp}

theorem carries_forwarded (h : automaton.Run (start params) tr u) {src : UDPAddr}
    {data : Option Bytes} (hc : u.datagrams.carries = some (src, data)) :
    ∃ e ∈ tr, ∃ d f, e = .datagramForward src d f ∧ data = f.appData := by
  induction h with
  | nil => cases hc
  | @snoc tr u e hr he ih =>
    cases e
    case datagramForward src' d f =>
      have hc : (f.pc src').carries = some (src, data) := hc
      rw [Forward.carries_pc] at hc
      cases hc
      exact ⟨_, List.mem_append_right _ (List.mem_singleton.mpr rfl), d, f, rfl, rfl⟩
    case messageNow src' m =>
      exact happened_append (ih (by rw [he.1]; exact hc))
    case readFromUDP | datagramSkip | sendVerdict | sendMessage | sendClose | exitDatagrams =>
      cases hc
    all_goals exact happened_append (ih hc)

/-- In every reachable state the app data that a datagram is forwarded with is absent or a part of
the received bytes exactly if the datagram is unreadable, not about a registered client or without
app data, or says that its app data ends inside it; and whatever is sent to the hub carries the app
data that an earlier datagram was forwarded with, a block of its bytes if it said so. -/
theorem app_data_inside (h : automaton.Run (start params) tr u) :
    (∀ d, u.AppDataInside d ↔ u.AppDataEndsInside d) ∧
    ∀ e src data, u.enabled e → e.delivers = some (src, data) →
      ∃ tr₁ u₁ d f, automaton.Run (start params) tr₁ u₁ ∧
        tr₁ ++ [.datagramForward src d f] <+: tr ∧
        onDatagram u₁.registered d.rawMsg = some (some f) ∧ data = f.appData ∧
        (u₁.AppDataEndsInside d → ∀ b, data = some b → b <:+: d.bytes) := by
  refine ⟨fun d => appData_inside_iff, ?_⟩
  intro e src data he hd
  have hc : u.datagrams.carries = some (src, data) := by
    cases e <;> simp only [UdpEvent.delivers, reduceCtorEq] at hd <;>
      simp only [enabled] at he <;> rw [he] <;> exact hd
  obtain ⟨_, hmem, d, f, rfl, rfl⟩ := carries_forwarded h hc
  obtain ⟨tr₁, u₁, hr, hf, hp⟩ := h.of_mem hmem
  have hf : onDatagram u₁.registered d.rawMsg = some (some f) := hf.2.2
  exact ⟨tr₁, u₁, d, f, hr, hp, hf, rfl,
    fun hends b hb => (appData_inside_iff.mpr hends).isInfix hf hb⟩

/-- A message for client 1 with the app data `[42]`, which says that they are `length` bytes. -/
def messageOfLength (length : UInt8) : Datagram where
  bytes := [0x0e, 0, 0, 0, 0x0a, 0, 0x10, 0, 0x0c, 0, 0x04, 0, 0x08, 0, 0x0a, 0, 0, 0,
    0x0f, 0, 0, 0, 0x13, 0, 0, 0, 0x01, 0x06, 0, 0x08, 0, 0x04, 0, 0x06, 0, 0, 0, 0x01, 0, 0, 0,
    length, 0, 0, 0, 0x2a]
  len_le := by simp

/-- The handler registers client 1 and reads this message, which makes it send `data`. -/
def toldOfLength (length : UInt8) (data : Bytes) : List UdpEvent := [
  .recvOpen Sample.openCommand, .connect Sample.openCommand Sample.addr,
  .register Sample.openCommand Sample.addr, .readFromUDP Sample.addr (messageOfLength length),
  .datagramForward Sample.addr (messageOfLength length) (.message 1 (some data)),
  .messageNow Sample.addr ⟨1, 0, 0, some data⟩]

theorem app_data_inside_toldOfLength :
    (automaton.exec (start Sample.config.udp) (toldOfLength 1 [42])).AppDataInside
      (messageOfLength 1) := by
  have hr : automaton.Run (start Sample.config.udp) (toldOfLength 1 [42]) _ :=
    Automaton.Admits.run (by decide +kernel)
  exact ((app_data_inside hr).1 _).mpr fun _ _ _ _ => by decide +kernel

/-- A message of 46 bytes that says that its last byte is the first of three: the hub gets two
bytes that nobody sent. -/
theorem app_data_past_datagram :
    ¬∀ params tr u, automaton.Run (start params) tr u →
      ∀ (d : Datagram) (f : Forward), onDatagram u.registered d.rawMsg = some (some f) →
        f.appData = none ∨ ∃ b, f.appData = some b ∧ b <:+: d.bytes := by
  intro hall
  have hr : automaton.Run (start Sample.config.udp) (toldOfLength 3 [42, 0, 0]) _ :=
    Automaton.Admits.run (by decide +kernel)
  have hsent := hall _ _ _ hr (messageOfLength 3) (.message 1 (some [42, 0, 0]))
    (by decide +kernel)
  rcases hsent with hnone | ⟨b, hb, hinside⟩
  · cases hnone
  · cases hb
    exact absurd hinside (by decide +kernel)

end Udp
end Spanreed
