import Spanreed.RouterFacts
import Spanreed.System

/-! # Auth packets

The routing goroutine reads the two fields of a client's first packet twice: under `recover` in
`safeParseConnectClientMessage`, and again, unguarded, when it builds the open command. A packet is
parsed exactly if everything that both readings look at lies in range (`reads_isSome`), and then the
second reading finds what the first one did (`auth_packet_safe`). -/

namespace Spanreed
open Flatbuffers Automata

namespace ConnectClientMessage

/-- What is read of a packet under `recover`: the root and the two fields. -/
def reads (payload : Slice) : Option (Table × Option Slice × Option Slice) := do
  let o ← getRoot payload
  let connectionString ← connectionString o
  let appData ← appDataBytes o
  pure (o, connectionString, appData)

/-- The root of the packet and both fields lie in range. -/
def Readable (payload : Slice) : Prop :=
  InRange payload 0 4 ∧
    (⟨payload, u32At payload 0⟩ : Table).FieldInRange 4
      (⟨payload, u32At payload 0⟩ : Table).VectorInRange ∧
    (⟨payload, u32At payload 0⟩ : Table).FieldInRange 6
      (⟨payload, u32At payload 0⟩ : Table).VectorInRange

variable {payload : Slice} {o : Table} {connStr appData : Option Slice}

theorem reads_isSome : (reads payload).isSome ↔ Readable payload := by
  unfold reads Readable
  rw [getRoot_eq]
  by_cases hroot : InRange payload 0 4
  · rw [if_pos hroot, ← Table.bytesField_isSome, ← Table.bytesField_isSome]
    simp only [Option.bind_eq_bind, Option.bind_some, hroot, true_and, connectionString,
      appDataBytes]
    cases (⟨payload, u32At payload 0⟩ : Table).bytesField 4 with
    | none => simp
    | some connStr =>
      cases (⟨payload, u32At payload 0⟩ : Table).bytesField 6 <;> simp
  · simp [hroot]

/-- Reading a field again gives what was read before. -/
theorem reread (h : reads payload = some (o, connStr, appData)) :
    connectionString o = some connStr ∧ appDataBytes o = some appData := by
  simp only [reads, Option.bind_eq_bind, Option.bind_eq_some_iff, Option.pure_def,
    Option.some.injEq, Prod.mk.injEq] at h
  obtain ⟨o', -, connStr', hconn, appData', happ, rfl, rfl, rfl⟩ := h
  exact ⟨hconn, happ⟩

end ConnectClientMessage

open ConnectClientMessage

section
variable {payload : Slice} {authMsg : Table} {connStr appData : Option Slice}

theorem safeParse_eq : safeParseConnectClientMessage payload =
    match reads payload with
    | some (o, _, _) => .ok o
    | none => .error .deformedMessage := by
  unfold safeParseConnectClientMessage reads
  simp only [Option.bind_eq_bind]
  cases getRoot payload with
  | none => rfl
  | some o =>
    simp only [Option.bind_some]
    cases connectionString o with
    | none => rfl
    | some connStr =>
      simp only [Option.bind_some]
      cases appDataBytes o <;> rfl

theorem safeParse_eq_ok (h : safeParseConnectClientMessage payload = .ok authMsg) :
    ∃ connStr appData, reads payload = some (authMsg, connStr, appData) := by
  rw [safeParse_eq] at h
  split at h
  · next o connStr appData hreads =>
    cases h
    exact ⟨connStr, appData, hreads⟩
  · cases h

/-- The open command of a parsed message is built from what was read under `recover`. -/
theorem openCommand_of_reads (h : reads payload = some (authMsg, connStr, appData))
    (id : ClientId) (now : Timestamp) :
    Connection.openCommand id authMsg now =
      some ⟨id, now, 0, goString connStr, appData.map Slice.bytes⟩ := by
  obtain ⟨hconn, happ⟩ := reread h
  simp [Connection.openCommand, hconn, happ]

end

namespace Router
variable {params : ClientConnectionRouterParams} {tr : List RouterEvent} {r : Router}

/-- Every packet is refused, if something in it lies out of range, or parsed to a message whose
fields can be read again with the same result; so in every reachable state of a router a connection
whose first packet was parsed can go on with the open command it was parsed to, at any time. -/
theorem auth_packet_safe (h : automaton.Run (start params) tr r) :
    (∀ payload : Slice,
      ¬Readable payload ∧ reads payload = none ∧
        safeParseConnectClientMessage payload = .error .deformedMessage ∨
      Readable payload ∧ ∃ authMsg connStr appData,
        reads payload = some (authMsg, connStr, appData) ∧
        safeParseConnectClientMessage payload = .ok authMsg ∧
        connectionString authMsg = some connStr ∧ appDataBytes authMsg = some appData) ∧
    ∀ k c authMsg, r.conns k = some c → c.routing = .openNow authMsg →
      ∃ packet connStr appData, .conn k (.authPacket packet) ∈ tr ∧
        reads packet = some (authMsg, connStr, appData) ∧
        ∀ now, r.enabled (.conn k (.openNow
          ⟨c.clientId, now, 0, goString connStr, appData.map Slice.bytes⟩)) := by
  refine ⟨fun payload => ?_, fun k c authMsg hk hpc => ?_⟩
  · cases hreads : reads payload with
    | none =>
      have hnot : ¬Readable payload := by rw [← reads_isSome, hreads]; simp
      exact .inl ⟨hnot, rfl, by rw [safeParse_eq, hreads]⟩
    | some read =>
      obtain ⟨authMsg, connStr, appData⟩ := read
      have hread : Readable payload := by rw [← reads_isSome, hreads]; rfl
      exact .inr ⟨hread, authMsg, connStr, appData, rfl, by rw [safeParse_eq, hreads],
        reread hreads⟩
  · obtain ⟨packet, hmem, hparse⟩ := (Connection.opens_with (connection_run h hk)).1 authMsg hpc
    obtain ⟨connStr, appData, hreads⟩ := safeParse_eq_ok hparse
    refine ⟨packet, connStr, appData, mem_of_connection h hmem, hreads,
      fun now => ⟨rfl, ?_, by simp⟩⟩
    unfold ConnEnabled
    rw [hk]
    exact ⟨authMsg, hpc, openCommand_of_reads hreads c.clientId now⟩

/-- Client 1 is opened and sends its auth packet. -/
def authenticates : List RouterEvent :=
  [.nextClientId 1, .register 1, .conn 0 (.put Sample.authPacket),
    .conn 0 (.authPacket Sample.authPacket)]

theorem auth_packet_safe_authenticates : ∃ packet connStr appData,
    .conn 0 (.authPacket packet) ∈ authenticates ∧
      reads packet = some (⟨Sample.authPacket, 12⟩, connStr, appData) ∧
      ∀ now, (automaton.exec (start Sample.config.router) authenticates).enabled (.conn 0 (.openNow
        ⟨1, now, 0, goString connStr, appData.map Slice.bytes⟩)) := by
  have hr : automaton.Run (start Sample.config.router) authenticates _ :=
    Automaton.Admits.run (by decide +kernel)
  obtain ⟨c, hc⟩ := Option.isSome_iff_exists.mp (show
    ((automaton.exec (start Sample.config.router) authenticates).conns 0).isSome by decide +kernel)
  have hstate : ((automaton.exec (start Sample.config.router) authenticates).conns 0).map
      (fun c => (c.clientId, c.routing)) = some (1, .openNow ⟨Sample.authPacket, 12⟩) := by
    decide +kernel
  rw [hc] at hstate
  simp only [Option.map_some, Option.some.injEq, Prod.mk.injEq] at hstate
  obtain ⟨packet, connStr, appData, hmem, hreads, hen⟩ :=
    (auth_packet_safe hr).2 0 c _ hc hstate.2
  rw [hstate.1] at hen
  exact ⟨packet, connStr, appData, hmem, hreads, hen⟩

end Router
end Spanreed
