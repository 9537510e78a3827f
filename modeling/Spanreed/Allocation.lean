import Spanreed.HubFacts

/-! # Allocation of client ids

A `GetNextClientId` callback takes an id from the wrapping counter and makes a record for it later,
so callbacks of several handlers hold ids at the same time. Whatever the order in which they
finish, a record is only made for an id that has none; until the counter wraps, an id whose record
is still to be made never had one, so the only way to fail is a full store. -/

namespace Spanreed
open Automata

namespace ClientStore
variable {store : ClientStore} {c : ClientId}

theorem length_eq_keys : store.clientConnections.entries.length =
    store.clientConnections.keys.length := by simp [AList.keys, List.keys]

theorem mem_keys_of_get {connection : ClientConnectionMetadata}
    (h : store.get c = some connection) : c ∈ store.clientConnections.keys := by
  rw [← AList.mem_keys, ← AList.lookup_isSome]
  exact Option.isSome_of_mem h

theorem length_update {f : ClientConnectionMetadata → ClientConnectionMetadata} :
    (store.update c f).clientConnections.entries.length =
      store.clientConnections.entries.length := by
  rw [length_eq_keys, length_eq_keys]
  unfold update
  split
  · next connection hc =>
    have hmem := mem_keys_of_get hc
    have hpos := List.length_pos_of_mem hmem
    rw [AList.keys_insert, List.length_cons, List.length_erase_of_mem hmem]
    omega
  · rfl

theorem length_removeClient : (store.removeClient c).clientConnections.entries.length ≤
    store.clientConnections.entries.length := by
  rw [length_eq_keys, length_eq_keys]
  show (store.clientConnections.erase c).keys.length ≤ _
  rw [AList.keys_erase]
  exact List.length_erase_le

@[simp] theorem maxConnections_update
    {f : ClientConnectionMetadata → ClientConnectionMetadata} :
    (store.update c f).maxConnections = store.maxConnections := by
  unfold update; split <;> rfl

/-- What a creation comes to. -/
theorem createClient_cases (store : ClientStore) (c : ClientId) (name : String) (t : Timestamp) :
    (store.createClient c name t = .error (.duplicateClientId c) ∧ store.get c ≠ none) ∨
    (store.createClient c name t = .error .tooManyClients ∧ store.get c = none ∧
      store.maxConnections ≤ store.clientConnections.entries.length) ∨
    (∃ store', store.createClient c name t = .ok store' ∧ store.get c = none ∧
      store.clientConnections.entries.length < store.maxConnections ∧
      store'.maxConnections = store.maxConnections ∧
      store'.clientConnections.entries.length =
        store.clientConnections.entries.length + 1) := by
  unfold createClient
  split
  · next hhas => exact .inl ⟨rfl, by simpa [hasClient, Option.isSome_iff_ne_none] using hhas⟩
  · next hfree =>
    have hfree : store.get c = none := by simpa [hasClient] using hfree
    split
    · next hfull => exact .inr (.inl ⟨rfl, hfree, hfull⟩)
    · next hroom =>
      refine .inr (.inr ⟨_, rfl, hfree, by omega, rfl, ?_⟩)
      have hnot : c ∉ store.clientConnections.keys := by
        rw [← AList.mem_keys, ← AList.lookup_eq_none]
        exact hfree
      rw [length_eq_keys, length_eq_keys, AList.keys_insert, List.erase_of_not_mem hnot,
        List.length_cons]

end ClientStore

namespace HubEvent

/-- A step of a callback that makes no record: it takes an id, reads the clock or fails. -/
def CreatesNothing : HubEvent → Prop
  | .getNewClientId .. | .callbackNow .. | .createClientFails .. => True
  | _ => False

end HubEvent

namespace Hub
open HubEvent

section
variable {config : HubConfig} {maxConnections : Nat} {clientHandlers : List String}
  {handlers : List DestinationHandler} {tr : List HubEvent} {h : Hub} {c : ClientId}

theorem length_next {e : HubEvent} :
    (h.next e).clientStore.maxConnections = h.clientStore.maxConnections ∧
      (h.clientStore.clientConnections.entries.length ≤ h.clientStore.maxConnections →
        (h.next e).clientStore.clientConnections.entries.length ≤
          h.clientStore.maxConnections) := by
  cases e
  case createClient name id t =>
    rcases h.clientStore.createClient_cases id name t with ⟨hcreate, -⟩ | ⟨hcreate, -⟩ |
      ⟨store', hcreate, -, hroom, hmax, hlen⟩
    · simp [next, hcreate]
    · simp [next, hcreate]
    · simp only [next, hcreate]
      exact ⟨hmax, by omega⟩
  case kickRemove g id r k => exact ⟨rfl, ClientStore.length_removeClient.trans⟩
  case clientStamp | destStamp | verdictConnect | reqAttach =>
    simp only [next, goto_clientStore, ClientStore.setClientRecvTimestamp,
      ClientStore.setDestinationRecvTimestamp, ClientStore.connect,
      ClientStore.setDestinationHandlerName, ClientStore.maxConnections_update,
      ClientStore.length_update]
    exact ⟨trivial, id⟩
  all_goals exact ⟨rfl, id⟩

/-- The store never holds more records than it may. -/
theorem length_le (hr : automaton.Run (start config maxConnections clientHandlers handlers) tr h) :
    h.clientStore.maxConnections = maxConnections ∧
      h.clientStore.clientConnections.entries.length ≤ maxConnections := by
  refine hr.invariant (I := fun h => h.clientStore.maxConnections = maxConnections ∧
    h.clientStore.clientConnections.entries.length ≤ maxConnections) ⟨rfl, Nat.zero_le _⟩ ?_
  rintro h e ⟨rfl, hle⟩ _
  obtain ⟨hmax, hlen⟩ := length_next (h := h) (e := e)
  exact ⟨hmax, hlen hle⟩

/-- A record was made by a callback. -/
theorem created_of_get
    (hr : automaton.Run (start config maxConnections clientHandlers handlers) tr h)
    (hc : h.clientStore.get c ≠ none) : c ∈ tr.filterMap createdId := by
  induction hr with
  | nil => exact (hc (ClientStore.get_createClientStore _)).elim
  | @snoc tr h e hr he ih =>
    rw [List.filterMap_append, List.mem_append]
    have hnames : (h.next e).clientStore.names c ≠ none := fun hn =>
      hc (ClientStore.names_eq_none.mp hn)
    have hold : h.clientStore.names c ≠ none → c ∈ tr.filterMap createdId := fun hn =>
      ih fun hget => hn (ClientStore.names_eq_none.mpr hget)
    rcases names_next he c with ⟨name, t, rfl, -⟩ | ⟨g, r, k, rfl, hnone⟩ |
      ⟨m, t, name, cn, dn, rfl, -, hsome, -⟩ | hsame
    · exact .inr (by simp [createdId])
    · exact (hnames hnone).elim
    · exact .inl (hold (by simp [hsome]))
    · exact .inl (hold (hsame ▸ hnames))

/-- An id whose record is still to be made has none. -/
theorem get_of_pending
    (hr : automaton.Run (start config maxConnections clientHandlers handlers) tr h)
    (hlt : (tr.filterMap newId).length < 2 ^ 32) {name : String} {t : Timestamp}
    (hcb : .create name c t ∈ h.callbacks) : h.clientStore.get c = none := by
  by_contra hget
  have hcreated := List.count_pos_iff.mpr (created_of_get hr hget)
  have hpending : 0 < (h.callbacks.map Callback.clientId).count c :=
    List.count_pos_iff.mpr (List.mem_map.mpr ⟨_, hcb, rfl⟩)
  have hcount := count_created_le hr c
  have hone := List.nodup_iff_count_le_one.mp (newIds_nodup hr hlt) c
  omega

/-- Zero is only allocated when the counter has wrapped. -/
theorem newId_ne_zero
    (hr : automaton.Run (start config maxConnections clientHandlers handlers) tr h)
    (hlt : (tr.filterMap newId).length < 2 ^ 32) (hc : c ∈ tr.filterMap newId) : c ≠ 0 := by
  rw [(newIds_eq hr).1, List.mem_map] at hc
  obtain ⟨n, hn, rfl⟩ := hc
  have hn := List.mem_range.mp hn
  intro hzero
  have := congrArg UInt32.toNat hzero
  simp only [UInt32.toNat_ofNat', UInt32.toNat_zero] at this
  omega

theorem newId_of_createdId
    (hr : automaton.Run (start config maxConnections clientHandlers handlers) tr h)
    (hc : c ∈ tr.filterMap createdId) : c ∈ tr.filterMap newId := by
  have hcount := count_created_le hr c
  have hpos := List.count_pos_iff.mpr hc
  exact List.count_pos_iff.mp (by omega)

/-- A callback makes a record only for an id that has none and touches no other; one that fails
touches none. Until the counter wraps, the ids returned are nonzero and distinct, and a callback
fails exactly if the store is full. -/
theorem allocation
    (hr : automaton.Run (start config maxConnections clientHandlers handlers) tr h) :
    (∀ name c t, h.enabled (.createClient name c t) → h.clientStore.get c = none ∧
      ∀ d, d ≠ c →
        (h.next (.createClient name c t)).clientStore.get d = h.clientStore.get d) ∧
    (∀ e, e.CreatesNothing →
      (h.next e).clientStore.clientConnections = h.clientStore.clientConnections) ∧
    ((tr.filterMap newId).length < 2 ^ 32 →
      (∀ c ∈ tr.filterMap createdId, c ≠ 0) ∧ (tr.filterMap createdId).Nodup ∧
      ∀ name c t, .create name c t ∈ h.callbacks →
        ((¬(h.clientStore.createClient c name t).isOk ↔
          h.clientStore.clientConnections.entries.length = maxConnections) ∧
        ∀ d, h.clientStore.createClient c name t ≠ .error (.duplicateClientId d))) := by
  refine ⟨?_, ?_, ?_⟩
  · rintro name c t ⟨-, -, hok⟩
    cases hcreate : h.clientStore.createClient c name t with
    | error err => simp [hcreate, Except.isOk, Except.toBool] at hok
    | ok store =>
      obtain ⟨hfree, -, -, hother⟩ := ClientStore.createClient_ok hcreate
      refine ⟨hfree, ?_⟩
      simpa [next, hcreate] using hother
  · intro e he
    cases e
    case getNewClientId | callbackNow | createClientFails => rfl
    all_goals exact he.elim
  · intro hlt
    refine ⟨?_, createdIds_nodup hr hlt, ?_⟩
    · intro c hc
      exact newId_ne_zero hr hlt (newId_of_createdId hr hc)
    · intro name c t hcb
      have hfree := get_of_pending hr hlt hcb
      obtain ⟨hmax, hle⟩ := length_le hr
      rcases h.clientStore.createClient_cases c name t with ⟨-, hhas⟩ | ⟨hcreate, -, hfull⟩ |
        ⟨store', hcreate, -, hroom, -⟩
      · exact (hhas hfree).elim
      · simp only [hcreate, Except.isOk, Except.toBool]
        exact ⟨iff_of_true (by simp) (by omega), by simp⟩
      · simp only [hcreate, Except.isOk, Except.toBool]
        exact ⟨iff_of_false (by simp) (by omega), by simp⟩

end

/-- Two callbacks hold ids at once, and the one that took the second id finishes first. -/
def twoCallbacks : List HubEvent := [.getNewClientId "WebSocket" 1,
  .getNewClientId "WebTransport" 2, .callbackNow "WebSocket" 1, .callbackNow "WebTransport" 2,
  .createClient "WebTransport" 2 0]

theorem allocation_twoCallbacks : ¬((automaton.exec (start {} 1 ["WebSocket", "WebTransport"] [])
    twoCallbacks).clientStore.createClient 1 "WebSocket" 0).isOk := by
  have hr : automaton.Run (start {} 1 ["WebSocket", "WebTransport"] []) twoCallbacks _ :=
    Automaton.Admits.run (by decide +kernel)
  have hpending := ((allocation hr).2.2 (by decide)).2.2 "WebSocket" 1 0 (by decide +kernel)
  exact hpending.1.mpr (by decide +kernel)

end Hub
end Spanreed
