import Spanreed.ClientStore

/-! # The history of the client store

The operations of `internal/client_store.go` one after the other, with what each of them did to the
records. What a query should return is said of that history alone: `LastCreated` finds the creation
of a record that is still there, and the rest happened since. `HasClient` and the two queries of a
handler name return what the history says; `IsConnected` does so exactly for the clients that are
`Settled` (`queries_faithful`). -/

namespace Spanreed
namespace ClientStore
variable (store : ClientStore)

/-- `IsConnected`: it takes the lock of the record and returns `true`. -/
def isConnected (clientId : ClientId) : Bool :=
  match store.get clientId with
  | some _ => true
  | none => false

/-- The error of the operations that look a record up: `Connect`, the setters and the queries of a
handler name. -/
def lookupError (clientId : ClientId) : Option GoError :=
  match store.get clientId with
  | some _ => none
  | none => some (.missingClientId clientId)

/-- The order in which an iteration over a map visits its keys. -/
structure MapOrder where
  visit : List ClientId → List ClientId
  perm : ∀ keys, (visit keys).Perm keys

/-- The callback of `KickAllClients`. What it returns may depend on the clients it was called for
before. -/
abbrev KickCallback := List ClientId → ClientId → ClientConnectionMetadata → Option GoError

structure KickAllResult where
  store : ClientStore
  /-- The clients whose callback returned no error, in order. -/
  kicked : List ClientId
  error : Option GoError

/-- The loop of `KickAllClients` from the clients `kicked` on. -/
def kickAllLoop (cb : KickCallback) (kicked : List ClientId) :
    List ClientId → ClientStore → KickAllResult
  | [], store => ⟨store, kicked, none⟩
  | clientId :: rest, store =>
    match store.get clientId with
    | none => kickAllLoop cb kicked rest store
    | some clientRecord =>
      match cb kicked clientId clientRecord with
      | some err => ⟨store, kicked, some err⟩
      | none => kickAllLoop cb (kicked ++ [clientId]) rest (store.removeClient clientId)

def kickAllClients (order : MapOrder) (cb : KickCallback) : KickAllResult :=
  kickAllLoop cb [] (order.visit store.clientConnections.keys) store

section
variable {store : ClientStore} {cb : KickCallback} {c : ClientId}

theorem get_kickAllLoop_of_none {kicked todo : List ClientId} (h : store.get c = none) :
    (kickAllLoop cb kicked todo store).store.get c = none := by
  induction todo generalizing store kicked with
  | nil => exact h
  | cons clientId rest ih =>
    unfold kickAllLoop
    split
    · exact ih h
    · split
      · exact h
      · exact ih (by rw [get_removeClient, h, ite_self])

theorem get_kickAllLoop_of_mem {kicked todo : List ClientId} (hc : c ∈ todo)
    (h : (kickAllLoop cb kicked todo store).error = none) :
    (kickAllLoop cb kicked todo store).store.get c = none := by
  induction todo generalizing store kicked with
  | nil => cases hc
  | cons clientId rest ih =>
    unfold kickAllLoop at h ⊢
    rcases List.mem_cons.mp hc with rfl | hc
    · split at h
      · next hnone => exact get_kickAllLoop_of_none hnone
      · split at h
        · cases h
        · exact get_kickAllLoop_of_none (by rw [get_removeClient, if_pos rfl])
    · split at h
      · exact ih hc h
      · split at h
        · cases h
        · exact ih hc h

/-- If no callback fails, no record is left. -/
theorem get_kickAllClients {order : MapOrder} (h : (store.kickAllClients order cb).error = none) :
    (store.kickAllClients order cb).store.get c = none := by
  by_cases hc : c ∈ store.clientConnections.keys
  · exact get_kickAllLoop_of_mem ((order.perm _).mem_iff.mpr hc) h
  · exact get_kickAllLoop_of_none (AList.lookup_eq_none.mpr hc)

end

end ClientStore

open ClientStore

/-! ## Sequences of operations -/

inductive StoreOp
  | kickAllClients (order : MapOrder) (cb : KickCallback)
  | getNewClientId
  | hasClient (clientId : ClientId)
  | createClient (clientId : ClientId) (clientHandlerName : String) (timestamp : Timestamp)
  | removeClient (clientId : ClientId)
  | connect (clientId : ClientId)
  | isConnected (clientId : ClientId)
  | setDestinationHandlerName (clientId : ClientId) (destinationHandlerName : String)
  | getDestinationHandlerName (clientId : ClientId)
  | getClientHandlerName (clientId : ClientId)
  | setClientRecvTimestamp (clientId : ClientId) (timestamp : Timestamp)
  | setDestinationRecvTimestamp (clientId : ClientId) (timestamp : Timestamp)
  | getTimeoutClientList (clientMsgDeadline destinationMsgDeadline connectionDeadline : Timestamp)
  | getAuthTimeoutClientList (connectDeadline : Timestamp)

/-- What happens to the record of a client. -/
inductive StoreEvent
  | created (clientId : ClientId) (clientHandlerName : String)
  | removed (clientId : ClientId)
  | connected (clientId : ClientId)
  | assigned (clientId : ClientId) (destinationHandlerName : String)
deriving DecidableEq

def StoreEvent.clientId : StoreEvent → ClientId
  | .created c _ | .removed c | .connected c | .assigned c _ => c

namespace StoreOp

/-- The store after an operation and the error it returns. -/
def apply (store : ClientStore) : StoreOp → ClientStore × Option GoError
  | .kickAllClients order cb =>
    ((store.kickAllClients order cb).store, (store.kickAllClients order cb).error)
  | .getNewClientId => ({ store with nextClientId := store.getNewClientId }, none)
  | .createClient c name t =>
    match store.createClient c name t with
    | .ok store' => (store', none)
    | .error err => (store, some err)
  | .removeClient c => (store.removeClient c, none)
  | .connect c => (store.connect c, store.lookupError c)
  | .setDestinationHandlerName c name =>
    (store.setDestinationHandlerName c name, store.lookupError c)
  | .setClientRecvTimestamp c t => (store.setClientRecvTimestamp c t, store.lookupError c)
  | .setDestinationRecvTimestamp c t => (store.setDestinationRecvTimestamp c t, store.lookupError c)
  | .getDestinationHandlerName c | .getClientHandlerName c => (store, store.lookupError c)
  | .hasClient _ | .isConnected _ | .getTimeoutClientList .. | .getAuthTimeoutClientList _ =>
    (store, none)

/-- What an operation does to the records: creations and assignments count if they return no
error. -/
def events (store : ClientStore) (op : StoreOp) : List StoreEvent :=
  match op with
  | .kickAllClients order cb => (store.kickAllClients order cb).kicked.map .removed
  | .createClient c name _ => if (op.apply store).2 = none then [.created c name] else []
  | .removeClient c => [.removed c]
  | .connect c => if (op.apply store).2 = none then [.connected c] else []
  | .setDestinationHandlerName c name =>
    if (op.apply store).2 = none then [.assigned c name] else []
  | _ => []

/-- The store and its history after a sequence of operations. -/
def run (ops : List StoreOp) (store : ClientStore) (history : List StoreEvent) :
    ClientStore × List StoreEvent :=
  match ops with
  | [] => (store, history)
  | op :: ops => run ops (op.apply store).1 (history ++ op.events store)

end StoreOp

/-! ## What the history says about a client -/

section
variable (c : ClientId)

/-- The last creation of `c` in `history` gave it `name`, and it has not been removed since. -/
def LastCreated (history : List StoreEvent) (name : String) (since : List StoreEvent) : Prop :=
  ∃ before, history = before ++ .created c name :: since ∧
    (∀ name', .created c name' ∉ since) ∧ .removed c ∉ since

/-- The destination handler that the last assignment gave to `c`; the name is empty without one. -/
def lastAssigned (since : List StoreEvent) : String :=
  (since.filterMap fun
    | .assigned d name => if d = c then some name else none
    | _ => none).getLastD ""

variable (store : ClientStore) (history : List StoreEvent)

/-- The queries about `c` return what the history says. -/
structure NamesFaithful : Prop where
  hasClient : store.hasClient c = true ↔ ∃ name since, LastCreated c history name since
  clientHandlerName : ∀ name, store.getClientHandlerName c = .ok name ↔
    ∃ since, LastCreated c history name since
  destinationHandlerName : ∀ name, store.getDestinationHandlerName c = .ok name ↔
    ∃ clientName since, LastCreated c history clientName since ∧ name = lastAssigned c since

/-- `IsConnected` returns what the history says. -/
def IsConnectedFaithful : Prop :=
  store.isConnected c = true ↔
    ∃ name since, LastCreated c history name since ∧ .connected c ∈ since

/-- `c` is not waiting for its `Connect`: it has no record or was connected since it was created. -/
def Settled : Prop := ∀ name since, LastCreated c history name since → .connected c ∈ since

end

/-! ## One more event -/

section
variable {c : ClientId} {history since : List StoreEvent} {name : String} {e : StoreEvent}

/-- After one more event, the last creation of a client is that event, or the event is neither a
creation nor a removal of the client and happened since. -/
theorem lastCreated_snoc : LastCreated c (history ++ [e]) name since ↔
    (e = .created c name ∧ since = []) ∨
    ∃ since', since = since' ++ [e] ∧ LastCreated c history name since' ∧
      (∀ name', e ≠ .created c name') ∧ e ≠ .removed c := by
  constructor
  · rintro ⟨before, hhistory, hcreated, hremoved⟩
    rcases List.eq_nil_or_concat since with rfl | ⟨since', e', rfl⟩
    · obtain ⟨-, he⟩ := List.append_inj' hhistory rfl
      exact .inl ⟨List.singleton_inj.mp he, rfl⟩
    · rw [List.concat_eq_append, ← List.cons_append, ← List.append_assoc] at hhistory
      obtain ⟨hbefore, he⟩ := List.append_inj' hhistory rfl
      obtain rfl := List.singleton_inj.mp he
      simp only [List.concat_eq_append, List.mem_append, List.mem_singleton, not_or]
        at hcreated hremoved ⊢
      exact .inr ⟨since', rfl, ⟨before, hbefore, fun n => (hcreated n).1, hremoved.1⟩,
        fun n h => (hcreated n).2 h.symm, fun h => hremoved.2 h.symm⟩
  · rintro (⟨rfl, rfl⟩ | ⟨since', rfl, ⟨before, rfl, hcreated, hremoved⟩, hc, hr⟩)
    · exact ⟨history, rfl, fun _ => List.not_mem_nil, List.not_mem_nil⟩
    · refine ⟨before, by simp, fun n h => ?_, fun h => ?_⟩
      · rcases List.mem_append.mp h with h | h
        · exact hcreated n h
        · exact hc n (List.mem_singleton.mp h).symm
      · rcases List.mem_append.mp h with h | h
        · exact hremoved h
        · exact hr (List.mem_singleton.mp h).symm

theorem lastAssigned_assigned : lastAssigned c (since ++ [.assigned c name]) = name := by
  simp [lastAssigned]

theorem lastAssigned_snoc (h : ∀ name, e ≠ .assigned c name) :
    lastAssigned c (since ++ [e]) = lastAssigned c since := by
  unfold lastAssigned
  cases e with
  | assigned d name =>
    have hd : d ≠ c := fun hd => h name (hd ▸ rfl)
    simp [hd]
  | _ => simp

/-- The record of a client is what the history says. -/
structure Recorded (c : ClientId) (history : List StoreEvent)
    (record : Option ClientConnectionMetadata) : Prop where
  /-- The record was created and not removed since, and its fields hold what happened since. -/
  fields : ∀ name since, LastCreated c history name since → ∃ m, record = some m ∧
    m.clientHandlerName = name ∧ (m.isConnected = true ↔ .connected c ∈ since) ∧
    m.destinationHandlerName = lastAssigned c since
  created : ∀ m, record = some m → ∃ name since, LastCreated c history name since

namespace Recorded
variable {record : Option ClientConnectionMetadata}

/-- An event of another client. -/
theorem frame (h : Recorded c history record) (he : e.clientId ≠ c) :
    Recorded c (history ++ [e]) record := by
  have hne : ∀ e' : StoreEvent, e'.clientId = c → e ≠ e' := fun e' he' hee => he (hee ▸ he')
  constructor
  · intro name since hlast
    rcases lastCreated_snoc.mp hlast with ⟨hcreated, -⟩ | ⟨since', rfl, hlast, -⟩
    · exact (hne _ rfl hcreated).elim
    · obtain ⟨m, hm, hname, hconnected, hassigned⟩ := h.fields name since' hlast
      refine ⟨m, hm, hname, ?_, ?_⟩
      · rw [hconnected, List.mem_append, List.mem_singleton]
        exact ⟨.inl, fun hor => hor.resolve_right fun hee => hne _ rfl hee.symm⟩
      · rw [hassigned, lastAssigned_snoc fun n => hne _ rfl]
  · intro m hm
    obtain ⟨name, since, hlast⟩ := h.created m hm
    exact ⟨name, since ++ [e], lastCreated_snoc.mpr
      (.inr ⟨since, rfl, hlast, fun n => hne _ rfl, hne _ rfl⟩)⟩

theorem snoc_created {t : Timestamp} :
    Recorded c (history ++ [.created c name]) (some (newRecord name t)) := by
  constructor
  · intro name' since hlast
    rcases lastCreated_snoc.mp hlast with ⟨hcreated, rfl⟩ | ⟨since', rfl, -, hcreated, -⟩
    · cases hcreated
      exact ⟨_, rfl, rfl, by simp [newRecord], rfl⟩
    · exact (hcreated name rfl).elim
  · exact fun _ _ => ⟨name, [], lastCreated_snoc.mpr (.inl ⟨rfl, rfl⟩)⟩

theorem snoc_removed : Recorded c (history ++ [.removed c]) none := by
  constructor
  · intro name since hlast
    rcases lastCreated_snoc.mp hlast with ⟨hcreated, -⟩ | ⟨since', -, -, -, hremoved⟩
    · cases hcreated
    · exact (hremoved rfl).elim
  · intro m hm
    cases hm

/-- An event that changes a field of the record. -/
theorem snoc_update {f : ClientConnectionMetadata → ClientConnectionMetadata}
    (h : Recorded c history record) (hcreated : ∀ name, e ≠ .created c name)
    (hremoved : e ≠ .removed c) (hname : ∀ m, (f m).clientHandlerName = m.clientHandlerName)
    (hconnected : ∀ m, (f m).isConnected = true ↔ m.isConnected = true ∨ e = .connected c)
    (hassigned : ∀ m since, m.destinationHandlerName = lastAssigned c since →
      (f m).destinationHandlerName = lastAssigned c (since ++ [e])) :
    Recorded c (history ++ [e]) (record.map f) := by
  constructor
  · intro name since hlast
    rcases lastCreated_snoc.mp hlast with ⟨hc, -⟩ | ⟨since', rfl, hlast, -⟩
    · exact (hcreated name hc).elim
    · obtain ⟨m, rfl, hn, hc, ha⟩ := h.fields name since' hlast
      refine ⟨f m, rfl, (hname m).trans hn, ?_, hassigned m since' ha⟩
      rw [hconnected m, hc, List.mem_append, List.mem_singleton, eq_comm (a := e)]
  · intro m hm
    obtain ⟨m', hm', -⟩ := Option.map_eq_some_iff.mp hm
    obtain ⟨name, since, hlast⟩ := h.created m' hm'
    exact ⟨name, since ++ [e],
      lastCreated_snoc.mpr (.inr ⟨since, rfl, hlast, hcreated, hremoved⟩)⟩

/-- A change of a field that no query reads. -/
theorem update {f : ClientConnectionMetadata → ClientConnectionMetadata}
    (h : Recorded c history record) (hname : ∀ m, (f m).clientHandlerName = m.clientHandlerName)
    (hconnected : ∀ m, (f m).isConnected = m.isConnected)
    (hassigned : ∀ m, (f m).destinationHandlerName = m.destinationHandlerName) :
    Recorded c history (record.map f) := by
  constructor
  · intro name since hlast
    obtain ⟨m, rfl, hn, hc, ha⟩ := h.fields name since hlast
    exact ⟨f m, rfl, (hname m).trans hn, by rw [hconnected m, hc], (hassigned m).trans ha⟩
  · intro m hm
    obtain ⟨m', hm', -⟩ := Option.map_eq_some_iff.mp hm
    exact h.created m' hm'

end Recorded
end

/-! ## One more operation -/

section
variable {store store' : ClientStore} {history : List StoreEvent} {c : ClientId}

theorem lookupError_eq_none : store.lookupError c = none ↔ (store.get c).isSome := by
  unfold lookupError
  split <;> simp [*]

theorem recorded_removeClient (h : ∀ d, Recorded d history (store.get d)) (d : ClientId) :
    Recorded d (history ++ [.removed c]) ((store.removeClient c).get d) := by
  rw [get_removeClient]
  split
  · next hd => exact hd ▸ .snoc_removed
  · next hd => exact (h d).frame (Ne.symm hd)

/-- The change of a record and the event of it, if there is a record. -/
theorem recorded_update {f : ClientConnectionMetadata → ClientConnectionMetadata} {e : StoreEvent}
    (h : ∀ d, Recorded d history (store.get d)) (he : e.clientId = c)
    (hc : Recorded c (history ++ [e]) ((store.get c).map f)) (d : ClientId) :
    Recorded d (history ++ if store.lookupError c = none then [e] else [])
      ((store.update c f).get d) := by
  rw [get_update]
  split
  · split
    · next hd => exact hd ▸ hc
    · next hd => exact (h d).frame (he ▸ Ne.symm hd)
  · next hnone =>
    have hget : store.get c = none := by simpa [lookupError_eq_none] using hnone
    rw [List.append_nil]
    split
    · next hd => simpa [hd ▸ hget] using h d
    · exact h d

theorem recorded_kickAllLoop {cb : KickCallback} {todo kicked : List ClientId}
    (h : ∀ d, Recorded d (history ++ kicked.map .removed) (store.get d)) (d : ClientId) :
    Recorded d (history ++ (kickAllLoop cb kicked todo store).kicked.map .removed)
      ((kickAllLoop cb kicked todo store).store.get d) := by
  induction todo generalizing store kicked with
  | nil => exact h d
  | cons clientId rest ih =>
    unfold kickAllLoop
    split
    · exact ih h
    · split
      · exact h d
      · refine ih fun d => ?_
        rw [List.map_append, ← List.append_assoc]
        exact recorded_removeClient h d

/-- An operation and its events keep the records to the history. -/
theorem recorded_apply (op : StoreOp) (h : ∀ d, Recorded d history (store.get d)) (d : ClientId) :
    Recorded d (history ++ op.events store) ((op.apply store).1.get d) := by
  cases op with
  | kickAllClients order cb => exact recorded_kickAllLoop (by simpa using h) d
  | createClient c name t =>
    cases hcreate : store.createClient c name t with
    | error err => simpa [StoreOp.events, StoreOp.apply, hcreate] using h d
    | ok store' =>
      obtain ⟨-, -, hself, hother⟩ := createClient_ok hcreate
      simp only [StoreOp.events, StoreOp.apply, hcreate, if_true]
      by_cases hd : d = c
      · rw [hd, hself]
        exact .snoc_created
      · rw [hother d hd]
        exact (h d).frame (Ne.symm hd)
  | removeClient c => exact recorded_removeClient h d
  | connect c =>
    refine recorded_update (e := .connected c) h rfl ((h c).snoc_update ?_ ?_ ?_ ?_ ?_) d
    · exact fun _ hne => StoreEvent.noConfusion hne
    · exact fun hne => StoreEvent.noConfusion hne
    · exact fun _ => rfl
    · simp
    · intro m since ha
      rw [lastAssigned_snoc fun _ hne => StoreEvent.noConfusion hne]
      exact ha
  | setDestinationHandlerName c name =>
    refine recorded_update (e := .assigned c name) h rfl ((h c).snoc_update ?_ ?_ ?_ ?_ ?_) d
    · exact fun _ hne => StoreEvent.noConfusion hne
    · exact fun hne => StoreEvent.noConfusion hne
    · exact fun _ => rfl
    · simp
    · intro m since _
      exact lastAssigned_assigned.symm
  | setClientRecvTimestamp c t | setDestinationRecvTimestamp c t =>
    simp only [StoreOp.events, List.append_nil, StoreOp.apply, setClientRecvTimestamp,
      setDestinationRecvTimestamp, get_update]
    split
    · exact (h d).update (fun _ => rfl) (fun _ => rfl) fun _ => rfl
    · exact h d
  | _ =>
    simp only [StoreOp.events, List.append_nil]
    exact h d

theorem recorded_run (ops : List StoreOp) (h : ∀ d, Recorded d history (store.get d))
    (d : ClientId) :
    Recorded d (StoreOp.run ops store history).2 ((StoreOp.run ops store history).1.get d) := by
  induction ops generalizing store history with
  | nil => exact h d
  | cons op ops ih => exact ih (recorded_apply op h)

/-- An empty store. -/
theorem recorded_nil : Recorded c [] none where
  fields := by rintro name since ⟨before, h, -⟩; simp at h
  created := by rintro m h; cases h

end

/-! ## Queries -/

section
variable {store : ClientStore} {history : List StoreEvent} {c : ClientId}

theorem Recorded.namesFaithful (h : Recorded c history (store.get c)) :
    NamesFaithful c store history := by
  have hget : ∀ {m}, store.get c = some m →
      ∃ since, LastCreated c history m.clientHandlerName since ∧
        m.destinationHandlerName = lastAssigned c since := by
    intro m hm
    obtain ⟨name, since, hlast⟩ := h.created m hm
    obtain ⟨m', hm', rfl, -, ha⟩ := h.fields name since hlast
    obtain rfl : m = m' := Option.some.inj (hm.symm.trans hm')
    exact ⟨since, hlast, ha⟩
  constructor
  · unfold hasClient
    rw [Option.isSome_iff_exists]
    constructor
    · rintro ⟨m, hm⟩
      exact h.created m hm
    · rintro ⟨name, since, hlast⟩
      obtain ⟨m, hm, -⟩ := h.fields name since hlast
      exact ⟨m, hm⟩
  · intro name
    unfold getClientHandlerName
    constructor
    · intro hok
      split at hok <;> cases hok
      next m hm =>
      obtain ⟨since, hlast, -⟩ := hget hm
      exact ⟨since, hlast⟩
    · rintro ⟨since, hlast⟩
      obtain ⟨m, hm, rfl, -⟩ := h.fields name since hlast
      rw [hm]
  · intro name
    unfold getDestinationHandlerName
    constructor
    · intro hok
      split at hok <;> cases hok
      next m hm =>
      obtain ⟨since, hlast, ha⟩ := hget hm
      exact ⟨_, since, hlast, ha⟩
    · rintro ⟨clientName, since, hlast, rfl⟩
      obtain ⟨m, hm, -, -, ha⟩ := h.fields clientName since hlast
      rw [hm, ← ha]

theorem isConnected_eq : store.isConnected c = store.hasClient c := by
  unfold isConnected hasClient
  split <;> simp [*]

theorem Recorded.isConnectedFaithful_iff (h : Recorded c history (store.get c)) :
    IsConnectedFaithful c store history ↔ Settled c history := by
  unfold IsConnectedFaithful
  rw [isConnected_eq, h.namesFaithful.hasClient]
  constructor
  · intro hfaithful name since hlast
    obtain ⟨name', since', hlast', hconnected⟩ := hfaithful.mp ⟨name, since, hlast⟩
    obtain ⟨m, hm, -, hc, -⟩ := h.fields name since hlast
    obtain ⟨m', hm', -, hc', -⟩ := h.fields name' since' hlast'
    obtain rfl : m = m' := Option.some.inj (hm.symm.trans hm')
    exact hc.mp (hc'.mpr hconnected)
  · intro hsettled
    constructor
    · rintro ⟨name, since, hlast⟩
      exact ⟨name, since, hlast, hsettled name since hlast⟩
    · rintro ⟨name, since, hlast, -⟩
      exact ⟨name, since, hlast⟩

end

/-- After any sequence of operations on an empty store, the queries about a client are faithful to
the history exactly if the client is not waiting for its `Connect`; only `IsConnected` depends on
that. -/
theorem queries_faithful (maxConnections : Nat) (ops : List StoreOp) (c : ClientId) :
    let (store, history) := StoreOp.run ops (createClientStore maxConnections) []
    NamesFaithful c store history ∧
    (NamesFaithful c store history ∧ IsConnectedFaithful c store history ↔ Settled c history) := by
  have hempty : ∀ d, Recorded d [] ((createClientStore maxConnections).get d) := fun d => by
    rw [get_createClientStore]
    exact recorded_nil
  have hrecorded := recorded_run ops hempty c
  exact ⟨hrecorded.namesFaithful,
    (and_iff_right hrecorded.namesFaithful).trans hrecorded.isConnectedFaithful_iff⟩

/-- `IsConnected` returns `true` for a client that was created and nothing else. -/
theorem isConnected_after_createClient :
    let (store, history) := StoreOp.run [.createClient 1 "WebSocket" 0] (createClientStore 1) []
    store.isConnected 1 = true ∧ ¬IsConnectedFaithful 1 store history := by
  have hconnected : (StoreOp.run [.createClient 1 "WebSocket" 0] (createClientStore 1)
      []).1.isConnected 1 = true := by decide
  have hhistory : (StoreOp.run [.createClient 1 "WebSocket" 0] (createClientStore 1) []).2 =
      [.created 1 "WebSocket"] := by decide
  refine ⟨hconnected, fun hfaithful => ?_⟩
  obtain ⟨name, since, ⟨before, heq, -⟩, hmem⟩ := hfaithful.mp hconnected
  have hin : .connected 1 ∈ [StoreEvent.created 1 "WebSocket"] := by
    rw [hhistory.symm.trans heq]
    exact List.mem_append_right _ (List.mem_cons_of_mem _ hmem)
  simp at hin

end Spanreed
