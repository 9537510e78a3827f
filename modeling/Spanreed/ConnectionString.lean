import Spanreed.System
import Spanreed.HubFacts

/-! # Connection strings

A client's connection string is cut at fixed places three times: at 4 by the match function and by
the host resolution of the UDP handler, at 32 by the error of a request that nothing matches.
`connection_string_safe_iff` says for which strings all cuts are in range. -/

namespace Spanreed
open Flatbuffers Automata

/-! ## The cuts -/

section
variable {s : Bytes}

theorem range_zero_eq {n : Nat} (h : n ≤ s.length) :
    ∃ b, (Slice.ofBytes s).range 0 n = some b ∧ b.bytes = s.take n := by
  have hle : 0 ≤ n ∧ n ≤ (Slice.ofBytes s).array.length := ⟨Nat.zero_le n, h⟩
  unfold Slice.range
  rw [dif_pos hle]
  exact ⟨_, rfl, by simp [Slice.bytes, Slice.ofBytes]⟩

theorem range_zero_eq_none {n : Nat} (h : s.length < n) : (Slice.ofBytes s).range 0 n = none := by
  have hle : ¬(0 ≤ n ∧ n ≤ (Slice.ofBytes s).array.length) := fun hle => absurd hle.2 (by
    simpa [Slice.ofBytes] using h)
  unfold Slice.range
  rw [dif_neg hle]

/-- The first four bytes are `udp:` exactly if the string starts with it. -/
theorem take_eq_udpScheme : s.take 4 = udpScheme ↔ udpScheme <+: s := by
  rw [List.prefix_iff_eq_take, eq_comm]
  rfl

theorem length_of_udpScheme (h : udpScheme <+: s) : 4 ≤ s.length := h.length_le

theorem match_eq : defaultUdpDestinationHandlerMatchConnectionStringFn s =
    if s.length < 4 then none else some (decide (udpScheme <+: s)) := by
  unfold defaultUdpDestinationHandlerMatchConnectionStringFn
  split
  · next h => rw [range_zero_eq_none h]; rfl
  · next h =>
    obtain ⟨b, hb, hbytes⟩ := range_zero_eq (Nat.le_of_not_lt h)
    rw [hb]
    simp only [Option.bind_eq_bind, Option.bind_some, Option.pure_def, hbytes, beq_eq_decide,
      take_eq_udpScheme]

theorem match_eq_true :
    defaultUdpDestinationHandlerMatchConnectionStringFn s = some true ↔ udpScheme <+: s := by
  rw [match_eq]
  split
  · next h =>
    have hno : ¬udpScheme <+: s := fun hs => absurd (length_of_udpScheme hs) (Nat.not_le.mpr h)
    simp [hno]
  · simp

/-- The host is what follows `udp:`. -/
theorem defaultHostResolution_eq (h : udpScheme <+: s) :
    defaultHostResolution s = some (.ok (s.drop 4)) := by
  have hlen := length_of_udpScheme h
  obtain ⟨b, hb, hbytes⟩ := range_zero_eq hlen
  have hscheme : b.bytes = udpScheme := hbytes.trans (take_eq_udpScheme.mpr h)
  have hdrop : ∃ b', (Slice.ofBytes s).drop 4 = some b' ∧ b'.bytes = s.drop 4 := by
    simp [Slice.drop, Slice.ofBytes, Slice.bytes, hlen]
  obtain ⟨b', hb', hrest⟩ := hdrop
  simp [defaultHostResolution, hb, hscheme, hb', hrest]

theorem noMatch_renders :
    (GoError.noMatchingHandlerForConnectionString s).error.isSome ↔ 32 ≤ s.length := by
  by_cases h : 32 ≤ s.length
  · obtain ⟨b, hb, -⟩ := range_zero_eq h
    simp [GoError.error, hb, h]
  · simp [GoError.error, range_zero_eq_none (Nat.lt_of_not_le h), h]

/-- With default match functions the first handler decides. -/
theorem firstMatch_eq {handlers : List DestinationHandler}
    (hdefault : ∀ handler ∈ handlers, handler.matchConnectionString =
      defaultUdpDestinationHandlerMatchConnectionStringFn) :
    firstMatch s handlers =
      if handlers = [] then some none
      else if s.length < 4 then none
      else if udpScheme <+: s then some (handlers.head?.map (·.name))
      else some none := by
  induction handlers with
  | nil => rfl
  | cons handler handlers ih =>
    have ih := ih fun handler hmem => hdefault handler (List.mem_cons_of_mem _ hmem)
    rw [firstMatch, hdefault handler List.mem_cons_self, match_eq]
    by_cases hlen : s.length < 4
    · simp [hlen]
    by_cases hs : udpScheme <+: s
    · simp [hlen, hs]
    · simp only [hlen, hs, if_false, ite_self, decide_false] at ih ⊢
      rw [ih]

end

/-! ## Requests -/

namespace Hub
variable {h : Hub} {m : OpenClientConnectionCommand}

/-- `handleClientConnectionRequestMessage` if no other goroutine gets in between: the error it
returns or the name of the handler it attaches, if any. `none` is a panic. -/
def handleClientConnectionRequestMessage (h : Hub) (m : OpenClientConnectionCommand) :
    Option (Except GoError (Option String)) :=
  match h.clientStore.getDestinationHandlerName m.clientId with
  | .error err => some (.error err)
  | .ok rsl =>
    if rsl ≠ "" then some (.ok none)
    else
      match firstMatch m.connectionString h.connectedDestinationHandlers with
      | none => none
      | some none => some (.error (.noMatchingHandlerForConnectionString m.connectionString))
      | some (some name) =>
        if name ∉ h.destinationHandlers then some (.error (.missingDestinationHandler name))
        else some (.ok (some name))

/-- Where the client goroutine is after the request. -/
def afterRequest (m : OpenClientConnectionCommand) (dequeTimestamp : Timestamp) :
    Except GoError (Option String) → HubPc
  | .ok none => .select
  | .ok (some name) => .reqSend { m with routeTimestamp := dequeTimestamp } name
  | .error (.missingClientId _) => .select
  | .error err => .kickClientName m.clientId (some err) .select

theorem destinationRLock_goto (hlock : h.DestinationRLock) {pc : HubPc}
    (hpc : pc.writesDestinationChannels = false) : (h.goto .client pc).DestinationRLock := by
  intro g
  by_cases hg : g = .client
  · subst hg; simpa using hpc
  · simpa [hg] using hlock g

/-- Left alone, the client goroutine takes a request to where the call leads ... -/
theorem request_run (hpc : h.pc .client = .reqNow m) (hlock : h.DestinationRLock)
    {r : Except GoError (Option String)} (hr : h.handleClientConnectionRequestMessage m = some r) :
    ∃ tr, automaton.Admits h tr ∧ (automaton.exec h tr).pc .client = afterRequest m h.now r := by
  unfold handleClientConnectionRequestMessage ClientStore.getDestinationHandlerName at hr
  cases hget : h.clientStore.get m.clientId with
  | none =>
    simp only [hget] at hr
    cases hr
    refine ⟨[.reqNow m, .reqNoClient m h.now], ?_, ?_⟩ <;>
      simp [Automaton.Admits, Automaton.exec, automaton, enabled, next, hpc, hget, afterRequest]
  | some connection =>
    simp only [hget] at hr
    split at hr
    · next hattached =>
      cases hr
      refine ⟨[.reqNow m, .reqDuplicate m h.now connection.destinationHandlerName], ?_, ?_⟩ <;>
        simp [Automaton.Admits, Automaton.exec, automaton, enabled, next, hpc, hget, hattached,
          afterRequest]
    next hfree =>
    have hfree : connection.destinationHandlerName = "" := by simpa using hfree
    cases hmatch : firstMatch m.connectionString h.connectedDestinationHandlers with
    | none => simp only [hmatch] at hr; cases hr
    | some o =>
      cases o with
      | none =>
        simp only [hmatch] at hr
        cases hr
        refine ⟨[.reqNow m, .reqName m h.now, .reqNoMatch m h.now], ?_, ?_⟩ <;>
          simp [Automaton.Admits, Automaton.exec, automaton, enabled, next, hpc, hget, hfree,
            hmatch, afterRequest]
      | some name =>
        simp only [hmatch] at hr
        have hlock' : (((h.goto .client (.reqName m h.now)).goto .client (.reqMatch m h.now)).goto
            .client (.reqLookup m h.now name)).DestinationRLock :=
          destinationRLock_goto (destinationRLock_goto (destinationRLock_goto hlock rfl) rfl) rfl
        split at hr
        · next hno =>
          cases hr
          refine ⟨[.reqNow m, .reqName m h.now, .reqMatch m h.now name,
            .reqNoHandler m h.now name], ?_, ?_⟩ <;>
            simp [Automaton.Admits, Automaton.exec, automaton, enabled, next, hpc, hget, hfree,
              hmatch, hno, hlock', afterRequest]
        · next hhas =>
          cases hr
          refine ⟨[.reqNow m, .reqName m h.now, .reqMatch m h.now name, .reqLookup m h.now name,
            .reqAttach m h.now name], ?_, ?_⟩ <;>
            simp [Automaton.Admits, Automaton.exec, automaton, enabled, next, hpc, hget, hfree,
              hmatch, not_not.mp hhas, hlock', afterRequest]

/-- ... and to the match function if the call panics. -/
theorem request_panics (hpc : h.pc .client = .reqNow m)
    (hr : h.handleClientConnectionRequestMessage m = none) :
    ∃ tr, automaton.Admits h tr ∧ (automaton.exec h tr).pc .client = .reqMatch m h.now ∧
      firstMatch m.connectionString (automaton.exec h tr).connectedDestinationHandlers = none := by
  unfold handleClientConnectionRequestMessage ClientStore.getDestinationHandlerName at hr
  cases hget : h.clientStore.get m.clientId with
  | none => simp [hget] at hr
  | some connection =>
    simp only [hget] at hr
    split at hr
    · cases hr
    next hfree =>
    have hfree : connection.destinationHandlerName = "" := by simpa using hfree
    have hmatch : firstMatch m.connectionString h.connectedDestinationHandlers = none := by
      split at hr
      · assumption
      · cases hr
      · split at hr <;> cases hr
    refine ⟨[.reqNow m, .reqName m h.now], ?_, ?_⟩ <;>
      simp [Automaton.Admits, Automaton.exec, automaton, enabled, next, hpc, hget, hfree, hmatch]

/-- Every cut of a connection string on its way through the hub and the UDP handler is in range,
the match functions select the strings that start with `udp:`, and the host is the rest. -/
structure RequestSafe (h : Hub) (m : OpenClientConnectionCommand) : Prop where
  returns : (h.handleClientConnectionRequestMessage m).isSome
  renders : ∀ err, h.handleClientConnectionRequestMessage m = some (.error err) → err.error.isSome
  resolves : ∀ name, h.handleClientConnectionRequestMessage m = some (.ok (some name)) →
    (defaultHostResolution m.connectionString).isSome
  matched : ∀ handler ∈ h.connectedDestinationHandlers,
    handler.matchConnectionString m.connectionString = some true ↔ udpScheme <+: m.connectionString
  remainder : ∀ handler ∈ h.connectedDestinationHandlers,
    handler.matchConnectionString m.connectionString = some true →
      defaultHostResolution m.connectionString = some (.ok (m.connectionString.drop 4))

/-- All destination handlers match with the default function. -/
def DefaultMatching (h : Hub) : Prop :=
  ∀ handler ∈ h.connectedDestinationHandlers, handler.matchConnectionString =
    defaultUdpDestinationHandlerMatchConnectionStringFn

/-- The string is long enough for the error, or something matches it. -/
def Renderable (h : Hub) (s : Bytes) : Prop :=
  32 ≤ s.length ∨ h.connectedDestinationHandlers ≠ [] ∧ udpScheme <+: s

/-- The part of a request that comes after the record of the client was read. -/
theorem match_safe_iff (hdefault : h.DefaultMatching) (s : Bytes) :
    ((firstMatch s h.connectedDestinationHandlers).isSome ∧
      (firstMatch s h.connectedDestinationHandlers = some none →
        (GoError.noMatchingHandlerForConnectionString s).error.isSome)) ↔ h.Renderable s := by
  rw [firstMatch_eq hdefault, noMatch_renders]
  unfold Renderable
  by_cases hnil : h.connectedDestinationHandlers = []
  · simp [hnil]
  by_cases hs : udpScheme <+: s
  · have hlen : ¬s.length < 4 := Nat.not_lt.mpr (length_of_udpScheme hs)
    simp [hnil, hlen, hs]
  by_cases hlen : s.length < 4
  · have h32 : ¬32 ≤ s.length := by omega
    simp [hnil, hlen, hs, h32]
  · simp [hnil, hlen, hs]

/-- The call comes to the match functions for a client that is not attached yet. -/
theorem handle_eq_of_free {connection : ClientConnectionMetadata}
    (hget : h.clientStore.get m.clientId = some connection)
    (hfree : connection.destinationHandlerName = "") :
    h.handleClientConnectionRequestMessage m =
      (firstMatch m.connectionString h.connectedDestinationHandlers).map fun
        | none => .error (.noMatchingHandlerForConnectionString m.connectionString)
        | some name =>
          if name ∉ h.destinationHandlers then .error (.missingDestinationHandler name)
          else .ok (some name) := by
  unfold handleClientConnectionRequestMessage ClientStore.getDestinationHandlerName
  simp only [hget, hfree, ne_eq, not_true_eq_false, if_false]
  cases firstMatch m.connectionString h.connectedDestinationHandlers with
  | none => rfl
  | some o =>
    cases o with
    | none => rfl
    | some name => simp only [Option.map_some]; split <;> rfl

/-- For another client it returns before. -/
theorem handle_eq_of_not_free (hno : ∀ connection, h.clientStore.get m.clientId = some connection →
      connection.destinationHandlerName ≠ "") :
    h.handleClientConnectionRequestMessage m = some (.error (.missingClientId m.clientId)) ∨
      h.handleClientConnectionRequestMessage m = some (.ok none) := by
  unfold handleClientConnectionRequestMessage ClientStore.getDestinationHandlerName
  cases hget : h.clientStore.get m.clientId with
  | none => exact .inl rfl
  | some connection => simp [hno connection hget]

/-- Handling is safe once the match functions are. -/
theorem requestSafe_of_renderable (hdefault : h.DefaultMatching)
    {connection : ClientConnectionMetadata}
    (hget : h.clientStore.get m.clientId = some connection)
    (hfree : connection.destinationHandlerName = "") (hs : h.Renderable m.connectionString) :
    (h.handleClientConnectionRequestMessage m).isSome ∧
    (∀ err, h.handleClientConnectionRequestMessage m = some (.error err) → err.error.isSome) ∧
    ∀ name, h.handleClientConnectionRequestMessage m = some (.ok (some name)) →
      (defaultHostResolution m.connectionString).isSome := by
  obtain ⟨hsome, hrenders⟩ := (match_safe_iff hdefault _).mpr hs
  obtain ⟨o, ho⟩ := Option.isSome_iff_exists.mp hsome
  rw [handle_eq_of_free hget hfree, ho]
  cases o with
  | none =>
    refine ⟨rfl, ?_, ?_⟩
    · intro err herr
      cases herr
      exact hrenders ho
    · intro name hname
      cases hname
  | some name =>
    refine ⟨rfl, ?_, ?_⟩
    · intro err herr
      simp only [Option.map_some] at herr
      split at herr <;> cases herr
      rfl
    · intro _ _
      -- a string that was matched starts with the scheme
      rw [firstMatch_eq hdefault] at ho
      have hprefix : udpScheme <+: m.connectionString := by
        split at ho
        · cases ho
        split at ho
        · cases ho
        split at ho
        · assumption
        · cases ho
      rw [defaultHostResolution_eq hprefix]
      rfl

/-- A request is safe exactly if its client is unknown or attached already, or if its connection
string has 32 bytes or starts with `udp:` for some handler to match it. Where the goroutine was
interrupted after it read the client's record, the string alone decides. -/
theorem connection_string_safe_iff (hdefault : h.DefaultMatching)
    (m : OpenClientConnectionCommand) :
    (h.RequestSafe m ↔
      ∀ connection, h.clientStore.get m.clientId = some connection →
        connection.destinationHandlerName = "" → h.Renderable m.connectionString) ∧
    ∀ t, h.pc .client = .reqMatch m t →
      (((∃ name, h.enabled (.reqMatch m t name)) ∨ h.enabled (.reqNoMatch m t)) ∧
        (h.enabled (.reqNoMatch m t) →
          (GoError.noMatchingHandlerForConnectionString m.connectionString).error.isSome) ↔
        h.Renderable m.connectionString) := by
  have hiff : ∀ handler ∈ h.connectedDestinationHandlers,
      handler.matchConnectionString m.connectionString = some true ↔
        udpScheme <+: m.connectionString := by
    intro handler hmem
    rw [hdefault handler hmem]
    exact match_eq_true
  refine ⟨⟨?_, ?_⟩, ?_⟩
  · intro hsafe connection hget hfree
    have heq := handle_eq_of_free hget hfree
    refine (match_safe_iff hdefault _).mp ⟨?_, ?_⟩
    · have hsome := hsafe.returns
      rwa [heq, Option.isSome_map] at hsome
    · intro hnone
      refine hsafe.renders _ ?_
      rw [heq, hnone]
      rfl
  · intro hcond
    have hrest : ∀ handler ∈ h.connectedDestinationHandlers,
        handler.matchConnectionString m.connectionString = some true →
          defaultHostResolution m.connectionString = some (.ok (m.connectionString.drop 4)) :=
      fun handler hmem hmatch => defaultHostResolution_eq ((hiff handler hmem).mp hmatch)
    by_cases hfree : ∃ connection, h.clientStore.get m.clientId = some connection ∧
        connection.destinationHandlerName = ""
    · obtain ⟨connection, hget, hfree⟩ := hfree
      obtain ⟨hreturns, hrenders, hresolves⟩ :=
        requestSafe_of_renderable hdefault hget hfree (hcond connection hget hfree)
      exact ⟨hreturns, hrenders, hresolves, hiff, hrest⟩
    · have hno : ∀ connection, h.clientStore.get m.clientId = some connection →
          connection.destinationHandlerName ≠ "" :=
        fun connection hget hfree' => hfree ⟨connection, hget, hfree'⟩
      rcases handle_eq_of_not_free hno with heq | heq
      · exact ⟨by rw [heq]; rfl, by rw [heq]; rintro err ⟨⟩; rfl, by rw [heq]; simp, hiff, hrest⟩
      · exact ⟨by rw [heq]; rfl, by rw [heq]; simp, by rw [heq]; simp, hiff, hrest⟩
  · intro t hpc
    rw [← match_safe_iff hdefault]
    simp only [enabled, hpc, true_and]
    cases firstMatch m.connectionString h.connectedDestinationHandlers with
    | none => simp
    | some o => cases o <;> simp

/-- A hub with the UDP handler, right after client 1 got its id. -/
def oneClient : Hub :=
  automaton.exec (start {} 512 ["WebSocket"] [⟨"UdpDestination",
      defaultUdpDestinationHandlerMatchConnectionStringFn⟩])
    [.getNewClientId "WebSocket" 1, .callbackNow "WebSocket" 1, .createClient "WebSocket" 1 0]

theorem defaultMatching_oneClient : oneClient.DefaultMatching := by
  intro handler hmem
  have hmem : handler ∈ [(⟨"UdpDestination",
      defaultUdpDestinationHandlerMatchConnectionStringFn⟩ : DestinationHandler)] := hmem
  rw [List.mem_singleton.mp hmem]

theorem connection_string_safe_sample : oneClient.RequestSafe Sample.openCommand :=
  (connection_string_safe_iff defaultMatching_oneClient Sample.openCommand).1.mpr
    fun _ _ _ => .inr ⟨List.cons_ne_nil _ _, by decide⟩

/-- A client that sends no connection string breaks the hub. -/
theorem absent_connection_string_breaks_hub :
    ¬∀ (config : HubConfig) (maxConnections : Nat) (clientHandlers : List String)
      (handlers : List DestinationHandler) (tr : List HubEvent) (h : Hub),
      automaton.Run (start config maxConnections clientHandlers handlers) tr h →
        h.DefaultMatching → ∀ m, h.RequestSafe m := by
  intro hall
  have hrun : automaton.Run (start {} 512 ["WebSocket"] [⟨"UdpDestination",
      defaultUdpDestinationHandlerMatchConnectionStringFn⟩]) _ oneClient :=
    Automaton.Admits.run (by decide +kernel)
  have h := (hall _ _ _ _ _ _ hrun defaultMatching_oneClient
    ⟨1, 0, 0, goString none, none⟩).returns
  exact absurd h (by decide +kernel)

end Hub

end Spanreed
