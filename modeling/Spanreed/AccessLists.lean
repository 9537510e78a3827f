import Spanreed.ConnectionString
import Spanreed.UdpFacts

/-! # Access lists

`main` splits four environment variables at commas; the lists are tested by the `CheckOrigin`
functions of the WebSocket and the WebTransport handler and by `isDestinationAllowed`. Splitting an
empty string gives a list with one entry, the empty string, so a list that is not configured has an
opinion about requests without `Origin` header and about the connection string `udp:`. `Unaffected`
says when it changes nothing (`access_lists`). -/

namespace Spanreed
open Flatbuffers

/-! ## Comma-separated lists -/

def comma : UInt8 := 0x2c

/-- `strings.Split(s, ",")` -/
def split (s : Bytes) : List Bytes := s.splitOn comma

/-- `e` is an entry of the comma-separated list `s`. The empty string is the empty list. -/
def IsEntry (e s : Bytes) : Prop :=
  s ≠ [] ∧ ∃ entries : List Bytes,
    entries ≠ [] ∧ (∀ e ∈ entries, comma ∉ e) ∧ [comma].intercalate entries = s ∧ e ∈ entries

/-- No part of a list that is split contains what it is split at. -/
theorem not_mem_of_mem_splitOn {α : Type} [BEq α] [LawfulBEq α] {a : α} {l part : List α}
    (h : part ∈ l.splitOn a) : a ∉ part := by
  induction l generalizing part with
  | nil =>
    rw [List.splitOn_nil, List.mem_singleton] at h
    simp [h]
  | cons x l ih =>
    rw [List.splitOn_cons_eq_if_modifyHead] at h
    split at h
    · rcases List.mem_cons.mp h with rfl | h
      · exact List.not_mem_nil
      · exact ih h
    · next hx =>
      obtain ⟨first, rest, hsplit⟩ := List.exists_cons_of_ne_nil (List.splitOn_ne_nil a l)
      rw [hsplit, List.modifyHead_cons] at h
      rcases List.mem_cons.mp h with rfl | h
      · have hfirst : a ∉ first := ih (by rw [hsplit]; exact List.mem_cons_self)
        have hne : a ≠ x := fun h => hx (by simp [h])
        simp [hne, hfirst]
      · exact ih (by rw [hsplit]; exact List.mem_cons_of_mem _ h)

theorem isEntry_iff {e s : Bytes} : IsEntry e s ↔ s ≠ [] ∧ e ∈ split s := by
  refine and_congr_right fun _ => ⟨?_, fun he => ?_⟩
  · rintro ⟨entries, hne, hcomma, rfl, he⟩
    unfold split
    rwa [List.splitOn_intercalate comma hcomma hne]
  · exact ⟨split s, List.splitOn_ne_nil comma s, fun _ => not_mem_of_mem_splitOn,
      List.intercalate_splitOn comma, he⟩

theorem split_nil : split [] = [[]] := List.splitOn_nil comma

theorem not_isEntry_nil {e : Bytes} : ¬IsEntry e [] := fun h => h.1 rfl

/-! ## What is configured and what is tested -/

/-- The environment variables that `main` makes lists of; one that is not set is empty. -/
structure Environment where
  allowAllHosts : Bool
  forbiddenHosts : Bytes
  allowedHosts : Bytes
  allowAllDestinations : Bool
  allowedDestinations : Bytes
  forbiddenDestinations : Bytes

structure WebsocketSpanreedClientParams where
  allowAllHosts : Bool
  allowlistedHosts : List Bytes
  denylistedHosts : List Bytes

structure WebtransportSpanreedClientParams where
  allowAllHosts : Bool
  allowlistedHosts : List Bytes
  denylistedHosts : List Bytes

/-- The body of both `CheckOrigin` functions. `r.Header.Get` gives the empty string for a header
that is absent. -/
def checkOrigin (allowAllHosts : Bool) (allowlistedHosts denylistedHosts : List Bytes)
    (originHeader : Option Bytes) : Bool :=
  let origin := originHeader.getD []
  if contains origin denylistedHosts then false
  else if allowAllHosts then true
  else contains origin allowlistedHosts

def WebsocketSpanreedClientParams.checkOrigin (params : WebsocketSpanreedClientParams)
    (originHeader : Option Bytes) : Bool :=
  Spanreed.checkOrigin params.allowAllHosts params.allowlistedHosts params.denylistedHosts
    originHeader

def WebtransportSpanreedClientParams.checkOrigin (params : WebtransportSpanreedClientParams)
    (originHeader : Option Bytes) : Bool :=
  Spanreed.checkOrigin params.allowAllHosts params.allowlistedHosts params.denylistedHosts
    originHeader

namespace Environment
variable (env : Environment)

def websocketParams : WebsocketSpanreedClientParams where
  allowAllHosts := env.allowAllHosts
  allowlistedHosts := split env.allowedHosts
  denylistedHosts := split env.forbiddenHosts

def webtransportParams : WebtransportSpanreedClientParams where
  allowAllHosts := env.allowAllHosts
  allowlistedHosts := split env.allowedHosts
  denylistedHosts := split env.forbiddenHosts

/-- No `ResolveUdpHost` is given, so it is the default. -/
def udpParams (resolveUDPAddr : Bytes → Except GoError UDPAddr) : UdpSpanreedDestinationParams where
  allowAllDestinations := env.allowAllDestinations
  allowlistedDestinations := split env.allowedDestinations
  denylistedDestinations := split env.forbiddenDestinations
  resolveUdpHost := defaultHostResolution
  resolveUDPAddr := resolveUDPAddr

end Environment

/-- The test of an origin is that of a destination. -/
theorem checkOrigin_eq {allowAll : Bool} {allowlist denylist : List Bytes}
    {originHeader : Option Bytes} : checkOrigin allowAll allowlist denylist originHeader =
      isDestinationAllowed allowAll allowlist denylist (originHeader.getD []) := rfl

/-! ## What the lists say -/

section
variable (allowAll : Bool) (allowed forbidden s : Bytes)

/-- What the configuration says about `s`. -/
def Admitted : Prop := ¬IsEntry s forbidden ∧ (allowAll = true ∨ IsEntry s allowed)

/-- A list that is not configured does not change the answer for `s`: `s` is not empty; or nothing
is forbidden and the empty string is not allowed anyway, or something is forbidden and, if nothing
is allowed, the empty string is allowed anyway or forbidden. -/
def Unaffected : Prop :=
  s ≠ [] ∨
    (forbidden = [] → allowAll = false ∧ ¬IsEntry [] allowed) ∧
    (forbidden ≠ [] → allowed = [] → allowAll = true ∨ IsEntry [] forbidden)

end

section
variable {allowAll : Bool} {allowed forbidden s : Bytes}

/-- The code tests an entry of a list that is not empty. -/
theorem mem_split_of_ne (h : s ≠ []) {list : Bytes} : s ∈ split list ↔ IsEntry s list := by
  rw [isEntry_iff]
  by_cases hlist : list = []
  · simp [hlist, split_nil, h]
  · simp [hlist]

theorem isDestinationAllowed_split_iff :
    (isDestinationAllowed allowAll (split allowed) (split forbidden) s = true ↔
      Admitted allowAll allowed forbidden s) ↔ Unaffected allowAll allowed forbidden s := by
  rw [isDestinationAllowed_eq_true]
  unfold Admitted Unaffected
  by_cases hs : s = []
  swap
  · simp [mem_split_of_ne hs, hs]
  subst hs
  by_cases hf : forbidden = []
  · simp [hf, split_nil, not_isEntry_nil]
  · have hforbidden : [] ∈ split forbidden ↔ IsEntry [] forbidden := by simp [isEntry_iff, hf]
    by_cases ha : allowed = []
    · by_cases hentry : IsEntry [] forbidden
      · simp [hforbidden, hf, hentry]
      · simp [ha, split_nil, hforbidden, not_isEntry_nil, hf, hentry]
    · have hallowed : [] ∈ split allowed ↔ IsEntry [] allowed := by simp [isEntry_iff, ha]
      simp [hf, ha, hforbidden, hallowed]

end

/-- The three tests admit what the configuration says exactly if a list that is not configured does
not change the answer. The hosts of destinations are those of connection strings with `udp:`. -/
theorem access_lists (env : Environment) (resolveUDPAddr : Bytes → Except GoError UDPAddr) :
    (∀ originHeader : Option Bytes,
      (env.websocketParams.checkOrigin originHeader = true ↔
        Admitted env.allowAllHosts env.allowedHosts env.forbiddenHosts (originHeader.getD [])) ↔
      Unaffected env.allowAllHosts env.allowedHosts env.forbiddenHosts (originHeader.getD [])) ∧
    (∀ originHeader : Option Bytes,
      (env.webtransportParams.checkOrigin originHeader = true ↔
        Admitted env.allowAllHosts env.allowedHosts env.forbiddenHosts (originHeader.getD [])) ↔
      Unaffected env.allowAllHosts env.allowedHosts env.forbiddenHosts (originHeader.getD [])) ∧
    ∀ host : Bytes,
      (env.udpParams resolveUDPAddr).resolveUdpHost (udpScheme ++ host) = some (.ok host) ∧
      ((isDestinationAllowed (env.udpParams resolveUDPAddr).allowAllDestinations
          (env.udpParams resolveUDPAddr).allowlistedDestinations
          (env.udpParams resolveUDPAddr).denylistedDestinations host = true ↔
        Admitted env.allowAllDestinations env.allowedDestinations env.forbiddenDestinations host) ↔
      Unaffected env.allowAllDestinations env.allowedDestinations env.forbiddenDestinations
        host) := by
  refine ⟨fun originHeader => ?_, fun originHeader => ?_, fun host => ⟨?_, ?_⟩⟩
  · rw [WebsocketSpanreedClientParams.checkOrigin, checkOrigin_eq]
    exact isDestinationAllowed_split_iff
  · rw [WebtransportSpanreedClientParams.checkOrigin, checkOrigin_eq]
    exact isDestinationAllowed_split_iff
  · exact defaultHostResolution_eq (List.prefix_append _ _)
  · exact isDestinationAllowed_split_iff

/-- All hosts are allowed and no list is configured: a request without `Origin` header is refused.
Only the host `x` is forbidden and none is allowed: the same request is admitted. -/
theorem absent_origin_misjudged :
    ¬((Environment.websocketParams ⟨true, [], [], true, [], []⟩).checkOrigin none = true ↔
      Admitted true [] [] []) ∧
    ¬((Environment.websocketParams ⟨false, [0x78], [], true, [], []⟩).checkOrigin none = true ↔
      Admitted false [] [0x78] []) := by
  have hrefused : (Environment.websocketParams ⟨true, [], [], true, [], []⟩).checkOrigin none
      = false := by decide
  have hadmitted : (Environment.websocketParams ⟨false, [0x78], [], true, [], []⟩).checkOrigin none
      = true := by decide
  constructor
  · simp [hrefused, Admitted, not_isEntry_nil]
  · simp [hadmitted, Admitted, not_isEntry_nil]

end Spanreed
