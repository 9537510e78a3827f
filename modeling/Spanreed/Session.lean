import Spanreed.Handlers
import Spanreed.Lib.Automaton

/-! # The session of a client

What the proxy is for, seen from one client and its destination: a protocol of its own, without
channels, goroutines and records. A client gets an id and a connection, asks for a destination
once, and is told once whether it may come in. Its destination is asked in its name with the app
data of its request, is sent data only after it was asked and never after it was told that the
client is gone, and is listened to only while the client is listed. Data goes both ways only once
the client has been told that it is accepted, which happens only if a datagram accepted it; it
keeps its order, and some of it may be lost.

`Spanreed.SessionRefinement` shows that the hub with its routers and its UDP handler keeps to this
protocol for every client. -/

namespace Spanreed
open Flatbuffers Automata

/-- How far the client has got. -/
inductive ClientStage
  | absent
  | allocated
  | opened
  | requested
  | told (accepted : Bool)
deriving DecidableEq

/-- How far the proxy has got with the client's destination. -/
inductive BackendStage
  | idle
  | attached
  | refused
  | registered
  | asked
  | closed
deriving DecidableEq

structure Session where
  client : ClientStage := .absent
  /-- The app data of the client's request. -/
  request : Option Bytes := none
  backend : BackendStage := .idle
  /-- Datagrams that name the client are listened to. -/
  listed : Bool := false
  /-- A datagram has accepted the client. -/
  accepted : Bool := false
  sent : List (Option Bytes) := []
  delivered : List (Option Bytes) := []
  received : List (Option Bytes) := []
  handed : List (Option Bytes) := []
deriving DecidableEq

inductive SessionEvent
  -- the client's id, its connection, its first packet and the verdict it is handed
  | allocate
  | openConnection
  | request (appData : Option Bytes)
  | tell (accepted : Bool)
  -- the destination: attached, refused or registered, asked, told that the client is gone
  | attach
  | refuse
  | register
  | ask (appData : Option Bytes)
  | close
  | unlist
  | accept
  -- from the client's transport to datagrams, and back
  | send (data : Option Bytes)
  | deliver (data : Option Bytes)
  | receive (data : Option Bytes)
  | hand (data : Option Bytes)
deriving DecidableEq

namespace SessionEvent

def sentData : SessionEvent → Option (Option Bytes)
  | .send d => some d
  | _ => none

def deliveredData : SessionEvent → Option (Option Bytes)
  | .deliver d => some d
  | _ => none

def receivedData : SessionEvent → Option (Option Bytes)
  | .receive d => some d
  | _ => none

def handedData : SessionEvent → Option (Option Bytes)
  | .hand d => some d
  | _ => none

end SessionEvent

namespace Session

def enabled (s : Session) : SessionEvent → Prop
  | .allocate => s.client = .absent
  | .openConnection => s.client = .allocated
  | .request _ => s.client = .opened
  | .tell accepted => s.client = .requested ∧ (accepted = true → s.accepted = true)
  | .attach => (s.client = .requested ∨ ∃ accepted, s.client = .told accepted) ∧ s.backend = .idle
  | .refuse | .register => s.backend = .attached
  | .ask appData => s.backend = .registered ∧ appData = s.request
  | .close => s.backend = .asked
  | .unlist => True
  | .accept | .receive _ => s.listed = true
  | .send _ => s.client = .told true
  | .deliver d => s.backend = .asked ∧ (s.delivered ++ [d]).Sublist s.sent
  | .hand d => s.client = .told true ∧ (s.handed ++ [d]).Sublist s.received

def next (s : Session) : SessionEvent → Session
  | .allocate => { s with client := .allocated }
  | .openConnection => { s with client := .opened }
  | .request appData => { s with client := .requested, request := appData }
  | .tell accepted => { s with client := .told accepted }
  | .attach => { s with backend := .attached }
  | .refuse => { s with backend := .refused }
  | .register => { s with backend := .registered, listed := true }
  | .ask _ => { s with backend := .asked }
  | .close => { s with backend := .closed }
  | .unlist => { s with listed := false }
  | .accept => { s with accepted := true }
  | .send d => { s with sent := s.sent ++ [d] }
  | .deliver d => { s with delivered := s.delivered ++ [d] }
  | .receive d => { s with received := s.received ++ [d] }
  | .hand d => { s with handed := s.handed ++ [d] }

def automaton : Automaton Session SessionEvent where
  enabled := enabled
  next := next

/-! ## The state of a session and its history -/

open SessionEvent

/-- What has happened and what has not when a client is at this stage. -/
def ClientPast (tr : List SessionEvent) (request : Option Bytes) : ClientStage → Prop
  | .absent => .allocate ∉ tr ∧ .openConnection ∉ tr ∧ (∀ a, .request a ∉ tr) ∧ ∀ b, .tell b ∉ tr
  | .allocated => .allocate ∈ tr ∧ .openConnection ∉ tr ∧ (∀ a, .request a ∉ tr) ∧
      ∀ b, .tell b ∉ tr
  | .opened => .allocate ∈ tr ∧ .openConnection ∈ tr ∧ (∀ a, .request a ∉ tr) ∧ ∀ b, .tell b ∉ tr
  | .requested => .allocate ∈ tr ∧ .openConnection ∈ tr ∧ (∀ a, .request a ∈ tr ↔ a = request) ∧
      ∀ b, .tell b ∉ tr
  | .told b => .allocate ∈ tr ∧ .openConnection ∈ tr ∧ (∀ a, .request a ∈ tr ↔ a = request) ∧
      ∀ b', .tell b' ∈ tr ↔ b' = b

/-- What has happened and what has not when the destination is at this stage. -/
def BackendPast (tr : List SessionEvent) : BackendStage → Prop
  | .idle => .attach ∉ tr ∧ .refuse ∉ tr ∧ .register ∉ tr ∧ (∀ a, .ask a ∉ tr) ∧ .close ∉ tr
  | .attached => .attach ∈ tr ∧ .refuse ∉ tr ∧ .register ∉ tr ∧ (∀ a, .ask a ∉ tr) ∧ .close ∉ tr
  | .refused => .attach ∈ tr ∧ .refuse ∈ tr ∧ .register ∉ tr ∧ (∀ a, .ask a ∉ tr) ∧ .close ∉ tr
  | .registered => .attach ∈ tr ∧ .refuse ∉ tr ∧ .register ∈ tr ∧ (∀ a, .ask a ∉ tr) ∧
      .close ∉ tr
  | .asked => .attach ∈ tr ∧ .refuse ∉ tr ∧ .register ∈ tr ∧ (∃ a, .ask a ∈ tr) ∧ .close ∉ tr
  | .closed => .attach ∈ tr ∧ .refuse ∉ tr ∧ .register ∈ tr ∧ (∃ a, .ask a ∈ tr) ∧ .close ∈ tr

/-- A session is at the stages its history says, and has the data of its history. -/
structure Past (tr : List SessionEvent) (s : Session) : Prop where
  client : ClientPast tr s.request s.client
  backend : BackendPast tr s.backend
  accepted : s.accepted = true ↔ .accept ∈ tr
  sent : s.sent = tr.filterMap sentData
  delivered : s.delivered = tr.filterMap deliveredData
  received : s.received = tr.filterMap receivedData
  handed : s.handed = tr.filterMap handedData

variable {tr : List SessionEvent} {s : Session}

/-- Nothing that moves a client on has happened. -/
theorem ClientPast.snoc {e : SessionEvent} {request : Option Bytes} {stage : ClientStage}
    (h : ClientPast tr request stage)
    (he : e ≠ .allocate ∧ e ≠ .openConnection ∧ (∀ a, e ≠ .request a) ∧ ∀ b, e ≠ .tell b) :
    ClientPast (tr ++ [e]) request stage := by
  obtain ⟨h₁, h₂, h₃, h₄⟩ := he
  cases stage <;> simpa [ClientPast, h₁.symm, h₂.symm, fun a => (h₃ a).symm, fun b => (h₄ b).symm]
    using h

/-- Nothing that moves the destination on has happened. -/
theorem BackendPast.snoc {e : SessionEvent} {stage : BackendStage} (h : BackendPast tr stage)
    (he : e ≠ .attach ∧ e ≠ .refuse ∧ e ≠ .register ∧ (∀ a, e ≠ .ask a) ∧ e ≠ .close) :
    BackendPast (tr ++ [e]) stage := by
  obtain ⟨h₁, h₂, h₃, h₄, h₅⟩ := he
  cases stage <;>
    simpa [BackendPast, h₁.symm, h₂.symm, h₃.symm, fun a => (h₄ a).symm, h₅.symm] using h

theorem past (h : automaton.Run {} tr s) : Past tr s := by
  induction h with
  | nil => exact ⟨by simp [ClientPast], by simp [BackendPast], by simp, rfl, rfl, rfl, rfl⟩
  | @snoc tr s e _ he ih =>
    refine ⟨?_, ?_, ?_, ?_, ?_, ?_, ?_⟩
    · have hold := ih.client
      cases e
      case allocate | openConnection =>
        rw [show s.client = _ from he] at hold
        obtain ⟨h₁, h₂, h₃, h₄⟩ := hold
        simp [automaton, next, ClientPast, h₁, h₂, h₃, h₄]
      case request a =>
        rw [show s.client = _ from he] at hold
        obtain ⟨h₁, h₂, h₃, h₄⟩ := hold
        simp [automaton, next, ClientPast, h₁, h₂, h₃, h₄]
      case tell b =>
        rw [show s.client = _ from he.1] at hold
        obtain ⟨h₁, h₂, h₃, h₄⟩ := hold
        simp [automaton, next, ClientPast, h₁, h₂, h₃, h₄]
      all_goals exact hold.snoc (by simp)
    · have hold := ih.backend
      cases e
      case attach =>
        rw [show s.backend = _ from he.2] at hold
        obtain ⟨h₁, h₂, h₃, h₄, h₅⟩ := hold
        simp [automaton, next, BackendPast, h₂, h₃, h₄, h₅]
      case refuse | register | close =>
        rw [show s.backend = _ from he] at hold
        obtain ⟨h₁, h₂, h₃, h₄, h₅⟩ := hold
        simp [automaton, next, BackendPast, h₁, h₂, h₃, h₄, h₅]
      case ask a =>
        rw [show s.backend = _ from he.1] at hold
        obtain ⟨h₁, h₂, h₃, -, h₅⟩ := hold
        simp [automaton, next, BackendPast, h₁, h₂, h₃, h₅]
      all_goals exact hold.snoc (by simp)
    · cases e <;> simp [automaton, next, ih.accepted]
    · cases e <;> simp [automaton, next, ih.sent, sentData]
    · cases e <;> simp [automaton, next, ih.delivered, deliveredData]
    · cases e <;> simp [automaton, next, ih.received, receivedData]
    · cases e <;> simp [automaton, next, ih.handed, handedData]

namespace Past

/-! What has happened and what has not gives the stage. -/

theorem absent (h : Past tr s) (hno : .allocate ∉ tr) : s.client = .absent := by
  have hc := h.client
  cases hs : s.client <;> simp_all [ClientPast]

theorem allocated (h : Past tr s) (hone : .allocate ∈ tr) (hno : .openConnection ∉ tr) :
    s.client = .allocated := by
  have hc := h.client
  cases hs : s.client <;> simp_all [ClientPast]

theorem opened (h : Past tr s) (hone : .openConnection ∈ tr) (hno : ∀ a, .request a ∉ tr) :
    s.client = .opened := by
  have hc := h.client
  cases hs : s.client <;> simp_all [ClientPast]

theorem requested {a : Option Bytes} (h : Past tr s) (hone : .request a ∈ tr)
    (hno : ∀ b, .tell b ∉ tr) : s.client = .requested := by
  have hc := h.client
  cases hs : s.client <;> simp_all [ClientPast]

theorem request_eq {a : Option Bytes} (h : Past tr s) (hone : .request a ∈ tr) :
    (s.client = .requested ∨ ∃ accepted, s.client = .told accepted) ∧ a = s.request := by
  have hc := h.client
  cases hs : s.client <;> simp_all [ClientPast]

theorem told {b : Bool} (h : Past tr s) (hone : .tell b ∈ tr) : s.client = .told b := by
  have hc := h.client
  cases hs : s.client <;> rw [hs] at hc
  case told b' => rw [(hc.2.2.2 b).mp hone]
  all_goals exact (hc.2.2.2 b hone).elim

theorem idle (h : Past tr s) (hno : .attach ∉ tr) : s.backend = .idle := by
  have hb := h.backend
  cases hs : s.backend <;> simp_all [BackendPast]

theorem attached (h : Past tr s) (hone : .attach ∈ tr) (hrefuse : .refuse ∉ tr)
    (hregister : .register ∉ tr) : s.backend = .attached := by
  have hb := h.backend
  cases hs : s.backend <;> simp_all [BackendPast]

theorem registered (h : Past tr s) (hone : .register ∈ tr) (hno : ∀ a, .ask a ∉ tr) :
    s.backend = .registered := by
  have hb := h.backend
  cases hs : s.backend <;> simp_all [BackendPast]

theorem asked {a : Option Bytes} (h : Past tr s) (hone : .ask a ∈ tr) (hno : .close ∉ tr) :
    s.backend = .asked := by
  have hb := h.backend
  cases hs : s.backend <;> simp_all [BackendPast]

end Past

/-- Whether a client is listed after an event. -/
def listedAfter (listed : Bool) : Option SessionEvent → Bool
  | some .register => true
  | some .unlist => false
  | _ => listed

theorem listed_next (e : SessionEvent) : (s.next e).listed = listedAfter s.listed (some e) := by
  cases e <;> rfl

end Session
end Spanreed
