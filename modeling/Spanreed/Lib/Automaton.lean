import Mathlib.Data.List.Basic
import Mathlib.Data.List.Infix

/-! # Automata with guarded events

An automaton is a set of states with, for each event, a guard (`enabled`) and an effect (`next`).
A run is a list of events, oldest first, each enabled where it happens; the list is also the
history of the run, so properties of histories are stated as functions of it. An automaton refines
another one if its runs are seen as runs of the other (`Run.simulates`).

Nothing here refers to a particular program. -/

namespace Automata

universe u v
variable {σ : Type u} {ε : Type v} {σ' : Type u} {ε' : Type v}

/-- An event without a part does not show. -/
theorem filterMap_snoc_none {f : ε → Option ε'} {tr : List ε} {e : ε} (h : f e = none) :
    (tr ++ [e]).filterMap f = tr.filterMap f := by
  rw [List.filterMap_append, List.filterMap_cons_none h, List.filterMap_nil, List.append_nil]

theorem filterMap_snoc_some {f : ε → Option ε'} {tr : List ε} {e : ε} {a : ε'} (h : f e = some a) :
    (tr ++ [e]).filterMap f = tr.filterMap f ++ [a] := by
  rw [List.filterMap_append, List.filterMap_cons_some h, List.filterMap_nil]

/-- What shows of fewer events is a subsequence. -/
theorem filterMap_sublist_filterMap {α : Type*} {f g : ε → Option α} {tr : List ε}
    (h : ∀ e ∈ tr, ∀ a, f e = some a → g e = some a) :
    (tr.filterMap f).Sublist (tr.filterMap g) := by
  induction tr with
  | nil => exact List.Sublist.refl _
  | cons e tr ih =>
    have ih := ih fun e' he' => h e' (List.mem_cons_of_mem _ he')
    cases hf : f e with
    | some a =>
      rw [List.filterMap_cons_some hf, List.filterMap_cons_some (h e (List.mem_cons_self ..) a hf)]
      exact ih.cons_cons a
    | none =>
      rw [List.filterMap_cons_none hf]
      cases hg : g e with
      | none => rwa [List.filterMap_cons_none hg]
      | some b =>
        rw [List.filterMap_cons_some hg]
        exact ih.cons b

/-- What shows of the last event, and shows at most once, has not shown before. -/
theorem not_before_of_length_le_one {f : ε → Option ε'} {tr : List ε} {e : ε} {a : ε'}
    (he : f e = some a) (hle : ((tr ++ [e]).filterMap f).length ≤ 1) : ∀ e' ∈ tr, f e' = none := by
  rw [filterMap_snoc_some he, List.length_append, List.length_singleton] at hle
  exact List.filterMap_eq_nil_iff.mp (List.length_eq_zero_iff.mp (by omega))

/-- What shows of the last event has not shown before, if what shows is distinct. -/
theorem not_before_of_nodup {f : ε → Option ε'} {tr : List ε} {e : ε} {a : ε'} (he : f e = some a)
    (hn : ((tr ++ [e]).filterMap f).Nodup) : a ∉ tr.filterMap f := by
  rw [filterMap_snoc_some he] at hn
  intro ha
  exact (List.nodup_append.mp hn).2.2 a ha a (List.mem_singleton_self a) rfl

/-- If what shows of the events is distinct, two events that show the same are the same. -/
theorem eq_of_nodup_filterMap {α : Type*} {f : ε → Option α} {tr : List ε}
    (h : (tr.filterMap f).Nodup) {e₁ e₂ : ε} {a : α} (h₁ : e₁ ∈ tr) (h₂ : e₂ ∈ tr)
    (hf₁ : f e₁ = some a) (hf₂ : f e₂ = some a) : e₁ = e₂ := by
  induction tr with
  | nil => cases h₁
  | cons e tr ih =>
    have hrest : (tr.filterMap f).Nodup := by
      cases hf : f e with
      | none => rwa [List.filterMap_cons_none hf] at h
      | some b =>
        rw [List.filterMap_cons_some hf] at h
        exact (List.nodup_cons.mp h).2
    have hfirst : f e = some a → ∀ e' ∈ tr, f e' ≠ some a := by
      intro hf e' he' hf'
      rw [List.filterMap_cons_some hf] at h
      exact (List.nodup_cons.mp h).1 (List.mem_filterMap.mpr ⟨e', he', hf'⟩)
    rcases List.mem_cons.mp h₁ with rfl | h₁'
    · rcases List.mem_cons.mp h₂ with rfl | h₂'
      · rfl
      · exact (hfirst hf₁ e₂ h₂' hf₂).elim
    · rcases List.mem_cons.mp h₂ with rfl | h₂'
      · exact (hfirst hf₂ e₁ h₁' hf₁).elim
      · exact ih hrest h₁' h₂'

/-- ... and if at most one shows, two that show are the same. -/
theorem eq_of_length_le_one {f : ε → Option ε'} {tr : List ε} (h : (tr.filterMap f).length ≤ 1)
    {e₁ e₂ : ε} {a₁ a₂ : ε'} (h₁ : e₁ ∈ tr) (h₂ : e₂ ∈ tr) (hf₁ : f e₁ = some a₁)
    (hf₂ : f e₂ = some a₂) : e₁ = e₂ := by
  have hm₁ := List.mem_filterMap.mpr ⟨e₁, h₁, hf₁⟩
  have hm₂ := List.mem_filterMap.mpr ⟨e₂, h₂, hf₂⟩
  obtain ⟨a, ha⟩ := List.length_eq_one_iff.mp (Nat.le_antisymm h (List.length_pos_of_mem hm₁))
  rw [ha, List.mem_singleton] at hm₁ hm₂
  subst hm₁ hm₂
  exact eq_of_nodup_filterMap (by simp [ha]) h₁ h₂ hf₁ hf₂

/-- States `σ` moved by events `ε`: an event that is `enabled` in a state leads to its `next`. -/
structure Automaton (σ : Type u) (ε : Type v) where
  enabled : σ → ε → Prop
  next : σ → ε → σ

/-- An event that comes after some events in order extends them. -/
theorem sublist_snoc {l tr₁ tr : List ε} {e : ε} (hl : l.Sublist tr₁) (hp : tr₁ ++ [e] <+: tr) :
    (l ++ [e]).Sublist tr :=
  (hl.append_right [e]).trans hp.sublist

/-- What has happened has happened. -/
theorem happened_append {P : ε → Prop} {tr tr' : List ε} (h : ∃ e ∈ tr, P e) :
    ∃ e ∈ tr ++ tr', P e := by
  obtain ⟨e, he, hP⟩ := h
  exact ⟨e, List.mem_append_left _ he, hP⟩

/-- Where an event stands in a history that is written out. -/
theorem snoc_prefix_cons {tr tr₁ : List ε} {e e' : ε} :
    tr₁ ++ [e] <+: e' :: tr ↔ tr₁ = [] ∧ e = e' ∨ ∃ tr₂, tr₁ = e' :: tr₂ ∧ tr₂ ++ [e] <+: tr := by
  cases tr₁ with
  | nil => simp [List.cons_prefix_cons]
  | cons e₁ tr₁ => simp [List.cons_prefix_cons]

/-- A property of every event of a history and what came before it, event by event. -/
theorem forall_snoc_prefix_cons {P : List ε → ε → Prop} {tr : List ε} {e : ε} :
    (∀ tr₁ e', tr₁ ++ [e'] <+: e :: tr → P tr₁ e') ↔
      P [] e ∧ ∀ tr₁ e', tr₁ ++ [e'] <+: tr → P (e :: tr₁) e' := by
  constructor
  · intro h
    exact ⟨h [] e (snoc_prefix_cons.mpr (.inl ⟨rfl, rfl⟩)),
      fun tr₁ e' hp => h (e :: tr₁) e' (snoc_prefix_cons.mpr (.inr ⟨tr₁, rfl, hp⟩))⟩
  · rintro ⟨hfirst, hrest⟩ tr₁ e' hp
    rcases snoc_prefix_cons.mp hp with ⟨rfl, rfl⟩ | ⟨tr₂, rfl, hp₂⟩
    · exact hfirst
    · exact hrest tr₂ e' hp₂

theorem forall_snoc_prefix_nil {P : List ε → ε → Prop} :
    (∀ tr₁ e, tr₁ ++ [e] <+: [] → P tr₁ e) ↔ True := by
  simp

namespace Automaton
variable (A : Automaton σ ε)

/-- `A.Run s₀ tr s`: the events `tr` lead from `s₀` to `s`. -/
inductive Run (s₀ : σ) : List ε → σ → Prop
  | nil : Run s₀ [] s₀
  | snoc {tr s e} : Run s₀ tr s → A.enabled s e → Run s₀ (tr ++ [e]) (A.next s e)

/-- Every event of the list is enabled in turn. -/
def Admits : σ → List ε → Prop
  | _, [] => True
  | s, e :: tr => A.enabled s e ∧ Admits (A.next s e) tr

/-- Every event of the list happens in a state in which `P` allows it. -/
def Obeys (P : σ → ε → Prop) : σ → List ε → Prop
  | _, [] => True
  | s, e :: tr => P s e ∧ Obeys P (A.next s e) tr

/-- The state after a list of events, whether or not they are enabled. -/
def exec (s : σ) (tr : List ε) : σ := tr.foldl A.next s

instance decidableAdmits [∀ s e, Decidable (A.enabled s e)] :
    ∀ s tr, Decidable (A.Admits s tr)
  | _, [] => inferInstanceAs (Decidable True)
  | s, e :: tr =>
    have := decidableAdmits (A.next s e) tr
    inferInstanceAs (Decidable (A.enabled s e ∧ A.Admits (A.next s e) tr))

instance decidableObeys {P : σ → ε → Prop} [∀ s e, Decidable (P s e)] :
    ∀ s tr, Decidable (A.Obeys P s tr)
  | _, [] => inferInstanceAs (Decidable True)
  | s, e :: tr =>
    have := decidableObeys (P := P) (A.next s e) tr
    inferInstanceAs (Decidable (P s e ∧ A.Obeys P (A.next s e) tr))

variable {A} {s₀ s s₁ s₂ : σ} {tr tr₁ tr₂ : List ε} {e : ε}

theorem Run.single (h : A.enabled s e) : A.Run s [e] (A.next s e) := .snoc .nil h

theorem Run.trans (h₁ : A.Run s₀ tr₁ s₁) (h₂ : A.Run s₁ tr₂ s₂) : A.Run s₀ (tr₁ ++ tr₂) s₂ := by
  induction h₂ with
  | nil => simpa using h₁
  | snoc _ he ih => rw [← List.append_assoc]; exact .snoc ih he

theorem Run.cons (he : A.enabled s e) (h : A.Run (A.next s e) tr s₁) : A.Run s (e :: tr) s₁ :=
  (Run.single he).trans h

theorem Admits.run : ∀ {s : σ} {tr : List ε}, A.Admits s tr → A.Run s tr (A.exec s tr)
  | _, [], _ => .nil
  | _, _ :: _, h => .cons h.1 h.2.run

/-- Events determine where they lead. -/
theorem Run.eq_exec (h : A.Run s₀ tr s) : s = A.exec s₀ tr := by
  induction h with
  | nil => rfl
  | snoc _ _ ih =>
    subst ih
    simp [exec]

theorem obeys_append {P : σ → ε → Prop} :
    A.Obeys P s₀ (tr₁ ++ tr₂) ↔ A.Obeys P s₀ tr₁ ∧ A.Obeys P (A.exec s₀ tr₁) tr₂ := by
  induction tr₁ generalizing s₀ with
  | nil => simp [Obeys, exec]
  | cons e tr₁ ih => simp [Obeys, exec, ih, and_assoc]

/-- A run that obeys `P` obeyed it before its last event, and at it. -/
theorem Run.obeys_snoc {P : σ → ε → Prop} (h : A.Run s₀ tr s) :
    A.Obeys P s₀ (tr ++ [e]) ↔ A.Obeys P s₀ tr ∧ P s e := by
  rw [obeys_append, ← h.eq_exec]
  simp [Obeys]

/-- A property of every state of a run, up to its last event and after it. -/
theorem Run.always_snoc {P : σ → Prop} (h : A.Run s₀ tr s) (he : A.enabled s e) :
    (∀ tr₁ s₁, tr₁ <+: tr ++ [e] → A.Run s₀ tr₁ s₁ → P s₁) ↔
      (∀ tr₁ s₁, tr₁ <+: tr → A.Run s₀ tr₁ s₁ → P s₁) ∧ P (A.next s e) := by
  constructor
  · intro hall
    exact ⟨fun tr₁ s₁ hp => hall tr₁ s₁ (hp.trans (List.prefix_append ..)),
      hall _ _ List.prefix_rfl (h.snoc he)⟩
  · rintro ⟨hall, hlast⟩ tr₁ s₁ hp hr
    rcases List.prefix_concat_iff.mp hp with rfl | hp
    · rwa [hr.eq_exec, ← (h.snoc he).eq_exec]
    · exact hall tr₁ s₁ hp hr

/-- Runs are cut anywhere. -/
theorem Run.split (h : A.Run s₀ tr s) :
    ∀ {tr₁ tr₂}, tr = tr₁ ++ tr₂ → ∃ s₁, A.Run s₀ tr₁ s₁ ∧ A.Run s₁ tr₂ s := by
  induction h with
  | nil =>
    intro tr₁ tr₂ h
    obtain ⟨rfl, rfl⟩ := List.append_eq_nil_iff.mp h.symm
    exact ⟨_, .nil, .nil⟩
  | @snoc tr s e hr he ih =>
    intro tr₁ tr₂ h
    rcases List.eq_nil_or_concat tr₂ with rfl | ⟨tr₂, e', rfl⟩
    · rw [List.append_nil] at h
      exact ⟨_, h ▸ .snoc hr he, .nil⟩
    · rw [List.concat_eq_append, ← List.append_assoc] at h
      obtain ⟨rfl, h'⟩ := List.append_inj' h rfl
      cases h'
      obtain ⟨s₁, h₁, h₂⟩ := ih rfl
      exact ⟨s₁, h₁, by rw [List.concat_eq_append]; exact .snoc h₂ he⟩

/-- The state in which an event of a run happened. -/
theorem Run.at_event (h : A.Run s₀ (tr₁ ++ e :: tr₂) s) :
    ∃ s₁, A.Run s₀ tr₁ s₁ ∧ A.enabled s₁ e ∧ A.Run (A.next s₁ e) tr₂ s := by
  obtain ⟨s₁, h₁, h₂⟩ := h.split rfl
  obtain ⟨s₂, h₃, h₄⟩ := h₂.split (show e :: tr₂ = [e] ++ tr₂ from rfl)
  have key : ∀ {tr s₂}, A.Run s₁ tr s₂ → tr = [e] → A.enabled s₁ e ∧ s₂ = A.next s₁ e := by
    intro tr s₂ h he
    cases h with
    | nil => cases he
    | @snoc tr s e' hr hen =>
      obtain ⟨htr, he'⟩ := List.append_inj' (he.trans (List.nil_append [e]).symm) rfl
      cases he'
      subst htr
      generalize hnil : ([] : List ε) = l at hr
      cases hr with
      | nil => exact ⟨hen, rfl⟩
      | snoc _ _ => simp at hnil
  obtain ⟨hen, rfl⟩ := key h₃ rfl
  exact ⟨s₁, h₁, hen, h₄⟩

theorem Run.uncons (h : A.Run s₀ (e :: tr) s) : A.enabled s₀ e ∧ A.Run (A.next s₀ e) tr s := by
  rw [← List.nil_append (e :: tr)] at h
  obtain ⟨s₁, hnil, he, hr⟩ := h.at_event
  obtain rfl : s₁ = s₀ := hnil.eq_exec
  exact ⟨he, hr⟩

theorem Run.of_mem (h : A.Run s₀ tr s) (he : e ∈ tr) :
    ∃ tr₁ s₁, A.Run s₀ tr₁ s₁ ∧ A.enabled s₁ e ∧ tr₁ ++ [e] <+: tr := by
  obtain ⟨tr₁, tr₂, rfl⟩ := List.append_of_mem he
  obtain ⟨s₁, h₁, hen, _⟩ := h.at_event
  exact ⟨tr₁, s₁, h₁, hen, tr₂, by simp⟩

/-- An invariant of states: it holds at the start and every enabled event keeps it. -/
theorem Run.invariant {I : σ → Prop} (h : A.Run s₀ tr s) (h₀ : I s₀)
    (hstep : ∀ s e, I s → A.enabled s e → I (A.next s e)) : I s := by
  induction h with
  | nil => exact h₀
  | snoc _ he ih => exact hstep _ _ ih he

/-- A component of an automaton: what of its state and of its events is the component's. Events
without a part in the component leave it alone. -/
structure Component (A : Automaton σ ε) (B : Automaton σ' ε') where
  state : σ → σ'
  part : ε → Option ε'
  enabled : ∀ {s e e'}, A.enabled s e → part e = some e' → B.enabled (state s) e'
  next : ∀ {s e e'}, A.enabled s e → part e = some e' →
    state (A.next s e) = B.next (state s) e'
  frame : ∀ {s e}, A.enabled s e → part e = none → state (A.next s e) = state s

/-- A run of the whole is, seen from a component, a run of the component. -/
theorem Component.run {B : Automaton σ' ε'} (C : Component A B) (h : A.Run s₀ tr s) :
    B.Run (C.state s₀) (tr.filterMap C.part) (C.state s) := by
  induction h with
  | nil => exact .nil
  | @snoc tr s e _ he ih =>
    rw [List.filterMap_append]
    cases hp : C.part e with
    | none => simpa [hp, C.frame he hp] using ih
    | some e' =>
      rw [C.next he hp]
      simpa [hp] using ih.snoc (C.enabled he hp)

/-- One event of a concrete automaton, as `B` sees it: nothing, or an event of its own. -/
def Sees (B : Automaton σ' ε') (t : σ') : Option ε' → σ' → Prop
  | none, t' => t' = t
  | some e, t' => B.enabled t e ∧ t' = B.next t e

/-- Forward simulation along one run: if every event of the run is seen by `B` as something `B` can
do, and `R` between the states is kept, then the run is seen as a run of `B`. -/
theorem Run.simulates {B : Automaton σ' ε'} {see : ε → Option ε'} {R : σ → σ' → Prop} {t₀ : σ'}
    (h : A.Run s₀ tr s) (h₀ : R s₀ t₀)
    (hstep : ∀ tr₁ s₁ e t, A.Run s₀ tr₁ s₁ → A.enabled s₁ e → tr₁ ++ [e] <+: tr →
      B.Run t₀ (tr₁.filterMap see) t → R s₁ t →
      ∃ t', B.Sees t (see e) t' ∧ R (A.next s₁ e) t') :
    ∃ t, B.Run t₀ (tr.filterMap see) t ∧ R s t := by
  induction h with
  | nil => exact ⟨t₀, .nil, h₀⟩
  | @snoc tr s e hr he ih =>
    obtain ⟨t, ht, hR⟩ := ih fun tr₁ s₁ e₁ t h₁ he₁ hp =>
      hstep tr₁ s₁ e₁ t h₁ he₁ (hp.trans (List.prefix_append ..))
    obtain ⟨t', hsees, hR'⟩ := hstep tr s e t hr he List.prefix_rfl ht hR
    refine ⟨t', ?_, hR'⟩
    cases hsee : see e with
    | none =>
      rw [hsee] at hsees
      rw [filterMap_snoc_none hsee, show t' = t from hsees]
      exact ht
    | some e' =>
      rw [hsee] at hsees
      rw [filterMap_snoc_some hsee, hsees.2]
      exact ht.snoc hsees.1

end Automaton
end Automata
