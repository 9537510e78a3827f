import Spanreed.Lib.Automaton

/-! # Stages of a FIFO pipeline

A stage takes items in, holds some of them and hands items on. `Exact` says that the items it took
in are those it handed on followed by those it holds, oldest first; `Lossy` that some may be
missing. Stages compose (`Lossy.comp`, `Exact.comp`), and a stage of an automaton is established
by looking at one event at a time (`Run.lossy`, `Run.exact`).

Nothing here refers to a particular program. -/

namespace Automata

universe u v w
variable {α : Type w}

/-- What came in is what was handed on followed by what is held. -/
def Exact (input output held : List α) : Prop := input = output ++ held

/-- What was handed on followed by what is held is a subsequence of what came in. -/
def Lossy (input output held : List α) : Prop := (output ++ held).Sublist input

variable {input middle output held held₁ held₂ : List α}

theorem Exact.lossy (h : Exact input output held) : Lossy input output held := by
  unfold Exact at h
  rw [h]
  exact List.Sublist.refl _

theorem Exact.comp (h₁ : Exact input middle held₁) (h₂ : Exact middle output held₂) :
    Exact input output (held₂ ++ held₁) := by
  unfold Exact at *
  rw [h₁, h₂, List.append_assoc]

theorem Lossy.comp (h₁ : Lossy input middle held₁) (h₂ : Lossy middle output held₂) :
    Lossy input output (held₂ ++ held₁) := by
  unfold Lossy at *
  rw [← List.append_assoc]
  exact (h₂.append_right held₁).trans h₁

theorem Lossy.sublist (h : Lossy input output held) : output.Sublist input :=
  (List.sublist_append_left output held).trans h

theorem Exact.filterMap {β : Type w} (h : Exact input output held) (f : α → Option β) :
    Exact (input.filterMap f) (output.filterMap f) (held.filterMap f) := by
  unfold Exact at *
  rw [h, List.filterMap_append]

variable {σ : Type u} {ε : Type v} {A : Automaton σ ε} {s₀ s : σ} {tr : List ε}
  {i o : ε → Option α} {k : σ → List α}

/-- A lossy stage of an automaton: no event hands on or keeps, out of order or twice, more than
the stage held and the event brought in. -/
theorem Automaton.Run.lossy (h : A.Run s₀ tr s) (h₀ : k s₀ = [])
    (hstep : ∀ tr s e, A.Run s₀ tr s → A.enabled s e →
      ((o e).toList ++ k (A.next s e)).Sublist (k s ++ (i e).toList)) :
    Lossy (tr.filterMap i) (tr.filterMap o) (k s) := by
  induction h with
  | nil => simp [Lossy, h₀]
  | @snoc tr s e hr he ih =>
    unfold Lossy at *
    have h₁ := (hstep tr s e hr he).append_left (tr.filterMap o)
    have h₂ := ih.append_right (i e).toList
    rw [List.append_assoc] at h₂
    rw [List.filterMap_append, List.filterMap_append, List.append_assoc]
    exact h₁.trans h₂

/-- An exact stage of an automaton, along runs whose events all satisfy `p`. -/
theorem Automaton.Run.exact {p : ε → Prop} (h : A.Run s₀ tr s) (h₀ : k s₀ = [])
    (hstep : ∀ tr s e, A.Run s₀ tr s → A.enabled s e → p e →
      (o e).toList ++ k (A.next s e) = k s ++ (i e).toList)
    (hok : ∀ e ∈ tr, p e) : Exact (tr.filterMap i) (tr.filterMap o) (k s) := by
  induction h with
  | nil => simp [Exact, h₀]
  | @snoc tr s e hr he ih =>
    have ih := ih fun e he => hok e (List.mem_append_left _ he)
    have hs := hstep tr s e hr he (hok e (by simp))
    unfold Exact at *
    rw [List.filterMap_append, List.filterMap_append, ih, List.append_assoc, List.append_assoc]
    exact congrArg _ hs.symm

end Automata
