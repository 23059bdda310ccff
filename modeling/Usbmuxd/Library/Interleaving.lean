import Mathlib.Data.List.Basic

/-!
# Machines and their runs

A concurrent program is described here by what one of its threads can do next: a
*machine* is a partial step function over labels, the label saying which thread
moves and what its environment answered. An interleaving is then nothing more
than a list of labels, and a property of all interleavings is a property of all
states a run can reach.

Two things are attached to that picture. The first is the *side condition* on
steps carried by `Interleaving.Machine.Reaches`: it restricts a run to the
environments, or to the schedules, a statement is about, and it is a condition on
the state *before* the step and on the label. The second is the induction rule
`Interleaving.Machine.Reaches.invariant`, the only induction over runs there is:
what holds at the start and is kept by every admitted step holds wherever an
admitted run arrives.

Since the step function computes, a run on concrete labels can be evaluated:
`Interleaving.Machine.runOk` checks the side condition along the way, and
`Interleaving.Machine.exists_reaches_of_runOk` turns the evaluation into the
existence of a reachable state.

## Eventcounts

Threads that wait for each other do so through an *eventcount*
(`Interleaving.EventCount`): a counter of the signals given so far. A thread that
is going to sleep first takes the number of the next signal and then sleeps until
the counter has reached it; whoever changes what the sleeper is waiting for
advances the counter. What makes this safe is that the number is taken while the
sleeper still knows its condition to be false
(`Interleaving.EventCount.reached_advance_of_le_next`): every signal from then on
wakes it. An invariant says this of a sleeper with `Interleaving.EventCount.Ticket`:
the number is one that has been handed out, and if the sleeper should be awake, the
signal has been given.
-/

namespace Interleaving

/-- A machine: what a step with a given label makes of a state, or `none` when
that step is not possible there. -/
structure Machine (σ α : Type) where
  /-- The step function. -/
  step : σ → α → Option σ

namespace Machine

variable {σ α : Type} (M : Machine σ α)

/-- **The states reached by runs all of whose steps meet `ok`**, from `s₀` on. -/
inductive Reaches (ok : σ → α → Prop) (s₀ : σ) : σ → Prop
  /-- The empty run. -/
  | refl : Reaches ok s₀ s₀
  /-- One more step, which meets the condition in the state before it. -/
  | tail {s s' : σ} (a : α) : Reaches ok s₀ s → ok s a → M.step s a = some s' → Reaches ok s₀ s'

/-- The states reached by any run at all, with no condition on the order of the steps. -/
abbrev Reachable (s₀ : σ) : σ → Prop := M.Reaches (fun _ _ => True) s₀

variable {M} {ok ok' : σ → α → Prop} {s₀ s₁ s : σ}

/-- **The invariant rule.** What holds in the beginning and is kept by every admitted step holds
in every state that is reached. -/
theorem Reaches.invariant {I : σ → Prop} (h : M.Reaches ok s₀ s) (h₀ : I s₀)
    (hstep : ∀ s a s', I s → ok s a → M.step s a = some s' → I s') : I s := by
  induction h with
  | refl => exact h₀
  | tail a _ hok hs ih => exact hstep _ a _ ih hok hs

/-- A weaker side condition admits the same runs and more, so that what holds of all its runs
holds of these. -/
theorem Reaches.mono (h : M.Reaches ok s₀ s) (himp : ∀ s a, ok s a → ok' s a) :
    M.Reaches ok' s₀ s := by
  induction h with
  | refl => exact .refl
  | tail a _ hok hs ih => exact .tail a ih (himp _ _ hok) hs

theorem Reaches.trans (h₁ : M.Reaches ok s₀ s₁) (h₂ : M.Reaches ok s₁ s) :
    M.Reaches ok s₀ s := by
  induction h₂ with
  | refl => exact h₁
  | tail a _ hok hs ih => exact .tail a ih hok hs

/-! ### Evaluating a run -/

section Eval

variable (M) (ok) [∀ s a, Decidable (ok s a)]

/-- Run a list of labels, giving up at the first step that is impossible or does
not meet the condition. -/
def runOk : σ → List α → Option σ
  | s, [] => some s
  | s, a :: l => if ok s a then (M.step s a).bind fun s' => runOk s' l else none

variable {M} {ok} in
theorem reaches_of_runOk {l : List α} (h : M.runOk ok s₀ l = some s) : M.Reaches ok s₀ s := by
  induction l generalizing s₀ with
  | nil =>
    obtain rfl : s₀ = s := by simpa [runOk] using h
    exact .refl
  | cons a l ih =>
    simp only [runOk, Option.ite_none_right_eq_some, Option.bind_eq_some_iff] at h
    obtain ⟨hok, s', hs, hl⟩ := h
    exact (Reaches.tail a .refl hok hs).trans (ih hl)

/-- **An evaluated run is a run**: if evaluating the labels ends in a state that
passes the test `p`, a state that passes it is reachable. -/
theorem exists_reaches_of_runOk (s₀ : σ) (l : List α) (p : σ → Bool)
    (h : (M.runOk ok s₀ l).any p = true) : ∃ s, M.Reaches ok s₀ s ∧ p s = true := by
  cases hs : M.runOk ok s₀ l with
  | none =>
    rw [hs] at h
    exact absurd h (by simp)
  | some s =>
    rw [hs] at h
    exact ⟨s, reaches_of_runOk hs, by simpa using h⟩

end Eval

end Machine

/-! ### Eventcounts -/

/-- An eventcount: how many signals have been given. A thread that wants to sleep notes the
count first, and sleeps only as long as it has not changed. -/
structure EventCount where
  /-- The number of signals given so far. -/
  issued : ℕ
  deriving DecidableEq

namespace EventCount

variable {e : EventCount} {w : ℕ}

/-- The number of the next signal, taken by a thread before it sleeps. -/
def next (e : EventCount) : ℕ := e.issued + 1

/-- Give a signal, to all who sleep and to all who are about to. -/
def advance (e : EventCount) : EventCount := ⟨e.issued + 1⟩

/-- A thread sleeping until signal `w` is awake, or may wake at once. -/
def Reached (e : EventCount) (w : ℕ) : Prop := w ≤ e.issued

instance (e : EventCount) (w : ℕ) : Decidable (e.Reached w) :=
  inferInstanceAs (Decidable (w ≤ e.issued))

/-- Signals are never taken back, so that a thread which has been woken stays so. -/
theorem Reached.advance (h : e.Reached w) : e.advance.Reached w := Nat.le_succ_of_le h

/-- **A signal wakes every thread that decided to sleep before it**, whether the thread sleeps
already or not. -/
theorem reached_advance_of_le_next (h : w ≤ e.next) : e.advance.Reached w := h

theorem le_next_advance (h : w ≤ e.next) : w ≤ e.advance.next := Nat.le_succ_of_le h

/-- **A ticket**: the number a sleeper has taken, and whether it is *due*, in which
case the signal has been given. -/
def Ticket (e : EventCount) (due : Prop) (w : ℕ) : Prop := w ≤ e.next ∧ (due → e.Reached w)

variable {due due' : Prop}

theorem Ticket.reached (h : e.Ticket due w) (hdue : due) : e.Reached w := h.2 hdue

/-- A ticket that is not due may be taken: what a thread waits for has not happened at that
moment. -/
theorem ticket_next (h : ¬due) : e.Ticket due e.next := ⟨Nat.le_refl _, fun hdue => absurd hdue h⟩

/-- **A signal honours every ticket**, whatever is due from now on. So it is enough to give one
after every change. -/
theorem Ticket.advance (h : e.Ticket due w) : e.advance.Ticket due' w :=
  ⟨le_next_advance h.1, fun _ => reached_advance_of_le_next h.1⟩

theorem Ticket.imp (h : e.Ticket due w) (himp : due' → due) : e.Ticket due' w :=
  ⟨h.1, fun hdue => h.2 (himp hdue)⟩

end EventCount

end Interleaving
