import Mathlib.Data.List.Basic

/-!
# Objects and what they implement

An *object* is something that is called: a call changes its state and returns a result. What
can be seen of an object are the results of a sequence of calls (`Objects.Object.run`).

An object *implements* another one, which is simpler, if there is a function that takes its
states to those of the other one and that goes together with the calls
(`Objects.Implements`). It need not be so for every call. Then a sequence of calls for which it
is so has the same results with both (`Objects.Implements.run_eq`), and what the calls keep true
of the simple object is true of the other one (`Objects.Object.run_invariant`).

The relation between the two objects is a function, from the states of the more complicated one
to those of the simpler one. This is less than a simulation may be, but it is what is needed
where the simpler object is obtained by forgetting: how a table is laid out in files, for
instance. Calls are made one after the other and as a whole. What comes of calls that overlap is
not a question that can be asked here; for this there are machines with threads.
-/

namespace Objects

/-- An object, with states `σ`, calls `α` and results `ρ`. A call is made as a whole, and every
call can be made in every state. -/
structure Object (σ α ρ : Type) where
  /-- A call. -/
  call : σ → α → σ × ρ

namespace Object

variable {σ α ρ : Type} (O : Object σ α ρ)

/-- A sequence of calls: the state at the end, and all results, in the order of the calls. -/
def run : σ → List α → σ × List ρ
  | s, [] => (s, [])
  | s, a :: l => ((run (O.call s a).1 l).1, (O.call s a).2 :: (run (O.call s a).1 l).2)

theorem run_cons (s : σ) (a : α) (l : List α) : O.run s (a :: l) =
    ((O.run (O.call s a).1 l).1, (O.call s a).2 :: (O.run (O.call s a).1 l).2) := rfl

/-- **What the calls keep true** is true in the end, by induction on the calls, as long as each
of them is an allowed one. -/
theorem run_invariant {O : Object σ α ρ} {I : σ → Prop} {ok : α → Prop} {s : σ} {l : List α}
    (hcall : ∀ s a, I s → ok a → I (O.call s a).1) (hs : I s) (hl : ∀ a ∈ l, ok a) :
    I (O.run s l).1 := by
  induction l generalizing s with
  | nil => exact hs
  | cons a l ih =>
    exact ih (hcall s a hs (hl a (List.mem_cons_self ..))) fun b hb =>
      hl b (List.mem_cons_of_mem a hb)

end Object

variable {σ τ α ρ : Type}

/-- **`O` implements `A`**, as far as these calls go: each of them has the same result, and
leads from a state that stands for one of `A` to a state that stands for the next one. -/
def Implements (O : Object σ α ρ) (A : Object τ α ρ) (abs : σ → τ) (ok : α → Prop) : Prop :=
  ∀ s a, ok a → A.call (abs s) a = (abs (O.call s a).1, (O.call s a).2)

/-- **A sequence of calls has the same results.** So what is shown of the runs of the simpler
object holds of the other one. -/
theorem Implements.run_eq {O : Object σ α ρ} {A : Object τ α ρ} {abs : σ → τ} {ok : α → Prop}
    (h : Implements O A abs ok) {l : List α} (hl : ∀ a ∈ l, ok a) (s : σ) :
    A.run (abs s) l = (abs (O.run s l).1, (O.run s l).2) := by
  induction l generalizing s with
  | nil => rfl
  | cons a l ih =>
    have hfirst := h s a (hl a (List.mem_cons_self ..))
    have hrest := ih (fun b hb => hl b (List.mem_cons_of_mem a hb)) (O.call s a).1
    rw [Object.run_cons, Object.run_cons, hfirst]
    simp only [hrest]

end Objects
