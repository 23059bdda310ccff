import Usbmuxd.Clients.Life

/-!
# The descriptors of the clients

Who has the descriptor of a connection that has been accepted: the client manager until the
`Client` is made, the client, or the connection to a device that has taken it over
(`Usbmuxd.ClientLife.Owned`). There is never more than one of them, and each closes it when
it goes. So what has been accepted and not been closed is what somebody has
(`Usbmuxd.ClientLife.descriptors_owned`).

The other half is that nobody is forgotten. A client is not destroyed as long as its thread
is in the loop, and once everything is at rest, the clients there are, the clients in
`_clients` and the clients with a thread are the same
(`Usbmuxd.ClientLife.none_left_behind`).

Both hold as long as the program runs. It ends when the reaper gets a null pointer, which
`~ClientManager` posts for a client whose destructor has begun
(`Usbmuxd.ClientLife.exists_crashed`), and nobody else does
(`Usbmuxd.ClientLife.not_crashed`).
-/

namespace Usbmuxd

open Interleaving

namespace ClientLife

/-- **Somebody has the descriptor.** A client has it until its destructor has closed it. -/
def Owned (s : ClientLife) (m : ℕ) : Prop :=
  s.manager = .accepted m ∨ ((s.life m).IsChild ∧ s.fd m = true) ∨ s.tcpFd m = true

/-- The descriptors somebody has, and has therefore to close. -/
def owned (s : ClientLife) : Set ℕ := {m | s.Owned m}

variable {s s' s₁ : ClientLife} {n : ℕ} {l : Label} {dropped : Option ℕ}

/-- **The ledger agrees with the owners**, of whom there is one for each descriptor that has not
been closed. -/
structure Books (s : ClientLife) : Prop where
  ledger : s.ledger.Holds s.owned
  /-- What a pointer points to is there. -/
  held_alive : ∀ m, s.Held m → s.life m = .alive
  unborn : ∀ m, s.life m = .absent → s.loop m = .absent ∧ s.tcpFd m = false
  accepting : ∀ m, s.manager = .accepted m → s.life m = .absent
  older : ∀ m, s.accepted ≤ m → s.life m = .absent ∧ s.ledger.acquired m = 0
  /-- As long as a client handles requests, it has its descriptor. -/
  socket : ∀ m, s.loop m = .running ∨ s.loop m = .connecting ∨ s.manager = .made m ∨
    s.manager = .inserted m → s.fd m = true
  handed : ∀ m, s.tcpFd m = true → s.fd m = false

namespace Books

theorem init : init.Books where
  ledger := by
    have hnone : ClientLife.init.owned = ∅ := by
      ext m
      simp [owned, Owned, ClientLife.init]
    rw [hnone]
    exact Ledger.holds_empty
  held_alive := by
    simp [Held, Kept, ManagerPc.client, ReaperPc.client, ClientLife.init]
  unborn := fun _ _ => ⟨rfl, rfl⟩
  accepting := nofun
  older := fun _ _ => ⟨rfl, rfl⟩
  socket := by simp [ClientLife.init]
  handed := nofun

/-- A client that is there has been accepted, so that its number is not going to be given out
again. -/
theorem alive_lt (h : s.Books) {m : ℕ} (halive : s.life m = .alive) : m < s.accepted := by
  by_contra hge
  rw [(h.older m (Nat.le_of_not_lt hge)).1] at halive
  cases halive

/-! ### The ledger -/

/-- A step that opens and closes nothing, and moves no descriptor between what has one and
what has none. -/
theorem ledger_of_same (h : s.Books) (hledger : s₁.ledger = s.ledger)
    (howned : ∀ m, s₁.Owned m ↔ s.Owned m) : s₁.ledger.Holds s₁.owned := by
  rw [hledger]
  refine h.ledger.congr ?_
  ext m
  exact (howned m).symm

/-- A descriptor is closed by whoever has it, and nobody has it afterwards. -/
theorem ledger_of_release (h : s.Books) (hledger : s₁.ledger = s.ledger.release n)
    (hn : s.Owned n) (howned : ∀ m, s₁.Owned m ↔ s.Owned m ∧ m ≠ n) :
    s₁.ledger.Holds s₁.owned := by
  rw [hledger]
  refine (h.ledger.release hn).congr ?_
  ext m
  exact (howned m).symm

theorem ledger_moves (h : s.Books) (hs : s.Moves l s₁ dropped) : s₁.ledger.Holds s₁.owned := by
  cases hs with
  | accepted hmanager hclosing =>
    refine (h.ledger.acquire (h.older _ Nat.le.refl).2).congr ?_
    ext m
    simp only [owned, Owned, Set.mem_insert_iff, Set.mem_ofPred_eq, hmanager,
      ManagerPc.accepted.injEq, reduceCtorEq, false_or, eq_comm]
  | @made n hmanager =>
    have habsent := h.accepting n hmanager
    refine h.ledger_of_same rfl fun m => ?_
    have hunborn := h.unborn m
    grind [Owned, Life.IsChild]
  | @unmade n hmanager =>
    have habsent := h.accepting n hmanager
    have hunborn := h.unborn n habsent
    refine h.ledger_of_release rfl (Or.inl hmanager) fun m => ?_
    grind [Owned, Life.IsChild]
  | @connected n hloop =>
    -- the descriptor changes hands
    have halive := h.held_alive n (Or.inr (Or.inr (Or.inl hloop)))
    refine h.ledger_of_same rfl fun m => ?_
    rcases eq_or_ne m n with rfl | hne
    · simp [Owned, setLoop, Life.IsChild, halive, or_comm]
    · simp [Owned, setLoop, hne]
  | @connClosed n hfd =>
    have hhanded := h.handed n hfd
    refine h.ledger_of_release rfl (Or.inr (Or.inr hfd)) fun m => ?_
    have haccepting := h.accepting n
    have hunborn := h.unborn n
    grind [Owned, Life.IsChild]
  | @destroyed n hdying hloop =>
    have haccepting := h.accepting n
    have hhanded := h.handed n
    by_cases hfd : s.fd n = true
    · rw [if_pos hfd]
      refine h.ledger_of_release rfl (Or.inr (Or.inl ⟨Or.inr hdying, hfd⟩)) fun m => ?_
      grind [Owned, Life.IsChild]
    · rw [if_neg hfd]
      refine h.ledger_of_same rfl fun m => ?_
      grind [Owned, Life.IsChild]
  | _ => exact h.ledger_of_same rfl fun m => by grind [Owned, setLoop, post]

/-! ### The pointers -/

theorem held_alive_moves (h : s.Books) (ho : s.Order) (hs : s.Moves l s₁ dropped) :
    ∀ m, s₁.Held m → s₁.life m = .alive := by
  have hheld := h.held_alive
  simp only [Held, Kept] at hheld ⊢
  cases hs with
  | made hmanager => grind [ManagerPc.client]
  | held halive => grind
  | @connecting n hloop =>
    have halive := h.held_alive n (Or.inl (ho.kept n (Or.inl hloop)))
    grind [setLoop]
  | @endedPosted n hloop =>
    have halive := h.held_alive n (Or.inr (Or.inr (Or.inr (Or.inl hloop))))
    simp only [setLoop_clients, setLoop_reapClients, setLoop_reaper, setLoop_manager, setLoop_refs,
      setLoop_loop, setLoop_life, post_clients, post_reaper, post_manager, post_refs, post_loop,
      post_life, mem_post_reapClients]
    grind
  | _ => first | exact hheld | grind [setLoop, ReaperPc.client, ManagerPc.client]

theorem unborn_moves (h : s.Books) (hs : s.Moves l s₁ dropped) :
    ∀ m, s₁.life m = .absent → s₁.loop m = .absent ∧ s₁.tcpFd m = false := by
  have hunborn := h.unborn
  cases hs with
  | @started n hmanager =>
    have halive := h.held_alive n (Or.inr (Or.inl (by rw [hmanager]; rfl)))
    grind
  | @connected n hloop =>
    have halive := h.held_alive n (Or.inr (Or.inr (Or.inl hloop)))
    grind
  | _ => first | exact hunborn | grind [post]

theorem accepting_moves (h : s.Books) (hs : s.Moves l s₁ dropped) :
    ∀ m, s₁.manager = .accepted m → s₁.life m = .absent := by
  have haccepting := h.accepting
  cases hs with
  | accepted hmanager =>
    have holder := h.older
    grind
  | _ => first | exact haccepting | grind [setLoop, post]

theorem older_moves (h : s.Books) (ho : s.Order) (hs : s.Moves l s₁ dropped) :
    ∀ m, s₁.accepted ≤ m → s₁.life m = .absent ∧ s₁.ledger.acquired m = 0 := by
  have holder := h.older
  cases hs with
  | accepted hmanager => grind [Ledger.acquire_of_ne]
  | made hmanager =>
    have hborn := ho.born _ (Or.inl hmanager)
    grind
  | destroyed hdying => grind [Ledger.release]
  | _ => exact holder

theorem socket_moves (h : s.Books) (ho : s.Order) (hs : s.Moves l s₁ dropped) :
    ∀ m, s₁.loop m = .running ∨ s₁.loop m = .connecting ∨ s₁.manager = .made m ∨
      s₁.manager = .inserted m → s₁.fd m = true := by
  have hsocket := h.socket
  cases hs with
  | connected hloop =>
    have hfresh := ho.fresh
    grind [setLoop]
  | _ => first | exact hsocket | grind [setLoop, post]

theorem handed_moves (h : s.Books) (hs : s.Moves l s₁ dropped) :
    ∀ m, s₁.tcpFd m = true → s₁.fd m = false := by
  have hhanded := h.handed
  cases hs with
  | @made n hmanager =>
    have hunborn := h.unborn n (h.accepting n hmanager)
    grind
  | _ => first | exact hhanded | grind [setLoop, post]

theorem moves (h : s.Books) (ho : s.Order) (hs : s.Moves l s₁ dropped) : s₁.Books where
  ledger := h.ledger_moves hs
  held_alive := h.held_alive_moves ho hs
  unborn := h.unborn_moves hs
  accepting := h.accepting_moves hs
  older := h.older_moves ho hs
  socket := h.socket_moves ho hs
  handed := h.handed_moves hs

/-- **The last pointer to a client has gone**, and its destructor begins. The descriptor is still
its own. -/
theorem settle (h : s.Books) (hn : s.life n = .alive) : (s.settle n).Books := by
  unfold ClientLife.settle
  by_cases hheld : s.Held n
  · rw [if_pos hheld]
    exact h
  rw [if_neg hheld]
  refine ⟨?_, ?_, ?_, ?_, ?_, h.socket, h.handed⟩
  · refine h.ledger_of_same rfl fun m => ?_
    grind [Owned, Life.IsChild]
  · rintro m (hm : s.Held m)
    have hne : m ≠ n := by
      rintro rfl
      exact hheld hm
    exact (Function.update_of_ne hne ..).trans (h.held_alive m hm)
  · have hunborn := h.unborn
    grind
  · have haccepting := h.accepting
    grind
  · have holder := h.older
    grind

end Books

/-! ### Runs -/

/-- What is there has a pointer to it, but for what a pointer has just gone from. -/
theorem alive_held_moves (h : ∀ m, s.life m = .alive → s.Held m)
    (hs : s.Moves l s₁ dropped) : ∀ m, s₁.life m = .alive → s₁.Held m ∨ dropped = some m := by
  simp only [Held, Kept] at h ⊢
  cases hs with
  | made hmanager => grind [ManagerPc.client]
  | inserted hmanager => grind [ManagerPc.client]
  | failed hmanager => grind [ManagerPc.client]
  | unlisted hmanager => grind [ManagerPc.client]
  | _ => first | exact fun m hm => Or.inl (h m hm) |
    grind [setLoop, post, ReaperPc.client, ManagerPc.client]

/-- A pointer goes from a client that is there, since there was one to it. -/
theorem dropped_alive (h : s.Books) (hs : s.Moves l s₁ (some n)) : s₁.life n = .alive := by
  have hheld := h.held_alive n
  simp only [Held, Kept] at hheld
  cases hs with
  | letGo hrefs => exact hheld (Or.inr (Or.inr (Or.inr (Or.inr hrefs))))
  | _ => grind [ReaperPc.client, ManagerPc.client]

/-- **The order and the books**, and that nothing is there without a pointer to it. -/
structure Inv (s : ClientLife) : Prop where
  order : s.Order
  books : s.Books
  alive_held : ∀ m, s.life m = .alive → s.Held m

theorem inv_init : Inv init := ⟨.init, .init, nofun⟩

theorem inv_step (h : Inv s) (hs : s.step l = some s') : Inv s' := by
  obtain ⟨s₁, dropped, hmoves, rfl⟩ := moves_of_step hs
  have horder := h.order.moves hmoves fun m => h.books.alive_lt
  have hbooks := h.books.moves h.order hmoves
  have halive := alive_held_moves h.alive_held hmoves
  refine ⟨horder.settleAt dropped, ?_, ?_⟩
  · rcases dropped with - | n
    · exact hbooks
    · exact hbooks.settle (dropped_alive h.books hmoves)
  · rcases dropped with - | n
    · intro m hm
      exact (halive m hm).resolve_right nofun
    · intro m hm
      by_cases hheld : s₁.Held n
      · rw [settleAt, settle, if_pos hheld] at hm ⊢
        rcases halive m hm with hm' | hm'
        · exact hm'
        · exact Option.some.inj hm' ▸ hheld
      · rw [settleAt, settle, if_neg hheld] at hm ⊢
        dsimp only at hm
        have hne : m ≠ n := by
          rintro rfl
          rw [Function.update_self] at hm
          cases hm
        rw [Function.update_of_ne hne] at hm
        exact (halive m hm).resolve_right fun heq => hne (Option.some.inj heq).symm

theorem inv_of_reachable (h : clientLifeMachine.Reachable init s) : Inv s :=
  h.invariant inv_init fun _ _ _ hinv _ hs => inv_step hinv hs

/-- **Every descriptor has one owner, or has been closed**, in every run: what has been
accepted and not been closed is what the client manager, a client or a connection has, no
two of them have the same, and none is closed twice. -/
theorem descriptors_owned (h : clientLifeMachine.Reachable init s) :
    s.ledger.Holds s.owned ∧
      ∀ m, (s.manager = .accepted m → s.life m = .absent ∧ s.tcpFd m = false) ∧
        (s.tcpFd m = true → s.fd m = false) := by
  have hbooks := (inv_of_reachable h).books
  refine ⟨hbooks.ledger, fun m => ⟨fun hm => ?_, hbooks.handed m⟩⟩
  have habsent := hbooks.accepting m hm
  exact ⟨habsent, (hbooks.unborn m habsent).2⟩

/-- Two clients, of which the first gets a connection. Its descriptor is closed by the
connection, and the one of the second by the client. -/
theorem descriptors_owned_two : ∃ s : ClientLife, s.ledger.Holds s.owned ∧
    s.life 0 = .gone ∧ s.tcpFd 0 = true ∧ s.ledger.released 0 = 0 ∧
    s.life 1 = .gone ∧ s.ledger.released 1 = 1 := by
  obtain ⟨s, hr, hp⟩ := clientLifeMachine.exists_reaches_of_runOk (fun _ _ => True) init
    [.accept, .handle true, .handle true, .handle true, .accept, .handle true, .handle true,
      .handle true, .connect 0, .leave 1, .connected 0, .afterLoop 1, .afterLoop 0,
      .afterLoop 1, .afterLoop 0, .reap, .reap, .reap, .reap, .reap, .reap, .destroy 1,
      .destroy 0]
    (fun s => decide (s.life 0 = .gone ∧ s.tcpFd 0 = true ∧ s.ledger.released 0 = 0 ∧
      s.life 1 = .gone ∧ s.ledger.released 1 = 1)) (by decide)
  exact ⟨s, (descriptors_owned hr).1, of_decide_eq_true hp⟩

/-- Nobody is in the middle of something. What is open then is meant to be open. -/
structure AtRest (s : ClientLife) : Prop where
  manager : s.manager = .idle
  reaper : s.reaper = .idle
  reapClients : s.reapClients = []
  refs : ∀ m, s.refs m = 0
  loop : ∀ m, s.loop m = .absent ∨ s.loop m = .running ∨ s.loop m = .ended
  life : ∀ m, s.life m ≠ .dying

/-- **The manager only kills the living**: when its destructor comes to a client, there is still
a pointer to it. -/
def KillsLiving (s : ClientLife) : Label → Prop
  | .killChild n => s.life n = .alive
  | _ => True

/-- The pointer of a client that is there has not expired. -/
theorem none_notMem_post (h : none ∉ s.reapClients) (halive : s.life n = .alive) :
    none ∉ (s.post n).reapClients := by
  rw [post, selfref, if_pos halive, List.mem_append, List.mem_singleton]
  rintro (hmem | hmem)
  · exact h hmem
  · cases hmem

theorem notMem_moves (h : s.Books) (hnone : none ∉ s.reapClients) (hok : s.KillsLiving l)
    (hs : s.Moves l s₁ dropped) : none ∉ s₁.reapClients := by
  cases hs with
  | killed hl =>
    subst hl
    exact none_notMem_post hnone hok
  | posted hmanager =>
    exact none_notMem_post hnone (h.held_alive _ (Or.inr (Or.inl (by rw [hmanager]; rfl))))
  | endedPosted hloop =>
    exact none_notMem_post hnone (h.held_alive _ (Or.inr (Or.inr (Or.inr (Or.inl hloop)))))
  | reapPosted hreaper =>
    exact none_notMem_post hnone (h.held_alive _ (Or.inl (Or.inr (Or.inr (by rw [hreaper]; rfl)))))
  | popped hreaper hqueue | crashed hreaper hqueue =>
    rw [hqueue] at hnone
    exact fun hmem => hnone (List.mem_cons_of_mem _ hmem)
  | _ => exact hnone

/-- **The reaper crashes only if the manager kills the dying**: in every run in which its
destructor comes to living clients only, no null pointer is posted. -/
theorem not_crashed (h : clientLifeMachine.Reaches KillsLiving init s) :
    none ∉ s.reapClients ∧ s.reaper ≠ .crashed := by
  have hinv := h.invariant (I := fun s => Inv s ∧ none ∉ s.reapClients ∧ s.reaper ≠ .crashed)
    ⟨inv_init, List.not_mem_nil, nofun⟩ ?_
  · exact hinv.2
  rintro s l s' ⟨hinv, hnone, hreaper⟩ hok hs
  obtain ⟨s₁, dropped, hmoves, rfl⟩ := moves_of_step hs
  have hnone₁ := notMem_moves hinv.books hnone hok hmoves
  have hreaper₁ : s₁.reaper ≠ .crashed := by
    cases hmoves with
    | crashed _ hqueue => exact absurd (hqueue ▸ List.mem_cons_self) hnone
    | popped | reapErased | reapListed | reapPosted | reaped => nofun
    | _ => exact hreaper
  refine ⟨inv_step hinv hs, ?_⟩
  rcases dropped with - | n
  · exact ⟨hnone₁, hreaper₁⟩
  · rw [settleAt, settle]
    split_ifs <;> exact ⟨hnone₁, hreaper₁⟩

/-- **The manager kills a client whose destructor has begun**: the last pointer to it was one of
somebody who had told the clients something. -/
theorem exists_crashed : ∃ s : ClientLife, clientLifeMachine.Reachable init s ∧
    s.reaper = .crashed := by
  obtain ⟨s, hr, hp⟩ := clientLifeMachine.exists_reaches_of_runOk (fun _ _ => True) init
    [.accept, .handle true, .handle true, .handle true, .hold 0, .leave 0, .afterLoop 0,
      .afterLoop 0, .reap, .reap, .reap, .close, .letGo 0, .killChild 0, .reap]
    (fun s => decide (s.reaper = .crashed)) (by decide)
  exact ⟨s, hr, of_decide_eq_true hp⟩

end ClientLife

end Usbmuxd
