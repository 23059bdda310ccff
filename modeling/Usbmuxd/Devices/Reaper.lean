import Usbmuxd.Devices.Connections
import Usbmuxd.Tcp.Ending

/-!
# Whose request the reaper serves

A request to the reaper is a port, not a connection. The device reuses ports at once:
`start_connect` searches from the port it gave out last, and takes it again when it is
free. So a request can outlive the connection that posted it, and be served on the next
one.

A request is *pending* from its post until the reaper has erased what it found on that
port (`Usbmuxd.Conns.Pending`). What the proofs need to know of a step is collected in
`Usbmuxd.Conns.Books`: how it changes who is registered, what is pending, and what the
reaper works on. The invariant is that a registered connection on a port with a pending
request has called `kill` itself (`Usbmuxd.Conns.OwnRequests`), and what breaks it is
a port given out while a request for it is pending, or a call of `kill` by a connection
whose port has passed on (`Usbmuxd.Conns.NoStaleRequest`).
-/

namespace Usbmuxd

open Interleaving

namespace Conns

/-- The port the reaper is working on. Between taking it from the queue and the end of the
teardown, the request counts as pending. -/
def ReaperPc.port : ReaperPc → Option (BitVec 16)
  | .idle => none
  | .popped conport => some conport
  | .deconstructing conport _ => some conport

/-- Object `o` is in `_conns`, under `port`. There is one object at most for a port. -/
def Registered (d : Conns) (port : BitVec 16) (o : ℕ) : Prop := d.conns.lookup port = some o

/-- There is a request for `port`, which the reaper has not dealt with. -/
def Pending (d : Conns) (port : BitVec 16) : Prop :=
  port ∈ d.reapConnections ∨ d.reaper.port = some port

instance (d : Conns) (port : BitVec 16) (o : ℕ) : Decidable (d.Registered port o) :=
  inferInstanceAs (Decidable (_ = _))

instance (d : Conns) (port : BitVec 16) : Decidable (d.Pending port) :=
  inferInstanceAs (Decidable (_ ∨ _))

variable {d d' : Conns} {l : Label} {o : ℕ} {port : BitVec 16}

/-! ### What a step does to the books -/

/-- **The books after a step**: which ports have requests, which objects are registered, and how
far the reaper is. Nothing is said of what connections do by themselves. -/
structure Books (d : Conns) (l : Label) (d' : Conns) : Prop where
  made : d.made ≤ d'.made
  deconstructed : d.deconstructed = true → d'.deconstructed = true
  /-- A connection that is registered was so before, or has just been made. -/
  registered : ∀ port o, d'.Registered port o → d.Registered port o ∨
    o = d.made ∧ d'.made = d.made + 1 ∧ Search.FirstFrom (· + 1) (Free d.used) d.nextPort port ∧
      ∃ dport seq, l = .makeConn dport seq ∧ d'.obj o = Tcp.new port dport seq
  /-- A request stays pending as long as there is a connection on its port. -/
  kept : ∀ port o, d.Registered port o → d'.Registered port o → d.Pending port → d'.Pending port
  /-- A request that is pending was so before, or has just been posted. -/
  pending : ∀ port, d'.Pending port → d.Pending port ∨ d'.deconstructed = true ∨
    ∃ o l', l = .tcp o l' ∧ (d.obj o).CallsKill l' ∧ (d.obj o).core.sPort = port
  /-- A call of `kill` posts a request. -/
  posted : ∀ o l', l = .tcp o l' → (d.obj o).CallsKill l' → d'.Pending (d.obj o).core.sPort
  /-- The reaper tears down what it finds on the port. -/
  serving : ∀ port o, d'.reaper = .deconstructing port o →
    d'.conns = d.conns ∧ (d.reaper = .deconstructing port o ∨ d.Registered port o)
  /-- It lets go of a connection when it has erased it. -/
  stays : ∀ port o, d.reaper = .deconstructing port o →
    d'.reaper = d.reaper ∨ ∀ o', ¬d'.Registered port o'

namespace Books

/-- Steps that only post requests, and change neither `_conns` nor the reaper. -/
theorem of_posts (hconns : d'.conns = d.conns) (hreaper : d'.reaper = d.reaper)
    (hmade : d'.made = d.made) (hdec : d.deconstructed = true → d'.deconstructed = true)
    (new : List (BitVec 16)) (hposts : d'.reapConnections = d.reapConnections ++ new)
    (hnew : ∀ port ∈ new, d'.deconstructed = true ∨
      ∃ o l', l = .tcp o l' ∧ (d.obj o).CallsKill l' ∧ (d.obj o).core.sPort = port)
    (hkill : ∀ o l', l = .tcp o l' → (d.obj o).CallsKill l' → (d.obj o).core.sPort ∈ new) :
    d.Books l d' where
  made := hmade.ge
  deconstructed := hdec
  registered := fun port o h => Or.inl (by rwa [Registered, hconns] at h)
  kept := by
    intro port o _ _ hp
    rw [Pending, hposts, hreaper, List.mem_append]
    exact hp.imp_left Or.inl
  pending := by
    intro port hp
    rw [Pending, hposts, hreaper, List.mem_append] at hp
    rcases hp with (hp | hp) | hp
    · exact Or.inl (Or.inl hp)
    · exact Or.inr (hnew port hp)
    · exact Or.inl (Or.inr hp)
  posted := by
    intro o l' hl hk
    rw [Pending, hposts, List.mem_append]
    exact Or.inl (Or.inr (hkill o l' hl hk))
  serving := fun port o h => ⟨hconns, Or.inl (hreaper ▸ h)⟩
  stays := fun port o _ => Or.inl hreaper

/-- Steps that leave the books alone: most of what a connection does is of this kind. -/
theorem of_same (hconns : d'.conns = d.conns) (hreaper : d'.reaper = d.reaper)
    (hmade : d'.made = d.made) (hdec : d'.deconstructed = d.deconstructed)
    (hreap : d'.reapConnections = d.reapConnections) (hl : ∀ o l', l ≠ .tcp o l') :
    d.Books l d' :=
  of_posts hconns hreaper hmade (fun h => hdec.trans h) [] (by rw [hreap, List.append_nil])
    (fun port hp => absurd hp List.not_mem_nil) fun o l' he => absurd he (hl o l')

/-- `start_connect` registers a connection, and the reaper is not in the middle of a
teardown. -/
theorem of_makeConn {dport : BitVec 16} {seq : BitVec 32} (hguard : d.guardFree)
    (hfirst : Search.FirstFrom (· + 1) (Free d.used) d.nextPort port) :
    d.Books (.makeConn dport seq)
      { d with
        conns := d.conns.insert port d.made
        nextPort := port
        obj := Function.update d.obj d.made (Tcp.new port dport seq)
        made := d.made + 1
        entered := d.entered - 1 } := by
  have hnot : ∀ port o, d.reaper ≠ .deconstructing port o := by
    intro port o hr
    simp [guardFree, hr] at hguard
  refine ⟨Nat.le_succ _, id, ?_, fun _ _ _ _ hp => hp, fun _ hp => Or.inl hp,
    nofun, fun port' o h => absurd h (hnot _ _), fun port' o h => absurd h (hnot _ _)⟩
  intro port' o h
  by_cases hport : port' = port
  · subst hport
    obtain rfl : d.made = o := by simpa [Registered] using h
    exact Or.inr ⟨rfl, rfl, hfirst, dport, seq, rfl, by simp⟩
  · left
    rwa [Registered, AList.lookup_insert_ne hport] at h

end Books

/-- The reaper's steps. These are the ones that take a request from the queue and a connection
from `_conns`. -/
theorem reap_books (h : d.reap = some d') : d.Books .reap d' := by
  rcases reap_cases h with ⟨p, rest, hr, hq, rfl⟩ | ⟨p, o, hr, ho, rfl⟩ | ⟨p, hr, hnone, rfl⟩ |
    ⟨p, o, hr, -, rfl⟩ | ⟨p, o, c', hr, -, rfl⟩
  · -- the request is taken from the queue, and is still pending
    have hpending : ∀ port, Pending { d with reaper := .popped p, reapConnections := rest } port ↔
        d.Pending port := by
      intro port
      simp only [Pending, hr, hq, ReaperPc.port, List.mem_cons, Option.some.injEq, reduceCtorEq,
        or_false]
      rw [or_comm, eq_comm]
    exact ⟨Nat.le_refl _, id, fun _ _ hreg => Or.inl hreg,
      fun port _ _ _ hp => (hpending port).2 hp,
      fun port hp => Or.inl ((hpending port).1 hp), nofun, nofun,
      fun _ _ he => absurd (hr.symm.trans he) (by simp)⟩
  · refine ⟨Nat.le_refl _, id, fun _ _ hreg => Or.inl hreg, ?_,
      fun port hp => Or.inl ?_, nofun, ?_,
      fun _ _ he => absurd (hr.symm.trans he) (by simp)⟩
    · intro port _ _ _ hp
      simpa [Pending, hr, ReaperPc.port] using hp
    · simpa [Pending, hr, ReaperPc.port] using hp
    · intro port o' he
      cases he
      exact ⟨rfl, Or.inr ho⟩
  · -- there is no connection on the port, and the request is dropped
    refine ⟨Nat.le_refl _, id, fun _ _ hreg => Or.inl hreg, ?_,
      fun port hp => Or.inl (hp.imp_right nofun), nofun, nofun,
      fun _ _ he => absurd (hr.symm.trans he) (by simp)⟩
    intro port o hreg _ hp
    refine Or.inl (hp.resolve_right ?_)
    intro hport
    rw [hr, ReaperPc.port, Option.some.injEq] at hport
    rw [Registered, ← hport, hnone] at hreg
    cases hreg
  · -- the connection is erased, and the request has been dealt with
    have herased : ∀ o', ¬Registered { d with reaper := .idle, conns := d.conns.erase p } p o' :=
      fun o' hreg => by simp [Registered] at hreg
    refine ⟨Nat.le_refl _, id, fun port o' hreg => Or.inl ?_, ?_,
      fun port hp => Or.inl (hp.imp_right nofun), nofun, nofun, fun port o' he => Or.inr ?_⟩
    · by_cases hport : port = p
      · subst hport
        exact absurd hreg (herased o')
      · rwa [Registered, AList.lookup_erase_ne hport] at hreg
    · intro port o' _ hreg hp
      refine Or.inl (hp.resolve_right ?_)
      intro hport
      rw [hr, ReaperPc.port, Option.some.injEq] at hport
      subst hport
      exact herased o' hreg
    · rw [hr] at he
      cases he
      exact herased
  · exact .of_same rfl rfl rfl rfl rfl nofun

/-- **What a step does to the books.** -/
theorem step_books (h : d.step l = some d') : d.Books l d' := by
  cases l with
  | startConnect =>
    simp only [step] at h
    split_ifs at h <;> cases h <;> exact .of_same rfl rfl rfl rfl rfl (by simp)
  | makeConn dport seq =>
    simp only [step, Option.ite_none_right_eq_some] at h
    obtain ⟨⟨-, hguard⟩, h⟩ := h
    cases h
    rcases makeConn_cases (d := d) dport seq with ⟨port, hfirst, heq⟩ | ⟨port, heq⟩
    · rw [heq]
      exact .of_makeConn hguard hfirst
    · rw [heq]
      exact .of_same rfl rfl rfl rfl rfl (by simp)
  | tcp o l =>
    -- as many requests are posted as the step calls `kill`
    obtain ⟨-, -, c', hc, rfl⟩ := step_tcp h
    have hcount := Tcp.step_counted hc
    refine .of_posts rfl rfl rfl id _ rfl (fun port hp => Or.inr ⟨o, l, rfl, ?_⟩) ?_
    · obtain ⟨hne, rfl⟩ := List.mem_replicate.mp hp
      refine ⟨?_, rfl⟩
      by_contra hk
      rw [hcount.not_called hk, Nat.sub_self] at hne
      exact hne rfl
    · intro o' l' he hk
      cases he
      rw [hcount.called hk, List.mem_replicate]
      exact ⟨by omega, rfl⟩
  | dispatch s =>
    rcases step_dispatch h with rfl | ⟨o, -, rfl⟩ <;> exact .of_same rfl rfl rfl rfl rfl (by simp)
  | reap => exact reap_books h
  | deconstruct =>
    simp only [step, Option.ite_none_right_eq_some] at h
    obtain ⟨-, h⟩ := h
    cases h
    exact .of_posts rfl rfl rfl (fun _ => rfl) _ rfl (fun _ _ => Or.inl rfl) (by simp)

/-- A call of `kill` is never taken back, so that a connection which has called it can be told
ever after. -/
theorem step_kills_mono (h : d.step l = some d') (ho : o < d.made) :
    (d.obj o).core.kills ≤ (d'.obj o).core.kills := by
  rcases step_obj h o with he | ⟨l', hs, -⟩ | ⟨he, -⟩
  · rw [he]
  · exact Tcp.step_kills_mono hs
  · exact absurd he ho.ne

/-! ### The books agree with the objects -/

/-- **The books agree with the objects**: what is registered has been made, under the port that
the object has. -/
structure Coherent (d : Conns) : Prop where
  made : ∀ port o, d.Registered port o → o < d.made
  port : ∀ port o, d.Registered port o → (d.obj o).core.sPort = port
  serving : ∀ port o, d.reaper = .deconstructing port o → d.Registered port o

namespace Coherent

theorem init : init.Coherent where
  made := fun port o h => by simp [Registered, Conns.init] at h
  port := fun port o h => by simp [Registered, Conns.init] at h
  serving := nofun

theorem step (hd : d.Coherent) (h : d.step l = some d') : d'.Coherent := by
  have hbooks := step_books h
  refine ⟨?_, ?_, ?_⟩
  · intro port o hreg
    rcases hbooks.registered port o hreg with hreg | ⟨rfl, hmade, -⟩
    · exact lt_of_lt_of_le (hd.made port o hreg) hbooks.made
    · omega
  · intro port o hreg
    rcases hbooks.registered port o hreg with hreg | ⟨-, -, -, dport, seq, -, hnew⟩
    · rcases step_obj h o with he | ⟨l', hs, -⟩ | ⟨he, -⟩
      · rw [he]
        exact hd.port port o hreg
      · rw [Tcp.step_sPort hs]
        exact hd.port port o hreg
      · exact absurd he (hd.made port o hreg).ne
    · -- the connection that has just been made
      rw [hnew]
      rfl
  · intro port o hr
    obtain ⟨hconns, hr' | hreg⟩ := hbooks.serving port o hr
    · rw [Registered, hconns]
      exact hd.serving port o hr'
    · rwa [Registered, hconns]

end Coherent

/-! ### Stale requests -/

/-- **No request is left for the next connection**: `start_connect` takes no port with
a pending request, and `kill` is not called by a connection whose port has passed on to
one that has not called it. What happens once the whole device is being torn down does
not matter. -/
def NoStaleRequest (d : Conns) : Label → Prop
  | .makeConn _ _ => d.deconstructed = true ∨
      ∀ port, Search.FirstFrom (· + 1) (Free d.used) d.nextPort port → ¬d.Pending port
  | .tcp o l => d.deconstructed = true ∨ ((d.obj o).CallsKill l →
      ∀ o' ∈ d.conns.lookup (d.obj o).core.sPort, o' = o ∨ 0 < (d.obj o').core.kills)
  | _ => True

/-- Pending requests are the connection's own, or come from `deconstruct`. It may be otherwise
when a port is used again before an old request has been served. -/
structure OwnRequests (d : Conns) : Prop where
  coherent : d.Coherent
  own : ∀ port o, d.Registered port o → d.Pending port →
    0 < (d.obj o).core.kills ∨ d.deconstructed = true

namespace OwnRequests

theorem init : init.OwnRequests where
  coherent := .init
  own := fun port o h => by simp [Registered, Conns.init] at h

theorem step (hd : d.OwnRequests) (hok : d.NoStaleRequest l) (h : d.step l = some d') :
    d'.OwnRequests := by
  have hbooks := step_books h
  refine ⟨hd.coherent.step h, ?_⟩
  intro port o hreg' hp'
  -- what was so stays so
  have hkeep : ∀ o < d.made, 0 < (d.obj o).core.kills ∨ d.deconstructed = true →
      0 < (d'.obj o).core.kills ∨ d'.deconstructed = true := fun o ho =>
    Or.imp (fun hk => lt_of_lt_of_le hk (step_kills_mono h ho)) hbooks.deconstructed
  rcases hbooks.registered port o hreg' with hreg | ⟨-, -, hfirst, dport, seq, rfl, -⟩
  · have ho := hd.coherent.made port o hreg
    rcases hbooks.pending port hp' with hp | hdec | ⟨o₁, l', rfl, hk, hport⟩
    · exact hkeep o ho (hd.own port o hreg hp)
    · exact Or.inr hdec
    · rcases hok with hdec | hstale
      · exact hkeep o ho (Or.inr hdec)
      · rcases hstale hk o (by rw [hport]; exact hreg) with rfl | hpos
        · obtain ⟨-, -, c', hc, rfl⟩ := step_tcp h
          left
          have hcalled := (Tcp.step_counted hc).called hk
          simp only [observe, setObj_self]
          omega
        · exact hkeep o ho (Or.inl hpos)
  · rcases hbooks.pending port hp' with hp | hdec | ⟨o₁, l', he, -⟩
    · rcases hok with hdec | hfree
      · exact Or.inr (hbooks.deconstructed hdec)
      · exact absurd hp (hfree port hfirst)
    · exact Or.inr hdec
    · cases he

end OwnRequests

end Conns

/-! ### Teardown hits the connection it was asked for -/

open Conns

/-- **Teardown on request**: what the reaper tears down is what it is going to erase,
and it has called `kill` itself, unless the whole device is being torn down. -/
def Conns.TeardownOnRequest (d : Conns) : Prop :=
  ∀ port o, d.reaper = .deconstructing port o →
    d.Registered port o ∧ (0 < (d.obj o).core.kills ∨ d.deconstructed = true)

/-- **Teardown hits only the connection it was asked for**, in every run in which no
request is left for the next connection on a port. -/
theorem reaper_serves_own_request {d : Conns} (h : connsMachine.Reaches NoStaleRequest init d) :
    d.TeardownOnRequest := by
  have hown := h.invariant (I := OwnRequests) .init fun _ _ _ hi hok hs => hi.step hok hs
  intro port o hr
  have hreg := hown.coherent.serving port o hr
  exact ⟨hreg, hown.own port o hreg (Or.inr (by rw [hr]; rfl))⟩

/-- A segment without payload for the first connection of a device, with flags that are
given. -/
def Conns.controlSegment (flags : BitVec 8) : Segment where
  hdr :=
    { thSport := 62078
      thDport := 1
      thSeq := 0
      thAck := 0
      thOff := sizeofTcphdr / 4
      thFlags := flags
      thWin := 0x200 }
  payload := []
  fits := Nat.zero_le _

/-- Connections are made while nothing is pending, and work while they are registered. -/
def Conns.Settled (d : Conns) : Label → Prop
  | .makeConn _ _ => d.reapConnections = [] ∧ d.reaper = .idle
  | .tcp o _ => d.conns.lookup (d.obj o).core.sPort = some o
  | _ => True

instance (d : Conns) (l : Label) : Decidable (d.Settled l) := by
  unfold Conns.Settled
  split <;> infer_instance

theorem Conns.Settled.noStaleRequest {d : Conns} {l : Label} (h : d.Settled l) :
    d.NoStaleRequest l := by
  cases l with
  | makeConn dport seq =>
    obtain ⟨hq, hr⟩ := h
    exact Or.inr fun port _ hp => by simp [Pending, hq, hr, ReaperPc.port] at hp
  | tcp o l =>
    refine Or.inr fun _ o' ho' => Or.inl ?_
    exact Option.some.inj (ho'.symm.trans h)
  | startConnect | dispatch s | reap | deconstruct => trivial

/-- A connection that the device refuses is torn down, and it has asked for that itself. -/
theorem reaper_serves_refused_connection :
    ∃ d : Conns, d.reaper = .deconstructing 1 0 ∧ d.TeardownOnRequest := by
  obtain ⟨d, hr, hp⟩ := connsMachine.exists_reaches_of_runOk Settled init
    [.startConnect, .makeConn 62078 7, .dispatch (controlSegment thRst),
      .tcp 0 (.input (.lockStx 0 false)), .reap, .reap]
    (fun d => d.reaper = .deconstructing 1 0) (by decide)
  exact ⟨d, of_decide_eq_true hp,
    reaper_serves_own_request (hr.mono fun _ _ h => h.noStaleRequest)⟩

/-- **The reaper tears down the next connection**: the device resets a connection
twice, the first request is served, the port is given out again, and the second
request is served on the new connection. -/
theorem reaper_hits_next_connection :
    ∃ d, connsMachine.Reachable init d ∧ ¬d.TeardownOnRequest := by
  obtain ⟨d, hr, hp⟩ := connsMachine.exists_reaches_of_runOk (fun _ _ => True) init
    [.startConnect, .makeConn 62078 7, .dispatch (controlSegment (thSyn ||| thAck)),
      .tcp 0 (.input (.lockStx 0 false)), .dispatch (controlSegment thRst),
      .tcp 0 (.input (.lockStx 1 false)), .dispatch (controlSegment thRst),
      .tcp 0 (.input (.lockStx 2 false)), .reap, .reap, .reap, .reap, .reap,
      .startConnect, .makeConn 62078 9, .reap, .reap]
    (fun d => d.reaper = .deconstructing 1 1 ∧ (d.obj 1).core.kills = 0 ∧
      d.deconstructed = false) (by decide)
  obtain ⟨hreaper, hkills, hdec⟩ := of_decide_eq_true hp
  refine ⟨d, hr, ?_⟩
  intro hall
  rcases (hall 1 1 hreaper).2 with hpos | hdec'
  · omega
  · rw [hdec] at hdec'
    cases hdec'

end Usbmuxd
