import Usbmuxd.Sysconf.Preflight

/-!
# What a preflight leaves

A call of `preflight_device` goes through its functions in one order, and what each of them
acquires goes to a pointer of its own; so nothing is acquired twice, and no pointer is
overwritten. As long as it runs the pointers are its own (`Usbmuxd.Preflight.Talking`). When it
has installed the callback, what is left of it are the three pointers that the callback has
(`Usbmuxd.Preflight.HandedOver`), and these are freed by the thread that the callback makes.

So the pointers own what is in use, and in a run in which the callback is called once everything
is released once (`Usbmuxd.Preflight.released_once`).

A call has one resource at most of each kind, and acquires them in a fixed order. So the two
questions, whether something has been acquired before and whether a pointer is still null, can
both be answered by looking at where the call is (`Usbmuxd.Preflight.Pc.rank`). That is why
there is an order on the places, the pointers and the kinds, and why most lemmas here are about
a step from one rank to a higher one.

Once the callback has been installed, the call has returned, and all that matters is whose turn
it is: the thread of the notification client, or the thread that frees everything. They do not
run at the same time, since the second begins with waiting for the first
(`Usbmuxd.Preflight.Turn`).
-/

namespace Usbmuxd

open Interleaving Objects Sysconf

namespace Preflight

/-! ### The order of things -/

/-- The order in which the functions are called. A call never goes back, and where it ends it
gets the highest rank. -/
def Pc.rank : Pc → ℕ
  | .idle => 0
  | .newDevice => 1
  | .newClient => 2
  | .queryType => 3
  | .readRecord => 4
  | .hostID => 5
  | .startSession => 6
  | .removeRecord => 7
  | .getVersion => 8
  | .versionStr => 9
  | .systemBuid => 10
  | .setBuid => 11
  | .pair => 12
  | .startService => 13
  | .newNp => 14
  | .newCbData => 15
  | .observe => 16
  | .setCallback => 17
  | .returned | .threw => 18

/-- When a pointer is assigned to; the last four not by `preflight_device`. Before, it is null,
which is what keeps a resource from being lost. -/
def Ptr.rank : Ptr → ℕ
  | .dev => 1
  | .lockdown => 2
  | .lockdowntype => 3
  | .pairingRecord => 4
  | .hostid => 5
  | .prodVers => 8
  | .versionStr => 9
  | .service => 13
  | .np => 14
  | .cbData | .cbDev | .cbNp => 15
  | .userdata | .userdataDev | .userdataNp | .callbackLockdown => 18

/-- When something is acquired. A call that has not come so far has not acquired it, and no
other call can have. -/
def Kind.rank : Kind → ℕ
  | .dev => 1
  | .lockdown => 2
  | .lockdowntype => 3
  | .pairingRecord => 4
  | .hostid => 5
  | .prodVers => 8
  | .versionStr => 9
  | .service => 13
  | .np => 14
  | .cbData => 15
  | .callbackLockdown _ => 18

/-- What a call may have acquired. The clients of `lockdownd` that the callback makes are
counted by themselves. -/
def Call.Past (v : Call) : Kind → Prop
  | .callbackLockdown j => j ≤ v.calls ∧ ∀ x, v.notifier = .calling (.entered x) → j < v.calls
  | k => k.rank < v.pc.rank

/-- **The call has its pointers to itself**, and has not installed the callback. -/
structure Talking (n : ℕ) (pc : Pc) (ptr : Ptr → Option Item) : Prop where
  /-- A pointer is null until it is assigned to, -/
  set : ∀ p, ptr p ≠ none → p.rank < pc.rank
  /-- and after the end. -/
  ended : pc = .returned ∨ pc = .threw → ∀ p, ptr p = none
  dev : 1 < pc.rank → pc.rank ≤ 15 → ptr .dev = some (n, .dev)
  np : pc = .newCbData → ptr .np = some (n, .np)
  cbData : pc = .observe ∨ pc = .setCallback → ptr .cbData = some (n, .cbData) ∧
    ptr .cbDev = some (n, .dev) ∧ ptr .cbNp = some (n, .np)
  /-- What it has it has acquired itself. -/
  named : ∀ p r, ptr p = some r → r.1 = n

/-- **The callback has the pointers**, and `preflight_device` has none any more. Three resources
are left, and each has one pointer. -/
structure HandedOver (n : ℕ) (ptr : Ptr → Option Item) : Prop where
  cleaned : ∀ p ∈ cleanup, ptr p = none
  userdata : ptr .userdata = some (n, .cbData)
  userdataDev : ptr .userdataDev = some (n, .dev)
  userdataNp : ptr .userdataNp = some (n, .np)
  named : ∀ p r, ptr p = some r → r.1 = n

/-- Whose turn it is when the callback has been installed: the notification client, how often
the callback has been called, the threads that it has made, and its pointer. -/
inductive Turn : Notifier → ℕ → List DeleterPc → Option Item → Prop
  | waiting : Turn .waiting 0 [] none
  | entered (x : Notification) : Turn (.calling (.entered x)) 1 [] none
  | connected (x : Notification) (r : Option Item) : Turn (.calling (.connected x)) 1 [] r
  | setBuid (r : Option Item) : Turn (.calling .setBuid) 1 [] r
  | error (r : Option Item) : Turn (.calling .error) 1 [] r
  | deleting : Turn .waiting 1 [.join] none
  | joined (d : DeleterPc) (h : d ≠ .join) : Turn .joined 1 [d] none

/-- **What is known of a call**, with its callback. Before the callback is installed there is no
other thread, and afterwards there is no `preflight_device`. -/
inductive Known (n : ℕ) : Call → Prop
  | talking {pc : Pc} {ptr : Ptr → Option Item} (h : Talking n pc ptr) :
    Known n ⟨pc, ptr, .off, 0, []⟩
  | handedOver {ptr : Ptr → Option Item} {notifier : Notifier} {calls : ℕ}
    {deleters : List DeleterPc} (h : HandedOver n ptr)
    (turn : Turn notifier calls deleters (ptr .callbackLockdown)) :
    Known n ⟨.returned, ptr, notifier, calls, deleters⟩

/-- What a pointer points to has been acquired by its call. So calls do not get into each
other's way. -/
theorem Known.named {n : ℕ} {v : Call} (h : Known n v) : ∀ p r, v.ptr p = some r → r.1 = n := by
  cases h with
  | talking h => exact h.named
  | handedOver h => exact h.named

section Known

variable {n : ℕ} {v : Call} {notifier : Notifier} {calls : ℕ} {deleters : List DeleterPc}
  {r : Option Item}

/-- A call that has not returned has its pointers to itself. -/
theorem Known.talking_of_ne (h : Known n v) (hpc : v.pc ≠ .returned) :
    v.notifier = .off ∧ v.calls = 0 ∧ v.deleters = [] ∧ Talking n v.pc v.ptr := by
  cases h with
  | talking h => exact ⟨rfl, rfl, rfl, h⟩
  | handedOver => exact absurd rfl hpc

/-- If there is a client, the callback has been installed, -/
theorem Known.handed_of_ne (h : Known n v) (hn : v.notifier ≠ .off) :
    v.pc = .returned ∧ HandedOver n v.ptr ∧
      Turn v.notifier v.calls v.deleters (v.ptr .callbackLockdown) := by
  cases h with
  | talking => exact absurd rfl hn
  | handedOver h turn => exact ⟨rfl, h, turn⟩

/-- and if there is none, it has not. -/
theorem Known.talking_of_off (h : Known n v) (hoff : v.notifier = .off) :
    v.deleters = [] ∧ Talking n v.pc v.ptr := by
  cases h with
  | talking h => exact ⟨rfl, h⟩
  | handedOver _ turn =>
    cases hoff
    cases turn

/-- Nobody has been called back, and so there is no thread that frees anything. -/
theorem Turn.deleters_of_zero (h : Turn .waiting 0 deleters r) : deleters = [] := by
  cases h
  rfl

/-- While the client waits, the callback has no client of `lockdownd`, -/
theorem Turn.null_of_waiting (h : Turn .waiting calls deleters r) : r = none := by
  cases h <;> rfl

/-- nor when it has just been called. -/
theorem Turn.null_of_entered {x : Notification}
    (h : Turn (.calling (.entered x)) calls deleters r) : r = none := by
  cases h
  rfl

/-- The callback is called for the first time, and nobody has begun to free what it uses. -/
theorem Turn.calling {pc : CallbackPc} (h : Turn (.calling pc) calls deleters r) :
    calls = 1 ∧ deleters = [] := by
  cases h <;> exact ⟨rfl, rfl⟩

/-- There is one thread, after the callback. What it frees after its first step is freed when
the callback is over. -/
theorem Turn.eq_of_getElem? (h : Turn notifier calls deleters r) {i : ℕ} {d : DeleterPc}
    (hd : deleters[i]? = some d) :
    i = 0 ∧ calls = 1 ∧ deleters = [d] ∧ r = none ∧ (d ≠ .join → notifier = .joined) := by
  cases h with
  | deleting =>
    rw [List.getElem?_singleton] at hd
    split_ifs at hd with hi
    cases hd
    exact ⟨hi, rfl, rfl, rfl, fun hd => absurd rfl hd⟩
  | joined d' hd' =>
    rw [List.getElem?_singleton] at hd
    split_ifs at hd with hi
    cases hd
    exact ⟨hi, rfl, rfl, rfl, fun _ => rfl⟩
  | _ => cases hd

end Known

namespace Talking

variable {n : ℕ} {ptr : Ptr → Option Item} {p : Ptr} {k : Kind} {pc pc' : Pc}

/-- A pointer that is not to be assigned to yet is null. -/
theorem null (h : Talking n pc ptr) (hp : pc.rank ≤ p.rank) : ptr p = none := by
  by_contra hne
  exact absurd (h.set p hne) hp.not_gt

/-- The call goes on, and its pointers stay as they are. Some of them could be assigned to only
before, and are null for good. -/
theorem goto (h : Talking n pc ptr) (hlt : pc.rank < pc'.rank) (hpc : pc'.rank ≤ 14)
    (hdev : 1 < pc.rank ∨ pc'.rank ≤ 1) : Talking n pc' ptr where
  set p hp := (h.set p hp).trans hlt
  ended := by rintro (rfl | rfl) <;> exact absurd hpc (by decide)
  dev hlt' _ := h.dev (hdev.resolve_right hlt'.not_ge) (by omega)
  np := by
    rintro rfl
    exact absurd hpc (by decide)
  cbData := by rintro (rfl | rfl) <;> exact absurd hpc (by decide)
  named := h.named

/-- The call gets something, and goes on. The pointer has been null until now, so nothing is
lost by assigning to it. -/
theorem gets (h : Talking n pc ptr) (hlt : pc.rank < pc'.rank) (hp : p.rank < pc'.rank)
    (hpc : pc'.rank ≤ 15) (hdev : p = .dev ∧ k = .dev ∨ p ≠ .dev ∧ 1 < pc.rank)
    (hnp : pc' = .newCbData → p = .np ∧ k = .np) :
    Talking n pc' (Function.update ptr p (some (n, k))) where
  set q hq := by
    rcases eq_or_ne q p with rfl | hne
    · exact hp
    · rw [Function.update_of_ne hne] at hq
      exact (h.set q hq).trans hlt
  ended := by rintro (rfl | rfl) <;> exact absurd hpc (by decide)
  dev _ _ := by
    rcases hdev with ⟨rfl, rfl⟩ | ⟨hne, hdev⟩
    · exact Function.update_self ..
    · exact (Function.update_of_ne hne.symm ..).trans (h.dev hdev (by omega))
  np hcb := by
    obtain ⟨rfl, rfl⟩ := hnp hcb
    exact Function.update_self ..
  cbData := by rintro (rfl | rfl) <;> exact absurd hpc (by decide)
  named q r hq := by
    rcases eq_or_ne q p with rfl | hne
    · rw [Function.update_self] at hq
      exact (Option.some.inj hq) ▸ rfl
    · rw [Function.update_of_ne hne] at hq
      exact h.named q r hq

/-- The block with the `HostID` is left, and what has been allocated in it is freed there,
before the cleanup of the function. -/
theorem leaveBlock (h : Talking n .startSession ptr) :
    Talking n .startSession fun p => if p ∈ [Ptr.hostid] then none else ptr p where
  set p hp := h.set p fun hnull => hp (by simp [hnull])
  ended := by rintro (heq | heq) <;> cases heq
  dev := h.dev
  np := nofun
  cbData := by rintro (heq | heq) <;> cases heq
  named p r hp := by
    split_ifs at hp
    exact h.named p r hp

/-- After the cleanup all pointers are null, since the others are not assigned to. -/
theorem cleaned (h : Talking n pc ptr) (p : Ptr) :
    (if p ∈ cleanup then none else ptr p) = none := by
  have hle : pc.rank ≤ 18 := by cases pc <;> decide
  split_ifs with hin
  · rfl
  · refine h.null (hle.trans ?_)
    cases p <;> first | exact Nat.le.refl | exact absurd (by decide) hin

/-- The call ends, by returning or by an exception. Either way the cleanup has freed all that
the pointers point to. -/
theorem ends (h : Talking n pc ptr) (hpc : pc' = .returned ∨ pc' = .threw) :
    Talking n pc' fun p => if p ∈ cleanup then none else ptr p where
  set p hp := absurd (h.cleaned p) hp
  ended _ := h.cleaned
  dev _ hle := by rcases hpc with rfl | rfl <;> exact absurd hle (by decide)
  np := by
    rintro rfl
    rcases hpc with heq | heq <;> cases heq
  cbData := by rintro (rfl | rfl) <;> rcases hpc with heq | heq <;> cases heq
  named p r hp := by
    rw [h.cleaned p] at hp
    cases hp

/-- `cb_data` is made, and gets what it is to have: the device and the notification client
change from local pointers into fields. -/
theorem newCbData (h : Talking n .newCbData ptr) {ptr' : Ptr → Option Item}
    (hdata : ptr' .cbData = some (n, .cbData)) (hdev : ptr' .cbDev = ptr .dev)
    (hnp : ptr' .cbNp = ptr .np)
    (hother : ∀ p, ptr' p ≠ none → ptr p ≠ none ∨ p.rank = 15)
    (hnamed : ∀ p r, ptr' p = some r → r.1 = n) : Talking n .observe ptr' where
  set p hp := by
    rcases hother p hp with hold | hnew
    · exact (h.set p hold).trans (by decide)
    · rw [hnew]
      decide
  ended := by rintro (heq | heq) <;> cases heq
  dev _ hle := absurd hle (by decide)
  np := nofun
  cbData _ := ⟨hdata, hdev.trans (h.dev (by decide) (by decide)), hnp.trans (h.np rfl)⟩
  named := hnamed

/-- The notifications are observed, and it is only after this that the callback can be
installed. -/
theorem observe (h : Talking n .observe ptr) : Talking n .setCallback ptr where
  set p hp := (h.set p hp).trans (by decide)
  ended := by rintro (heq | heq) <;> cases heq
  dev _ hle := absurd hle (by decide)
  np := nofun
  cbData _ := h.cbData (Or.inl rfl)
  named := h.named

end Talking

variable {σ D V : Type} {s s' : Preflight σ D} {n : ℕ} {p : Ptr} {k : Kind} {pc pc₀ : Pc}

/-- **What holds at any time**: the pointers own what is in use, and the calls are in order. -/
structure Inv (s : Preflight σ D) : Prop where
  owned : s.ledger.Owned s.own
  past : ∀ n k, s.ledger.acquired (n, k) ≠ 0 → (s.view n).Past k
  known : ∀ n, Known n (s.view n)

theorem inv_init (store : σ) : (init store : Preflight σ D).Inv where
  owned := Ledger.Owned.start.congr fun q => own_of_nil rfl q.2
  past _ _ h := absurd rfl h
  known n := .talking ⟨nofun, (by rintro (heq | heq) <;> cases heq), nofun, nofun,
    (by rintro (heq | heq) <;> cases heq), nofun⟩

/-- Only one call has changed. This is all that has to be shown of a step: the ledger, what may
have been acquired, and the pointers of this one call. -/
theorem Inv.of_only (h : s.Inv) (honly : Only n s s') (howned : s'.ledger.Owned s'.own)
    (hpast : ∀ k, s'.ledger.acquired (n, k) ≠ 0 → (s'.view n).Past k)
    (hknown : Known n (s'.view n)) : s'.Inv where
  owned := howned
  past m k hk := by
    rcases eq_or_ne m n with rfl | hne
    · exact hpast k hk
    · rw [honly.acquired m hne] at hk
      rw [honly.view m hne]
      exact h.past m k hk
  known m := by
    rcases eq_or_ne m n with rfl | hne
    · exact hknown
    · rw [honly.view m hne]
      exact h.known m

/-! ### The calls of `preflight_device` -/

/-- A call that has not returned has its pointers to itself, and there is no callback that might
use them. -/
theorem Inv.talking (h : s.Inv) (hpc : s.pc n ≠ .returned) :
    s.notifier n = .off ∧ s.calls n = 0 ∧ s.deleters n = [] ∧
      Talking n (s.pc n) fun p => s.ptr (n, p) :=
  (h.known n).talking_of_ne hpc

/-- What is behind in the order stays behind, as a call only goes on. -/
theorem Call.Past.mono {v v' : Call} (h : v.Past k) (hpc : v.pc.rank ≤ v'.pc.rank)
    (hnotifier : v'.notifier = v.notifier) (hcalls : v'.calls = v.calls) : v'.Past k := by
  cases k with
  | callbackLockdown j =>
    simp only [Past, hnotifier, hcalls]
    exact h
  | _ => exact Nat.lt_of_lt_of_le h hpc

/-- A call goes on that has acquired nothing. It may have assigned to pointers, as long as they
point to what it had. -/
theorem Inv.goes (h : s.Inv) (hpc : s.pc n ≠ .returned) (honly : Only n s s')
    (hle : (s.pc n).rank ≤ pc.rank) {ptr : Ptr → Option Item}
    (hview : s'.view n = { s.view n with ptr := ptr, pc := pc })
    (hledger : s'.ledger.acquired = s.ledger.acquired) (howned : s'.ledger.Owned s'.own)
    (htalking : Talking n pc ptr) : s'.Inv := by
  obtain ⟨hoff, hcalls, hdel, -⟩ := h.talking hpc
  refine h.of_only honly howned (fun k hk => ?_) ?_
  · rw [hledger] at hk
    rw [hview]
    exact (h.past n k hk).mono hle rfl rfl
  · rw [hview, view, hoff, hcalls, hdel]
    exact .talking htalking

theorem Inv.goto (h : s.Inv) (hpc : s.pc n = pc₀)
    (hrank : (1 < pc₀.rank ∨ pc.rank ≤ 1) ∧ pc₀.rank < pc.rank ∧ pc.rank ≤ 14) :
    (s.goto n pc).Inv := by
  subst hpc
  have hne : s.pc n ≠ .returned := by
    intro heq
    rw [heq] at hrank
    exact absurd (hrank.2.1.trans_le hrank.2.2) (by decide)
  exact h.goes hne (only_goto ..) hrank.2.1.le (view_goto ..) rfl h.owned
    ((h.talking hne).2.2.2.goto hrank.2.1 hrank.2.2 hrank.1)

theorem Inv.ends (h : s.Inv) (hpc : s.pc n ≠ .returned) (hend : pc = .returned ∨ pc = .threw) :
    (s.ends n pc).Inv := by
  obtain ⟨-, -, hdel, htalking⟩ := h.talking hpc
  have hrank : (s.pc n).rank ≤ pc.rank := by
    rcases hend with rfl | rfl <;> cases s.pc n <;> decide
  exact h.goes hpc (only_ends ..) hrank (view_ends ..) (Ledger.freeAll_acquired ..)
    (owned_ends h.owned hdel pc) (htalking.ends hend)

theorem Inv.leaveBlock (h : s.Inv) (hpc : s.pc n = .startSession) :
    (s.frees n [.hostid]).Inv := by
  have hne : s.pc n ≠ .returned := by rw [hpc]; nofun
  obtain ⟨-, -, hdel, htalking⟩ := h.talking hne
  have hview : (s.frees n [.hostid]).view n = { s.view n with
      ptr := fun p => if p ∈ [Ptr.hostid] then none else (s.view n).ptr p
      pc := .startSession } := by
    rw [view_frees, view, hpc]
  rw [hpc] at htalking
  exact h.goes hne (only_frees ..) (hpc ▸ Nat.le.refl) hview (Ledger.freeAll_acquired ..)
    (owned_frees h.owned hdel (List.nodup_singleton _)) htalking.leaveBlock

theorem Call.past_iff {v : Call} (hk : k.rank ≤ 15) : v.Past k ↔ k.rank < v.pc.rank := by
  cases k with
  | callbackLockdown j => exact absurd hk (by rw [Kind.rank]; decide)
  | _ => exact Iff.rfl

/-- A call gets what it has not acquired before, and puts it where nothing has been. -/
theorem Inv.owned_gets (h : s.Inv) (hpc : s.pc n ≠ .returned) (hk : k.rank = (s.pc n).rank)
    (hp : p.rank = (s.pc n).rank) (hle : (s.pc n).rank ≤ 15) :
    (s.gets n p k).ledger.Owned (s.gets n p k).own := by
  obtain ⟨-, -, hdel, htalking⟩ := h.talking hpc
  refine Preflight.owned_gets h.owned hdel (htalking.null hp.ge) ?_
  by_contra hne
  have hlt := (Call.past_iff (hk.trans_le hle)).mp (h.past n k hne)
  exact absurd hk hlt.ne

/-- What it may have acquired then: the new kind too, as its place is behind the call now. -/
theorem Inv.past_gets (h : s.Inv) (hk : k.rank = (s.pc n).rank) (hle : (s.pc n).rank ≤ 15)
    (hlt : (s.pc n).rank < pc.rank) {k' : Kind}
    (hk' : (s.ledger.acquire (n, k)).acquired (n, k') ≠ 0) :
    { s.view n with pc := pc }.Past k' := by
  rcases eq_or_ne k' k with rfl | hne
  · exact (Call.past_iff (hk.trans_le hle)).mpr (hk.trans_lt hlt)
  · rw [Ledger.acquire_of_ne fun heq => hne (Prod.mk.inj heq).2] at hk'
    exact (h.past n k' hk').mono hlt.le rfl rfl

theorem Inv.gets (h : s.Inv) (hpc : s.pc n = pc₀) (hk : k.rank = pc₀.rank)
    (hp : p.rank = pc₀.rank) (hpcs : pc₀.rank < pc.rank ∧ pc.rank ≤ 15)
    (hdev : p = .dev ∧ k = .dev ∨ p ≠ .dev ∧ 1 < pc₀.rank)
    (hnp : pc = .newCbData → p = .np ∧ k = .np) : ((s.gets n p k).goto n pc).Inv := by
  subst hpc
  obtain ⟨hlt, hle⟩ := hpcs
  have hne : s.pc n ≠ .returned := by
    intro heq
    rw [heq] at hlt
    exact absurd (hlt.trans_le hle) (by decide)
  obtain ⟨hoff, hcalls, hdel, htalking⟩ := h.talking hne
  have hrank : (s.pc n).rank ≤ 15 := hlt.le.trans hle
  refine h.of_only ((only_gets ..).trans (only_goto ..)) (h.owned_gets hne hk hp hrank)
    (fun k' hk' => ?_) ?_
  · rw [view_goto, view_gets]
    exact h.past_gets hk hrank hlt hk'
  · rw [view_goto, view_gets, view, hoff, hcalls, hdel]
    exact .talking (htalking.gets hlt (hp.trans_lt hlt) hle hdev hnp)

/-- The pointers of `np_cb_data` are filled, and the local ones are set to null. -/
theorem Inv.newCbData (h : s.Inv) (hpc : s.pc n = .newCbData) :
    ((((s.gets n .cbData .cbData).moves n .dev .cbDev).moves n .np .cbNp).goto n .observe).Inv := by
  have hne : s.pc n ≠ .returned := by rw [hpc]; nofun
  obtain ⟨hoff, hcalls, hdel, htalking⟩ := h.talking hne
  have hrank : (s.pc n).rank = 15 := by rw [hpc]; rfl
  have hcbDev : s.ptr (n, .cbDev) = none := htalking.null hrank.le
  have hcbNp : s.ptr (n, .cbNp) = none := htalking.null hrank.le
  have hdata := h.owned_gets (k := .cbData) (p := .cbData) hne hrank.symm hrank.symm hrank.le
  have hdev := owned_moves (p := .dev) (q := .cbDev) hdata hdel nofun (by simp [hcbDev])
  have hnp := owned_moves (p := .np) (q := .cbNp) hdev hdel nofun (by simp [hcbNp])
  refine h.of_only ((((only_gets ..).trans (only_moves ..)).trans (only_moves ..)).trans
    (only_goto ..)) hnp (fun k hk => ?_) ?_
  · rw [view_goto]
    exact h.past_gets (k := .cbData) hrank.symm hrank.le (by rw [hrank]; decide) hk
  · rw [hpc] at htalking
    have hview : ((((s.gets n .cbData .cbData).moves n .dev .cbDev).moves n .np .cbNp).goto n
        .observe).view n = ⟨.observe, _, s.notifier n, s.calls n, s.deleters n⟩ := view_goto ..
    rw [hview, hoff, hcalls, hdel]
    refine .talking (htalking.newCbData ?_ ?_ ?_ (fun p hp => ?_) fun p r hp => ?_)
    · simp [view]
    · simp [view]
    · simp [view]
    · simp only [view, moves_ptr, gets_ptr] at hp
      cases p <;> simp_all [Ptr.rank]
    · simp only [view, moves_ptr, gets_ptr] at hp
      split_ifs at hp <;> first | exact Option.some.inj hp ▸ rfl | exact htalking.named _ r hp

theorem Inv.observe (h : s.Inv) (hpc : s.pc n = .observe) : (s.goto n .setCallback).Inv := by
  have hne : s.pc n ≠ .returned := by rw [hpc]; nofun
  have htalking := (h.talking hne).2.2.2
  rw [hpc] at htalking
  exact h.goes hne (only_goto ..) (by rw [hpc]; decide) (view_goto ..) rfl h.owned
    htalking.observe

/-- **The callback is installed.** From here on the pointers are the callback's, and the call
that returns has nothing to free. -/
theorem Inv.handOver (h : s.Inv) (hpc : s.pc n = .setCallback) :
    ((s.handOver n).ends n .returned).Inv := by
  have hne : s.pc n ≠ .returned := by rw [hpc]; nofun
  obtain ⟨-, hcalls, hdel, htalking⟩ := h.talking hne
  rw [hpc] at htalking
  have hdata : s.ptr (n, .userdata) = none := htalking.null (by decide)
  have hdev : s.ptr (n, .userdataDev) = none := htalking.null (by decide)
  have hnp : s.ptr (n, .userdataNp) = none := htalking.null (by decide)
  have hlockdown : s.ptr (n, .callbackLockdown) = none := htalking.null (by decide)
  obtain ⟨hcbData, hcbDev, hcbNp⟩ := htalking.cbData (Or.inr rfl)
  have hdel' : (s.handOver n).deleters n = [] := hdel
  have hown := owned_ends (owned_handOver h.owned hdel hdev hnp hdata) hdel' .returned
  have hview : ((s.handOver n).ends n .returned).view n = ⟨.returned,
      fun p => if p ∈ cleanup then none else (s.handOver n).ptr (n, p), .waiting, s.calls n,
      s.deleters n⟩ := by
    rw [view_ends, Preflight.handOver, view_notifierAt]
    rfl
  have hledger : ((s.handOver n).ends n .returned).ledger.acquired = s.ledger.acquired :=
    Ledger.freeAll_acquired ..
  have hptr : ∀ p, (s.handOver n).ptr (n, p) = (((s.moves n .cbDev .userdataDev).moves n .cbNp
      .userdataNp).moves n .cbData .userdata).ptr (n, p) := fun _ => rfl
  refine h.of_only ((only_handOver s n).trans (only_ends ..)) hown (fun k hk => ?_) ?_
  · rw [hledger] at hk
    have hpast := h.past n k hk
    rw [hview]
    cases k with
    | callbackLockdown j => exact ⟨hpast.1, nofun⟩
    | _ =>
      rw [view, hpc] at hpast
      exact Nat.lt_of_lt_of_le hpast (Nat.le_succ 17)
  · rw [hview, hcalls, hdel]
    refine .handedOver ⟨fun p hp => if_pos hp, ?_, ?_, ?_, fun p r hp => ?_⟩ ?_
    · simp [hptr, cleanup, hcbData]
    · simp [hptr, cleanup, hcbDev]
    · simp [hptr, cleanup, hcbNp]
    · simp only [hptr, moves_ptr] at hp
      split_ifs at hp <;> exact htalking.named _ r hp
    · have hnull : (if Ptr.callbackLockdown ∈ cleanup then none else
          (s.handOver n).ptr (n, .callbackLockdown)) = none := by
        simp [hptr, cleanup, hlockdown]
      rw [hnull]
      exact .waiting

/-- The other fields do not matter: neither the files nor the serial numbers have anything to do
with what is freed. -/
theorem Inv.others (h : s.Inv) (store : σ) (serial : ℕ → List Char) (record : ℕ → Option D)
    (refused : List (List Char × D)) (crashed : Bool) :
    Inv { s with
      store := store
      serial := serial
      record := record
      refused := refused
      crashed := crashed } :=
  ⟨h.owned, h.past, h.known⟩

theorem Inv.orThrow (h : s.Inv) (hpc : s.pc n ≠ .returned) (ok : Bool) (h' : s'.Inv) :
    (s.orThrow n ok s').Inv := by
  cases ok with
  | false => exact h.ends hpc (Or.inr rfl)
  | true => exact h'

/-- A function of `sysconf.cpp` is called, which may throw. Then the cleanup runs, as after any
other exception. -/
theorem Inv.asks (h : s.Inv) (hpc : s.pc n = pc₀) (hne : s.pc n ≠ .returned)
    (hrank : (1 < pc₀.rank ∨ pc.rank ≤ 1) ∧ pc₀.rank < pc.rank ∧ pc.rank ≤ 14) (store : σ)
    (ok : Bool) :
    let s₁ : Preflight σ D := { s with store := store }
    (s₁.orThrow n ok (s₁.goto n pc)).Inv := by
  have hstore : Inv { s with store := store } := h.others ..
  exact hstore.orThrow hne ok (hstore.goto hpc hrank)

theorem goto_ends (s : Preflight σ D) (n : ℕ) (pc pc' : Pc) :
    (s.goto n pc).ends n pc' = s.ends n pc' := by
  simp only [ends, goto, frees, Function.update_idem]

variable {O : Object σ (Store.Call D V) (Store.Result D V)} {hostID : D → Option (List Char)}
  {a : Answer}

/-- **A step of `preflight_device`** keeps the invariant. There is one case for each place, and
each of them is one of the steps above. -/
theorem Inv.go (h : s.Inv) (hs : s.goStep O hostID n a (s.pc n) = some s') : s'.Inv := by
  have hne : s.pc n ≠ .returned := by
    intro heq
    rw [heq] at hs
    cases hs
  cases hpc : s.pc n with
  | idle | threw =>
    rw [hpc] at hs
    cases hs
  | returned => exact absurd hpc hne
  | newDevice | newClient | hostID | getVersion | versionStr | startService | newNp =>
    rw [hpc] at hs
    cases hs
    exact h.orThrow hne _ (h.gets hpc rfl rfl (by decide) (by decide) (by decide))
  | queryType =>
    have hgot : ((s.gets n .lockdowntype .lockdowntype).goto n .readRecord).Inv :=
      h.gets hpc rfl rfl (by decide) (by decide) (by decide)
    rw [hpc] at hs
    cases hs
    refine h.orThrow hne _ ?_
    split_ifs
    · exact hgot
    · have hnot : ((s.gets n .lockdowntype .lockdowntype).goto n .readRecord).pc n ≠
        .returned := by rw [goto_pc]; nofun
      have hended := hgot.ends hnot (Or.inl rfl)
      rwa [goto_ends] at hended
  | readRecord =>
    rw [hpc, goStep] at hs
    dsimp only at hs
    split at hs <;> cases hs
    · have hgot : ((s.gets n .pairingRecord .pairingRecord).goto n .hostID).Inv :=
        h.gets hpc rfl rfl (by decide) (by decide) (by decide)
      exact hgot.others ..
    · exact (h.goto hpc (by decide)).others ..
  | startSession =>
    have hleft := h.leaveBlock hpc
    rw [hpc, goStep] at hs
    split at hs <;> cases hs
    · exact h.ends hne (Or.inl rfl)
    · exact (hleft.goto hpc (by decide)).others ..
    · exact hleft.goto hpc (by decide)
  | removeRecord | systemBuid =>
    rw [hpc] at hs
    cases hs
    exact h.asks hpc hne (by decide) ..
  | setBuid =>
    rw [hpc] at hs
    cases hs
    exact h.orThrow hne _ (h.goto hpc (by decide))
  | pair =>
    rw [hpc, goStep] at hs
    split at hs <;> cases hs
    · exact h.ends hne (Or.inl rfl)
    · exact h.ends hne (Or.inl rfl)
    · exact h.goto hpc (by decide)
    · exact h.ends hne (Or.inr rfl)
  | newCbData =>
    rw [hpc] at hs
    cases hs
    exact h.orThrow hne _ (h.newCbData hpc)
  | observe =>
    rw [hpc] at hs
    cases hs
    exact h.orThrow hne _ (h.observe hpc)
  | setCallback =>
    rw [hpc] at hs
    cases hs
    exact h.orThrow hne _ (h.handOver hpc)

/-! ### The callback -/

section HandedOver

variable {ptr : Ptr → Option Item}

/-- The pointer of `pairing_callback` is assigned to, which is a local one, so that the three
resources stay where they are, -/
theorem HandedOver.update (h : HandedOver n ptr) (k : Kind) :
    HandedOver n (Function.update ptr .callbackLockdown (some (n, k))) where
  cleaned p hp := by
    have hne : p ≠ .callbackLockdown := by
      rintro rfl
      exact absurd hp (by decide)
    rw [Function.update_of_ne hne]
    exact h.cleaned p hp
  userdata := h.userdata
  userdataDev := h.userdataDev
  userdataNp := h.userdataNp
  named p r hp := by
    rcases eq_or_ne p .callbackLockdown with rfl | hne
    · rw [Function.update_self] at hp
      exact Option.some.inj hp ▸ rfl
    · rw [Function.update_of_ne hne] at hp
      exact h.named p r hp

/-- or freed. -/
theorem HandedOver.free (h : HandedOver n ptr) :
    HandedOver n fun p => if p ∈ [Ptr.callbackLockdown] then none else ptr p where
  cleaned p hp := by rw [h.cleaned p hp, ite_self]
  userdata := h.userdata
  userdataDev := h.userdataDev
  userdataNp := h.userdataNp
  named p r hp := by
    split_ifs at hp
    exact h.named p r hp

end HandedOver

/-- A call that has installed the callback. -/
theorem Inv.handed (h : s.Inv) (hn : s.notifier n ≠ .off) :
    s.pc n = .returned ∧ HandedOver n (fun p => s.ptr (n, p)) ∧
      Turn (s.notifier n) (s.calls n) (s.deleters n) (s.ptr (n, .callbackLockdown)) :=
  (h.known n).handed_of_ne hn

/-- **It is somebody else's turn**, and the pointers stay as they are. Neither the ledger nor
any other call is touched. -/
theorem Inv.turns (h : s.Inv) (hn : s.notifier n ≠ .off) (honly : Only n s s')
    {notifier : Notifier} {calls : ℕ} {deleters : List DeleterPc}
    (hview : s'.view n = ⟨s.pc n, fun p => s.ptr (n, p), notifier, calls, deleters⟩)
    (hledger : s'.ledger.acquired = s.ledger.acquired) (howned : s'.ledger.Owned s'.own)
    (hcalls : ∀ j, j ≤ s.calls n → j ≤ calls ∧
      ∀ x, notifier = .calling (.entered x) → j < calls)
    (turn : Turn notifier calls deleters (s.ptr (n, .callbackLockdown))) : s'.Inv := by
  obtain ⟨hpc, hover, -⟩ := h.handed hn
  refine h.of_only honly howned (fun k hk => ?_) ?_
  · rw [hledger] at hk
    have hpast := h.past n k hk
    rw [hview]
    cases k with
    | callbackLockdown j => exact hcalls j hpast.1
    | _ => exact hpast
  · rw [hview, hpc]
    exact .handedOver hover turn

/-- The callback goes on. Its place matters only for the question whose turn it is. -/
theorem Inv.notifierAt (h : s.Inv) (hn : s.notifier n ≠ .off) {notifier : Notifier}
    (hnot : ∀ x, notifier ≠ .calling (.entered x))
    (turn : Turn notifier (s.calls n) (s.deleters n) (s.ptr (n, .callbackLockdown))) :
    (s.notifierAt n notifier).Inv :=
  h.turns hn (only_notifierAt ..) (view_notifierAt ..) rfl (owned_notifierAt h.owned n notifier)
    (fun _ hj => ⟨hj, fun x hx => absurd hx (hnot x)⟩) turn

/-- **The callback is called** for the first time. This is the place where it is used that it is
called once: a second call could run while another thread frees what it uses. -/
theorem Inv.entered (h : s.Inv) (hn : s.notifier n = .waiting) (hcalls : s.calls n = 0)
    (x : Notification) : (s.entered n x).Inv := by
  have hne : s.notifier n ≠ .off := by rw [hn]; nofun
  obtain ⟨-, -, hturn⟩ := h.handed hne
  rw [hn, hcalls] at hturn
  have hdel : s.deleters n = [] := hturn.deleters_of_zero
  have hnull : s.ptr (n, .callbackLockdown) = none := hturn.null_of_waiting
  have hview : (s.entered n x).view n =
      ⟨s.pc n, fun p => s.ptr (n, p), .calling (.entered x), 1, []⟩ := by
    rw [view_entered, view, hdel, hcalls]
  refine h.turns hne (only_entered ..) hview rfl
    (owned_notifierAt h.owned n (.calling (.entered x)))
    (fun j hj => ⟨by omega, fun _ _ => by omega⟩) ?_
  rw [hnull]
  exact .entered x

/-- The callback gets its client of `lockdownd`, which nobody else has a pointer to. -/
theorem Inv.connect (h : s.Inv) {x : Notification} (hn : s.notifier n = .calling (.entered x)) :
    ((s.gets n .callbackLockdown (.callbackLockdown (s.calls n))).notifierAt n
      (.calling (.connected x))).Inv := by
  have hne : s.notifier n ≠ .off := by rw [hn]; nofun
  obtain ⟨hpc, hover, hturn⟩ := h.handed hne
  rw [hn] at hturn
  obtain ⟨hcalls, hdel⟩ := hturn.calling
  have hnull : s.ptr (n, .callbackLockdown) = none := hturn.null_of_entered
  -- what has been acquired so far is from earlier calls
  have hfresh : s.ledger.acquired (n, .callbackLockdown (s.calls n)) = 0 := by
    by_contra hk
    exact absurd ((h.past n _ hk).2 x hn) (Nat.lt_irrefl _)
  have hown := owned_notifierAt (Preflight.owned_gets h.owned hdel hnull hfresh) n
    (.calling (.connected x))
  refine h.of_only ((only_gets ..).trans (only_notifierAt ..)) hown (fun k hk => ?_) ?_
  · rw [view_notifierAt, view_gets]
    rcases eq_or_ne k (.callbackLockdown (s.calls n)) with rfl | hkn
    · exact ⟨Nat.le.refl, nofun⟩
    · have hold : s.ledger.acquired (n, k) ≠ 0 := by
        have hacq : (s.ledger.acquire (n, .callbackLockdown (s.calls n))).acquired (n, k) =
          s.ledger.acquired (n, k) := Ledger.acquire_of_ne fun heq => hkn (Prod.mk.inj heq).2
        rw [← hacq]
        exact hk
      have hpast := h.past n k hold
      cases k with
      | callbackLockdown j => exact ⟨hpast.1, nofun⟩
      | _ => exact hpast
  · rw [view_notifierAt, view_gets, view, hpc, hcalls, hdel]
    exact .handedOver (hover.update _) (.connected x _)

/-- The callback frees its client and makes the thread, if it can. From here on the callback
uses nothing of what the thread frees. -/
theorem Inv.leave (h : s.Inv) (hn : s.notifier n = .calling .error) {notifier : Notifier}
    {deleters : List DeleterPc} (hnot : ∀ x, notifier ≠ .calling (.entered x))
    (hdeleters : ∀ d ∈ deleters, d.freed = []) (turn : Turn notifier 1 deleters none) :
    (((s.frees n [.callbackLockdown]).notifierAt n notifier).deletersAt n deleters).Inv := by
  have hne : s.notifier n ≠ .off := by rw [hn]; nofun
  obtain ⟨hpc, hover, hturn⟩ := h.handed hne
  rw [hn] at hturn
  obtain ⟨hcalls, hdel⟩ := hturn.calling
  have hfrees := owned_notifierAt (owned_frees h.owned hdel
    (List.nodup_singleton Ptr.callbackLockdown)) n notifier
  have hnone : ∀ d ∈ s.deleters n, d.freed = [] := by simp [hdel]
  refine h.of_only (((only_frees ..).trans (only_notifierAt ..)).trans (only_deletersAt ..))
    (owned_deletersAt hfrees hnone hdeleters) (fun k hk => ?_) ?_
  · have hold : s.ledger.acquired (n, k) ≠ 0 := by
      have hacq : (s.frees n [.callbackLockdown]).ledger.acquired = s.ledger.acquired :=
        Ledger.freeAll_acquired ..
      rw [← hacq]
      exact hk
    have hpast := h.past n k hold
    rw [view_deletersAt, view_notifierAt, view_frees]
    cases k with
    | callbackLockdown j => exact ⟨hpast.1, fun x hx => absurd hx (hnot x)⟩
    | _ => exact hpast
  · rw [view_deletersAt, view_notifierAt, view_frees, view, hpc, hcalls]
    exact .handedOver hover.free turn

/-- It cannot make it: an exception leaves the thread of the client, and the program ends. Up to
that point nothing has been freed twice or lost. -/
theorem Inv.abandon (h : s.Inv) (hn : s.notifier n = .calling .error) (hdel : s.deleters n = []) :
    (s.frees n [.callbackLockdown]).Inv := by
  have hleft : (((s.frees n [.callbackLockdown]).notifierAt n (.calling .error)).deletersAt n
      []).Inv := h.leave hn nofun (by simp) (.error none)
  have heq : ((s.frees n [.callbackLockdown]).notifierAt n (.calling .error)).deletersAt n [] =
      s.frees n [.callbackLockdown] := by
    rw [← hn, ← hdel]
    simp only [Preflight.notifierAt, deletersAt, frees, Function.update_eq_self]
  rwa [heq] at hleft

/-- **A step of `pairing_callback`** keeps the invariant, whatever notification it has been
called for. -/
theorem Inv.callback (h : s.Inv) (hs : s.callbackStep O n a (s.notifier n) = some s') :
    s'.Inv := by
  cases hn : s.notifier n with
  | off | waiting | joined =>
    rw [hn] at hs
    cases hs
  | calling pc =>
    have hne : s.notifier n ≠ .off := by rw [hn]; nofun
    have hturn := (h.handed hne).2.2
    rw [hn] at hturn
    obtain ⟨hcalls, hdel⟩ := hturn.calling
    have herror : (s.notifierAt n (.calling .error)).Inv :=
      h.notifierAt hne nofun (hcalls ▸ hdel ▸ .error _)
    rw [hn] at hs
    cases pc with
    | entered x =>
      simp only [callbackStep] at hs
      split_ifs at hs <;> cases hs
      · exact herror
      · exact h.connect hn
      · exact herror
    | connected x =>
      cases x with
      | requestHostBuid =>
        simp only [callbackStep] at hs
        split_ifs at hs <;> cases hs
        · have hset : (s.notifierAt n (.calling .setBuid)).Inv :=
            h.notifierAt hne nofun (hcalls ▸ hdel ▸ .setBuid _)
          exact hset.others ..
        · exact h.others ..
      | _ =>
        cases hs
        exact herror
    | setBuid =>
      simp only [callbackStep] at hs
      split_ifs at hs <;> cases hs
      · exact herror
      · exact h.others ..
    | error =>
      simp only [callbackStep, hdel, List.nil_append] at hs
      split_ifs at hs <;> cases hs
      · exact h.leave hn nofun (by simp [DeleterPc.freed]) .deleting
      · exact (h.abandon hn hdel).others ..

/-- A thread is there only when the callback has been called, and only after the join has it
freed anything. -/
theorem Inv.deleting (h : s.Inv) {i : ℕ} {d : DeleterPc} (hd : (s.deleters n)[i]? = some d) :
    s.notifier n ≠ .off ∧ i = 0 ∧ s.calls n = 1 ∧ s.deleters n = [d] ∧
      s.ptr (n, .callbackLockdown) = none ∧ (d ≠ .join → s.notifier n = .joined) := by
  have hne : s.notifier n ≠ .off := by
    intro hoff
    have hnone : s.deleters n = [] := ((h.known n).talking_of_off hoff).1
    rw [hnone] at hd
    cases hd
  exact ⟨hne, (h.handed hne).2.2.eq_of_getElem? hd⟩

/-- It frees something that it has not freed before, and that nobody else has a pointer to. -/
theorem Inv.freesNext (h : s.Inv) {d d' : DeleterPc} (hn : s.notifier n = .joined)
    (hcalls : s.calls n = 1) (hdel : s.deleters n = [d])
    (hnull : s.ptr (n, .callbackLockdown) = none)
    (hp : p ∉ d.freed) (hfreed : d'.freed = d.freed ++ [p]) :
    ((s.frees₁ n p).deletersAt n [d']).Inv := by
  have hne : s.notifier n ≠ .off := by rw [hn]; nofun
  have hview : ((s.frees₁ n p).deletersAt n [d']).view n =
      ⟨s.pc n, fun p => s.ptr (n, p), .joined, 1, [d']⟩ := by
    rw [view_deletersAt, frees₁, view, ← hn, ← hcalls]
  have hacq : ((s.frees₁ n p).deletersAt n [d']).ledger.acquired = s.ledger.acquired := by
    rw [deletersAt, frees₁]
    cases s.ptr (n, p) <;> rfl
  refine h.turns hne ((only_frees₁ ..).trans (only_deletersAt ..)) hview hacq
    (owned_frees₁ h.owned hdel hp hfreed) (fun j hj => ?_) ?_
  · rw [hcalls] at hj
    exact ⟨hj, fun x hx => by cases hx⟩
  · rw [hnull]
    refine .joined d' ?_
    rintro rfl
    simp [DeleterPc.freed] at hfreed

/-- **A step of a thread that frees.** The first is the join, after which the callback cannot
run any more. -/
theorem Inv.delete (h : s.Inv) {i : ℕ} (hs : s.deleteStep n i (s.deleters n)[i]? = some s') :
    s'.Inv := by
  cases hd : (s.deleters n)[i]? with
  | none =>
    rw [hd] at hs
    cases hs
  | some d =>
    obtain ⟨hne, rfl, hcalls, hdel, hnull, hjoined⟩ := h.deleting hd
    rw [hd] at hs
    cases d with
    | join =>
      simp only [deleteStep, hdel, List.set_cons_zero] at hs
      have hnone : ∀ d ∈ s.deleters n, d.freed = [] := by simp [hdel, DeleterPc.freed]
      have hview : ((s.notifierAt n .joined).deletersAt n [.freeNp]).view n =
          ⟨s.pc n, fun p => s.ptr (n, p), .joined, s.calls n, [.freeNp]⟩ := by
        rw [view_deletersAt, view_notifierAt, view]
      have hjoins : ((s.notifierAt n .joined).deletersAt n [.freeNp]).Inv := by
        refine h.turns hne ((only_notifierAt ..).trans (only_deletersAt ..)) hview rfl
          (owned_deletersAt (owned_notifierAt h.owned n .joined) hnone (by simp [DeleterPc.freed]))
          (fun j hj => ⟨hj, fun x hx => by cases hx⟩) ?_
        rw [hnull, hcalls]
        exact .joined .freeNp (by decide)
      split at hs <;> cases hs <;> exact hjoins
    | freeNp | freeDev | freeData =>
      simp only [deleteStep, hdel, List.set_cons_zero] at hs
      cases hs
      exact h.freesNext (hjoined (by decide)) hcalls hdel hnull (by decide) rfl
    | done => cases hs

/-! ### Runs -/

/-- **One step** of any call, of its callback or of the thread that frees. -/
theorem Inv.step (h : s.Inv) {l : Label D V} (hok : s.CalledOnce l)
    (hs : s.step O hostID l = some s') : s'.Inv := by
  cases l with
  | start n serial =>
    simp only [Preflight.step] at hs
    split_ifs at hs with hidle
    cases hs
    have hgoes : (s.goto n .newDevice).Inv := h.goto hidle.2 (by decide)
    exact hgoes.others ..
  | go n a =>
    simp only [Preflight.step] at hs
    split_ifs at hs
    exact h.go hs
  | other call =>
    simp only [Preflight.step] at hs
    split_ifs at hs
    cases hs
    exact h.others ..
  | notify n x =>
    simp only [Preflight.step] at hs
    split_ifs at hs with hwaits
    cases hs
    exact h.entered hwaits.2 hok x
  | callback n a =>
    simp only [Preflight.step] at hs
    split_ifs at hs
    exact h.callback hs
  | delete n i =>
    simp only [Preflight.step] at hs
    split_ifs at hs
    exact h.delete hs

/-- **The invariant holds** as long as the callback is called once, for any number of devices at
the same time. -/
theorem inv_of_reaches {store : σ}
    (hr : (preflightMachine O hostID).Reaches CalledOnce (init store) s) : s.Inv :=
  hr.invariant (inv_init store) fun _ _ _ h hok hs => h.step hok hs

/-! ### What is left in the end -/

/-- The call has ended without the callback, or the thread has freed what the callback had. -/
def Over (s : Preflight σ D) (n : ℕ) : Prop :=
  (s.pc n = .returned ∨ s.pc n = .threw) ∧ s.notifier n = .off ∨ s.deleters n = [.done]

/-- Something is in use if and only if a pointer of the call owns it. -/
theorem Inv.inUse_iff (h : s.Inv) (n : ℕ) (k : Kind) :
    s.ledger.released (n, k) < s.ledger.acquired (n, k) ↔ ∃ p, s.own (n, p) = some (n, k) := by
  constructor
  · intro hlt
    by_contra hnot
    refine absurd (h.owned.settled ?_) hlt.ne
    rintro ⟨m, p⟩ hp
    have hm : n = m := by
      have hptr : s.ptr (m, p) = some (n, k) := by
        rw [own] at hp
        split_ifs at hp
        exact hp
      exact (h.known m).named p (n, k) hptr
    subst hm
    exact hnot ⟨p, hp⟩
  · rintro ⟨p, hp⟩
    obtain ⟨hacquired, hreleased⟩ := h.owned.holds.inUse (n, k) ⟨(n, p), hp⟩
    rw [hacquired, hreleased]
    exact Nat.zero_lt_one

/-- Nothing is owned by a call that is over: all its pointers are null, and so are those of its
callback. -/
theorem Inv.over (h : s.Inv) (hover : s.Over n) (p : Ptr) : s.own (n, p) = none := by
  rcases hover with ⟨hended, hoff⟩ | hdone
  · have hptr : s.ptr (n, p) = none := ((h.known n).talking_of_off hoff).2.ended hended p
    rw [own, hptr, ite_self]
  · have hd : (s.deleters n)[0]? = some .done := by rw [hdone]; rfl
    obtain ⟨hne, -, -, -, hnull, -⟩ := h.deleting hd
    have hcleaned := (h.handed hne).2.1.cleaned
    have hfreed : s.stale (n, p) = true ∨ s.ptr (n, p) = none := by
      rw [stale, hdone]
      cases p with
      | userdata | userdataDev | userdataNp => exact Or.inl rfl
      | callbackLockdown => exact Or.inr hnull
      | _ => exact Or.inr (hcleaned _ (by decide))
    rw [own]
    rcases hfreed with hstale | hptr
    · rw [hstale, if_pos rfl]
    · rw [hptr, ite_self]

/-- While the client waits, the callback has its three pointers, and nothing else of that call
is in use. -/
theorem Inv.waits (h : s.Inv) (hn : s.notifier n = .waiting) (hdel : s.deleters n = []) (k : Kind) :
    (∃ p, s.own (n, p) = some (n, k)) ↔ k = .dev ∨ k = .np ∨ k = .cbData := by
  have hne : s.notifier n ≠ .off := by rw [hn]; nofun
  obtain ⟨-, hover, hturn⟩ := h.handed hne
  rw [hn] at hturn
  have hnull : s.ptr (n, .callbackLockdown) = none := hturn.null_of_waiting
  have hdata : s.ptr (n, .userdata) = some (n, .cbData) := hover.userdata
  have hdev : s.ptr (n, .userdataDev) = some (n, .dev) := hover.userdataDev
  have hnp : s.ptr (n, .userdataNp) = some (n, .np) := hover.userdataNp
  have hcleaned : ∀ p ∈ cleanup, s.ptr (n, p) = none := hover.cleaned
  simp only [own_of_nil hdel]
  constructor
  · rintro ⟨p, hp⟩
    cases p with
    | userdata => exact Or.inr (Or.inr (Prod.mk.inj (Option.some.inj (hp ▸ hdata))).2)
    | userdataDev => exact Or.inl (Prod.mk.inj (Option.some.inj (hp ▸ hdev))).2
    | userdataNp => exact Or.inr (Or.inl (Prod.mk.inj (Option.some.inj (hp ▸ hnp))).2)
    | callbackLockdown => cases hnull ▸ hp
    | _ =>
      rw [hcleaned] at hp
      · cases hp
      · decide
  · rintro (rfl | rfl | rfl)
    · exact ⟨_, hdev⟩
    · exact ⟨_, hnp⟩
    · exact ⟨_, hdata⟩

/-- **Everything is released once**, whatever fails on the way. When a call is over, it has
nothing in use; while its callback waits, the device, the client and the block are in use. -/
theorem released_once {store : σ}
    (hr : (preflightMachine O hostID).Reaches CalledOnce (init store) s) (n : ℕ) :
    (∀ k, s.ledger.released (n, k) ≤ s.ledger.acquired (n, k) ∧
      s.ledger.acquired (n, k) ≤ 1) ∧
    (s.Over n → ∀ k, s.ledger.released (n, k) = s.ledger.acquired (n, k)) ∧
    (s.notifier n = .waiting → s.deleters n = [] → ∀ k,
      (s.ledger.released (n, k) < s.ledger.acquired (n, k) ↔
        k = .dev ∨ k = .np ∨ k = .cbData)) := by
  have hinv := inv_of_reaches hr
  refine ⟨fun k => hinv.owned.released_le (n, k), fun hover k => ?_, fun hn hdel k => ?_⟩
  · have hle := (hinv.owned.released_le (n, k)).1
    refine hle.antisymm (Nat.le_of_not_lt fun hlt => ?_)
    obtain ⟨p, hp⟩ := (hinv.inUse_iff n k).mp hlt
    rw [hinv.over hover p] at hp
    cases hp
  · rw [hinv.inUse_iff n k, hinv.waits hn hdel k]

section Examples

/-- The device has no record, and the user has to be asked. So the callback is installed, and
the call returns. -/
def asking (n : ℕ) : List (Label Store.Dict (Bool ⊕ List Char)) :=
  .start n ['u'] :: List.replicate 8 (.go n .good) ++
    .go n (.returns .pairingDialogResponsePending) :: List.replicate 5 (.go n .good)

/-- No files are there: neither a configuration nor any record. -/
def noFiles : Store.Contents Store.Dict := ⟨[], fun _ => .missing⟩

/-- One device is paired when the user has been asked, with another one the client waits, and a
third one cannot be used. -/
theorem released_once_three : ∃ s : Preflight (Store.Contents Store.Dict) Store.Dict,
    s.deleters 0 = [.done] ∧ s.ledger.acquired (0, .callbackLockdown 1) = 1 ∧
    (∀ k, s.ledger.released (0, k) = s.ledger.acquired (0, k)) ∧
    (∀ k, s.ledger.released (1, k) < s.ledger.acquired (1, k) ↔
      k = .dev ∨ k = .np ∨ k = .cbData) ∧
    s.ledger.acquired (2, .dev) = 1 ∧
    ∀ k, s.ledger.released (2, k) = s.ledger.acquired (2, k) := by
  obtain ⟨s, hr, hp⟩ := (preflightMachine Store.dictTables
    fun _ : Store.Dict => some []).exists_reaches_of_runOk CalledOnce (init noFiles)
    (asking 0 ++ asking 1 ++
      [.start 2 ['v'], .go 2 .good, .notify 0 .requestPair, .go 2 (.returns .other),
        .callback 0 .good, .callback 0 .good, .callback 0 .good, .delete 0 0, .delete 0 0,
        .delete 0 0, .delete 0 0])
    (fun s => decide (s.deleters 0 = [.done] ∧
      s.ledger.acquired (0, .callbackLockdown 1) = 1 ∧ s.notifier 1 = .waiting ∧
      s.deleters 1 = [] ∧ s.pc 2 = .threw ∧ s.notifier 2 = .off ∧
      s.ledger.acquired (2, .dev) = 1)) (by decide)
  obtain ⟨hdone, hlockdown, hwaiting, hnone, hthrew, hoff, hdev⟩ := of_decide_eq_true hp
  exact ⟨s, hdone, hlockdown, (released_once hr 0).2.1 (Or.inr hdone),
    (released_once hr 1).2.2 hwaiting hnone, hdev,
    (released_once hr 2).2.1 (Or.inl ⟨Or.inr hthrew, hoff⟩)⟩

/-- **A second notification** before the first thread has told the client: the block is freed
twice. -/
theorem exists_freed_twice : ∃ s : Preflight (Store.Contents Store.Dict) Store.Dict,
    (preflightMachine Store.dictTables fun _ : Store.Dict => some []).Reachable
      (init noFiles) s ∧ s.ledger.released (0, .cbData) = 2 := by
  obtain ⟨s, hr, hp⟩ := (preflightMachine Store.dictTables
    fun _ : Store.Dict => some []).exists_reaches_of_runOk (fun _ _ => True) (init noFiles)
    (asking 0 ++
      [.notify 0 .other, .callback 0 .good, .callback 0 .good, .callback 0 .good,
        .notify 0 .empty, .callback 0 .good, .callback 0 .good, .delete 0 0, .delete 0 1,
        .delete 0 0, .delete 0 0, .delete 0 0, .delete 0 1, .delete 0 1, .delete 0 1])
    (fun s => decide (s.ledger.released (0, .cbData) = 2)) (by decide)
  exact ⟨s, hr, of_decide_eq_true hp⟩

end Examples

end Preflight

end Usbmuxd
