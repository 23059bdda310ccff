import Usbmuxd.Library.Interleaving
import Usbmuxd.Library.Pointers
import Usbmuxd.Sysconf.Store

/-!
# The preflight of a device

When a USB device has been added, `preflight_device` talks to it and sees to it that it is
paired. If there is a pair record, a session is started with it; if that fails the device is
paired anew, and if the user has to be asked first, a callback is installed that pairs the
device when it is notified. There may be any number of calls at the same time, as the devices
have threads of their own, and clients may save and delete records in the meantime.

Every call to a library may fail. What `preflight_device` has got by then is in its pointers,
and a cleanup frees it. If the callback is installed, the device, the notification client and
the block that has the two go over to `pairing_callback`, which has them freed by a thread of
its own, since the client cannot be freed in a callback. Who owns what is said by the pointers
(`Usbmuxd.Preflight.own`).

The functions of `sysconf.cpp` are any object here that has the calls of
`Usbmuxd.Sysconf.Store`.

## What goes wrong

`pairing_callback` has the block freed whenever it is called, and nobody tells the client
before that thread does. If there is another notification before, the block is freed twice
(`Usbmuxd.Preflight.exists_freed_twice`). So the callback must be called once
(`Usbmuxd.Preflight.CalledOnce`).
-/

namespace Usbmuxd

open Interleaving Objects Sysconf

namespace Preflight

/-! ### What is acquired, and who points to it -/

/-- What `preflight_device` and `pairing_callback` acquire. -/
inductive Kind
  /-- The device, by `idevice_new_with_options`. -/
  | dev
  /-- The client of `lockdownd`. -/
  | lockdown
  /-- The string of `lockdownd_query_type`. -/
  | lockdowntype
  /-- The pair record. -/
  | pairingRecord
  /-- A copy of its `HostID`. -/
  | hostid
  /-- The value of `ProductVersion`. -/
  | prodVers
  /-- A copy of its string. -/
  | versionStr
  /-- The descriptor of the notification service. -/
  | service
  /-- The client of the notification service. -/
  | np
  /-- The `np_cb_data`. -/
  | cbData
  /-- The client of `lockdownd` of a call of `pairing_callback`. -/
  | callbackLockdown (call : ℕ)
  deriving DecidableEq

/-- What the call of `preflight_device` with a number acquires, with its callback. As each
kind is acquired at most once by a call, the pair says which allocation is meant, without
addresses. -/
abbrev Item := ℕ × Kind

/-- The pointers of a call of `preflight_device` and of its callback. The fields of `cb_data`
and of what the callback is given are pointers of their own, since the block changes hands while
the call is running. -/
inductive Ptr
  | dev
  | lockdown
  | lockdowntype
  | pairingRecord
  | hostid
  | prodVers
  | versionStr
  | service
  | np
  | cbData
  /-- `cb_data->dev`. -/
  | cbDev
  /-- `cb_data->np`. -/
  | cbNp
  /-- The `userdata` of `pairing_callback`. -/
  | userdata
  /-- Its `dev`. -/
  | userdataDev
  /-- Its `np`. -/
  | userdataNp
  /-- The `lockdown` of `pairing_callback`. -/
  | callbackLockdown
  deriving DecidableEq

/-- What the cleanup of `preflight_device` frees, and that of the block with the `HostID` before
it. It frees whatever these pointers point to when the call returns or throws, so that a pointer
must be null by then if somebody else has got what it points to. -/
def cleanup : List Ptr :=
  [.hostid, .prodVers, .dev, .lockdown, .lockdowntype, .versionStr, .pairingRecord, .service, .np,
    .cbDev, .cbNp, .cbData]

/-! ### The threads -/

/-- What a call of `preflight_device` does next. There is one place for each call of a library
that may fail, in the order of the source, with a place for each of the two ways in which a
device is paired. -/
inductive Pc
  /-- It has not been made. -/
  | idle
  /-- `idevice_new_with_options`. -/
  | newDevice
  /-- `lockdownd_client_new`. -/
  | newClient
  /-- `lockdownd_query_type`. -/
  | queryType
  /-- `sysconf_get_device_record`. -/
  | readRecord
  /-- It gets the `HostID` from the record. -/
  | hostID
  /-- `lockdownd_start_session`. -/
  | startSession
  /-- `sysconf_remove_device_record`. -/
  | removeRecord
  /-- `lockdownd_get_value`, from `pairing_required` on. -/
  | getVersion
  /-- It gets the string of the version. -/
  | versionStr
  /-- `sysconf_get_system_buid`. -/
  | systemBuid
  /-- `lockdownd_set_value`, for `UntrustedHostBUID`. -/
  | setBuid
  /-- `lockdownd_pair`. -/
  | pair
  /-- `lockdownd_start_service`. -/
  | startService
  /-- `np_client_new`. -/
  | newNp
  /-- `cb_data` is allocated. -/
  | newCbData
  /-- `np_observe_notifications`. -/
  | observe
  /-- `np_set_notify_callback`. -/
  | setCallback
  /-- It has returned. -/
  | returned
  /-- It has thrown. -/
  | threw
  deriving DecidableEq

/-- What a notification is about, as far as `pairing_callback` tells notifications apart. -/
inductive Notification
  /-- The empty string, with which the client reports that the connection is lost. -/
  | empty
  /-- `com.apple.mobile.lockdown.request_pair`. -/
  | requestPair
  /-- `com.apple.mobile.lockdown.request_host_buid`. -/
  | requestHostBuid
  /-- Anything else. -/
  | other
  deriving DecidableEq

/-- What a call of `pairing_callback` does next. -/
inductive CallbackPc
  /-- It looks at the notification, and calls `lockdownd_client_new`. -/
  | entered (notification : Notification)
  /-- It does what the notification asks for. -/
  | connected (notification : Notification)
  /-- `lockdownd_set_value`, for `UntrustedHostBUID`. -/
  | setBuid
  /-- `error`: it frees its client of `lockdownd` and makes the thread. -/
  | error
  deriving DecidableEq

/-- The thread of a notification client. It is made by `np_set_notify_callback`, calls the
callback for each notification, one after the other, and is joined when the callback is set to
null. -/
inductive Notifier
  /-- There is none. -/
  | off
  /-- It waits for a notification. -/
  | waiting
  /-- It has called `pairing_callback`. -/
  | calling (pc : CallbackPc)
  /-- It has ended. -/
  | joined
  deriving DecidableEq

/-- What a thread does next that has been made by `pairing_callback`. It cannot free the client
in the callback, as that would wait for the very thread that runs the callback; so the callback
makes a detached thread for it, whenever it is called. -/
inductive DeleterPc
  /-- `np_set_notify_callback`, which joins the thread of the client. -/
  | join
  /-- `np_client_free`. -/
  | freeNp
  /-- `idevice_free`. -/
  | freeDev
  /-- `safeFree(cb_data)`. -/
  | freeData
  /-- Nothing. -/
  | done
  deriving DecidableEq

/-- What such a thread has freed. The pointers stay as they are, since they are fields of a
block that is freed last. -/
def DeleterPc.freed : DeleterPc → List Ptr
  | .join | .freeNp => []
  | .freeDev => [.userdataNp]
  | .freeData => [.userdataNp, .userdataDev]
  | .done => [.userdataNp, .userdataDev, .userdata]

end Preflight

open Preflight

/-- The calls of `preflight_device`, by numbers, with what they use. The files are shared by all
of them and with the clients; everything else belongs to one call. -/
structure Preflight (σ D : Type) where
  /-- The files. -/
  store : σ
  /-- What has been acquired and released. -/
  ledger : Ledger Item
  /-- Where the calls are. -/
  pc : ℕ → Pc
  /-- `serial`. -/
  serial : ℕ → List Char
  /-- What `p_pairingRecord` holds. -/
  record : ℕ → Option D
  /-- The pointers. -/
  ptr : ℕ × Ptr → Option Item
  /-- The threads of the notification clients. -/
  notifier : ℕ → Notifier
  /-- How often `pairing_callback` has been called. -/
  calls : ℕ → ℕ
  /-- The threads that it has made. -/
  deleters : ℕ → List DeleterPc
  /-- The records that a device has refused with `LOCKDOWN_E_SSL_ERROR`. -/
  refused : List (List Char × D)
  /-- `std::terminate` has been called. -/
  crashed : Bool

namespace Preflight

/-! ### The steps -/

/-- `lockdownd_error_t`; also whether any other function of a library succeeds. -/
inductive LockdowndError
  | success
  | sslError
  | passwordProtected
  | pairingDialogResponsePending
  /-- Anything else, for which `preflight_device` throws. -/
  | other
  deriving DecidableEq

/-- What a step is answered by the libraries and the file system. Each step looks at what
concerns it, and all answers are possible at any time. -/
structure Answer where
  /-- What the function returns. -/
  ret : LockdowndError
  /-- The type of the device is `com.apple.mobile.lockdown`. -/
  normalMode : Bool
  /-- What `sysconf_generate_system_buid` returns. -/
  generated : List Char
  /-- The file can be opened for writing. -/
  opens : Bool
  /-- The file can be removed. -/
  removes : Bool
  /-- The directory can be read. -/
  loads : Bool

/-- Everything succeeds. -/
def Answer.good : Answer := ⟨.success, true, [], true, true, true⟩

/-- A function returns this. -/
def Answer.returns (ret : LockdowndError) : Answer := { good with ret := ret }

/-- What happens. -/
inductive Label (D V : Type)
  /-- `preflight_device` is called. -/
  | start (n : ℕ) (serial : List Char)
  /-- It goes on. -/
  | go (n : ℕ) (answer : Answer)
  /-- Another thread uses the files. -/
  | other (call : Store.Call D V)
  /-- The notification client calls `pairing_callback`. -/
  | notify (n : ℕ) (notification : Notification)
  /-- That goes on. -/
  | callback (n : ℕ) (answer : Answer)
  /-- One of the threads that it has made goes on. -/
  | delete (n i : ℕ)

/-- The record that is returned; `none` if the function has thrown. -/
def recordOf {D V : Type} : Store.Result D V → Option D
  | .record record => record
  | _ => none

/-- The BUID that is returned. -/
def buidOf {D V : Type} : Store.Result D V → Option (List Char)
  | .string s => s
  | _ => none

/-- Whether a function that returns nothing has returned. -/
def hasReturned {D V : Type} : Store.Result D V → Bool
  | .done returns => returns
  | _ => false

section Code

variable {σ D V : Type}

/-- Nobody has called `preflight_device`. The files are any; what is in them decides which way a
call takes. -/
def init (store : σ) : Preflight σ D where
  store := store
  ledger := .empty
  pc := fun _ => .idle
  serial := fun _ => []
  record := fun _ => none
  ptr := fun _ => none
  notifier := fun _ => .off
  calls := fun _ => 0
  deleters := fun _ => []
  refused := []
  crashed := false

section Actions

variable (s : Preflight σ D) (n : ℕ)

/-- The call goes on to `pc`. This is the only part of a step that nothing but control depends
on. -/
def goto (pc : Pc) : Preflight σ D := { s with pc := Function.update s.pc n pc }

/-- A pointer is assigned to. -/
def assigns (p : Ptr) (item : Option Item) : Preflight σ D :=
  { s with ptr := Function.update s.ptr (n, p) item }

/-- A pointer gets what has been acquired: the allocation is entered into the ledger, and the
pointer owns it. -/
def gets (p : Ptr) (k : Kind) : Preflight σ D :=
  { s.assigns n p (some (n, k)) with ledger := s.ledger.acquire (n, k) }

/-- A pointer is assigned to another one and set to null. This is how ownership is passed on in
the source, and in this order, so that nothing is ever owned twice. -/
def moves (p q : Ptr) : Preflight σ D := (s.assigns n q (s.ptr (n, p))).assigns n p none

/-- Pointers are freed and set to null, as the macros for it do. A null pointer is left
alone. -/
def frees (ps : List Ptr) : Preflight σ D :=
  { s with
    ledger := s.ledger.freeAll ((ps.map (Prod.mk n)).map s.ptr)
    ptr := fun q => if q ∈ ps.map (Prod.mk n) then none else s.ptr q }

/-- The call ends, with its cleanup. That is the same for a return and for an exception, as
cleanups run in both cases. -/
def ends (pc : Pc) : Preflight σ D := (s.frees n cleanup).goto n pc

/-- A function has succeeded or not: the call goes on, or throws. -/
def orThrow (ok : Bool) (s' : Preflight σ D) : Preflight σ D := if ok then s' else s.ends n .threw

/-- The thread of the notification client is here. -/
def notifierAt (notifier : Notifier) : Preflight σ D :=
  { s with notifier := Function.update s.notifier n notifier }

/-- `pairing_callback` is called. How often that happens is counted, for the condition under
which all goes well. -/
def entered (notification : Notification) : Preflight σ D :=
  { s.notifierAt n (.calling (.entered notification)) with
    calls := Function.update s.calls n (s.calls n + 1) }

/-- What a pointer points to is freed, and the pointer stays as it is: the fields of a block
that is about to be freed are not written any more. -/
def frees₁ (p : Ptr) : Preflight σ D := { s with ledger := s.ledger.free (s.ptr (n, p)) }

/-- The threads that `pairing_callback` has made are here. -/
def deletersAt (deleters : List DeleterPc) : Preflight σ D :=
  { s with deleters := Function.update s.deleters n deleters }

/-- `np_set_notify_callback` has succeeded, and `cb_data` is the callback's. Its fields go with
it, and the pointers of the call are set to null, so that its cleanup leaves them alone. -/
def handOver : Preflight σ D :=
  (((s.moves n .cbDev .userdataDev).moves n .cbNp .userdataNp).moves n .cbData
    .userdata).notifierAt n .waiting

end Actions

section Steps

variable (O : Object σ (Store.Call D V) (Store.Result D V)) (hostID : D → Option (List Char))
  (s : Preflight σ D) (n : ℕ)

/-- `preflight_device`, one call of a library after the other. What the source does with the
answer of each call is in the branch of that call: it goes on, it throws, or it takes another
way when the device is not paired or does not want to be. -/
def goStep (a : Answer) : Pc → Option (Preflight σ D)
  | .idle => none
  | .newDevice => some (s.orThrow n (a.ret = .success) ((s.gets n .dev .dev).goto n .newClient))
  | .newClient =>
    some (s.orThrow n (a.ret = .success) ((s.gets n .lockdown .lockdown).goto n .queryType))
  | .queryType =>
    let got := s.gets n .lockdowntype .lockdowntype
    -- nothing is done with a device in restore mode
    some (s.orThrow n (a.ret = .success)
      (if a.normalMode then got.goto n .readRecord else got.ends n .returned))
  | .readRecord =>
    let got := O.call s.store (.getDeviceRecord (s.serial n))
    match recordOf got.2 with
    | some record => some
        { (s.gets n .pairingRecord .pairingRecord).goto n .hostID with
          store := got.1
          record := Function.update s.record n (some record) }
    | none => some { s.goto n .getVersion with store := got.1 }
  | .hostID =>
    some (s.orThrow n ((s.record n).bind hostID).isSome
      ((s.gets n .hostid .hostid).goto n .startSession))
  | .startSession =>
    match a.ret with
    | .success => some (s.ends n .returned)
    | .sslError => some
        { (s.frees n [.hostid]).goto n .removeRecord with
          refused := s.refused ++ ((s.record n).map (Prod.mk (s.serial n))).toList }
    | _ => some ((s.frees n [.hostid]).goto n .getVersion)
  | .removeRecord =>
    let removed := O.call s.store (.removeDeviceRecord (s.serial n) a.removes a.loads)
    let s := { s with store := removed.1 }
    some (s.orThrow n (hasReturned removed.2) (s.goto n .getVersion))
  | .getVersion =>
    some (s.orThrow n (a.ret = .success) ((s.gets n .prodVers .prodVers).goto n .versionStr))
  | .versionStr =>
    some (s.orThrow n (a.ret = .success) ((s.gets n .versionStr .versionStr).goto n .systemBuid))
  | .systemBuid =>
    let got := O.call s.store (.getSystemBuid a.generated a.opens)
    let s := { s with store := got.1 }
    some (s.orThrow n (buidOf got.2).isSome (s.goto n .setBuid))
  | .setBuid => some (s.orThrow n (a.ret = .success) (s.goto n .pair))
  | .pair =>
    match a.ret with
    | .success | .passwordProtected => some (s.ends n .returned)
    | .pairingDialogResponsePending => some (s.goto n .startService)
    | _ => some (s.ends n .threw)
  | .startService =>
    some (s.orThrow n (a.ret = .success) ((s.gets n .service .service).goto n .newNp))
  | .newNp => some (s.orThrow n (a.ret = .success) ((s.gets n .np .np).goto n .newCbData))
  | .newCbData =>
    some (s.orThrow n (a.ret = .success)
      ((((s.gets n .cbData .cbData).moves n .dev .cbDev).moves n .np .cbNp).goto n .observe))
  | .observe => some (s.orThrow n (a.ret = .success) (s.goto n .setCallback))
  | .setCallback => some (s.orThrow n (a.ret = .success) ((s.handOver n).ends n .returned))
  | .returned | .threw => none

/-- `pairing_callback`. Whatever the notification is about, and whether pairing succeeds or not,
its last step is to make the thread that frees the block; it is `noexcept`, so an exception ends
the daemon. -/
def callbackStep (a : Answer) : Notifier → Option (Preflight σ D)
  | .calling (.entered notification) =>
    if notification = .empty then some (s.notifierAt n (.calling .error))
    else if a.ret = .success then some
      ((s.gets n .callbackLockdown (.callbackLockdown (s.calls n))).notifierAt n
        (.calling (.connected notification)))
    else some (s.notifierAt n (.calling .error))
  | .calling (.connected .requestHostBuid) =>
    let got := O.call s.store (.getSystemBuid a.generated a.opens)
    let s := { s with store := got.1 }
    if (buidOf got.2).isSome then some (s.notifierAt n (.calling .setBuid))
    else some { s with crashed := true }
  -- `lockdownd_pair` may fail
  | .calling (.connected _) => some (s.notifierAt n (.calling .error))
  | .calling .setBuid =>
    if a.ret = .success then some (s.notifierAt n (.calling .error))
    else some { s with crashed := true }
  | .calling .error =>
    let freed := s.frees n [.callbackLockdown]
    if a.ret = .success then
      some ((freed.notifierAt n .waiting).deletersAt n (s.deleters n ++ [.join]))
    else some { freed with crashed := true }
  | .off | .waiting | .joined => none

/-- Thread `i` of those that `pairing_callback` has made. It has the thread of the client
joined, which has to be out of the callback for that, and then frees what the block points to,
and the block. If there is a second such thread, it does the same with pointers that have been
freed. -/
def deleteStep (i : ℕ) : Option DeleterPc → Option (Preflight σ D)
  | some .join =>
    match s.notifier n with
    | .waiting | .joined =>
      some ((s.notifierAt n .joined).deletersAt n ((s.deleters n).set i .freeNp))
    | _ => none
  | some .freeNp => some ((s.frees₁ n .userdataNp).deletersAt n ((s.deleters n).set i .freeDev))
  | some .freeDev => some ((s.frees₁ n .userdataDev).deletersAt n ((s.deleters n).set i .freeData))
  | some .freeData => some ((s.frees₁ n .userdata).deletersAt n ((s.deleters n).set i .done))
  | some .done | none => none

/-- One step. An exception that leaves `pairing_callback`, which is `noexcept`, is the end of
the daemon: there are no more steps then, of no call and no thread. -/
def step : Label D V → Option (Preflight σ D)
  | .start n serial =>
    if s.crashed = false ∧ s.pc n = .idle then
      some { s.goto n .newDevice with serial := Function.update s.serial n serial }
    else none
  | .go n a => if s.crashed then none else s.goStep O hostID n a (s.pc n)
  | .other call => if s.crashed then none else some { s with store := (O.call s.store call).1 }
  | .notify n notification =>
    if s.crashed = false ∧ s.notifier n = .waiting then some (s.entered n notification) else none
  | .callback n a => if s.crashed then none else s.callbackStep O n a (s.notifier n)
  | .delete n i => if s.crashed then none else s.deleteStep n i (s.deleters n)[i]?

/-- **The callback is called once.** Then one thread frees the block. A device sends one
notification for one request, but nothing in the daemon sees to it. -/
def CalledOnce : Label D V → Prop
  | .notify n _ => s.calls n = 0
  | _ => True

instance (s : Preflight σ D) : (l : Label D V) → Decidable (s.CalledOnce l)
  | .notify n _ => inferInstanceAs (Decidable (s.calls n = 0))
  | .start _ _ | .go _ _ | .other _ | .callback _ _ | .delete _ _ => isTrue trivial

end Steps

end Code

end Preflight

/-- The calls of `preflight_device`, as a machine. -/
def preflightMachine {σ D V : Type} (O : Object σ (Store.Call D V) (Store.Result D V))
    (hostID : D → Option (List Char)) : Machine (Preflight σ D) (Preflight.Label D V) :=
  ⟨Preflight.step O hostID⟩

namespace Preflight

section Assign

variable {σ D : Type}

@[simp] theorem goto_pc (s : Preflight σ D) (n : ℕ) (pc : Pc) : (s.goto n pc).pc n = pc :=
  Function.update_self ..

@[simp] theorem assigns_ptr (s : Preflight σ D) (n : ℕ) (p : Ptr) (item : Option Item) (q : Ptr) :
    (s.assigns n p item).ptr (n, q) = if q = p then item else s.ptr (n, q) := by
  rcases eq_or_ne q p with rfl | hne
  · rw [if_pos rfl]
    exact Function.update_self ..
  · rw [if_neg hne]
    exact Function.update_of_ne (fun heq => hne (Prod.mk.inj heq).2) ..

@[simp] theorem gets_ptr (s : Preflight σ D) (n : ℕ) (p : Ptr) (k : Kind) (q : Ptr) :
    (s.gets n p k).ptr (n, q) = if q = p then some (n, k) else s.ptr (n, q) :=
  assigns_ptr ..

@[simp] theorem moves_ptr (s : Preflight σ D) (n : ℕ) (p q q' : Ptr) :
    (s.moves n p q).ptr (n, q') =
      if q' = p then none else if q' = q then s.ptr (n, p) else s.ptr (n, q') := by
  rw [moves, assigns_ptr, assigns_ptr]

end Assign

/-! ### Who owns what -/

section Own

variable {σ D : Type}

/-- One of the threads of `pairing_callback` has freed what the pointer points to. Such a
pointer is not null, but it owns nothing any more. -/
def stale (s : Preflight σ D) (q : ℕ × Ptr) : Bool := (s.deleters q.1).any fun d => q.2 ∈ d.freed

/-- **Who owns what**: what a pointer points to, unless it is stale. That every allocation has
one owner or has been freed once is said of this function by the library of ledgers. -/
def own (s : Preflight σ D) (q : ℕ × Ptr) : Option Item := if s.stale q then none else s.ptr q

variable {s s' : Preflight σ D} {n : ℕ} {p q : Ptr} {k : Kind}

theorem own_of_deleters (h : s'.deleters = s.deleters) (q : ℕ × Ptr) :
    s'.own q = if s.stale q then none else s'.ptr q := by
  have hstale : s'.stale q = s.stale q := by rw [stale, stale, h]
  rw [own, hstale]

theorem own_of_nil (h : s.deleters n = []) (p : Ptr) : s.own (n, p) = s.ptr (n, p) := by
  simp [own, stale, h]

/-- A pointer is assigned to. -/
theorem own_assigns (h : s.deleters n = []) (p : Ptr) (item : Option Item) :
    (s.assigns n p item).own = Function.update s.own (n, p) item := by
  funext q
  have hown : (s.assigns n p item).own q = if s.stale q then none else (s.assigns n p item).ptr q :=
    own_of_deleters rfl q
  rw [hown, assigns]
  rcases eq_or_ne q (n, p) with rfl | hne
  · simp [stale, h]
  · simp only [Function.update_of_ne hne, own]

theorem owned_gets (hs : s.ledger.Owned s.own) (h : s.deleters n = []) (hp : s.ptr (n, p) = none)
    (hk : s.ledger.acquired (n, k) = 0) : (s.gets n p k).ledger.Owned (s.gets n p k).own :=
  (hs.acquire ((own_of_nil h p).trans hp) hk).congr (congrFun (own_assigns h p _))

theorem owned_moves (hs : s.ledger.Owned s.own) (h : s.deleters n = []) (hne : p ≠ q)
    (hq : s.ptr (n, q) = none) : (s.moves n p q).ledger.Owned (s.moves n p q).own := by
  have hne' : (n, p) ≠ (n, q) := fun heq => hne (Prod.mk.inj heq).2
  have hown := hs.move hne' ((own_of_nil h q).trans hq)
  have hmoved : (s.moves n p q).own =
      Function.update (Function.update s.own (n, q) (s.own (n, p))) (n, p) none := by
    refine (own_assigns (s := s.assigns n q (s.ptr (n, p))) h p none).trans ?_
    rw [own_assigns h, own_of_nil h]
  exact hown.congr (congrFun hmoved)

theorem owned_frees (hs : s.ledger.Owned s.own) (h : s.deleters n = []) {ps : List Ptr}
    (hps : ps.Nodup) : (s.frees n ps).ledger.Owned (s.frees n ps).own := by
  have hinj : Function.Injective (Prod.mk n : Ptr → ℕ × Ptr) := fun _ _ heq =>
    (Prod.mk.inj heq).2
  have hptr : (ps.map (Prod.mk n)).map s.ptr = (ps.map (Prod.mk n)).map s.own := by
    rw [List.map_map, List.map_map]
    exact List.map_congr_left fun p _ => (own_of_nil h p).symm
  have hfreed := hs.freeAll (hps.map hinj)
  rw [← hptr] at hfreed
  refine hfreed.congr fun q => ?_
  have hown : (s.frees n ps).own q = if s.stale q then none else (s.frees n ps).ptr q :=
    own_of_deleters rfl q
  rw [hown, own, frees]
  by_cases hin : q ∈ ps.map (Prod.mk n)
  · simp only [if_pos hin, ite_self]
  · simp only [if_neg hin]

theorem nodup_cleanup : cleanup.Nodup := by decide

theorem owned_ends (hs : s.ledger.Owned s.own) (h : s.deleters n = []) (pc : Pc) :
    (s.ends n pc).ledger.Owned (s.ends n pc).own :=
  owned_frees hs h nodup_cleanup

theorem owned_notifierAt (hs : s.ledger.Owned s.own) (n : ℕ) (notifier : Notifier) :
    (s.notifierAt n notifier).ledger.Owned (s.notifierAt n notifier).own :=
  hs.congr fun q => own_of_deleters rfl q

theorem deletersAt_deleters (s : Preflight σ D) (n : ℕ) (deleters : List DeleterPc) (m : ℕ) :
    (s.deletersAt n deleters).deleters m = if m = n then deleters else s.deleters m :=
  Function.update_apply ..

theorem own_deletersAt (s : Preflight σ D) (n : ℕ) (deleters : List DeleterPc) (q : ℕ × Ptr) :
    (s.deletersAt n deleters).own q =
      if q.1 = n then (if deleters.any fun d => q.2 ∈ d.freed then none else s.ptr q)
      else s.own q := by
  by_cases hq : q.1 = n
  · have hstale : (s.deletersAt n deleters).stale q = deleters.any fun d => q.2 ∈ d.freed := by
      rw [stale, deletersAt_deleters, if_pos hq]
    rw [own, hstale, if_pos hq]
    rfl
  · have hstale : (s.deletersAt n deleters).stale q = s.stale q := by
      rw [stale, deletersAt_deleters, if_neg hq, stale]
    rw [own, hstale, if_neg hq, own]
    rfl

/-- A thread that has not freed anything. -/
theorem owned_deletersAt (hs : s.ledger.Owned s.own) {deleters : List DeleterPc}
    (hold : ∀ d ∈ s.deleters n, d.freed = []) (hnew : ∀ d ∈ deleters, d.freed = []) :
    (s.deletersAt n deleters).ledger.Owned (s.deletersAt n deleters).own := by
  have hnone : ∀ (p : Ptr) (ds : List DeleterPc), (∀ d ∈ ds, d.freed = []) →
      (ds.any fun d => p ∈ d.freed) = false := by
    intro p ds hds
    rw [List.any_eq_false]
    intro d hd
    rw [hds d hd]
    simp
  refine hs.congr fun q => ?_
  rw [own_deletersAt]
  split_ifs with hq hin
  · rw [hnone q.2 deleters hnew] at hin
    cases hin
  · have hstale : s.stale q = false := by
      rw [stale, hq]
      exact hnone q.2 _ hold
    rw [own, hstale]
    rfl
  · rfl

/-- What has been freed is not owned any more. -/
theorem owned_frees₁ (hs : s.ledger.Owned s.own) {d d' : DeleterPc} (hd : s.deleters n = [d])
    (hp : p ∉ d.freed) (hfreed : d'.freed = d.freed ++ [p]) :
    ((s.frees₁ n p).deletersAt n [d']).ledger.Owned ((s.frees₁ n p).deletersAt n [d']).own := by
  have hown : ∀ q, s.own (n, q) = if q ∈ d.freed then none else s.ptr (n, q) := by
    intro q
    simp [own, stale, hd]
  have hfree := hs.freeAll (List.nodup_singleton (n, p))
  rw [List.map_singleton, hown, if_neg hp] at hfree
  refine hfree.congr ?_
  rintro ⟨m, q⟩
  rw [own_deletersAt]
  by_cases hm : m = n
  · subst hm
    have hany : ([d'].any fun d => q ∈ d.freed) = decide (q ∈ d.freed ∨ q = p) := by
      simp [hfreed]
    simp only [if_true, hany, hown, List.mem_singleton, Prod.mk.injEq, true_and, decide_eq_true_eq]
    by_cases hq : q = p
    · rw [if_pos (Or.inr hq), if_pos hq]
    · simp only [hq, or_false, if_false]
      rfl
  · rw [if_neg hm, if_neg fun hin => hm (Prod.mk.inj (List.mem_singleton.mp hin)).1]
    exact own_of_deleters rfl (m, q)

/-- `cb_data` becomes the callback's. -/
theorem owned_handOver (hs : s.ledger.Owned s.own) (h : s.deleters n = [])
    (hdev : s.ptr (n, .userdataDev) = none) (hnp : s.ptr (n, .userdataNp) = none)
    (hdata : s.ptr (n, .userdata) = none) :
    (s.handOver n).ledger.Owned (s.handOver n).own := by
  have h₁ := owned_moves (p := .cbDev) (q := .userdataDev) hs h nofun hdev
  have h₂ := owned_moves (p := .cbNp) (q := .userdataNp) h₁ h nofun (by simp [hnp])
  have h₃ := owned_moves (p := .cbData) (q := .userdata) h₂ h nofun (by simp [hdata])
  exact owned_notifierAt h₃ n .waiting

end Own

/-! ### One call and the others -/

/-- A call of `preflight_device` with its callback, apart from the others. An invariant of one
call speaks of this only, so that what the other calls do cannot break it. -/
structure Call where
  pc : Pc
  ptr : Ptr → Option Item
  notifier : Notifier
  calls : ℕ
  deleters : List DeleterPc

section View

variable {σ D : Type}

/-- The call with a number, with everything that is its own. -/
def view (s : Preflight σ D) (n : ℕ) : Call :=
  ⟨s.pc n, fun p => s.ptr (n, p), s.notifier n, s.calls n, s.deleters n⟩

/-- **Only one call changes**, and acquires something. The invariants of all the others then
need no proof. -/
structure Only (n : ℕ) (s s' : Preflight σ D) : Prop where
  view : ∀ m ≠ n, s'.view m = s.view m
  acquired : ∀ m ≠ n, ∀ k, s'.ledger.acquired (m, k) = s.ledger.acquired (m, k)

variable {s s' s'' : Preflight σ D} {n : ℕ} {p q : Ptr} {k : Kind}

theorem Only.refl : Only n s s := ⟨fun _ _ => rfl, fun _ _ _ => rfl⟩

theorem Only.trans (h : Only n s s') (h' : Only n s' s'') : Only n s s'' :=
  ⟨fun m hm => (h'.view m hm).trans (h.view m hm),
    fun m hm k => (h'.acquired m hm k).trans (h.acquired m hm k)⟩

theorem only_goto (s : Preflight σ D) (n : ℕ) (pc : Pc) : Only n s (s.goto n pc) where
  view m hm := by simp only [Preflight.view, goto, Function.update_of_ne hm]
  acquired _ _ _ := rfl

theorem only_assigns (s : Preflight σ D) (n : ℕ) (p : Ptr) (item : Option Item) :
    Only n s (s.assigns n p item) where
  view m hm := by
    have hne : ∀ q, (m, q) ≠ (n, p) := fun q heq => hm (Prod.mk.inj heq).1
    simp only [Preflight.view, assigns, Function.update_of_ne (hne _)]
  acquired _ _ _ := rfl

theorem only_gets (s : Preflight σ D) (n : ℕ) (p : Ptr) (k : Kind) : Only n s (s.gets n p k) where
  view := (only_assigns s n p (some (n, k))).view
  acquired _ hm _ := Ledger.acquire_of_ne fun heq => hm (Prod.mk.inj heq).1

theorem only_moves (s : Preflight σ D) (n : ℕ) (p q : Ptr) : Only n s (s.moves n p q) :=
  (only_assigns ..).trans (only_assigns ..)

theorem only_frees (s : Preflight σ D) (n : ℕ) (ps : List Ptr) : Only n s (s.frees n ps) where
  view m hm := by
    have hnot : ∀ q, (m, q) ∉ ps.map (Prod.mk n) := by
      rintro q hq
      obtain ⟨p, -, heq⟩ := List.mem_map.mp hq
      exact hm (Prod.mk.inj heq).1.symm
    simp only [Preflight.view, frees, if_neg (hnot _)]
  acquired m _ k := congrFun (Ledger.freeAll_acquired ..) (m, k)

theorem only_ends (s : Preflight σ D) (n : ℕ) (pc : Pc) : Only n s (s.ends n pc) :=
  (only_frees ..).trans (only_goto ..)

theorem only_notifierAt (s : Preflight σ D) (n : ℕ) (notifier : Notifier) :
    Only n s (s.notifierAt n notifier) where
  view m hm := by simp only [Preflight.view, notifierAt, Function.update_of_ne hm]
  acquired _ _ _ := rfl

theorem only_handOver (s : Preflight σ D) (n : ℕ) : Only n s (s.handOver n) :=
  ((only_moves ..).trans ((only_moves ..).trans (only_moves ..))).trans (only_notifierAt ..)

theorem only_entered (s : Preflight σ D) (n : ℕ) (x : Notification) : Only n s (s.entered n x) where
  view m hm := by simp only [Preflight.view, entered, notifierAt, Function.update_of_ne hm]
  acquired _ _ _ := rfl

theorem only_frees₁ (s : Preflight σ D) (n : ℕ) (p : Ptr) : Only n s (s.frees₁ n p) where
  view _ _ := rfl
  acquired m _ k := by
    rw [frees₁]
    cases s.ptr (n, p) <;> rfl

theorem only_deletersAt (s : Preflight σ D) (n : ℕ) (deleters : List DeleterPc) :
    Only n s (s.deletersAt n deleters) where
  view m hm := by simp only [Preflight.view, deletersAt, Function.update_of_ne hm]
  acquired _ _ _ := rfl

/-! #### The call that changes -/

theorem view_goto (s : Preflight σ D) (n : ℕ) (pc : Pc) :
    (s.goto n pc).view n = { s.view n with pc := pc } := by
  simp only [Preflight.view, goto, Function.update_self]

theorem view_gets (s : Preflight σ D) (n : ℕ) (p : Ptr) (k : Kind) :
    (s.gets n p k).view n =
      { s.view n with ptr := Function.update (s.view n).ptr p (some (n, k)) } := by
  have hptr : (fun q => (s.gets n p k).ptr (n, q)) =
      Function.update (fun q => s.ptr (n, q)) p (some (n, k)) := by
    funext q
    rw [gets_ptr, Function.update_apply]
  rw [Preflight.view, hptr]
  rfl

theorem view_frees (s : Preflight σ D) (n : ℕ) (ps : List Ptr) :
    (s.frees n ps).view n =
      { s.view n with ptr := fun p => if p ∈ ps then none else (s.view n).ptr p } := by
  have hmem : ∀ p, (n, p) ∈ ps.map (Prod.mk n) ↔ p ∈ ps := by simp
  simp only [Preflight.view, frees, hmem]

theorem view_ends (s : Preflight σ D) (n : ℕ) (pc : Pc) :
    (s.ends n pc).view n =
      { s.view n with
        ptr := fun p => if p ∈ cleanup then none else (s.view n).ptr p
        pc := pc } := by
  rw [ends, view_goto, view_frees]

theorem view_notifierAt (s : Preflight σ D) (n : ℕ) (notifier : Notifier) :
    (s.notifierAt n notifier).view n = { s.view n with notifier := notifier } := by
  simp only [Preflight.view, notifierAt, Function.update_self]

theorem view_entered (s : Preflight σ D) (n : ℕ) (x : Notification) :
    (s.entered n x).view n =
      { s.view n with notifier := .calling (.entered x), calls := s.calls n + 1 } := by
  simp only [Preflight.view, entered, notifierAt, Function.update_self]

theorem view_deletersAt (s : Preflight σ D) (n : ℕ) (deleters : List DeleterPc) :
    (s.deletersAt n deleters).view n = { s.view n with deleters := deleters } := by
  simp only [Preflight.view, deletersAt, Function.update_self]

end View

end Preflight

end Usbmuxd
