import Usbmuxd.Devices.TxTransfers

/-!
# The ledger of what is sent

Every buffer, transfer and reference has one owner: the thread that has a pointer to it, the
transfer that has it in its fields, libusb, or nobody any more
(`Usbmuxd.TxTransfers.Ledger`). A step changes the owner of what it is about and of nothing
else: a thread that goes on leaves the others what they have
(`Usbmuxd.TxTransfers.Ledger.threads_go`), and most steps leave all transfers as they are
(`Usbmuxd.TxTransfers.Ledger.reassigns`).

What is in the fields of a transfer goes where the transfer goes
(`Usbmuxd.TxTransfers.Owner.ofField`), which is why neither submitting a transfer nor freeing
it has to say anything about them.

A ledger of owners says more than the counts of what has been released. It can be kept step by
step, since for everything there is one place to look at; and the questions about the counts are
then answered by asking for the owner. What makes it work is that the owner of a thing in the
fields of a transfer is the transfer, and not whoever has the transfer. Otherwise every handover
would have to be told of three things, and a transfer that is freed with its fields would be a
case by itself.
-/

namespace Usbmuxd

namespace TxTransfers

/-- Who has something. There is one owner at a time, and this is what keeps the two parties from
releasing the same thing. -/
inductive Owner (T : Type)
  /-- It has not been allocated. -/
  | unmade
  /-- A thread in `usb_send`. -/
  | thread (t : T)
  /-- A transfer, by its fields. -/
  | field (x : ℕ)
  /-- libusb, or `tx_callback`. -/
  | libusb
  /-- It has been released. -/
  | released (p : Party)

/-- Who has what is in the fields of a transfer: the transfer, as long as there is one, and
afterwards whoever has released the transfer. -/
def Owner.ofField {T : Type} (x : ℕ) : Owner T → Owner T
  | .unmade => .unmade
  | .thread _ | .field _ | .libusb => .field x
  | .released p => .released p

/-- libusb or `tx_callback` has the transfer. In between there is nobody else who might free
it. -/
def Progress.InLibusb : Progress → Prop
  | .submitted | .called | .erased => True
  | .unsubmitted | .completed => False

/-- The transfer that a thread may have put into `_tx_xfers`. In the cleanup it is erased from
there, whether it has been inserted or not. -/
def Send.tracks : Send → Option ℕ
  | .inserted _ xfer _ => some xfer
  | .cleanup _ xfer => xfer
  | _ => none

theorem Send.mem_holds_of_xfer {pc : Send} {x : ℕ} (h : pc.xfer = some x) : x ∈ pc.holds := by
  cases pc <;> simp_all [Send.xfer, Send.holds]

theorem Send.xfer_of_tracks {pc : Send} {x : ℕ} (h : pc.tracks = some x) : pc.xfer = some x := by
  cases pc <;> simp_all [Send.xfer, Send.tracks]

/-- What holds where a thread is, beyond what it has: a transfer that has just been allocated
has empty fields, and one that is about to be submitted is in `_tx_xfers`. -/
def AtPlace {T : Type} (s : TxTransfers T) : Send → Prop
  | .allocated _ _ x _ => s.fields x = []
  | .inserted _ x _ => s.addr x ∈ s.txXfers
  | _ => True

/-- What a thread has, and what holds where it is. The threads are told apart by this: each of
them satisfies it for its own pointers. -/
structure Holding {T : Type} (s : TxTransfers T) (owner : ℕ → Owner T) (t : T) (pc : Send) :
    Prop where
  holds : ∀ o, owner o = .thread t ↔ o ∈ pc.holds
  nodup : pc.holds.Nodup
  isXfer : ∀ x, pc.xfer = some x → (s.xfer x).isSome
  notXfer : ∀ o ∈ pc.holds, pc.xfer ≠ some o → s.xfer o = none
  atPlace : s.AtPlace pc

/-- **The ledger**: everything has one owner. The owners are not in the code; a step of the code
is shown to keep a ledger by naming the owners after it. -/
structure Ledger {T : Type} (s : TxTransfers T) (owner : ℕ → Owner T) : Prop where
  unmade : ∀ o, owner o = .unmade ↔ s.made ≤ o
  fresh : ∀ o, s.made ≤ o → s.xfer o = none
  threads : ∀ t, s.Holding owner t (s.send t)
  libusb : ∀ x, owner x = .libusb ↔ (s.progress x).InLibusb
  libusbXfer : ∀ x, s.progress x ≠ .unsubmitted → (s.xfer x).isSome
  completed : ∀ x, s.progress x = .completed → owner x = .released .txCallback
  notField : ∀ x y, owner x = .field y → s.xfer x = none
  field : ∀ x o, owner o = .field x → o ∈ s.fields x
  follows : ∀ x, ∀ o ∈ s.fields x, owner o = (owner x).ofField x
  fieldsNodup : ∀ x, (s.fields x).Nodup
  released : ∀ p o, owner o = .released p → s.released p o = 1
  kept : ∀ p o, owner o ≠ .released p → s.released p o = 0
  back : ∀ o, owner o = .released .txCallback → s.WasSubmitted o
  /-- What is in `_tx_xfers`. -/
  tracked : ∀ a ∈ s.txXfers, ∃ x, s.addr x = a ∧ (s.Outstanding x ∨ ∃ t, (s.send t).tracks = some x)
  outstanding : ∀ x, s.Outstanding x → s.addr x ∈ s.txXfers
  distinct : ∀ x x', (s.xfer x).isSome → (s.xfer x').isSome → (∀ p, s.released p x = 0) →
    (∀ p, s.released p x' = 0) → s.addr x = s.addr x' → x = x'

variable {T : Type} {s s' : TxTransfers T} {owner : ℕ → Owner T} {t : T} {pc : Send} {x o : ℕ}

/-- What a thread holds stays as it is, if neither its transfers nor the owner of anything it
has change. -/
theorem Holding.mono {owner' : ℕ → Owner T} (h : s.Holding owner t pc)
    (howner : ∀ o, owner' o = .thread t ↔ owner o = .thread t)
    (hxfer : ∀ x ∈ pc.holds, s'.xfer x = s.xfer x)
    (htx : ∀ x, pc.xfer = some x → s.addr x ∈ s.txXfers → s.addr x ∈ s'.txXfers) :
    s'.Holding owner' t pc where
  holds := fun o => (howner o).trans (h.holds o)
  nodup := h.nodup
  isXfer := by
    intro x hx
    rw [hxfer x (Send.mem_holds_of_xfer hx)]
    exact h.isXfer x hx
  notXfer := by
    intro o ho hne
    rw [hxfer o ho]
    exact h.notXfer o ho hne
  atPlace := by
    have hplace := h.atPlace
    cases pc with
    | allocated length buf x zlp =>
      rw [AtPlace, fields, hxfer x (by simp [Send.holds])]
      exact hplace
    | inserted length x zlp =>
      rw [AtPlace, addr, hxfer x (by simp [Send.holds])]
      exact htx x rfl hplace
    | _ => trivial

theorem Outstanding.ne_unsubmitted (hx : s.Outstanding x) : s.progress x ≠ .unsubmitted := by
  rcases hx with hx | hx <;> rw [hx] <;> nofun

/-- What has been submitted stays so, since a transfer never goes back and its fields are not
emptied. -/
theorem WasSubmitted.mono (ho : s.WasSubmitted o)
    (hprogress : ∀ x, s.progress x ≠ .unsubmitted → s'.progress x ≠ .unsubmitted)
    (hfields : ∀ x, o ∈ s.fields x → o ∈ s'.fields x) : s'.WasSubmitted o := by
  rcases ho with ho | ⟨x, hx, ho⟩
  · exact Or.inl (hprogress o ho)
  · exact Or.inr ⟨x, hprogress x hx, hfields x ho⟩

theorem WasSubmitted.update {progress : Progress} (ho : s.WasSubmitted o)
    (hprogress : s'.progress = Function.update s.progress x progress)
    (hsub : progress ≠ .unsubmitted) (hxfer : s'.xfer = s.xfer) : s'.WasSubmitted o := by
  refine ho.mono (fun y hy => ?_) fun y hy => ?_
  · rw [hprogress, Function.update_apply]
    split
    · exact hsub
    · exact hy
  · rwa [fields, hxfer]

/-- A thread that goes on may keep its transfer in `_tx_xfers`, and the others do. -/
theorem tracks_go [DecidableEq T] (hsend : s'.send = Function.update s.send t pc)
    (htracks : (s.send t).tracks = some x → pc.tracks = some x)
    (hx : ∃ t', (s.send t').tracks = some x) : ∃ t', (s'.send t').tracks = some x := by
  obtain ⟨t', ht'⟩ := hx
  refine ⟨t', ?_⟩
  rw [hsend]
  rcases eq_or_ne t' t with rfl | hne
  · rw [Function.update_self]
    exact htracks ht'
  · rwa [Function.update_of_ne hne]

namespace Ledger

/-- A transfer that libusb has is owned by libusb, and not by the thread that has submitted
it. -/
theorem owner_of_outstanding (h : s.Ledger owner) (hx : s.Outstanding x) : owner x = .libusb := by
  rw [h.libusb]
  rcases hx with hx | hx <;> rw [hx] <;> trivial

/-- A transfer that has been submitted is with libusb, or the callback has released it. -/
theorem owner_of_submitted (h : s.Ledger owner) (hx : s.progress x ≠ .unsubmitted) :
    owner x = .libusb ∨ s.progress x = .completed ∧ owner x = .released .txCallback := by
  cases hp : s.progress x with
  | unsubmitted => exact absurd hp hx
  | submitted | called | erased =>
    refine Or.inl ((h.libusb x).mpr ?_)
    rw [hp]
    trivial
  | completed => exact Or.inr ⟨rfl, h.completed x hp⟩

/-- What is submitted now was a transfer before. There are no submissions of something else. -/
theorem isSome_of_update (h : s.Ledger owner) {progress : Progress} {y : ℕ}
    (hprogress : s'.progress = Function.update s.progress x progress) (hx : (s.xfer x).isSome)
    (hy : s'.progress y ≠ .unsubmitted) : (s.xfer y).isSome := by
  rw [hprogress, Function.update_apply] at hy
  split at hy
  · next heq => rwa [heq]
  · exact h.libusbXfer y hy

/-- The owner of something that has been submitted is not the cleanup of `usb_send`, neither for
a transfer nor for what is in its fields. -/
theorem owner_of_wasSubmitted (h : s.Ledger owner) (ho : s.WasSubmitted o) :
    owner o ≠ .released .usbSend := by
  rcases ho with ho | ⟨x, hx, ho⟩
  · rcases h.owner_of_submitted ho with he | ⟨-, he⟩ <;> rw [he] <;> simp
  · have hfollows := h.follows x o ho
    rcases h.owner_of_submitted hx with he | ⟨-, he⟩ <;> rw [hfollows, he] <;> simp [Owner.ofField]

/-- A transfer that a thread has in a local pointer is its `xfer`, as a thread has one transfer
at a time. -/
theorem xfer_of_thread (h : s.Ledger owner) (hx : owner x = .thread t) (ho : o ∈ s.fields x) :
    (s.send t).xfer = some x := by
  by_contra hne
  have hnone := (h.threads t).notXfer x (((h.threads t).holds x).mp hx) hne
  rw [fields, hnone] at ho
  exact absurd ho List.not_mem_nil

/-- **What a call has in hand** is its own, or in the fields of its transfer. -/
theorem mem_inHand (h : s.Ledger owner) :
    o ∈ s.inHand t ↔ owner o = .thread t ∨
      ∃ x, owner x = .thread t ∧ o ∈ s.fields x ∧ owner o = .field x := by
  rw [inHand, List.mem_append, ← (h.threads t).holds]
  refine or_congr_right ⟨fun ho => ?_, ?_⟩
  · cases hx : (s.send t).xfer with
    | none =>
      rw [hx] at ho
      exact absurd ho List.not_mem_nil
    | some x =>
      rw [hx] at ho
      have hthread := ((h.threads t).holds x).mpr (Send.mem_holds_of_xfer hx)
      have hfollows := h.follows x o ho
      rw [hthread] at hfollows
      exact ⟨x, hthread, ho, hfollows⟩
  · rintro ⟨x, hx, ho, -⟩
    rw [h.xfer_of_thread hx ho]
    exact ho

/-- What has not been submitted nor released is in somebody's hands. So when nobody is in a
call, there is nothing of that kind. -/
theorem exists_inHand (h : s.Ledger owner) (hmade : o < s.made) (ho : ¬s.WasSubmitted o) :
    owner o = .released .usbSend ∨ ∃ t, o ∈ s.inHand t := by
  cases howner : owner o with
  | unmade => exact absurd ((h.unmade o).mp howner) (by omega)
  | thread t => exact Or.inr ⟨t, h.mem_inHand.mpr (Or.inl howner)⟩
  | field x =>
    have hmem := h.field x o howner
    have hfollows := h.follows x o hmem
    rw [howner] at hfollows
    cases hx : owner x with
    | thread t => exact Or.inr ⟨t, h.mem_inHand.mpr (Or.inr ⟨x, hx, hmem, howner⟩)⟩
    | field y =>
      rw [fields, h.notField x y hx] at hmem
      exact absurd hmem List.not_mem_nil
    | libusb =>
      refine absurd (Or.inr ⟨x, fun hp => ?_, hmem⟩) ho
      rw [h.libusb, hp] at hx
      exact hx
    | unmade | released p =>
      rw [hx] at hfollows
      cases hfollows
  | libusb =>
    refine absurd (Or.inl fun hp => ?_) ho
    rw [h.libusb, hp] at howner
    exact howner
  | released p =>
    cases p with
    | usbSend => exact Or.inl rfl
    | txCallback => exact absurd (h.back o howner) ho

theorem accounted [DecidableEq T] (h : s.Ledger owner) (wMaxPacketSize : ℕ) :
    s.Accounted wMaxPacketSize where
  once := by
    intro o
    by_cases hs : owner o = .released .usbSend
    · rw [h.released _ o hs, h.kept .txCallback o (by rw [hs]; simp)]
    · rw [h.kept _ o hs, Nat.zero_add]
      by_cases hc : owner o = .released .txCallback
      · rw [h.released _ o hc]
      · rw [h.kept _ o hc]
        exact Nat.zero_le 1
  byCallback := fun o ho => h.kept _ o (h.owner_of_wasSubmitted ho)
  bySend := fun o ho => h.kept _ o fun hc => ho (h.back o hc)
  pending := by
    intro x hx o ho p
    have howner := h.owner_of_outstanding hx
    rcases List.mem_cons.mp ho with rfl | ho
    · exact h.kept p _ (by simp [howner])
    · refine h.kept p o ?_
      rw [h.follows x o ho, howner]
      simp [Owner.ofField]
  completed := by
    intro x hx o ho
    have hrel := h.completed x hx
    rcases List.mem_cons.mp ho with rfl | ho
    · exact h.released _ _ hrel
    · refine h.released _ o ((h.follows x o ho).trans ?_)
      rw [hrel]
      rfl
  kept := by
    intro o hmade ho
    rcases h.exists_inHand hmade ho with he | ⟨t, ht⟩
    · exact Or.inl (h.released _ o he)
    · refine Or.inr ⟨t, fun hidle => ?_, ht⟩
      rw [s.inHand_of_idle hidle] at ht
      exact absurd ht List.not_mem_nil
  hands := by
    intro t o ho
    rw [h.mem_inHand] at ho
    refine ⟨fun p => h.kept p o ?_, fun t' ho' => ?_⟩
    · rcases ho with he | ⟨x, -, -, he⟩ <;> rw [he] <;> nofun
    · rw [h.mem_inHand] at ho'
      rcases ho with he | ⟨x, hx, -, he⟩ <;> rcases ho' with he' | ⟨x', hx', -, he'⟩
      · rw [he] at he'
        cases he'
        rfl
      · rw [he] at he'
        cases he'
      · rw [he] at he'
        cases he'
      · rw [he] at he'
        cases he'
        rw [hx] at hx'
        cases hx'
        rfl
  sendGoes := fun _ ok ht => s.exists_sendStep wMaxPacketSize ok ht
  cleanupEnds := fun _ ht => s.cleanup_ends wMaxPacketSize ht
  callbackEnds := fun _ hx => s.callback_ends wMaxPacketSize hx
  tracked := by
    intro hquiet a
    constructor
    · intro ha
      obtain ⟨x, hx, hout | ⟨t, ht⟩⟩ := h.tracked a ha
      · exact ⟨x, hout, hx⟩
      · rw [hquiet t] at ht
        cases ht
    · rintro ⟨x, hout, rfl⟩
      exact h.outstanding x hout
  distinct := by
    intro x x' hx hx' haddr
    have hkept : ∀ y, s.Outstanding y → (s.xfer y).isSome ∧ ∀ p, s.released p y = 0 := by
      intro y hy
      refine ⟨h.libusbXfer y hy.ne_unsubmitted, fun p => h.kept p y ?_⟩
      rw [h.owner_of_outstanding hy]
      nofun
    exact h.distinct x x' (hkept x hx).1 (hkept x' hx').1 (hkept x hx).2 (hkept x' hx').2 haddr

/-! ### What somebody has -/

/-- Two transfers that have not been freed have different addresses. Only then may a set of
addresses be taken for a set of transfers. -/
theorem addr_ne (h : s.Ledger owner) {x x' : ℕ} (hx : (s.xfer x).isSome)
    (hx' : (s.xfer x').isSome) (hkept : ∀ p, owner x ≠ .released p)
    (hkept' : ∀ p, owner x' ≠ .released p) (hne : x ≠ x') : s.addr x ≠ s.addr x' := by
  intro haddr
  exact hne (h.distinct x x' hx hx' (fun p => h.kept p x (hkept p))
    (fun p => h.kept p x' (hkept' p)) haddr)

/-- What has not been allocated: it has no owner, it is no transfer, and it has not been
submitted. -/
theorem of_made_le (h : s.Ledger owner) (ho : s.made ≤ o) :
    owner o = .unmade ∧ s.xfer o = none ∧ s.progress o = .unsubmitted := by
  refine ⟨(h.unmade o).mpr ho, h.fresh o ho, ?_⟩
  by_contra hp
  have hsome := h.libusbXfer o hp
  rw [h.fresh o ho] at hsome
  cases hsome

/-- What has an owner is not what is allocated next, since that has none, -/
theorem ne_made (h : s.Ledger owner) (ho : owner o ≠ .unmade) : o ≠ s.made := by
  rintro rfl
  exact ho (h.of_made_le (Nat.le_refl _)).1

/-- nor is what has been submitted. -/
theorem ne_made_of_submitted (h : s.Ledger owner) (hx : s.progress x ≠ .unsubmitted) :
    x ≠ s.made := by
  rintro rfl
  exact hx (h.of_made_le (Nat.le_refl _)).2.2

/-- A transfer with something in its fields has been made, and so has that. Both are needed to
see that the next allocation is in nobody's fields. -/
theorem owner_of_mem_fields (h : s.Ledger owner) (ho : o ∈ s.fields x) :
    owner x ≠ .unmade ∧ owner o ≠ .unmade := by
  have hx : owner x ≠ .unmade := by
    intro hx
    rw [fields, h.fresh x ((h.unmade x).mp hx)] at ho
    exact absurd ho List.not_mem_nil
  refine ⟨hx, ?_⟩
  rw [h.follows x o ho]
  cases hxo : owner x with
  | unmade => exact absurd hxo hx
  | _ => simp [Owner.ofField]

/-- What a thread or libusb has is in nobody's fields. So a thread may put it into the fields of
its transfer. -/
theorem notMem_fields (h : s.Ledger owner) (hfield : ∀ x, owner o ≠ .field x)
    (hkept : ∀ p, owner o ≠ .released p) (x : ℕ) : o ∉ s.fields x := by
  intro ho
  have hfollows := h.follows x o ho
  cases hxo : owner x with
  | unmade => exact (h.owner_of_mem_fields ho).1 hxo
  | released p =>
    rw [hxo] at hfollows
    exact hkept p hfollows
  | thread t | field y | libusb =>
    rw [hxo] at hfollows
    exact hfield x hfollows

/-- A transfer is not in fields, so it is freed once with what is in its own. -/
theorem nodup_fields (h : s.Ledger owner) (hx : ∀ y, owner x ≠ .field y)
    (hkept : ∀ p, owner x ≠ .released p) : (s.fields x ++ [x]).Nodup :=
  List.nodup_append'.mpr ⟨h.fieldsNodup x, List.nodup_singleton x,
    List.disjoint_singleton.mpr (h.notMem_fields hx hkept x)⟩

/-- What is in the fields of a transfer is no transfer. -/
theorem fields_of_mem_fields (h : s.Ledger owner) (hkept : ∀ p, owner x ≠ .released p)
    (ho : o ∈ s.fields x) : owner o = .field x ∧ s.fields o = [] := by
  have hoo : owner o = .field x := by
    rw [h.follows x o ho]
    cases hxo : owner x with
    | unmade => exact absurd hxo (h.owner_of_mem_fields ho).1
    | released p => exact absurd hxo (hkept p)
    | _ => rfl
  refine ⟨hoo, ?_⟩
  rw [fields, h.notField o x hoo]
  rfl

/-- Something is in the fields of one transfer only, and so it is released with that transfer
and no other. -/
theorem eq_of_mem_fields (h : s.Ledger owner) {y : ℕ} (ho : o ∈ s.fields y)
    (howner : owner o = .field x) : y = x := by
  have hfollows := h.follows y o ho
  rw [howner] at hfollows
  cases hyo : owner y <;> rw [hyo] at hfollows <;> cases hfollows <;> rfl

/-- A transfer goes with what is in its fields, and nothing else does. -/
theorem mem_fields_append_iff (h : s.Ledger owner) (hx : ∀ y, owner x ≠ .field y)
    (hkept : ∀ p, owner x ≠ .released p) {y : ℕ} (ho : o ∈ s.fields y) :
    o ∈ s.fields x ++ [x] ↔ y ∈ s.fields x ++ [x] := by
  simp only [List.mem_append, List.mem_singleton]
  constructor
  · rintro (hox | rfl)
    · exact Or.inr (h.eq_of_mem_fields ho (h.fields_of_mem_fields hkept hox).1)
    · exact absurd ho (h.notMem_fields hx hkept y)
  · rintro (hyx | rfl)
    · rw [(h.fields_of_mem_fields hkept hyx).2] at ho
      exact absurd ho List.not_mem_nil
    · exact Or.inl ho

/-- Nobody goes on in `usb_send`: the threads keep what they have through a step of libusb or of
the callback. -/
theorem threads_stay (h : s.Ledger owner) {owner' : ℕ → Owner T}
    (howner : ∀ t o, owner' o = .thread t ↔ owner o = .thread t) (hxfer : ∀ x, s'.xfer x = s.xfer x)
    (htx : ∀ t x, (s.send t).xfer = some x → s.addr x ∈ s.txXfers → s.addr x ∈ s'.txXfers)
    (hsend : s'.send = s.send) (t : T) : s'.Holding owner' t (s'.send t) := by
  rw [hsend]
  exact (h.threads t).mono (howner t) (fun x _ => hxfer x) (htx t)

variable [DecidableEq T]

/-- **A thread goes on**, and the others keep what they have. -/
theorem threads_go (h : s.Ledger owner) {owner' : ℕ → Owner T} (hself : s'.Holding owner' t pc)
    (howner : ∀ t' ≠ t, ∀ o, owner' o = .thread t' ↔ owner o = .thread t')
    (hxfer : ∀ t' ≠ t, ∀ x, owner x = .thread t' → s'.xfer x = s.xfer x)
    (htx : ∀ t' ≠ t, ∀ x, (s.send t').xfer = some x → s.addr x ∈ s.txXfers →
      s.addr x ∈ s'.txXfers)
    (hsend : s'.send = Function.update s.send t pc) (t' : T) :
    s'.Holding owner' t' (s'.send t') := by
  rw [hsend]
  rcases eq_or_ne t' t with rfl | hne
  · rwa [Function.update_self]
  · rw [Function.update_of_ne hne]
    have hold := h.threads t'
    exact hold.mono (howner t' hne) (fun x hx => hxfer t' hne x ((hold.holds x).mpr hx))
      (htx t' hne)

omit [DecidableEq T] in
/-- **Nothing is released**, and what has been submitted stays so. -/
theorem releases_nothing (h : s.Ledger owner) {owner' : ℕ → Owner T}
    (hreleased : s'.released = s.released)
    (howner : ∀ o p, owner' o = .released p ↔ owner o = .released p)
    (hwas : ∀ o, s.WasSubmitted o → s'.WasSubmitted o) :
    (∀ p o, owner' o = .released p → s'.released p o = 1) ∧
      (∀ p o, owner' o ≠ .released p → s'.released p o = 0) ∧
      ∀ o, owner' o = .released .txCallback → s'.WasSubmitted o := by
  rw [hreleased]
  refine ⟨?_, ?_, ?_⟩
  · exact fun p o ho => h.released p o ((howner o p).mp ho)
  · exact fun p o ho => h.kept p o (mt (howner o p).mpr ho)
  · exact fun o ho => hwas o (h.back o ((howner o _).mp ho))

/-- A thread goes on with the same pointers. Then nobody has to be told of it. -/
theorem goes (h : s.Ledger owner) {pc' : Send} (hpc : s.send t = pc)
    (hholds : pc'.holds = pc.holds) (hxfer : pc'.xfer = pc.xfer) (hplace : s.AtPlace pc')
    (htracks : ∀ x, pc.tracks = some x → pc'.tracks = some x) : (s.go t pc').Ledger owner := by
  have hold := h.threads t
  subst hpc
  refine { h with threads := ?_, tracked := ?_ }
  · refine h.threads_go ⟨?_, ?_, ?_, ?_, hplace⟩ (fun _ _ _ => Iff.rfl) (fun _ _ _ _ => rfl)
      (fun _ _ _ _ => id) rfl
    · rw [hholds]
      exact hold.holds
    · rw [hholds]
      exact hold.nodup
    · rw [hxfer]
      exact hold.isXfer
    · rw [hholds, hxfer]
      exact hold.notXfer
  · intro a ha
    obtain ⟨x, hx, hcase⟩ := h.tracked a ha
    exact ⟨x, hx, hcase.imp_right (tracks_go rfl (htracks x))⟩

omit [DecidableEq T] in
/-- **Who has what changes**, but neither what there is nor what is in the fields. -/
theorem reassigns (h : s.Ledger owner) {owner' : ℕ → Owner T} (hmade : s'.made = s.made)
    (hxfer : s'.xfer = s.xfer) (hunmade : ∀ o, owner' o = .unmade ↔ owner o = .unmade)
    (hfield : ∀ x o, owner' o = .field x → owner o = .field x)
    (hfollows : ∀ x, ∀ o ∈ s.fields x, owner' o = (owner' x).ofField x)
    (hunreleased : ∀ p x, s'.released p x = 0 → s.released p x = 0)
    (hthreads : ∀ t, s'.Holding owner' t (s'.send t))
    (hlibusb : ∀ x, owner' x = .libusb ↔ (s'.progress x).InLibusb)
    (hsubmitted : ∀ x, s'.progress x ≠ .unsubmitted → (s.xfer x).isSome)
    (hcompleted : ∀ x, s'.progress x = .completed → owner' x = .released .txCallback)
    (hreleased : ∀ p o, owner' o = .released p → s'.released p o = 1)
    (hkept : ∀ p o, owner' o ≠ .released p → s'.released p o = 0)
    (hback : ∀ o, owner' o = .released .txCallback → s'.WasSubmitted o)
    (htracked : ∀ a ∈ s'.txXfers,
      ∃ x, s.addr x = a ∧ (s'.Outstanding x ∨ ∃ t, (s'.send t).tracks = some x))
    (hout : ∀ x, s'.Outstanding x → s.addr x ∈ s'.txXfers) : s'.Ledger owner' := by
  have hfieldsOf : s'.fields = s.fields := by
    funext x
    rw [fields, fields, hxfer]
  have haddr : s'.addr = s.addr := by
    funext x
    rw [addr, addr, hxfer]
  have hmade' : ∀ o, owner' o = .unmade ↔ s'.made ≤ o := by
    intro o
    rw [hunmade, hmade, h.unmade]
  have hfresh : ∀ o, s'.made ≤ o → s'.xfer o = none := by
    rw [hmade, hxfer]
    exact h.fresh
  have hisXfer : ∀ x, s'.progress x ≠ .unsubmitted → (s'.xfer x).isSome := by
    rw [hxfer]
    exact hsubmitted
  have hnotField : ∀ x y, owner' x = .field y → s'.xfer x = none := by
    intro x y hxy
    rw [hxfer]
    exact h.notField x y (hfield y x hxy)
  have hinField : ∀ x o, owner' o = .field x → o ∈ s'.fields x := by
    intro x o ho
    rw [hfieldsOf]
    exact h.field x o (hfield x o ho)
  have hnodup : ∀ x, (s'.fields x).Nodup := by
    rw [hfieldsOf]
    exact h.fieldsNodup
  have hdistinct : ∀ x x', (s'.xfer x).isSome → (s'.xfer x').isSome →
      (∀ p, s'.released p x = 0) → (∀ p, s'.released p x' = 0) → s'.addr x = s'.addr x' →
      x = x' := by
    rw [hxfer, haddr]
    intro x x' hx hx' hrel hrel'
    exact h.distinct x x' hx hx' (fun p => hunreleased p x (hrel p))
      fun p => hunreleased p x' (hrel' p)
  rw [← hfieldsOf] at hfollows
  rw [← haddr] at htracked hout
  exact ⟨hmade', hfresh, hthreads, hlibusb, hisXfer, hcompleted, hnotField, hinField, hfollows,
    hnodup, hreleased, hkept, hback, htracked, hout, hdistinct⟩

end Ledger

end TxTransfers

end Usbmuxd
