import Usbmuxd.Devices.TxHanded

/-!
# Tx transfers are accounted for

Something is released by the cleanup of `usb_send` or by `tx_callback`, and either of them
releases what it has with all that is in its fields
(`Usbmuxd.TxTransfers.Ledger.releases`). So every step keeps the ledger, and in every run each
buffer, each transfer and each reference is released once
(`Usbmuxd.tx_transfers_accounted`).

That `_tx_xfers` is a set of addresses is no trouble: while a thread has a transfer, nobody
else's has the same address, and a transfer is erased before it is freed.

The two halves of the proof meet here. A step of `usb_send` either hands something over or goes
to the cleanup, and the cleanup has one step or two, depending on whether there is a transfer; a
step of libusb or of the callback concerns a transfer that no thread has. In each case the
owners after the step can be written down, and it remains to compare them with the pointers.
What is finally said does not mention owners any more: how often things are released, by whom,
and what is left when a call has returned (`Usbmuxd.TxTransfers.Accounted`).
-/

namespace Usbmuxd

open Interleaving

namespace TxTransfers

variable {T : Type} {s s' : TxTransfers T} {owner : ℕ → Owner T} {t : T} {pc : Send} {x o : ℕ}

namespace Ledger

/-! ### The callback -/

/-- **Something is released**: each of `os` has an owner until then, and what is in the fields
of a transfer goes with it. -/
theorem releases (h : s.Ledger owner) {owner' : ℕ → Owner T} {p : Party} {os : List ℕ}
    (hnodup : os.Nodup) (howned : ∀ o ∈ os, owner o ≠ .unmade ∧ ∀ q, owner o ≠ .released q)
    (hclosed : ∀ x, ∀ o ∈ s.fields x, o ∈ os ↔ x ∈ os)
    (howner : ∀ o, owner' o = if o ∈ os then .released p else owner o)
    (hmade : s'.made = s.made) (hxfer : ∀ x, s'.xfer x = s.xfer x)
    (hreleased : s'.released = Function.update s.released p fun o => s.released p o + os.count o)
    (hthreads : ∀ t, s'.Holding owner' t (s'.send t))
    (hlibusb : ∀ x, owner' x = .libusb ↔ (s'.progress x).InLibusb)
    (hsubmitted : ∀ x, s'.progress x ≠ .unsubmitted ↔ s.progress x ≠ .unsubmitted)
    (hcompleted : ∀ x, s'.progress x = .completed → owner' x = .released .txCallback)
    (hback : ∀ o ∈ os, p = .txCallback → s.WasSubmitted o)
    (htracked : ∀ a ∈ s'.txXfers,
      ∃ x, s.addr x = a ∧ (s'.Outstanding x ∨ ∃ t, (s'.send t).tracks = some x))
    (hout : ∀ x, s'.Outstanding x → s.addr x ∈ s'.txXfers) : s'.Ledger owner' := by
  have hcount : ∀ q o, s'.released q o =
      if q = p ∧ o ∈ os then 1 else s.released q o := by
    intro q o
    rw [hreleased, Function.update_apply]
    by_cases hq : q = p
    · subst hq
      by_cases ho : o ∈ os
      · simp [ho, List.count_eq_one_of_mem hnodup ho, h.kept q o ((howned o ho).2 q)]
      · simp [ho, List.count_eq_zero_of_not_mem ho]
    · simp [hq]
  have hunmade : ∀ o, owner' o = .unmade ↔ owner o = .unmade := by
    intro o
    rw [howner]
    split
    · next ho => exact iff_of_false nofun (howned o ho).1
    · exact Iff.rfl
  have hfield : ∀ x o, owner' o = .field x → owner o = .field x := by
    intro x o ho
    rw [howner] at ho
    split at ho
    · cases ho
    · exact ho
  have hfollows : ∀ x, ∀ o ∈ s.fields x, owner' o = (owner' x).ofField x := by
    intro x o ho
    rw [howner, howner, h.follows x o ho]
    simp only [hclosed x o ho]
    split
    · rfl
    · rfl
  have hunreleased : ∀ q x, s'.released q x = 0 → s.released q x = 0 := by
    intro q x hx
    rw [hcount] at hx
    split at hx
    · cases hx
    · exact hx
  have hisXfer : ∀ x, s'.progress x ≠ .unsubmitted → (s.xfer x).isSome :=
    fun x hx => h.libusbXfer x ((hsubmitted x).mp hx)
  have hrel : ∀ q o, owner' o = .released q → s'.released q o = 1 := by
    intro q o ho
    rw [howner] at ho
    rw [hcount]
    split at ho
    · next hmem =>
      cases ho
      rw [if_pos ⟨rfl, hmem⟩]
    · next hmem =>
      rw [if_neg fun hand => hmem hand.2]
      exact h.released q o ho
  have hkept : ∀ q o, owner' o ≠ .released q → s'.released q o = 0 := by
    intro q o ho
    rw [howner] at ho
    rw [hcount]
    split at ho
    · next hmem =>
      rw [if_neg]
      · exact h.kept q o ((howned o hmem).2 q)
      · rintro ⟨rfl, -⟩
        exact ho rfl
    · next hmem =>
      rw [if_neg fun hand => hmem hand.2]
      exact h.kept q o ho
  have hback' : ∀ o, owner' o = .released .txCallback → s'.WasSubmitted o := by
    intro o ho
    have hwas : s.WasSubmitted o := by
      rw [howner] at ho
      split at ho
      · next hmem => exact hback o hmem (by cases ho; rfl)
      · exact h.back o ho
    refine hwas.mono (fun x => (hsubmitted x).mpr) fun x hx => ?_
    rwa [fields, hxfer]
  exact h.reassigns hmade (funext hxfer) hunmade hfield hfollows hunreleased hthreads hlibusb
    hisXfer hcompleted hrel hkept hback' htracked hout

/-- `tx_callback` goes on, and keeps the transfer. -/
theorem progresses (h : s.Ledger owner) {progress : Progress} (hx : (s.progress x).InLibusb)
    (hp : progress.InLibusb) (hmade : s'.made = s.made) (hxfer : ∀ y, s'.xfer y = s.xfer y)
    (hreleased : s'.released = s.released) (hsend : s'.send = s.send)
    (hprogress : s'.progress = Function.update s.progress x progress)
    (htx : ∀ t y, (s.send t).xfer = some y → s.addr y ∈ s.txXfers → s.addr y ∈ s'.txXfers)
    (htracked : ∀ a ∈ s'.txXfers,
      ∃ y, s.addr y = a ∧ (s'.Outstanding y ∨ ∃ t, (s.send t).tracks = some y))
    (hout : ∀ y, s'.Outstanding y → s.addr y ∈ s'.txXfers) : s'.Ledger owner := by
  have hprogress' : ∀ y, s'.progress y = if y = x then progress else s.progress y := by
    intro y
    rw [hprogress, Function.update_apply]
  have hsub : progress ≠ .unsubmitted ∧ progress ≠ .completed := by
    constructor <;> rintro rfl <;> exact hp
  have hsub' : s.progress x ≠ .unsubmitted := by
    intro heq
    rw [heq] at hx
    exact hx
  have hthreads := h.threads_stay (fun _ _ => Iff.rfl) hxfer htx hsend
  have hlibusb : ∀ y, owner y = .libusb ↔ (s'.progress y).InLibusb := by
    intro y
    rw [h.libusb, hprogress']
    split
    · next heq =>
      rw [heq]
      exact iff_of_true hx hp
    · exact Iff.rfl
  have hcompleted : ∀ y, s'.progress y = .completed → owner y = .released .txCallback := by
    intro y hy
    rw [hprogress'] at hy
    split at hy
    · exact absurd hy hsub.2
    · exact h.completed y hy
  obtain ⟨hrel, hkept, hback⟩ := h.releases_nothing hreleased (fun _ _ => Iff.rfl)
    fun o ho => ho.update hprogress hsub.1 (funext hxfer)
  rw [← hsend] at htracked
  exact h.reassigns hmade (funext hxfer) (fun _ => Iff.rfl) (fun _ _ => id) h.follows
    (by rw [hreleased]; exact fun _ _ => id) hthreads hlibusb
    (fun _ => h.isSome_of_update hprogress (h.libusbXfer x hsub')) hcompleted hrel hkept hback
    htracked hout

/-- libusb calls `tx_callback`. -/
theorem called (h : s.Ledger owner) (hx : s.progress x = .submitted) (status : TransferStatus) :
    (s.txCallback x status).Ledger owner := by
  obtain ⟨hmade, hxfer, hreleased, hsend, hprogress, htx⟩ :
      (s.txCallback x status).made = s.made ∧ (∀ y, (s.txCallback x status).xfer y = s.xfer y) ∧
      (s.txCallback x status).released = s.released ∧ (s.txCallback x status).send = s.send ∧
      (s.txCallback x status).progress = Function.update s.progress x .called ∧
      (s.txCallback x status).txXfers = s.txXfers := by
    unfold txCallback
    simp only
    split <;> exact ⟨rfl, fun _ => rfl, rfl, rfl, rfl, rfl⟩
  have hout : ∀ y, (s.txCallback x status).Outstanding y ↔ s.Outstanding y := by
    intro y
    rw [Outstanding, Outstanding, hprogress, Function.update_apply]
    split
    · next heq => simp [heq, hx]
    · rfl
  have hold : (s.progress x).InLibusb := by
    rw [hx]
    trivial
  have hnew : Progress.called.InLibusb := trivial
  refine h.progresses hold hnew hmade hxfer hreleased hsend hprogress ?_ ?_ ?_
  · rw [htx]
    exact fun _ _ _ => id
  · rw [htx]
    simp only [hout]
    exact h.tracked
  · intro y hy
    rw [htx]
    exact h.outstanding y ((hout y).mp hy)

/-- `tx_callback` erases the transfer from `_tx_xfers`. -/
theorem erased (h : s.Ledger owner) (hx : s.progress x = .called) :
    ((s.eraseXfer x).setProgress x .erased).Ledger owner := by
  have hold : (s.progress x).InLibusb := by
    rw [hx]
    trivial
  have hnew : Progress.erased.InLibusb := trivial
  have hxo : owner x = .libusb := (h.libusb x).mpr hold
  have hsome : ∀ y, s.progress y ≠ .unsubmitted → (s.xfer y).isSome := h.libusbXfer
  have hout : ∀ y, ((s.eraseXfer x).setProgress x .erased).Outstanding y ↔
      s.Outstanding y ∧ y ≠ x := by
    intro y
    rw [Outstanding, Outstanding]
    change Function.update s.progress x .erased y = _ ∨
      Function.update s.progress x .erased y = _ ↔ _
    rw [Function.update_apply]
    split
    · next heq => simp [heq]
    · next hne => simp [hne]
  refine h.progresses hold hnew rfl (fun _ => rfl) rfl rfl rfl ?_ ?_ ?_
  · intro t y hy hmem
    have hyo : owner y = .thread t := ((h.threads t).holds y).mpr (Send.mem_holds_of_xfer hy)
    have hyx : y ≠ x := by
      rintro rfl
      rw [hxo] at hyo
      cases hyo
    refine Finset.mem_erase.mpr ⟨?_, hmem⟩
    exact h.addr_ne ((h.threads t).isXfer y hy) (hsome x (by simp [hx])) (by simp [hyo])
      (by simp [hxo]) hyx
  · intro a ha
    obtain ⟨hne, ha⟩ := Finset.mem_erase.mp ha
    obtain ⟨y, hy, hcase | ht⟩ := h.tracked a ha
    · refine ⟨y, hy, Or.inl ((hout y).mpr ⟨hcase, ?_⟩)⟩
      rintro rfl
      exact hne hy.symm
    · exact ⟨y, hy, Or.inr ht⟩
  · intro y hy
    obtain ⟨hy, hyx⟩ := (hout y).mp hy
    have hyo := h.owner_of_outstanding hy
    refine Finset.mem_erase.mpr ⟨?_, h.outstanding y hy⟩
    exact h.addr_ne (hsome y hy.ne_unsubmitted) (hsome x (by simp [hx])) (by simp [hyo])
      (by simp [hxo]) hyx

/-- **`tx_callback` releases** the fields of the transfer, and the transfer. -/
theorem completes (h : s.Ledger owner) (hx : s.progress x = .erased) :
    ((s.release .txCallback (s.fields x ++ [x])).setProgress x .completed).Ledger
      fun o => if o ∈ s.fields x ++ [x] then .released .txCallback else owner o := by
  have hxo : owner x = .libusb := (h.libusb x).mpr (by rw [hx]; trivial)
  have hkept : ∀ p, owner x ≠ .released p := by simp [hxo]
  have hmem : ∀ o, o ∈ s.fields x ++ [x] → o = x ∨ o ∈ s.fields x := by
    intro o ho
    simpa [or_comm] using ho
  have hos : ∀ o ∈ s.fields x ++ [x], owner o = .libusb ∧ o = x ∨ owner o = .field x := by
    intro o ho
    rcases hmem o ho with rfl | ho
    · exact Or.inl ⟨hxo, rfl⟩
    · exact Or.inr (h.fields_of_mem_fields hkept ho).1
  obtain ⟨s', hs'⟩ : ∃ s', s' =
    (s.release .txCallback (s.fields x ++ [x])).setProgress x .completed := ⟨_, rfl⟩
  have hprogress : ∀ y, s'.progress y = if y = x then .completed else s.progress y := by
    intro y
    rw [hs']
    exact Function.update_apply ..
  have hsend : s'.send = s.send := by rw [hs']; rfl
  have htx : s'.txXfers = s.txXfers := by rw [hs']; rfl
  have hreleased : s'.released = Function.update s.released .txCallback fun o =>
      s.released .txCallback o + (s.fields x ++ [x]).count o := by rw [hs']; rfl
  have hmade : s'.made = s.made := by rw [hs']; rfl
  have hxfer : ∀ y, s'.xfer y = s.xfer y := by rw [hs']; exact fun _ => rfl
  rw [← hs']
  have howner : ∀ o, (fun o => if o ∈ s.fields x ++ [x] then Owner.released .txCallback
      else owner o) o = if o ∈ s.fields x ++ [x] then .released .txCallback else owner o :=
    fun _ => rfl
  generalize (fun o => if o ∈ s.fields x ++ [x] then Owner.released .txCallback
    else owner o) = owner' at howner ⊢
  have hout : ∀ y, s'.Outstanding y ↔ s.Outstanding y := by
    intro y
    rw [Outstanding, Outstanding, hprogress]
    split
    · next heq => simp [heq, hx]
    · rfl
  refine h.releases (h.nodup_fields (by simp [hxo]) hkept) ?_ ?_ howner hmade hxfer hreleased
    ?_ ?_ ?_ ?_ ?_ ?_ ?_
  · intro o ho
    rcases hos o ho with ⟨he, -⟩ | he <;> rw [he] <;> simp
  · exact fun y o ho => h.mem_fields_append_iff (by simp [hxo]) hkept ho
  · refine h.threads_stay ?_ hxfer ?_ hsend
    · intro t o
      rw [howner]
      split
      · next ho => rcases hos o ho with ⟨he, -⟩ | he <;> simp [he]
      · rfl
    · rw [htx]
      exact fun _ _ _ => id
  · intro y
    rw [howner, hprogress]
    by_cases hyx : y = x
    · subst hyx
      simp [Progress.InLibusb]
    · rw [if_neg hyx, ← h.libusb]
      split
      · next hy => rcases hos y hy with ⟨-, he⟩ | he <;> simp_all
      · rfl
  · intro y
    rw [hprogress]
    split
    · next heq => simp [heq, hx]
    · rfl
  · intro y hy
    rw [howner]
    split
    · rfl
    · next hmem' =>
      rw [hprogress] at hy
      have hyx : y ≠ x := by
        rintro rfl
        simp at hmem'
      rw [if_neg hyx] at hy
      exact h.completed y hy
  · intro o ho _
    rcases hmem o ho with rfl | ho
    · exact Or.inl (by simp [hx])
    · exact Or.inr ⟨x, by simp [hx], ho⟩
  · rw [htx, hsend]
    simp only [hout]
    exact h.tracked
  · intro y hy
    rw [htx]
    exact h.outstanding y ((hout y).mp hy)

/-! ### The cleanup -/

variable [DecidableEq T]

/-- **A thread releases something** that it has. -/
theorem discards (h : s.Ledger owner) {os : List ℕ} (hnodup : os.Nodup)
    (howned : ∀ o ∈ os, owner o = .thread t ∨ ∃ x ∈ os, owner o = .field x)
    (hfields : ∀ x ∈ os, ∀ o ∈ s.fields x, o ∈ os)
    (hholds : (s.send t).holds.filter (· ∉ os) = pc.holds)
    (hpcxfer : ∀ x, pc.xfer = some x → (s.send t).xfer = some x)
    (hnotXfer : ∀ o ∈ pc.holds, pc.xfer ≠ some o → s.xfer o = none)
    (hplace : (s.release .usbSend os).AtPlace pc)
    (htracks : ∀ x, (s.send t).tracks = some x → pc.tracks = some x) :
    ((s.release .usbSend os).go t pc).Ledger
      fun o => if o ∈ os then .released .usbSend else owner o := by
  have hth := h.threads t
  have howner : ∀ o, (fun o => if o ∈ os then Owner.released .usbSend else owner o) o =
      if o ∈ os then .released .usbSend else owner o := fun _ => rfl
  generalize (fun o => if o ∈ os then Owner.released .usbSend else owner o) = owner' at howner ⊢
  have hmem : ∀ o, o ∈ pc.holds ↔ o ∈ (s.send t).holds ∧ o ∉ os := by
    intro o
    rw [← hholds, List.mem_filter]
    simp
  have hmine : ∀ o ∈ os, owner o ≠ .libusb ∧ ∀ t' ≠ t, owner o ≠ .thread t' := by
    intro o ho
    rcases howned o ho with he | ⟨x, -, he⟩
    · rw [he]
      exact ⟨nofun, fun t' hne => by simpa using hne.symm⟩
    · rw [he]
      exact ⟨nofun, fun _ _ => nofun⟩
  have hnotLibusb : ∀ x, owner' x = .libusb ↔ owner x = .libusb := by
    intro x
    rw [howner]
    split
    · next hx => exact iff_of_false nofun (hmine x hx).1
    · exact Iff.rfl
  refine h.releases hnodup ?_ ?_ howner rfl (fun _ => rfl) rfl ?_ ?_ (fun _ => Iff.rfl) ?_ ?_ ?_
    h.outstanding
  · intro o ho
    rcases howned o ho with he | ⟨x, -, he⟩ <;> rw [he] <;> simp
  · intro x o ho
    refine ⟨fun hos => ?_, fun hx => hfields x hx o ho⟩
    rcases howned o hos with he | ⟨y, hy, he⟩
    · exact absurd ho (h.notMem_fields (by simp [he]) (by simp [he]) x)
    · rwa [h.eq_of_mem_fields ho he]
  · refine h.threads_go ⟨?_, ?_, ?_, hnotXfer, hplace⟩ ?_ (fun _ _ _ _ => rfl)
      (fun _ _ _ _ => id) rfl
    · intro o
      rw [hmem, ← hth.holds, howner]
      split
      · next ho => exact iff_of_false nofun fun hand => hand.2 ho
      · next ho => exact (and_iff_left ho).symm
    · rw [← hholds]
      exact hth.nodup.filter _
    · exact fun x hx => hth.isXfer x (hpcxfer x hx)
    · intro t' hne o
      rw [howner]
      split
      · next ho => exact iff_of_false nofun ((hmine o ho).2 t' hne)
      · exact Iff.rfl
  · exact fun x => (hnotLibusb x).trans (h.libusb x)
  · intro x hx
    have hrel := h.completed x hx
    rw [howner, if_neg ?_, hrel]
    intro hos
    rcases howned x hos with he | ⟨y, -, he⟩ <;> rw [he] at hrel <;> cases hrel
  · rintro o - ⟨⟩
  · intro a ha
    obtain ⟨x, hx, hcase⟩ := h.tracked a ha
    exact ⟨x, hx, hcase.imp_right (tracks_go rfl (htracks x))⟩

/-- The cleanup erases its transfer from `_tx_xfers`. -/
theorem erases (h : s.Ledger owner) (hpc : s.send t = .cleanup none (some x)) :
    ((s.eraseXfer x).go t (.discarding x)).Ledger owner := by
  have hth := h.threads t
  rw [hpc] at hth
  have hx : owner x = .thread t := (hth.holds x).mpr (by simp [Send.holds])
  have hsome := hth.isXfer x rfl
  refine { h with threads := ?_, tracked := ?_, outstanding := ?_ }
  · have hself : ((s.eraseXfer x).go t (.discarding x)).Holding owner t (.discarding x) :=
      ⟨hth.holds, hth.nodup, hth.isXfer, hth.notXfer, trivial⟩
    refine h.threads_go hself (fun _ _ _ => Iff.rfl) (fun _ _ _ _ => rfl) ?_ rfl
    intro t' hne y hy hmem
    have hold := h.threads t'
    have hyo : owner y = .thread t' := (hold.holds y).mpr (Send.mem_holds_of_xfer hy)
    have hyx : y ≠ x := by
      rintro rfl
      rw [hx] at hyo
      exact hne (by cases hyo; rfl)
    exact Finset.mem_erase.mpr
      ⟨h.addr_ne (hold.isXfer y hy) hsome (by simp [hyo]) (by simp [hx]) hyx, hmem⟩
  · intro a ha
    obtain ⟨hne, ha⟩ := Finset.mem_erase.mp ha
    obtain ⟨y, hy, hcase⟩ := h.tracked a ha
    have htracks : (s.send t).tracks = some y → (Send.discarding x).tracks = some y := by
      rw [hpc]
      rintro ⟨⟩
      exact absurd hy.symm hne
    exact ⟨y, hy, hcase.imp_right (tracks_go rfl htracks)⟩
  · intro y hout
    have hy : s.Outstanding y := hout
    have hyo := h.owner_of_outstanding hy
    have hyx : y ≠ x := by
      rintro rfl
      rw [hx] at hyo
      cases hyo
    have hysome := h.libusbXfer y hy.ne_unsubmitted
    exact Finset.mem_erase.mpr
      ⟨h.addr_ne hysome hsome (by simp [hyo]) (by simp [hx]) hyx, h.outstanding y hy⟩

/-- The cleanup releases its buffer. -/
theorem cleans (h : s.Ledger owner) {buf xfer : Option ℕ} (hpc : s.send t = .cleanup buf xfer) :
    ∃ owner', ((s.release .usbSend buf.toList).go t (.cleanup none xfer)).Ledger owner' := by
  have hth := h.threads t
  rw [hpc] at hth
  have hmem : ∀ o ∈ buf.toList, o ∈ (Send.cleanup buf xfer).holds := by
    intro o ho
    exact List.mem_append_left _ ho
  have hnodup := hth.nodup
  rw [Send.holds, List.nodup_append'] at hnodup
  have hnotXfer : ∀ o ∈ buf.toList, s.xfer o = none := by
    intro o ho
    refine hth.notXfer o (hmem o ho) ?_
    intro heq
    exact hnodup.2.2 ho (by simpa [Send.xfer] using heq)
  refine ⟨_, h.discards hnodup.1 ?_ ?_ ?_ ?_ ?_ trivial ?_⟩
  · exact fun o ho => Or.inl ((hth.holds o).mpr (hmem o ho))
  · intro x hx o ho
    rw [fields, hnotXfer x hx] at ho
    exact absurd ho List.not_mem_nil
  · rw [hpc, Send.holds, List.filter_append]
    have hout : ∀ o ∈ xfer.toList, o ∉ buf.toList := fun o ho hb => hnodup.2.2 hb ho
    rw [List.filter_eq_nil_iff.mpr (by simp), List.filter_eq_self.mpr (by simpa using hout)]
    rfl
  · rw [hpc]
    exact fun _ => id
  · intro o ho hne
    simp_all [Send.holds, Send.xfer]
  · rw [hpc]
    exact fun _ => id

/-! ### Every step -/

/-- **One step of `usb_send`.** -/
theorem sendStep (h : s.Ledger owner) {wMaxPacketSize : ℕ} {ok : Bool} {a : ℕ}
    (hstep : s.sendStep wMaxPacketSize t ok a = some s') : ∃ owner', s'.Ledger owner' := by
  unfold TxTransfers.sendStep at hstep
  split at hstep
  · cases hstep
  · next length buf zlp hpc =>
    have hcleanup : (s.go t (.cleanup (some buf) none)).Ledger owner :=
      h.goes hpc rfl rfl trivial (by simp [Send.tracks])
    split at hstep
    · cases hstep
      exact ⟨_, hcleanup⟩
    · split at hstep
      · cases hstep
        exact ⟨_, hcleanup⟩
      · split at hstep
        · next hfree =>
          cases hstep
          have hfields : ∀ b ∈ some (⟨a, none, none⟩ : Xfer),
              b.buffer = none ∧ b.userData = none ∧ s.AddrFree b.addr := by
            rintro b ⟨⟩
            exact ⟨rfl, rfl, hfree⟩
          refine ⟨_, h.makes hfields rfl rfl rfl rfl rfl rfl ?_ ?_ ?_ ?_ ?_⟩
          · rw [hpc]
            rfl
          · simp [Send.xfer, eq_comm]
          · rw [hpc]
            rfl
          · rw [hpc]
            rfl
          · change (((s.setXfer s.made ⟨a, none, none⟩).alloc.go t _).xfer s.made).elim _ _ = _
            simp [go, alloc, setXfer]
        · cases hstep
  · next length buf x zlp hpc =>
    split at hstep <;> cases hstep
    · exact ⟨_, h.fills hpc⟩
    · exact ⟨_, h.goes hpc rfl rfl trivial (by simp [Send.tracks])⟩
  · next length x zlp hpc =>
    split at hstep <;> cases hstep
    · exact ⟨_, h.inserts hpc⟩
    · exact ⟨_, h.goes hpc rfl rfl trivial (by simp [Send.tracks])⟩
  · next length x zlp hpc =>
    split at hstep <;> cases hstep
    · exact ⟨_, h.submits hpc⟩
    · exact ⟨_, h.goes hpc rfl rfl trivial fun _ => id⟩
  · next length zlp hpc =>
    split at hstep <;> cases hstep
    · exact ⟨_, h.makes_buffer hpc rfl rfl rfl length true⟩
    · exact ⟨_, h.goes hpc rfl rfl trivial (by simp [Send.tracks])⟩
  · next buf hpc =>
    cases hstep
    obtain ⟨owner', hclean⟩ := h.cleans hpc
    have hgoes : (((s.release .usbSend buf.toList).go t (.cleanup none none)).go t .idle).Ledger
        owner' := hclean.goes (go_send_self ..) rfl rfl trivial (by simp [Send.tracks])
    rw [go_go] at hgoes
    exact ⟨_, hgoes⟩
  · next buf x hpc =>
    cases hstep
    obtain ⟨owner', hclean⟩ := h.cleans hpc
    have herases := hclean.erases (go_send_self ..)
    rw [eraseXfer_go, go_go] at herases
    exact ⟨_, herases⟩
  · next x hpc =>
    cases hstep
    have hth := h.threads t
    rw [hpc] at hth
    have hx : owner x = .thread t := (hth.holds x).mpr (by simp [Send.holds])
    have hkept : ∀ p, owner x ≠ .released p := by simp [hx]
    refine ⟨_, h.discards (h.nodup_fields (by simp [hx]) hkept) ?_ ?_ ?_ ?_ ?_ trivial ?_⟩
    · intro o ho
      rcases List.mem_append.mp ho with ho | ho
      · exact Or.inr ⟨x, by simp, (h.fields_of_mem_fields hkept ho).1⟩
      · exact Or.inl ((hth.holds o).mpr ho)
    · exact fun y hy o ho => (h.mem_fields_append_iff (by simp [hx]) hkept ho).mpr hy
    · rw [hpc]
      simp [Send.holds]
    · rintro y ⟨⟩
    · rintro o ⟨⟩
    · rw [hpc]
      rintro y ⟨⟩

omit [DecidableEq T] in
theorem init : (TxTransfers.init : TxTransfers T).Ledger fun _ => .unmade where
  unmade := by simp [TxTransfers.init]
  fresh := fun _ _ => rfl
  threads := fun _ =>
    ⟨by simp [TxTransfers.init, Send.holds], List.nodup_nil, nofun, nofun, trivial⟩
  libusb := by simp [TxTransfers.init, Progress.InLibusb]
  libusbXfer := fun _ hx => absurd rfl hx
  completed := nofun
  notField := nofun
  field := nofun
  follows := nofun
  fieldsNodup := fun _ => List.nodup_nil
  released := nofun
  kept := fun _ _ _ => rfl
  back := nofun
  tracked := nofun
  outstanding := by rintro x (⟨⟨⟩⟩ | ⟨⟨⟩⟩)
  distinct := nofun

/-- **Every step keeps the ledger.** -/
theorem step (h : s.Ledger owner) {wMaxPacketSize : ℕ} {l : Label T}
    (hstep : s.step wMaxPacketSize l = some s') : ∃ owner', s'.Ledger owner' := by
  cases l with
  | call t length =>
    simp only [TxTransfers.step] at hstep
    split at hstep
    · next hpc =>
      cases hstep
      exact ⟨_, h.makes_buffer hpc rfl rfl rfl length false⟩
    · cases hstep
  | send t ok a => exact h.sendStep hstep
  | txCallback x status =>
    simp only [TxTransfers.step] at hstep
    split at hstep
    · next hx =>
      cases hstep
      exact ⟨owner, h.called hx status⟩
    · cases hstep
  | callback x =>
    simp only [TxTransfers.step, callbackStep] at hstep
    split at hstep
    · next hx =>
      cases hstep
      exact ⟨owner, h.erased hx⟩
    · next hx =>
      cases hstep
      exact ⟨_, h.completes hx⟩
    · cases hstep
    · cases hstep
    · cases hstep

end Ledger

end TxTransfers

/-! ### Tx transfers are accounted for -/

open TxTransfers

variable {T : Type} [DecidableEq T]

/-- **Tx transfers are accounted for** in every run. -/
theorem tx_transfers_accounted {wMaxPacketSize : ℕ} {s : TxTransfers T}
    (h : (txMachine wMaxPacketSize).Reachable init s) : s.Accounted wMaxPacketSize := by
  obtain ⟨owner, hledger⟩ : ∃ owner, s.Ledger owner := by
    refine h.invariant (I := fun s => ∃ owner, s.Ledger owner) ⟨_, Ledger.init⟩ ?_
    rintro s l s' ⟨owner, hi⟩ - hs
    exact hi.step hs
  exact hledger.accounted wMaxPacketSize

/-- A frame that fills its packets is sent, its callback is called while the empty transfer
is allocated, and that cannot be submitted. -/
def TxTransfers.filledPackets : List (Label Bool) :=
  [.call false 8, .send false true 3, .send false true 0, .send false true 0, .send false true 0,
    .send false true 0, .txCallback 1 .completed, .callback 1, .callback 1,
    .send false true 3, .send false true 0, .send false true 0, .send false false 0,
    .send false true 0, .send false true 0]

/-- The empty transfer gets the address of the one before it. -/
theorem tx_transfers_accounted_filled :
    ∃ s : TxTransfers Bool, (s.made = 6 ∧ s.addr 1 = s.addr 4 ∧ s.txXfers = ∅) ∧
      s.Accounted 4 := by
  obtain ⟨s, hr, hp⟩ := (txMachine 4).exists_reaches_of_runOk (fun _ _ => True) init filledPackets
    (fun s => s.made = 6 ∧ s.addr 1 = s.addr 4 ∧ s.txXfers = ∅) (by decide)
  exact ⟨s, of_decide_eq_true hp, tx_transfers_accounted hr⟩

end Usbmuxd
