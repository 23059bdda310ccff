import Usbmuxd.Devices.TxLedger

/-!
# A transfer is handed over

A thread in `usb_send` has a buffer, and allocates a transfer
(`Usbmuxd.TxTransfers.Ledger.makes`). The buffer and a new reference go into the fields of the
transfer (`Usbmuxd.TxTransfers.Ledger.fills`), which goes into `_tx_xfers` and then to libusb
(`Usbmuxd.TxTransfers.Ledger.submits`). Each of these steps keeps the ledger, and what it does
not name keeps its owner.

What has just been allocated has had no owner before, and is in nobody's fields. Its address
may be one that has been freed (`Usbmuxd.TxTransfers.Allocates`).

The steps have been put together by what they do to the ledger, and not by where they are in the
source. Allocating a buffer and allocating a transfer are one case, in which something new gets
an owner; filling a transfer is another, in which something new and something old go into
fields. Inserting a transfer into `_tx_xfers` changes no owner, and submitting it changes one.
The failures are not here: they change nothing but the place of the thread, and what follows
from there is the subject of the next file.
-/

namespace Usbmuxd

namespace TxTransfers

variable {T : Type} [DecidableEq T] {s s' : TxTransfers T} {owner : ℕ → Owner T} {t : T}
  {pc : Send} {x : ℕ}

/-! ### A transfer is set -/

omit [DecidableEq T] in
theorem fields_update {xfer : Option Xfer} (h : s'.xfer = Function.update s.xfer x xfer) (y : ℕ) :
    s'.fields y =
      if y = x then xfer.elim [] fun a => a.buffer.toList ++ a.userData.toList
      else s.fields y := by
  rw [fields, h, Function.update_apply]
  split <;> rfl

omit [DecidableEq T] in
theorem addr_update {xfer : Option Xfer} (h : s'.xfer = Function.update s.xfer x xfer) (y : ℕ) :
    s'.addr y = if y = x then xfer.elim 0 Xfer.addr else s.addr y := by
  rw [addr, h, Function.update_apply]
  split <;> rfl

/-! ### Something is allocated -/

/-- **A thread allocates something**, and may give away what it has to a transfer. The new thing
goes to the thread or into the fields of its transfer. -/
structure Allocates (s s' : TxTransfers T) (owner owner' : ℕ → Owner T) (t : T) (pc : Send) :
    Prop where
  made : s'.made = s.made + 1
  progress : s'.progress = s.progress
  txXfers : s'.txXfers = s.txXfers
  released : s'.released = s.released
  send : s'.send = Function.update s.send t pc
  untracked : (s.send t).tracks = none
  /-- The thread has what is new and what it had, or it is in the fields of a transfer. -/
  mine : ∀ o, o = s.made ∨ owner o = .thread t → owner' o = .thread t ∨ ∃ x, owner' o = .field x
  others : ∀ o, ¬(o = s.made ∨ owner o = .thread t) → owner' o = owner o ∧ s'.xfer o = s.xfer o
  isXfer : ∀ x ≠ s.made, (s'.xfer x).isSome = (s.xfer x).isSome
  sameAddr : ∀ x ≠ s.made, s'.addr x = s.addr x
  /-- The address of a new transfer may be one that has been freed. -/
  newAddr : (s'.xfer s.made).isSome → ∀ x, (s.xfer x).isSome → (∀ p, s.released p x = 0) →
    s.addr x ≠ s'.addr s.made
  keepsFields : ∀ x, ∀ o ∈ s.fields x, o ∈ s'.fields x

namespace Allocates

variable {owner' : ℕ → Owner T}

/-- What libusb has, what other threads have and what has been released stays so. Only what is
new or belongs to this thread gets another owner. -/
theorem owner_iff (ha : Allocates s s' owner owner' t pc) (h : s.Ledger owner) {c : Owner T}
    (hc : c ≠ .unmade) (ht : c ≠ .thread t) (hx : ∀ x, c ≠ .field x) (o : ℕ) :
    owner' o = c ↔ owner o = c := by
  by_cases ho : o = s.made ∨ owner o = .thread t
  · refine iff_of_false ?_ ?_
    · rintro rfl
      rcases ha.mine o ho with he | ⟨x, he⟩
      · exact ht he
      · exact hx x he
    · rintro rfl
      rcases ho with rfl | ho
      · exact h.ne_made hc rfl
      · exact ht ho
  · rw [(ha.others o ho).1]

theorem unmade_iff (ha : Allocates s s' owner owner' t pc) (h : s.Ledger owner) (o : ℕ) :
    owner' o = .unmade ↔ s'.made ≤ o := by
  rw [ha.made]
  by_cases ho : o = s.made ∨ owner o = .thread t
  · have hle : o ≤ s.made := by
      rcases ho with rfl | ho
      · exact Nat.le_refl _
      · refine Nat.le_of_not_le fun hle => ?_
        rw [(h.unmade o).mpr hle] at ho
        cases ho
    refine iff_of_false (fun he => ?_) (by omega)
    rcases ha.mine o ho with he' | ⟨x, he'⟩ <;> rw [he'] at he <;> cases he
  · rw [(ha.others o ho).1, h.unmade]
    have hne := (not_or.mp ho).1
    omega

theorem fresh (ha : Allocates s s' owner owner' t pc) (h : s.Ledger owner) {o : ℕ}
    (ho : s'.made ≤ o) : s'.xfer o = none := by
  rw [ha.made] at ho
  rw [← Option.not_isSome_iff_eq_none, ha.isXfer o (by omega), h.fresh o (by omega)]
  simp

/-- The other threads keep what they have, since what is allocated is nothing that they could
have a pointer to. -/
theorem threads (ha : Allocates s s' owner owner' t pc) (h : s.Ledger owner)
    (hself : s'.Holding owner' t pc) (t' : T) : s'.Holding owner' t' (s'.send t') := by
  refine h.threads_go hself ?_ ?_ ?_ ha.send t'
  · exact fun t' hne o => ha.owner_iff h (by simp) (by simpa using hne) (by simp) o
  · intro t' hne x hx
    refine (ha.others x (not_or.mpr ⟨h.ne_made (by simp [hx]), ?_⟩)).2
    rw [hx]
    simpa using hne
  · rw [ha.txXfers]
    exact fun _ _ _ _ => id

theorem submitted (ha : Allocates s s' owner owner' t pc) (h : s.Ledger owner)
    (hx : s'.progress x ≠ .unsubmitted) : (s'.xfer x).isSome := by
  rw [ha.progress] at hx
  rw [ha.isXfer x (h.ne_made_of_submitted hx)]
  exact h.libusbXfer x hx

theorem outstanding_iff (ha : Allocates s s' owner owner' t pc) (x : ℕ) :
    s'.Outstanding x ↔ s.Outstanding x := by
  rw [Outstanding, Outstanding, ha.progress]

/-- `_tx_xfers` is as before: neither has an outstanding transfer got a new address, nor has a
thread lost track of one. -/
theorem tracked (ha : Allocates s s' owner owner' t pc) (h : s.Ledger owner) {a : ℕ}
    (hmem : a ∈ s'.txXfers) :
    ∃ x, s'.addr x = a ∧ (s'.Outstanding x ∨ ∃ t', (s'.send t').tracks = some x) := by
  rw [ha.txXfers] at hmem
  obtain ⟨x, hx, hcase⟩ := h.tracked a hmem
  have hne : x ≠ s.made := by
    rcases hcase with hout | ⟨t', ht'⟩
    · exact h.ne_made_of_submitted hout.ne_unsubmitted
    · have hhas := Send.mem_holds_of_xfer (Send.xfer_of_tracks ht')
      rw [← (h.threads t').holds] at hhas
      exact h.ne_made (by simp [hhas])
  refine ⟨x, (ha.sameAddr x hne).trans hx, hcase.imp (ha.outstanding_iff x).mpr ?_⟩
  exact tracks_go ha.send (by simp [ha.untracked])

theorem outstanding (ha : Allocates s s' owner owner' t pc) (h : s.Ledger owner)
    (hx : s'.Outstanding x) : s'.addr x ∈ s'.txXfers := by
  have hx := (ha.outstanding_iff x).mp hx
  rw [ha.sameAddr x (h.ne_made_of_submitted hx.ne_unsubmitted), ha.txXfers]
  exact h.outstanding x hx

/-- The new transfer has an address of its own. This is the one place where it is used how
`libusb_alloc_transfer` chooses addresses. -/
theorem distinct (ha : Allocates s s' owner owner' t pc) (h : s.Ledger owner) {x x' : ℕ}
    (hx : (s'.xfer x).isSome) (hx' : (s'.xfer x').isSome) (hrel : ∀ p, s'.released p x = 0)
    (hrel' : ∀ p, s'.released p x' = 0) (heq : s'.addr x = s'.addr x') : x = x' := by
  rw [ha.released] at hrel hrel'
  -- one of the two may be the new one
  by_cases hxm : x = s.made <;> by_cases hxm' : x' = s.made
  · rw [hxm, hxm']
  · subst hxm
    rw [ha.isXfer x' hxm'] at hx'
    rw [ha.sameAddr x' hxm'] at heq
    exact absurd heq.symm (ha.newAddr hx x' hx' hrel')
  · subst hxm'
    rw [ha.isXfer x hxm] at hx
    rw [ha.sameAddr x hxm] at heq
    exact absurd heq (ha.newAddr hx' x hx hrel)
  · rw [ha.isXfer x hxm] at hx
    rw [ha.isXfer x' hxm'] at hx'
    rw [ha.sameAddr x hxm, ha.sameAddr x' hxm'] at heq
    exact h.distinct x x' hx hx' hrel hrel' heq

/-- **The ledger is kept**, if what is in the fields of transfers is right. -/
theorem ledger (ha : Allocates s s' owner owner' t pc) (h : s.Ledger owner)
    (hself : s'.Holding owner' t pc) (hnotField : ∀ x y, owner' x = .field y → s'.xfer x = none)
    (hfield : ∀ x o, owner' o = .field x → o ∈ s'.fields x)
    (hfollows : ∀ x, ∀ o ∈ s'.fields x, owner' o = (owner' x).ofField x)
    (hnodup : ∀ x, (s'.fields x).Nodup) : s'.Ledger owner' := by
  have hlibusb : ∀ x, owner' x = .libusb ↔ (s'.progress x).InLibusb := by
    intro x
    rw [ha.owner_iff h (by simp) (by simp) (by simp), ha.progress]
    exact h.libusb x
  have hreleased : ∀ o p, owner' o = .released p ↔ owner o = .released p :=
    fun o p => ha.owner_iff h (by simp) (by simp) (by simp) o
  have hcompleted : ∀ x, s'.progress x = .completed → owner' x = .released .txCallback := by
    rw [ha.progress]
    exact fun x hx => (hreleased x _).mpr (h.completed x hx)
  have hwas : ∀ o, s.WasSubmitted o → s'.WasSubmitted o :=
    fun o ho => ho.mono (by rw [ha.progress]; exact fun _ => id) fun x => ha.keepsFields x o
  obtain ⟨hrel, hkept, hback⟩ := h.releases_nothing ha.released hreleased hwas
  exact ⟨ha.unmade_iff h, fun _ => ha.fresh h, ha.threads h hself, hlibusb, fun _ => ha.submitted h,
    hcompleted, hnotField, hfield, hfollows, hnodup, hrel, hkept, hback, fun _ => ha.tracked h,
    fun _ => ha.outstanding h, fun _ _ => ha.distinct h⟩

end Allocates

namespace Ledger

/-! ### A transfer is made -/

/-- **A thread allocates** a buffer, or a transfer with nothing in its fields. -/
theorem makes (h : s.Ledger owner) {xfer : Option Xfer}
    (hfields : ∀ a ∈ xfer, a.buffer = none ∧ a.userData = none ∧ s.AddrFree a.addr)
    (hmade : s'.made = s.made + 1) (hxfer : s'.xfer = Function.update s.xfer s.made xfer)
    (hprogress : s'.progress = s.progress) (htx : s'.txXfers = s.txXfers)
    (hreleased : s'.released = s.released) (hsend : s'.send = Function.update s.send t pc)
    (hholds : pc.holds = (s.send t).holds ++ [s.made])
    (hpcxfer : ∀ x, pc.xfer = some x ↔ xfer.isSome ∧ x = s.made)
    (hold : (s.send t).xfer = none) (htracks : (s.send t).tracks = none)
    (hplace : s'.AtPlace pc) :
    s'.Ledger (Function.update owner s.made (.thread t)) := by
  obtain ⟨hnew, hnone, -⟩ := h.of_made_le (Nat.le_refl s.made)
  have hth := h.threads t
  have howner : ∀ o, Function.update owner s.made (.thread t) o =
      if o = s.made then .thread t else owner o := fun o => Function.update_apply ..
  have hxfer' : ∀ x, s'.xfer x = if x = s.made then xfer else s.xfer x := by
    intro x
    rw [hxfer, Function.update_apply]
  have hfieldsOf : ∀ x, s'.fields x = s.fields x := by
    intro x
    rw [fields_update hxfer]
    split
    · next heq =>
      rw [heq, fields, hnone]
      cases xfer with
      | none => rfl
      | some a =>
        obtain ⟨hb, hu, -⟩ := hfields a rfl
        simp [hb, hu]
    · rfl
  have hnotmade : s.made ∉ (s.send t).holds := by
    rw [← hth.holds, hnew]
    simp
  have haddrs : xfer.isSome → ∀ x, (s.xfer x).isSome → (∀ p, s.released p x = 0) →
      s.addr x ≠ s'.addr s.made := by
    intro hsome x hx hrel
    obtain ⟨a, rfl⟩ := Option.isSome_iff_exists.mp hsome
    have hlt : x < s.made := by
      by_contra hle
      rw [h.fresh x (by omega)] at hx
      cases hx
    rw [addr_update hxfer, if_pos rfl]
    exact (hfields a rfl).2.2 x hlt hx (hrel _) (hrel _)
  generalize Function.update owner s.made (.thread t) = owner' at howner ⊢
  have hmine : ∀ o, o = s.made ∨ owner o = .thread t →
      owner' o = .thread t ∨ ∃ x, owner' o = .field x := by
    intro o ho
    rw [howner]
    split
    · exact Or.inl rfl
    · next hne => exact Or.inl (ho.resolve_left hne)
  have hothers : ∀ o, ¬(o = s.made ∨ owner o = .thread t) →
      owner' o = owner o ∧ s'.xfer o = s.xfer o := by
    intro o ho
    have hne := (not_or.mp ho).1
    rw [howner, hxfer', if_neg hne, if_neg hne]
    exact ⟨rfl, rfl⟩
  have hall : Allocates s s' owner owner' t pc :=
    { made := hmade
      progress := hprogress
      txXfers := htx
      released := hreleased
      send := hsend
      untracked := htracks
      mine := hmine
      others := hothers
      isXfer := fun x hne => by rw [hxfer', if_neg hne]
      sameAddr := fun x hne => by rw [addr_update hxfer, if_neg hne]
      newAddr := by
        rw [hxfer', if_pos rfl]
        exact haddrs
      keepsFields := fun x o ho => by rwa [hfieldsOf] }
  have hself : s'.Holding owner' t pc := by
    refine ⟨?_, ?_, ?_, ?_, hplace⟩
    · intro o
      rw [howner, hholds, List.mem_append, List.mem_singleton, ← hth.holds]
      split
      · next heq => exact iff_of_true rfl (Or.inr heq)
      · next hne => exact (or_iff_left hne).symm
    · rw [hholds]
      exact List.nodup_append'.mpr
        ⟨hth.nodup, List.nodup_singleton _, List.disjoint_singleton.mpr hnotmade⟩
    · intro x hx
      obtain ⟨hsome, rfl⟩ := (hpcxfer x).mp hx
      rwa [hxfer', if_pos rfl]
    · intro o ho hne
      rw [hholds, List.mem_append, List.mem_singleton] at ho
      rw [hxfer']
      split
      · next heq =>
        cases xfer with
        | none => rfl
        | some a => exact absurd ((hpcxfer o).mpr ⟨rfl, heq⟩) hne
      · next hmade' => exact hth.notXfer o (ho.resolve_right hmade') (by simp [hold])
  have hfieldOwner : ∀ o x, owner' o = .field x → o ≠ s.made ∧ owner o = .field x := by
    intro o x ho
    rw [howner] at ho
    split at ho
    · cases ho
    · next hne => exact ⟨hne, ho⟩
  refine hall.ledger h hself ?_ ?_ ?_ ?_
  · intro x y hxy
    obtain ⟨hne, hxy⟩ := hfieldOwner x y hxy
    rw [hxfer', if_neg hne]
    exact h.notField x y hxy
  · intro x o ho
    rw [hfieldsOf]
    exact h.field x o (hfieldOwner o x ho).2
  · intro x o ho
    rw [hfieldsOf] at ho
    obtain ⟨hx, ho'⟩ := h.owner_of_mem_fields ho
    rw [howner, howner, if_neg (h.ne_made ho'), if_neg (h.ne_made hx)]
    exact h.follows x o ho
  · intro x
    rw [hfieldsOf]
    exact h.fieldsNodup x

/-- A thread allocates a buffer, when it has nothing. So a call begins, and so does the empty
transfer after a frame. -/
theorem makes_buffer (h : s.Ledger owner) (hpc : s.send t = pc) (hholds : pc.holds = [])
    (hxfer : pc.xfer = none) (htracks : pc.tracks = none) (length : ℕ) (zlp : Bool) :
    (s.alloc.go t (.entered length s.made zlp)).Ledger
      (Function.update owner s.made (.thread t)) := by
  subst hpc
  have hfields : ∀ b ∈ (none : Option Xfer),
      b.buffer = none ∧ b.userData = none ∧ s.AddrFree b.addr := by
    rintro b ⟨⟩
  refine h.makes hfields rfl ?_ rfl rfl rfl rfl ?_ ?_ hxfer htracks trivial
  · exact (Function.update_eq_self_iff.mpr (h.fresh _ (Nat.le_refl _)).symm).symm
  · rw [hholds]
    rfl
  · simp [Send.xfer]

end Ledger

/-! ### A transfer is filled -/

/-- A thread has filled a transfer: with its buffer, and with a reference to the device, which
is allocated at this moment. -/
def fill (s : TxTransfers T) (t : T) (length buf x : ℕ) (zlp : Bool) : TxTransfers T :=
  ((s.setXfer x ⟨s.addr x, some buf, some s.made⟩).alloc).go t (.filled length x zlp)

/-- Who has what then: the buffer and the new reference are in the fields. -/
def fillOwner (s : TxTransfers T) (owner : ℕ → Owner T) (buf x o : ℕ) : Owner T :=
  if o = s.made ∨ o = buf then .field x else owner o

section Fill

variable {length buf : ℕ} {zlp : Bool}

theorem xfer_fill : (s.fill t length buf x zlp).xfer =
    Function.update s.xfer x (some ⟨s.addr x, some buf, some s.made⟩) := rfl

theorem fields_fill (y : ℕ) :
    (s.fill t length buf x zlp).fields y = if y = x then [buf, s.made] else s.fields y :=
  fields_update xfer_fill y

theorem addr_fill (y : ℕ) : (s.fill t length buf x zlp).addr y = s.addr y := by
  have hupdate : (s.fill t length buf x zlp).addr y = if y = x then s.addr x else s.addr y :=
    addr_update xfer_fill y
  rw [hupdate]
  split
  · next heq => rw [heq]
  · rfl

omit [DecidableEq T] in
theorem fillOwner_field {y o : ℕ} (ho : s.fillOwner owner buf x o = .field y) :
    y = x ∧ (o = s.made ∨ o = buf) ∨ owner o = .field y := by
  rw [fillOwner] at ho
  split at ho
  · next hmoved =>
    cases ho
    exact Or.inl ⟨rfl, hmoved⟩
  · exact Or.inr ho

omit [DecidableEq T] in
theorem fillOwner_of_ne {o : ℕ} (hmade : o ≠ s.made) (hbuf : o ≠ buf) :
    s.fillOwner owner buf x o = owner o :=
  if_neg (not_or.mpr ⟨hmade, hbuf⟩)

/-- What a thread has that is about to fill a transfer: a buffer and a transfer, which are not
the same, and empty fields. -/
structure Filling (s : TxTransfers T) (owner : ℕ → Owner T) (t : T) (buf x : ℕ) : Prop where
  ownsBuf : owner buf = .thread t
  ownsXfer : owner x = .thread t
  isXfer : (s.xfer x).isSome
  notXfer : s.xfer buf = none
  ne : buf ≠ x
  empty : s.fields x = []

omit [DecidableEq T] in
theorem Ledger.filling (h : s.Ledger owner) (hpc : s.send t = .allocated length buf x zlp) :
    s.Filling owner t buf x := by
  have hth := h.threads t
  rw [hpc] at hth
  have hne : buf ≠ x := by simpa [Send.holds] using hth.nodup
  exact ⟨(hth.holds buf).mpr (by simp [Send.holds]), (hth.holds x).mpr (by simp [Send.holds]),
    hth.isXfer x rfl, hth.notXfer buf (by simp [Send.holds]) (by simpa [Send.xfer] using hne.symm),
    hne, hth.atPlace⟩

namespace Filling

/-- The thread allocates the reference, and gives the buffer to its transfer. -/
theorem allocates (hf : s.Filling owner t buf x) (h : s.Ledger owner)
    (hpc : s.send t = .allocated length buf x zlp) :
    Allocates s (s.fill t length buf x zlp) owner (s.fillOwner owner buf x) t
      (.filled length x zlp) := by
  have hxm : x ≠ s.made := h.ne_made (by simp [hf.ownsXfer])
  have hxfer : ∀ y ≠ x, (s.fill t length buf x zlp).xfer y = s.xfer y :=
    fun y hne => Function.update_of_ne hne ..
  have hmine : ∀ o, o = s.made ∨ owner o = .thread t →
      s.fillOwner owner buf x o = .thread t ∨ ∃ y, s.fillOwner owner buf x o = .field y := by
    intro o ho
    by_cases hmoved : o = s.made ∨ o = buf
    · exact Or.inr ⟨x, if_pos hmoved⟩
    · refine Or.inl ((if_neg hmoved).trans (ho.resolve_left ?_))
      exact fun heq => hmoved (Or.inl heq)
  have hothers : ∀ o, ¬(o = s.made ∨ owner o = .thread t) →
      s.fillOwner owner buf x o = owner o ∧ (s.fill t length buf x zlp).xfer o = s.xfer o := by
    intro o ho
    obtain ⟨hom, hot⟩ := not_or.mp ho
    have hob : o ≠ buf := fun heq => hot (by rw [heq, hf.ownsBuf])
    have hox : o ≠ x := fun heq => hot (by rw [heq, hf.ownsXfer])
    exact ⟨fillOwner_of_ne hom hob, hxfer o hox⟩
  have hisXfer : ∀ y, ((s.fill t length buf x zlp).xfer y).isSome = (s.xfer y).isSome := by
    intro y
    by_cases hyx : y = x
    · rw [hyx, hf.isXfer, xfer_fill, Function.update_self]
      rfl
    · rw [hxfer y hyx]
  exact
    { made := rfl
      progress := rfl
      txXfers := rfl
      released := rfl
      send := rfl
      untracked := by
        rw [hpc]
        rfl
      mine := hmine
      others := hothers
      isXfer := fun y _ => hisXfer y
      sameAddr := fun y _ => addr_fill y
      newAddr := by
        rw [hisXfer, h.fresh s.made (Nat.le_refl _)]
        simp
      keepsFields := by
        intro y o ho
        rw [fields_fill, if_neg]
        · exact ho
        · rintro rfl
          rw [hf.empty] at ho
          exact absurd ho List.not_mem_nil }

/-- The thread keeps the transfer, and nothing else: the buffer and the reference are the
transfer's from now on. -/
theorem holding (hf : s.Filling owner t buf x) (h : s.Ledger owner)
    (hpc : s.send t = .allocated length buf x zlp) :
    (s.fill t length buf x zlp).Holding (s.fillOwner owner buf x) t (.filled length x zlp) := by
  have hth := h.threads t
  rw [hpc] at hth
  refine ⟨?_, List.nodup_singleton x, ?_, ?_, trivial⟩
  · intro o
    rw [Send.holds, List.mem_singleton]
    constructor
    · intro ho
      rw [fillOwner] at ho
      split at ho
      · cases ho
      · next hmoved =>
        rw [hth.holds, Send.holds, List.mem_cons, List.mem_singleton] at ho
        exact ho.resolve_left fun heq => hmoved (Or.inr heq)
    · rintro rfl
      rw [fillOwner_of_ne (h.ne_made (by simp [hf.ownsXfer])) hf.ne.symm, hf.ownsXfer]
  · rintro y ⟨⟩
    rw [xfer_fill, Function.update_self]
    rfl
  · intro o ho hne
    rw [Send.holds, List.mem_singleton] at ho
    exact absurd (congrArg some ho.symm) hne

end Filling

namespace Ledger

/-- **A thread fills a transfer**: what it points to goes into the fields. -/
theorem fills (h : s.Ledger owner) (hpc : s.send t = .allocated length buf x zlp) :
    (s.fill t length buf x zlp).Ledger (s.fillOwner owner buf x) := by
  have hf := h.filling hpc
  have hxo : s.fillOwner owner buf x x = .thread t := by
    rw [fillOwner_of_ne (h.ne_made (by simp [hf.ownsXfer])) hf.ne.symm, hf.ownsXfer]
  refine (hf.allocates h hpc).ledger h (hf.holding h hpc) ?_ ?_ ?_ ?_
  · intro z y hzy
    have hzx : z ≠ x := by
      rintro rfl
      rw [hxo] at hzy
      cases hzy
    have hxfer : (s.fill t length buf x zlp).xfer z = s.xfer z := Function.update_of_ne hzx ..
    rw [hxfer]
    rcases fillOwner_field hzy with ⟨-, rfl | rfl⟩ | hold
    · exact h.fresh _ (Nat.le_refl _)
    · exact hf.notXfer
    · exact h.notField z y hold
  · intro y o ho
    rw [fields_fill]
    rcases fillOwner_field ho with ⟨rfl, hmoved⟩ | hold
    · rw [if_pos rfl]
      simpa [or_comm] using hmoved
    · have hmem := h.field y o hold
      rw [if_neg]
      · exact hmem
      · rintro rfl
        rw [hf.empty] at hmem
        exact absurd hmem List.not_mem_nil
  · intro y o ho
    rw [fields_fill] at ho
    split at ho
    · next hyx =>
      have ho' : o = s.made ∨ o = buf := by simpa [or_comm] using ho
      rw [hyx, hxo, fillOwner, if_pos ho']
      rfl
    · obtain ⟨hy, ho'⟩ := h.owner_of_mem_fields ho
      have hybuf : y ≠ buf := by
        rintro rfl
        rw [fields, hf.notXfer] at ho
        exact absurd ho List.not_mem_nil
      have hobuf : o ≠ buf := by
        rintro rfl
        exact h.notMem_fields (by simp [hf.ownsBuf]) (by simp [hf.ownsBuf]) y ho
      rw [fillOwner_of_ne (h.ne_made ho') hobuf, fillOwner_of_ne (h.ne_made hy) hybuf]
      exact h.follows y o ho
  · intro y
    rw [fields_fill]
    split
    · simpa using h.ne_made (by simp [hf.ownsBuf])
    · exact h.fieldsNodup y

end Ledger

end Fill

namespace Ledger

/-- A thread puts its transfer into `_tx_xfers`. It is still the thread's own, which erases it
again if the submission fails. -/
theorem inserts (h : s.Ledger owner) {length : ℕ} {zlp : Bool}
    (hpc : s.send t = .filled length x zlp) :
    ((s.insertXfer x).go t (.inserted length x zlp)).Ledger owner := by
  have hth := h.threads t
  rw [hpc] at hth
  refine { h with threads := ?_, tracked := ?_, outstanding := ?_ }
  · have hself : ((s.insertXfer x).go t (.inserted length x zlp)).Holding owner t
        (.inserted length x zlp) :=
      ⟨hth.holds, hth.nodup, hth.isXfer, hth.notXfer, Finset.mem_insert_self ..⟩
    exact h.threads_go hself (fun _ _ _ => Iff.rfl) (fun _ _ _ _ => rfl)
      (fun _ _ _ _ => Finset.mem_insert_of_mem) rfl
  · intro a ha
    rcases Finset.mem_insert.mp ha with rfl | ha
    · exact ⟨x, rfl, Or.inr ⟨t, by rw [go_send_self]; rfl⟩⟩
    · obtain ⟨y, hy, hcase⟩ := h.tracked a ha
      have htracks : (s.send t).tracks = some y →
          (Send.inserted length x zlp).tracks = some y := by
        rw [hpc]
        simp [Send.tracks]
      exact ⟨y, hy, hcase.imp_right (tracks_go rfl htracks)⟩
  · exact fun y hy => Finset.mem_insert_of_mem (h.outstanding y hy)

/-- **A thread submits its transfer**: libusb gets it. -/
theorem submits (h : s.Ledger owner) {length : ℕ} {zlp : Bool}
    (hpc : s.send t = .inserted length x zlp) :
    ((s.setProgress x .submitted).go t (.sent length zlp)).Ledger
      fun o => if o = x then .libusb else owner o := by
  have hth := h.threads t
  rw [hpc] at hth
  have hx : owner x = .thread t := (hth.holds x).mpr (by simp [Send.holds])
  have hsome := hth.isXfer x rfl
  have hplace : s.addr x ∈ s.txXfers := hth.atPlace
  have hunsub : s.progress x = .unsubmitted := by
    by_contra hp
    rcases h.owner_of_submitted hp with he | ⟨-, he⟩ <;> rw [he] at hx <;> cases hx
  obtain ⟨s', hs'⟩ : ∃ s', s' = (s.setProgress x .submitted).go t (.sent length zlp) := ⟨_, rfl⟩
  have hupdate : s'.progress = Function.update s.progress x .submitted := by rw [hs']; rfl
  have hprogress : ∀ y, s'.progress y = if y = x then .submitted else s.progress y := by
    intro y
    rw [hupdate, Function.update_apply]
  have hsend' : s'.send = Function.update s.send t (.sent length zlp) := by rw [hs']; rfl
  have hxfer : s'.xfer = s.xfer := by rw [hs']; rfl
  have htx : s'.txXfers = s.txXfers := by rw [hs']; rfl
  have hreleased : s'.released = s.released := by rw [hs']; rfl
  have hmade : s'.made = s.made := by rw [hs']; rfl
  rw [← hs']
  have howner : ∀ o, (fun o => if o = x then Owner.libusb else owner o) o =
      if o = x then .libusb else owner o := fun _ => rfl
  generalize (fun o => if o = x then Owner.libusb else owner o) = owner' at howner ⊢
  have hother : ∀ o (c : Owner T), c ≠ .thread t → c ≠ .libusb → (owner' o = c ↔ owner o = c) := by
    intro o c ht hc
    rw [howner]
    split
    · next heq =>
      rw [heq, hx]
      exact iff_of_false hc.symm ht.symm
    · exact Iff.rfl
  have hout : ∀ y, s'.Outstanding y ↔ s.Outstanding y ∨ y = x := by
    intro y
    rw [Outstanding, Outstanding, hprogress]
    split
    · next heq => simp [heq]
    · next hne => simp [hne]
  have hthreads : ∀ t', s'.Holding owner' t' (s'.send t') := by
    have hself : s'.Holding owner' t (.sent length zlp) := by
      refine ⟨?_, List.nodup_nil, by simp [Send.xfer], by simp [Send.holds], trivial⟩
      intro o
      refine iff_of_false (fun ho => ?_) List.not_mem_nil
      rw [howner] at ho
      split at ho
      · cases ho
      · next hne => exact hne (List.mem_singleton.mp ((hth.holds o).mp ho))
    refine h.threads_go hself ?_ ?_ ?_ hsend'
    · exact fun t' hne o => hother o (.thread t') (by simpa using hne) (by simp)
    · rw [hxfer]
      exact fun _ _ _ _ => rfl
    · rw [htx]
      exact fun _ _ _ _ => id
  have hfollows : ∀ y, ∀ o ∈ s.fields y, owner' o = (owner' y).ofField y := by
    intro y o ho
    have hne : o ≠ x := by
      rintro rfl
      exact h.notMem_fields (by simp [hx]) (by simp [hx]) y ho
    rw [howner, howner, if_neg hne, h.follows y o ho]
    split
    · next hyx =>
      rw [hyx, hx]
      rfl
    · rfl
  have hlibusb : ∀ y, owner' y = .libusb ↔ (s'.progress y).InLibusb := by
    intro y
    rw [howner, hprogress]
    split
    · exact iff_of_true rfl trivial
    · exact h.libusb y
  have hcompleted : ∀ y, s'.progress y = .completed → owner' y = .released .txCallback := by
    intro y hy
    rw [hprogress] at hy
    split at hy
    · cases hy
    · exact (hother y (.released .txCallback) (by simp) (by simp)).mpr (h.completed y hy)
  obtain ⟨hrel, hkept, hback⟩ := h.releases_nothing hreleased
    (fun o p => hother o (.released p) (by simp) (by simp))
    fun o ho => ho.update hupdate (by simp) hxfer
  have htracked : ∀ a ∈ s'.txXfers, ∃ y, s.addr y = a ∧
      (s'.Outstanding y ∨ ∃ t', (s'.send t').tracks = some y) := by
    intro a ha
    rw [htx] at ha
    obtain ⟨y, hy, hcase⟩ := h.tracked a ha
    refine ⟨y, hy, ?_⟩
    rw [hout]
    by_cases hyx : y = x
    · exact Or.inl (Or.inr hyx)
    · refine hcase.imp Or.inl (tracks_go hsend' ?_)
      rw [hpc]
      rintro ⟨⟩
      exact absurd rfl hyx
  have houtstanding : ∀ y, s'.Outstanding y → s.addr y ∈ s'.txXfers := by
    intro y hy
    rw [htx]
    rcases (hout y).mp hy with hy | rfl
    · exact h.outstanding y hy
    · exact hplace
  exact h.reassigns hmade hxfer (fun o => hother o .unmade (by simp) (by simp))
    (fun y o => (hother o (.field y) (by simp) (by simp)).mp) hfollows
    (by rw [hreleased]; exact fun _ _ => id) hthreads hlibusb
    (fun _ => h.isSome_of_update hupdate hsome) hcompleted hrel hkept hback htracked houtstanding

end Ledger

end TxTransfers

end Usbmuxd
