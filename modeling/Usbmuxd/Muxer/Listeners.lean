import Usbmuxd.Muxer.Ids

/-!
# What listening clients are told

A listening client learns of the attached devices from messages alone: `Attached` when a
device is added, `Detached` when it is removed, and a dump of all of them when it starts
listening. Its *view* is what the messages add up to (`Usbmuxd.Muxer.view`), and once
nothing is going on it should be the set of the IDs in `_devices`
(`Usbmuxd.Muxer.ViewsAgree`).

While something is going on, the view may be behind. The invariant says in which way
(`Usbmuxd.Muxer.Informed`): a device that the client has not been told of has its
announcement *coming*, and an ID in the view that no device has, has its retraction
*coming*. Messages of different calls overtake each other, so a message may be *stale*
when it is sent, and that is what breaks the invariant: an `Attached` for a device that
is gone and whose retraction is not coming any more, or a `Detached` for an ID that a
later device has been given (`Usbmuxd.Muxer.NoStaleMessage`).
-/

namespace Usbmuxd

open Interleaving

namespace Muxer

variable {S T C : Type}

/-- What the client has been told: the set that its messages leave when they are folded,
beginning with nothing. -/
def view (m : Muxer T C) (cli : C) : Finset ℕ :=
  Feed.view ((m.inbox cli).map MuxMessage.update)

/-! ### Messages that are coming -/

/-- The thread will tell `cli` about device `dev`, whose ID is `id`, or it will remove
the device. -/
def Call.Announces (cli : C) (dev id : ℕ) : Call C → Prop
  | .insert dev' | .startLoop dev' | .notifyAdd dev' | .erase dev' => dev' = dev
  | .announcing id' todo => id' = id ∧ cli ∈ todo
  | .listen cli' | .notifyAlldevices cli' => cli' = cli
  | .dumping cli' todo => cli' = cli ∧ dev ∈ todo
  | _ => False

/-- The thread is adding device `dev`, and has not assigned its ID. Until it does, the ID that
the device has is not to be trusted. -/
def Call.AwaitsId (dev : ℕ) : Call C → Prop
  | .lookup dev' | .scan dev' => dev' = dev
  | _ => False

/-- The thread is removing device `dev`, and has not read its ID. What it will tell the clients
is the ID that the device has then. -/
def Call.Removes (dev : ℕ) : Call C → Prop
  | .erase dev' | .notifyRemove dev' => dev' = dev
  | _ => False

/-- The ID of device `dev` is not about to change, as no thread is adding it. -/
def IdSettled (m : Muxer T C) (dev : ℕ) : Prop := ∀ t, ¬(m.thread t).AwaitsId dev

/-- The thread will tell `cli` that ID `id` is gone, now or after some other clients. -/
def Call.Retracts (cli : C) (m : Muxer T C) (id : ℕ) : Call C → Prop
  | .erase dev | .notifyRemove dev => m.id dev = id ∧ m.IdSettled dev
  | .retracting id' todo => id' = id ∧ cli ∈ todo
  | _ => False

/-- The thread dumps the devices to `cli`, or is about to. While it does so, no device is
inserted or erased. -/
def Call.Dumps (cli : C) : Call C → Prop
  | .notifyAlldevices cli' | .dumping cli' _ => cli' = cli
  | _ => False

/-- The announcement of device `dev` to `cli` is coming, from the thread that has inserted it or
from a dump. -/
def AnnouncementComing (m : Muxer T C) (cli : C) (dev : ℕ) : Prop :=
  ∃ t, (m.thread t).Announces cli dev (m.id dev)

/-- The retraction of ID `id` to `cli` is coming, from a thread that removes a device. -/
def RetractionComing (m : Muxer T C) (cli : C) (id : ℕ) : Prop :=
  ∃ t, (m.thread t).Retracts cli m id

/-- A device has ID `id`, and is in `_devices`. -/
def Attached (m : Muxer T C) (id : ℕ) : Prop := ∃ dev ∈ m.devices, m.id dev = id

/-! ### The invariant -/

variable [DecidableEq T] [DecidableEq C] {E : MuxerEnv S C} {m m' : Muxer T C} {t : T}

/-- **Every listening client is informed**, or will be: where its view and the devices differ,
there is a message on its way. -/
structure Informed (E : MuxerEnv S C) (m : Muxer T C) : Prop where
  /-- Who is not listening has not been told anything. -/
  quiet : ∀ cli, m.isListening cli = false → m.inbox cli = []
  /-- It has been told of every device. -/
  told : ∀ cli ∈ E.clients, m.isListening cli = true → ∀ dev ∈ m.devices,
    m.id dev ∈ m.view cli ∨ m.AnnouncementComing cli dev
  /-- It has been told of nothing else. -/
  sound : ∀ cli ∈ E.clients, ∀ id ∈ m.view cli, m.Attached id ∨ m.RetractionComing cli id
  /-- A dump goes to a listening client. -/
  listening : ∀ t cli, (m.thread t).Dumps cli → m.isListening cli = true
  /-- A dump is of attached devices. -/
  dump : ∀ t cli todo, m.thread t = .dumping cli todo → ∀ dev ∈ todo, dev ∈ m.devices

namespace Informed

omit [DecidableEq T] [DecidableEq C] in
theorem init (E : MuxerEnv S C) : Informed E (init : Muxer T C) where
  quiet := fun _ _ => rfl
  told := fun _ _ _ dev hdev => absurd hdev List.not_mem_nil
  sound := fun cli _ id hid => by simp [view, Muxer.init] at hid
  listening := fun _ _ ht => ht.elim
  dump := nofun

omit [DecidableEq C] in
/-- What was coming is still coming when a thread goes on, which does not make it wait for
the ID of a device that is being removed. -/
theorem retracts_go {pc k : Call C} {cli : C} {id : ℕ}
    (hawait : ∀ dev, pc.AwaitsId dev → (m.thread t).AwaitsId dev ∨ ¬k.Removes dev)
    (h : k.Retracts cli m id) : k.Retracts cli (m.go t pc) id := by
  have hsettled : ∀ dev, k.Removes dev → m.IdSettled dev → (m.go t pc).IdSettled dev :=
    fun dev hk hs t' ha => by
      by_cases ht : t' = t
      · subst ht
        rw [go_thread_self] at ha
        exact (hawait dev ha).elim (hs t') fun hnot => hnot hk
      · rw [go_thread_of_ne _ _ ht] at ha
        exact hs t' ha
  cases k with
  | erase dev => exact ⟨h.1, hsettled dev rfl h.2⟩
  | notifyRemove dev => exact ⟨h.1, hsettled dev rfl h.2⟩
  | _ => exact h

omit [DecidableEq C] in
/-- **A thread goes on**: what was coming from it is still coming, or has come. -/
theorem go (h : Informed E m) (t : T) (pc : Call C)
    (hawait : ∀ dev, pc.AwaitsId dev → (m.thread t).AwaitsId dev ∨
      ∀ t', ¬(m.thread t').Removes dev)
    (hann : ∀ cli ∈ E.clients, ∀ dev ∈ m.devices, (m.thread t).Announces cli dev (m.id dev) →
      pc.Announces cli dev (m.id dev) ∨ m.isListening cli = false ∨ m.id dev ∈ m.view cli)
    (hret : ∀ cli ∈ E.clients, ∀ id ∈ m.view cli, (m.thread t).Retracts cli m id →
      pc.Retracts cli m id ∨ m.Attached id)
    (hlisten : ∀ cli, pc.Dumps cli → m.isListening cli = true)
    (hdump : ∀ cli todo, pc = .dumping cli todo → ∀ dev ∈ todo, dev ∈ m.devices) :
    Informed E (m.go t pc) := by
  refine ⟨h.quiet, ?_, ?_, ?_, ?_⟩
  · intro cli hcli hl dev hdev
    rcases h.told cli hcli hl dev hdev with hin | ⟨t', ht'⟩
    · exact Or.inl hin
    · by_cases ht : t' = t
      · subst ht
        -- the announcement was still to come from this thread
        rcases hann cli hcli dev hdev ht' with hpc | hoff | hin
        · exact Or.inr ⟨t', by rwa [go_thread_self]⟩
        · exact absurd (hl.symm.trans hoff) (by simp)
        · exact Or.inl hin
      · exact Or.inr ⟨t', by rwa [go_thread_of_ne _ _ ht]⟩
  · intro cli hcli id hid
    rcases h.sound cli hcli id hid with hatt | ⟨t', ht'⟩
    · exact Or.inl hatt
    · by_cases ht : t' = t
      · subst ht
        -- the retraction was still to come from this thread
        rcases hret cli hcli id hid ht' with hpc | hatt
        · refine Or.inr ⟨t', ?_⟩
          rw [go_thread_self]
          refine retracts_go ?_ hpc
          intro dev ha
          exact Or.inr fun hr => by cases pc <;> first | exact ha | exact hr
        · exact Or.inl hatt
      · refine Or.inr ⟨t', ?_⟩
        rw [go_thread_of_ne _ _ ht]
        exact retracts_go (fun dev ha => (hawait dev ha).imp_right fun hnone => hnone t') ht'
  · intro t' cli ht'
    by_cases ht : t' = t
    · subst ht
      rw [go_thread_self] at ht'
      exact hlisten cli ht'
    · rw [go_thread_of_ne _ _ ht] at ht'
      exact h.listening t' cli ht'
  · intro t' cli todo ht'
    by_cases ht : t' = t
    · subst ht
      rw [go_thread_self] at ht'
      exact hdump cli todo ht'
    · rw [go_thread_of_ne _ _ ht] at ht'
      exact h.dump t' cli todo ht'

omit [DecidableEq T] [DecidableEq C] in
/-- A device is inserted, by a thread that will announce it to everybody who is listening
then. -/
theorem withDevice (h : Informed E m) {dev : ℕ} (ht : m.thread t = .insert dev) :
    Informed E { m with devices := m.insertDevice dev } where
  quiet := h.quiet
  told := by
    intro cli hcli hl d hd
    rcases mem_insertDevice.mp hd with rfl | hd
    · exact Or.inr ⟨t, by simp [ht, Call.Announces]⟩
    · exact h.told cli hcli hl d hd
  sound := fun cli hcli id hid =>
    (h.sound cli hcli id hid).imp_left fun ⟨d, hd, he⟩ => ⟨d, mem_insertDevice.mpr (Or.inr hd), he⟩
  listening := h.listening
  dump := fun t' cli todo ht' d hd => mem_insertDevice.mpr (Or.inr (h.dump t' cli todo ht' d hd))

omit [DecidableEq T] [DecidableEq C] in
/-- A device is erased, and the retraction of its ID is coming. It does not matter which thread
is going to send it. -/
theorem withoutDevice (h : Informed E m) (dev : ℕ)
    (hguard : ∀ t, (m.thread t).isDumping = false)
    (hcoming : dev ∈ m.devices → ∀ cli ∈ E.clients, m.RetractionComing cli (m.id dev)) :
    Informed E { m with devices := m.eraseDevice dev } where
  quiet := h.quiet
  told := fun cli hcli hl d hd => h.told cli hcli hl d (mem_eraseDevice.mp hd).1
  sound := by
    intro cli hcli id hid
    rcases h.sound cli hcli id hid with ⟨d, hd, rfl⟩ | hret
    · by_cases hne : d = dev
      · subst hne
        exact Or.inr (hcoming hd cli hcli)
      · exact Or.inl ⟨d, mem_eraseDevice.mpr ⟨hd, hne⟩, rfl⟩
    · exact Or.inr hret
  listening := h.listening
  dump := by
    intro t' cli todo ht'
    have hfalse : (m.thread t').isDumping = false := hguard t'
    rw [show m.thread t' = _ from ht'] at hfalse
    cases hfalse

omit [DecidableEq T] [DecidableEq C] in
/-- A device that is not attached is assigned an ID. Clients are told of attached devices only,
so nothing that they know becomes wrong. -/
theorem assign (h : Informed E m) {dev : ℕ} (hdev : dev ∉ m.devices)
    (hawaits : (m.thread t).AwaitsId dev) (id newid : ℕ) :
    Informed E { m with id := Function.update m.id dev id, newid := newid } := by
  have hid : ∀ d ∈ m.devices, Function.update m.id dev id d = m.id d := by
    intro d hd
    have hne : d ≠ dev := fun he => hdev (he ▸ hd)
    exact Function.update_of_ne hne _ _
  refine ⟨h.quiet, ?_, ?_, h.listening, h.dump⟩
  · intro cli hcli hl d hd
    refine (h.told cli hcli hl d hd).imp ?_ fun ⟨t', ht'⟩ => ⟨t', ?_⟩
    · intro hin
      show Function.update m.id dev id d ∈ m.view cli
      rwa [hid d hd]
    · show (m.thread t').Announces cli d (Function.update m.id dev id d)
      rwa [hid d hd]
  · intro cli hcli i hi
    rcases h.sound cli hcli i hi with ⟨d, hd, he⟩ | ⟨t', ht'⟩
    · exact Or.inl ⟨d, hd, (hid d hd).trans he⟩
    · -- a device that is being removed and has its ID settled is another one
      have hne : ∀ d, m.IdSettled d → Function.update m.id dev id d = m.id d := by
        intro d hs
        have hne : d ≠ dev := fun he => hs t (he ▸ hawaits)
        exact Function.update_of_ne hne _ _
      refine Or.inr ⟨t', ?_⟩
      show (m.thread t').Retracts cli _ i
      cases hpc : m.thread t' with
      | erase d =>
        rw [hpc] at ht'
        exact ⟨(hne d ht'.2).trans ht'.1, ht'.2⟩
      | notifyRemove d =>
        rw [hpc] at ht'
        exact ⟨(hne d ht'.2).trans ht'.1, ht'.2⟩
      | _ =>
        rw [hpc] at ht'
        exact ht'

omit [DecidableEq T] in
/-- A client starts listening, and the dump is coming. Its view is empty until then. -/
theorem startListening (h : Informed E m) {cli : C} (ht : m.thread t = .listen cli) :
    Informed E { m with isListening := Function.update m.isListening cli true } where
  quiet := by
    intro cli' hoff
    by_cases hc : cli' = cli
    · subst hc
      simp at hoff
    · exact h.quiet cli' (by simpa [hc] using hoff)
  told := by
    intro cli' hcli hl d hd
    by_cases hc : cli' = cli
    · subst hc
      exact Or.inr ⟨t, by simp [ht, Call.Announces]⟩
    · exact h.told cli' hcli (by simpa [hc] using hl) d hd
  sound := h.sound
  listening := by
    intro t' cli' ht'
    by_cases hc : cli' = cli
    · simp [hc]
    · simpa [hc] using h.listening t' cli' ht'
  dump := h.dump

/-! ### Messages -/

omit [DecidableEq T] in
theorem view_send_self (m : Muxer T C) (cli : C) (msg : MuxMessage) :
    (m.send cli msg).view cli = msg.update.apply (m.view cli) := by
  simp [view, send, Feed.view_append]

omit [DecidableEq T] in
theorem view_send_of_ne (m : Muxer T C) {cli cli' : C} (msg : MuxMessage) (h : cli' ≠ cli) :
    (m.send cli msg).view cli' = m.view cli' := by
  simp [view, send, h]

omit [DecidableEq T] in
/-- **A message** that says nothing false, or nothing that will not be put right. -/
theorem send (h : Informed E m) {cli : C} {msg : MuxMessage} (hl : m.isListening cli = true)
    (htold : ∀ dev ∈ m.devices, m.id dev ∈ m.view cli →
      m.id dev ∈ msg.update.apply (m.view cli) ∨ m.AnnouncementComing cli dev)
    (hsound : ∀ id ∈ msg.update.apply (m.view cli), id ∉ m.view cli →
      m.Attached id ∨ m.RetractionComing cli id) : Informed E (m.send cli msg) where
  quiet := by
    intro cli' hoff
    have hne : cli' ≠ cli := by
      intro he
      rw [he] at hoff
      exact absurd (hl.symm.trans hoff) (by simp)
    simpa [Muxer.send, hne] using h.quiet cli' hoff
  told := by
    intro cli' hcli hl' d hd
    by_cases hc : cli' = cli
    · subst hc
      rw [view_send_self]
      rcases h.told cli' hcli hl' d hd with hin | hcoming
      · exact htold d hd hin
      · exact Or.inr hcoming
    · rw [view_send_of_ne m msg hc]
      exact h.told cli' hcli hl' d hd
  sound := by
    intro cli' hcli id hid
    by_cases hc : cli' = cli
    · subst hc
      rw [view_send_self] at hid
      by_cases hin : id ∈ m.view cli'
      · exact h.sound cli' hcli id hin
      · exact hsound id hid hin
    · rw [view_send_of_ne m msg hc] at hid
      exact h.sound cli' hcli id hid
  listening := h.listening
  dump := h.dump

omit [DecidableEq T] in
theorem sendAttached (h : Informed E m) {cli : C} {id : ℕ} (hl : m.isListening cli = true)
    (hok : m.Attached id ∨ m.RetractionComing cli id) : Informed E (m.send cli (.attached id)) := by
  refine h.send hl (fun dev _ hin => Or.inl (Finset.mem_insert_of_mem hin)) ?_
  intro id' hid' hnot
  rcases Finset.mem_insert.mp hid' with rfl | hin
  · exact hok
  · exact absurd hin hnot

omit [DecidableEq T] in
theorem sendDetached (h : Informed E m) {cli : C} {id : ℕ} (hl : m.isListening cli = true)
    (hok : ∀ dev ∈ m.devices, m.id dev = id → m.AnnouncementComing cli dev) :
    Informed E (m.send cli (.detached id)) := by
  refine h.send hl ?_ fun id' hid' hnot => absurd (Finset.mem_of_mem_erase hid') hnot
  intro dev hdev hin
  by_cases he : m.id dev = id
  · exact Or.inr (hok dev hdev he)
  · exact Or.inl (Finset.mem_erase_of_ne_of_mem he hin)

end Informed

/-! ### Stale messages -/

variable [DecidableEq S] [Fintype T]

/-- **No message is stale when it is sent**: an `Attached` is sent while a device has the
ID or its retraction is coming, a `Detached` while no device has it or the announcement
of those that have is coming. Moreover `add_device` is not called for a device that is
attached, or being added or removed, and a device does not come or go unannounced: no
device has `INVALID_ID` when it is unplugged, and WiFi devices that fail to start are
not tolerated. -/
def NoStaleMessage (E : MuxerEnv S C) (m : Muxer T C) : Label T C → Prop
  | .call t (.addDevice dev) =>
      m.FreshAdd (.call t (.addDevice dev)) ∧ ∀ t', ¬(m.thread t').Removes dev
  | .call _ _ => True
  | .run t ok =>
      match m.thread t with
      | .startLoop _ => ok = true ∨ E.allowHeartlessWifi = false
      | .unplug location => ∀ dev ∈ m.deviceAt E location, m.id dev ≠ invalidId
      | .announcing id (cli :: _) =>
          m.isListening cli = true → m.Attached id ∨ m.RetractionComing cli id
      | .retracting id (cli :: _) =>
          m.isListening cli = true →
            ∀ dev ∈ m.devices, m.id dev = id → m.AnnouncementComing cli dev
      | _ => True

variable {ok : Bool}

namespace Informed

omit [DecidableEq S] [Fintype T] [DecidableEq C] in
/-- A thread goes on from where nothing is coming from it, so that no client misses anything by
it. -/
theorem go_silent (h : Informed E m) (t : T) (pc : Call C)
    (hawait : ∀ dev, pc.AwaitsId dev → (m.thread t).AwaitsId dev ∨
      ∀ t', ¬(m.thread t').Removes dev)
    (hann : ∀ cli dev id, ¬(m.thread t).Announces cli dev id)
    (hret : ∀ cli id, ¬(m.thread t).Retracts cli m id) (hdumps : ∀ cli, ¬pc.Dumps cli) :
    Informed E (m.go t pc) :=
  h.go t pc hawait (fun _ _ _ _ ha => absurd ha (hann _ _ _))
    (fun _ _ _ _ hr => absurd hr (hret _ _)) (fun cli hd => absurd hd (hdumps cli))
    fun cli _ he => absurd (he ▸ rfl) (hdumps cli)

/-- A thread that adds a device, up to its insertion. Nothing has to be told before that. -/
theorem add_step (h : Informed E m) (hadders : m.Adders) {dev : ℕ}
    (hpc : (m.thread t).Adds dev) (hs : m.threadStep E t ok = some m') : Informed E m' := by
  have hdev := hadders.fresh t dev hpc
  cases ht : m.thread t with
  | lookup dev' =>
    -- the device gets the index of the other connection, or is sent to the scan
    obtain rfl : dev' = dev := by rwa [ht] at hpc
    have hawaits : (m.thread t).AwaitsId dev' := by rw [ht]; rfl
    simp only [threadStep, ht, Option.some.injEq] at hs
    subst hs
    rcases lookupId_cases (E := E) m t dev' with heq | ⟨odev, -, -, -, heq⟩
    · rw [heq]
      refine (h.assign hdev hawaits 0 m.newid).go_silent t (.scan dev') ?_ ?_ ?_ ?_
      · exact fun d hd => Or.inl (hd ▸ hawaits)
      · simp [ht, Call.Announces]
      · simp [ht, Call.Retracts]
      · simp [Call.Dumps]
    · rw [heq]
      refine (h.assign hdev hawaits _ m.newid).go_silent t (.insert dev') ?_ ?_ ?_ ?_
      · simp [Call.AwaitsId]
      · simp [ht, Call.Announces]
      · simp [ht, Call.Retracts]
      · simp [Call.Dumps]
  | scan dev' =>
    -- nobody is told of the ID before the device is in `_devices`
    obtain rfl : dev' = dev := by rwa [ht] at hpc
    have hawaits : (m.thread t).AwaitsId dev' := by rw [ht]; rfl
    simp only [threadStep, ht] at hs
    obtain ⟨newid, -, rfl⟩ := Option.map_eq_some_iff.mp hs
    refine (h.assign hdev hawaits _ newid).go_silent t (.insert dev') ?_ ?_ ?_ ?_
    · simp [Call.AwaitsId]
    · simp [ht, Call.Announces]
    · simp [ht, Call.Retracts]
    · simp [Call.Dumps]
  | insert dev' =>
    simp only [threadStep, ht, Option.ite_none_right_eq_some, Option.some.injEq] at hs
    obtain ⟨-, rfl⟩ := hs
    obtain ⟨pc, hpc', heq⟩ := insertStep_eq (E := E) m t dev'
    rw [heq]
    refine (h.withDevice ht).go t pc ?_ ?_ ?_ ?_ ?_
    · rcases hpc' with rfl | rfl <;> simp [Call.AwaitsId]
    · rcases hpc' with rfl | rfl <;> simp +contextual [ht, Call.Announces]
    · simp [ht, Call.Retracts]
    · rcases hpc' with rfl | rfl <;> simp [Call.Dumps]
    · rcases hpc' with rfl | rfl <;> simp
  | _ =>
    rw [ht] at hpc
    exact hpc.elim

omit [DecidableEq S] [Fintype T] in
/-- The next client is told of a new device, which is still attached then, or whose retraction
is coming. -/
theorem announce_step (h : Informed E m) {id : ℕ} {cli : C} {todo : List C}
    (ht : m.thread t = .announcing id (cli :: todo))
    (hok : m.isListening cli = true → m.Attached id ∨ m.RetractionComing cli id) :
    Informed E ((m.sendIfListening cli (.attached id)).go t (.announcing id todo)) := by
  unfold sendIfListening
  split_ifs with hl
  · refine (h.sendAttached hl (hok hl)).go _ _ (by simp [Call.AwaitsId]) ?_
      ?_ (by simp [Call.Dumps]) (by simp)
    · -- the first of the clients is told at this step, the others are still to be told
      intro cli' _ dev _ ha
      rw [show (m.send cli _).thread t = _ from ht] at ha
      obtain ⟨hid, hin⟩ := ha
      rcases List.mem_cons.mp hin with rfl | hin
      · right; right
        rw [view_send_self, ← hid]
        exact Finset.mem_insert_self _ _
      · exact Or.inl ⟨hid, hin⟩
    · intro _ _ _ _ hr
      rw [show (m.send cli _).thread t = _ from ht] at hr
      exact hr.elim
  · refine h.go _ _ (by simp [Call.AwaitsId]) ?_ ?_ (by simp [Call.Dumps]) (by simp)
    · intro cli' _ dev _ ha
      rw [ht] at ha
      obtain ⟨rfl, hin⟩ := ha
      -- a client that does not listen has no view that could lack the device
      rcases List.mem_cons.mp hin with rfl | hin
      · exact Or.inr (Or.inl (by simpa using hl))
      · exact Or.inl ⟨rfl, hin⟩
    · intro _ _ _ _ hr
      rw [ht] at hr
      exact hr.elim

omit [DecidableEq S] [Fintype T] in
/-- The next client is told that a device is gone. No device may have got the same ID
meanwhile. -/
theorem retract_step (h : Informed E m) {id : ℕ} {cli : C} {todo : List C}
    (ht : m.thread t = .retracting id (cli :: todo))
    (hok : m.isListening cli = true →
      ∀ dev ∈ m.devices, m.id dev = id → m.AnnouncementComing cli dev) :
    Informed E ((m.sendIfListening cli (.detached id)).go t (.retracting id todo)) := by
  unfold sendIfListening
  split_ifs with hl
  · refine (h.sendDetached hl (hok hl)).go _ _ (by simp [Call.AwaitsId]) ?_
      ?_ (by simp [Call.Dumps]) (by simp)
    · intro _ _ _ _ ha
      rw [show (m.send cli _).thread t = _ from ht] at ha
      exact ha.elim
    · intro cli' _ id' hid hr
      rw [show (m.send cli _).thread t = _ from ht] at hr
      obtain ⟨rfl, hin⟩ := hr
      -- the first of the clients loses the ID from its view at this step
      rcases List.mem_cons.mp hin with rfl | hin
      · rw [view_send_self] at hid
        exact absurd hid (Finset.notMem_erase _ _)
      · exact Or.inl ⟨rfl, hin⟩
  · refine h.go _ _ (by simp [Call.AwaitsId]) ?_ ?_ (by simp [Call.Dumps]) (by simp)
    · intro _ _ _ _ ha
      rw [ht] at ha
      exact ha.elim
    · intro cli' _ id' hid hr
      rw [ht] at hr
      obtain ⟨rfl, hin⟩ := hr
      -- the view of a client that does not listen is empty
      rcases List.mem_cons.mp hin with rfl | hin
      · rw [view, h.quiet cli' (by simpa using hl)] at hid
        simp at hid
      · exact Or.inl ⟨rfl, hin⟩

omit [DecidableEq S] [DecidableEq C] [Fintype T] in
/-- A device is erased by `delete_device(dev)`, which reads the ID only afterwards. -/
theorem erase_step (h : Informed E m) (hadders : m.Adders) {dev : ℕ}
    (ht : m.thread t = .erase dev) (hguard : m.guardFree) :
    Informed E { m.go t (.notifyRemove dev) with devices := m.eraseDevice dev } := by
  have hm := h.withoutDevice dev hguard fun hdev cli _ => by
    refine ⟨t, ?_⟩
    rw [ht]
    refine ⟨rfl, fun t' ha => hadders.fresh t' dev ?_ hdev⟩
    cases hpc : m.thread t' with
    | lookup dev' => rw [hpc] at ha; exact ha
    | scan dev' => rw [hpc] at ha; exact ha
    | _ => rw [hpc] at ha; exact ha.elim
  refine hm.go t (.notifyRemove dev) (by simp [Call.AwaitsId])
    ?_ ?_ (by simp [Call.Dumps]) (by simp)
  · intro _ _ d hd ha
    rw [show Muxer.thread _ t = _ from ht] at ha
    obtain rfl : dev = d := ha
    exact absurd rfl (mem_eraseDevice.mp hd).2
  · intro _ _ _ _ hr
    rw [show Muxer.thread _ t = _ from ht] at hr
    exact Or.inl hr

omit [DecidableEq S] [DecidableEq C] [Fintype T] in
/-- A device is erased by `delete_device(bus, address)`, which tells nobody if the ID is
`INVALID_ID`. -/
theorem unplug_step (h : Informed E m) {location : ℕ} (ht : m.thread t = .unplug location)
    (hguard : m.guardFree) (hok : ∀ dev ∈ m.deviceAt E location, m.id dev ≠ invalidId) :
    Informed E (m.unplugStep E t location) := by
  have hann : ∀ cli dev id, ¬(m.thread t).Announces cli dev id := by simp [ht, Call.Announces]
  have hret : ∀ cli id, ¬(m.thread t).Retracts cli m id := by simp [ht, Call.Retracts]
  unfold unplugStep
  split
  · next dev hdev =>
    rw [if_pos (hok dev hdev)]
    -- the retraction is under way before the device leaves `_devices`
    have hm : Informed E (m.go t (.retracting (m.id dev) E.clients)) :=
      h.go_silent _ _ (by simp [Call.AwaitsId]) hann hret (by simp [Call.Dumps])
    refine hm.withoutDevice dev ?_ fun _ cli hcli => ⟨t, ?_⟩
    · intro t'
      by_cases htt : t' = t
      · subst htt
        rw [go_thread_self]
        rfl
      · rw [go_thread_of_ne _ _ htt]
        exact hguard t'
    · rw [go_thread_self]
      exact ⟨rfl, hcli⟩
  · exact h.go_silent _ _ (by simp [Call.AwaitsId]) hann hret (by simp [Call.Dumps])

omit [DecidableEq S] [Fintype T] in
/-- The next device is dumped, and the client is told of it, also if it knows already. -/
theorem dump_step (h : Informed E m) {cli : C} {dev : ℕ} {todo : List ℕ}
    (ht : m.thread t = .dumping cli (dev :: todo)) :
    Informed E ((m.send cli (.attached (m.id dev))).go t (.dumping cli todo)) := by
  have hl : m.isListening cli = true := h.listening t cli (by rw [ht]; rfl)
  have hdump := h.dump t cli _ ht
  have hdev : dev ∈ m.devices := hdump dev List.mem_cons_self
  refine (h.sendAttached hl (Or.inl ⟨dev, hdev, rfl⟩)).go _ _ (by simp [Call.AwaitsId]) ?_ ?_ ?_ ?_
  · intro cli' _ d _ ha
    rw [show (m.send cli _).thread t = _ from ht] at ha
    obtain ⟨rfl, hin⟩ := ha
    rcases List.mem_cons.mp hin with rfl | hin
    · right; right
      rw [view_send_self]
      exact Finset.mem_insert_self _ _
    · exact Or.inl ⟨rfl, hin⟩
  · intro _ _ _ _ hr
    rw [show (m.send cli _).thread t = _ from ht] at hr
    exact hr.elim
  · -- the dump goes on, to a client that listens
    intro cli' hd
    obtain rfl : cli = cli' := hd
    exact hl
  · intro cli' todo' he
    cases he
    exact fun d hd => hdump d (List.mem_cons_of_mem _ hd)

omit [DecidableEq S] [DecidableEq C] [Fintype T] in
/-- `startLoop` has succeeded, or the device is deleted again, and the clients are told. -/
theorem startLoop_step (h : Informed E m) {dev : ℕ} (ht : m.thread t = .startLoop dev)
    (hok : ok = true ∨ E.allowHeartlessWifi = false) : Informed E (m.startLoopStep E t dev ok) := by
  have hret : ∀ cli id, ¬(m.thread t).Retracts cli m id := by simp [ht, Call.Retracts]
  unfold startLoopStep
  split_ifs with hstart hallow
  · refine h.go _ _ (by simp [Call.AwaitsId]) (fun cli _ d _ ha => Or.inl ?_)
      (fun cli _ id _ hr => absurd hr (hret cli id)) (by simp [Call.Dumps]) (by simp)
    rw [ht] at ha
    exact ha
  · -- the device stays though it cannot be started, which `hok` excludes
    rcases hok with hok | hok
    · exact absurd hok hstart
    · rw [hok] at hallow
      cases hallow
  · refine h.go _ _ (by simp [Call.AwaitsId]) (fun cli _ d _ ha => Or.inl ?_)
      (fun cli _ id _ hr => absurd hr (hret cli id)) (by simp [Call.Dumps]) (by simp)
    rw [ht] at ha
    exact ha

/-- **A step of a thread**, from whatever place in its call. -/
theorem thread_step (h : Informed E m) (hadders : m.Adders) (hok : NoStaleMessage E m (.run t ok))
    (hs : m.threadStep E t ok = some m') : Informed E m' := by
  have hs' := hs
  unfold threadStep at hs'
  split at hs'
  · cases hs'
  · -- the three steps that give a device its index and insert it
    next dev ht => exact h.add_step hadders (by rw [ht]; rfl) hs
  · next dev ht => exact h.add_step hadders (by rw [ht]; rfl) hs
  · next dev ht => exact h.add_step hadders (by rw [ht]; rfl) hs
  · next dev ht =>
    cases hs'
    simp only [NoStaleMessage, ht] at hok
    exact h.startLoop_step ht hok
  · next dev ht =>
    cases hs'
    refine h.go _ _ (by simp [Call.AwaitsId]) (fun cli hcli d _ ha => Or.inl ?_)
      (by simp [ht, Call.Retracts]) (by simp [Call.Dumps]) (by simp)
    rw [ht] at ha
    obtain rfl : dev = d := ha
    exact ⟨rfl, hcli⟩
  · next id cli todo ht =>
    cases hs'
    simp only [NoStaleMessage, ht] at hok
    exact h.announce_step ht hok
  · next id ht =>
    cases hs'
    exact h.go_silent _ _ (by simp [Call.AwaitsId]) (by simp [ht, Call.Announces])
      (by simp [ht, Call.Retracts]) (by simp [Call.Dumps])
  · next dev ht =>
    split_ifs at hs' with hguard
    cases hs'
    exact h.erase_step hadders ht hguard
  · next dev ht =>
    cases hs'
    refine h.go _ _ (by simp [Call.AwaitsId]) (by simp [ht, Call.Announces])
      (fun cli hcli id _ hr => Or.inl ?_) (by simp [Call.Dumps]) (by simp)
    rw [ht] at hr
    exact ⟨hr.1, hcli⟩
  · next location ht =>
    split_ifs at hs' with hguard
    cases hs'
    simp only [NoStaleMessage, ht] at hok
    exact h.unplug_step ht hguard hok
  · next id cli todo ht =>
    cases hs'
    simp only [NoStaleMessage, ht] at hok
    exact h.retract_step ht hok
  · next id ht =>
    cases hs'
    exact h.go_silent _ _ (by simp [Call.AwaitsId]) (by simp [ht, Call.Announces])
      (by simp [ht, Call.Retracts]) (by simp [Call.Dumps])
  · next cli ht =>
    cases hs'
    refine (h.startListening ht).go t (.notifyAlldevices cli) ?_ ?_ ?_ ?_ ?_
    · simp [Call.AwaitsId]
    · simp +contextual [ht, Call.Announces]
    · simp [ht, Call.Retracts]
    · rintro cli' rfl
      simp
    · simp
  · next cli ht =>
    cases hs'
    have hl : m.isListening cli = true := h.listening t cli (by rw [ht]; rfl)
    refine h.go _ _ (by simp [Call.AwaitsId]) (fun cli' _ d hd ha => Or.inl ?_)
      (by simp [ht, Call.Retracts]) ?_ ?_
    · rw [ht] at ha
      exact ⟨ha, hd⟩
    · intro cli' hd
      obtain rfl : cli = cli' := hd
      exact hl
    · intro cli' todo he
      cases he
      exact fun d hd => hd
  · next cli dev todo ht =>
    cases hs'
    exact h.dump_step ht
  · next cli ht =>
    cases hs'
    exact h.go_silent _ _ (by simp [Call.AwaitsId]) (by simp [ht, Call.Announces])
      (by simp [ht, Call.Retracts]) (by simp [Call.Dumps])

/-- **A step**, be it that a thread goes on or that one is called. -/
theorem step (h : Informed E m) (hadders : m.Adders) {l : Label T C}
    (hok : NoStaleMessage E m l) (hs : m.step E l = some m') : Informed E m' := by
  cases l with
  | run t ok => exact h.thread_step hadders hok hs
  | call t r =>
    simp only [Muxer.step, Option.ite_none_right_eq_some, Option.some.injEq] at hs
    obtain ⟨hidle, rfl⟩ := hs
    have ht : m.thread t = .idle := Call.eq_idle hidle
    refine h.go_silent _ _ (fun dev ha => Or.inr ?_) (by simp [ht, Call.Announces])
      (by simp [ht, Call.Retracts]) ?_
    · cases r with
      | addDevice dev' =>
        obtain rfl : dev' = dev := ha
        exact hok.2
      | _ => exact ha.elim
    · intro cli hd
      cases r <;> exact hd

end Informed

omit [DecidableEq T] [DecidableEq S] [Fintype T] [DecidableEq C] in
theorem NoStaleMessage.freshAdd {l : Label T C} (h : NoStaleMessage E m l) : m.FreshAdd l := by
  cases l with
  | run t ok => trivial
  | call t r =>
    cases r with
    | addDevice dev => exact h.1
    | _ => trivial

/-- Every listening client is informed, and every device is added by one thread. -/
structure InformedInv (E : MuxerEnv S C) (m : Muxer T C) : Prop where
  adders : m.Adders
  informed : Informed E m

theorem InformedInv.step (h : InformedInv E m) {l : Label T C} (hok : NoStaleMessage E m l)
    (hs : m.step E l = some m') : InformedInv E m' where
  adders := h.adders.step hok.freshAdd hs
  informed := h.informed.step h.adders hok hs

end Muxer

/-! ### The view of a listener -/

open Muxer

section

variable {S T C : Type} [DecidableEq S] [DecidableEq T] [Fintype T] [DecidableEq C]

/-- **A listener's view is the device set**: when no call is in progress, every
listening client has been told of the IDs of the devices in `_devices`, and of nothing
else. -/
def Muxer.ViewsAgree (E : MuxerEnv S C) (m : Muxer T C) : Prop :=
  (∀ t, (m.thread t).isIdle = true) → ∀ cli ∈ E.clients, m.isListening cli = true →
    m.view cli = (m.devices.map m.id).toFinset

/-- **A listener's view is the device set**, in every run in which no message is stale
when it is sent. -/
theorem listener_views_agree {E : MuxerEnv S C} {m : Muxer T C}
    (h : (muxerMachine E).Reaches (NoStaleMessage E) init m) : m.ViewsAgree E := by
  have hinv := h.invariant (I := InformedInv E) ⟨⟨nofun, nofun⟩, .init E⟩ fun _ _ _ hi hok hs =>
    hi.step hok hs
  intro hidle cli hcli hl
  have hnone : ∀ t, m.thread t = .idle := fun t => Call.eq_idle (hidle t)
  ext id
  simp only [List.mem_toFinset, List.mem_map]
  constructor
  · intro hid
    rcases hinv.informed.sound cli hcli id hid with hatt | ⟨t, ht⟩
    · exact hatt
    · rw [hnone t] at ht
      exact ht.elim
  · rintro ⟨dev, hdev, rfl⟩
    rcases hinv.informed.told cli hcli hl dev hdev with hin | ⟨t, ht⟩
    · exact hin
    · rw [hnone t] at ht
      exact ht.elim

end

/-! #### Runs -/

namespace Muxer

section

variable {S T C : Type} [DecidableEq T] [Fintype T] [DecidableEq C]

instance (cli : C) (dev id : ℕ) (pc : Call C) : Decidable (pc.Announces cli dev id) :=
  match pc with
  | .insert dev' | .startLoop dev' | .notifyAdd dev' | .erase dev' =>
      inferInstanceAs (Decidable (dev' = dev))
  | .announcing _ _ => inferInstanceAs (Decidable (_ ∧ _))
  | .listen cli' | .notifyAlldevices cli' => inferInstanceAs (Decidable (cli' = cli))
  | .dumping _ _ => inferInstanceAs (Decidable (_ ∧ _))
  | .idle | .lookup _ | .scan _ | .notifyRemove _ | .unplug _ | .retracting _ _ =>
    isFalse False.elim

instance (dev : ℕ) (pc : Call C) : Decidable (pc.AwaitsId dev) :=
  match pc with
  | .lookup dev' | .scan dev' => inferInstanceAs (Decidable (dev' = dev))
  | .idle | .insert _ | .startLoop _ | .notifyAdd _ | .announcing _ _ | .erase _
  | .notifyRemove _ | .unplug _ | .retracting _ _ | .listen _ | .notifyAlldevices _
  | .dumping _ _ => isFalse False.elim

instance (dev : ℕ) (pc : Call C) : Decidable (pc.Removes dev) :=
  match pc with
  | .erase dev' | .notifyRemove dev' => inferInstanceAs (Decidable (dev' = dev))
  | .idle | .lookup _ | .scan _ | .insert _ | .startLoop _ | .notifyAdd _ | .announcing _ _
  | .unplug _ | .retracting _ _ | .listen _ | .notifyAlldevices _ | .dumping _ _ =>
    isFalse False.elim

instance (m : Muxer T C) (dev : ℕ) : Decidable (m.IdSettled dev) :=
  inferInstanceAs (Decidable (∀ _, _))

instance (cli : C) (m : Muxer T C) (id : ℕ) (pc : Call C) : Decidable (pc.Retracts cli m id) :=
  match pc with
  | .erase dev | .notifyRemove dev =>
      inferInstanceAs (Decidable (m.id dev = id ∧ m.IdSettled dev))
  | .retracting id' todo => inferInstanceAs (Decidable (id' = id ∧ cli ∈ todo))
  | .idle | .lookup _ | .scan _ | .insert _ | .startLoop _ | .notifyAdd _ | .announcing _ _
  | .unplug _ | .listen _ | .notifyAlldevices _ | .dumping _ _ => isFalse False.elim

instance (m : Muxer T C) (cli : C) (dev : ℕ) : Decidable (m.AnnouncementComing cli dev) :=
  inferInstanceAs (Decidable (∃ _, _))

instance (m : Muxer T C) (cli : C) (id : ℕ) : Decidable (m.RetractionComing cli id) :=
  inferInstanceAs (Decidable (∃ _, _))

instance (m : Muxer T C) (id : ℕ) : Decidable (m.Attached id) :=
  inferInstanceAs (Decidable (∃ _ ∈ m.devices, _))

instance (m : Muxer T C) (l : Label T C) : Decidable (m.FreshAdd l) :=
  match l with
  | .call _ (.addDevice _) => inferInstanceAs (Decidable (_ ∧ _))
  | .call _ (.deleteDevice _) | .call _ (.unplugDevice _) | .call _ (.listen _)
  | .run _ _ => isTrue trivial

instance (E : MuxerEnv S C) (m : Muxer T C) (l : Label T C) : Decidable (NoStaleMessage E m l) :=
  match l with
  | .call _ (.addDevice _) => inferInstanceAs (Decidable (_ ∧ _))
  | .call _ (.deleteDevice _) | .call _ (.unplugDevice _) | .call _ (.listen _) => isTrue trivial
  | .run t _ => by
      dsimp only [NoStaleMessage]
      generalize m.thread t = pc
      exact match pc with
        | .startLoop _ => inferInstanceAs (Decidable (_ ∨ _))
        | .unplug location => inferInstanceAs (Decidable (∀ dev ∈ m.deviceAt E location, _))
        | .announcing id (cli :: _) =>
            inferInstanceAs (Decidable
              (m.isListening cli = true → m.Attached id ∨ m.RetractionComing cli id))
        | .retracting id (cli :: _) =>
            inferInstanceAs (Decidable (m.isListening cli = true →
              ∀ dev ∈ m.devices, m.id dev = id → m.AnnouncementComing cli dev))
        | .announcing _ [] | .retracting _ [] | .idle | .lookup _ | .scan _ | .insert _
        | .notifyAdd _ | .erase _ | .notifyRemove _ | .listen _ | .notifyAlldevices _
        | .dumping _ _ => isTrue trivial

end

/-- A client starts listening, and nothing is attached, so that the dump is empty. -/
def listening : List (Label (Fin 2) Unit) :=
  .call 0 (.listen ()) :: List.replicate 3 (.run 0 true)

/-- Device `dev` is added, and the client told, without any other thread in between. -/
def adding (dev : ℕ) : List (Label (Fin 2) Unit) :=
  .call 0 (.addDevice dev) :: List.replicate 6 (.run 0 true)

end Muxer

/-- A client that has been told of two devices and the removal of one. -/
theorem listener_views_agree_one_left :
    ∃ m : Muxer (Fin 2) Unit, (m.view () = {4} ∧ m.devices = [1]) ∧ m.ViewsAgree usbDevices := by
  obtain ⟨m, hr, hp⟩ := (muxerMachine usbDevices).exists_reaches_of_runOk
    (NoStaleMessage usbDevices) (init : Muxer (Fin 2) Unit)
    (listening ++ adding 0 ++ adding 1 ++
      .call 0 (.unplugDevice 0) :: List.replicate 3 (.run 0 true))
    (fun m => m.view () = {4} ∧ m.devices = [1]) (by decide)
  exact ⟨m, of_decide_eq_true hp, listener_views_agree hr⟩

/-- **A listener loses a device**: device `0` is unplugged, its ID is given to device
`1`, and the teardown of device `0` retracts it. -/
theorem teardown_retracts_next_device :
    ∃ m : Muxer (Fin 2) Unit,
      (muxerMachine usbDevices).Reachable init m ∧ ¬m.ViewsAgree usbDevices := by
  obtain ⟨m, hr, hp⟩ := (muxerMachine usbDevices).exists_reaches_of_runOk
    (fun _ _ => True) (init : Muxer (Fin 2) Unit)
    (listening ++ adding 0 ++ .call 0 (.unplugDevice 0) :: List.replicate 3 (.run 0 true) ++
      adding 1 ++ .call 0 (.deleteDevice 0) :: List.replicate 4 (.run 0 true))
    (fun m => (∀ t, (m.thread t).isIdle = true) ∧ m.isListening () = true ∧ m.view () = ∅ ∧
      m.devices = [1]) (by decide)
  obtain ⟨hidle, hl, hview, hdevices⟩ := of_decide_eq_true hp
  refine ⟨m, hr, ?_⟩
  intro hall
  have hagree := hall hidle () (by simp [usbDevices]) hl
  rw [hview, hdevices] at hagree
  exact absurd hagree (by simp)

end Usbmuxd
