/-
No change is lost on its way.

Between a change on the disk and the caches stand a queue and a task. Word of the change is sent
some time after it; the task takes the oldest change together with the navigator that is current
then; and it acts on that navigator some time later. Meanwhile the settings may change and the
navigator with them, so that the task acts on a navigator that nobody uses any more.

That does no harm. A place is *pending* for the current navigator while word of its change has not
been sent, or is in the queue, or was taken together with this very navigator. Every text that is
wrong belongs to a pending place: a new navigator has no texts, and those it reads later are newer
than any change taken before it was made. So once nothing is on its way, nothing is wrong.
-/
import WorkflowNav.Proofs.Coherence
import WorkflowNav.Server.Basic

set_option autoImplicit false

namespace WorkflowNav

/-! ## Where texts come from -/

/-- All texts are of manifests below a root. -/
def TextCache.IsBelow (cache : TextCache) (root : Path) : Prop :=
  ∀ pair ∈ cache.entries, ∃ names, Path.LeadsToManifest names
    ∧ pair.1 = (root.descend names).components

namespace Navigator

theorem isBelow_run {navigator : Navigator} {moment : Moment} {meanwhile : Meanwhile}
    {root : Path} {query : Query} (hwell : moment.disk.WellFormed)
    (h : navigator.texts.IsBelow root) :
    (navigator.run moment meanwhile root query).2.texts.IsBelow root := by
  rcases texts_run navigator moment meanwhile root query with htexts | htexts <;> rw [htexts]
  · exact h
  · refine texts_search_induction hwell (P := fun cache => cache.IsBelow root) ?_ h
    intro cache hcache names bytes text hleads _ _ pair hpair
    rcases TextCache.mem_insert hpair with rfl | hpair
    · exact ⟨names, hleads, rfl⟩
    · exact hcache pair hpair

end Navigator

/-! ## Changes on their way -/

/-- A workspace, the changes on their way to its navigator, and the disk and the time. -/
structure Delivery where
  workspace : Workspace
  moment : Moment
  /-- The navigators before the current one, oldest first. -/
  retired : List Navigator := []
  queue : ChangeQueue := {}
  /-- The change that the task has taken, with the number of the navigator it acts on. The current
  navigator has the number of those before it. -/
  taken : Option (FileChange × Nat) := none
  /-- The places whose manifests changed and of which no word was sent since. -/
  unsent : Place → Prop := fun _ => False

namespace Delivery

/-- A new workspace. -/
def start (settings : Settings) (moment : Moment) : Delivery :=
  { workspace := .ofSettings settings, moment := moment }

/-- Let time go by. -/
def wait (delivery : Delivery) (milliseconds : Nat) : Delivery :=
  { delivery with moment := { delivery.moment with now := delivery.moment.now + milliseconds } }

/-- Change the disk. -/
def change (root : Path) (delivery : Delivery) (disk : Disk) : Delivery :=
  { delivery with
    moment := { delivery.moment with disk := disk }
    unsent := fun names => delivery.unsent names
      ∨ delivery.moment.disk.fileBelow? root names ≠ disk.fileBelow? root names }

/-- Send word of a change. -/
def send (root : Path) (delivery : Delivery) (change : FileChange) : Delivery :=
  { delivery with
    queue := (delivery.queue.send change).1
    unsent := fun names => delivery.unsent names
      ∧ ¬ ((delivery.queue.send change).2 = true
        ∧ change.path.components = (root.descend names).components) }

/-- The task takes the oldest change and the current navigator. -/
def take (delivery : Delivery) (change : FileChange) (rest : ChangeQueue) : Delivery :=
  { delivery with queue := rest, taken := some (change, delivery.retired.length) }

/-- The task acts on the navigator it has taken. -/
def act (delivery : Delivery) (change : FileChange) (number : Nat) : Delivery :=
  if number = delivery.retired.length then
    { delivery with
      taken := none
      workspace := { delivery.workspace with
        navigator := delivery.workspace.navigator.handleChange change } }
  else
    { delivery with
      taken := none
      retired := delivery.retired.modify number (·.handleChange change) }

/-- Take over new settings. A navigator that is replaced is retired. -/
def configure (delivery : Delivery) (settings : Settings) : Delivery :=
  { delivery with
    workspace := delivery.workspace.configure settings
    retired :=
      if delivery.workspace.settings.changesSearch settings then
        delivery.retired ++ [delivery.workspace.navigator]
      else delivery.retired }

/-- Ask the current navigator. The fetches of each batch may take their turns in any order. -/
def ask (root : Path) (delivery : Delivery) (turns : List (List Nat)) (query : Query) : Delivery :=
  { delivery with
    workspace := { delivery.workspace with
      navigator :=
        (delivery.workspace.navigator.run delivery.moment { turns := turns } root query).2 } }

/-- What can happen next. As in a session, a disk has no permissions, so that a change is one of
what stands on it. -/
inductive Step (root : Path) (delivery : Delivery) : Delivery → Prop
  | wait (milliseconds : Nat) : Step root delivery (delivery.wait milliseconds)
  | change (disk : Disk) (h : disk.WellFormed) : Step root delivery (delivery.change root disk)
  | send (change : FileChange) : Step root delivery (delivery.send root change)
  | take (change : FileChange) (rest : ChangeQueue) (hidle : delivery.taken = none)
      (h : delivery.queue.take? = some (change, rest)) :
      Step root delivery (delivery.take change rest)
  | act (change : FileChange) (number : Nat) (h : delivery.taken = some (change, number)) :
      Step root delivery (delivery.act change number)
  | configure (settings : Settings) : Step root delivery (delivery.configure settings)
  | ask (turns : List (List Nat)) (query : Query) :
      Step root delivery (delivery.ask root turns query)

/-- All changes in the queue acted on at once, as a server does. -/
def settle (delivery : Delivery) : Delivery :=
  let server : Server := { workspace := delivery.workspace, queue := delivery.queue }
  { delivery with workspace := server.settle.workspace, queue := server.settle.queue }

theorem act_current (delivery : Delivery) (change : FileChange) :
    delivery.act change delivery.retired.length
      = { delivery with
          taken := none
          workspace := { delivery.workspace with
            navigator := delivery.workspace.navigator.handleChange change } } :=
  if_pos rfl

/-- Left alone, the task works off the queue. -/
theorem steps_settle (root : Path) {delivery : Delivery} (hidle : delivery.taken = none) :
    Relation.ReflTransGen (Step root) delivery delivery.settle := by
  obtain ⟨workspace, moment, retired, ⟨changes, isOpen⟩, taken, unsent⟩ := delivery
  obtain rfl : taken = none := hidle
  induction changes generalizing workspace with
  | nil => exact .refl
  | cons change changes ih =>
    let taking : Delivery :=
      { workspace := workspace, moment := moment, retired := retired
        queue := { changes := changes, isOpen := isOpen }
        taken := some (change, retired.length), unsent := unsent }
    have hact : taking.Step root (taking.act change taking.retired.length) := .act _ _ rfl
    rw [act_current] at hact
    exact .head (.take change { changes := changes, isOpen := isOpen } rfl rfl) (.head hact (ih _))

/-- Word of every change was sent, the queue is empty, and the task is idle. -/
structure Quiet (delivery : Delivery) : Prop where
  sent : ∀ names, Path.LeadsToManifest names → ¬ delivery.unsent names
  queue : delivery.queue.changes = []
  taken : delivery.taken = none

/-! ## Nothing is wrong that is not pending -/

/-- Whether word of a change at a place is still on its way to the current navigator. -/
def Pending (root : Path) (delivery : Delivery) (names : Place) : Prop :=
  delivery.unsent names
    ∨ (∃ change ∈ delivery.queue.changes,
        change.path.components = (root.descend names).components)
    ∨ ∃ change, delivery.taken = some (change, delivery.retired.length)
        ∧ change.path.components = (root.descend names).components

/-- What holds at all times. -/
structure Inv (root : Path) (delivery : Delivery) : Prop where
  settings_eq : delivery.workspace.navigator.settings = delivery.workspace.settings.search
  wellFormed : delivery.moment.disk.WellFormed
  isBelow : delivery.workspace.navigator.texts.IsBelow root
  coherent : delivery.workspace.navigator.CoherentExcept delivery.moment.disk root
    (delivery.Pending root)

variable {root : Path} {delivery next : Delivery}

private theorem Inv.send (h : delivery.Inv root) (change : FileChange) :
    (delivery.send root change).Inv root where
  settings_eq := h.settings_eq
  wellFormed := h.wellFormed
  isBelow := h.isBelow
  coherent := by
    refine h.coherent.mono fun names _ hpending => ?_
    unfold Pending Delivery.send ChangeQueue.send
    rcases hpending with hunsent | ⟨other, hmem, hkey⟩ | htaken
    · by_cases hkey : change.path.components = (root.descend names).components
      · split <;> simp_all
      · exact .inl ⟨hunsent, fun h => hkey h.2⟩
    · refine .inr (.inl ⟨other, ?_, hkey⟩)
      split <;> simp [hmem]
    · exact .inr (.inr htaken)

private theorem Inv.take (h : delivery.Inv root) {change : FileChange} {rest : ChangeQueue}
    (hidle : delivery.taken = none) (hqueue : delivery.queue.take? = some (change, rest)) :
    (delivery.take change rest).Inv root where
  settings_eq := h.settings_eq
  wellFormed := h.wellFormed
  isBelow := h.isBelow
  coherent := by
    have hchanges : delivery.queue.changes = change :: rest.changes := by
      unfold ChangeQueue.take? at hqueue
      split at hqueue
      · exact absurd hqueue (by simp)
      · next first more hmore =>
        obtain ⟨rfl, rfl⟩ := Prod.mk.inj (Option.some.inj hqueue)
        exact hmore
    refine h.coherent.mono fun names _ hpending => ?_
    rcases hpending with hunsent | ⟨other, hmem, hkey⟩ | ⟨other, htaken, -⟩
    · exact .inl hunsent
    · -- the change that is taken stays pending, because it is taken for the current navigator
      rw [hchanges] at hmem
      rcases List.mem_cons.1 hmem with rfl | hmem
      · exact .inr (.inr ⟨other, rfl, hkey⟩)
      · exact .inr (.inl ⟨other, hmem, hkey⟩)
    · rw [hidle] at htaken
      exact absurd htaken (by simp)

private theorem Inv.act (h : delivery.Inv root) {change : FileChange} {number : Nat}
    (htaken : delivery.taken = some (change, number)) : (delivery.act change number).Inv root := by
  unfold Delivery.act
  split
  · -- the current navigator: the place is right from now on
    refine ⟨h.settings_eq, h.wellFormed, ?_, (h.coherent.handleChange change).mono ?_⟩
    · intro pair hpair
      exact h.isBelow pair (Keyed.mem_erase.1 hpair).1
    · rintro names - ⟨hunsent | hqueued | ⟨other, hother, hkey⟩, hne⟩
      · exact .inl hunsent
      · exact .inr (.inl hqueued)
      · rw [htaken] at hother
        obtain ⟨rfl, -⟩ := Prod.mk.inj (Option.some.inj hother)
        exact absurd hkey.symm hne
  · -- a retired one: the change was not pending for the current one
    next hretired =>
    refine ⟨h.settings_eq, h.wellFormed, h.isBelow, h.coherent.mono ?_⟩
    rintro names - (hunsent | hqueued | ⟨other, hother, -⟩)
    · exact .inl hunsent
    · exact .inr (.inl hqueued)
    · rw [htaken] at hother
      exact absurd (Prod.mk.inj (Option.some.inj hother)).2 hretired

private theorem Inv.configure (h : delivery.Inv root) (settings : Settings) :
    (delivery.configure settings).Inv root := by
  unfold Delivery.configure Workspace.configure
  split
  · -- a new navigator keeps nothing, so nothing of it is wrong, whatever is on its way
    refine ⟨rfl, h.wellFormed, ?_, Navigator.coherentExcept_ofSettings _⟩
    exact fun pair hpair => absurd hpair List.not_mem_nil
  · next hsame =>
    refine ⟨?_, h.wellFormed, h.isBelow, h.coherent⟩
    have hsearch : delivery.workspace.settings.search = settings.search := by
      simpa [Settings.changesSearch] using hsame
    exact h.settings_eq.trans hsearch

theorem Inv.step (h : delivery.Inv root) (hstep : delivery.Step root next) : next.Inv root := by
  cases hstep with
  | wait milliseconds => exact ⟨h.settings_eq, h.wellFormed, h.isBelow, h.coherent⟩
  | change disk hwell =>
    refine ⟨h.settings_eq, hwell, h.isBelow, (h.coherent.change h.wellFormed hwell).mono ?_⟩
    rintro names - ((hunsent | hsent) | hchanged)
    · exact .inl (.inl hunsent)
    · exact .inr hsent
    · exact .inl (.inr hchanged)
  | send change => exact h.send change
  | take change rest hidle hqueue => exact h.take hidle hqueue
  | act change number htaken => exact h.act htaken
  | configure settings => exact h.configure settings
  | ask turns query =>
    exact ⟨Navigator.settings_run.trans h.settings_eq, h.wellFormed,
      Navigator.isBelow_run h.wellFormed h.isBelow, h.coherent.run h.wellFormed turns⟩

theorem inv_of_steps {settings : Settings} {moment : Moment} (hwell : moment.disk.WellFormed)
    (hsteps : Relation.ReflTransGen (Step root) (start settings moment) delivery) :
    delivery.Inv root := by
  induction hsteps with
  | refl =>
    exact ⟨rfl, hwell, fun _ hpair => absurd hpair List.not_mem_nil,
      Navigator.coherentExcept_ofSettings _⟩
  | tail _ hstep ih => exact ih.step hstep

theorem Quiet.not_pending (h : delivery.Quiet) {names : Place}
    (hleads : Path.LeadsToManifest names) : ¬ delivery.Pending root names := by
  rintro (hunsent | ⟨change, hmem, -⟩ | ⟨change, htaken, -⟩)
  · exact h.sent names hleads hunsent
  · rw [h.queue] at hmem
    exact List.not_mem_nil hmem
  · rw [h.taken] at htaken
    exact absurd htaken (by simp)

/-- **No change is lost.** When no change is on its way, every text that the current navigator has
is that of a manifest on the disk, and every definition it knows is what a search without caches
finds. -/
theorem caches_right_when_quiet {settings : Settings} {moment : Moment}
    (hwell : moment.disk.WellFormed)
    (hsteps : Relation.ReflTransGen (Step root) (start settings moment) delivery)
    (hquiet : delivery.Quiet) :
    (∀ pair ∈ delivery.workspace.navigator.texts.entries,
      ∃ names, Path.LeadsToManifest names ∧ pair.1 = (root.descend names).components
        ∧ delivery.moment.disk.readText (root.descend names) = .ok pair.2.text)
      ∧ ∀ name locations,
        delivery.workspace.navigator.definitions.lookup? delivery.moment.now name = some locations →
        locations = delivery.moment.disk.uncached delivery.workspace.settings.search root
          (.definition name) := by
  have hinv := inv_of_steps hwell hsteps
  have hfresh : ∀ names, Path.LeadsToManifest names → ¬ delivery.Pending root names :=
    fun names hleads => hquiet.not_pending hleads
  constructor
  · rintro ⟨key, entry⟩ hpair
    obtain ⟨names, hleads, rfl⟩ := hinv.isBelow _ hpair
    refine ⟨names, hleads, rfl, ?_⟩
    exact (hinv.coherent.agreesWith hfresh names hleads).readText hinv.wellFormed hpair
  · intro name locations hlookup
    rw [← hinv.settings_eq]
    exact (hinv.coherent.holds hfresh).of_lookup? hlookup

/-- A change that was taken before the settings changed acts on a retired navigator, and still the
current one knows the new definition. -/
theorem caches_right_when_quiet_after_retirement :
    ∃ delivery, Relation.ReflTransGen (Step .top)
        (start {} { disk := Session.exampleDisk "" }) delivery
      ∧ delivery.Quiet ∧ delivery.retired.length = 1
      ∧ delivery.workspace.navigator.definitions.lookup? delivery.moment.now ['x']
        = some [{ path := Path.top.descend [Session.exampleName], line := 3 }] := by
  let word : FileChange := ⟨Path.top.descend [Session.exampleName], .changed⟩
  let opened := (start {} { disk := Session.exampleDisk "" }).ask .top [] (.definition ['x'])
  let edited := opened.change .top (Session.exampleDisk "# moved\n")
  let taken := (edited.send .top word).take word {}
  let renewed := taken.configure { search := { textSeconds := 5 } }
  let acted := (renewed.ask .top [] (.definition ['x'])).act word 0
  have hsteps : Relation.ReflTransGen (Step .top) (start {} { disk := Session.exampleDisk "" })
      acted :=
    ((((((Relation.ReflTransGen.single (.ask [] _)).tail (.change _
      (Session.wellFormed_exampleDisk _))).tail (.send word)).tail (.take word {} rfl rfl)).tail
      (.configure _)).tail (.ask [] _)).tail (.act word 0 rfl)
  have hquiet : acted.Quiet := by
    refine ⟨?_, rfl, rfl⟩
    rintro names - ⟨h | h, hne⟩
    · exact h
    · rcases Decidable.em (names = [Session.exampleName]) with rfl | hnames
      · exact hne ⟨rfl, rfl⟩
      · exact h (by simp [opened, start, ask, Session.exampleDisk, Disk.fileBelow?_single, hnames])
  refine ⟨acted, hsteps, hquiet, rfl, ?_⟩
  have hknown : acted.workspace.navigator.definitions.lookup? acted.moment.now ['x'] = some _ :=
    Navigator.lookup?_run renewed.workspace.navigator renewed.moment .top ['x']
  rw [hknown, (caches_right_when_quiet (Session.wellFormed_exampleDisk _) hsteps hquiet).2 _ _
    hknown]
  exact congrArg some Session.uncached_exampleDisk

end Delivery

end WorkflowNav
