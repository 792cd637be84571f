/-
Fetches that run while a text is dropped.

Fetching a text is three steps: look for a fresh one, read the file, insert what was read. Dropping
a text is one. A fetch that has read the file but not inserted yet has no trace in the cache, so
that dropping the text does not reach it. If the file changed after it was read, the fetch is a
straggler: it inserts the old text after the new one was announced, and the old text is then served
until its time is up. The cache of definitions is safe from this, because whoever hands in an answer
also hands in the generation it is from; texts have no generation.

This module says exactly when dropping a text takes effect. Every fetch that starts after it gives
what is on the disk if and only if there is no straggler, or if texts are never fresh.
-/
import Mathlib.Logic.Relation
import WorkflowNav.Proofs.Freshness

set_option autoImplicit false

namespace WorkflowNav

/-! ## The steps -/

namespace SharedTexts

/-- Let time go by. -/
def wait (shared : SharedTexts) (milliseconds : Nat) : SharedTexts :=
  { shared with moment := { shared.moment with now := shared.moment.now + milliseconds } }

/-- Change the disk. -/
def edit (shared : SharedTexts) (disk : Disk) : SharedTexts :=
  { shared with moment := { shared.moment with disk := disk } }

/-- Drop the text for a path. -/
def drop (shared : SharedTexts) (path : Path) : SharedTexts :=
  { shared with cache := shared.cache.erase path }

/-- What can happen next. The file that this is about goes by one path: fetches of other paths are
of other files. -/
inductive Step (target : Path) (shared : SharedTexts) : SharedTexts → Prop
  | wait (milliseconds : Nat) : Step target shared (shared.wait milliseconds)
  | edit (disk : Disk) : Step target shared (shared.edit disk)
  | lookUp (id : Nat) (path : Path) (h : shared.fetches id = .idle)
      (hspelled : path.components = target.components → path = target) :
      Step target shared (shared.lookUp id path)
  | read (id : Nat) (path : Path) (h : shared.fetches id = .missed path) :
      Step target shared (shared.read id path)
  | insert (id : Nat) (path : Path) (text : Text) (h : shared.fetches id = .holding path text) :
      Step target shared (shared.insert id path text)
  | drop (path : Path) : Step target shared (shared.drop path)

/-- What can happen next while the file stays as it is. -/
def QuietStep (target : Path) (shared next : SharedTexts) : Prop :=
  shared.Step target next
    ∧ next.moment.disk.readText target = shared.moment.disk.readText target

variable {target path : Path} {shared next : SharedTexts} {id : Nat} {text : Text}

/-- Left alone, the three steps are a fetch from the cache. -/
theorem exists_steps_fetch (hidle : shared.fetches id = .idle)
    (hspelled : path.components = target.components → path = target) :
    ∃ next, Relation.ReflTransGen (QuietStep target) shared next ∧ next.moment = shared.moment
      ∧ next.cache = (shared.cache.fetch shared.moment path).2
      ∧ next.fetches id = .returned path (shared.cache.fetch shared.moment path).1 := by
  have hlookUp : shared.QuietStep target (shared.lookUp id path) :=
    ⟨.lookUp id path hidle hspelled, rfl⟩
  unfold TextCache.fetch TextCache.fetchBeyond
  cases hfresh : shared.cache.fresh? shared.moment.now path with
  | some text =>
    refine ⟨_, .single hlookUp, rfl, rfl, ?_⟩
    rw [lookUp, fetches_move_self, hfresh]
  | none =>
    have hmissed : (shared.lookUp id path).fetches id = .missed path := by
      rw [lookUp, fetches_move_self, hfresh]
    have hread : (shared.lookUp id path).QuietStep target ((shared.lookUp id path).read id path) :=
      ⟨.read id path hmissed, rfl⟩
    cases hdisk : shared.moment.disk.readText path with
    | error error =>
      refine ⟨_, .head hlookUp (.single hread), rfl, rfl, ?_⟩
      rw [read, fetches_move_self]
      simp only [lookUp, move, hdisk]
    | ok text =>
      have hholding : ((shared.lookUp id path).read id path).fetches id = .holding path text := by
        rw [read, fetches_move_self]
        simp only [lookUp, move, hdisk]
      refine ⟨_, .head hlookUp (.head hread (.single ⟨.insert id path text hholding, rfl⟩)), rfl,
        rfl, ?_⟩
      exact fetches_move_self _ _ _

/-! ## Fetches under way -/

/-- A fetch under way of the file is one under its path. -/
def Spelled (target : Path) : Fetch → Prop
  | .missed path | .holding path _ => path.components = target.components → path = target
  | _ => True

/-- What holds at all times. -/
structure Inv (target : Path) (shared : SharedTexts) : Prop where
  spelled : ∀ id, Spelled target (shared.fetches id)
  /-- There is always a fetch that has not started. -/
  idle : ∃ bound, ∀ id, bound ≤ id → shared.fetches id = .idle

theorem Inv.move (h : shared.Inv target) (id : Nat) {fetch : Fetch}
    (hfetch : Spelled target fetch) : (shared.move id fetch).Inv target where
  spelled other := by
    rcases eq_or_ne other id with rfl | hne
    · rw [fetches_move_self]
      exact hfetch
    · rw [fetches_move_of_ne shared hne]
      exact h.spelled other
  idle := by
    obtain ⟨bound, hbound⟩ := h.idle
    refine ⟨max bound (id + 1), fun other hother => ?_⟩
    rw [fetches_move_of_ne shared (by omega)]
    exact hbound other (by omega)

theorem Inv.step (h : shared.Inv target) (hstep : shared.Step target next) : next.Inv target := by
  cases hstep with
  | wait milliseconds => exact ⟨h.spelled, h.idle⟩
  | edit disk => exact ⟨h.spelled, h.idle⟩
  | lookUp id path hidle hspelled =>
    refine h.move id ?_
    split
    · trivial
    · exact hspelled
  | read id path hmissed =>
    have hspelled := h.spelled id
    rw [hmissed] at hspelled
    refine h.move id ?_
    split
    · exact hspelled
    · trivial
  | insert id path text hholding =>
    have hmoved : (shared.move id (.returned path (.ok text))).Inv target := h.move id trivial
    exact ⟨hmoved.spelled, hmoved.idle⟩
  | drop path => exact ⟨h.spelled, h.idle⟩

theorem inv_of_steps {cache : TextCache} {moment : Moment}
    (hsteps : Relation.ReflTransGen (Step target) { cache := cache, moment := moment } shared) :
    shared.Inv target := by
  induction hsteps with
  | refl => exact ⟨fun _ => trivial, 0, fun _ _ => rfl⟩
  | tail _ hstep ih => exact ih.step hstep

/-! ## What is served from now on -/

/-- A fetch holds a text of the file that is no longer the one on the disk. -/
def Straggling (target : Path) (shared : SharedTexts) : Prop :=
  ∃ id text, shared.fetches id = .holding target text
    ∧ shared.moment.disk.readText target ≠ .ok text

/-- Every fetch of the file that starts from now on gives what is on the disk, as long as the file
stays as it is. -/
def FreshFrom (target : Path) (shared : SharedTexts) : Prop :=
  ∀ next, Relation.ReflTransGen (QuietStep target) shared next →
    ∀ id outcome, shared.fetches id = .idle → next.fetches id = .returned target outcome →
      outcome = next.moment.disk.readText target

/-- What holds of a fetch that started late. -/
def LateRight (target : Path) (disk : Disk) : Fetch → Prop
  | .holding path text => path = target → disk.readText target = .ok text
  | .returned path outcome => path = target → outcome = disk.readText target
  | _ => True

/-- Texts of the file are right, in the cache and with the fetches that hold one. -/
structure TextsRight (target : Path) (shared : SharedTexts) : Prop where
  cached : ∀ entry, (target.components, entry) ∈ shared.cache.entries →
    shared.moment.disk.readText target = .ok entry.text
  held : ∀ id text, shared.fetches id = .holding target text →
    shared.moment.disk.readText target = .ok text

/-- No wrong text of the file can be served, and the late fetches are right. -/
structure Settled (target : Path) (late : Nat → Prop) (shared : SharedTexts) : Prop where
  inv : shared.Inv target
  texts : shared.cache.timeout = 0 ∨ shared.TextsRight target
  fetches : ∀ id, late id → LateRight target shared.moment.disk (shared.fetches id)

variable {late : Nat → Prop}

theorem LateRight.of_readText {fetch : Fetch} {disk other : Disk}
    (h : LateRight target disk fetch) (hsame : other.readText target = disk.readText target) :
    LateRight target other fetch := by
  cases fetch with
  | holding path text =>
    rw [LateRight, hsame]
    exact h
  | returned path outcome =>
    rw [LateRight, hsame]
    exact h
  | _ => trivial

/-- Moving a fetch on keeps texts right, if it holds a right one afterwards. -/
theorem TextsRight.move (h : shared.TextsRight target) (id : Nat) {fetch : Fetch}
    (hfetch : ∀ text, fetch = .holding target text →
      shared.moment.disk.readText target = .ok text) :
    (shared.move id fetch).TextsRight target where
  cached := h.cached
  held other text hother := by
    rcases eq_or_ne other id with rfl | hne
    · rw [fetches_move_self] at hother
      exact hfetch text hother
    · rw [fetches_move_of_ne shared hne] at hother
      exact h.held other text hother

theorem Settled.move (h : shared.Settled target late) (id : Nat) {fetch : Fetch}
    (hspelled : Spelled target fetch)
    (hheld : ∀ text, fetch = .holding target text → shared.moment.disk.readText target = .ok text)
    (hlate : late id → LateRight target shared.moment.disk fetch) :
    (shared.move id fetch).Settled target late where
  inv := h.inv.move id hspelled
  texts := h.texts.imp_right fun htexts => htexts.move id hheld
  fetches other hother := by
    rcases eq_or_ne other id with rfl | hne
    · rw [fetches_move_self]
      exact hlate hother
    · rw [fetches_move_of_ne shared hne]
      exact h.fetches other hother

/-- What is fresh for the file is what is on the disk. -/
theorem Settled.fresh?_eq (h : shared.Settled target late)
    (hfresh : shared.cache.fresh? shared.moment.now target = some text) :
    .ok text = shared.moment.disk.readText target := by
  rcases h.texts with htimeout | htexts
  · rw [TextCache.fresh?_of_timeout htimeout] at hfresh
    exact absurd hfresh (by simp)
  · obtain ⟨entry, hmem, rfl⟩ := TextCache.mem_of_fresh? hfresh
    exact (htexts.cached entry hmem).symm

/-- A text that is inserted is one that was held, and those are right. -/
theorem TextsRight.insert (h : shared.TextsRight target) (hinv : shared.Inv target)
    (hholding : shared.fetches id = .holding path text) :
    (shared.insert id path text).TextsRight target where
  cached entry hmem := by
    have hspelled := hinv.spelled id
    rw [hholding] at hspelled
    rcases TextCache.mem_insert hmem with hnew | hold
    · -- under the key of the file stands only what was read under its path
      obtain ⟨hkey, rfl⟩ := Prod.mk.inj hnew
      obtain rfl : path = target := hspelled hkey.symm
      exact h.held id text hholding
    · exact h.cached entry hold
  held := (h.move id fun other hother => absurd hother (by simp)).held

theorem Settled.insert (h : shared.Settled target late)
    (hholding : shared.fetches id = .holding path text) :
    (shared.insert id path text).Settled target late := by
  have hlate := h.fetches id
  rw [hholding] at hlate
  have hmoved : (shared.move id (.returned path (.ok text))).Settled target late :=
    h.move id trivial (fun other hother => absurd hother (by simp)) fun hid hpath =>
      (hlate hid hpath).symm
  refine ⟨⟨hmoved.inv.spelled, hmoved.inv.idle⟩, ?_, hmoved.fetches⟩
  refine h.texts.imp (fun htimeout => ?_) fun htexts => htexts.insert h.inv hholding
  rw [SharedTexts.insert, TextCache.timeout_insert, htimeout]

theorem Settled.read (h : shared.Settled target late)
    (hmissed : shared.fetches id = .missed path) : (shared.read id path).Settled target late := by
  have hspelled := h.inv.spelled id
  rw [hmissed] at hspelled
  unfold SharedTexts.read
  cases hdisk : shared.moment.disk.readText path with
  | ok text =>
    refine h.move id hspelled (fun other hother => ?_) fun _ hpath => ?_
    · obtain ⟨rfl, rfl⟩ := Fetch.holding.inj hother
      exact hdisk
    · rw [← hpath]
      exact hdisk
  | error error =>
    refine h.move id trivial (fun other hother => absurd hother (by simp)) fun _ hpath => ?_
    rw [← hpath]
    exact hdisk.symm

theorem Settled.lookUp (h : shared.Settled target late)
    (hspelled : path.components = target.components → path = target) :
    (shared.lookUp id path).Settled target late := by
  unfold SharedTexts.lookUp
  cases hfresh : shared.cache.fresh? shared.moment.now path with
  | some text =>
    refine h.move id trivial (fun other hother => absurd hother (by simp)) fun _ hpath => ?_
    rw [hpath] at hfresh
    exact h.fresh?_eq hfresh
  | none => exact h.move id hspelled (fun other hother => absurd hother (by simp)) fun _ => trivial

theorem Settled.step (h : shared.Settled target late) (hstep : shared.QuietStep target next) :
    next.Settled target late := by
  obtain ⟨hstep, hquiet⟩ := hstep
  cases hstep with
  | wait milliseconds =>
    exact ⟨⟨h.inv.spelled, h.inv.idle⟩,
      h.texts.imp_right fun htexts => ⟨htexts.cached, htexts.held⟩, h.fetches⟩
  | edit disk =>
    -- other files may change, the one in question stays as it is
    refine ⟨⟨h.inv.spelled, h.inv.idle⟩, h.texts.imp_right fun htexts => ?_, fun id hid => ?_⟩
    · exact ⟨fun entry hmem => hquiet.trans (htexts.cached entry hmem),
        fun id text hheld => hquiet.trans (htexts.held id text hheld)⟩
    · exact (h.fetches id hid).of_readText hquiet
  | lookUp id path hidle hspelled => exact h.lookUp hspelled
  | read id path hmissed => exact h.read hmissed
  | insert id path text hholding => exact h.insert hholding
  | drop path =>
    refine ⟨⟨h.inv.spelled, h.inv.idle⟩, h.texts.imp_right fun htexts => ?_, h.fetches⟩
    exact ⟨fun entry hmem => htexts.cached entry (Keyed.mem_erase.1 hmem).1, htexts.held⟩

theorem Settled.steps (h : shared.Settled target late)
    (hsteps : Relation.ReflTransGen (QuietStep target) shared next) :
    next.Settled target late := by
  induction hsteps with
  | refl => exact h
  | tail _ hstep ih => exact ih.step hstep

/-- Once the text was dropped, only a straggler can bring a wrong one. -/
theorem settled_drop (hinv : shared.Inv target)
    (h : shared.cache.timeout = 0 ∨ ¬ shared.Straggling target) :
    (shared.drop target).Settled target fun id => shared.fetches id = .idle where
  inv := ⟨hinv.spelled, hinv.idle⟩
  texts := h.imp_right fun hnone => by
    refine ⟨fun entry hmem => absurd rfl (Keyed.mem_erase.1 hmem).2, fun id text hheld => ?_⟩
    by_contra hwrong
    exact hnone ⟨id, text, hheld, hwrong⟩
  fetches id hid := by
    have hidle : (shared.drop target).fetches id = .idle := hid
    rw [hidle]
    trivial

/-- A straggler's text will be served, if any text ever is: the straggler inserts it, and the next
fetch finds it fresh. -/
theorem not_freshFrom_of_straggling (hinv : shared.Inv target) (htimeout : 0 < shared.cache.timeout)
    (h : shared.Straggling target) : ¬ shared.FreshFrom target := by
  obtain ⟨id, text, hholding, hwrong⟩ := h
  intro hfresh
  let inserted := shared.insert id target text
  -- a fetch that has not started yet, and is not the straggler
  obtain ⟨bound, hbound⟩ := hinv.idle
  let late := max bound (id + 1)
  have hidle : shared.fetches late = .idle := hbound late (Nat.le_max_left _ _)
  have hstill : inserted.fetches late = .idle :=
    (fetches_move_of_ne shared (by omega) _).trans hidle
  have hserved : (inserted.lookUp late target).fetches late = .returned target (.ok text) := by
    rw [lookUp, fetches_move_self]
    simp only [inserted, insert, move, TextCache.fresh?_insert_self htimeout]
  have hinsert : shared.QuietStep target inserted := ⟨.insert id target text hholding, rfl⟩
  have hlookUp : inserted.QuietStep target (inserted.lookUp late target) :=
    ⟨.lookUp late target hstill fun _ => rfl, rfl⟩
  have hright := hfresh _ (.head hinsert (.single hlookUp)) late _ hidle hserved
  exact hwrong hright.symm

/-- **When dropping a text takes effect.** Whatever was fetched, written and dropped before, every
fetch of the file that starts after its text was dropped gives what is on the disk if and only if no
fetch straggles, or no text is ever fresh. -/
theorem freshFrom_drop_iff {cache : TextCache} {moment : Moment}
    (hsteps : Relation.ReflTransGen (Step target) { cache := cache, moment := moment } shared) :
    (shared.drop target).FreshFrom target
      ↔ shared.cache.timeout = 0 ∨ ¬ shared.Straggling target := by
  have hinv := inv_of_steps hsteps
  constructor
  · intro hfresh
    by_contra hcontra
    rw [not_or, not_not] at hcontra
    have hdropped : (shared.drop target).Inv target := ⟨hinv.spelled, hinv.idle⟩
    have hstraggling : (shared.drop target).Straggling target := hcontra.2
    exact not_freshFrom_of_straggling hdropped (Nat.pos_of_ne_zero hcontra.1) hstraggling hfresh
  · intro hsettled next hquiet id outcome hidle hreturned
    have hright := ((settled_drop hinv hsettled).steps hquiet).fetches id hidle
    rw [hreturned] at hright
    exact hright rfl

/-! A manifest changes while its text is fetched. -/

open Session (exampleText exampleDisk)
open Race (examplePath)

/-- Nothing was fetched yet. -/
def exampleStart : SharedTexts :=
  { cache := { timeout := 30000, threshold := 100 }, moment := { disk := exampleDisk "" } }

/-- A fetch has found no fresh text. -/
def exampleMissed : SharedTexts := exampleStart.move 0 (.missed examplePath)

private theorem steps_exampleMissed :
    Relation.ReflTransGen (Step examplePath) exampleStart exampleMissed :=
  .single (.lookUp 0 examplePath rfl fun _ => rfl)

/-- If the manifest changes before the fetch reads it, dropping its text takes effect. -/
theorem freshFrom_drop_iff_unread :
    Relation.ReflTransGen (Step examplePath) exampleStart
        (exampleMissed.edit (exampleDisk "# moved\n"))
      ∧ ((exampleMissed.edit (exampleDisk "# moved\n")).drop examplePath).FreshFrom
        examplePath := by
  have hsteps := steps_exampleMissed.tail (.edit (exampleDisk "# moved\n"))
  refine ⟨hsteps, (freshFrom_drop_iff hsteps).2 (.inr ?_)⟩
  rintro ⟨id, text, hholding, -⟩
  have hfetch : exampleMissed.fetches id = .holding examplePath text := hholding
  rw [exampleMissed] at hfetch
  rcases eq_or_ne id 0 with rfl | hne
  · rw [fetches_move_self] at hfetch
    exact absurd hfetch (by simp)
  · rw [fetches_move_of_ne _ hne] at hfetch
    exact absurd hfetch (by simp [exampleStart])

/-- The fetch has read the manifest, and the manifest has changed since. -/
def exampleStraggler : SharedTexts :=
  (exampleMissed.read 0 examplePath).edit (exampleDisk "# moved\n")

/-- If the manifest changes after the fetch has read it, dropping its text does not take effect. -/
theorem not_freshFrom_drop_straggler :
    Relation.ReflTransGen (Step examplePath) exampleStart exampleStraggler
      ∧ ¬ (exampleStraggler.drop examplePath).FreshFrom examplePath := by
  have hmissed : exampleMissed.fetches 0 = .missed examplePath := fetches_move_self _ _ _
  have hsteps : Relation.ReflTransGen (Step examplePath) exampleStart exampleStraggler :=
    (steps_exampleMissed.tail (.read 0 examplePath hmissed)).tail (.edit _)
  have hold : (exampleDisk "").readText examplePath = .ok (exampleText "") :=
    Session.readText_exampleDisk (by decide)
  have hnew : (exampleDisk "# moved\n").readText examplePath = .ok (exampleText "# moved\n") :=
    Session.readText_exampleDisk (by decide)
  have hholding : exampleStraggler.fetches 0 = .holding examplePath (exampleText "") := by
    have hread : (exampleMissed.read 0 examplePath).fetches 0
        = .holding examplePath (exampleText "") := by
      rw [read, fetches_move_self]
      simp only [exampleMissed, move, exampleStart, hold]
    exact hread
  have hdisk : (exampleStraggler.drop examplePath).moment.disk = exampleDisk "# moved\n" := rfl
  have hstraggling : (exampleStraggler.drop examplePath).Straggling examplePath := by
    refine ⟨0, exampleText "", hholding, ?_⟩
    rw [hdisk, hnew]
    intro heq
    exact absurd (Except.ok.inj heq) (by decide)
  have hinv : (exampleStraggler.drop examplePath).Inv examplePath := by
    have hinv := inv_of_steps hsteps
    exact ⟨hinv.spelled, hinv.idle⟩
  have htimeout : (exampleStraggler.drop examplePath).cache.timeout = 30000 := rfl
  refine ⟨hsteps, not_freshFrom_of_straggling hinv ?_ hstraggling⟩
  rw [htimeout]
  decide

end SharedTexts

end WorkflowNav
