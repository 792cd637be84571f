/-
Writers and invalidations that share the cache of definitions.

A writer notes the generation, searches, and later hands in its answer: it takes the lock, compares
the generation, inserts, and releases the lock. An invalidation first opens a new generation, which
needs no lock, and then takes the lock, drops the snapshot and releases the lock. All these steps
may alternate with those of any number of others, so that a generation may end between the
comparison and the insertion of a writer.

Such an answer is kept, although it is out of date. But the invalidation that came in between cannot
have the lock before the writer releases it, and will then drop the answer. So an answer can be out
of date only for invalidations that have not dropped the snapshot yet (`Inv.answers`). This is why
the order of the two steps of an invalidation matters.

Invalidations are counted here in the order in which they open their generations. An answer is older
than an invalidation if its writer noted the generation before the invalidation opened its own,
which is to say that it had seen fewer of them.
-/
import Mathlib.Logic.Function.Basic
import Mathlib.Logic.Relation
import WorkflowNav.Proofs.Cache

set_option autoImplicit false

namespace WorkflowNav

/-! ## The protocol -/

/-- Who can hold the lock. -/
inductive Task where
  | writer (id : Nat)
  | invalidation (id : Nat)
  deriving DecidableEq

/-- Where a writer stands. `seen` is how many generations had been opened when it noted the
generation. -/
inductive Writer where
  | idle
  | noted (generation seen : Nat)
  /-- It has the lock. -/
  | locked (generation seen : Nat) (name : Text) (locations : List Location)
  /-- It has the lock, and its generation was the current one. -/
  | passed (seen : Nat) (name : Text) (locations : List Location)
  /-- It has inserted its answer. -/
  | recorded (seen : Nat) (name : Text) (locations : List Location)
  /-- Its generation was not the current one. -/
  | rejected

/-- Where an invalidation stands. `number` is its number in the order in which generations are
opened. -/
inductive Invalidation where
  | idle
  /-- It has opened a generation. -/
  | advanced (number : Nat)
  /-- It has the lock. -/
  | locked (number : Nat)
  /-- It has the lock and has dropped the snapshot. -/
  | dropped (number : Nat)
  /-- It has released the lock. -/
  | returned (number : Nat)

/-- A cache of definitions that is shared. -/
structure SharedCache where
  cache : DefinitionCache
  now : Nat := 0
  lock : Option Task := none
  writers : Nat → Writer := fun _ => .idle
  invalidations : Nat → Invalidation := fun _ => .idle
  /-- How many generations were opened. -/
  opened : Nat := 0
  /-- Who has inserted the answer for a name. -/
  author : Text → Option Nat := fun _ => none

namespace SharedCache

/-- An empty cache. -/
def start (timeout : Nat) : SharedCache := { cache := { timeout := timeout } }

/-- Let time go by. -/
def wait (shared : SharedCache) (milliseconds : Nat) : SharedCache :=
  { shared with now := shared.now + milliseconds }

/-- Take a writer to its next state. -/
def write (shared : SharedCache) (id : Nat) (writer : Writer) : SharedCache :=
  { shared with writers := Function.update shared.writers id writer }

/-- Take an invalidation to its next state. -/
def invalidate (shared : SharedCache) (id : Nat) (invalidation : Invalidation) : SharedCache :=
  { shared with invalidations := Function.update shared.invalidations id invalidation }

/-- Give the lock to a task, or take it back. -/
def lockTo (shared : SharedCache) (task : Option Task) : SharedCache := { shared with lock := task }

/-- A writer inserts its answer. -/
def insert (shared : SharedCache) (id : Nat) (name : Text) (locations : List Location) :
    SharedCache :=
  { shared with
    cache := shared.cache.keep shared.now name locations
    author := Function.update shared.author name (some id) }

/-- An invalidation opens a generation. -/
def advance (shared : SharedCache) : SharedCache :=
  { shared with cache := shared.cache.advance, opened := shared.opened + 1 }

/-- An invalidation drops the snapshot. -/
def drop (shared : SharedCache) : SharedCache := { shared with cache := shared.cache.drop }

/-- What can happen next. -/
inductive Step (shared : SharedCache) : SharedCache → Prop
  | wait (milliseconds : Nat) : Step shared (shared.wait milliseconds)
  | note (id : Nat) (h : shared.writers id = .idle) :
      Step shared (shared.write id (.noted shared.cache.generation shared.opened))
  | lockWriter (id generation seen : Nat) (name : Text) (locations : List Location)
      (h : shared.writers id = .noted generation seen) (hfree : shared.lock = none) :
      Step shared ((shared.lockTo (some (.writer id))).write id
        (.locked generation seen name locations))
  | pass (id generation seen : Nat) (name : Text) (locations : List Location)
      (h : shared.writers id = .locked generation seen name locations)
      (hsame : shared.cache.generation = generation) :
      Step shared (shared.write id (.passed seen name locations))
  | reject (id generation seen : Nat) (name : Text) (locations : List Location)
      (h : shared.writers id = .locked generation seen name locations)
      (hother : shared.cache.generation ≠ generation) :
      Step shared (shared.write id .rejected)
  | insert (id seen : Nat) (name : Text) (locations : List Location)
      (h : shared.writers id = .passed seen name locations) :
      Step shared ((shared.insert id name locations).write id (.recorded seen name locations))
  | unlockWriter (id : Nat) (hheld : shared.lock = some (.writer id))
      (h : shared.writers id = .rejected
        ∨ ∃ seen name locations, shared.writers id = .recorded seen name locations) :
      Step shared (shared.lockTo none)
  | advance (id : Nat) (h : shared.invalidations id = .idle) :
      Step shared (shared.advance.invalidate id (.advanced (shared.opened + 1)))
  | lockInvalidation (id number : Nat) (h : shared.invalidations id = .advanced number)
      (hfree : shared.lock = none) :
      Step shared ((shared.lockTo (some (.invalidation id))).invalidate id (.locked number))
  | drop (id number : Nat) (h : shared.invalidations id = .locked number) :
      Step shared (shared.drop.invalidate id (.dropped number))
  | unlockInvalidation (id number : Nat) (h : shared.invalidations id = .dropped number) :
      Step shared ((shared.lockTo none).invalidate id (.returned number))

/-! Left alone, the steps of a writer record its answer, and those of an invalidation invalidate. -/

theorem exists_steps_record {shared : SharedCache} (hfree : shared.lock = none)
    {id generation seen : Nat} (hnoted : shared.writers id = .noted generation seen) (name : Text)
    (locations : List Location) :
    ∃ next, Relation.ReflTransGen Step shared next ∧ next.lock = none
      ∧ next.cache = shared.cache.record shared.now generation name locations := by
  have hlock := Step.lockWriter id generation seen name locations hnoted hfree
  by_cases hsame : shared.cache.generation = generation
  · have hpass := (Relation.ReflTransGen.single hlock).tail
      (.pass id generation seen name locations (Function.update_self _ _ _) hsame)
    have hinsert := hpass.tail (.insert id seen name locations (Function.update_self _ _ _))
    refine ⟨_, hinsert.tail (.unlockWriter id rfl
      (.inr ⟨seen, name, locations, Function.update_self _ _ _⟩)), rfl, ?_⟩
    rw [DefinitionCache.record, if_neg (not_not.2 hsame)]
    rfl
  · have hreject := (Relation.ReflTransGen.single hlock).tail
      (.reject id generation seen name locations (Function.update_self _ _ _) hsame)
    refine ⟨_, hreject.tail (.unlockWriter id rfl (.inl (Function.update_self _ _ _))), rfl, ?_⟩
    rw [DefinitionCache.record, if_pos hsame]
    rfl

theorem exists_steps_invalidate {shared : SharedCache} (hfree : shared.lock = none) {id : Nat}
    (hidle : shared.invalidations id = .idle) :
    ∃ next number, Relation.ReflTransGen Step shared next ∧ next.lock = none
      ∧ next.invalidations id = .returned number ∧ next.cache = shared.cache.invalidate := by
  have hadvance := Relation.ReflTransGen.single (Step.advance id hidle)
  have hlock := hadvance.tail (.lockInvalidation id _ (Function.update_self _ _ _) hfree)
  have hdrop := hlock.tail (.drop id _ (Function.update_self _ _ _))
  exact ⟨_, _, hdrop.tail (.unlockInvalidation id _ (Function.update_self _ _ _)), rfl,
    Function.update_self _ _ _, rfl⟩

/-! ## What holds at all times -/

open DefinitionCache (generationLimit)

/-- What holds of a writer. -/
def WriterRight (shared : SharedCache) (id : Nat) : Writer → Prop
  | .noted generation seen => generation = seen % generationLimit ∧ seen ≤ shared.opened
  | .locked generation seen _ _ =>
    (generation = seen % generationLimit ∧ seen ≤ shared.opened)
      ∧ shared.lock = some (.writer id)
  | .passed seen _ _ =>
    shared.lock = some (.writer id)
      ∧ ∀ other number, shared.invalidations other = .returned number → number ≤ seen
  | _ => True

/-- What holds of an invalidation. -/
def InvalidationRight (shared : SharedCache) (id : Nat) : Invalidation → Prop
  | .idle => True
  | .advanced number | .returned number => number ≤ shared.opened
  | .locked number | .dropped number =>
    number ≤ shared.opened ∧ shared.lock = some (.invalidation id)

/-- An invalidation has dropped the snapshot. -/
def HasDropped (shared : SharedCache) (id number : Nat) : Prop :=
  shared.invalidations id = .dropped number ∨ shared.invalidations id = .returned number

/-- An answer was inserted by a writer that had seen every invalidation that has dropped the
snapshot since. -/
def Recorded (shared : SharedCache) (name : Text) (locations : List Location) : Prop :=
  ∃ writer seen, shared.author name = some writer
    ∧ shared.writers writer = .recorded seen name locations
    ∧ ∀ id number, shared.HasDropped id number → number ≤ seen

/-- What holds at all times. -/
structure Inv (shared : SharedCache) : Prop where
  generation_eq : shared.cache.generation = shared.opened % generationLimit
  writers : ∀ id, shared.WriterRight id (shared.writers id)
  invalidations : ∀ id, shared.InvalidationRight id (shared.invalidations id)
  answers : shared.cache.Holds shared.Recorded

variable {shared next : SharedCache} {id : Nat} {name : Text} {locations : List Location}

theorem WriterRight.of_eq {writer : Writer} (h : shared.WriterRight id writer)
    (hopened : shared.opened ≤ next.opened)
    (hlock : shared.lock = some (.writer id) → next.lock = some (.writer id)
      ∧ ∀ other number, next.invalidations other = .returned number →
        shared.invalidations other = .returned number) : next.WriterRight id writer := by
  cases writer with
  | noted generation seen => exact ⟨h.1, Nat.le_trans h.2 hopened⟩
  | locked generation seen name locations =>
    exact ⟨⟨h.1.1, Nat.le_trans h.1.2 hopened⟩, (hlock h.2).1⟩
  | passed seen name locations =>
    obtain ⟨hheld, hreturned⟩ := h
    obtain ⟨hnext, hsame⟩ := hlock hheld
    exact ⟨hnext, fun other number hother => hreturned other number (hsame other number hother)⟩
  | _ => trivial

theorem InvalidationRight.of_eq {invalidation : Invalidation}
    (h : shared.InvalidationRight id invalidation) (hopened : shared.opened ≤ next.opened)
    (hlock : shared.lock = some (.invalidation id) → next.lock = some (.invalidation id)) :
    next.InvalidationRight id invalidation := by
  cases invalidation with
  | idle => trivial
  | advanced number => exact Nat.le_trans h hopened
  | returned number => exact Nat.le_trans h hopened
  | locked number => exact ⟨Nat.le_trans h.1 hopened, hlock h.2⟩
  | dropped number => exact ⟨Nat.le_trans h.1 hopened, hlock h.2⟩

theorem Recorded.of_eq (h : shared.Recorded name locations)
    (hauthor : next.author name = shared.author name)
    (hwriters : ∀ id seen, shared.writers id = .recorded seen name locations →
      next.writers id = .recorded seen name locations)
    (hdropped : ∀ id number, next.HasDropped id number → shared.HasDropped id number) :
    next.Recorded name locations := by
  obtain ⟨writer, seen, hwriter, hrecorded, hseen⟩ := h
  exact ⟨writer, seen, hauthor.trans hwriter, hwriters writer seen hrecorded,
    fun id number hnext => hseen id number (hdropped id number hnext)⟩

theorem writers_write_self (shared : SharedCache) (id : Nat) (writer : Writer) :
    (shared.write id writer).writers id = writer := Function.update_self _ _ _

theorem writers_write_of_ne (shared : SharedCache) {other : Nat} (h : other ≠ id)
    (writer : Writer) : (shared.write id writer).writers other = shared.writers other :=
  Function.update_of_ne h _ _

theorem invalidations_invalidate_self (shared : SharedCache) (id : Nat)
    (invalidation : Invalidation) :
    (shared.invalidate id invalidation).invalidations id = invalidation :=
  Function.update_self _ _ _

theorem invalidations_invalidate_of_ne (shared : SharedCache) {other : Nat} (h : other ≠ id)
    (invalidation : Invalidation) :
    (shared.invalidate id invalidation).invalidations other = shared.invalidations other :=
  Function.update_of_ne h _ _

/-- A writer that has not inserted anything may move on. -/
theorem Inv.write (h : shared.Inv) {writer : Writer} (hwriter : shared.WriterRight id writer)
    (hold : ∀ seen name locations, shared.writers id ≠ .recorded seen name locations) :
    (shared.write id writer).Inv where
  generation_eq := h.generation_eq
  writers other := by
    have hother : shared.WriterRight other ((shared.write id writer).writers other) := by
      rcases eq_or_ne other id with rfl | hne
      · rw [writers_write_self]
        exact hwriter
      · rw [writers_write_of_ne shared hne]
        exact h.writers other
    exact hother.of_eq (Nat.le_refl _) fun hlock => ⟨hlock, fun _ _ h => h⟩
  invalidations other := (h.invalidations other).of_eq (Nat.le_refl _) fun hlock => hlock
  answers := h.answers.mono fun name locations hrecorded =>
    hrecorded.of_eq rfl (fun other seen hother => by
      have hne : other ≠ id := by
        rintro rfl
        exact hold seen name locations hother
      rw [writers_write_of_ne shared hne]
      exact hother) fun _ _ h => h

/-- An invalidation may move on. It returns only while no writer has the lock, and it counts as
having dropped the snapshot only if it has. -/
theorem Inv.invalidate (h : shared.Inv) {invalidation : Invalidation}
    (hright : shared.InvalidationRight id invalidation)
    (hreturned : ∀ writer number, shared.lock = some (.writer writer) →
      invalidation ≠ .returned number)
    (hdropped : shared.cache.snapshot = none
      ∨ ∀ number, invalidation = .dropped number ∨ invalidation = .returned number →
        shared.HasDropped id number) :
    (shared.invalidate id invalidation).Inv where
  generation_eq := h.generation_eq
  writers other := by
    refine (h.writers other).of_eq (Nat.le_refl _) fun hlock => ⟨hlock, fun task number htask => ?_⟩
    rcases eq_or_ne task id with rfl | hne
    · rw [invalidations_invalidate_self] at htask
      exact absurd htask (hreturned other number hlock)
    · rw [invalidations_invalidate_of_ne shared hne] at htask
      exact htask
  invalidations other := by
    have hother : shared.InvalidationRight other
        ((shared.invalidate id invalidation).invalidations other) := by
      rcases eq_or_ne other id with rfl | hne
      · rw [invalidations_invalidate_self]
        exact hright
      · rw [invalidations_invalidate_of_ne shared hne]
        exact h.invalidations other
    exact hother.of_eq (Nat.le_refl _) fun hlock => hlock
  answers := by
    rcases hdropped with hnone | hdropped
    · exact DefinitionCache.holds_of_snapshot hnone
    · refine h.answers.mono fun name locations hrecorded => hrecorded.of_eq rfl (fun _ _ h => h) ?_
      intro other number hother
      unfold HasDropped at hother
      rcases eq_or_ne other id with rfl | hne
      · rw [invalidations_invalidate_self] at hother
        exact hdropped number hother
      · rw [invalidations_invalidate_of_ne shared hne] at hother
        exact hother

/-- The lock may go from one task to another if the first is done with it. -/
theorem Inv.lockTo (h : shared.Inv) (task : Option Task)
    (hwriter : ∀ id, shared.lock = some (.writer id) →
      (shared.lockTo task).WriterRight id (shared.writers id))
    (hinvalidation : ∀ id, shared.lock = some (.invalidation id) →
      (shared.lockTo task).InvalidationRight id (shared.invalidations id)) :
    (shared.lockTo task).Inv where
  generation_eq := h.generation_eq
  writers id := by
    by_cases hlock : shared.lock = some (.writer id)
    · exact hwriter id hlock
    · exact (h.writers id).of_eq (Nat.le_refl _) fun h => absurd h hlock
  invalidations id := by
    by_cases hlock : shared.lock = some (.invalidation id)
    · exact hinvalidation id hlock
    · exact (h.invalidations id).of_eq (Nat.le_refl _) fun h => absurd h hlock
  answers := h.answers

theorem Inv.lockTo_of_free (h : shared.Inv) (hfree : shared.lock = none) (task : Option Task) :
    (shared.lockTo task).Inv := by
  refine h.lockTo task ?_ ?_ <;>
  · intro id hlock
    rw [hfree] at hlock
    exact absurd hlock (by simp)

/-- An answer may be inserted by a writer that has seen every invalidation that has dropped the
snapshot. -/
theorem Inv.insert (h : shared.Inv) {seen : Nat}
    (hrecorded : shared.writers id = .recorded seen name locations)
    (hseen : ∀ other number, shared.HasDropped other number → number ≤ seen) :
    (shared.insert id name locations).Inv where
  generation_eq := h.generation_eq
  writers other := (h.writers other).of_eq (Nat.le_refl _) fun hlock => ⟨hlock, fun _ _ h => h⟩
  invalidations other := (h.invalidations other).of_eq (Nat.le_refl _) fun hlock => hlock
  answers := by
    refine DefinitionCache.Holds.keep (h.answers.mono fun other found hother hne => ?_) ?_
    · refine hother.of_eq ?_ (fun _ _ h => h) fun _ _ h => h
      exact Function.update_of_ne hne _ _
    · exact ⟨id, seen, Function.update_self _ _ _, hrecorded, hseen⟩

theorem Inv.advance (h : shared.Inv) : shared.advance.Inv where
  generation_eq := by
    rw [SharedCache.advance, DefinitionCache.advance, h.generation_eq]
    exact Nat.mod_add_mod _ _ _
  writers id := (h.writers id).of_eq (Nat.le_succ _) fun hlock => ⟨hlock, fun _ _ h => h⟩
  invalidations id := (h.invalidations id).of_eq (Nat.le_succ _) fun hlock => hlock
  answers := h.answers.mono fun _ _ hrecorded =>
    hrecorded.of_eq rfl (fun _ _ h => h) fun _ _ h => h

theorem Inv.drop (h : shared.Inv) : shared.drop.Inv where
  generation_eq := h.generation_eq
  writers id := (h.writers id).of_eq (Nat.le_refl _) fun hlock => ⟨hlock, fun _ _ h => h⟩
  invalidations id := (h.invalidations id).of_eq (Nat.le_refl _) fun hlock => hlock
  answers := DefinitionCache.holds_of_snapshot rfl

/-- While generations can be told apart, a writer with the current one has seen all of them. -/
theorem Inv.seen_eq (h : shared.Inv) (hfew : shared.opened < generationLimit) {seen : Nat}
    (hseen : seen ≤ shared.opened) (hsame : shared.cache.generation = seen % generationLimit) :
    seen = shared.opened := by
  rw [h.generation_eq, Nat.mod_eq_of_lt hfew, Nat.mod_eq_of_lt (by omega)] at hsame
  exact hsame.symm

theorem Inv.number_le (h : shared.Inv) {number : Nat} (hdropped : shared.HasDropped id number) :
    number ≤ shared.opened := by
  have hright := h.invalidations id
  rcases hdropped with hid | hid <;> rw [hid] at hright
  · exact hright.1
  · exact hright

/-- A writer that has passed has seen every invalidation that has dropped the snapshot. -/
theorem Inv.le_of_passed (h : shared.Inv) {seen : Nat}
    (hpassed : shared.writers id = .passed seen name locations) {other number : Nat}
    (hdropped : shared.HasDropped other number) : number ≤ seen := by
  have hright := h.writers id
  rw [hpassed] at hright
  obtain ⟨hlock, hreturned⟩ := hright
  rcases hdropped with hother | hother
  · -- whoever drops the snapshot has the lock, but here the writer has it
    have hholder := h.invalidations other
    rw [hother] at hholder
    exact absurd (hlock.symm.trans hholder.2) (by simp)
  · exact hreturned other number hother

/-- An invalidation that has dropped the snapshot may return. -/
theorem Inv.unlockInvalidation (h : shared.Inv) {number : Nat}
    (hdropped : shared.invalidations id = .dropped number) :
    ((shared.lockTo none).invalidate id (.returned number)).Inv := by
  have hright := h.invalidations id
  rw [hdropped] at hright
  obtain ⟨hnumber, hlock⟩ := hright
  have hreturned : (shared.invalidate id (.returned number)).Inv := by
    refine h.invalidate hnumber (fun writer _ hwriter => ?_) (.inr ?_)
    · exact absurd (hlock.symm.trans hwriter) (by simp)
    · rintro other (hother | hother)
      · exact absurd hother (by simp)
      · obtain rfl := Invalidation.returned.inj hother
        exact .inl hdropped
  refine hreturned.lockTo none (fun other hother => ?_) fun other hother => ?_
  · exact absurd (hlock.symm.trans hother) (by simp)
  · obtain rfl : id = other := by simpa using hlock.symm.trans hother
    rw [invalidations_invalidate_self]
    exact hnumber

theorem Inv.step (h : shared.Inv) (hfew : shared.opened < generationLimit)
    (hstep : shared.Step next) : next.Inv := by
  cases hstep with
  | wait milliseconds =>
    exact ⟨h.generation_eq,
      fun id => (h.writers id).of_eq (Nat.le_refl _) fun hlock => ⟨hlock, fun _ _ h => h⟩,
      fun id => (h.invalidations id).of_eq (Nat.le_refl _) fun hlock => hlock, h.answers⟩
  | note id hid => exact h.write ⟨h.generation_eq, Nat.le_refl _⟩ (by simp [hid])
  | lockWriter id generation seen name locations hid hfree =>
    have hright := h.writers id
    rw [hid] at hright
    exact (h.lockTo_of_free hfree _).write ⟨hright, rfl⟩ (by simp [SharedCache.lockTo, hid])
  | pass id generation seen name locations hid hsame =>
    have hright := h.writers id
    rw [hid] at hright
    obtain ⟨⟨hgeneration, hseen⟩, hlock⟩ := hright
    -- nobody has opened a generation since it was noted, so all that have returned were seen
    refine h.write ⟨hlock, fun other number hother => ?_⟩ (by simp [hid])
    rw [h.seen_eq hfew hseen (hsame.trans hgeneration)]
    exact h.number_le (.inr hother)
  | reject id generation seen name locations hid hother => exact h.write trivial (by simp [hid])
  | insert id seen name locations hid =>
    have hwritten : (shared.write id (.recorded seen name locations)).Inv :=
      h.write trivial (by simp [hid])
    exact hwritten.insert (writers_write_self _ _ _) fun _ _ hdropped => h.le_of_passed hid hdropped
  | unlockWriter id hheld hid =>
    refine h.lockTo none (fun other hother => ?_) fun other hother => ?_
    · obtain rfl : id = other := by simpa using hheld.symm.trans hother
      rcases hid with hid | ⟨seen, name, locations, hid⟩ <;> rw [hid] <;> trivial
    · exact absurd (hheld.symm.trans hother) (by simp)
  | advance id hid =>
    exact h.advance.invalidate (Nat.le_refl _) (by simp) (.inr (by simp))
  | lockInvalidation id number hid hfree =>
    have hright := h.invalidations id
    rw [hid] at hright
    exact (h.lockTo_of_free hfree _).invalidate ⟨hright, rfl⟩ (by simp) (.inr (by simp))
  | drop id number hid =>
    have hright := h.invalidations id
    rw [hid] at hright
    exact h.drop.invalidate hright (by simp) (.inl rfl)
  | unlockInvalidation id number hid => exact h.unlockInvalidation hid

theorem opened_le_of_step (hstep : shared.Step next) : shared.opened ≤ next.opened := by
  cases hstep with
  | advance id hid => exact Nat.le_succ _
  | _ => exact Nat.le_refl _

theorem inv_of_steps {timeout : Nat} (hsteps : Relation.ReflTransGen Step (start timeout) shared)
    (hfew : shared.opened < generationLimit) : shared.Inv := by
  induction hsteps with
  | refl =>
    exact ⟨rfl, fun _ => trivial, fun _ => trivial, DefinitionCache.holds_of_snapshot rfl⟩
  | tail _ hstep ih =>
    have hbefore := Nat.lt_of_le_of_lt (opened_le_of_step hstep) hfew
    exact (ih hbefore).step hbefore hstep

/-- **No answer outlives an invalidation.** While generations can be told apart, what is known after
an invalidation has returned was recorded by a writer that noted its generation after that
invalidation had opened its own. -/
theorem lookup?_of_returned {timeout : Nat}
    (hsteps : Relation.ReflTransGen Step (start timeout) shared)
    (hfew : shared.opened < generationLimit) {number : Nat}
    (hreturned : shared.invalidations id = .returned number)
    (hlookup : shared.cache.lookup? shared.now name = some locations) :
    ∃ writer seen, shared.author name = some writer
      ∧ shared.writers writer = .recorded seen name locations ∧ number ≤ seen := by
  obtain ⟨writer, seen, hauthor, hrecorded, hseen⟩ :=
    (inv_of_steps hsteps hfew).answers.of_lookup? hlookup
  exact ⟨writer, seen, hauthor, hrecorded, hseen id number (.inr hreturned)⟩

/-- A writer that passes just before an invalidation begins, and inserts just after, is not known
any more once the invalidation has returned; one that notes the new generation is. -/
theorem lookup?_of_returned_overlapping :
    ∃ shared, Relation.ReflTransGen Step (start 1000) shared ∧ shared.opened < generationLimit
      ∧ shared.invalidations 0 = .returned 1
      ∧ shared.writers 0 = .recorded 0 ['x'] [] ∧ shared.cache.lookup? shared.now ['x'] = none
      ∧ shared.cache.lookup? shared.now ['y'] = some []
      ∧ ∃ writer seen, shared.author ['y'] = some writer
        ∧ shared.writers writer = .recorded seen ['y'] [] ∧ 1 ≤ seen := by
  let passed := (((start 1000).write 0 (.noted 0 0)).lockTo (some (.writer 0))).write 0
    (.locked 0 0 ['x'] []) |>.write 0 (.passed 0 ['x'] [])
  let kept := ((passed.advance.invalidate 0 (.advanced 1)).insert 0 ['x'] []).write 0
    (.recorded 0 ['x'] []) |>.lockTo none
  let returned := ((kept.lockTo (some (.invalidation 0))).invalidate 0 (.locked 1)).drop
    |>.invalidate 0 (.dropped 1) |>.lockTo none |>.invalidate 0 (.returned 1)
  let again := (((returned.write 1 (.noted 1 1)).lockTo (some (.writer 1))).write 1
    (.locked 1 1 ['y'] [])).write 1 (.passed 1 ['y'] []) |>.insert 1 ['y'] [] |>.write 1
    (.recorded 1 ['y'] [])
  have hpassed : Relation.ReflTransGen Step (start 1000) passed :=
    ((Relation.ReflTransGen.single (.note 0 rfl)).tail (.lockWriter 0 0 0 ['x'] [] rfl rfl)).tail
      (.pass 0 0 0 ['x'] [] rfl rfl)
  have hkept : Relation.ReflTransGen Step (start 1000) kept :=
    ((hpassed.tail (.advance 0 rfl)).tail (.insert 0 0 ['x'] [] rfl)).tail
      (.unlockWriter 0 rfl (.inr ⟨0, ['x'], [], rfl⟩))
  have hreturned : Relation.ReflTransGen Step (start 1000) returned :=
    ((hkept.tail (.lockInvalidation 0 1 rfl rfl)).tail (.drop 0 1 rfl)).tail
      (.unlockInvalidation 0 1 rfl)
  have hagain : Relation.ReflTransGen Step (start 1000) again :=
    (((hreturned.tail (.note 1 rfl)).tail (.lockWriter 1 1 1 ['y'] [] rfl rfl)).tail
      (.pass 1 1 1 ['y'] [] rfl rfl)).tail (.insert 1 1 ['y'] [] rfl)
  have hfew : again.opened < generationLimit := by decide
  have hinvalidation : again.invalidations 0 = .returned 1 := rfl
  exact ⟨again, hagain, hfew, hinvalidation, rfl, by decide, rfl,
    lookup?_of_returned hagain hfew hinvalidation rfl⟩

end SharedCache

end WorkflowNav
