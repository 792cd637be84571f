/-
What the caches can hold.

Nothing gets into a cache except by one operation each: a text by being fetched from the disk, an
answer by being recorded. Everything else only takes away, be it a sweep, an invalidation or a
timeout. So for each operation it is enough to say where an entry may come from. Statements are
about every entry under a key, not only the one that is found there, so that taking entries away
never needs an argument.
-/
import WorkflowNav.Cache.Definition
import WorkflowNav.Cache.Text

set_option autoImplicit false

namespace WorkflowNav

namespace Keyed

variable {κ υ : Type} [DecidableEq κ] {key : κ} {value : υ} {pairs : List (κ × υ)} {pair : κ × υ}

theorem mem_erase : pair ∈ erase key pairs ↔ pair ∈ pairs ∧ pair.1 ≠ key := by
  simp [erase]

theorem mem_put :
    pair ∈ put key value pairs ↔ pair = (key, value) ∨ pair ∈ pairs ∧ pair.1 ≠ key := by
  rw [put, List.mem_cons, mem_erase]

theorem nodup_put (h : (pairs.map Prod.fst).Nodup) :
    ((put key value pairs).map Prod.fst).Nodup := by
  rw [put, List.map_cons, List.nodup_cons]
  refine ⟨fun hmem => ?_, h.sublist (List.filter_sublist.map _)⟩
  obtain ⟨pair, hpair, hkey⟩ := List.mem_map.1 hmem
  exact (mem_erase.1 hpair).2 hkey

/-- With one pair to a key, what is found after some pairs were taken away is what was found before,
unless it was taken away. -/
theorem get?_filter (h : (pairs.map Prod.fst).Nodup) (keep : κ × υ → Bool) (key : κ) :
    get? key (pairs.filter keep) = (get? key pairs).filter fun value => keep (key, value) := by
  rw [Option.ext_iff]
  intro value
  rw [Option.filter_eq_some_iff]
  constructor
  · intro hget
    obtain ⟨hmem, hkeep⟩ := List.mem_filter.1 (mem_of_get? hget)
    exact ⟨get?_of_mem h hmem, hkeep⟩
  · rintro ⟨hget, hkeep⟩
    exact get?_of_mem (h.sublist (List.filter_sublist.map _))
      (List.mem_filter.2 ⟨mem_of_get? hget, hkeep⟩)

end Keyed

/-! ## Texts -/

namespace TextCache

variable {known cache : TextCache} {moment : Moment} {now : Nat} {path : Path} {text : Text}
variable {pair : List Component × CachedText}

theorem mem_sweep (h : pair ∈ (cache.sweep now).entries) : pair ∈ cache.entries :=
  (List.mem_filter.1 h).1

theorem mem_insert (h : pair ∈ (cache.insert now path text).entries) :
    pair = (path.components, { text := text, readAt := now }) ∨ pair ∈ cache.entries := by
  have hput : pair ∈ Keyed.put path.components { text := text, readAt := now } cache.entries := by
    unfold insert at h
    dsimp only at h
    split at h
    · exact mem_sweep h
    · exact h
  rcases Keyed.mem_put.1 hput with h | ⟨h, -⟩
  · exact .inl h
  · exact .inr h

/-- A fresh text is in the cache, and its time is not up. -/
theorem exists_of_fresh? (h : cache.fresh? now path = some text) :
    ∃ entry, (path.components, entry) ∈ cache.entries ∧ entry.text = text
      ∧ now - entry.readAt < cache.timeout := by
  unfold fresh? at h
  split at h
  · next entry hentry =>
    split at h
    · next hage => exact ⟨entry, Keyed.mem_of_get? hentry, Option.some.inj h, hage⟩
    · exact absurd h (by simp)
  · exact absurd h (by simp)

theorem mem_of_fresh? (h : cache.fresh? now path = some text) :
    ∃ entry, (path.components, entry) ∈ cache.entries ∧ entry.text = text := by
  obtain ⟨entry, hmem, htext, -⟩ := exists_of_fresh? h
  exact ⟨entry, hmem, htext⟩

/-- What a fetch gives: a text that was known for the path, or what is on the disk. -/
theorem fetchBeyond_fst (known cache : TextCache) (moment : Moment) (path : Path) :
    (∃ entry, (path.components, entry) ∈ known.entries
        ∧ (known.fetchBeyond cache moment path).1 = .ok entry.text)
      ∨ (known.fetchBeyond cache moment path).1 = moment.disk.readText path := by
  unfold fetchBeyond
  split
  · next text hfresh =>
    obtain ⟨entry, hmem, rfl⟩ := mem_of_fresh? hfresh
    exact .inl ⟨entry, hmem, rfl⟩
  · right
    split <;> simp_all

/-- What a fetch gives depends on the known texts only through the one that is fresh. -/
theorem fetchBeyond_fst_congr {other another : TextCache}
    (h : known.fresh? moment.now path = other.fresh? moment.now path) :
    (known.fetchBeyond cache moment path).1 = (other.fetchBeyond another moment path).1 := by
  unfold fetchBeyond
  rw [h]
  split
  · rfl
  · split <;> rfl

/-- One text to a path. -/
def IsFunctional (cache : TextCache) : Prop := (cache.entries.map Prod.fst).Nodup

theorem IsFunctional.insert (h : cache.IsFunctional) (now : Nat) (path : Path) (text : Text) :
    (cache.insert now path text).IsFunctional := by
  have hput : ((Keyed.put path.components { text := text, readAt := now } cache.entries).map
      Prod.fst).Nodup := Keyed.nodup_put h
  unfold TextCache.insert
  dsimp only
  split
  · exact hput.sublist (List.filter_sublist.map _)
  · exact hput

theorem IsFunctional.fetchBeyond (h : cache.IsFunctional) (known : TextCache) (moment : Moment)
    (path : Path) : (known.fetchBeyond cache moment path).2.IsFunctional := by
  unfold TextCache.fetchBeyond
  split
  · exact h
  · split
    · exact h.insert _ _ _
    · exact h

@[simp] theorem timeout_insert : (cache.insert now path text).timeout = cache.timeout := by
  unfold insert
  dsimp only
  split <;> rfl

@[simp] theorem threshold_insert : (cache.insert now path text).threshold = cache.threshold := by
  unfold insert
  dsimp only
  split <;> rfl

@[simp] theorem timeout_fetchBeyond :
    (known.fetchBeyond cache moment path).2.timeout = cache.timeout := by
  unfold fetchBeyond
  split
  · rfl
  · split
    · exact timeout_insert
    · rfl

@[simp] theorem threshold_fetchBeyond :
    (known.fetchBeyond cache moment path).2.threshold = cache.threshold := by
  unfold fetchBeyond
  split
  · rfl
  · split
    · exact threshold_insert
    · rfl

/-- Spellings of one path have the same text fresh. -/
theorem fresh?_congr {other : Path} (h : path.components = other.components) :
    cache.fresh? now path = cache.fresh? now other := by
  rw [fresh?, fresh?, h]

/-- Keeping a text leaves the others as fresh as they were: a sweep takes only what is stale. -/
theorem fresh?_insert_of_ne (h : cache.IsFunctional) {other : Path}
    (hne : path.components ≠ other.components) :
    (cache.insert now other text).fresh? now path = cache.fresh? now path := by
  have hput := Keyed.get?_put_of_ne hne { text := text, readAt := now } cache.entries
  unfold TextCache.insert
  dsimp only
  split
  · unfold fresh? sweep
    dsimp only
    rw [Keyed.get?_filter (Keyed.nodup_put h), hput]
    cases hget : Keyed.get? path.components cache.entries with
    | none => rfl
    | some entry =>
      -- a text is fresh before its time is up and is swept only after, so no fresh one is swept
      by_cases hfresh : now - entry.readAt < cache.timeout
      · simp [Option.filter, hfresh, Nat.le_of_lt hfresh]
      · by_cases hkept : now - entry.readAt ≤ cache.timeout <;> simp [Option.filter, hfresh, hkept]
  · unfold fresh?
    dsimp only
    rw [hput]

/-- A text that was just kept is fresh, if any text ever is. -/
theorem fresh?_insert_self (h : 0 < cache.timeout) :
    (cache.insert now path text).fresh? now path = some text := by
  have hget : Keyed.get? path.components (cache.insert now path text).entries
      = some { text := text, readAt := now } := by
    unfold insert
    dsimp only
    split
    · -- a sweep does not take what was kept at the same instant
      simp [sweep, Keyed.put, Keyed.get?]
    · exact Keyed.get?_put_self _ _ _
  simp [fresh?, hget, h]

theorem fresh?_of_timeout (h : cache.timeout = 0) : cache.fresh? now path = none := by
  unfold fresh?
  split
  · simp [h]
  · rfl

theorem fresh?_fetchBeyond_of_ne (h : cache.IsFunctional) {other : Path}
    (hne : path.components ≠ other.components) :
    (known.fetchBeyond cache moment other).2.fresh? moment.now path
      = cache.fresh? moment.now path := by
  unfold fetchBeyond
  split
  · rfl
  · split
    · exact fresh?_insert_of_ne h hne
    · rfl

theorem fetchBeyond_of_fresh? (h : known.fresh? moment.now path = some text) :
    known.fetchBeyond cache moment path = (.ok text, cache) := by
  rw [fetchBeyond, h]

theorem fetch_of_fresh? (h : cache.fresh? moment.now path = some text) :
    cache.fetch moment path = (.ok text, cache) := fetchBeyond_of_fresh? h

/-- What is not fresh is read. -/
theorem fetch_fst_of_stale (h : cache.fresh? moment.now path = none) :
    (cache.fetch moment path).1 = moment.disk.readText path := by
  rw [fetch, fetchBeyond, h]
  dsimp only
  split <;> simp [*]

/-- What a fetch has served is fresh after it, if any text ever is. -/
theorem fresh?_fetch (htimeout : 0 < cache.timeout)
    (hserved : (cache.fetch moment path).1 = .ok text) :
    (cache.fetch moment path).2.fresh? moment.now path = some text := by
  cases hfresh : cache.fresh? moment.now path with
  | some found =>
    rw [fetch_of_fresh? hfresh] at hserved ⊢
    rw [hfresh, Except.ok.inj hserved]
  | none =>
    rw [fetch_fst_of_stale hfresh] at hserved
    rw [fetch, fetchBeyond, hfresh, hserved]
    exact fresh?_insert_self htimeout

/-- A fetch that fails changes nothing. -/
theorem fetch_snd_of_error {error : ReadError} (h : (cache.fetch moment path).1 = .error error) :
    (cache.fetch moment path).2 = cache := by
  unfold fetch fetchBeyond at h ⊢
  split at h
  · rfl
  · split at h
    · exact absurd h (by simp)
    · rfl

end TextCache

/-! ## Definitions -/

namespace DefinitionCache

variable {cache : DefinitionCache} {now generation : Nat} {name : Text} {locations : List Location}

/-- Every answer in the snapshot, live or not, is right by some measure. -/
def Holds (cache : DefinitionCache) (right : Text → List Location → Prop) : Prop :=
  ∀ snapshot, cache.snapshot = some snapshot → ∀ pair ∈ snapshot.answers, right pair.1 pair.2

variable {right : Text → List Location → Prop}

theorem snapshot_of_live? {snapshot : DefinitionSnapshot} (h : cache.live? now = some snapshot) :
    cache.snapshot = some snapshot :=
  Option.eq_some_of_filter_eq_some h

theorem Holds.of_lookup? (hholds : cache.Holds right)
    (h : cache.lookup? now name = some locations) : right name locations := by
  obtain ⟨snapshot, hlive, hget⟩ := Option.bind_eq_some_iff.1 h
  exact hholds snapshot (snapshot_of_live? hlive) _ (Keyed.mem_of_get? hget)

theorem Holds.mono {other : Text → List Location → Prop} (hholds : cache.Holds right)
    (h : ∀ name locations, right name locations → other name locations) : cache.Holds other :=
  fun snapshot hsnapshot pair hpair => h _ _ (hholds snapshot hsnapshot pair hpair)

/-- An answer that is kept replaces what was known for its name. -/
theorem Holds.keep (hholds : cache.Holds fun other found => other ≠ name → right other found)
    (hright : right name locations) : (cache.keep now name locations).Holds right := by
  intro snapshot hsnapshot pair hpair
  obtain rfl := Option.some.inj hsnapshot
  rcases Keyed.mem_put.1 hpair with rfl | ⟨hpair, hne⟩
  · exact hright
  · cases hlive : cache.live? now with
    | none => simp [hlive] at hpair
    | some snapshot =>
      -- only a live snapshot is carried over, but what holds is said of dead ones too
      rw [hlive] at hpair
      exact hholds snapshot (snapshot_of_live? hlive) pair hpair hne

theorem Holds.record (hholds : cache.Holds right) (hright : right name locations) :
    (cache.record now generation name locations).Holds right := by
  unfold DefinitionCache.record
  split
  · exact hholds
  · have hothers : cache.Holds fun other found => other ≠ name → right other found :=
      hholds.mono fun _ _ h _ => h
    exact hothers.keep hright

theorem generation_advance_ne (cache : DefinitionCache) :
    cache.advance.generation ≠ cache.generation := by
  unfold advance generationLimit
  dsimp only
  omega

/-- A snapshot that an answer joins is as old as it was. -/
theorem startedAt_keep {snapshot : DefinitionSnapshot}
    (hsnapshot : (cache.keep now name locations).snapshot = some snapshot) :
    snapshot.startedAt = now
      ∨ ∃ old, cache.snapshot = some old ∧ old.startedAt = snapshot.startedAt := by
  obtain rfl := Option.some.inj hsnapshot
  cases hlive : cache.live? now with
  | none => exact .inl (by simp)
  | some old => exact .inr ⟨old, snapshot_of_live? hlive, by simp⟩

/-- The answers in a snapshot are the one that was kept and those that were there. -/
theorem mem_keep {snapshot : DefinitionSnapshot} {pair : Text × List Location}
    (hsnapshot : (cache.keep now name locations).snapshot = some snapshot)
    (hpair : pair ∈ snapshot.answers) :
    pair = (name, locations)
      ∨ ∃ old, cache.snapshot = some old ∧ old.startedAt = snapshot.startedAt
        ∧ pair ∈ old.answers := by
  obtain rfl := Option.some.inj hsnapshot
  rcases Keyed.mem_put.1 hpair with hnew | ⟨hpair, -⟩
  · exact .inl hnew
  · cases hlive : cache.live? now with
    | none => simp [hlive] at hpair
    | some old =>
      rw [hlive] at hpair
      exact .inr ⟨old, snapshot_of_live? hlive, by simp, hpair⟩

@[simp] theorem generation_record :
    (cache.record now generation name locations).generation = cache.generation := by
  unfold DefinitionCache.record
  split <;> rfl

@[simp] theorem timeout_record :
    (cache.record now generation name locations).timeout = cache.timeout := by
  unfold DefinitionCache.record
  split <;> rfl

/-- An answer that is kept is known. -/
theorem lookup?_keep (cache : DefinitionCache) (now : Nat) (name : Text)
    (locations : List Location) :
    (cache.keep now name locations).lookup? now name = some locations := by
  have hlive : now - ((cache.live? now).getD { startedAt := now }).startedAt ≤ cache.timeout := by
    cases h : cache.live? now with
    | none => simp
    | some snapshot => simpa using (Option.filter_eq_some_iff.1 h).2
  refine Option.bind_eq_some_iff.2
    ⟨_, Option.filter_eq_some_iff.2 ⟨rfl, decide_eq_true hlive⟩, ?_⟩
  exact Keyed.get?_put_self _ _ _

theorem lookup?_record (cache : DefinitionCache) (now : Nat) (name : Text)
    (locations : List Location) :
    (cache.record now cache.generation name locations).lookup? now name = some locations := by
  rw [record, if_neg fun h => h rfl, lookup?_keep]

/-- What is known once an answer was kept was known before, or is that answer. -/
theorem lookup?_of_keep {other : Text} {found : List Location}
    (h : (cache.keep now name locations).lookup? now other = some found) :
    other = name ∧ found = locations ∨ cache.lookup? now other = some found := by
  obtain ⟨snapshot, hlive, hget⟩ := Option.bind_eq_some_iff.1 h
  obtain rfl := Option.some.inj (snapshot_of_live? hlive)
  by_cases hname : other = name
  · subst hname
    rw [Keyed.get?_put_self] at hget
    exact .inl ⟨rfl, (Option.some.inj hget).symm⟩
  · rw [Keyed.get?_put_of_ne hname] at hget
    right
    cases hold : cache.live? now with
    | none => simp [hold, Keyed.get?] at hget
    | some old => simpa [hold, lookup?] using hget

theorem lookup?_of_record {other : Text} {found : List Location}
    (h : (cache.record now generation name locations).lookup? now other = some found) :
    (generation = cache.generation ∧ other = name ∧ found = locations)
      ∨ cache.lookup? now other = some found := by
  unfold DefinitionCache.record at h
  split at h
  · exact .inr h
  · next hcurrent =>
    exact (lookup?_of_keep h).imp_left fun ⟨hname, hfound⟩ =>
      ⟨(Decidable.not_not.1 hcurrent).symm, hname, hfound⟩

/-- What is known later is known now. -/
theorem lookup?_of_le {later : Nat} (hle : now ≤ later)
    (h : cache.lookup? later name = some locations) : cache.lookup? now name = some locations := by
  obtain ⟨snapshot, hlive, hget⟩ := Option.bind_eq_some_iff.1 h
  obtain ⟨hsnapshot, hage⟩ := Option.filter_eq_some_iff.1 hlive
  refine Option.bind_eq_some_iff.2 ⟨snapshot, Option.filter_eq_some_iff.2 ⟨hsnapshot, ?_⟩, hget⟩
  rw [decide_eq_true_eq] at hage ⊢
  omega

theorem holds_of_snapshot (h : cache.snapshot = none) : cache.Holds right := by
  intro snapshot hsnapshot
  rw [h] at hsnapshot
  exact absurd hsnapshot (by simp)

end DefinitionCache

end WorkflowNav
