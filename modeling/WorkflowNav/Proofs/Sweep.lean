/-
Insertions at one instant.

Every insertion into a text cache counts the texts that are there, and sweeps if they are too many.
So it depends on the order of insertions where the sweeps come. But at one instant the result does
not, and the reason is a count. Until the first sweep nothing is lost, so the texts that are there
are those of the start and those inserted since. The first sweep comes when there are too many of
them, and it takes away just what was too old at the start, since all else is of this instant; later
sweeps find nothing more to take. So the cache is told by the set of keys that were inserted
(`Refreshed`), and two caches with the same keys inserted are the same (`Refreshed.sameTexts`).
-/
import Mathlib.Data.Finset.Card
import WorkflowNav.Proofs.Batching
import WorkflowNav.Proofs.Spelling

set_option autoImplicit false

namespace WorkflowNav

/-- The text that a spelling of a path with these components gives. -/
def Disk.IsTextOf (disk : Disk) (key : List Component) (text : Text) : Prop :=
  ∃ path : Path, path.components = key ∧ disk.readText path = .ok text

theorem Disk.IsTextOf.unique {disk : Disk} {key : List Component} {text other : Text}
    (h : disk.IsTextOf key text) (hother : disk.IsTextOf key other) : text = other := by
  obtain ⟨path, hkey, hread⟩ := h
  obtain ⟨path', hkey', hread'⟩ := hother
  exact readText_unique (hkey.trans hkey'.symm) hread hread'

namespace TextCache

variable {start cache : TextCache} {moment : Moment} {now : Nat} {path : Path} {text : Text}
variable {key : List Component} {entry : CachedText} {done : Finset (List Component)}

/-! ## Fresh texts -/

/-- With one text to a path, the fresh ones are those that are there and whose time is not up. -/
theorem fresh?_eq_some_iff (h : cache.IsFunctional) :
    cache.fresh? now path = some text
      ↔ ∃ entry, (path.components, entry) ∈ cache.entries ∧ entry.text = text
        ∧ now - entry.readAt < cache.timeout := by
  refine ⟨exists_of_fresh?, ?_⟩
  rintro ⟨entry, hmem, rfl, hage⟩
  rw [fresh?, Keyed.get?_of_mem h hmem]
  exact if_pos hage

/-- A sweep takes nothing that would be served. -/
theorem fresh?_sweep (h : cache.IsFunctional) (now : Nat) (path : Path) :
    (cache.sweep now).fresh? now path = cache.fresh? now path := by
  have hswept : (cache.sweep now).IsFunctional := h.sublist (List.filter_sublist.map _)
  ext text
  rw [fresh?_eq_some_iff hswept, fresh?_eq_some_iff h]
  constructor
  · rintro ⟨entry, hmem, htext, hage⟩
    exact ⟨entry, mem_sweep hmem, htext, hage⟩
  · rintro ⟨entry, hmem, htext, hage⟩
    refine ⟨entry, List.mem_filter.2 ⟨hmem, ?_⟩, htext, hage⟩
    exact decide_eq_true (Nat.le_of_lt hage)

/-! ## Counting -/

/-- The keys under which there is a text. -/
def keys (cache : TextCache) : Finset (List Component) := (cache.entries.map Prod.fst).toFinset

theorem mem_keys : key ∈ cache.keys ↔ ∃ entry, (key, entry) ∈ cache.entries := by
  simp [keys]

/-- The size after a text was put in, before any sweep. -/
theorem length_put (h : cache.IsFunctional) (key : List Component) (value : CachedText) :
    (Keyed.put key value cache.entries).length = (Insert.insert key cache.keys).card := by
  have hkeys : Insert.insert key cache.keys
      = ((Keyed.put key value cache.entries).map Prod.fst).toFinset := by
    ext other
    rw [Finset.mem_insert, mem_keys, List.mem_toFinset, List.mem_map]
    constructor
    · rintro (rfl | ⟨entry, hmem⟩)
      · exact ⟨(other, value), Keyed.mem_put.2 (.inl rfl), rfl⟩
      · by_cases hother : other = key
        · exact ⟨(key, value), Keyed.mem_put.2 (.inl rfl), hother.symm⟩
        · exact ⟨(other, entry), Keyed.mem_put.2 (.inr ⟨hmem, hother⟩), rfl⟩
    · rintro ⟨pair, hpair, rfl⟩
      rcases Keyed.mem_put.1 hpair with rfl | ⟨hmem, -⟩
      · exact .inl rfl
      · exact .inr ⟨pair.2, hmem⟩
  rw [hkeys, List.toFinset_card_of_nodup (Keyed.nodup_put h), List.length_map]

/-- What an insertion leaves: what was put in and what was there, less what is too old if there are
too many. -/
theorem mem_insert_iff :
    (key, entry) ∈ (cache.insert now path text).entries
      ↔ (key, entry) ∈ Keyed.put path.components { text := text, readAt := now } cache.entries
        ∧ (cache.threshold < (Keyed.put path.components { text := text, readAt := now }
          cache.entries).length → now - entry.readAt ≤ cache.timeout) := by
  unfold insert size
  dsimp only
  split
  · next hmany =>
    rw [sweep, List.mem_filter, decide_eq_true_iff]
    exact and_congr_right fun _ => ⟨fun hage _ => hage, fun hage => hage hmany⟩
  · next hfew => exact ⟨fun hmem => ⟨hmem, fun hmany => absurd hmany hfew⟩, And.left⟩

/-- The insertion of some keys has made a sweep: there was an insertion, and there are too many keys
with those of the start. -/
def IsSwept (start : TextCache) (done : Finset (List Component)) : Prop :=
  done.Nonempty ∧ start.threshold < (start.keys ∪ done).card

/-- A cache that started as `start`, and in which the texts on the disk were inserted under some
keys since, all at one instant. -/
structure Refreshed (start : TextCache) (moment : Moment) (done : Finset (List Component))
    (cache : TextCache) : Prop where
  isFunctional : cache.IsFunctional
  timeout_eq : cache.timeout = start.timeout
  threshold_eq : cache.threshold = start.threshold
  exists_text : ∀ key ∈ done, ∃ text, moment.disk.IsTextOf key text
  mem_of_done : ∀ key ∈ done, ∀ entry, (key, entry) ∈ cache.entries
    ↔ entry.readAt = moment.now ∧ moment.disk.IsTextOf key entry.text
  /-- What was not inserted is as it was, but a sweep has taken what is too old. -/
  mem_of_notMem : ∀ key ∉ done, ∀ entry, (key, entry) ∈ cache.entries
    ↔ (key, entry) ∈ start.entries
      ∧ (start.IsSwept done → moment.now - entry.readAt ≤ start.timeout)

theorem Refreshed.refl (h : start.IsFunctional) : Refreshed start moment ∅ start where
  isFunctional := h
  timeout_eq := rfl
  threshold_eq := rfl
  exists_text _ hkey := absurd hkey (Finset.notMem_empty _)
  mem_of_done _ hkey := absurd hkey (Finset.notMem_empty _)
  mem_of_notMem _ _ _ := by simp [IsSwept]

theorem Refreshed.keys_subset (h : Refreshed start moment done cache) :
    cache.keys ⊆ start.keys ∪ done := by
  intro key hkey
  obtain ⟨entry, hmem⟩ := mem_keys.1 hkey
  rw [Finset.mem_union]
  by_cases hdone : key ∈ done
  · exact .inr hdone
  · exact .inl (mem_keys.2 ⟨entry, ((h.mem_of_notMem key hdone entry).1 hmem).1⟩)

/-- Until the first sweep nothing is lost. -/
theorem Refreshed.subset_keys (h : Refreshed start moment done cache)
    (hswept : ¬ start.IsSwept done) : start.keys ∪ done ⊆ cache.keys := by
  intro key hkey
  rw [mem_keys]
  by_cases hdone : key ∈ done
  · obtain ⟨text, htext⟩ := h.exists_text key hdone
    exact ⟨⟨text, moment.now⟩, (h.mem_of_done key hdone _).2 ⟨rfl, htext⟩⟩
  · obtain ⟨entry, hmem⟩ := mem_keys.1 ((Finset.mem_union.1 hkey).resolve_right hdone)
    exact ⟨entry, (h.mem_of_notMem key hdone entry).2 ⟨hmem, fun hsome => absurd hsome hswept⟩⟩

/-- **The count.** A sweep was made exactly if one was made before or this insertion makes one. -/
theorem Refreshed.isSwept_insert (h : Refreshed start moment done cache) (key : List Component)
    (value : CachedText) :
    start.IsSwept (Insert.insert key done)
      ↔ start.IsSwept done
        ∨ cache.threshold < (Keyed.put key value cache.entries).length := by
  rw [length_put h.isFunctional, h.threshold_eq]
  have hunion : start.keys ∪ Insert.insert key done = Insert.insert key (start.keys ∪ done) :=
    Finset.union_insert _ _ _
  constructor
  · rintro ⟨-, hmany⟩
    by_cases hswept : start.IsSwept done
    · exact .inl hswept
    · right
      rw [hunion] at hmany
      exact hmany.trans_le
        (Finset.card_le_card (Finset.insert_subset_insert _ (h.subset_keys hswept)))
  · intro hcases
    refine ⟨Finset.insert_nonempty _ _, ?_⟩
    rw [hunion]
    rcases hcases with ⟨-, hmany⟩ | hmany
    · exact hmany.trans_le (Finset.card_le_card (Finset.subset_insert _ _))
    · exact hmany.trans_le
        (Finset.card_le_card (Finset.insert_subset_insert _ h.keys_subset))

/-- Inserting the text on the disk adds its key to those that were inserted. -/
theorem Refreshed.insert (h : Refreshed start moment done cache)
    (hread : moment.disk.readText path = .ok text) :
    Refreshed start moment (Insert.insert path.components done)
      (cache.insert moment.now path text) where
  isFunctional := h.isFunctional.insert _ _ _
  timeout_eq := timeout_insert.trans h.timeout_eq
  threshold_eq := threshold_insert.trans h.threshold_eq
  exists_text key hkey := by
    rcases Finset.mem_insert.1 hkey with rfl | hdone
    · exact ⟨text, path, rfl, hread⟩
    · exact h.exists_text key hdone
  mem_of_done key hkey entry := by
    -- a text of this instant is never too old
    have hyoung : entry.readAt = moment.now → moment.now - entry.readAt ≤ cache.timeout := by
      intro hnow
      omega
    rw [mem_insert_iff, Keyed.mem_put]
    by_cases hpath : key = path.components
    · subst hpath
      constructor
      · rintro ⟨hnew | hold, -⟩
        · obtain rfl : entry = ⟨text, moment.now⟩ := (Prod.mk.inj hnew).2
          exact ⟨rfl, path, rfl, hread⟩
        · exact absurd rfl hold.2
      · rintro ⟨hnow, htext⟩
        have hentry : entry = ⟨text, moment.now⟩ := by
          rw [← hnow, ← htext.unique ⟨path, rfl, hread⟩]
        exact ⟨.inl (by rw [hentry]), fun _ => hyoung hnow⟩
    · have hdone := (Finset.mem_insert.1 hkey).resolve_left hpath
      constructor
      · rintro ⟨hnew | hold, -⟩
        · exact absurd (Prod.mk.inj hnew).1 hpath
        · exact (h.mem_of_done key hdone entry).1 hold.1
      · intro hentry
        exact ⟨.inr ⟨(h.mem_of_done key hdone entry).2 hentry, hpath⟩, fun _ => hyoung hentry.1⟩
  mem_of_notMem key hkey entry := by
    rw [Finset.mem_insert, not_or] at hkey
    obtain ⟨hpath, hdone⟩ := hkey
    rw [mem_insert_iff, Keyed.mem_put, h.isSwept_insert path.components ⟨text, moment.now⟩,
      h.timeout_eq]
    constructor
    · rintro ⟨hnew | hold, hmany⟩
      · exact absurd (Prod.mk.inj hnew).1 hpath
      · obtain ⟨hmem, hswept⟩ := (h.mem_of_notMem key hdone entry).1 hold.1
        exact ⟨hmem, fun hcases => hcases.elim hswept hmany⟩
    · rintro ⟨hmem, hcases⟩
      exact ⟨.inr ⟨(h.mem_of_notMem key hdone entry).2 ⟨hmem, fun hswept => hcases (.inl hswept)⟩,
        hpath⟩, fun hmany => hcases (.inr hmany)⟩

/-- The same texts under the same keys, read at the same instants. -/
def SameTexts (one two : TextCache) : Prop :=
  one.timeout = two.timeout ∧ one.threshold = two.threshold ∧ one.entries.Perm two.entries

/-- The keys that were inserted tell the cache. -/
theorem Refreshed.sameTexts {one two : TextCache} (hone : Refreshed start moment done one)
    (htwo : Refreshed start moment done two) : SameTexts one two := by
  refine ⟨hone.timeout_eq.trans htwo.timeout_eq.symm,
    hone.threshold_eq.trans htwo.threshold_eq.symm, ?_⟩
  rw [List.perm_ext_iff_of_nodup (List.Nodup.of_map _ hone.isFunctional)
    (List.Nodup.of_map _ htwo.isFunctional)]
  rintro ⟨key, entry⟩
  by_cases hdone : key ∈ done
  · rw [hone.mem_of_done key hdone, htwo.mem_of_done key hdone]
  · rw [hone.mem_of_notMem key hdone, htwo.mem_of_notMem key hdone]

/-- Under a key that was not inserted, what was fresh at the start is fresh, and nothing else. -/
theorem Refreshed.fresh?_of_notMem (h : Refreshed start moment done cache)
    (hstart : start.IsFunctional) (hdone : path.components ∉ done) :
    cache.fresh? moment.now path = start.fresh? moment.now path := by
  ext text
  rw [fresh?_eq_some_iff h.isFunctional, fresh?_eq_some_iff hstart, h.timeout_eq]
  constructor
  · rintro ⟨entry, hmem, htext, hage⟩
    exact ⟨entry, ((h.mem_of_notMem _ hdone entry).1 hmem).1, htext, hage⟩
  · rintro ⟨entry, hmem, htext, hage⟩
    refine ⟨entry, (h.mem_of_notMem _ hdone entry).2 ⟨hmem, fun _ => ?_⟩, htext, hage⟩
    exact Nat.le_of_lt hage

/-- Under a key that was inserted, what is fresh is the text on the disk. -/
theorem Refreshed.of_fresh? (h : Refreshed start moment done cache)
    (hdone : path.components ∈ done) (hfresh : cache.fresh? moment.now path = some text) :
    0 < start.timeout ∧ moment.disk.IsTextOf path.components text := by
  obtain ⟨entry, hmem, rfl, hage⟩ := exists_of_fresh? hfresh
  rw [h.timeout_eq] at hage
  exact ⟨Nat.zero_lt_of_lt hage, ((h.mem_of_done _ hdone entry).1 hmem).2⟩

end TextCache

end WorkflowNav
