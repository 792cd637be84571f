/-
Fetches that take turns.

The fetches of a batch share a text cache, and their turns may come in any order. Two things hold of
every order. All fetches return: a turn takes a fetch a step on, none needs more than three, and the
rounds at the end give three to each (`returned_fetchAll`). And a property of the cache that no
insertion breaks holds throughout, so that every look into the cache can rely on it
(`FetchInvariant.fetchAll`). Whatever is said of a scan below is said with such a property, and
hence for every order.
-/
import Mathlib.Data.List.Nodup
import WorkflowNav.Cache.Shared
import WorkflowNav.Proofs.Cache

set_option autoImplicit false

namespace WorkflowNav

/-- How far a fetch has come. -/
def Fetch.stage : Fetch → Nat
  | .idle => 0
  | .missed _ => 1
  | .holding _ _ => 2
  | .returned _ _ => 3

theorem Fetch.exists_of_stage {fetch : Fetch} (h : 3 ≤ fetch.stage) :
    ∃ path outcome, fetch = .returned path outcome := by
  cases fetch with
  | returned path outcome => exact ⟨path, outcome, rfl⟩
  | _ => exact absurd h (by simp [stage])

namespace SharedTexts

variable {cache : TextCache} {moment : Moment} {paths : List Path} {shared : SharedTexts}
variable {id other : Nat} {path : Path}

theorem fetches_move_self (shared : SharedTexts) (id : Nat) (fetch : Fetch) :
    (shared.move id fetch).fetches id = fetch := if_pos rfl

theorem fetches_move_of_ne (shared : SharedTexts) {id other : Nat} (h : other ≠ id)
    (fetch : Fetch) : (shared.move id fetch).fetches other = shared.fetches other := if_neg h

theorem move_move (shared : SharedTexts) (id : Nat) (fetch next : Fetch) :
    (shared.move id fetch).move id next = shared.move id next := by
  rw [move, move, move]
  congr 1
  funext other
  by_cases heq : other = id <;> simp [heq]

theorem move_self {fetch : Fetch} (h : shared.fetches id = fetch) :
    shared.move id fetch = shared := by
  rw [move]
  congr 1
  funext other
  by_cases heq : other = id
  · rw [if_pos heq, heq, h]
  · rw [if_neg heq]

/-! ## All fetches return -/

/-- A turn is one of a single fetch. -/
theorem fetches_turn_of_ne (paths : List Path) (shared : SharedTexts) (h : other ≠ id) :
    (turn paths shared id).fetches other = shared.fetches other := by
  unfold turn
  split
  · rfl
  · split
    · exact fetches_move_of_ne shared h _
    · exact fetches_move_of_ne shared h _
    · exact fetches_move_of_ne shared h _
    · rfl

/-- It takes the fetch a step on, unless that has returned. -/
theorem stage_turn (shared : SharedTexts) (hpath : paths[id]? = some path) :
    min 3 ((shared.fetches id).stage + 1) ≤ ((turn paths shared id).fetches id).stage := by
  unfold turn
  rw [hpath]
  cases hfetch : shared.fetches id with
  | idle =>
    dsimp only
    rw [lookUp, fetches_move_self]
    split <;> simp [Fetch.stage]
  | missed other =>
    dsimp only
    rw [read, fetches_move_self]
    split <;> simp [Fetch.stage]
  | holding other text =>
    have hmoved : (shared.insert id other text).fetches id = .returned other (.ok text) :=
      fetches_move_self shared id _
    dsimp only
    rw [hmoved]
    exact Nat.min_le_left _ _
  | returned other outcome =>
    dsimp only
    rw [hfetch]
    exact Nat.min_le_left _ _

/-- How far a fetch has come is told by the number of its turns. -/
theorem stage_foldl_turn (shared : SharedTexts) (hpath : paths[id]? = some path)
    (turns : List Nat) :
    min 3 ((shared.fetches id).stage + turns.count id)
      ≤ ((turns.foldl (turn paths) shared).fetches id).stage := by
  -- its own turns raise the stage, and those of the others leave it
  induction turns generalizing shared with
  | nil => exact Nat.min_le_right _ _
  | cons next turns ih =>
    have hrest := ih (turn paths shared next)
    rw [List.foldl_cons]
    by_cases heq : next = id
    · subst heq
      have hstep := stage_turn shared hpath
      rw [List.count_cons_self]
      omega
    · rw [fetches_turn_of_ne paths shared fun h => heq h.symm] at hrest
      rwa [List.count_cons_of_ne heq]

theorem count_rounds {count : Nat} (h : id < count) : (rounds count).count id = 3 := by
  have hone : (List.range count).count id = 1 :=
    List.count_eq_one_of_mem List.nodup_range (List.mem_range.2 h)
  rw [rounds, List.count_append, List.count_append, hone]

/-- **All fetches return**, whatever turns they take first. -/
theorem returned_fetchAll (cache : TextCache) (moment : Moment) (hpath : paths[id]? = some path)
    (turns : List Nat) :
    ∃ other outcome, (fetchAll cache moment paths turns).fetches id = .returned other outcome := by
  have hid : id < paths.length := (List.getElem?_eq_some_iff.1 hpath).1
  have hstage := stage_foldl_turn { cache := cache, moment := moment } hpath
    (turns ++ rounds paths.length)
  rw [List.count_append, count_rounds hid] at hstage
  exact Fetch.exists_of_stage (Nat.le_trans (by omega) hstage)

/-! ## What holds throughout -/

/-- A property of the cache that insertions keep, and what a fetch may then return. -/
structure FetchInvariant (P : TextCache → Prop) (allowed : Path → Except ReadError Text → Prop)
    (moment : Moment) (paths : List Path) : Prop where
  fetch : ∀ cache, P cache → ∀ path ∈ paths, allowed path (cache.fetch moment path).1
  insert : ∀ cache, P cache → ∀ path ∈ paths, ∀ text, moment.disk.readText path = .ok text →
    allowed path (.ok text) → P (cache.insert moment.now path text)

/-- A fetch is one of its path on the list, and returns only what is allowed. -/
def FetchAllowed (allowed : Path → Except ReadError Text → Prop) (moment : Moment)
    (paths : List Path) (id : Nat) : Fetch → Prop
  | .idle => True
  | .missed path => paths[id]? = some path ∧ allowed path (moment.disk.readText path)
  | .holding path text => paths[id]? = some path ∧ moment.disk.readText path = .ok text
    ∧ allowed path (.ok text)
  | .returned path outcome => paths[id]? = some path ∧ allowed path outcome

/-- What holds after any turns. -/
structure Upholds (P : TextCache → Prop) (allowed : Path → Except ReadError Text → Prop)
    (moment : Moment) (paths : List Path) (shared : SharedTexts) : Prop where
  moment_eq : shared.moment = moment
  cache : P shared.cache
  fetches : ∀ id, FetchAllowed allowed moment paths id (shared.fetches id)

variable {P : TextCache → Prop} {allowed : Path → Except ReadError Text → Prop}

theorem Upholds.start (h : P cache) :
    Upholds P allowed moment paths { cache := cache, moment := moment } :=
  ⟨rfl, h, fun _ => trivial⟩

theorem Upholds.move (h : shared.Upholds P allowed moment paths) (id : Nat) {fetch : Fetch}
    (hfetch : FetchAllowed allowed moment paths id fetch) :
    (shared.move id fetch).Upholds P allowed moment paths where
  moment_eq := h.moment_eq
  cache := h.cache
  fetches other := by
    by_cases heq : other = id
    · rw [heq, fetches_move_self]
      exact hfetch
    · rw [fetches_move_of_ne shared heq]
      exact h.fetches other

/-- A look into the cache: a text is allowed, and so is what the file gives if there is none. -/
theorem Upholds.lookUp (hshared : shared.Upholds P allowed moment paths)
    (h : FetchInvariant P allowed moment paths) (hpath : paths[id]? = some path) :
    (shared.lookUp id path).Upholds P allowed moment paths := by
  have hserved := h.fetch _ hshared.cache path (List.mem_of_getElem? hpath)
  refine hshared.move id ?_
  rw [hshared.moment_eq]
  cases hfresh : shared.cache.fresh? moment.now path with
  | some text =>
    rw [TextCache.fetch_of_fresh? hfresh] at hserved
    exact ⟨hpath, hserved⟩
  | none =>
    rw [TextCache.fetch_fst_of_stale hfresh] at hserved
    exact ⟨hpath, hserved⟩

theorem Upholds.read (hshared : shared.Upholds P allowed moment paths)
    (hmissed : shared.fetches id = .missed path) :
    (shared.read id path).Upholds P allowed moment paths := by
  have hfetch := hshared.fetches id
  rw [hmissed] at hfetch
  obtain ⟨hpath, hallowed⟩ := hfetch
  refine hshared.move id ?_
  rw [hshared.moment_eq]
  cases hread : moment.disk.readText path with
  | ok text =>
    rw [hread] at hallowed
    exact ⟨hpath, hread, hallowed⟩
  | error error =>
    rw [hread] at hallowed
    exact ⟨hpath, hallowed⟩

theorem Upholds.insert (hshared : shared.Upholds P allowed moment paths)
    (h : FetchInvariant P allowed moment paths) {text : Text}
    (hholding : shared.fetches id = .holding path text) :
    (shared.insert id path text).Upholds P allowed moment paths := by
  have hfetch := hshared.fetches id
  rw [hholding] at hfetch
  obtain ⟨hpath, hread, hallowed⟩ := hfetch
  have hmoved : (shared.move id (.returned path (.ok text))).Upholds P allowed moment paths :=
    hshared.move id ⟨hpath, hallowed⟩
  refine ⟨hshared.moment_eq, ?_, hmoved.fetches⟩
  rw [SharedTexts.insert, hshared.moment_eq]
  exact h.insert _ hshared.cache path (List.mem_of_getElem? hpath) text hread hallowed

theorem FetchInvariant.turn (h : FetchInvariant P allowed moment paths)
    (hshared : shared.Upholds P allowed moment paths) (id : Nat) :
    (turn paths shared id).Upholds P allowed moment paths := by
  unfold SharedTexts.turn
  split
  · exact hshared
  · next path hpath =>
    split
    · exact hshared.lookUp h hpath
    · next missed hmissed => exact hshared.read hmissed
    · next held text hholding => exact hshared.insert h hholding
    · exact hshared

theorem FetchInvariant.foldl_turn (h : FetchInvariant P allowed moment paths) (turns : List Nat)
    (hshared : shared.Upholds P allowed moment paths) :
    (turns.foldl (SharedTexts.turn paths) shared).Upholds P allowed moment paths := by
  induction turns generalizing shared with
  | nil => exact hshared
  | cons id turns ih => exact ih (h.turn hshared id)

/-- **What no insertion breaks holds throughout**, and then fetches return only what is allowed. -/
theorem FetchInvariant.fetchAll (h : FetchInvariant P allowed moment paths) (hcache : P cache)
    (turns : List Nat) :
    P (fetchAll cache moment paths turns).cache
      ∧ ∀ id path, paths[id]? = some path → ∃ outcome, allowed path outcome
        ∧ (SharedTexts.fetchAll cache moment paths turns).fetches id = .returned path outcome := by
  have hlast : (SharedTexts.fetchAll cache moment paths turns).Upholds P allowed moment paths :=
    h.foldl_turn _ (.start hcache)
  refine ⟨hlast.cache, fun id path hpath => ?_⟩
  obtain ⟨other, outcome, hreturned⟩ := returned_fetchAll cache moment hpath turns
  -- what the invariant says of a fetch depends on its state, which is the last one by now
  have hfetch := hlast.fetches id
  rw [hreturned] at hfetch
  obtain rfl : path = other := Option.some.inj (hpath.symm.trans hfetch.1)
  exact ⟨outcome, hfetch.2, hreturned⟩

/-- If what a fetch may return is told by its path, that is what it returns. -/
theorem FetchInvariant.fetches_eq {served : Path → Except ReadError Text}
    (h : FetchInvariant P (fun path outcome => outcome = served path) moment paths)
    (hcache : P cache) (turns : List Nat) (hpath : paths[id]? = some path) :
    (SharedTexts.fetchAll cache moment paths turns).fetches id = .returned path (served path) := by
  obtain ⟨outcome, rfl, hreturned⟩ := (h.fetchAll hcache turns).2 id path hpath
  exact hreturned

/-! ## A fetch that is left alone -/

/-- A fetch that missed takes two turns. -/
theorem foldl_turn_of_missed (shared : SharedTexts) {known : TextCache}
    (hknown : known.fresh? shared.moment.now path = none) (hpath : paths[id]? = some path)
    (hmissed : shared.fetches id = .missed path) :
    [id, id].foldl (turn paths) shared
      = { shared.move id
            (.returned path (known.fetchBeyond shared.cache shared.moment path).1) with
          cache := (known.fetchBeyond shared.cache shared.moment path).2 } := by
  have hread : turn paths shared id = shared.read id path := by
    rw [turn, hpath]
    simp only [hmissed]
  rw [List.foldl_cons, List.foldl_cons, List.foldl_nil, hread, TextCache.fetchBeyond, hknown, turn,
    hpath, read, fetches_move_self]
  cases hdisk : shared.moment.disk.readText path with
  | error error => rfl
  | ok text =>
    simp only [insert, move_move]
    rfl

/-- A fetch that takes its turns in a row is one from the cache. -/
theorem foldl_turn_of_idle (shared : SharedTexts) (hpath : paths[id]? = some path)
    (hidle : shared.fetches id = .idle) :
    [id, id, id].foldl (turn paths) shared
      = { shared.move id (.returned path (shared.cache.fetch shared.moment path).1) with
          cache := (shared.cache.fetch shared.moment path).2 } := by
  have hlookUp : turn paths shared id = shared.lookUp id path := by
    rw [turn, hpath]
    simp only [hidle]
  rw [List.foldl_cons, hlookUp, lookUp]
  cases hfresh : shared.cache.fresh? shared.moment.now path with
  | some text =>
    rw [TextCache.fetch_of_fresh? hfresh]
    simp only [List.foldl_cons, List.foldl_nil, turn, hpath, fetches_move_self]
    rfl
  | none =>
    have hmissed := fetches_move_self shared id (.missed path)
    rw [foldl_turn_of_missed (shared.move id (.missed path)) hfresh hpath hmissed, move_move]
    rfl

/-- What a fetch has returned stays. -/
theorem fetches_foldl_turn_of_returned {outcome : Except ReadError Text} (turns : List Nat)
    (h : shared.fetches id = .returned path outcome) :
    (turns.foldl (turn paths) shared).fetches id = .returned path outcome := by
  induction turns generalizing shared with
  | nil => exact h
  | cons next turns ih =>
    refine ih ?_
    by_cases heq : next = id
    · subst heq
      unfold turn
      split
      · exact h
      · simp only [h]
    · rw [fetches_turn_of_ne paths shared fun hid => heq hid.symm, h]

/-- A fetch that comes first is one from the cache as it was. -/
theorem fetches_fetchAll_of_first (cache : TextCache) (moment : Moment)
    (hpath : paths[id]? = some path) (turns : List Nat) :
    (fetchAll cache moment paths ([id, id, id] ++ turns)).fetches id
      = .returned path (cache.fetch moment path).1 := by
  rw [fetchAll, List.append_assoc, List.foldl_append,
    foldl_turn_of_idle { cache := cache, moment := moment } hpath rfl]
  exact fetches_foldl_turn_of_returned _ (fetches_move_self _ _ _)

/-- A fetch that comes after another spelling of its path is served the text of that. -/
theorem fetches_fetchAll_of_later {i j : Nat} {text : Text} (htimeout : 0 < cache.timeout)
    (hne : j ≠ i) (hpath : paths[i]? = some path) {other : Path} (hother : paths[j]? = some other)
    (hkey : path.components = other.components)
    (hserved : (cache.fetch moment path).1 = .ok text) :
    (fetchAll cache moment paths [i, i, i, j]).fetches j = .returned other (.ok text) := by
  have hfresh : (cache.fetch moment path).2.fresh? moment.now other = some text := by
    rw [← TextCache.fresh?_congr hkey]
    exact TextCache.fresh?_fetch htimeout hserved
  have hturns : [i, i, i, j] ++ rounds paths.length
      = [i, i, i] ++ (j :: rounds paths.length) := rfl
  rw [fetchAll, hturns, List.foldl_append, List.foldl_cons,
    foldl_turn_of_idle { cache := cache, moment := moment } hpath rfl]
  refine fetches_foldl_turn_of_returned _ ?_
  have hidle : (move { cache := cache, moment := moment } i
      (.returned path (cache.fetch moment path).1)).fetches j = .idle :=
    fetches_move_of_ne _ hne _
  simp only [turn, hother, hidle, lookUp, fetches_move_self]
  simp only [move, hfresh]

/-! ## Rounds -/

/-- All fetches stand alike: each as it is told for its path. -/
structure Standing (moment : Moment) (paths : List Path) (cache : TextCache) (stand : Path → Fetch)
    (shared : SharedTexts) : Prop where
  moment_eq : shared.moment = moment
  cache_eq : shared.cache = cache
  fetches : ∀ id path, paths[id]? = some path → shared.fetches id = stand path

variable {before after : Path → Fetch} {keep : TextCache → Path → TextCache}

/-- In a round the first fetches have taken a step, and the others have not. -/
private theorem Standing.foldl_range (h : shared.Standing moment paths cache before)
    (hturn : ∀ (middle : SharedTexts) (id : Nat) (path : Path), paths[id]? = some path →
      middle.moment = moment → middle.cache = (paths.take id).foldl keep cache →
      middle.fetches id = before path →
      turn paths middle id = { middle.move id (after path) with cache := keep middle.cache path })
    {count : Nat} (hcount : count ≤ paths.length) :
    ((List.range count).foldl (turn paths) shared).moment = moment
      ∧ ((List.range count).foldl (turn paths) shared).cache = (paths.take count).foldl keep cache
      ∧ ∀ id path, paths[id]? = some path →
        ((List.range count).foldl (turn paths) shared).fetches id
          = if id < count then after path else before path := by
  -- by induction on how many have taken their step: the next one finds the cache as these left it
  induction count with
  | zero => exact ⟨h.moment_eq, h.cache_eq, h.fetches⟩
  | succ count ih =>
    obtain ⟨path, hpath⟩ : ∃ path, paths[count]? = some path :=
      ⟨_, List.getElem?_eq_getElem hcount⟩
    rw [List.range_succ, List.foldl_append, List.foldl_cons, List.foldl_nil]
    obtain ⟨hmoment, hcache, hfetches⟩ := ih (Nat.le_of_succ_le hcount)
    generalize (List.range count).foldl (turn paths) shared = middle at hmoment hcache hfetches ⊢
    have hbefore : middle.fetches count = before path := by
      rw [hfetches count path hpath, if_neg (Nat.lt_irrefl _)]
    rw [hturn middle count path hpath hmoment hcache hbefore]
    refine ⟨hmoment, ?_, fun id other hid => ?_⟩
    · dsimp only
      rw [List.take_add_one, hpath, List.foldl_append, ← hcache]
      rfl
    · change (middle.move count (after path)).fetches id = _
      by_cases heq : id = count
      · subst heq
        obtain rfl : path = other := Option.some.inj (hpath.symm.trans hid)
        rw [fetches_move_self, if_pos (Nat.lt_succ_self _)]
      · rw [fetches_move_of_ne _ heq, hfetches id other hid]
        congr 1
        exact propext ⟨fun hlt => Nat.lt_succ_of_lt hlt, fun hlt =>
          Nat.lt_of_le_of_ne (Nat.le_of_lt_succ hlt) heq⟩

/-- A round in which every fetch takes the same step. -/
theorem Standing.round (h : shared.Standing moment paths cache before)
    (hturn : ∀ (middle : SharedTexts) (id : Nat) (path : Path), paths[id]? = some path →
      middle.moment = moment → middle.cache = (paths.take id).foldl keep cache →
      middle.fetches id = before path →
      turn paths middle id
        = { middle.move id (after path) with cache := keep middle.cache path }) :
    ((List.range paths.length).foldl (turn paths) shared).Standing moment paths
      (paths.foldl keep cache) after := by
  obtain ⟨hmoment, hcache, hfetches⟩ := h.foldl_range hturn (Nat.le_refl _)
  rw [List.take_length] at hcache
  refine ⟨hmoment, hcache, fun id path hpath => ?_⟩
  rw [hfetches id path hpath, if_pos (List.getElem?_eq_some_iff.1 hpath).1]

/-- A round without insertions. -/
private theorem Standing.quietRound (h : shared.Standing moment paths cache before)
    (hturn : ∀ (middle : SharedTexts) (id : Nat) (path : Path), paths[id]? = some path →
      middle.moment = moment → middle.cache = cache → middle.fetches id = before path →
      turn paths middle id = middle.move id (after path)) :
    ((List.range paths.length).foldl (turn paths) shared).Standing moment paths cache after := by
  have hkept : ∀ front : List Path, front.foldl (fun texts _ => texts) cache = cache :=
    List.foldl_fixed
  have hround : ((List.range paths.length).foldl (turn paths) shared).Standing moment paths
      (paths.foldl (fun texts _ => texts) cache) after :=
    h.round fun middle id path hpath hmoment hcache hbefore =>
      hturn middle id path hpath hmoment (hcache.trans (hkept _)) hbefore
  rwa [hkept] at hround

/-- Where a fetch stands after a look into the cache. -/
private def looked (cache : TextCache) (moment : Moment) (path : Path) : Fetch :=
  match cache.fresh? moment.now path with
  | some text => .returned path (.ok text)
  | none => .missed path

/-- Where it stands when the file was read as well, if that was needed. -/
private def held (cache : TextCache) (moment : Moment) (path : Path) : Fetch :=
  match cache.fresh? moment.now path with
  | some text => .returned path (.ok text)
  | none =>
    match moment.disk.readText path with
    | .ok text => .holding path text
    | .error error => .returned path (.error error)

section Step

variable (hpath : paths[id]? = some path) (hmoment : shared.moment = moment)

include hpath hmoment

private theorem turn_of_idle (hcache : shared.cache = cache) (hidle : shared.fetches id = .idle) :
    turn paths shared id = shared.move id (looked cache moment path) := by
  rw [turn, hpath]
  simp only [hidle, lookUp, hcache, hmoment]
  rfl

private theorem turn_of_looked (hlooked : shared.fetches id = looked cache moment path) :
    turn paths shared id = shared.move id (held cache moment path) := by
  rw [turn, hpath]
  unfold looked at hlooked
  unfold held
  cases hfresh : cache.fresh? moment.now path with
  | some text =>
    -- it has returned already, and a turn that does nothing is a move to where it stands
    rw [hfresh] at hlooked
    rw [hlooked, move_self hlooked]
  | none =>
    rw [hfresh] at hlooked
    cases hread : moment.disk.readText path with
    | ok text => simp only [hlooked, read, hmoment, hread]
    | error error => simp only [hlooked, read, hmoment, hread]

private theorem turn_of_held (hheld : shared.fetches id = held cache moment path) :
    turn paths shared id
      = { shared.move id (.returned path (cache.fetch moment path).1) with
          cache := (cache.fetchBeyond shared.cache moment path).2 } := by
  rw [turn, hpath, TextCache.fetch]
  unfold held at hheld
  unfold TextCache.fetchBeyond
  cases hfresh : cache.fresh? moment.now path with
  | some text =>
    rw [hfresh] at hheld
    rw [hheld, move_self hheld]
  | none =>
    rw [hfresh] at hheld
    cases hread : moment.disk.readText path with
    | ok text =>
      rw [hread] at hheld
      simp only [hheld, insert, hmoment]
    | error error =>
      rw [hread] at hheld
      rw [hheld, move_self hheld]

end Step

/-- **Fetches that go in rounds** all look before any of them inserts, and then insert in their
order. -/
theorem standing_fetchAll_nil (cache : TextCache) (moment : Moment) (paths : List Path) :
    (fetchAll cache moment paths []).Standing moment paths
      (paths.foldl (fun texts path => (cache.fetchBeyond texts moment path).2) cache)
      fun path => .returned path (cache.fetch moment path).1 := by
  have hidle : Standing moment paths cache (fun _ => .idle) { cache := cache, moment := moment } :=
    ⟨rfl, rfl, fun _ _ _ => rfl⟩
  have hlooked := hidle.quietRound fun _ _ _ => turn_of_idle
  have hheld := hlooked.quietRound fun _ _ _ hpath hmoment _ => turn_of_looked hpath hmoment
  rw [fetchAll, List.nil_append, rounds, List.foldl_append, List.foldl_append]
  exact hheld.round fun _ _ _ hpath hmoment _ => turn_of_held hpath hmoment

end SharedTexts

end WorkflowNav
