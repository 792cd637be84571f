/-
Reads in any order.

`Crawl.below` reads the directories of a level one after the other. What runs reads the directories
of a batch at the same time, and takes what they list in the order in which the reads come back. So
here is the crawl as a system that takes steps: a batch is started when nothing is being read, any
read of the batch may come back next, and a level ends when all of its directories were read.

Two facts about one step carry everything. What has been found and what is still to be found stay
the same, up to their order (`perm_expected`), so a crawl that cannot go on has found what `below`
finds. And the work that is left becomes less (`work_lt`), where work is counted in directories that
are really there. A link is never entered, so links that lead in circles add nothing to it, and the
bound on the depth plays no part in it either.
-/
import WorkflowNav.Proofs.Crawl

set_option autoImplicit false

namespace WorkflowNav

open Text (Bytes)

theorem batches_eq_cons {α : Type} {size : Nat} {xs batch : List α} {rest : List (List α)}
    (h : batches size xs = batch :: rest) : batch ≠ [] ∧ xs = batch ++ rest.flatten := by
  have hflatten := flatten_batches size xs
  rw [h, List.flatten_cons] at hflatten
  refine ⟨?_, hflatten.symm⟩
  cases xs with
  | nil => simp [batches] at h
  | cons x xs =>
    rw [batches] at h
    rw [← (List.cons.inj h).1]
    simp

namespace Crawl

variable {list : Listing} {depth size : Nat} {root : Path}

/-! ## Steps -/

/-- How far a crawl has come. -/
structure Progress where
  /-- The manifests found so far. -/
  found : List Path := []
  /-- The directories of this level that nobody reads yet. -/
  waiting : List Path := []
  /-- The directories that are being read. -/
  reading : List Path := []
  /-- The directories of the next level, as far as they are known. -/
  next : List Path := []
  /-- The levels below the root. -/
  depth : Nat := 0

/-- What a crawl may do next. -/
inductive Step (list : Listing) (depth size : Nat) : Progress → Progress → Prop
  /-- A batch is read together, once the one before it has come back. -/
  | start (p : Progress) (batch : List Path) (rest : List (List Path)) (hidle : p.reading = [])
      (hbatch : batches size p.waiting = batch :: rest) :
      Step list depth size p { p with waiting := rest.flatten, reading := batch }
  /-- Any of the reads comes back. -/
  | finish (p : Progress) (before after : List Path) (directory : Path)
      (hreading : p.reading = before ++ directory :: after) :
      Step list depth size p
        { p with
          found := p.found ++ manifestsIn list directory
          reading := before ++ after
          next := p.next ++ directoriesIn list directory }
  /-- A level is done, and there is another one that is not too deep. -/
  | descend (p : Progress) (hidle : p.reading = []) (hdone : p.waiting = []) (hnext : p.next ≠ [])
      (hdepth : p.depth < depth) :
      Step list depth size p { p with waiting := p.next, next := [], depth := p.depth + 1 }

/-- The progress after some number of steps from a root. -/
inductive Runs (list : Listing) (depth size : Nat) (root : Path) : Nat → Progress → Prop
  | begin : Runs list depth size root 0 { waiting := [root] }
  | step {n : Nat} {p q : Progress} (hrun : Runs list depth size root n p)
      (hstep : Step list depth size p q) : Runs list depth size root (n + 1) q

namespace Progress

/-- The directories of this level that have not been read. -/
def frontier (p : Progress) : List Path := p.waiting ++ p.reading

/-- The directories of the next level, also those that are not known yet. -/
def beyond (list : Listing) (p : Progress) : List Path :=
  p.next ++ p.frontier.flatMap (directoriesIn list)

end Progress

/-- **What a step does.** It reads some directories of this level, none or one, or it turns to the
next level. -/
theorem Step.cases {p q : Progress} (h : Step list depth size p q) :
    (∃ read, p.frontier.Perm (read ++ q.frontier)
        ∧ q.found = p.found ++ read.flatMap (manifestsIn list)
        ∧ (p.beyond list).Perm (q.beyond list) ∧ q.depth = p.depth
        ∧ 2 * q.waiting.length + q.reading.length < 2 * p.waiting.length + p.reading.length)
      ∨ (p.frontier = [] ∧ p.next ≠ [] ∧ p.depth < depth ∧ q.found = p.found
        ∧ q.waiting = p.next ∧ q.reading = [] ∧ q.next = [] ∧ q.depth = p.depth + 1) := by
  cases h with
  | start batch rest hidle hbatch =>
    obtain ⟨hne, hwaiting⟩ := batches_eq_cons hbatch
    have hperm : p.frontier.Perm (rest.flatten ++ batch) := by
      rw [Progress.frontier, hidle, hwaiting, List.append_nil]
      exact List.perm_append_comm
    refine .inl ⟨[], hperm, by simp, ?_, rfl, ?_⟩
    · exact (List.Perm.flatMap_right _ hperm).append_left _
    · have hpos := List.length_pos_of_ne_nil hne
      simp only [hwaiting, hidle, List.length_append, List.length_nil]
      omega
  | finish before after directory hreading =>
    have hperm : p.frontier.Perm (directory :: (p.waiting ++ (before ++ after))) := by
      rw [Progress.frontier, hreading, ← List.append_assoc, ← List.append_assoc]
      exact List.perm_middle
    refine .inl ⟨[directory], hperm, by simp, ?_, rfl, ?_⟩
    · refine ((List.Perm.flatMap_right _ hperm).append_left _).trans ?_
      rw [List.flatMap_cons, ← List.append_assoc]
      rfl
    · simp only [hreading, List.length_append, List.length_cons]
      omega
  | descend hidle hdone hnext hdepth =>
    exact .inr ⟨by simp [Progress.frontier, hidle, hdone], hnext, hdepth, rfl, rfl, hidle, rfl, rfl⟩

/-- A crawl that cannot go on has read its level, and is at the end of the tree or deep enough. -/
theorem of_not_step {p : Progress} (h : ∀ q, ¬ Step list depth size p q) :
    p.frontier = [] ∧ (p.next = [] ∨ depth ≤ p.depth) := by
  have hidle : p.reading = [] := by
    by_contra hne
    obtain ⟨directory, after, hreading⟩ := List.exists_cons_of_ne_nil hne
    exact h _ (.finish p [] after directory hreading)
  have hdone : p.waiting = [] := by
    by_contra hne
    have hbatches : batches size p.waiting ≠ [] := by
      intro hnil
      have hflatten := flatten_batches size p.waiting
      rw [hnil] at hflatten
      exact hne hflatten.symm
    obtain ⟨batch, rest, hbatch⟩ := List.exists_cons_of_ne_nil hbatches
    exact h _ (.start p batch rest hidle hbatch)
  refine ⟨by simp [Progress.frontier, hidle, hdone], ?_⟩
  by_contra hmore
  rw [not_or, Nat.not_le] at hmore
  exact h _ (.descend p hidle hdone hmore.1 hmore.2)

/-! ## What is found -/

/-- The size of batches does not show. -/
theorem below_size (list : Listing) (size other levels : Nat) (directories : List Path) :
    below list size levels directories = below list other levels directories := by
  induction levels generalizing directories with
  | zero => rfl
  | succ levels ih => rw [below_succ, below_succ, ih]

/-- The order of directories shows only in the order of what is found. -/
theorem below_perm (levels : Nat) {directories others : List Path}
    (h : directories.Perm others) :
    (below list size levels directories).Perm (below list size levels others) := by
  induction levels generalizing directories others with
  | zero => exact .refl _
  | succ levels ih =>
    rw [below_succ, below_succ]
    exact (h.flatMap_right _).append (ih (h.flatMap_right _))

/-- What was found, followed by what is still to be found. -/
def Progress.expected (list : Listing) (depth size : Nat) (p : Progress) : List Path :=
  p.found ++ (p.frontier.flatMap (manifestsIn list)
    ++ below list size (depth - p.depth) (p.beyond list))

/-- A step leaves what is found in the end as it is. -/
theorem perm_expected {p q : Progress} (h : Step list depth size p q) :
    (p.expected list depth size).Perm (q.expected list depth size) := by
  unfold Progress.expected
  rcases h.cases with ⟨read, hfrontier, hfound, hbeyond, hdepth, -⟩
    | ⟨hfrontier, -, hlt, hfound, hwaiting, hreading, hnext, hdepth⟩
  · rw [hfound, hdepth, List.append_assoc, List.perm_append_left_iff, ← List.append_assoc,
      ← List.flatMap_append]
    exact (hfrontier.flatMap_right _).append (below_perm _ hbeyond)
  · have hlevels : depth - p.depth = depth - q.depth + 1 := by omega
    have hnow : p.beyond list = p.next := by simp [Progress.beyond, hfrontier]
    have hthen : q.frontier = p.next := by simp [Progress.frontier, hwaiting, hreading]
    have hafter : q.beyond list = p.next.flatMap (directoriesIn list) := by
      simp [Progress.beyond, hthen, hnext]
    rw [hlevels, hnow, hthen, hafter, hfrontier, hfound, below_succ]
    exact .refl _

/-- A crawl that cannot go on has found what is to be found. -/
theorem found_perm_below {n : Nat} {p : Progress} (hrun : Runs list depth size root n p)
    (hend : ∀ q, ¬ Step list depth size p q) :
    p.found.Perm (below list size (depth + 1) [root]) := by
  have hexpected : (below list size (depth + 1) [root]).Perm (p.expected list depth size) := by
    clear hend
    induction hrun with
    | begin =>
      rw [below_succ]
      simp [Progress.expected, Progress.frontier, Progress.beyond]
    | step hrun hstep ih => exact ih.trans (perm_expected hstep)
  obtain ⟨hfrontier, hover⟩ := of_not_step hend
  have hnothing : below list size (depth - p.depth) (p.beyond list) = [] := by
    have hbeyond : p.beyond list = p.next := by simp [Progress.beyond, hfrontier]
    rcases hover with hnext | hdeep
    · rw [hbeyond, hnext, below_nil]
    · rw [Nat.sub_eq_zero_of_le hdeep]
      rfl
  rw [Progress.expected, hfrontier, hnothing] at hexpected
  simpa using hexpected.symm

/-! ## How long it takes -/

theorem length_readBelow_perm (levels : Nat) {directories others : List Path}
    (h : directories.Perm others) :
    (readBelow list levels directories).length = (readBelow list levels others).length := by
  induction levels generalizing directories others with
  | zero => rfl
  | succ levels ih =>
    rw [readBelow, readBelow, List.length_append, List.length_append, h.length_eq,
      ih (h.flatMap_right _)]

/-- The work that is left: at most a start, a read and a descent for every directory. -/
def Progress.work (list : Listing) (depth : Nat) (p : Progress) : Nat :=
  2 * p.waiting.length + p.reading.length
    + 3 * (readBelow list (depth - p.depth) (p.beyond list)).length

/-- Every step takes work away. -/
theorem work_lt {p q : Progress} (h : Step list depth size p q) :
    q.work list depth < p.work list depth := by
  unfold Progress.work
  rcases h.cases with ⟨read, -, -, hbeyond, hdepth, hless⟩
    | ⟨hfrontier, hmore, hlt, -, hwaiting, hreading, hnext, hdepth⟩
  · rw [hdepth, ← length_readBelow_perm _ hbeyond]
    omega
  · have hlevels : depth - p.depth = depth - q.depth + 1 := by omega
    have hnow : p.beyond list = p.next := by simp [Progress.beyond, hfrontier]
    have hafter : q.beyond list = p.next.flatMap (directoriesIn list) := by
      simp [Progress.beyond, Progress.frontier, hwaiting, hreading, hnext]
    have hpos := List.length_pos_of_ne_nil hmore
    rw [hlevels, hnow, hafter, hwaiting, hreading, readBelow, List.length_append, List.length_nil]
    omega

/-- A crawl takes at most three steps for every directory that it reads. -/
theorem length_runs_le {n : Nat} {p : Progress} (hrun : Runs list depth size root n p) :
    n ≤ 3 * (readBelow list (depth + 1) [root]).length := by
  have hwork : n + p.work list depth
      ≤ 2 + 3 * (readBelow list depth (directoriesIn list root)).length := by
    induction hrun with
    | begin => simp [Progress.work, Progress.beyond, Progress.frontier]
    | step hrun hstep ih =>
      have := work_lt hstep
      omega
  rw [readBelow, List.length_append, List.flatMap_singleton, List.length_singleton]
  omega

/-- Every crawl comes to an end. -/
theorem exists_end {n : Nat} {p : Progress} (hrun : Runs list depth size root n p) :
    ∃ m q, Runs list depth size root m q ∧ ∀ r, ¬ Step list depth size q r := by
  induction hwork : p.work list depth using Nat.strongRecOn generalizing n p with
  | _ work ih =>
    by_cases hend : ∀ r, ¬ Step list depth size p r
    · exact ⟨n, p, hrun, hend⟩
    · push Not at hend
      obtain ⟨r, hstep⟩ := hend
      exact ih _ (hwork ▸ work_lt hstep) (hrun.step hstep) rfl

end Crawl

end WorkflowNav
