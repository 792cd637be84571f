/-
The rules of the cursor, told by positions.

Each rule goes up from the cursor, or down from a line it found, and stops at the first line that
decides. Here every rule is told by the positions of the lines it rests on: which line there has to
be, how far away it may be, and which lines may not come in between (`inTemplates_iff`,
`inMetadata_iff`, `inReference_iff`, `owner?_eq_some_iff`, `templateReference?_eq_some_iff`). Two of
them are the same search with other markers, `any_find?_above`.

That is the form in which a rule can be compared with a search that comes from the other side.
-/
import WorkflowNav.Proofs.Position

set_option autoImplicit false

namespace WorkflowNav

namespace Site

open Manifest

/-! ## Going up -/

section Up

variable {lines : List Text} {i n : Nat}

theorem getElem?_above (hi : i ≤ lines.length) (q : Nat) :
    (above lines i n)[q]? = if q < n ∧ q < i then lines[i - 1 - q]? else none := by
  have hlength : (lines.take i).length = i := List.length_take_of_le hi
  rw [above, List.getElem?_take]
  by_cases hq : q < i
  · have hback : i - 1 - q < i := by omega
    rw [List.getElem?_reverse (by omega), hlength, List.getElem?_take, if_pos hback]
    simp [hq]
  · rw [List.getElem?_eq_none (by simp; omega)]
    simp [hq]

/-- Going up, the nearest line that passes a test. -/
theorem findIdx?_above {test : Text → Bool} (hi : i ≤ lines.length) {up : Nat} :
    (above lines i n).findIdx? test = some up
      ↔ up < n ∧ up < i ∧ LineAt test lines (i - 1 - up)
        ∧ ∀ m, i - 1 - up < m → m < i → ¬ LineAt test lines m := by
  rw [List.findIdx?_eq_some_iff_getElem]
  constructor
  · rintro ⟨hup, htest, hbefore⟩
    have hget := getElem?_above (n := n) hi up
    rw [List.getElem?_eq_getElem hup] at hget
    split at hget
    · next hbounds =>
      refine ⟨hbounds.1, hbounds.2, ⟨_, hget.symm, htest⟩, fun m hlo hhi => ?_⟩
      have hq := hbefore (i - 1 - m) (by omega)
      rintro ⟨line, hline, hpass⟩
      have hother := getElem?_above (n := n) hi (i - 1 - m)
      rw [if_pos (by omega), show i - 1 - (i - 1 - m) = m by omega, hline] at hother
      obtain ⟨_, rfl⟩ := List.getElem?_eq_some_iff.1 hother
      exact hq hpass
    · exact absurd hget (by simp)
  · rintro ⟨hn, hui, ⟨line, hline, hpass⟩, hbetween⟩
    have hget := getElem?_above (n := n) hi up
    rw [if_pos ⟨hn, hui⟩, hline] at hget
    obtain ⟨hup, rfl⟩ := List.getElem?_eq_some_iff.1 hget
    refine ⟨hup, hpass, fun p hp hother => ?_⟩
    have hthere := getElem?_above (n := n) hi p
    rw [if_pos (by omega), List.getElem?_eq_getElem (by omega)] at hthere
    exact hbetween (i - 1 - p) (by omega) (by omega) ⟨_, hthere.symm, hother⟩

/-- Going up, the first line that is good or ends the search is good: there is a good line within
reach, and none that ends the search in between. -/
theorem any_find?_above {good ends : Text → Bool} (hi : i ≤ lines.length) :
    ((above lines i n).find? fun line => good line || ends line).any good = true
      ↔ ∃ k, k < i ∧ i ≤ k + n ∧ LineAt good lines k
        ∧ ∀ m, k < m → m < i → ¬ LineAt ends lines m := by
  rw [Option.any_eq_true]
  constructor
  · rintro ⟨line, hfind, hgood⟩
    obtain ⟨-, up, hup, rfl, hbefore⟩ := List.find?_eq_some_iff_getElem.1 hfind
    have hidx : (above lines i n).findIdx? (fun line => good line || ends line) = some up :=
      List.findIdx?_eq_some_iff_getElem.2
        ⟨hup, by simp [hgood], fun p hp => by simpa using hbefore p hp⟩
    obtain ⟨hn, hui, ⟨line, hline, -⟩, hbetween⟩ := (findIdx?_above hi).1 hidx
    have hget := getElem?_above (n := n) hi up
    rw [if_pos ⟨hn, hui⟩, List.getElem?_eq_getElem hup] at hget
    exact ⟨i - 1 - up, by omega, by omega, ⟨_, hget.symm, hgood⟩, fun m hlo hhi hends =>
      hbetween m hlo hhi (lineAt_or.2 (.inr hends))⟩
  · rintro ⟨k, hki, hreach, hgood, hbetween⟩
    -- of several good lines the nearest is met
    obtain ⟨near, hkn, hni, ⟨line, hline, hpass⟩, hnearest⟩ := hgood.exists_nearest hki
    refine ⟨line, find?_above hline (by simp [hpass]) hni (by omega) hi ?_, hpass⟩
    intro m other hlo hhi hother
    have h1 := hnearest m hlo hhi
    have h2 := hbetween m (by omega) hhi
    rw [lineAt_iff hother] at h1 h2
    simp [h1, h2]

end Up

/-! ## Sections -/

section Sections

variable {lines : List Text} {i : Nat}

/-- In a list of templates: `templates:` stands at most fifty lines above, and no line that opens a
document comes after it. -/
theorem inTemplates_iff (hi : i < lines.length) :
    inTemplates lines i = true
      ↔ ∃ s, s ≤ i ∧ i ≤ s + templatesReach ∧ LineAt (Text.has Marker.templates) lines s
        ∧ ∀ m, s < m → m ≤ i → ¬ LineAt (Text.has Marker.kind) lines m
          ∧ ¬ LineAt (Text.has Marker.apiVersion) lines m := by
  have heq : inTemplates lines i
      = ((above lines (i + 1) (templatesReach + 1)).find? fun line =>
          Text.has Marker.templates line
            || (Text.has Marker.kind line || Text.has Marker.apiVersion line)).any
          (Text.has Marker.templates) := by
    simp only [inTemplates, Bool.or_assoc]
    split <;> simp [*]
  rw [heq, any_find?_above hi]
  refine exists_congr fun s => and_congr Nat.lt_succ_iff (and_congr (by omega) ?_)
  simp only [lineAt_or, not_or, Nat.lt_succ_iff]

/-- In a reference: `templateRef:` stands at most five lines above, with no entry in between. -/
theorem inReference_iff (hi : i ≤ lines.length) :
    inReference lines i = true
      ↔ ∃ r, r < i ∧ i ≤ r + nameReach ∧ LineAt (Text.has Marker.templateRef) lines r
        ∧ ∀ m, r < m → m < i → ¬ LineAt isEntry lines m := by
  have heq : inReference lines i
      = ((above lines i nameReach).find? fun line =>
          Text.has Marker.templateRef line || isEntry line).any (Text.has Marker.templateRef) := by
    rw [inReference]
    split <;> simp [*]
  rw [heq, any_find?_above hi]

/-- No line that opens another section than the metadata. -/
def OpensNoSection (lines : List Text) (i : Nat) : Prop :=
  ¬ LineAt (Text.has Marker.spec) lines i ∧ ¬ LineAt (Text.has Marker.status) lines i

/-- Going up from a line, the nearest kind line of a WorkflowTemplate is at most `n` lines away, and
what lies between is metadata and no other section; `seen` says that this is known already. -/
structure KindAbove (lines : List Text) (seen : Bool) (n i k : Nat) : Prop where
  lt : k < i
  reach : i ≤ k + n
  kind : LineAt (Text.has Marker.workflowTemplate) lines k
  nearest : ∀ m, k < m → m < i → ¬ LineAt (Text.has Marker.workflowTemplate) lines m
  sections : ∀ m, k ≤ m → m < i → OpensNoSection lines m
  metadata : seen = true ∨ ∃ m, k ≤ m ∧ m < i ∧ LineAt (Text.has Marker.metadata) lines m

/-- Going up from a kind line, there is nowhere to go. -/
theorem kindAbove_of_kind {seen : Bool} {n k : Nat} (hopens : OpensNoSection lines i)
    (hkind : LineAt (Text.has Marker.workflowTemplate) lines i) :
    KindAbove lines seen (n + 1) (i + 1) k
      ↔ k = i ∧ (seen = true ∨ LineAt (Text.has Marker.metadata) lines i) := by
  constructor
  · intro h
    obtain rfl : k = i := by
      have hlt := h.lt
      by_contra hne
      exact h.nearest i (by omega) (Nat.lt_succ_self i) hkind
    refine ⟨rfl, h.metadata.imp_right ?_⟩
    rintro ⟨m, hlo, hhi, hm⟩
    rwa [show m = k by omega] at hm
  · rintro ⟨rfl, hseen⟩
    refine ⟨Nat.lt_succ_self k, by omega, hkind, by omega, fun m hlo hhi => ?_, ?_⟩
    · rwa [show m = k by omega]
    · exact hseen.imp_right fun h => ⟨k, Nat.le_refl k, Nat.lt_succ_self k, h⟩

/-- Going up from any other line is going up from the one above it. -/
theorem kindAbove_of_not_kind {seen here : Bool} {n k : Nat} (hopens : OpensNoSection lines i)
    (hkind : ¬ LineAt (Text.has Marker.workflowTemplate) lines i)
    (hmetadata : LineAt (Text.has Marker.metadata) lines i ↔ here = true) :
    KindAbove lines seen (n + 1) (i + 1) k ↔ KindAbove lines (seen || here) n i k := by
  constructor
  · rintro ⟨hlt, hreach, hk, hnearest, hsections, hseen⟩
    have hne : k ≠ i := by
      rintro rfl
      exact hkind hk
    refine ⟨by omega, by omega, hk, fun m hlo hhi => hnearest m hlo (by omega),
      fun m hlo hhi => hsections m hlo (by omega), ?_⟩
    rw [Bool.or_eq_true]
    rcases hseen with h | ⟨m, hlo, hhi, h⟩
    · exact .inl (.inl h)
    · rcases Nat.lt_succ_iff_lt_or_eq.1 hhi with hmi | rfl
      · exact .inr ⟨m, hlo, hmi, h⟩
      · exact .inl (.inr (hmetadata.1 h))
  · rintro ⟨hlt, hreach, hk, hnearest, hsections, hseen⟩
    refine ⟨by omega, by omega, hk, fun m hlo hhi => ?_, fun m hlo hhi => ?_, ?_⟩
    · rcases Nat.lt_succ_iff_lt_or_eq.1 hhi with h | rfl
      · exact hnearest m hlo h
      · exact hkind
    · rcases Nat.lt_succ_iff_lt_or_eq.1 hhi with h | rfl
      · exact hsections m hlo h
      · exact hopens
    · rw [Bool.or_eq_true, ← hmetadata] at hseen
      rcases hseen with (h | h) | ⟨m, hlo, hhi, h⟩
      · exact .inl h
      · exact .inr ⟨i, Nat.le_of_lt hlt, Nat.lt_succ_self i, h⟩
      · exact .inr ⟨m, hlo, Nat.lt_succ_of_lt hhi, h⟩

theorem reachesKind_above {n : Nat} (hi : i ≤ lines.length) (seen : Bool) :
    reachesKind seen (above lines i n) = true ↔ ∃ k, KindAbove lines seen n i k := by
  induction i generalizing n seen with
  | zero =>
    simp only [above, List.take_zero, List.reverse_nil, List.take_nil, reachesKind,
      Bool.false_eq_true, false_iff]
    rintro ⟨k, h⟩
    exact Nat.not_lt_zero k h.lt
  | succ i ih =>
    cases n with
    | zero =>
      simp only [above, List.take_zero, reachesKind, Bool.false_eq_true, false_iff]
      rintro ⟨k, h⟩
      exact absurd h.reach (Nat.not_le_of_lt h.lt)
    | succ n =>
      have hline : lines[i]? = some lines[i] := List.getElem?_eq_getElem hi
      have hopens : OpensNoSection lines i
          ↔ (Text.has Marker.spec lines[i] || Text.has Marker.status lines[i]) = false := by
        rw [OpensNoSection, lineAt_iff hline, lineAt_iff hline]
        simp
      rw [above_succ hline, reachesKind]
      split
      · next hends =>
        simp only [Bool.false_eq_true, false_iff]
        rintro ⟨k, h⟩
        have hfalse := hopens.1 (h.sections i (Nat.le_of_lt_succ h.lt) (Nat.lt_succ_self i))
        exact absurd (hends.symm.trans hfalse) (by decide)
      · next hnone =>
        have hopens := hopens.2 (Bool.eq_false_iff.2 hnone)
        dsimp only
        split
        · next hkind =>
          simp only [kindAbove_of_kind hopens ((lineAt_iff hline).2 hkind), exists_eq_left,
            Bool.or_eq_true, lineAt_iff hline]
        · next hkind =>
          rw [ih (Nat.le_of_succ_le hi)]
          exact exists_congr fun k =>
            (kindAbove_of_not_kind hopens (mt (lineAt_iff hline).1 hkind) (lineAt_iff hline)).symm

/-- In the metadata of a WorkflowTemplate: its kind line stands at most twenty lines above, and what
comes after it is metadata and no other section. -/
theorem inMetadata_iff (hi : i ≤ lines.length) :
    inMetadata lines i = true ↔ ∃ k, KindAbove lines false metadataReach i k := by
  rw [inMetadata, reachesKind_above hi]

/-- The owner is the first name close below the nearest kind line that has one. -/
theorem owner?_eq_some_iff {owner : Text} :
    owner? lines i = some owner
      ↔ ∃ k, k ≤ i ∧ LineAt (Text.has Marker.workflowTemplate) lines k
        ∧ (∃ n, k < n ∧ n < k + ownerReach ∧ nameAt? lines n = some owner
          ∧ ∀ m, k < m → m < n → nameAt? lines m = none)
        ∧ ∀ k', k < k' → k' ≤ i → LineAt (Text.has Marker.workflowTemplate) lines k' →
          ∀ m, k' < m → m < k' + ownerReach → nameAt? lines m = none := by
  have hend : ∀ k, k + 1 + (ownerReach - 1) = k + ownerReach := fun _ => by rw [ownerReach]
  have hpairwise : ((kindLines lines).filter (· ≤ i)).reverse.Pairwise (· > ·) :=
    List.pairwise_reverse.2 ((pairwise_linesWith _ lines).filter _)
  have hmem : ∀ k, k ∈ ((kindLines lines).filter (· ≤ i)).reverse
      ↔ k ≤ i ∧ LineAt (Text.has Marker.workflowTemplate) lines k := by
    intro k
    rw [List.mem_reverse, List.mem_filter, kindLines, mem_linesWith, decide_eq_true_eq, and_comm]
    rfl
  rw [owner?, findSome?_of_pairwise hpairwise (fun a b hab hba => by omega)]
  simp only [hmem, findSome?_stretch, findSome?_stretch_eq_none, hend]
  constructor
  · rintro ⟨k, ⟨hki, hkind⟩, hname, hlast⟩
    exact ⟨k, hki, hkind, hname, fun k' hlt hle hother => hlast k' ⟨hle, hother⟩ hlt⟩
  · rintro ⟨k, hki, hkind, hname, hlast⟩
    exact ⟨k, ⟨hki, hkind⟩, hname, fun k' hk' hlt => hlast k' hlt hk'.1 hk'.2⟩

/-- The `template:` of a reference: `templateRef:` stands at most fifteen lines above, none comes in
between, and the name beside it is the first one after it, at most three lines below the cursor. -/
theorem templateReference?_eq_some_iff {line owner template : Text} (hi : i ≤ lines.length) :
    templateReference? lines i line = some (.templateReference owner template)
      ↔ template? line = some template
        ∧ ∃ r, r < i ∧ i ≤ r + templateReach ∧ LineAt (Text.has Marker.templateRef) lines r
          ∧ (∀ m, r < m → m < i → ¬ LineAt (Text.has Marker.templateRef) lines m)
          ∧ ∃ n, r < n ∧ n ≤ i + siblingReach ∧ siblingAt? lines n = some owner
            ∧ ∀ m, r < m → m < n → siblingAt? lines m = none := by
  have hform : templateReference? lines i line = some (.templateReference owner template)
      ↔ template? line = some template
        ∧ ∃ up, (above lines i templateReach).findIdx? (Text.has Marker.templateRef) = some up
          ∧ ((lines.drop (i - up)).take (up + 1 + siblingReach)).findSome? (fun line =>
            if Text.has Marker.template line then none else name? line) = some owner := by
    simp only [templateReference?, Option.bind_eq_bind, Option.bind_eq_some_iff, Option.pure_def,
      Option.some.injEq, templateReference.injEq]
    constructor
    · rintro ⟨_, htemplate, up, hup, _, howner, rfl, rfl⟩
      exact ⟨htemplate, up, hup, howner⟩
    · rintro ⟨htemplate, up, hup, howner⟩
      exact ⟨_, htemplate, up, hup, _, howner, rfl, rfl⟩
  rw [hform]
  refine and_congr_right fun _ => ?_
  simp only [findIdx?_above hi, findSome?_stretch]
  constructor
  · rintro ⟨up, ⟨hup, hui, href, hnone⟩, n, hlo, hhi, hname, hfirst⟩
    refine ⟨i - 1 - up, by omega, by omega, href, hnone, n, by omega, by omega, hname, ?_⟩
    exact fun m hm hmn => hfirst m (by omega) hmn
  · rintro ⟨r, hri, hreach, href, hnone, n, hrn, hhi, hname, hfirst⟩
    obtain ⟨up, rfl, hui⟩ : ∃ up, r = i - 1 - up ∧ up < i := ⟨i - 1 - r, by omega, by omega⟩
    refine ⟨up, ⟨by omega, hui, href, hnone⟩, n, by omega, by omega, hname, ?_⟩
    exact fun m hm hmn => hfirst m (by omega) hmn

end Sections

end Site

end WorkflowNav
