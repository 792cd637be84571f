/-
Navigation in a sample workspace, from the cursor to the locations.

Where a step of a sample leads can be told from its numbers alone. This module proves that resolving
a cursor tells the same: the whole way through what was written to the disk, what a search goes
through, what stands under the cursor and what the rules find (`resolve_sample`).

The answers come from the uncached search (`Navigator.finds_ofSettings`), which puts together what
the rules find in each file. A definition stands in one library, so all other files add nothing; the
references of a template stand in the callers, in path order and in each by step.
-/
import WorkflowNav.Proofs.Coherence
import WorkflowNav.Proofs.Sample.Disk
import WorkflowNav.Proofs.Sample.Symbols

set_option autoImplicit false

namespace WorkflowNav

/-! ## Resolving with fresh caches -/

/-- Resolving a cursor gives a site and exactly some locations, in whatever order fetches take their
turns. -/
def Navigator.Finds (navigator : Navigator) (moment : Moment) (root : Path) (text : Text)
    (line column : Nat) (site : Site) (locations : List Location) : Prop :=
  ∀ turns, ∃ answer, (navigator.resolve moment { turns := turns } root text line column).1
      = some { site := site, answer := answer } ∧ answer.locations = locations

/-- With fresh caches the locations are those of a search that keeps nothing. -/
theorem Navigator.finds_ofSettings {settings : SearchSettings} {moment : Moment} {root : Path}
    {text : Text} {line column : Nat} {site : Site} (hwell : moment.disk.WellFormed)
    (hsite : Site.ofCursor? text line column = some site) :
    (ofSettings settings).Finds moment root text line column site
      (moment.disk.uncached settings root site.query) := by
  have hcoherent : (ofSettings settings).CoherentExcept moment.disk root fun _ => False :=
    coherentExcept_ofSettings settings
  intro turns
  refine ⟨((ofSettings settings).run moment { turns := turns } root site.query).1, ?_, ?_⟩
  · rw [resolve, if_neg (by simp), hsite]
    rfl
  · exact hcoherent.locations_run hwell (fun _ _ => not_false) _

namespace Sample

open Manifest (lineNumber lineNumber_eq_iff toNat_lineNumber)

variable {sample : Sample} {root : Path} {disk : Disk}

/-! ## What a search puts together -/

/-- The lines that a rule finds, as lines of a file. -/
def located (path : Path) (lines : List UInt32) : List Location :=
  lines.map fun line => { path := path, line := line }

/-- What a search finds in a sample: the lines of the callers and then those of the libraries. -/
theorem Written.uncached_eq (h : sample.Written root disk) {settings : SearchSettings}
    (hdepth : 1 ≤ settings.maxDepth) (query : Query) :
    disk.uncached settings root query
      = query.clip ((sample.callersByPath root).flatMap (fun caller =>
            located (callerPath root caller) (query.rule (unlines (sample.callerLines caller))))
          ++ (sample.librariesByPath root).flatMap fun library =>
            located (libraryPath root library)
              (query.rule (unlines (sample.libraryLines library)))) := by
  have hlines : ∀ {names : Place} {lines : List Text}, (names, unlines lines) ∈ sample.placedFiles →
      disk.linesAt query.rule (root.descend names)
        = located (root.descend names) (query.rule (unlines lines)) := by
    intro names lines hfile
    rw [Disk.linesAt, h.readText_eq hfile]
    rfl
  rw [Disk.uncached, h.manifests_eq hdepth, List.flatMap_append, List.flatMap_map, List.flatMap_map]
  congr 2
  · refine List.flatMap_congr fun caller hcaller => ?_
    have hlt := (sample.mem_callersByPath root).1 hcaller
    exact hlines (mem_placedFiles.2 (.inr ⟨caller, hlt, rfl⟩))
  · refine List.flatMap_congr fun library hlibrary => ?_
    have hlt := (sample.mem_librariesByPath root).1 hlibrary
    exact hlines (mem_placedFiles.2 (.inl ⟨library, hlt, rfl⟩))

/-- Where one element alone adds anything, that is all there is. -/
theorem flatMap_eq_of_unique {α β : Type} {xs : List α} {f : α → List β} {a : α}
    (hnodup : xs.Nodup) (hmem : a ∈ xs) (hothers : ∀ x ∈ xs, x ≠ a → f x = []) :
    xs.flatMap f = f a := by
  induction xs with
  | nil => exact absurd hmem List.not_mem_nil
  | cons x xs ih =>
    rw [List.nodup_cons] at hnodup
    rw [List.flatMap_cons]
    rcases List.mem_cons.1 hmem with rfl | hmem
    · have hrest : xs.flatMap f = [] := List.flatMap_eq_nil_iff.2 fun y hy =>
        hothers y (List.mem_cons_of_mem _ hy) fun heq => hnodup.1 (heq ▸ hy)
      rw [hrest, List.append_nil]
    · have hx : f x = [] := hothers x List.mem_cons_self fun heq => hnodup.1 (heq ▸ hmem)
      rw [hx, List.nil_append]
      exact ih hnodup.2 hmem fun y hy => hothers y (List.mem_cons_of_mem _ hy)

section Answers

variable (h : sample.Written root disk) {settings : SearchSettings}
variable (hdepth : 1 ≤ settings.maxDepth) {library template : Nat}

include h hdepth

/-- What stands in one library alone is all that is found. -/
theorem uncached_of_library {query : Query} (hlibrary : library < sample.libraries)
    (hcallers : ∀ caller < sample.callers, query.rule (unlines (sample.callerLines caller)) = [])
    (hothers : ∀ other, other ≠ library → query.rule (unlines (sample.libraryLines other)) = []) :
    disk.uncached settings root query
      = query.clip (located (libraryPath root library)
          (query.rule (unlines (sample.libraryLines library)))) := by
  have hnone : (sample.callersByPath root).flatMap (fun caller =>
      located (callerPath root caller) (query.rule (unlines (sample.callerLines caller))))
        = [] := by
    refine List.flatMap_eq_nil_iff.2 fun caller hcaller => ?_
    rw [hcallers caller ((sample.mem_callersByPath root).1 hcaller)]
    rfl
  rw [h.uncached_eq hdepth, hnone, List.nil_append,
    flatMap_eq_of_unique (sample.nodup_librariesByPath root)
      ((sample.mem_librariesByPath root).2 hlibrary)]
  intro other _ hne
  rw [hothers other hne]
  rfl

/-- A template is found in its library. -/
theorem uncached_templateDefinition (hlibrary : library < sample.libraries)
    (htemplate : template < sample.templates) :
    disk.uncached settings root
        (.templateDefinition (libraryName library) (templateName library template))
      = [{ path := libraryPath root library, line := lineNumber (6 + 3 * template) }] := by
  rw [uncached_of_library h hdepth hlibrary]
  · rw [Query.rule, lines_unlines isKey_of_mem_libraryLines,
      templateDefinition?_libraryLines htemplate, if_pos rfl]
    rfl
  · intro caller hcaller
    have hlines := h.callerLines caller hcaller
    rw [Query.rule, lines_unlines (isKey_of_mem_callerLines hlines),
      templateDefinition?_callerLines hlines]
    rfl
  · intro other hne
    rw [Query.rule, lines_unlines isKey_of_mem_libraryLines,
      templateDefinition?_libraryLines htemplate, if_neg hne]
    rfl

/-- A library is found in its file. -/
theorem uncached_definition (hlibrary : library < sample.libraries) :
    disk.uncached settings root (.definition (libraryName library))
      = [{ path := libraryPath root library, line := lineNumber definitionLine }] := by
  rw [uncached_of_library h hdepth hlibrary]
  · rw [Query.rule, lines_unlines isKey_of_mem_libraryLines, definitions_libraryLines, if_pos rfl]
    rfl
  · intro caller hcaller
    have hlines := h.callerLines caller hcaller
    rw [Query.rule, lines_unlines (isKey_of_mem_callerLines hlines),
      definitions_callerLines hlines]
  · intro other hne
    rw [Query.rule, lines_unlines isKey_of_mem_libraryLines, definitions_libraryLines,
      if_neg fun heq => hne (libraryName_inj heq).symm]

end Answers

/-! ## References -/

/-- The `template:` lines of the steps that lead to a template, by the path of the caller and then
by step. -/
def references (sample : Sample) (root : Path) (library template : Nat) : List Location :=
  (sample.callersByPath root).flatMap fun caller =>
    (List.range sample.stepsPerCaller).filterMap fun step =>
      if sample.target? caller step = some (library, template) then
        (stepLine? step).map fun line =>
          { path := callerPath root caller, line := lineNumber line }
      else none

theorem callerPath_inj {caller other : Nat} (h : callerPath root caller = callerPath root other) :
    caller = other :=
  callerPlace_inj (Path.descend_injective root isName_of_mem_callerPlace isName_of_mem_callerPlace
    (congrArg _ h))

/-- A step whose file has line numbers enough has a line. -/
theorem stepLine?_eq {step : Nat} (h : 12 + 4 * step < lineLimit) :
    stepLine? step = some (12 + 4 * step) := by
  have hmod : step % lineLimit = step := Nat.mod_eq_of_lt (by omega)
  rw [stepLine?, hmod, line?, if_pos h]

section References

variable (hsteps : ∀ step < sample.stepsPerCaller, 12 + 4 * step < lineLimit)

include hsteps

/-- With line numbers enough for all steps, the references are lines of the callers. -/
theorem references_eq (root : Path) (library template : Nat) :
    sample.references root library template
      = (sample.callersByPath root).flatMap fun caller => located (callerPath root caller)
          (((List.range sample.stepsPerCaller).filter fun step =>
            sample.target? caller step = some (library, template)).map fun step =>
              lineNumber (12 + 4 * step)) := by
  refine List.flatMap_congr fun caller _ => ?_
  rw [located, List.map_map, ← List.filterMap_eq_map, List.filterMap_filter]
  refine List.filterMap_congr fun step hstep => ?_
  rw [stepLine?_eq (hsteps step (List.mem_range.1 hstep))]
  simp only [decide_eq_true_eq]
  rfl

/-- No line is listed twice: the callers have different paths, and their steps different lines. -/
theorem nodup_references (root : Path) (library template : Nat) :
    (sample.references root library template).Nodup := by
  rw [references_eq hsteps]
  refine List.nodup_flatMap.2 ⟨fun caller _ => ?_, ?_⟩
  · rw [located, List.map_map]
    refine (List.nodup_range.filter _).map_on fun step hstep other hother heq => ?_
    have hlt := hsteps step (List.mem_range.1 (List.mem_filter.1 hstep).1)
    have hlt' := hsteps other (List.mem_range.1 (List.mem_filter.1 hother).1)
    have hline : lineNumber (12 + 4 * step) = lineNumber (12 + 4 * other) :=
      congrArg Location.line heq
    rw [lineNumber_eq_iff hlt, toNat_lineNumber hlt'] at hline
    omega
  · refine (sample.nodup_callersByPath root).imp fun hne => ?_
    intro location hone htwo
    obtain ⟨_, -, rfl⟩ := List.mem_map.1 hone
    obtain ⟨_, -, heq⟩ := List.mem_map.1 htwo
    exact hne (callerPath_inj (congrArg Location.path heq)).symm

/-- The references of a template are found in the callers and nowhere else. -/
theorem uncached_templateReferences (h : sample.Written root disk) {settings : SearchSettings}
    (hdepth : 1 ≤ settings.maxDepth) (library template : Nat) :
    disk.uncached settings root
        (.templateReferences (libraryName library) (templateName library template))
      = sample.references root library template := by
  have hlibraries : (sample.librariesByPath root).flatMap (fun other =>
      located (libraryPath root other)
        (Query.rule (.templateReferences (libraryName library) (templateName library template))
          (unlines (sample.libraryLines other)))) = [] := by
    refine List.flatMap_eq_nil_iff.2 fun other _ => ?_
    rw [Query.rule, lines_unlines isKey_of_mem_libraryLines, templateReferences_libraryLines]
    rfl
  rw [h.uncached_eq hdepth, hlibraries, List.append_nil, references_eq hsteps]
  refine List.flatMap_congr fun caller hcaller => ?_
  have hlines := h.callerLines caller ((sample.mem_callersByPath root).1 hcaller)
  rw [Query.rule, lines_unlines (isKey_of_mem_callerLines hlines),
    templateReferences_callerLines hlines]
  congr 2
  refine List.filter_congr fun step hstep => ?_
  rw [(callerLines?_eq_some hlines).1 step (List.mem_range.1 hstep)]
  simp only [Option.some.injEq]

end References

/-! ## From the cursor to the locations -/

/-- An entry whose file has line numbers enough has a line. -/
theorem templateLine?_eq {template : Nat} (h : 6 + 3 * template < lineLimit) :
    templateLine? template = some (6 + 3 * template) := by
  have hmod : template % lineLimit = template := Nat.mod_eq_of_lt (by omega)
  rw [templateLine?, hmod, line?, if_pos h]

/-- What a step leads to is there. -/
theorem target_lt {caller step : Nat} {found : Nat × Nat}
    (h : sample.target? caller step = some found) :
    found.1 < sample.libraries ∧ found.2 < sample.templates := by
  unfold target? at h
  split at h
  · exact absurd h (by simp)
  · next hsome =>
    obtain rfl := Option.some.inj h
    rw [not_or, not_or] at hsome
    exact ⟨Nat.mod_lt _ (Nat.pos_of_ne_zero hsome.1), Nat.mod_lt _ (Nat.pos_of_ne_zero hsome.2.1)⟩

theorem ofCursor?_unlines {lines : List Text} (h : ∀ line ∈ lines, ∀ c ∈ line, Text.isKey c = true)
    (i column : Nat) : Site.ofCursor? (unlines lines) i column = Site.at? lines i column := by
  rw [Site.ofCursor?, lines_unlines h]

/-- **Navigation in a sample workspace.** A sample is written into an empty directory, its files
having fewer lines than there are line numbers. Then, with fresh caches and any search that enters
directories, at any column: the `template:` of a step leads to the entry of its target, the line
above leads to the name of the target's library, and the entry, unless too many lines lie between it
and `templates:`, leads back to exactly the steps that have this target, by path and step, none
twice. -/
theorem resolve_sample {settings : SearchSettings} {written : Disk} {place : Place}
    {files : List (Path × Text)} {caller step : Nat} (hdepth : 1 ≤ settings.maxDepth)
    (hwell : disk.WellFormed) (hempty : disk.IsEmptyAt root place)
    (hfiles : sample.files? root = some files)
    (hlines : ∀ file ∈ files, (Text.lines file.2).length < lineLimit)
    (hwrite : sample.write? disk root = some written) (hcaller : caller < sample.callers)
    (hstep : step < sample.stepsPerCaller) (now column : Nat) :
    ∃ library template stepLine entryLine callerText libraryText,
      sample.target? caller step = some (library, template)
      ∧ stepLine? step = some stepLine ∧ templateLine? template = some entryLine
      ∧ written.readText (callerPath root caller) = .ok callerText
      ∧ written.readText (libraryPath root library) = .ok libraryText
      ∧ (Navigator.ofSettings settings).Finds { disk := written, now := now } root callerText
          stepLine column
          (.templateReference (libraryName library) (templateName library template))
          [{ path := libraryPath root library, line := lineNumber entryLine }]
      ∧ (Navigator.ofSettings settings).Finds { disk := written, now := now } root callerText
          (stepLine - 1) column (.workflowTemplateReference (libraryName library))
          [{ path := libraryPath root library, line := lineNumber definitionLine }]
      ∧ (template ≤ 16 →
          (Navigator.ofSettings settings).Finds { disk := written, now := now } root libraryText
            entryLine column
            (.templateDefinition (libraryName library) (templateName library template))
            (sample.references root library template)
          ∧ (sample.references root library template).Nodup) := by
  have h : sample.Written root written := written_of_write? hwell hempty hwrite
  obtain ⟨hcallerLines, rfl⟩ := files?_eq_some hfiles
  have hcallerFile := hcallerLines caller hcaller
  have htarget := (callerLines?_eq_some hcallerFile).1 step hstep
  obtain ⟨hlibrary, htemplate⟩ := target_lt htarget
  -- the two files, and that their lines can be numbered
  have hcallerKeys := isKey_of_mem_callerLines hcallerFile
  have hcallerPlaced := mem_placedFiles.2 (.inr ⟨caller, hcaller, rfl⟩)
  have hlibraryPlaced := mem_placedFiles.2 (.inl ⟨(sample.target caller step).1, hlibrary, rfl⟩)
  have hnumbered : ∀ {names : Place} {lines : List Text},
      (names, unlines lines) ∈ sample.placedFiles →
      (∀ line ∈ lines, ∀ c ∈ line, Text.isKey c = true) → lines.length < lineLimit := by
    intro names lines hfile hkeys
    have hlt := hlines _ (List.mem_map_of_mem hfile)
    rwa [lines_unlines hkeys] at hlt
  have hcallerLength := hnumbered hcallerPlaced hcallerKeys
  have hlibraryLength := hnumbered hlibraryPlaced isKey_of_mem_libraryLines
  rw [length_callerLines hcallerFile] at hcallerLength
  rw [length_libraryLines] at hlibraryLength
  have hsteps : ∀ step < sample.stepsPerCaller, 12 + 4 * step < lineLimit :=
    fun step hlt => by omega
  refine ⟨(sample.target caller step).1, (sample.target caller step).2, _, _, _, _, htarget,
    stepLine?_eq (hsteps step hstep), templateLine?_eq (by omega), h.readText_eq hcallerPlaced,
    h.readText_eq hlibraryPlaced, ?_, ?_, fun hreach => ⟨?_, nodup_references hsteps root _ _⟩⟩
  · rw [← uncached_templateDefinition h hdepth hlibrary htemplate]
    exact Navigator.finds_ofSettings h.wellFormed
      ((ofCursor?_unlines hcallerKeys _ _).trans (at?_template hcallerFile hstep column))
  · rw [← uncached_definition h hdepth hlibrary, show 12 + 4 * step - 1 = 11 + 4 * step by omega]
    exact Navigator.finds_ofSettings h.wellFormed
      ((ofCursor?_unlines hcallerKeys _ _).trans (at?_owner hcallerFile hstep column))
  · rw [← uncached_templateReferences hsteps h hdepth]
    exact Navigator.finds_ofSettings h.wellFormed
      ((ofCursor?_unlines isKey_of_mem_libraryLines _ _).trans (at?_entry htemplate hreach column))

/-- The last step of the last caller of the small sample, at the top of an empty disk. Its line is
the seventeenth of its file, and it leads to the second template of the first library. -/
theorem resolve_sample_small :
    ∃ written callerText, small.write? {} .top = some written
      ∧ written.readText (callerPath .top 9) = .ok callerText
      ∧ (Navigator.ofSettings {}).Finds { disk := written, now := 0 } .top callerText 16 4
          (.templateReference (libraryName 0) (templateName 0 1))
          [{ path := libraryPath .top 0, line := 9 }] := by
  have hwell : ({} : Disk).WellFormed := ⟨List.nodup_nil, nofun, nofun⟩
  have hempty : ({} : Disk).IsEmptyAt .top [] :=
    ⟨Disk.locate_top _, rfl, fun names hne => by simp [Disk.get?, hne, Keyed.get?]⟩
  obtain ⟨files, hfiles⟩ : ∃ files, small.files? .top = some files :=
    Option.isSome_iff_exists.1 (by decide +kernel)
  have hlines : ∀ file ∈ files, (Text.lines file.2).length < lineLimit := by
    intro file hfile
    rcases length_lines_of_files? hfiles file hfile with hlength | hlength
    · rw [hlength]
      decide
    · rw [hlength]
      decide
  obtain ⟨written, hwrite⟩ := exists_write? hwell hempty hfiles (by decide +kernel)
    (by decide +kernel) (by decide +kernel)
  obtain ⟨library, template, stepLine, entryLine, callerText, _, htarget, hstep, hentry, hcaller, -,
    hfound, -⟩ := resolve_sample (show 1 ≤ ({} : SearchSettings).maxDepth by decide) hwell hempty
      hfiles hlines hwrite (show 9 < small.callers by decide)
      (show 1 < small.stepsPerCaller by decide) 0 4
  obtain ⟨rfl, rfl⟩ : 0 = library ∧ 1 = template := by
    rw [show small.target? 9 1 = some (0, 1) by decide] at htarget
    exact Prod.mk.inj (Option.some.inj htarget)
  rw [show stepLine? 1 = some 16 by decide] at hstep
  rw [show templateLine? 1 = some 9 by decide] at hentry
  obtain rfl := Option.some.inj hstep
  obtain rfl := Option.some.inj hentry
  exact ⟨written, callerText, hwrite, hcaller, hfound⟩

end Sample

end WorkflowNav
