/-
The rules and the searches, with all that could go wrong.

A rule of the cursor and a search in a manifest can be written with nothing that fails: take some
lines, look for one that passes. They can also be written the way one writes them over an array,
with loops over positions, a line taken by its position, one position computed from another by
subtraction, and a value cut out of a line by the bytes where it starts and stops. Then each of
these steps may fail. There is no line at the position, the difference is below zero, the cut goes
through a character.

Here they are written in this second way. A step that fails ends everything (`Fault`). Nothing
guards a step but what stands in front of it, so a loop with a wrong bound would show. Three of the
parts do fail when they are asked about a line that is not there. They are taken as parameters of
what uses them (`Helpers`), so that it can be told whether they are ever asked such a thing.
-/
import Mathlib.Data.List.Forall2
import WorkflowNav.Proofs.Naming
import WorkflowNav.Proofs.Token

set_option autoImplicit false

namespace WorkflowNav.Indexed

open Manifest

/-! ## Steps that can fail -/

/-- Why a step fails. -/
inductive Fault where
  /-- There is no line at the position. -/
  | index
  /-- The difference is below zero. -/
  | underflow
  /-- The cut is not between two characters of the line. -/
  | cut
  deriving DecidableEq, Repr

/-- What steps give, unless one of them fails. -/
abbrev Checked (α : Type) : Type := Except Fault α

/-- The line at a position. -/
def fetch (lines : List Text) (i : Nat) : Checked Text :=
  match lines[i]? with
  | some line => .ok line
  | none => .error .index

/-- Whether the line at a position passes a test. -/
def passes (lines : List Text) (test : Text → Bool) (i : Nat) : Checked Bool := do
  return test (← fetch lines i)

/-- The difference of two numbers. -/
def minus (a b : Nat) : Checked Nat := if b ≤ a then .ok (a - b) else .error .underflow

/-- A text in two, the first part of so many bytes. -/
def cutAt : Nat → Text → Checked (Text × Text)
  | 0, text => .ok ([], text)
  | _ + 1, [] => .error .cut
  | n + 1, c :: rest =>
    if c.utf8Size ≤ n + 1 then do
      let (front, back) ← cutAt (n + 1 - c.utf8Size) rest
      return (c :: front, back)
    else .error .cut

/-- A stretch of bytes: where it starts, and where it stops. -/
structure Stretch where
  start : Nat
  stop : Nat
  deriving DecidableEq, Repr

/-- The stretch so many bytes further on. -/
def Stretch.shift (n : Nat) (stretch : Stretch) : Stretch := ⟨n + stretch.start, n + stretch.stop⟩

/-- The part of a line in a stretch of its bytes. -/
def slice (line : Text) (stretch : Stretch) : Checked Text :=
  if stretch.start ≤ stretch.stop then do
    let (_, rest) ← cutAt stretch.start line
    let (part, _) ← cutAt (stretch.stop - stretch.start) rest
    return part
  else .error .cut

/-- The positions from `lo` on and before `hi`. -/
def between (lo hi : Nat) : List Nat := List.range' lo (hi - lo)

/-! ## Values cut out of a line -/

/-- The bytes of the quote at the front of a text. -/
def quoteSize : Text → Nat
  | [] => 0
  | c :: _ => if isQuote c then c.utf8Size else 0

/-- Where the value is in the text after its key: behind the blanks and the quote. -/
def valueStretch? (text : Text) : Option Stretch :=
  (value? text).map fun value =>
    let start := Text.byteSize (text.takeWhile Text.isBlank) + quoteSize (Text.dropBlanks text)
    ⟨start, start + Text.byteSize value⟩

/-- Where the value of a key is in a line. -/
def stretchOf? (key : Text) : Text → Option Stretch
  | [] => none
  | c :: rest =>
    match (key.isPrefixOf? (c :: rest)).bind valueStretch? with
    | some stretch => some (stretch.shift (Text.byteSize key))
    | none => (stretchOf? key rest).map (Stretch.shift c.utf8Size)

/-- Where the text of a `- name:` entry is in a line. It goes up to the end. -/
def entryStretch? (line : Text) : Option Stretch :=
  (entryText? line).map fun text =>
    ⟨Text.byteSize line - Text.byteSize text, Text.byteSize line⟩

/-- Where the first token that touches an offset is. -/
def tokenStretch? (line : Text) (offset : Nat) : Option Stretch :=
  ((Token.all line).find? (·.touches offset)).map fun token => ⟨token.start, token.stop⟩

/-- The part of a line in a stretch, if there is one. -/
def cutOut (line : Text) : Option Stretch → Checked (Option Text)
  | none => .ok none
  | some stretch => do return some (← slice line stretch)

/-- The value of `name:` in a line. -/
def readName (line : Text) : Checked (Option Text) := cutOut line (stretchOf? Marker.name line)

/-- The value of `template:` in a line. -/
def readTemplate (line : Text) : Checked (Option Text) :=
  cutOut line (stretchOf? Marker.template line)

/-- The text of a `- name:` entry as written. -/
def readEntry (line : Text) : Checked (Option Text) := cutOut line (entryStretch? line)

/-- The first token that touches an offset, without quotes. -/
def readToken (line : Text) (offset : Nat) : Checked (Option Text) := do
  let token ← cutOut line (tokenStretch? line offset)
  return token.map fun text => text.filter fun c => !isQuote c

/-! ## Parts that are asked about a line -/

/-- Go up the lines to a `templates:`, or to a line that opens a document. -/
def inTemplatesFrom (lines : List Text) : List Nat → Checked Bool
  | [] => .ok false
  | i :: above => do
    let line ← fetch lines i
    if Text.has Marker.templates line then return true
    else if Text.has Marker.kind line || Text.has Marker.apiVersion line then return false
    else inTemplatesFrom lines above

/-- Whether the line at a position lies in a list of templates. -/
def inTemplates (lines : List Text) (i : Nat) : Checked Bool :=
  inTemplatesFrom lines (between (i - Site.templatesReach) (i + 1)).reverse

/-- The first name close below a kind line. -/
def nameBelow (lines : List Text) (kindLine : Nat) : Checked (Option Text) :=
  (between (kindLine + 1) (min (kindLine + Site.ownerReach) lines.length)).findSomeM? fun i => do
    let line ← fetch lines i
    if Text.has Marker.name line then readName line else return none

/-- The name of the nearest WorkflowTemplate, from the line at a position upwards. -/
def owner (lines : List Text) (i : Nat) : Checked (Option Text) :=
  (between 0 (i + 1)).reverse.findSomeM? fun kindLine => do
    let line ← fetch lines kindLine
    if Text.has Marker.workflowTemplate line then nameBelow lines kindLine else return none

/-- Whether the line at a position opens a document. The line before it is only looked at if the
answer hangs on it. -/
def opensDocument (lines : List Text) (i : Nat) : Checked Bool := do
  let line ← fetch lines i
  if Marker.kind.isPrefixOf line then return true
  else if Marker.apiVersion.isPrefixOf line && 0 < i then
    let previous ← fetch lines (← minus i 1)
    return previous == Marker.separator
  else return false

/-- The three parts that are asked about a line at a position. -/
structure Helpers where
  inTemplates : List Text → Nat → Checked Bool
  owner : List Text → Nat → Checked (Option Text)
  opensDocument : List Text → Nat → Checked Bool

/-- The three parts as they are. -/
def Helpers.own : Helpers := ⟨Indexed.inTemplates, Indexed.owner, Indexed.opensDocument⟩

/-- The parts say what they should of every line that is there. What they do with other positions is
left open. -/
structure Helpers.RightBelow (helpers : Helpers) : Prop where
  inTemplates : ∀ lines i, i < lines.length →
    helpers.inTemplates lines i = Indexed.inTemplates lines i
  owner : ∀ lines i, i < lines.length → helpers.owner lines i = Indexed.owner lines i
  opensDocument : ∀ lines i, i < lines.length →
    helpers.opensDocument lines i = Indexed.opensDocument lines i

/-! ## The rules of the cursor -/

/-- The first rule: an entry in a list of templates. -/
def templateDefinitionRule (helpers : Helpers) (lines : List Text) (i : Nat) :
    Checked (Option Site) := do
  match ← readEntry (← fetch lines i) with
  | none => return none
  | some written =>
    if ← helpers.inTemplates lines i then
      match ← helpers.owner lines i with
      | none => return none
      | some owner =>
        let name ← readName (← fetch lines i)
        return some (.templateDefinition owner (name.getD (Text.trim written)))
    else return none

/-- Go up the lines to a kind line past a `metadata:`. -/
def metadataFrom (lines : List Text) (current : Text) (seen : Bool) :
    List Nat → Checked (Option Text)
  | [] => .ok none
  | i :: above => do
    let line ← fetch lines i
    if Text.has Marker.spec line || Text.has Marker.status line then return none
    else
      let seen := seen || Text.has Marker.metadata line
      if Text.has Marker.workflowTemplate line then
        if seen then readName current else return none
      else metadataFrom lines current seen above

/-- The second rule: a name in the metadata of a WorkflowTemplate. -/
def workflowTemplateDefinitionRule (lines : List Text) (i : Nat) : Checked (Option Site) := do
  let current ← fetch lines i
  if Text.has Marker.name current then
    let name ← metadataFrom lines current false (between (i - Site.metadataReach) i).reverse
    return name.map .workflowTemplateDefinition
  else return none

/-- The name beside a template, from below its `templateRef:` to a few lines below the cursor. -/
def sibling (lines : List Text) (refLine i : Nat) : Checked (Option Text) := do
  let last := min (i + Site.siblingReach) (← minus lines.length 1)
  (between (refLine + 1) (last + 1)).findSomeM? fun j => do
    let line ← fetch lines j
    if Text.has Marker.name line && !Text.has Marker.template line then readName line
    else return none

/-- The third rule: the `template:` of a reference. -/
def templateReferenceRule (lines : List Text) (i : Nat) : Checked (Option Site) := do
  let current ← fetch lines i
  if Text.has Marker.template current then
    match ← (between (i - Site.templateReach) i).reverse.findM?
        (passes lines (Text.has Marker.templateRef)) with
    | none => return none
    | some refLine =>
      match ← sibling lines refLine i with
      | none => return none
      | some owner =>
        let template ← readTemplate current
        return template.map (.templateReference owner)
  else return none

/-- Go up the lines to a `templateRef:`, or to an entry. -/
def referenceFrom (lines : List Text) (current : Text) : List Nat → Checked (Option Text)
  | [] => .ok none
  | i :: above => do
    let line ← fetch lines i
    if Text.has Marker.templateRef line then readName current
    else if (← readEntry line).isSome then return none
    else referenceFrom lines current above

/-- The fourth rule: the `name:` of a reference. -/
def workflowTemplateReferenceRule (lines : List Text) (i : Nat) : Checked (Option Site) := do
  let current ← fetch lines i
  if Text.has Marker.name current && !Text.has Marker.template current then
    let name ← referenceFrom lines current (between (i - Site.nameReach) i).reverse
    return name.map .workflowTemplateReference
  else return none

/-- The last rule: the token at the column. -/
def wordRule (current : Text) (column : Nat) : Checked (Option Site) := do
  let token ← readToken current (Text.byteOffset current column)
  return (token.filter (Site.wordLength ≤ ·.length)).map .word

/-- What stands at a line and UTF-16 column of a text. -/
def site (helpers : Helpers) (text : Text) (i column : Nat) : Checked (Option Site) :=
  let lines := Text.lines text
  match lines[i]? with
  | none => .ok none
  | some current =>
    [templateDefinitionRule helpers lines i, workflowTemplateDefinitionRule lines i,
      templateReferenceRule lines i, workflowTemplateReferenceRule lines i,
      wordRule current column].findSomeM? id

/-! ## The searches -/

/-- The first line from `start` on that follows a `metadata:` line and names `name`. -/
def metadataName (lines : List Text) (start : Nat) (name : Text) : Checked (Option Nat) :=
  (between (max start 1) lines.length).findM? fun i => do
    let previous ← fetch lines (← minus i 1)
    if Text.has Marker.metadata previous then
      return (← readName (← fetch lines i)) == some name
    else return false

/-- The position after the block of a kind line. -/
def blockEnd (helpers : Helpers) (lines : List Text) (kindLine : Nat) : Checked Nat := do
  let boundary ← (between (kindLine + 1) lines.length).findM? (helpers.opensDocument lines)
  return boundary.getD lines.length

/-- The entry of `template` in the block of a kind line, if that block is named `owner`. -/
def entryInBlock (helpers : Helpers) (lines : List Text) (owner template : Text) (kindLine : Nat) :
    Checked (Option Nat) := do
  let stop ← blockEnd helpers lines kindLine
  match ← metadataName lines kindLine owner with
  | none => return none
  | some nameLine =>
    if stop ≤ nameLine then return none
    else
      match ← (between kindLine stop).findM? (passes lines (Text.has Marker.templates)) with
      | none => return none
      | some listLine => (between (listLine + 1) stop).findM? (passes lines (isEntryOf template))

/-- The name lines of the WorkflowTemplates called `name`. -/
def definitions (text name : Text) : Checked (List UInt32) :=
  let lines := Text.lines text
  (kindLines lines).filterMapM fun kindLine => do
    let found ← metadataName lines kindLine name
    return found.map lineNumber

/-- The entry of `template` in the first block of `owner` that has one. -/
def templateDefinition (helpers : Helpers) (text owner template : Text) :
    Checked (Option UInt32) := do
  let lines := Text.lines text
  let found ← (kindLines lines).findSomeM? (entryInBlock helpers lines owner template)
  return found.map lineNumber

/-- Read one line of a reference block. What is read so far, and whether a name was met, is passed
on from line to line. -/
def readRefLine (block : RefBlock UInt32) (named : Bool) (line : Text) (i : Nat) :
    Checked (RefBlock UInt32 × Bool) := do
  if Text.has Marker.template line then
    if block.template.isNone then
      let value ← readTemplate line
      return ({ block with template := value.map fun value => (value, lineNumber i) }, named)
    else return (block, named)
  else if Text.has Marker.name line && !named then
    let value ← readName line
    return ({ block with owner := value.map fun value => (value, lineNumber i) }, true)
  else return (block, named)

/-- Read the lines after a `templateRef:`, at the given distances from it. -/
def refBlockFrom (lines : List Text) (refLine : Nat) (block : RefBlock UInt32) (named : Bool) :
    List Nat → Checked (RefBlock UInt32)
  | [] => .ok block
  | distance :: more =>
    match lines[refLine + distance]? with
    | none => .ok block
    | some line =>
      if 1 < distance && isNewItem line then .ok block
      else do
        let (block, named) ← readRefLine block named line (refLine + distance)
        refBlockFrom lines refLine block named more

/-- Read the block of the `templateRef:` at a position. -/
def refBlock (lines : List Text) (refLine : Nat) : Checked (RefBlock UInt32) :=
  refBlockFrom lines refLine ⟨none, none⟩ false (between 1 (refBlockLines + 1))

/-- The `template:` lines of the reference blocks that name `owner` and `template`. -/
def templateReferences (text owner template : Text) : Checked (List UInt32) :=
  let lines := Text.lines text
  (linesWith Marker.templateRef lines).filterMapM fun refLine => do
    let block ← refBlock lines refLine
    return block.templateLine? owner template

/-- The name line that a `workflowTemplateRef:` at a position has for `owner`. -/
def wholeRefLine (lines : List Text) (owner : Text) (refLine : Nat) : Checked (Option Nat) :=
  let stop := min (refLine + 1 + workflowTemplateRefLines) lines.length
  (between (refLine + 1) stop).findM? fun i => do
    let line ← fetch lines i
    if Text.has Marker.name line then return (← readName line) == some owner else return false

/-- The `name:` lines of references of both kinds that name the WorkflowTemplate `owner`. -/
def workflowTemplateReferences (text owner : Text) : Checked (List UInt32) :=
  let lines := Text.lines text
  lines.zipIdx.flatMapM fun (line, i) => do
    let part ←
      if Text.has Marker.templateRef line then do
        let block ← refBlock lines i
        pure (block.ownerLine? owner)
      else pure none
    let whole ←
      if Text.has Marker.workflowTemplateRef line then wholeRefLine lines owner i else pure none
    return part.toList ++ (whole.map lineNumber).toList

/-! ## Single steps -/

section Steps

variable {lines : List Text} {i : Nat} {line : Text}

@[simp] theorem ok_bind {α β : Type} (a : α) (next : α → Checked β) :
    (Except.ok a >>= next) = next a := rfl

@[simp] theorem pure_eq_ok {α : Type} (a : α) : (pure a : Checked α) = .ok a := rfl

theorem fetch_eq (h : lines[i]? = some line) : fetch lines i = .ok line := by
  rw [fetch, h]

theorem fetch_eq_error (h : lines.length ≤ i) : fetch lines i = .error .index := by
  rw [fetch, List.getElem?_eq_none h]

theorem passes_eq (h : lines[i]? = some line) (test : Text → Bool) :
    passes lines test i = .ok (test line) := by
  rw [passes, fetch_eq h]
  rfl

theorem minus_eq {a b : Nat} (h : b ≤ a) : minus a b = .ok (a - b) := if_pos h

/-- A cut between two characters does not fail. -/
theorem cutAt_byteSize (front back : Text) :
    cutAt (Text.byteSize front) (front ++ back) = .ok (front, back) := by
  induction front with
  | nil => rw [Text.byteSize, List.nil_append, cutAt]
  | cons c front ih =>
    have hpos := Char.utf8Size_pos c
    obtain ⟨n, hn⟩ : ∃ n, c.utf8Size + Text.byteSize front = n + 1 :=
      ⟨c.utf8Size + Text.byteSize front - 1, by omega⟩
    rw [Text.byteSize, List.cons_append, hn, cutAt, if_pos (by omega), ← hn,
      Nat.add_sub_cancel_left, ih]
    rfl

end Steps

/-! ## Values are cut out between characters -/

/-- A stretch is where a part of a line stands. -/
def Marks (line : Text) (stretch : Stretch) (part : Text) : Prop :=
  ∃ front back, line = front ++ (part ++ back) ∧ stretch.start = Text.byteSize front
    ∧ stretch.stop = Text.byteSize front + Text.byteSize part

section Marks

variable {line part : Text} {stretch : Stretch} {found : Option Stretch} {read : Option Text}

theorem Marks.slice_eq (h : Marks line stretch part) : slice line stretch = .ok part := by
  obtain ⟨front, back, rfl, hstart, hstop⟩ := h
  have hle : stretch.start ≤ stretch.stop := by omega
  have hsize : stretch.stop - stretch.start = Text.byteSize part := by omega
  rw [slice, if_pos hle, hsize, hstart, cutAt_byteSize, ok_bind]
  dsimp only
  rw [cutAt_byteSize]
  rfl

theorem Marks.shift (front : Text) (h : Marks line stretch part) :
    Marks (front ++ line) (stretch.shift (Text.byteSize front)) part := by
  obtain ⟨gap, back, rfl, hstart, hstop⟩ := h
  refine ⟨front ++ gap, back, (List.append_assoc _ _ _).symm, ?_, ?_⟩
  · rw [Stretch.shift, hstart, Text.byteSize_append]
  · rw [Stretch.shift, hstop, Text.byteSize_append, Nat.add_assoc]

theorem rel_shift (front : Text) (h : Option.Rel (Marks line) found read) :
    Option.Rel (Marks (front ++ line)) (found.map (Stretch.shift (Text.byteSize front))) read := by
  cases h with
  | none => exact .none
  | some hmarks => exact .some (hmarks.shift front)

/-- What is marked is cut out without a fault. -/
theorem cutOut_eq (h : Option.Rel (Marks line) found read) : cutOut line found = .ok read := by
  cases h with
  | none => rfl
  | some hmarks =>
    rw [cutOut, hmarks.slice_eq]
    rfl

end Marks

theorem exists_quote (text : Text) :
    ∃ mark, text = mark ++ dropQuote text ∧ Text.byteSize mark = quoteSize text := by
  cases text with
  | nil => exact ⟨[], rfl, rfl⟩
  | cons c rest =>
    by_cases hc : isQuote c = true
    · exact ⟨[c], by simp [dropQuote, hc], by simp [quoteSize, hc, Text.byteSize]⟩
    · exact ⟨[], by simp [dropQuote, hc], by simp [quoteSize, hc, Text.byteSize]⟩

theorem marks_valueStretch? (text : Text) :
    Option.Rel (Marks text) (valueStretch? text) (value? text) := by
  cases hvalue : value? text with
  | none =>
    rw [valueStretch?, hvalue]
    exact .none
  | some value =>
    rw [valueStretch?, hvalue]
    apply Option.Rel.some
    obtain ⟨mark, hmark, hsize⟩ := exists_quote (Text.dropBlanks text)
    have htext : text = text.takeWhile Text.isBlank ++ Text.dropBlanks text :=
      List.takeWhile_append_dropWhile.symm
    -- the value is what the body starts with
    have hbody : ∃ back, dropQuote (Text.dropBlanks text) = value ++ back := by
      simp only [value?] at hvalue
      split at hvalue
      · obtain rfl := Option.some.inj hvalue
        exact ⟨_, List.takeWhile_append_dropWhile.symm⟩
      · exact absurd hvalue (by simp)
    obtain ⟨back, hback⟩ := hbody
    refine ⟨text.takeWhile Text.isBlank ++ mark, back, ?_, ?_, ?_⟩
    · rw [List.append_assoc, ← hback, ← hmark, ← htext]
    · rw [Text.byteSize_append, hsize]
    · rw [Text.byteSize_append, hsize]

theorem marks_stretchOf? (key line : Text) :
    Option.Rel (Marks line) (stretchOf? key line) (valueOf? key line) := by
  induction line with
  | nil => exact .none
  | cons c rest ih =>
    have hrest : Option.Rel (Marks (c :: rest))
        ((stretchOf? key rest).map (Stretch.shift c.utf8Size)) (valueOf? key rest) := by
      have hsize : Text.byteSize [c] = c.utf8Size := Nat.add_zero _
      rw [← hsize]
      exact rel_shift [c] ih
    rw [stretchOf?, valueOf?]
    cases hkey : key.isPrefixOf? (c :: rest) with
    | none => exact hrest
    | some after =>
      rw [List.isPrefixOf?_eq_some_iff_append_eq] at hkey
      rw [Option.bind_some, Option.bind_some]
      have hafter := marks_valueStretch? after
      -- a place where the key has no value gives way to the next one
      generalize valueStretch? after = found, value? after = read at hafter
      cases hafter with
      | none => exact hrest
      | some hmarks =>
        rw [← hkey]
        exact .some (hmarks.shift key)

theorem isSuffix_of_entryText? {line text : Text} (h : entryText? line = some text) :
    text <:+ line := by
  obtain ⟨rest, hafter, htext⟩ := Option.bind_eq_some_iff.1 h
  apply List.IsSuffix.trans _ (isSuffix_of_afterEntryKey? hafter)
  split at htext
  · -- only blanks follow, and the last of them is the text
    obtain ⟨last, hlast, rfl⟩ := Option.map_eq_some_iff.1 htext
    obtain ⟨before, hbefore⟩ := List.getLast?_eq_some_iff.1 (Option.filter_eq_some_iff.1 hlast).1
    exact ⟨before, hbefore.symm⟩
  · split at htext
    · exact absurd htext (by simp)
    · obtain rfl := Option.some.inj htext
      exact List.dropWhile_suffix _

theorem marks_entryStretch? (line : Text) :
    Option.Rel (Marks line) (entryStretch? line) (entryText? line) := by
  cases htext : entryText? line with
  | none =>
    rw [entryStretch?, htext]
    exact .none
  | some text =>
    rw [entryStretch?, htext]
    obtain ⟨front, rfl⟩ := isSuffix_of_entryText? htext
    refine .some ⟨front, [], by rw [List.append_nil], ?_, Text.byteSize_append _ _⟩
    dsimp only
    rw [Text.byteSize_append, Nat.add_sub_cancel]

theorem marks_tokenStretch? (line : Text) (offset : Nat) :
    Option.Rel (Marks line) (tokenStretch? line offset)
      (((Token.all line).find? (·.touches offset)).map Token.text) := by
  rw [tokenStretch?]
  cases htoken : (Token.all line).find? (·.touches offset) with
  | none => exact .none
  | some token =>
    obtain ⟨front, rest, hline, hstart, -⟩ :=
      (Token.takenFrom_all line).exists_fits (List.mem_of_find?_eq_some htoken)
    rw [Nat.zero_add] at hstart
    refine .some ⟨front, rest, hline, hstart, ?_⟩
    rw [← hstart]
    rfl

@[simp] theorem readName_eq (line : Text) : readName line = .ok (name? line) :=
  cutOut_eq (marks_stretchOf? Marker.name line)

@[simp] theorem readTemplate_eq (line : Text) : readTemplate line = .ok (template? line) :=
  cutOut_eq (marks_stretchOf? Marker.template line)

@[simp] theorem readEntry_eq (line : Text) : readEntry line = .ok (entryText? line) :=
  cutOut_eq (marks_entryStretch? line)

@[simp] theorem readToken_eq (line : Text) (offset : Nat) :
    readToken line offset = .ok (Token.at? line offset) := by
  rw [readToken, cutOut_eq (marks_tokenStretch? line offset), ok_bind, Option.map_map]
  rfl

/-! ## Loops that do not fail -/

section Loops

variable {α β : Type}

theorem findSomeM?_of_forall₂ {ι : Type} {steps : List ι} {xs : List α}
    {body : ι → Checked (Option β)} {read : α → Option β}
    (h : List.Forall₂ (fun step x => body step = .ok (read x)) steps xs) :
    steps.findSomeM? body = .ok (xs.findSome? read) := by
  induction h with
  | nil => rfl
  | @cons step x steps xs hbody _ ih =>
    rw [List.findSomeM?, hbody, ok_bind, List.findSome?_cons]
    cases read x with
    | none => exact ih
    | some b => rfl

theorem findM?_of_forall₂ {positions : List Nat} {xs : List α} {body : Nat → Checked Bool}
    {test : α → Bool} (h : List.Forall₂ (fun i x => body i = .ok (test x)) positions xs) :
    positions.findM? body = .ok ((xs.findIdx? test).bind (positions[·]?)) := by
  induction h with
  | nil => rfl
  | @cons i x positions xs hbody _ ih =>
    rw [List.findM?, hbody, ok_bind, List.findIdx?_cons]
    cases test x with
    | true => rfl
    | false =>
      -- one step less in the rest
      have hrest : ((xs.findIdx? test).map (· + 1)).bind ((i :: positions)[·]?)
          = (xs.findIdx? test).bind (positions[·]?) := by
        rw [Option.bind_map]
        rfl
      rw [← hrest] at ih
      exact ih

theorem filterMapM_eq_ok {xs : List α} {body : α → Checked (Option β)} {read : α → Option β}
    (h : ∀ x ∈ xs, body x = .ok (read x)) : xs.filterMapM body = .ok (xs.filterMap read) := by
  induction xs with
  | nil => rfl
  | cons x xs ih =>
    rw [List.filterMapM_cons, h x List.mem_cons_self, ok_bind,
      ih fun y hy => h y (List.mem_cons_of_mem x hy), List.filterMap_cons]
    cases read x <;> rfl

theorem flatMapM_eq_ok {xs : List α} {body : α → Checked (List β)} {read : α → List β}
    (h : ∀ x ∈ xs, body x = .ok (read x)) : xs.flatMapM body = .ok (xs.flatMap read) := by
  induction xs with
  | nil => rfl
  | cons x xs ih =>
    rw [List.flatMapM_cons, h x List.mem_cons_self, ok_bind,
      ih fun y hy => h y (List.mem_cons_of_mem x hy), ok_bind, List.flatMap_cons]
    rfl

theorem length_between (lo hi : Nat) : (between lo hi).length = hi - lo := List.length_range'

theorem mem_between {lo hi i : Nat} : i ∈ between lo hi ↔ lo ≤ i ∧ i < hi := by
  rw [between, List.mem_range'_1]
  omega

theorem getElem?_between {lo hi q : Nat} (h : lo + q < hi) :
    (between lo hi)[q]? = some (lo + q) := by
  rw [between, List.getElem?_range' (by omega), Nat.one_mul]

theorem between_succ {lo hi : Nat} (h : lo ≤ hi) : between lo (hi + 1) = between lo hi ++ [hi] := by
  rw [between, between, Nat.succ_sub h, List.range'_1_concat, Nat.add_sub_cancel' h]

/-- A loop upwards starts at the line itself. -/
theorem reverse_between_succ {lo hi : Nat} (h : lo ≤ hi) :
    (between lo (hi + 1)).reverse = hi :: (between lo hi).reverse := by
  rw [between_succ h, List.reverse_append]
  rfl

/-- The positions of a stretch beside what stands there. -/
theorem forall₂_between {R : Nat → α → Prop} {xs : List α} {lo hi : Nat} (hhi : hi ≤ xs.length)
    (h : ∀ i x, lo ≤ i → i < hi → xs[i]? = some x → R i x) :
    List.Forall₂ R (between lo hi) ((xs.take hi).drop lo) := by
  have hlength : ((xs.take hi).drop lo).length = hi - lo := by
    rw [List.length_drop, List.length_take_of_le hhi]
  rw [List.forall₂_iff_get]
  refine ⟨by rw [length_between, hlength], ?_⟩
  intro q hq hq'
  have hposition : (between lo hi).get ⟨q, hq⟩ = lo + q := by
    rw [List.get_eq_getElem]
    exact (List.getElem_range' hq).trans (by rw [Nat.one_mul])
  rw [length_between] at hq
  rw [hposition]
  apply h
  · exact Nat.le_add_right _ _
  · omega
  · have hget : ((xs.take hi).drop lo)[q]? = if lo + q < hi then xs[lo + q]? else none :=
      getElem?_stretch q
    rw [if_pos (by omega), List.getElem?_eq_getElem hq'] at hget
    exact hget.symm

/-- The position that a search over a stretch stops at. -/
theorem findM?_of_forall₂_between {xs : List α} {lo hi : Nat} {body : Nat → Checked Bool}
    {test : α → Bool} (h : List.Forall₂ (fun i x => body i = .ok (test x)) (between lo hi) xs) :
    (between lo hi).findM? body = .ok ((xs.findIdx? test).map (lo + ·)) := by
  have hlength : xs.length = hi - lo := by rw [← h.length_eq, length_between]
  rw [findM?_of_forall₂ h, Option.map_eq_bind]
  congr 1
  apply Option.bind_congr
  intro q hq
  have hlt : q < xs.length := (List.findIdx?_eq_some_iff_getElem.1 hq).1
  exact getElem?_between (by omega)

variable {lines : List Text} {lo hi : Nat}

theorem findM?_between {body : Nat → Checked Bool} {test : Text → Bool}
    (h : ∀ i line, lo ≤ i → lines[i]? = some line → body i = .ok (test line)) :
    (between lo (min hi lines.length)).findM? body = .ok (firstIn lines lo hi test) := by
  have hstretch := forall₂_between (Nat.min_le_right hi lines.length)
    fun i line hlo _ hline => h i line hlo hline
  rw [findM?_of_forall₂_between hstretch, ← List.take_eq_take_min]
  rfl

theorem findSomeM?_between {β : Type} {body : Nat → Checked (Option β)} {read : Text → Option β}
    (h : ∀ i line, lo ≤ i → lines[i]? = some line → body i = .ok (read line)) :
    (between lo (min hi lines.length)).findSomeM? body
      = .ok (((lines.drop lo).take (hi - lo)).findSome? read) := by
  have hstretch := forall₂_between (Nat.min_le_right hi lines.length)
    fun i line hlo _ hline => h i line hlo hline
  rw [findSomeM?_of_forall₂ hstretch, ← List.take_eq_take_min, List.drop_take]

/-- A search that looks at each line and at the one before it. -/
theorem findM?_adjacent {body : Nat → Checked Bool} {test : Text × Text → Bool} (hlo : 0 < lo)
    (h : ∀ i previous line, lo ≤ i → lines[i - 1]? = some previous → lines[i]? = some line →
      body i = .ok (test (previous, line))) :
    (between lo lines.length).findM? body
      = .ok ((firstIn (adjacent lines) (lo - 1) lines.length test).map (· + 1)) := by
  have hlength : (adjacent lines).length = lines.length - 1 := by
    rw [adjacent, List.length_zip, List.length_tail, Nat.min_eq_right (Nat.sub_le _ _)]
  -- the pairs are counted from the first of the two
  have hshift : between lo lines.length = (between (lo - 1) (lines.length - 1)).map (· + 1) := by
    have hcomm : (fun i : Nat => i + 1) = (1 + ·) := funext fun i => Nat.add_comm i 1
    have hcount : lines.length - 1 - (lo - 1) = lines.length - lo := by omega
    rw [between, between, hcomm, List.map_add_range', Nat.add_sub_cancel' hlo, hcount]
  have hpairs : List.Forall₂ (fun i pair => body i = .ok (test pair)) (between lo lines.length)
      (((adjacent lines).take lines.length).drop (lo - 1)) := by
    rw [hshift, List.forall₂_map_left_iff, List.take_of_length_le (by omega),
      ← List.take_of_length_le (Nat.le_of_eq hlength)]
    apply forall₂_between (Nat.le_of_eq hlength.symm)
    rintro i ⟨previous, line⟩ hi _ hpair
    obtain ⟨hprevious, hline⟩ := getElem?_adjacent.1 hpair
    exact h (i + 1) previous line (by omega) hprevious hline
  rw [findM?_of_forall₂_between hpairs, firstIn, Option.map_map]
  congr 2
  funext q
  simp only [Function.comp_apply]
  omega

/-- Positions beside the lines that stand there. -/
abbrev StandAt (lines : List Text) (positions : List Nat) (texts : List Text) : Prop :=
  List.Forall₂ (fun i line => lines[i]? = some line) positions texts

/-- The lines above a position, nearest first, stand at the positions of a loop upwards. -/
theorem standAt_above {i : Nat} (hlength : i ≤ lines.length) (n : Nat) :
    StandAt lines (between (i - n) i).reverse (Site.above lines i n) := by
  have habove : Site.above lines i n = ((lines.take i).drop (i - n)).reverse := by
    rw [Site.above, List.take_reverse, List.length_take_of_le hlength]
  rw [habove, StandAt, List.forall₂_reverse_iff]
  exact forall₂_between hlength fun _ _ _ _ hline => hline

end Loops

end WorkflowNav.Indexed
