/-
Settings are read key by key.

An editor sends its settings as JSON, and anything may stand in it: a section that is no object, a
number where a truth value belongs, a fraction, a key that is given twice. None of it may spoil the
rest. Each setting has a key of its own and a default, and it gets the value that is given under its
key if that value is valid, and else its default, whatever stands under the other keys.

What is valid is said here once for each key (`NumberKey.Valid`, `FlagKey.Valid`). Numbers are whole
numbers of 64 bits. Limits of depth and of concurrency cannot be zero, so that a zero is passed over
like any other value that is not valid. Reading keeps to this for eight of the nine keys. The depth
is read like a number that may be zero, and a zero that is given is taken. Then no directory below
the root is ever entered.
-/
import WorkflowNav.Settings

set_option autoImplicit false

namespace WorkflowNav

namespace Json

/-! ## Values of an object -/

/-- An object has a value under a name. Of several fields with that name it is the last. -/
def Has (json : Json) (name : Text) (value : Json) : Prop :=
  ∃ before after, json = object (before ++ (name, value) :: after)
    ∧ ∀ field ∈ after, field.1 ≠ name

/-- A whole number from zero on that fits 64 bits. -/
def IsWord (json : Json) (n : Nat) : Prop := json = integer n ∧ n < 18446744073709551616

theorem field?_eq_some_iff {json value : Json} {name : Text} :
    json.field? name = some value ↔ json.Has name value := by
  cases json with
  | object fields =>
    rw [field?, Option.map_eq_some_iff]
    constructor
    · rintro ⟨⟨other, found⟩, hfind, rfl⟩
      obtain ⟨hname, front, back, hfields, hfront⟩ := List.find?_eq_some_iff_append.1 hfind
      obtain rfl : other = name := beq_iff_eq.1 hname
      -- the search goes from the back, so what it passes comes after what it finds
      refine ⟨back.reverse, front.reverse, ?_, ?_⟩
      · have hreverse := congrArg List.reverse hfields
        rw [List.reverse_reverse, List.reverse_append, List.reverse_cons, List.append_assoc,
          List.singleton_append] at hreverse
        rw [hreverse]
      · intro field hfield
        have hother := hfront field (List.mem_reverse.1 hfield)
        rw [Bool.not_eq_true', beq_eq_false_iff_ne] at hother
        exact hother
    · rintro ⟨before, after, hobject, hafter⟩
      obtain rfl : fields = before ++ (name, value) :: after := by injection hobject
      refine ⟨(name, value), ?_, rfl⟩
      apply List.find?_eq_some_iff_append.2
      refine ⟨beq_iff_eq.2 rfl, after.reverse, before.reverse, ?_, ?_⟩
      · rw [List.reverse_append, List.reverse_cons, List.append_assoc, List.singleton_append]
      · intro field hfield
        rw [Bool.not_eq_true', beq_eq_false_iff_ne]
        exact hafter field (List.mem_reverse.1 hfield)
  | _ => simp [field?, Has]

/-- Values are found alike where the same are given. -/
theorem field?_eq_of_has_iff {one two : Json} {name : Text}
    (h : ∀ value, one.Has name value ↔ two.Has name value) :
    one.field? name = two.field? name := by
  apply Option.ext
  intro value
  rw [field?_eq_some_iff, field?_eq_some_iff]
  exact h value

theorem natural?_eq_some_iff {json : Json} {n : Nat} :
    json.natural? = some n ↔ json.IsWord n := by
  cases json with
  | integer value =>
    cases value with
    | ofNat m =>
      rw [natural?, wordLimit, Option.ite_none_right_eq_some, Option.some.injEq, IsWord]
      constructor
      · rintro ⟨hm, rfl⟩
        exact ⟨rfl, hm⟩
      · rintro ⟨heq, hn⟩
        obtain rfl : m = n := by injection heq with heq; injection heq
        exact ⟨hn, rfl⟩
    | negSucc m => simp [natural?, IsWord]
  | _ => simp [natural?, IsWord]

theorem bool?_eq_some_iff {json : Json} {value : Bool} :
    json.bool? = some value ↔ json = bool value := by
  cases json <;> simp [bool?]

end Json

namespace Settings

/-! ## The value that is given, or the default -/

/-- A setting has the value that is given, if that is valid, and else its default. -/
def IsGivenOrDefault {α : Type} (given : Json → Prop) (valid : Json → α → Prop)
    (default value : α) : Prop :=
  (∃ json, given json ∧ valid json value)
    ∨ (value = default ∧ ∀ json other, given json → ¬ valid json other)

section Reading

variable {α : Type} {given : Json → Prop} {valid : Json → α → Prop}

/-- What reading with a default does. -/
theorem isGivenOrDefault_getD {found : Option Json} {read : Json → Option α}
    (hgiven : ∀ json, given json ↔ found = some json)
    (hvalid : ∀ json value, valid json value ↔ read json = some value) (default : α) :
    IsGivenOrDefault given valid default ((found.bind read).getD default) := by
  cases found with
  | none =>
    refine .inr ⟨rfl, ?_⟩
    intro json other hjson
    exact absurd ((hgiven json).1 hjson) (by simp)
  | some json =>
    rw [Option.bind_some]
    cases hread : read json with
    | some value => exact .inl ⟨json, (hgiven json).2 rfl, (hvalid json value).2 hread⟩
    | none =>
      refine .inr ⟨rfl, ?_⟩
      intro given other hjson hother
      obtain rfl : json = given := Option.some.inj ((hgiven given).1 hjson)
      rw [hvalid, hread] at hother
      exact absurd hother (by simp)

/-- Only what is given has to be valid in the same cases. -/
theorem IsGivenOrDefault.imp {valid' : Json → α → Prop} {default value : α}
    (h : IsGivenOrDefault given valid default value)
    (hvalid : ∀ json, given json → ∀ other, valid json other ↔ valid' json other) :
    IsGivenOrDefault given valid' default value := by
  rcases h with ⟨json, hjson, hvalue⟩ | ⟨hdefault, hnone⟩
  · exact .inl ⟨json, hjson, (hvalid json hjson value).1 hvalue⟩
  · refine .inr ⟨hdefault, ?_⟩
    intro json other hjson hother
    exact hnone json other hjson ((hvalid json hjson other).2 hother)

end Reading

/-! ## Numbers -/

/-- The settings that are numbers. -/
inductive NumberKey where
  | depth
  | directories
  | files
  | textSeconds
  | sweepThreshold
  | definitionSeconds
  deriving DecidableEq

namespace NumberKey

/-- What a number is called in a section. -/
def name : NumberKey → Text
  | depth => "maxDepth".toList
  | directories => "maxConcurrentDirectories".toList
  | files => "maxConcurrentFiles".toList
  | textSeconds => "contentCacheTimeoutSecs".toList
  | sweepThreshold => "contentCacheSweepThreshold".toList
  | definitionSeconds => "workspaceCacheTimeoutSecs".toList

/-- What a number is if no valid one is given. -/
def default : NumberKey → Nat
  | depth => 10
  | directories => 20
  | files => 10
  | textSeconds => 30
  | sweepThreshold => 100
  | definitionSeconds => 300

/-- The number in settings. -/
def get (settings : Settings) : NumberKey → Nat
  | depth => settings.search.maxDepth
  | directories => settings.search.directoryBatch
  | files => settings.search.fileBatch
  | textSeconds => settings.search.textSeconds
  | sweepThreshold => settings.search.sweepThreshold
  | definitionSeconds => settings.search.definitionSeconds

/-- The limits of depth and of concurrency, for which zero is not valid. -/
def isLimit : NumberKey → Bool
  | depth => true
  | directories => true
  | files => true
  | _ => false

/-- A value that may be given for a number. -/
def Valid (key : NumberKey) (json : Json) (n : Nat) : Prop :=
  json.IsWord n ∧ (key.isLimit = true → 0 < n)

/-- A number is what its own key says, or its default. -/
def IsRead (part : Json) (settings : Settings) (key : NumberKey) : Prop :=
  IsGivenOrDefault (part.Has key.name) key.Valid key.default (get settings key)

/-- What is taken for a number. Zero is refused for two of the limits. -/
def read? (key : NumberKey) (json : Json) : Option Nat :=
  match key with
  | directories | files => json.natural?.filter (0 < ·)
  | depth | textSeconds | sweepThreshold | definitionSeconds => json.natural?

theorem get_ofSection (part : Json) (key : NumberKey) :
    get (ofSection part) key = ((part.field? key.name).bind key.read?).getD key.default := by
  have hfilter : ∀ found : Option Json,
      (found.bind Json.natural?).filter (0 < ·)
        = found.bind fun json => json.natural?.filter (0 < ·) := by
    intro found
    cases found <;> rfl
  cases key with
  | directories => exact congrArg (Option.getD · 20) (hfilter _)
  | files => exact congrArg (Option.getD · 10) (hfilter _)
  | depth | textSeconds | sweepThreshold | definitionSeconds => rfl

/-- Nothing but a zero for the depth is taken although it is not valid. -/
theorem valid_iff_read? {key : NumberKey} {json : Json}
    (h : key = depth → json ≠ .integer 0) (n : Nat) :
    key.Valid json n ↔ key.read? json = some n := by
  have hfilter : json.natural?.filter (0 < ·) = some n ↔ json.IsWord n ∧ 0 < n := by
    rw [Option.filter_eq_some_iff, Json.natural?_eq_some_iff, decide_eq_true_eq]
  cases key with
  | depth =>
    rw [read?, Json.natural?_eq_some_iff]
    refine ⟨And.left, ?_⟩
    intro hword
    refine ⟨hword, ?_⟩
    intro _
    apply Nat.pos_of_ne_zero
    rintro rfl
    exact h rfl hword.1
  | directories | files =>
    refine Iff.trans ?_ hfilter.symm
    simp [Valid, isLimit]
  | textSeconds | sweepThreshold | definitionSeconds =>
    rw [read?, Json.natural?_eq_some_iff]
    simp [Valid, isLimit]

/-- A number is read as it should be unless it is the depth and a zero is given for it. -/
theorem isRead_of_ne {part : Json} {key : NumberKey}
    (h : key = depth → ¬ part.Has key.name (.integer 0)) : key.IsRead part (ofSection part) := by
  rw [IsRead, get_ofSection]
  have hread : IsGivenOrDefault (part.Has key.name) (fun json n => key.read? json = some n)
      key.default (((part.field? key.name).bind key.read?).getD key.default) :=
    isGivenOrDefault_getD (fun _ => Json.field?_eq_some_iff.symm) (fun _ _ => Iff.rfl) _
  apply hread.imp
  intro json hjson n
  refine (valid_iff_read? ?_ n).symm
  rintro hdepth rfl
  exact h hdepth hjson

/-- A limit that is read as it should be is not zero. -/
theorem IsRead.pos {part : Json} {settings : Settings} {key : NumberKey}
    (h : key.IsRead part settings) (hlimit : key.isLimit = true) : 0 < get settings key := by
  rcases h with ⟨json, -, hvalid⟩ | ⟨hdefault, -⟩
  · exact hvalid.2 hlimit
  · rw [hdefault]
    cases key <;> decide

theorem depth_eq_zero {part : Json} (h : part.Has depth.name (.integer 0)) :
    get (ofSection part) depth = 0 := by
  rw [get_ofSection, Json.field?_eq_some_iff.2 h]
  rfl

theorem isRead_iff {part : Json} {key : NumberKey} :
    key.IsRead part (ofSection part) ↔ (key = depth → ¬ part.Has key.name (.integer 0)) := by
  constructor
  · rintro hread rfl hzero
    have hpos := hread.pos rfl
    rw [depth_eq_zero hzero] at hpos
    exact absurd hpos (Nat.lt_irrefl 0)
  · exact isRead_of_ne

/-- All limits are positive unless a depth of zero is given. -/
theorem forall_pos_iff {part : Json} :
    (∀ key : NumberKey, key.isLimit = true → 0 < get (ofSection part) key)
      ↔ ¬ part.Has depth.name (.integer 0) := by
  constructor
  · intro hpos hzero
    have hdepth := hpos depth rfl
    rw [depth_eq_zero hzero] at hdepth
    exact absurd hdepth (Nat.lt_irrefl 0)
  · intro hzero key hlimit
    refine (isRead_of_ne ?_).pos hlimit
    rintro rfl
    exact hzero

end NumberKey

/-! ## Truth values -/

/-- The settings that are truth values. -/
inductive FlagKey where
  | notFound
  | multipleDefinitions
  | references
  deriving DecidableEq

namespace FlagKey

/-- What a truth value is called. -/
def name : FlagKey → Text
  | notFound => "notFound".toList
  | multipleDefinitions => "multipleDefinitions".toList
  | references => "references".toList

/-- The truth value in settings. -/
def get (settings : Settings) : FlagKey → Bool
  | notFound => settings.notices.notFound
  | multipleDefinitions => settings.notices.multipleDefinitions
  | references => settings.notices.references

/-- Truth values stand in a part of their own. -/
def Given (part : Json) (key : FlagKey) (json : Json) : Prop :=
  ∃ notices, part.Has "notifications".toList notices ∧ notices.Has key.name json

/-- A value that may be given for a truth value. -/
def Valid (json : Json) (value : Bool) : Prop := json = .bool value

/-- A truth value is what its own key says, or true. -/
def IsRead (part : Json) (settings : Settings) (key : FlagKey) : Prop :=
  IsGivenOrDefault (key.Given part) Valid true (get settings key)

/-- The value in the part for truth values. -/
def find? (part : Json) (key : FlagKey) : Option Json :=
  (part.field? "notifications".toList).bind (·.field? key.name)

theorem given_iff {part json : Json} {key : FlagKey} :
    key.Given part json ↔ find? part key = some json := by
  rw [Given, find?, Option.bind_eq_some_iff]
  simp only [Json.field?_eq_some_iff]

theorem get_ofSection (part : Json) (key : FlagKey) :
    get (ofSection part) key = ((find? part key).bind Json.bool?).getD true := by
  rw [find?]
  cases hpart : part.field? "notifications".toList with
  | none =>
    have hnotices : (ofSection part).notices = {} := by simp only [ofSection, noticesOf, hpart]
    cases key <;> simp [get, hnotices]
  | some notices =>
    cases key <;> simp only [get, ofSection, noticesOf, hpart] <;> rfl

theorem isRead_ofSection (part : Json) (key : FlagKey) : key.IsRead part (ofSection part) := by
  rw [IsRead, get_ofSection]
  apply isGivenOrDefault_getD
  · intro json
    exact given_iff
  · intro json value
    exact Json.bool?_eq_some_iff.symm

end FlagKey

/-! ## All keys -/

theorem ofJson?_of_has {json part : Json} (h : json.Has sectionName part) :
    ofJson? json = some (ofSection part) := by
  rw [ofJson?, Json.field?_eq_some_iff.2 h, Option.map_some]

theorem ofJson?_eq_none_iff {json : Json} :
    ofJson? json = none ↔ ∀ part, ¬ json.Has sectionName part := by
  rw [ofJson?, Option.map_eq_none_iff, Option.eq_none_iff_forall_ne_some]
  simp only [ne_eq, Json.field?_eq_some_iff]

/-- **Settings are read key by key, but a depth of zero is taken.** There are settings exactly if
there is a section. Then each of the nine is the valid value under its own key, or its default, and
the other keys do not matter to it. The one exception is exact: the depth is read otherwise if and
only if a zero is given for it, and only then a limit is not positive. -/
theorem ofJson?_reads_iff (json : Json) :
    (ofJson? json = none ↔ ∀ part, ¬ json.Has sectionName part)
    ∧ ∀ part, json.Has sectionName part →
      ofJson? json = some (ofSection part)
      ∧ (∀ key : NumberKey, key.IsRead part (ofSection part)
        ↔ (key = .depth → ¬ part.Has key.name (.integer 0)))
      ∧ (∀ key : FlagKey, key.IsRead part (ofSection part))
      ∧ ((∀ key : NumberKey, key.isLimit = true → 0 < NumberKey.get (ofSection part) key)
        ↔ ¬ part.Has NumberKey.depth.name (.integer 0))
      ∧ ∀ other : Json,
        (∀ key : NumberKey, (∀ value, part.Has key.name value ↔ other.Has key.name value) →
          NumberKey.get (ofSection part) key = NumberKey.get (ofSection other) key)
        ∧ ∀ key : FlagKey, (∀ value, key.Given part value ↔ key.Given other value) →
          FlagKey.get (ofSection part) key = FlagKey.get (ofSection other) key := by
  refine ⟨ofJson?_eq_none_iff, ?_⟩
  intro part hpart
  refine ⟨ofJson?_of_has hpart, fun key => NumberKey.isRead_iff, FlagKey.isRead_ofSection part,
    NumberKey.forall_pos_iff, ?_⟩
  intro other
  constructor
  · intro key hsame
    rw [NumberKey.get_ofSection, NumberKey.get_ofSection, Json.field?_eq_of_has_iff hsame]
  · intro key hsame
    have hfind : FlagKey.find? part key = FlagKey.find? other key := by
      apply Option.ext
      intro value
      rw [← FlagKey.given_iff, ← FlagKey.given_iff]
      exact hsame value
    rw [FlagKey.get_ofSection, FlagKey.get_ofSection, hfind]

/-- A section with a depth that is given twice, a limit of zero, a fraction, a negative number, and
a text for a truth value. -/
def exampleSection : Json :=
  .object [("maxDepth".toList, .integer 0), ("maxDepth".toList, .integer 4),
    ("maxConcurrentFiles".toList, .integer 0),
    ("contentCacheTimeoutSecs".toList, .fraction "1.5".toList),
    ("workspaceCacheTimeoutSecs".toList, .integer (-1)),
    ("notifications".toList,
      .object [("notFound".toList, .bool false), ("references".toList, .string "no".toList)])]

/-- The later depth counts. What is not valid is passed over, and the truth value beside it is read
all the same. -/
theorem ofJson?_reads_iff_mixed :
    let json := Json.object [("other".toList, .null), (sectionName, exampleSection)]
    json.Has sectionName exampleSection
      ∧ ¬ exampleSection.Has NumberKey.depth.name (.integer 0)
      ∧ ofJson? json = some
        { search := { maxDepth := 4 }, notices := { notFound := false } }
      ∧ NumberKey.depth.IsRead exampleSection (ofSection exampleSection)
      ∧ ∀ key : NumberKey, key.isLimit = true →
        0 < NumberKey.get (ofSection exampleSection) key := by
  intro json
  have hhas : json.Has sectionName exampleSection := Json.field?_eq_some_iff.1 rfl
  have hdepth : exampleSection.Has NumberKey.depth.name (.integer 4) :=
    Json.field?_eq_some_iff.1 rfl
  have hzero : ¬ exampleSection.Has NumberKey.depth.name (.integer 0) := by
    intro hzero
    rw [← Json.field?_eq_some_iff] at hdepth hzero
    rw [hdepth] at hzero
    simp at hzero
  obtain ⟨hread, hnumbers, -, hpos, -⟩ := (ofJson?_reads_iff json).2 exampleSection hhas
  refine ⟨hhas, hzero, ?_, (hnumbers .depth).2 fun _ => hzero, hpos.2 hzero⟩
  rw [hread]
  rfl

/-- A depth of zero is taken, where the default should stay. -/
theorem depth_zero_not_ignored :
    let part := Json.object [("maxDepth".toList, .integer 0)]
    let json := Json.object [("argonav".toList, part)]
    json.Has sectionName part
      ∧ (∃ settings, ofJson? json = some settings ∧ settings.search.maxDepth = 0
        ∧ ¬ NumberKey.depth.IsRead part settings)
      ∧ IsGivenOrDefault (part.Has NumberKey.depth.name) NumberKey.depth.Valid
        NumberKey.depth.default 10 := by
  intro part json
  have hhas : json.Has sectionName part := Json.field?_eq_some_iff.1 rfl
  have hzero : part.Has NumberKey.depth.name (.integer 0) := Json.field?_eq_some_iff.1 rfl
  refine ⟨hhas, ⟨ofSection part, ofJson?_of_has hhas, NumberKey.depth_eq_zero hzero, ?_⟩, ?_⟩
  · intro hread
    exact NumberKey.isRead_iff.1 hread rfl hzero
  · refine .inr ⟨rfl, ?_⟩
    rintro value n hvalue ⟨⟨rfl, -⟩, hpos⟩
    -- only one value is given, and it is zero
    rw [← Json.field?_eq_some_iff] at hvalue hzero
    rw [hzero] at hvalue
    have hn : (0 : Int) = n := by
      injection hvalue with hvalue
      injection hvalue
    have hlt := hpos rfl
    omega

end Settings

end WorkflowNav
