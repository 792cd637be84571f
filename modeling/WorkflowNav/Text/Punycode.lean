/-
Text of any characters written with letters, digits and hyphens.

The plain characters of a text are written first, as they are, and a hyphen after them. What follows
says where to insert the others, in ascending order: each is a number, the count of steps to go. A
step goes to the next place in the text, and from the end of the text to its front and to the next
code point. Numbers are written with digits of a growing weight; a digit below its threshold is the
last of its number. The thresholds follow the numbers seen so far, so that numbers of one size are
written with few digits.
-/
import WorkflowNav.Text.Basic

set_option autoImplicit false

namespace WorkflowNav.Text.Punycode

/-! ## Digits and thresholds -/

/-- The number of digits. -/
def base : Nat := 36

/-- The first code point that is inserted. -/
def firstInserted : Nat := 0x80

/-- The bias of the first number. -/
def firstBias : Nat := 72

/-- The digit for a value: letters and then digits. -/
def digit (value : Nat) : Char :=
  if value < 26 then Char.ofNat ('a'.toNat + value) else Char.ofNat ('0'.toNat + (value - 26))

/-- The value of a digit. Capital letters count as small ones. -/
def digitValue? (c : Char) : Option Nat :=
  if c.isDigit then some (c.toNat - '0'.toNat + 26)
  else if 'a' ≤ c ∧ c ≤ 'z' then some (c.toNat - 'a'.toNat)
  else if 'A' ≤ c ∧ c ≤ 'Z' then some (c.toNat - 'A'.toNat)
  else none

/-- The threshold of a digit, between 1 and 26. Positions count in steps of `base`, from `base` on;
the bias is about where the numbers are expected to end. -/
def threshold (bias position : Nat) : Nat :=
  if position ≤ bias then 1 else if bias + 26 ≤ position then 26 else position - bias

theorem threshold_pos (bias position : Nat) : 0 < threshold bias position := by
  unfold threshold
  split
  · omega
  · split <;> omega

/-- Divide a number until it is small, and add `base` for each time. -/
def biasOf (bias number : Nat) : Nat :=
  if 455 < number then biasOf (bias + base) (number / 35)
  else bias + base * number / (number + 38)
  termination_by number
  decreasing_by exact Nat.div_lt_self (by omega) (by omega)

/-- The bias after a number, when the text has grown to a length. -/
def adapt (number length : Nat) (isFirst : Bool) : Nat :=
  let number := if isFirst then number / 700 else number / 2
  biasOf 0 (number + number / length)

/-! ## Writing -/

/-- The digits of a number. -/
def writeNumber (bias position number : Nat) : Text :=
  let t := threshold bias position
  if number < t then [digit number]
  else
    digit (t + (number - t) % (base - t))
      :: writeNumber bias (position + base) ((number - t) / (base - t))
  termination_by number
  decreasing_by
    have := threshold_pos bias position
    calc (number - threshold bias position) / (base - threshold bias position)
        ≤ number - threshold bias position := Nat.div_le_self _ _
      _ < number := by omega

/-- What is known while writing: the digits so far, in reverse order of numbers; the steps since the
last insertion; the bias; and the length of the text so far. -/
structure Writing where
  written : List Text := []
  steps : Nat := 0
  bias : Nat := firstBias
  length : Nat
  plain : Nat

/-- Pass a character while those of one code point are inserted. -/
def Writing.pass (code : Nat) (state : Writing) (c : Char) : Writing :=
  if c.toNat < code then { state with steps := state.steps + 1 }
  else if c.toNat = code then
    { state with
      written := writeNumber state.bias base state.steps :: state.written
      steps := 0
      bias := adapt state.steps (state.length + 1) (state.length == state.plain)
      length := state.length + 1 }
  else state

/-- Insert the characters of each code point in turn, from the code point `next` on. -/
def Writing.insertAll (text : Text) (state : Writing) (next : Nat) : List Nat → Writing
  | [] => state
  | code :: codes =>
    let state := { state with steps := state.steps + (code - next) * (state.length + 1) }
    let state := text.foldl (Writing.pass code) state
    Writing.insertAll text { state with steps := state.steps + 1 } (code + 1) codes

/-- Write a text. -/
def encode (text : Text) : Text :=
  let plain := text.filter fun c => c.toNat < firstInserted
  let codes := ((text.map Char.toNat).filter (firstInserted ≤ ·)).mergeSort.eraseDups
  let state := Writing.insertAll text { length := plain.length, plain := plain.length }
    firstInserted codes
  plain ++ (if plain.isEmpty then [] else ['-']) ++ state.written.reverse.flatten

/-! ## Reading -/

/-- One more than the largest number that can be read. -/
def numberLimit : Nat := 4294967296

/-- Read the digits of a number onto `steps`, each with its weight. -/
def readNumber? (bias position weight steps : Nat) : Text → Option (Nat × Text)
  | [] => none
  | c :: rest =>
    match digitValue? c with
    | none => none
    | some value =>
      let steps := steps + value * weight
      let t := threshold bias position
      if numberLimit ≤ steps then none
      else if value < t then some (steps, rest)
      else if numberLimit ≤ weight * (base - t) then none
      else readNumber? bias (position + base) (weight * (base - t)) steps rest

theorem readNumber?_length {bias position weight steps : Nat} {text : Text} {result : Nat × Text}
    (h : readNumber? bias position weight steps text = some result) :
    result.2.length < text.length := by
  induction text generalizing position weight steps with
  | nil => simp [readNumber?] at h
  | cons c rest ih =>
    rw [readNumber?] at h
    split at h
    · simp at h
    · dsimp only at h
      split at h
      · simp at h
      · split at h
        · obtain rfl := Option.some.inj h
          exact Nat.lt_succ_self _
        · split at h
          · simp at h
          · exact Nat.lt_succ_of_lt (ih h)

/-- Insert characters into a text as the digits say, from a code point and a number of steps on. -/
def insertRead? (bias code steps : Nat) (text : Text) (digits : Text) : Option Text :=
  if digits.isEmpty then some text
  else
    match _h : readNumber? bias base 1 steps digits with
    | none => none
    | some (total, rest) =>
      let length := text.length + 1
      let code := code + total / length
      if code.isValidChar then
        insertRead? (adapt (total - steps) length (steps == 0)) code (total % length + 1)
          (text.insertIdx (total % length) (Char.ofNat code)) rest
      else none
  termination_by digits.length
  decreasing_by exact readNumber?_length _h

/-- Read a written text. A hyphen at the front is no mark but a digit, and no digit is a hyphen. -/
def decode? (written : Text) : Option Text :=
  let digits := (written.reverse.takeWhile (· != '-')).reverse
  let plain := written.take (written.length - digits.length - 1)
  if digits.length = written.length then insertRead? firstBias firstInserted 0 [] digits
  else if plain.isEmpty then none
  else insertRead? firstBias firstInserted 0 plain digits

end WorkflowNav.Text.Punycode
