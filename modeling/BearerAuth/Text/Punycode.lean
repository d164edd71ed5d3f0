import BearerAuth.Text.Numeral

/-!
# Letters and digits for any text

A text is written with ASCII characters only: first those of its characters that are ASCII,
then, behind a hyphen, where the others go. These are inserted in ascending order of code
point, and each insertion is one number: how many steps it is from the insertion before,
when all places of the text are tried for one code point and then for the next. Numbers are
written in digits of base 36, lowest first, and a digit below the threshold of its place is
the last one. Thresholds follow the size of the numbers so far.
-/
namespace BearerAuth.Text.Punycode

def base : Nat := 36

def leastThreshold : Nat := 1

def greatestThreshold : Nat := 26

def firstBias : Nat := 72

def firstCode : Nat := 128

def digitChar (digit : Nat) : Char := Char.ofNat (if digit < 26 then 97 + digit else 22 + digit)

def digitValue? (c : Char) : Option Nat :=
  if 'a' ≤ c ∧ c ≤ 'z' then some (c.toNat - 97)
  else if 'A' ≤ c ∧ c ≤ 'Z' then some (c.toNat - 65)
  else if isDigit c then some (c.toNat - 22)
  else none

/-- The threshold of a place, from the number of places up to it times the base. -/
def threshold (place bias : Nat) : Nat :=
  max leastThreshold (min greatestThreshold (place - bias))

theorem threshold_pos (place bias : Nat) : 1 ≤ threshold place bias := Nat.le_max_left _ _

/-- Scale a number down until its digits are few, counting the places taken. -/
def scaleDown (number place : Nat) : Nat :=
  let span := base - leastThreshold
  if span * greatestThreshold / 2 < number then scaleDown (number / span) (place + base)
  else place + (span + 1) * number / (number + 38)
termination_by number
decreasing_by
  rename_i h
  exact Nat.div_lt_self (Nat.zero_lt_of_lt h) (by decide)

/-- The bias after a number, when the text has `length` characters so far. -/
def nextBias (number length : Nat) (isFirst : Bool) : Nat :=
  let damped := if isFirst then number / 700 else number / 2
  scaleDown (damped + damped / length) 0

def writeNumber (bias place number : Nat) : List Char :=
  let least := threshold place bias
  if number < least then [digitChar number]
  else
    digitChar (least + (number - least) % (base - least)) ::
      writeNumber bias (place + base) ((number - least) / (base - least))
termination_by number
decreasing_by
  rename_i h
  have hpos := threshold_pos place bias
  exact Nat.lt_of_le_of_lt (Nat.div_le_self _ _) (by omega)

/-- What an encoder has written, and the steps since its last insertion. -/
structure Encoder where
  written : List Char
  steps : Nat
  bias : Nat
  length : Nat

namespace Encoder

/-- Pass one character while code point `code` is looked for. -/
def pass (encoder : Encoder) (basics code : Nat) (c : Char) : Encoder :=
  if c.toNat < code then { encoder with steps := encoder.steps + 1 }
  else if c.toNat = code then
    { written := encoder.written ++ writeNumber encoder.bias base encoder.steps
      steps := 0
      bias := nextBias encoder.steps (encoder.length + 1) (encoder.length == basics)
      length := encoder.length + 1 }
  else encoder

/-- Insert all characters of each code point, from code point `next` on. -/
def insertAll (text : List Char) (basics : Nat) : List Nat → Nat → Encoder → Encoder
  | [], _, encoder => encoder
  | code :: codes, next, encoder =>
    let moved :=
      { encoder with steps := encoder.steps + (code - next) * (encoder.length + 1) }
    let passed := text.foldl (fun encoder c => encoder.pass basics code c) moved
    insertAll text basics codes (code + 1) { passed with steps := passed.steps + 1 }

end Encoder

def isBasic (c : Char) : Bool := c.toNat < firstCode

def encode (text : List Char) : List Char :=
  let basics := text.filter isBasic
  let codes := ((text.filter (!isBasic ·)).map Char.toNat).mergeSort.eraseDups
  let encoder := Encoder.insertAll text basics.length codes firstCode
    ⟨[], 0, firstBias, basics.length⟩
  basics ++ (if basics.isEmpty then [] else ['-']) ++ encoder.written

/-- Read one number and add it, with what follows. -/
def readNumber? (bias : Nat) :
    (text : List Char) → (place weight number : Nat) →
      Option (Nat × { rest : List Char // rest.length < text.length })
  | [], _, _, _ => none
  | c :: rest, place, weight, number =>
    match digitValue? c with
    | none => none
    | some digit =>
      let least := threshold place bias
      if digit < least then
        some (number + digit * weight, ⟨rest, by simp⟩)
      else
        (readNumber? bias rest (place + base) (weight * (base - least))
          (number + digit * weight)).map fun (number, after) =>
            (number, ⟨after.1, Nat.lt_succ_of_lt after.2⟩)

def char? (code : Nat) : Option Char :=
  if code.isValidChar then some (Char.ofNat code) else none

/-- Carry out the insertions; `place` is where the next one may go first. -/
def insertAll? (code place bias : Nat) (text written : List Char) : Option (List Char) :=
  match written with
  | [] => some text
  | c :: rest =>
    match readNumber? bias (c :: rest) base 1 place with
    | none => none
    | some (number, after) =>
      let length := text.length + 1
      match char? (code + number / length) with
      | none => none
      | some inserted =>
        insertAll? (code + number / length) (number % length + 1)
          (nextBias (number - place) length (place == 0))
          (text.insertIdx (number % length) inserted) after.1
termination_by written.length
decreasing_by exact after.2

/-- The text that is written so. A hyphen with nothing before it belongs to no number. -/
def decode? (written : List Char) : Option (List Char) :=
  let numbers := (written.reverse.takeWhile (· ≠ '-')).reverse
  let basics := written.take (written.length - numbers.length - 1)
  if !basics.all isBasic || (basics.isEmpty && numbers.length < written.length) then none
  else insertAll? firstCode 0 firstBias basics numbers

end BearerAuth.Text.Punycode
