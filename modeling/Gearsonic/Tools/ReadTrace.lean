import Mathlib.Tactic.Common

/-!
# `tools/read_trace.py`

`load`, with the functions of Python's library that it calls. A file is the list of its
bytes, a `str` is handled as its characters, and a `<f4` as its 32 bits.
-/

namespace Gearsonic

namespace ReadTrace

/-- `f.readline()`: up to the next newline and with it, and what is left. -/
def readline : List UInt8 → List UInt8 × List UInt8
  | [] => ([], [])
  | b :: rest =>
    if b = 10 then ([b], rest) else (b :: (readline rest).1, (readline rest).2)

theorem readline_append (bytes : List UInt8) :
    (readline bytes).1 ++ (readline bytes).2 = bytes := by
  induction bytes with
  | nil => rfl
  | cons b rest ih =>
    unfold readline
    split
    · rfl
    · exact congrArg (b :: ·) ih

theorem readline_shorter {bytes : List UInt8} (hchunk : (readline bytes).1 ≠ []) :
    (readline bytes).2.length < bytes.length := by
  have hlen := congrArg List.length (readline_append bytes)
  rw [List.length_append] at hlen
  have hpos := List.length_pos_iff.mpr hchunk
  omega

/-- `b"END\n"`. -/
def endMarker : List UInt8 := [69, 78, 68, 10]

/-- The loop that reads the header: the lines up to the marker, and what follows them. -/
def readHead (head rest : List UInt8) : Option (List UInt8 × List UInt8) :=
  if endMarker <:+ head then some (head, rest)
  else if _ : (readline rest).1 = [] then none
  else readHead (head ++ (readline rest).1) (readline rest).2
termination_by rest.length
decreasing_by exact readline_shorter ‹_›

/-- `bytes.decode()`. -/
def decode (bytes : List UInt8) : Option (List Char) :=
  bytes.toByteArray.utf8Decode?.map Array.toList

/-- The line boundaries of `str.splitlines()`. -/
def isLineBreak (c : Char) : Bool :=
  c ∈ ['\n', '\r', '\x0b', '\x0c', '\x1c', '\x1d', '\x1e', '\u0085', '\u2028', '\u2029']

/-- `str.splitlines()` behind the characters `line` of an open line. -/
def splitlinesFrom (line : List Char) : List Char → List (List Char)
  | [] => if line = [] then [] else [line]
  | '\r' :: '\n' :: rest => line :: splitlinesFrom [] rest
  | c :: rest =>
    if isLineBreak c then line :: splitlinesFrom [] rest else splitlinesFrom (line ++ [c]) rest

def splitlines (text : List Char) : List (List Char) := splitlinesFrom [] text

/-- The digits of `int(text)`, in groups joined by single underscores. -/
def digits (text : List Char) : Option Nat :=
  let groups := text.splitOn '_'
  if groups.all fun g => !g.isEmpty && g.all Char.isDigit then
    some (Nat.ofDigitChars 10 groups.flatten 0)
  else none

def isSpace (c : Char) : Bool :=
  c ∈ [' ', '\t', '\n', '\x0b', '\x0c', '\r', '\x1c', '\x1d', '\x1e', '\x1f']

/-- `int(text)` of an ASCII text. -/
def int (text : List Char) : Option Int :=
  match ((text.dropWhile isSpace).reverse.dropWhile isSpace).reverse with
  | '+' :: ds => (digits ds).map Int.ofNat
  | '-' :: ds => (digits ds).map fun n => -(n : Int)
  | ds => (digits ds).map Int.ofNat

/-- The words of `np.frombuffer(_, dtype="<f4")`, of a whole number of words. -/
def frombuffer : List UInt8 → Option (List (BitVec 32))
  | [] => some []
  | a :: b :: c :: d :: rest =>
    (frombuffer rest).map fun words =>
      BitVec.ofNat 32 (a.toNat + 2 ^ 8 * b.toNat + 2 ^ 16 * c.toNat + 2 ^ 24 * d.toNat) :: words
  | _ => none

structure Trace where
  names : List String
  data : List (List (BitVec 32))
deriving DecidableEq

/-- What `load` raises. -/
inductive LoadError where
  | valueError (message : String)
  | unicodeDecodeError
  | indexError
deriving DecidableEq

/-- `raw[: rows * ncol].reshape(rows, ncol)`. -/
def reshape (raw : List (BitVec 32)) (rows ncol : Nat) : List (List (BitVec 32)) :=
  (List.range rows).map fun i => (raw.drop (i * ncol)).take ncol

def load (file : List UInt8) : Except LoadError Trace := do
  let (head, body) ← (readHead [] file).elim (.error (.valueError "no END marker in header")) .ok
  let lines := splitlines (← (decode head).elim (.error .unicodeDecodeError) .ok)
  let line (i : Nat) := lines[i]?.elim (.error .indexError) Except.ok
  let magic ← line 0
  if magic ≠ "STATETRACE v1".toList then
    throw (.valueError ("unexpected magic: " ++ String.ofList magic))
  let text ← (((← line 1).splitOn '=')[1]?).elim (.error .indexError) .ok
  let ncol ← (int text).elim
    (.error (.valueError
      ("invalid literal for int() with base 10: '" ++ String.ofList text ++ "'"))) .ok
  let names := (← line 3).splitOn ','
  if (names.length : Int) ≠ ncol then
    throw (.valueError ("header says " ++ toString ncol ++ " columns, lists " ++
      toString names.length))
  let raw ← (frombuffer body).elim
    (.error (.valueError "buffer size must be a multiple of element size")) .ok
  -- `split` lists at least one name, so the division is never by zero
  let rows := raw.length / names.length
  return ⟨names.map String.ofList, reshape raw rows names.length⟩

end ReadTrace

end Gearsonic
