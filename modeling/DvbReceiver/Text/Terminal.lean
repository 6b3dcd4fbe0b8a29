set_option autoImplicit false

namespace DvbReceiver.Text

inductive Sequence where
  | plain
  | escape
  | escapeMore
  | control
  | deviceOpening
  | deviceParameters
  | deviceMore
  | hidden
  | command
  deriving DecidableEq, Repr

def isLayout (c : Char) : Bool :=
  c == '\t' || c == '\n' || c == '\x0c' || c == '\r'

def isShown (c : Char) : Bool :=
  isLayout c || (0x20 ≤ c.toNat && c.toNat != 0x7F)

/-- A terminal that reads bytes finds the mark in any character with such a byte. -/
def endsHidden (c : Char) : Bool :=
  (String.utf8EncodeChar c).contains 0x9C

namespace Sequence

def heedsLayout : Sequence → Bool
  | .plain => true
  | .escape => true
  | .escapeMore => true
  | .control => true
  | _ => false

def next (s : Sequence) (c : Char) : Sequence :=
  let n := c.toNat
  let within (first last : Nat) : Bool := first ≤ n && n ≤ last
  -- A new sequence or a cancel ends any other.
  if n = 0x1B then .escape
  else if n = 0x18 ∨ n = 0x1A then .plain
  else
    match s with
    | .plain => .plain
    | .escape =>
      if c = '[' then .control
      else if c = ']' then .command
      else if c = 'P' then .deviceOpening
      else if c = 'X' ∨ c = '^' ∨ c = '_' then .hidden
      else if within 0x20 0x2F then .escapeMore
      else if within 0x30 0x7E then .plain
      else .escape
    | .escapeMore => if within 0x30 0x7E then .plain else .escapeMore
    | .control => if within 0x40 0x7E then .plain else .control
    | .deviceOpening =>
      if within 0x20 0x2F then .deviceMore
      else if within 0x30 0x3F then .deviceParameters
      else if within 0x40 0x7E then .hidden
      else .deviceOpening
    | .deviceParameters =>
      if within 0x20 0x2F then .deviceMore
      else if within 0x3C 0x7E then .hidden
      else .deviceParameters
    | .deviceMore => if within 0x30 0x7E then .hidden else .deviceMore
    | .hidden => if endsHidden c then .plain else .hidden
    | .command => if n = 0x07 then .plain else .command

end Sequence

structure Terminal where
  sequence : Sequence := .plain
  /-- Layout suspends a sequence: text is shown up to the next control character. -/
  suspended : Bool := false
  deriving DecidableEq, Repr

namespace Terminal

def isOpen (t : Terminal) : Bool :=
  t.suspended || t.sequence == .plain

def shows (t : Terminal) (c : Char) : Bool :=
  if t.isOpen then isShown c else t.sequence.heedsLayout && isLayout c

def next (t : Terminal) (c : Char) : Terminal :=
  if t.shows c then
    -- A shown character of several bytes ends a suspended sequence.
    if 0x80 ≤ c.toNat then {} else { t with suspended := t.sequence != .plain }
  else { sequence := t.sequence.next c }

def shown (t : Terminal) : List Char → List Char
  | [] => []
  | c :: rest => if t.shows c then c :: (t.next c).shown rest else (t.next c).shown rest

end Terminal

/-- What a terminal shows of a text: neither control characters nor control sequences. -/
def visible (text : String) : String :=
  String.ofList (({} : Terminal).shown text.toList)

end DvbReceiver.Text
