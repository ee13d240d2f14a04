import CodeNotes.Text
/-!
What a terminal shows of a text. Control characters are not shown, and with them the
sequences are left out that an escape character begins. An escape character begins a new
sequence wherever it stands. A blank inside a sequence is shown with the text behind it, up
to a control character, with which the sequence goes on.
-/
namespace CodeNotes.Terminal

/-- Where a text is with respect to sequences. -/
inductive Mode where
  | plain
  /-- Behind an escape character. -/
  | escape
  /-- Before the last character of a short sequence. -/
  | escapeEnd
  /-- In the arguments of a control sequence. -/
  | control
  /-- At the start of a device control string. -/
  | device
  | deviceArguments
  /-- Before the character that names what a device control string is for. -/
  | deviceEnd
  /-- In the body of a string. -/
  | body
  /-- In the body of an operating system command. -/
  | system
  /-- In text that is shown although a sequence has not ended. -/
  | interrupted (m : Mode)
  deriving DecidableEq

/-- The blanks that are shown although they are control characters. -/
def isSpacing (c : Char) : Bool :=
  c = '\t' || c = '\n' || c = '\x0C' || c = '\r'

def isBetween (low high : Nat) (c : Char) : Bool :=
  low ≤ c.toNat && c.toNat ≤ high

/-- Whether the byte that ends strings occurs in the UTF-8 form. -/
def endsBody (c : Char) : Bool :=
  0x80 ≤ c.toNat && (String.utf8EncodeChar c).contains 0x9C

namespace Mode

/-- The mode behind a character. -/
def next (m : Mode) (c : Char) : Mode :=
  if c = '\x18' || c = '\x1A' then plain
  else if c = '\x1B' then escape
  else match m with
    | plain => plain
    | escape =>
      if isSpacing c then interrupted escape
      else if isBetween 0x20 0x2F c then escapeEnd
      else if c = '[' then control
      else if c = ']' then system
      else if c = 'P' then device
      else if c = 'X' || c = '^' || c = '_' then body
      else if isBetween 0x30 0x7E c then plain
      else escape
    | escapeEnd =>
      if isSpacing c then interrupted escapeEnd
      else if isBetween 0x30 0x7E c then plain
      else escapeEnd
    | control =>
      if isSpacing c then interrupted control
      else if isBetween 0x40 0x7E c then plain
      else control
    | device =>
      if isBetween 0x20 0x2F c then deviceEnd
      else if isBetween 0x30 0x3F c then deviceArguments
      else if isBetween 0x40 0x7E c then body
      else device
    | deviceArguments =>
      if isBetween 0x20 0x2F c then deviceEnd
      else if isBetween 0x3C 0x7E c then body
      else deviceArguments
    | deviceEnd => if isBetween 0x30 0x7E c then body else deviceEnd
    | body => if endsBody c then plain else body
    | system => if c = '\x07' then plain else system
    | interrupted m =>
      if isSpacing c || isBetween 0x20 0x7E c then interrupted m
      else if 0x80 ≤ c.toNat then plain
      else m

/-- Whether a character is shown that is met in a mode. -/
def shows (m : Mode) (c : Char) : Bool :=
  match m with
  | plain | interrupted _ => isSpacing c || (0x20 ≤ c.toNat && c ≠ '\x7F')
  | escape | escapeEnd | control => isSpacing c
  | device | deviceArguments | deviceEnd | body | system => false

end Mode

def shownFrom (m : Mode) : Text → Text
  | [] => []
  | c :: t => if m.shows c then c :: shownFrom (m.next c) t else shownFrom (m.next c) t

/-- The part of a text that is shown. -/
def shown (t : Text) : Text :=
  shownFrom .plain t

theorem shownFrom_sublist (m : Mode) (t : Text) : (shownFrom m t).Sublist t := by
  induction t generalizing m with
  | nil => exact .slnil
  | cons c t ih =>
    unfold shownFrom
    split
    · exact (ih _).cons_cons c
    · exact (ih _).cons c

end CodeNotes.Terminal
