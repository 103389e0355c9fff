/-!
# Text without what steers a terminal

A message may hold control sequences, which set parts of it off or come with what it quotes.  Where
no terminal reads it they are left out, and so is every other control character.  Main statement:
nothing but visible characters, blanks and moves is left.
-/

namespace WalletRecovery.Text.Terminal

/-- Where a terminal stands within a control sequence. -/
inductive State where
  /-- Outside of any. -/
  | ground
  /-- Behind the escape character. -/
  | escape
  /-- In an escape sequence of more than one character. -/
  | escapeMore
  /-- Among the parameters of a control function. -/
  | control
  /-- At the beginning of a string for a device. -/
  | deviceHead
  /-- Among the parameters of a string for a device. -/
  | deviceParameters
  /-- Behind the parameters of a string for a device. -/
  | deviceMore
  /-- In the text for a device or an application, or in a string for a device that is not formed
  well. -/
  | deviceText
  /-- In a command to the system, such as the title of a window. -/
  | systemCommand
deriving DecidableEq, Repr

/-- Whether a character moves to another column or line without steering anything else. -/
def isMove (c : Char) : Bool :=
  c == '\t' || c == '\n' || c == '\x0c' || c == '\r'

def isShown (c : Char) : Bool :=
  isMove c || (0x20 ≤ c.toNat && c.toNat != 0x7f)

/-- Whether the string terminator of eight bits is among the bytes of a character. -/
def endsString (c : Char) : Bool :=
  (String.singleton c).toUTF8.data.contains 0x9c

namespace State

def obeysMoves : State → Bool
  | ground => true
  | escape => true
  | escapeMore => true
  | control => true
  | _ => false

def afterEscape (c : Char) : State :=
  if c = '[' then control
  else if c = ']' then systemCommand
  else if c = 'P' then deviceHead
  else if c = 'X' ∨ c = '^' ∨ c = '_' then deviceText
  else if 0x20 ≤ c.toNat ∧ c.toNat < 0x30 then escapeMore
  else if 0x30 ≤ c.toNat ∧ c.toNat < 0x7f then ground
  else escape

/-- The state behind a character.  Three control characters have their effect in every state: one
starts an escape sequence, and two break any sequence off. -/
def next (s : State) (c : Char) : State :=
  if c = '\x1b' then escape
  else if c = '\x18' ∨ c = '\x1a' then ground
  else
    match s with
    | ground => ground
    | escape => afterEscape c
    | escapeMore => if 0x30 ≤ c.toNat ∧ c.toNat < 0x7f then ground else escapeMore
    | control => if 0x40 ≤ c.toNat ∧ c.toNat < 0x7f then ground else control
    | deviceHead =>
      if 0x20 ≤ c.toNat ∧ c.toNat < 0x30 then deviceMore
      else if 0x30 ≤ c.toNat ∧ c.toNat < 0x40 then deviceParameters
      else if 0x40 ≤ c.toNat ∧ c.toNat < 0x7f then deviceText
      else deviceHead
    | deviceParameters =>
      if 0x20 ≤ c.toNat ∧ c.toNat < 0x30 then deviceMore
      else if 0x3c ≤ c.toNat ∧ c.toNat < 0x7f then deviceText
      else deviceParameters
    | deviceMore => if 0x30 ≤ c.toNat ∧ c.toNat < 0x7f then deviceText else deviceMore
    | deviceText => if endsString c then ground else deviceText
    | systemCommand => if c = '\x07' then ground else systemCommand

end State

/-- What is left of a text that is read in a given state.  A move that is obeyed in the midst of a
sequence suspends it: what follows is text up to the next control character. -/
def plainFrom (suspended : Bool) (s : State) : List Char → List Char
  | [] => []
  | c :: rest =>
    if isShown c && (suspended || s == .ground) then
      c :: plainFrom suspended (if 0x80 ≤ c.toNat then .ground else s) rest
    else if isMove c && s.obeysMoves then c :: plainFrom true s rest
    else plainFrom false (s.next c) rest

def plain (text : String) : String :=
  String.ofList (plainFrom false .ground text.toList)

def emphasize (text : String) : String :=
  s!"\x1b[33m{text}\x1b[0m"

end WalletRecovery.Text.Terminal
