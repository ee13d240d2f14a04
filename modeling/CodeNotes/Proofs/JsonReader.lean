import CodeNotes.Json
/-!
A reader of JSON texts that stand one after another. A first machine goes through the
characters and makes tokens of them, a second one puts the tokens together with the arrays and
objects that are open on a stack.
-/
namespace CodeNotes.Json

/-- What a JSON text says. A number is its mantissa and its power of ten. -/
inductive Datum where
  | null
  | bool (b : Bool)
  | number (mantissa exponent : Int)
  | string (t : Text)
  | array (items : List Datum)
  | object (members : List (Text × Datum))

inductive Token where
  | openArray
  | closeArray
  | openObject
  | closeObject
  | comma
  | colon
  | scalar (d : Datum)

/-- The digits that a text begins with, of which there must be one, and what follows. -/
def digits? (t : Text) : Option (Text × Text) :=
  match t.takeWhile isDigit with
  | [] => none
  | ds => some (ds, t.dropWhile isDigit)

/-- The digits behind a point, if there is one. -/
def fraction? : Text → Option (Text × Text)
  | '.' :: t => digits? t
  | t => some ([], t)

def whole? (t : Text) : Option Nat :=
  if t ≠ [] ∧ t.all isDigit = true then some (numeral t) else none

/-- The power of ten that a number ends with. -/
def exponent? : Text → Option Int
  | [] => some 0
  | e :: t =>
    if e = 'e' ∨ e = 'E' then
      match t with
      | '-' :: t => (whole? t).map fun n => -(n : Int)
      | '+' :: t => (whole? t).map Int.ofNat
      | t => (whole? t).map Int.ofNat
    else none

/-- A number without its sign. A zero in front of other digits is no number. -/
def magnitude? (t : Text) : Option (Nat × Int) := do
  let (ds, t) ← digits? t
  if ds.head? = some '0' ∧ 1 < ds.length then none
  let (fraction, t) ← fraction? t
  let exponent ← exponent? t
  some (numeral (ds ++ fraction), exponent - fraction.length)

def number? : Text → Option Datum
  | '-' :: t => (magnitude? t).map fun m => .number (-m.1) m.2
  | t => (magnitude? t).map fun m => .number m.1 m.2

/-- A number or one of the three names. -/
def word? (w : Text) : Option Datum :=
  if w = "null".toList then some .null
  else if w = "true".toList then some (.bool true)
  else if w = "false".toList then some (.bool false)
  else number? w

def isWordChar (c : Char) : Bool :=
  isDigit c || 'a' ≤ c && c ≤ 'z' || 'A' ≤ c && c ≤ 'Z' || c = '-' || c = '+' || c = '.'

def isWhite (c : Char) : Bool :=
  c = ' ' || c = '\t' || c = '\n' || c = '\r'

def punctuation? : Char → Option Token
  | '[' => some .openArray
  | ']' => some .closeArray
  | '\x7b' => some .openObject
  | '\x7d' => some .closeObject
  | ',' => some .comma
  | ':' => some .colon
  | _ => none

def hexValue? (c : Char) : Option Nat :=
  if isDigit c then some (digitValue c)
  else if 'a' ≤ c ∧ c ≤ 'f' then some (c.toNat - 'a'.toNat + 10)
  else if 'A' ≤ c ∧ c ≤ 'F' then some (c.toNat - 'A'.toNat + 10)
  else none

/-- What a backslash and a character stand for, save for `\u`. -/
def unescape? : Char → Option Char
  | '"' => some '"'
  | '\\' => some '\\'
  | '/' => some '/'
  | 'b' => some '\x08'
  | 'f' => some '\x0c'
  | 'n' => some '\n'
  | 'r' => some '\r'
  | 't' => some '\t'
  | _ => none

/-- Where the first machine is. In a string it holds the text so far and a high surrogate that
waits for its low one. -/
inductive Mode where
  | between
  | word (w : Text)
  | string (t : Text) (high : Option Nat)
  | escape (t : Text) (high : Option Nat)
  /-- Behind `\u`, with the value of the digits so far and their number. -/
  | code (t : Text) (high : Option Nat) (value count : Nat)

/-- Behind the four digits of a code unit. -/
def Mode.afterUnit? (t : Text) (unit : Nat) : Option Nat → Option Mode
  | none =>
    if unit < 0xD800 ∨ 0xDFFF < unit then some (.string (t ++ [Char.ofNat unit]) none)
    else if unit < 0xDC00 then some (.string t (some unit))
    else none
  | some high =>
    if 0xDC00 ≤ unit ∧ unit ≤ 0xDFFF then
      let c := Char.ofNat (0x10000 + (high - 0xD800) * 0x400 + (unit - 0xDC00))
      some (.string (t ++ [c]) none)
    else none

/-- The tokens that end with a character between tokens, and where that leaves the machine. -/
def begin? (c : Char) : Option (List Token × Mode) :=
  if isWhite c then some ([], .between)
  else if c = '"' then some ([], .string [] none)
  else if isWordChar c then some ([], .word [c])
  else (punctuation? c).map fun token => ([token], .between)

/-- As `begin?`, wherever the machine is. -/
def Mode.next? (c : Char) : Mode → Option (List Token × Mode)
  | .between => begin? c
  | .word w =>
    if isWordChar c then some ([], .word (w ++ [c]))
    else do
      let d ← word? w
      let (tokens, mode) ← begin? c
      some (.scalar d :: tokens, mode)
  | .string t none =>
    if c = '"' then some ([.scalar (.string t)], .between)
    else if c = '\\' then some ([], .escape t none)
    else if c.toNat < 0x20 then none
    else some ([], .string (t ++ [c]) none)
  | .string t (some high) => if c = '\\' then some ([], .escape t (some high)) else none
  | .escape t high =>
    if c = 'u' then some ([], .code t high 0 0)
    else if high = none then (unescape? c).map fun e => ([], .string (t ++ [e]) none)
    else none
  | .code t high value count => do
    let digit ← hexValue? c
    if count < 3 then some ([], .code t high (value * 16 + digit) (count + 1))
    else (Mode.afterUnit? t (value * 16 + digit) high).map fun mode => ([], mode)

/-- The tokens at the end of a text. -/
def Mode.end? : Mode → Option (List Token)
  | .between => some []
  | .word w => (word? w).map fun d => [.scalar d]
  | _ => none

def tokens? (mode : Mode) : Text → Option (List Token)
  | [] => mode.end?
  | c :: t => do
    let (tokens, mode) ← mode.next? c
    let later ← tokens? mode t
    some (tokens ++ later)

/-- An array or object that is open. -/
inductive Frame where
  /-- Behind the bracket. -/
  | arrayOpened
  /-- Behind a comma. -/
  | arrayNext (items : List Datum)
  /-- Behind an item. -/
  | arrayItem (items : List Datum)
  /-- Behind the brace. -/
  | objectOpened
  /-- Behind a comma. -/
  | objectNext (members : List (Text × Datum))
  /-- Behind a key. -/
  | objectKey (members : List (Text × Datum)) (key : Text)
  /-- Behind a colon. -/
  | objectColon (members : List (Text × Datum)) (key : Text)
  /-- Behind a member. -/
  | objectMember (members : List (Text × Datum))

/-- The second machine: the texts that were read and what is open, innermost first. -/
structure Reader where
  done : List Datum
  stack : List Frame

namespace Reader

/-- Put something that was read where it belongs. -/
def take? (r : Reader) (d : Datum) : Option Reader :=
  match r.stack with
  | [] => some ⟨r.done ++ [d], []⟩
  | .arrayOpened :: stack => some ⟨r.done, .arrayItem [d] :: stack⟩
  | .arrayNext items :: stack => some ⟨r.done, .arrayItem (items ++ [d]) :: stack⟩
  | .objectColon members key :: stack =>
    some ⟨r.done, .objectMember (members ++ [(key, d)]) :: stack⟩
  | _ => none

def awaitsDatum (r : Reader) : Bool :=
  (r.take? .null).isSome

/-- Put a scalar, which is a key where one must follow. -/
def scalar? (r : Reader) (d : Datum) : Option Reader :=
  match r.stack, d with
  | .objectOpened :: stack, .string key => some ⟨r.done, .objectKey [] key :: stack⟩
  | .objectNext members :: stack, .string key => some ⟨r.done, .objectKey members key :: stack⟩
  | _, d => r.take? d

def next? (r : Reader) (token : Token) : Option Reader :=
  match token, r.stack with
  | .scalar d, _ => r.scalar? d
  | .openArray, stack => if r.awaitsDatum then some ⟨r.done, .arrayOpened :: stack⟩ else none
  | .openObject, stack => if r.awaitsDatum then some ⟨r.done, .objectOpened :: stack⟩ else none
  | .closeArray, .arrayOpened :: stack => take? ⟨r.done, stack⟩ (.array [])
  | .closeArray, .arrayItem items :: stack => take? ⟨r.done, stack⟩ (.array items)
  | .closeObject, .objectOpened :: stack => take? ⟨r.done, stack⟩ (.object [])
  | .closeObject, .objectMember members :: stack => take? ⟨r.done, stack⟩ (.object members)
  | .comma, .arrayItem items :: stack => some ⟨r.done, .arrayNext items :: stack⟩
  | .comma, .objectMember members :: stack => some ⟨r.done, .objectNext members :: stack⟩
  | .colon, .objectKey members key :: stack => some ⟨r.done, .objectColon members key :: stack⟩
  | _, _ => none

end Reader

/-- What the JSON texts in a text say, one after another. -/
def read? (t : Text) : Option (List Datum) := do
  let tokens ← tokens? .between t
  let r ← tokens.foldlM Reader.next? ⟨[], []⟩
  if r.stack.isEmpty then some r.done else none

/-- Nothing that goes on with a word. -/
def Ends (t : Text) : Prop :=
  ∀ c ∈ t.head?, isWordChar c = false

section

variable {c : Char} {s t w : Text} {mode : Mode} {tokens : List Token} {ds ds' : List Datum}

theorem tokens?_shift (h : mode.next? c = some ([], mode')) :
    tokens? mode (c :: t) = tokens? mode' t := by
  simp [tokens?, h]

theorem tokens?_emit (h : mode.next? c = some ([token], .between)) :
    tokens? mode (c :: t) = (tokens? .between t).map (token :: ·) := by
  cases ht : tokens? .between t <;> simp [tokens?, h, ht]

/-- A word ends at whatever cannot be part of it. -/
theorem tokens?_word (h : word? w = some d) (ht : Ends t) :
    tokens? (.word w) t = (tokens? .between t).map (.scalar d :: ·) := by
  cases t with
  | nil => simp [tokens?, Mode.end?, h]
  | cons c t =>
    have hc : isWordChar c = false := ht c rfl
    simp only [tokens?, Mode.next?, hc, h]
    cases begin? c with
    | none => rfl
    | some pair => cases ht : tokens? pair.2 t <;> simp [ht]

/-- Two texts have the tokens of the first and then those of the second, unless a word goes on
across. -/
theorem tokens?_append (h : tokens? mode s = some tokens) (ht : Ends t) :
    tokens? mode (s ++ t) = (tokens? .between t).map (tokens ++ ·) := by
  induction s generalizing mode tokens with
  | nil =>
    cases mode with
    | between =>
      obtain rfl : [] = tokens := by simpa [tokens?, Mode.end?] using h
      simp
    | word w =>
      rw [tokens?, Mode.end?, Option.map_eq_some_iff] at h
      obtain ⟨d, hd, rfl⟩ := h
      exact tokens?_word hd ht
    | string t high => simp [tokens?, Mode.end?] at h
    | escape t high => simp [tokens?, Mode.end?] at h
    | code t high value count => simp [tokens?, Mode.end?] at h
  | cons c s ih =>
    simp only [tokens?, Option.bind_eq_bind, Option.bind_eq_some_iff] at h
    obtain ⟨⟨first, mode'⟩, hnext, later, hlater, he⟩ := h
    obtain rfl : first ++ later = tokens := Option.some.inj he
    rw [List.cons_append, tokens?, hnext]
    simp only [Option.bind_eq_bind, Option.bind_some, ih hlater]
    cases tokens? .between t <;> simp

/-- A reader that had read some texts before. -/
def Reader.behind (ds : List Datum) (r : Reader) : Reader :=
  ⟨ds ++ r.done, r.stack⟩

theorem Reader.take?_behind (r : Reader) :
    (r.behind ds).take? d = (r.take? d).map (Reader.behind ds) := by
  obtain ⟨done, stack⟩ := r
  cases stack with
  | nil => simp [take?, behind]
  | cons frame stack => cases frame <;> rfl

theorem Reader.scalar?_behind (r : Reader) :
    (r.behind ds).scalar? d = (r.scalar? d).map (Reader.behind ds) := by
  have htake : (r.behind ds).take? d = (r.take? d).map (Reader.behind ds) := r.take?_behind
  obtain ⟨done, stack⟩ := r
  cases stack with
  | nil => exact htake
  | cons frame stack =>
    cases frame with
    | objectOpened => cases d <;> first | exact htake | rfl
    | objectNext members => cases d <;> first | exact htake | rfl
    | _ => exact htake

theorem Reader.next?_behind (r : Reader) :
    (r.behind ds).next? token = (r.next? token).map (Reader.behind ds) := by
  have hawaits : (r.behind ds).awaitsDatum = r.awaitsDatum := by
    rw [awaitsDatum, take?_behind, Option.isSome_map, awaitsDatum]
  cases token with
  | scalar d => exact r.scalar?_behind
  | openArray =>
    simp only [next?, hawaits]
    split <;> rfl
  | openObject =>
    simp only [next?, hawaits]
    split <;> rfl
  | _ =>
    obtain ⟨done, stack⟩ := r
    cases stack with
    | nil => rfl
    | cons frame stack => cases frame <;> first | rfl | exact take?_behind ⟨done, stack⟩

theorem Reader.foldlM_behind (r : Reader) (tokens : List Token) :
    tokens.foldlM next? (r.behind ds) = (tokens.foldlM next? r).map (Reader.behind ds) := by
  induction tokens generalizing r with
  | nil => rfl
  | cons token tokens ih =>
    rw [List.foldlM_cons, List.foldlM_cons, next?_behind]
    cases r.next? token with
    | none => rfl
    | some r' => exact ih r'

theorem read?_eq_some_iff :
    read? t = some ds ↔
      ∃ tokens, tokens? .between t = some tokens ∧
        tokens.foldlM Reader.next? ⟨[], []⟩ = some ⟨ds, []⟩ := by
  simp only [read?, Option.bind_eq_bind, Option.bind_eq_some_iff]
  constructor
  · rintro ⟨tokens, htokens, ⟨done, stack⟩, hfold, hdone⟩
    split at hdone
    · next hempty =>
      obtain rfl : stack = [] := List.isEmpty_iff.mp hempty
      obtain rfl : done = ds := Option.some.inj hdone
      exact ⟨tokens, htokens, hfold⟩
    · contradiction
  · rintro ⟨tokens, htokens, hfold⟩
    exact ⟨tokens, htokens, _, hfold, rfl⟩

/-- Texts that stand one after another are read one after another. -/
theorem read?_append (hs : read? s = some ds) (ht : read? t = some ds') (hends : Ends t) :
    read? (s ++ t) = some (ds ++ ds') := by
  obtain ⟨tokens, htokens, hfold⟩ := read?_eq_some_iff.mp hs
  obtain ⟨later, hlater, hfold'⟩ := read?_eq_some_iff.mp ht
  refine read?_eq_some_iff.mpr ⟨tokens ++ later, ?_, ?_⟩
  · rw [tokens?_append htokens hends, hlater]
    rfl
  · have hbehind : (⟨ds, []⟩ : Reader) = Reader.behind ds ⟨[], []⟩ := by simp [Reader.behind]
    rw [List.foldlM_append, hfold]
    change later.foldlM Reader.next? ⟨ds, []⟩ = _
    rw [hbehind, Reader.foldlM_behind, hfold']
    rfl

/-- An array and a string, with escapes of all kinds, a pair of surrogates and a number. -/
example :
    read? ("[\"\\u00e9\\n\\/\", -1.50e2 ,null]".toList ++ "\"\\ud83d\\ude00\"".toList) =
      some ([.array [.string ['é', '\n', '/'], .number (-150) 0, .null]] ++ [.string ['😀']]) := by
  rfl

end

end CodeNotes.Json
