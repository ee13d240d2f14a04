import Mathlib.Data.List.Forall2
import Mathlib.Data.List.TakeWhile
import CodeNotes.Proofs.JsonReader
import CodeNotes.Session
/-!
What the printer writes the reader reads back: values first, then the views of a session.
-/
namespace CodeNotes.Json

section Characters

variable {c : Char} {s t : Text}

theorem ends_cons (h : isWordChar c = false) : Ends (c :: t) := by
  intro d hd
  obtain rfl : c = d := by simpa using hd
  exact h

theorem hexValue?_hexDigit (h : n < 16) : hexValue? (hexDigit n) = some n := by
  have hall : ∀ n < 16, hexValue? (hexDigit n) = some n := by decide
  exact hall n h

/-- A character below U+0020 by the two digits that differ. -/
theorem tokens?_code (h : n < 0x100) :
    tokens? (.escape s none) (['u', '0', '0', hexDigit (n / 16), hexDigit (n % 16)] ++ t) =
      tokens? (.string (s ++ [Char.ofNat n]) none) t := by
  have hhigh : hexValue? (hexDigit (n / 16)) = some (n / 16) := hexValue?_hexDigit (by omega)
  have hlow : hexValue? (hexDigit (n % 16)) = some (n % 16) := hexValue?_hexDigit (by omega)
  have hunit : n / 16 * 16 + n % 16 = n := by omega
  have hsmall : n < 0xD800 := by omega
  have hfirst : (Mode.code s none 0 0).next? '0' = some ([], .code s none 0 1) := rfl
  have hsecond : (Mode.code s none 0 1).next? '0' = some ([], .code s none 0 2) := rfl
  have hthird : (Mode.code s none 0 2).next? (hexDigit (n / 16)) =
      some ([], .code s none (n / 16) 3) := by
    simp [Mode.next?, hhigh]
  have hlast : (Mode.code s none (n / 16) 3).next? (hexDigit (n % 16)) =
      some ([], .string (s ++ [Char.ofNat n]) none) := by
    simp [Mode.next?, Mode.afterUnit?, hlow, hunit, hsmall]
  simp only [List.cons_append, List.nil_append]
  rw [tokens?_shift rfl, tokens?_shift hfirst, tokens?_shift hsecond, tokens?_shift hthird,
    tokens?_shift hlast]

/-- A character is written by a short escape, by its code or as it is. -/
theorem escape_cases (c : Char) :
    (∃ e, escape c = ['\\', e] ∧ e ≠ 'u' ∧ unescape? e = some c) ∨
    (c.toNat < 0x20 ∧
      escape c = ['\\', 'u', '0', '0', hexDigit (c.toNat / 16), hexDigit (c.toNat % 16)]) ∨
    (escape c = [c] ∧ c ≠ '"' ∧ c ≠ '\\' ∧ ¬ c.toNat < 0x20) := by
  by_cases hshort : c ∈ ['"', '\\', '\x08', '\x0c', '\n', '\r', '\t']
  · simp only [List.mem_cons, List.not_mem_nil, or_false] at hshort
    rcases hshort with rfl | rfl | rfl | rfl | rfl | rfl | rfl <;>
      exact .inl ⟨_, rfl, by decide, rfl⟩
  · simp only [List.mem_cons, List.not_mem_nil, or_false, not_or] at hshort
    by_cases hcontrol : c.toNat < 0x20
    · exact .inr (.inl ⟨hcontrol, by simp only [escape, hshort, hcontrol, if_true, if_false]⟩)
    · exact .inr (.inr ⟨by simp only [escape, hshort, hcontrol, if_false], hshort.1, hshort.2.1,
        hcontrol⟩)

/-- An escaped character is read as the character. -/
theorem tokens?_escape (c : Char) :
    tokens? (.string s none) (escape c ++ t) = tokens? (.string (s ++ [c]) none) t := by
  have hback : ∀ t, tokens? (.string s none) ('\\' :: t) = tokens? (.escape s none) t :=
    fun t => tokens?_shift rfl
  rcases escape_cases c with ⟨e, he, hu, hc⟩ | ⟨hcontrol, he⟩ | ⟨he, hquote, hslash, hplain⟩
  · rw [he, List.cons_append, hback]
    exact tokens?_shift (by simp [Mode.next?, hu, hc])
  · have hcode := tokens?_code (n := c.toNat) (s := s) (t := t) (by omega)
    rw [Char.ofNat_toNat] at hcode
    rw [he, List.cons_append, hback]
    exact hcode
  · rw [he]
    exact tokens?_shift (by simp [Mode.next?, hquote, hslash, hplain])

theorem tokens?_flatMap_escape (t rest : Text) :
    tokens? (.string s none) (t.flatMap escape ++ rest) = tokens? (.string (s ++ t) none) rest := by
  induction t generalizing s with
  | nil => simp
  | cons c t ih => rw [List.flatMap_cons, List.append_assoc, tokens?_escape, ih]; simp

theorem tokens?_quote (t : Text) : tokens? .between (quote t) = some [.scalar (.string t)] := by
  rw [quote, List.cons_append, tokens?_shift rfl, tokens?_flatMap_escape]
  rfl

/-- Decimal digits begin with a zero only where that is all. -/
structure Decimal (ds : Text) (n : Nat) : Prop where
  digits : ∀ c ∈ ds, isDigit c = true
  value : numeral ds = n
  nonempty : ds ≠ []
  leading : n ≠ 0 → ds.head? ≠ some '0'
  zero : n = 0 → ds.length = 1

theorem decimal_decimal (n : Nat) : Decimal (decimal n) n := by
  fun_induction decimal n with
  | case1 n h =>
    refine ⟨?_, ?_, by simp, ?_, by simp⟩
    · simpa using isDigit_digitChar h
    · simpa [numeral] using digitValue_digitChar h
    · intro hn hzero
      have hvalue := digitValue_digitChar h
      obtain he : digitChar n = '0' := by simpa using hzero
      rw [he] at hvalue
      exact hn hvalue.symm
  | case2 n h ih =>
    have hlast : n % 10 < 10 := Nat.mod_lt _ (by decide)
    refine ⟨?_, ?_, by simp, ?_, by omega⟩
    · intro c hc
      rcases List.mem_append.mp hc with hc | hc
      · exact ih.digits c hc
      · obtain rfl := List.mem_singleton.mp hc
        exact isDigit_digitChar hlast
    · rw [numeral_concat, ih.value, digitValue_digitChar hlast]
      omega
    · intro _
      have hhead := ih.leading (by omega)
      cases hds : decimal (n / 10) with
      | nil => exact absurd hds ih.nonempty
      | cons c ds => simpa [hds] using hhead

theorem isWordChar_digit (h : isDigit c = true) : isWordChar c = true := by
  simp [isWordChar, h]

/-- Digits are read as the number that they write. -/
theorem magnitude?_decimal (h : Decimal ds n) : magnitude? ds = some (n, 0) := by
  have htake : ds.takeWhile isDigit = ds := List.takeWhile_eq_self_iff.mpr h.digits
  have hdrop : ds.dropWhile isDigit = [] := List.dropWhile_eq_nil_iff.mpr h.digits
  have hdigits : digits? ds = some (ds, []) := by
    cases ds with
    | nil => exact absurd rfl h.nonempty
    | cons c ds => rw [digits?, htake, hdrop]
  have hleading : ¬ (ds.head? = some '0' ∧ 1 < ds.length) := by
    rintro ⟨hhead, hlong⟩
    by_cases hn : n = 0
    · have := h.zero hn
      omega
    · exact h.leading hn hhead
  simp [magnitude?, hdigits, hleading, fraction?, exponent?, h.value]

theorem word?_decimal (h : Decimal ds n) : word? ds = some (.number n 0) := by
  have hmagnitude := magnitude?_decimal h
  cases ds with
  | nil => exact absurd rfl h.nonempty
  | cons c ds =>
    have hne : ∀ d, isDigit d = false → c ≠ d := fun _ => ne_of_digit (h.digits c (by simp))
    have hnumber : number? (c :: ds) = some (.number n 0) := by
      rw [number?]
      · rw [hmagnitude]
        rfl
      · intro t ht
        exact hne '-' (by decide) (List.head_eq_of_cons_eq ht)
    have hnull : c :: ds ≠ "null".toList := by simp [hne 'n' (by decide)]
    have htrue : c :: ds ≠ "true".toList := by simp [hne 't' (by decide)]
    have hfalse : c :: ds ≠ "false".toList := by simp [hne 'f' (by decide)]
    rw [word?, if_neg hnull, if_neg htrue, if_neg hfalse, hnumber]

theorem tokens?_word_append (h : ∀ c ∈ t, isWordChar c = true) :
    tokens? (.word s) t = tokens? (.word (s ++ t)) [] := by
  induction t generalizing s with
  | nil => simp
  | cons c t ih =>
    have hc : (Mode.word s).next? c = some ([], .word (s ++ [c])) := by
      simp [Mode.next?, h c]
    rw [tokens?_shift hc, ih fun d hd => h d (List.mem_cons_of_mem _ hd)]
    simp

theorem tokens?_decimal (n : Nat) :
    tokens? .between (decimal n) = some [.scalar (.number n 0)] := by
  have h := decimal_decimal n
  have hword := word?_decimal h
  cases hds : decimal n with
  | nil => exact absurd hds h.nonempty
  | cons c ds =>
    rw [hds] at h hword
    have hc := h.digits c (by simp)
    have hne : ∀ d, isDigit d = false → c ≠ d := fun _ => ne_of_digit hc
    have hbegin : Mode.between.next? c = some ([], .word [c]) := by
      have hwhite : isWhite c = false := by
        simpa [isWhite] using ⟨⟨⟨hne ' ' (by decide), hne '\t' (by decide)⟩, hne '\n' (by decide)⟩,
          hne '\r' (by decide)⟩
      simp [Mode.next?, begin?, hwhite, hne '"' (by decide), isWordChar_digit hc]
    rw [tokens?_shift hbegin, tokens?_word_append fun d hd =>
      isWordChar_digit (h.digits d (List.mem_cons_of_mem _ hd))]
    simp [tokens?, Mode.end?, hword]

end Characters

mutual

/-- What a value is for a reader. -/
def Value.datum : Value → Datum
  | .bool b => .bool b
  | .nat n => .number n 0
  | .string t => .string t
  | .array items => .array (itemData items)
  | .object members => .object (memberData members)

def itemData : List Value → List Datum
  | [] => []
  | v :: vs => v.datum :: itemData vs

def memberData : List (Text × Value) → List (Text × Datum)
  | [] => []
  | (key, v) :: ms => (key, v.datum) :: memberData ms

end

def separated (parts : List (List Token)) : List Token :=
  [Token.comma].intercalate parts

mutual

/-- The tokens of the text of a value. -/
def Value.tokens : Value → List Token
  | .bool b => [.scalar (.bool b)]
  | .nat n => [.scalar (.number n 0)]
  | .string t => [.scalar (.string t)]
  | .array items => .openArray :: separated (itemTokens items) ++ [.closeArray]
  | .object members => .openObject :: separated (memberTokens members) ++ [.closeObject]

def itemTokens : List Value → List (List Token)
  | [] => []
  | v :: vs => v.tokens :: itemTokens vs

def memberTokens : List (Text × Value) → List (List Token)
  | [] => []
  | (key, v) :: ms => (.scalar (.string key) :: .colon :: v.tokens) :: memberTokens ms

end

section Layout

variable {s t : Text} {parts : List Text} {tokens : List Token} {level : Nat}

/-- A text with its tokens. -/
def Lexes (t : Text) (tokens : List Token) : Prop :=
  tokens? .between t = some tokens

theorem Lexes.append (hs : Lexes s tokens) (ht : Lexes t later) (hends : Ends t) :
    Lexes (s ++ t) (tokens ++ later) := by
  rw [Lexes, tokens?_append hs hends, ht]
  rfl

theorem Lexes.punctuation (ht : Lexes t tokens) (h : begin? c = some ([token], .between)) :
    Lexes (c :: t) (token :: tokens) := by
  have hnext : Mode.between.next? c = some ([token], .between) := h
  rw [Lexes, tokens?_emit hnext, ht]
  rfl

theorem Lexes.white (ht : Lexes t tokens) (h : begin? c = some ([], .between)) :
    Lexes (c :: t) tokens := by
  have hnext : Mode.between.next? c = some ([], .between) := h
  rw [Lexes, tokens?_shift hnext]
  exact ht

theorem Lexes.newline (ht : Lexes t tokens) (level : Nat) :
    Lexes (newline level ++ t) tokens := by
  have hblanks : ∀ n, Lexes (List.replicate n ' ' ++ t) tokens := by
    intro n
    induction n with
    | zero => exact ht
    | succ n ih => exact ih.white rfl
  exact (hblanks (2 * level)).white rfl

theorem lexes_joinWith {tokens : List (List Token)} (h : List.Forall₂ Lexes parts tokens)
    (level : Nat) : Lexes (joinWith (',' :: newline level) parts) (separated tokens) := by
  induction h with
  | nil => rfl
  | @cons part first parts later hpart hparts ih =>
    cases hparts with
    | nil => simpa [joinWith, separated] using hpart
    | cons hnext hrest =>
      have hcomma := (ih.newline level).punctuation (c := ',') rfl
      have hjoin := hpart.append hcomma (ends_cons rfl)
      simpa [joinWith, separated, List.intercalate_cons_cons] using hjoin

/-- Between brackets stand the tokens of the items with commas. -/
theorem lexes_bracket {opening closing : Char} {first last : Token} {tokens : List (List Token)}
    (hopening : begin? opening = some ([first], .between))
    (hclosing : begin? closing = some ([last], .between)) (h : List.Forall₂ Lexes parts tokens)
    (level : Nat) :
    Lexes (bracket opening closing level parts) (first :: separated tokens ++ [last]) := by
  have hend : Lexes [closing] [last] := Lexes.punctuation rfl hclosing
  cases h with
  | nil => exact hend.punctuation hopening
  | cons hpart hparts =>
    have hitems := lexes_joinWith (.cons hpart hparts) (level + 1)
    have hclosed := hitems.append (hend.newline level) (ends_cons rfl)
    have hopened := (hclosed.newline (level + 1)).punctuation hopening
    simpa [bracket] using hopened

theorem lexes_true : Lexes "true".toList [.scalar (.bool true)] := rfl

theorem lexes_false : Lexes "false".toList [.scalar (.bool false)] := rfl

end Layout

mutual

theorem lexes_render (level : Nat) : ∀ v : Value, Lexes (render level v) v.tokens
  | .bool true => by
    rw [render, Value.tokens]
    exact lexes_true
  | .bool false => by
    rw [render, Value.tokens]
    exact lexes_false
  | .nat n => tokens?_decimal n
  | .string t => tokens?_quote t
  | .array items => by
    rw [render, Value.tokens]
    exact lexes_bracket rfl rfl (lexes_items (level + 1) items) level
  | .object members => by
    rw [render, Value.tokens]
    exact lexes_bracket rfl rfl (lexes_members (level + 1) members) level

theorem lexes_items (level : Nat) :
    ∀ vs : List Value, List.Forall₂ Lexes (renderItems level vs) (itemTokens vs)
  | [] => by
    rw [renderItems, itemTokens]
    exact .nil
  | v :: vs => by
    rw [renderItems, itemTokens]
    exact .cons (lexes_render level v) (lexes_items level vs)

theorem lexes_members (level : Nat) :
    ∀ ms : List (Text × Value), List.Forall₂ Lexes (renderMembers level ms) (memberTokens ms)
  | [] => by
    rw [renderMembers, memberTokens]
    exact .nil
  | (key, v) :: ms => by
    rw [renderMembers, memberTokens]
    have hvalue := ((lexes_render level v).white (c := ' ') rfl).punctuation (c := ':') rfl
    have hmember := Lexes.append (tokens?_quote key) hvalue (ends_cons rfl)
    refine .cons ?_ (lexes_members level ms)
    simpa using hmember

end

section Stack

variable {done items : List Datum} {members : List (Text × Datum)} {stack : List Frame}
  {r : Reader}

theorem fold_append (h : tokens.foldlM Reader.next? r = some r') (later : List Token) :
    (tokens ++ later).foldlM Reader.next? r = later.foldlM Reader.next? r' := by
  rw [List.foldlM_append, h]
  rfl

theorem fold_cons (h : r.next? token = some r') (later : List Token) :
    (token :: later).foldlM Reader.next? r = later.foldlM Reader.next? r' := by
  rw [List.foldlM_cons, h]
  rfl

theorem fold_singleton (r : Reader) (token : Token) :
    [token].foldlM Reader.next? r = r.next? token := by
  rw [List.foldlM_cons]
  cases r.next? token <;> rfl

theorem scalar?_of_awaits (h : r.awaitsDatum = true) (d : Datum) : r.scalar? d = r.take? d := by
  obtain ⟨done, stack⟩ := r
  cases stack with
  | nil => rfl
  | cons frame stack =>
    cases frame with
    | objectOpened => contradiction
    | objectNext members => contradiction
    | _ => rfl

theorem next?_openArray (h : r.awaitsDatum = true) :
    r.next? .openArray = some ⟨r.done, .arrayOpened :: r.stack⟩ := if_pos h

theorem next?_openObject (h : r.awaitsDatum = true) :
    r.next? .openObject = some ⟨r.done, .objectOpened :: r.stack⟩ := if_pos h

theorem next?_comma_item :
    (⟨done, .arrayItem items :: stack⟩ : Reader).next? .comma =
      some ⟨done, .arrayNext items :: stack⟩ := rfl

theorem next?_comma_member :
    (⟨done, .objectMember members :: stack⟩ : Reader).next? .comma =
      some ⟨done, .objectNext members :: stack⟩ := rfl

/-- A key and its colon leave the value to be read. -/
theorem fold_key
    (hkey : r.scalar? (.string key) = some ⟨done, .objectKey members key :: stack⟩)
    (later : List Token) :
    (.scalar (.string key) :: .colon :: later).foldlM Reader.next? r =
      later.foldlM Reader.next? ⟨done, .objectColon members key :: stack⟩ := by
  have hnext : r.next? (.scalar (.string key)) = some ⟨done, .objectKey members key :: stack⟩ :=
    hkey
  rw [fold_cons hnext]
  rfl

mutual

/-- Where something is awaited, the tokens of a value are put there as what they say. -/
theorem fold_value (r : Reader) (h : r.awaitsDatum = true) :
    ∀ v : Value, v.tokens.foldlM Reader.next? r = r.take? v.datum
  | .bool b => (fold_singleton r _).trans (scalar?_of_awaits h _)
  | .nat n => (fold_singleton r _).trans (scalar?_of_awaits h _)
  | .string t => (fold_singleton r _).trans (scalar?_of_awaits h _)
  | .array [] => (fold_cons (next?_openArray h) _).trans (fold_singleton _ _)
  | .array (v :: vs) => by
    have hitems := fold_items [] r.stack ⟨r.done, .arrayOpened :: r.stack⟩ rfl (fun _ => rfl)
      (v :: vs) (by simp)
    rw [Value.tokens, List.cons_append, fold_cons (next?_openArray h),
      fold_append hitems, fold_singleton]
    rfl
  | .object [] => (fold_cons (next?_openObject h) _).trans (fold_singleton _ _)
  | .object (m :: ms) => by
    have hmembers := fold_members [] r.stack ⟨r.done, .objectOpened :: r.stack⟩ (fun _ => rfl)
      (m :: ms) (by simp)
    rw [Value.tokens, List.cons_append, fold_cons (next?_openObject h),
      fold_append hmembers, fold_singleton]
    rfl

theorem fold_items (before : List Datum) (stack : List Frame) (r : Reader)
    (h : r.awaitsDatum = true)
    (htake : ∀ d, r.take? d = some ⟨r.done, .arrayItem (before ++ [d]) :: stack⟩) :
    ∀ vs : List Value, vs ≠ [] → (separated (itemTokens vs)).foldlM Reader.next? r =
      some ⟨r.done, .arrayItem (before ++ itemData vs) :: stack⟩
  | [], hne => absurd rfl hne
  | [v], _ => by
    have hvalue := (fold_value r h v).trans (htake _)
    simpa [separated, itemTokens, itemData] using hvalue
  | v :: w :: vs, _ => by
    have hvalue := (fold_value r h v).trans (htake _)
    have hrest := fold_items (before ++ [v.datum]) stack
      ⟨r.done, .arrayNext (before ++ [v.datum]) :: stack⟩ rfl (fun _ => rfl) (w :: vs) (by simp)
    rw [separated, itemTokens, itemTokens, List.intercalate_cons_cons, List.append_assoc,
      fold_append hvalue, List.singleton_append, fold_cons next?_comma_item]
    simpa [separated, itemTokens, itemData] using hrest

theorem fold_members (before : List (Text × Datum)) (stack : List Frame) (r : Reader)
    (hkey : ∀ key, r.scalar? (.string key) = some ⟨r.done, .objectKey before key :: stack⟩) :
    ∀ ms : List (Text × Value), ms ≠ [] →
      (separated (memberTokens ms)).foldlM Reader.next? r =
        some ⟨r.done, .objectMember (before ++ memberData ms) :: stack⟩
  | [], hne => absurd rfl hne
  | [(key, v)], _ => by
    have hvalue : v.tokens.foldlM Reader.next? ⟨r.done, .objectColon before key :: stack⟩ =
        some ⟨r.done, .objectMember (before ++ [(key, v.datum)]) :: stack⟩ :=
      fold_value ⟨r.done, .objectColon before key :: stack⟩ rfl v
    have hmember := (fold_key (hkey key) v.tokens).trans hvalue
    simpa [separated, memberTokens, memberData] using hmember
  | (key, v) :: (next, w) :: ms, _ => by
    have hvalue : v.tokens.foldlM Reader.next? ⟨r.done, .objectColon before key :: stack⟩ =
        some ⟨r.done, .objectMember (before ++ [(key, v.datum)]) :: stack⟩ :=
      fold_value ⟨r.done, .objectColon before key :: stack⟩ rfl v
    have hmember := (fold_key (hkey key) v.tokens).trans hvalue
    have hrest := fold_members (before ++ [(key, v.datum)]) stack
      ⟨r.done, .objectNext (before ++ [(key, v.datum)]) :: stack⟩ (fun _ => rfl)
      ((next, w) :: ms) (by simp)
    rw [separated, memberTokens, memberTokens, List.intercalate_cons_cons, List.append_assoc,
      fold_append hmember, List.singleton_append, fold_cons next?_comma_member]
    simpa [separated, memberTokens, memberData] using hrest

end

end Stack

/-- Reading what is written for a value gives the value, and nothing else. -/
theorem read?_render (v : Value) : read? (render 0 v ++ ['\n']) = some [v.datum] := by
  have hend : Lexes ['\n'] [] := rfl
  have hlex := Lexes.append (lexes_render 0 v) hend (ends_cons rfl)
  rw [List.append_nil] at hlex
  exact read?_eq_some_iff.mpr ⟨v.tokens, hlex, fold_value ⟨[], []⟩ rfl v⟩

/-- The object of a task, with a key for each field. -/
def Datum.ofTask (task : Task) : Datum :=
  .object
    [("user".toList, .string task.user),
      ("date".toList, .string task.date),
      ("comment".toList, .string task.comment),
      ("importance".toList, .bool task.important),
      ("importance_rank".toList, .number task.rank 0),
      ("file_name".toList, .string task.fileName),
      ("raw_text".toList, .string task.text)]

theorem Datum.ofTask_injective : Function.Injective Datum.ofTask := by
  intro task task' h
  obtain ⟨user, date, comment, important, rank, fileName, text⟩ := task
  obtain ⟨user', date', comment', important', rank', fileName', text'⟩ := task'
  simpa [ofTask, Int.natCast_inj] using h

theorem datum_ofTasks (tasks : List Task) :
    (ofTasks tasks).datum = .array (tasks.map Datum.ofTask) := by
  have hitems : itemData (tasks.map ofTask) = tasks.map Datum.ofTask := by
    induction tasks with
    | nil => rfl
    | cons task tasks ih =>
      rw [List.map_cons, itemData, ih]
      rfl
  rw [ofTasks, Value.datum, hitems]

theorem ends_render_array (items : List Value) (level : Nat) (rest : Text) :
    Ends (render level (.array items) ++ rest) := by
  cases items with
  | nil => exact ends_cons rfl
  | cons v vs => exact ends_cons rfl

end CodeNotes.Json

namespace CodeNotes.Session

/-- What a reader makes of a view: its tasks in their order. -/
def viewDatum (view : View) : Json.Datum :=
  .array (view.map fun row => .ofTask row.task)

theorem viewDatum_eq_iff {view view' : View} :
    viewDatum view = viewDatum view' ↔ view.map Row.task = view'.map Row.task := by
  have hdatum : ∀ view, viewDatum view = .array ((view.map Row.task).map Json.Datum.ofTask) := by
    intro view
    rw [viewDatum, List.map_map]
    rfl
  rw [hdatum, hdatum, Json.Datum.array.injEq,
    (List.map_injective_iff.mpr Json.Datum.ofTask_injective).eq_iff]

theorem read?_viewText (view : View) : Json.read? (viewText .json view) = some [viewDatum view] := by
  have hread := Json.read?_render (Json.ofTasks (view.map Row.task))
  rw [Json.datum_ofTasks, List.map_map] at hread
  exact hread

theorem ends_viewTexts (views : List View) : Json.Ends (views.flatMap (viewText .json)) := by
  cases views with
  | nil => simp [Json.Ends]
  | cons view views =>
    rw [List.flatMap_cons, viewText, List.append_assoc]
    exact Json.ends_render_array _ 0 _

theorem read?_viewTexts (views : List View) :
    Json.read? (views.flatMap (viewText .json)) = some (views.map viewDatum) := by
  induction views with
  | nil => rfl
  | cons view views ih => exact Json.read?_append (read?_viewText view) ih (ends_viewTexts views)

/-- Views written in JSON one after another are read back one after another, each with all its
tasks. So what is written tells apart any two sequences of views with other tasks. -/
theorem json_reads_back (views : List View) :
    Json.read? (views.flatMap (viewText .json)) = some (views.map viewDatum) ∧
    ∀ views' : List View, views.flatMap (viewText .json) = views'.flatMap (viewText .json) ↔
      views.map (·.map Row.task) = views'.map (·.map Row.task) := by
  refine ⟨read?_viewTexts views, fun views' => ?_⟩
  have hdata : views.map viewDatum = views'.map viewDatum ↔
      views.map (·.map Row.task) = views'.map (·.map Row.task) := by
    induction views generalizing views' with
    | nil => cases views' <;> simp
    | cons view views ih =>
      cases views' with
      | nil => simp
      | cons view' views' => simp [viewDatum_eq_iff, ih views']
  rw [← hdata]
  constructor
  · intro h
    have hread := read?_viewTexts views
    rw [h, read?_viewTexts] at hread
    exact (Option.some.inj hread).symm
  · intro h
    have htasks := hdata.mp h
    have htext : ∀ views : List View, views.flatMap (viewText .json) =
        (views.map (·.map Row.task)).flatMap fun tasks =>
          Json.render 0 (Json.ofTasks tasks) ++ ['\n'] := by
      intro views
      rw [List.flatMap_map]
      rfl
    rw [htext, htext, htasks]

end CodeNotes.Session
