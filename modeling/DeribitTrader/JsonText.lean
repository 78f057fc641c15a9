import DeribitTrader.Json
import DeribitTrader.Text

/-!
# JSON texts and the values they denote

The server's command parser reads frames with a substring search, and its acknowledgements are
built by concatenation. Neither goes through a JSON library, so what a frame or an
acknowledgement means as JSON has to be read off the text. `JsonText.decode` is that reading:
the JSON grammar (a value with optional whitespace around it; objects, arrays, strings with
their escapes, numbers, `true`, `false`, `null`), written as a recursive descent over the
characters, one function per rule.

An object's members come out in the order the text writes them, repeated keys included, so
the value is the parse tree of the text. A `\u` escape of a high surrogate must be followed by
one of a low surrogate, and the pair denotes one character; an unpaired surrogate is refused.

The descent takes a fuel argument, the text's length plus one. Every call of `value`,
`elements` or `members` is charged to a character of the text: `value` to its first character,
`elements` and `members` to the `,` or the closing bracket after their value. A string literal
is read with the length of the text after its opening quote as fuel, every step reading at
least one character.

The lemmas after the decoder read texts built from known pieces one step at a time: compact
objects of plain strings (`decode_objectText`), texts indented one member a line (the `_skip_`
lemmas, for the link's requests), and decimal numerals (`value_skip_nat`).
-/

set_option autoImplicit false

namespace DeribitTrader.JsonText

/-- Insignificant whitespace: space, horizontal tab, line feed and carriage return. -/
def isWhitespace (c : Char) : Bool := c == ' ' || c == '\t' || c == '\n' || c == '\r'

/-- The text after its leading whitespace. -/
def skipWhitespace (cs : List Char) : List Char := cs.dropWhile isWhitespace

/-- The value of a hexadecimal digit. -/
def hexValue (c : Char) : Option Nat :=
  if '0' ≤ c ∧ c ≤ '9' then some (c.toNat - 48)
  else if 'a' ≤ c ∧ c ≤ 'f' then some (c.toNat - 87)
  else if 'A' ≤ c ∧ c ≤ 'F' then some (c.toNat - 55)
  else none

/-- The code unit four hexadecimal digits write. -/
def codeUnit (a b c d : Char) : Option Nat := do
  pure ((((← hexValue a) * 16 + (← hexValue b)) * 16 + (← hexValue c)) * 16 + (← hexValue d))

/-- The character a two-character escape `\c` stands for. -/
def escaped : Char → Option Char
  | '"' => some '"'
  | '\\' => some '\\'
  | '/' => some '/'
  | 'b' => some '\x08'
  | 'f' => some '\x0c'
  | 'n' => some '\n'
  | 'r' => some '\r'
  | 't' => some '\t'
  | _ => none

/-- The character an escape writes, given the text after its backslash, and the text after the
escape. A `\u` escape of a high surrogate must be followed by one of a low surrogate, and the
pair writes one character; an unpaired surrogate is refused. -/
def escape : List Char → Option (Char × List Char)
  | 'u' :: a :: b :: c :: d :: rest =>
    match codeUnit a b c d with
    | none => none
    | some n =>
      if n < 0xD800 ∨ 0xE000 ≤ n then some (Char.ofNat n, rest)
      else if n < 0xDC00 then
        match rest with
        | '\\' :: 'u' :: e :: f :: g :: h :: rest =>
          match codeUnit e f g h with
          | some n' =>
            if 0xDC00 ≤ n' ∧ n' < 0xE000 then
              some (Char.ofNat (0x10000 + (n - 0xD800) * 0x400 + (n' - 0xDC00)), rest)
            else none
          | none => none
        | _ => none
      else none
  | e :: rest => (escaped e).map fun c => (c, rest)
  | [] => none

/-- A character of a string literal other than its closing quote, and the text after it. A
control character must be escaped. -/
def stringChar (c : Char) (rest : List Char) : Option (Char × List Char) :=
  if c = '\\' then escape rest
  else if c.toNat < 0x20 then none
  else some (c, rest)

/-- The characters of a string literal after its opening quote, and the text after its closing
quote. Every step reads at least one character, so the text's length is fuel enough. -/
def stringChars : Nat → List Char → Option (List Char × List Char)
  | 0, _ => none
  | fuel + 1, cs =>
    match cs with
    | [] => none
    | c :: rest =>
      if c = '"' then some ([], rest)
      else
        match stringChar c rest with
        | some (c, rest) => (stringChars fuel rest).map fun r => (c :: r.1, r.2)
        | none => none

/-- Whether a character is a decimal digit. -/
def isDigit (c : Char) : Bool := '0' ≤ c && c ≤ '9'

/-- The fraction of a number: `.` and at least one digit, or nothing. -/
def fraction : List Char → Option (List Char × List Char)
  | '.' :: cs =>
    match cs.span isDigit with
    | ([], _) => none
    | (ds, rest) => some (ds, rest)
  | cs => some ([], cs)

/-- The digits of an exponent, and the text after them. -/
def exponentDigits (negative : Bool) (cs : List Char) : Option (Int × List Char) :=
  match cs.span isDigit with
  | ([], _) => none
  | (ds, rest) => some (if negative then -(decimalValue ds 0 : Int) else decimalValue ds 0, rest)

/-- The exponent of a number: `e` or `E`, a sign, at least one digit; or nothing. -/
def exponent : List Char → Option (Int × List Char)
  | 'e' :: '-' :: cs | 'E' :: '-' :: cs => exponentDigits true cs
  | 'e' :: '+' :: cs | 'E' :: '+' :: cs => exponentDigits false cs
  | 'e' :: cs | 'E' :: cs => exponentDigits false cs
  | cs => some (0, cs)

/-- The number `m · 10^e`. -/
def scientific (m : Nat) (e : Int) : ℚ :=
  if e < 0 then (m : ℚ) / (Nat.pow 10 e.natAbs : ℕ) else (m * Nat.pow 10 e.natAbs : ℕ)

/-- A number without its sign: an integer part with no leading zero, then a fraction and an
exponent. -/
def unsignedNumber (cs : List Char) : Option (ℚ × List Char) :=
  match cs.span isDigit with
  | ([], _) => none
  | ('0' :: _ :: _, _) => none
  | (int, cs) => do
    let (frac, cs) ← fraction cs
    let (e, cs) ← exponent cs
    pure (scientific (decimalValue (int ++ frac) 0) (e - frac.length), cs)

/-- A number, and the text after it. -/
def number : List Char → Option (ℚ × List Char)
  | '-' :: cs => (unsignedNumber cs).map fun r => (-r.1, r.2)
  | cs => unsignedNumber cs

/-- The rest of a literal name (`true`, `false`, `null`) after its first letter. -/
def word (letters : List Char) (v : Json) (cs : List Char) : Option (Json × List Char) :=
  if letters.isPrefixOf cs then some (v, cs.drop letters.length) else none

/-- Whether the text, after whitespace, starts with `c`. -/
def startsWith (c : Char) (cs : List Char) : Bool := (skipWhitespace cs).head? == some c

mutual

/-- A value after optional whitespace, and the text after it. -/
def value : Nat → List Char → Option (Json × List Char)
  | 0, _ => none
  | fuel + 1, cs =>
    match skipWhitespace cs with
    | [] => none
    | c :: rest =>
      if c = '\x7b' then
        if startsWith '\x7d' rest then some (.object [], (skipWhitespace rest).tail)
        else members fuel rest []
      else if c = '[' then
        if startsWith ']' rest then some (.array [], (skipWhitespace rest).tail)
        else elements fuel rest []
      else if c = '"' then (stringChars rest.length rest).map fun r => (.string ⟨r.1⟩, r.2)
      else if c = 't' then word ['r', 'u', 'e'] (.bool true) rest
      else if c = 'f' then word ['a', 'l', 's', 'e'] (.bool false) rest
      else if c = 'n' then word ['u', 'l', 'l'] .null rest
      else (number (c :: rest)).map fun r => (.number r.1, r.2)

/-- The elements of an array after its `[` or a `,`, the ones before being `acc`: a value, then
`,` and more elements, or `]`. -/
def elements : Nat → List Char → List Json → Option (Json × List Char)
  | 0, _, _ => none
  | fuel + 1, cs, acc =>
    match value fuel cs with
    | none => none
    | some (v, rest) =>
      match skipWhitespace rest with
      | ',' :: rest => elements fuel rest (acc ++ [v])
      | ']' :: rest => some (.array (acc ++ [v]), rest)
      | _ => none

/-- The members of an object after its `{` or a `,`, the ones before being `acc`: a string key,
`:`, a value, then `,` and more members, or `}`. -/
def members : Nat → List Char → List (String × Json) → Option (Json × List Char)
  | 0, _, _ => none
  | fuel + 1, cs, acc =>
    match skipWhitespace cs with
    | '"' :: rest =>
      match stringChars rest.length rest with
      | none => none
      | some (key, rest) =>
        match skipWhitespace rest with
        | ':' :: rest =>
          match value fuel rest with
          | none => none
          | some (v, rest) =>
            match skipWhitespace rest with
            | ',' :: rest => members fuel rest (acc ++ [(⟨key⟩, v)])
            | '}' :: rest => some (.object (acc ++ [(⟨key⟩, v)]), rest)
            | _ => none
        | _ => none
    | _ => none

end

/-- The value a JSON text denotes: one value with optional whitespace around it; `none` for a
text that is no JSON. -/
def decode (text : String) : Option Json :=
  match value (text.length + 1) text.data with
  | some (v, rest) => if skipWhitespace rest = [] then some v else none
  | none => none

/-! ## Decoding texts built from plain pieces -/

/-- A character a string literal may hold as it is: no quote, no backslash, no control
character. -/
def plain (c : Char) : Bool := c != '"' && c != '\\' && 0x20 ≤ c.toNat

/-- A plain character stands for itself. -/
theorem stringChar_plain {c : Char} (hc : plain c) (rest : List Char) :
    stringChar c rest = some (c, rest) := by
  simp only [plain, Bool.and_eq_true, bne_iff_ne, ne_eq, decide_eq_true_eq] at hc
  simp [stringChar, hc.1.2, Nat.not_lt.2 hc.2]

/-- A string literal of plain characters reads back as those characters. -/
theorem stringChars_plain {l : List Char} (hl : ∀ c ∈ l, plain c) (rest : List Char) {fuel : Nat}
    (hfuel : l.length < fuel) : stringChars fuel (l ++ '"' :: rest) = some (l, rest) := by
  induction l generalizing fuel with
  | nil =>
    obtain ⟨f, rfl⟩ : ∃ f, fuel = f + 1 := ⟨fuel - 1, by omega⟩
    rfl
  | cons c l ih =>
    obtain ⟨f, rfl⟩ : ∃ f, fuel = f + 1 := ⟨fuel - 1, by omega⟩
    have hc := hl c (List.mem_cons_self c l)
    have hq : c ≠ '"' := by simp_all [plain]
    have hrest := ih (fun c hc => hl c (List.mem_cons_of_mem _ hc))
      (show l.length < f by simp only [List.length_cons] at hfuel; omega)
    simp only [List.cons_append, stringChars, if_neg hq, stringChar_plain hc, hrest, Option.map_some']

/-- A string literal of plain characters is a string value. -/
theorem value_string {l : List Char} (hl : ∀ c ∈ l, plain c) (fuel : Nat) (rest : List Char) :
    value (fuel + 1) ('"' :: (l ++ '"' :: rest)) = some (.string ⟨l⟩, rest) := by
  simp [value, skipWhitespace, isWhitespace, stringChars_plain hl]

/-- A member with a plain key, followed by a comma. -/
theorem members_comma {key : List Char} (hkey : ∀ c ∈ key, plain c) {fuel : Nat}
    {text rest : List Char} {v : Json} (hv : value fuel text = some (v, ',' :: rest))
    (acc : List (String × Json)) :
    members (fuel + 1) ('"' :: (key ++ '"' :: ':' :: text)) acc = members fuel rest (acc ++ [(⟨key⟩, v)]) := by
  simp [members, skipWhitespace, isWhitespace, stringChars_plain hkey, hv]

/-- A member with a plain key, followed by the closing brace. -/
theorem members_close {key : List Char} (hkey : ∀ c ∈ key, plain c) {fuel : Nat}
    {text rest : List Char} {v : Json} (hv : value fuel text = some (v, '\x7d' :: rest))
    (acc : List (String × Json)) :
    members (fuel + 1) ('"' :: (key ++ '"' :: ':' :: text)) acc =
      some (.object (acc ++ [(⟨key⟩, v)]), rest) := by
  simp [members, skipWhitespace, isWhitespace, stringChars_plain hkey, hv]

/-- An object whose first member has a key. -/
theorem value_object (fuel : Nat) (rest : List Char) :
    value (fuel + 1) ('\x7b' :: '"' :: rest) = members fuel ('"' :: rest) [] := by
  simp [value, startsWith, skipWhitespace, isWhitespace]

/-! ## Objects of plain strings -/

/-- The text `"k":"v"` of a member whose key and value are written as they are. -/
def memberText (kv : String × String) : List Char :=
  '"' :: (kv.1.data ++ '"' :: ':' :: '"' :: (kv.2.data ++ ['"']))

/-- The members after the first, each after a comma, then the closing brace. -/
def moreMembersText : List (String × String) → List Char
  | [] => ['\x7d']
  | kv :: kvs => ',' :: (memberText kv ++ moreMembersText kvs)

/-- The compact text of a nonempty object whose values are strings, with no escape. -/
def objectText (kv : String × String) (kvs : List (String × String)) : String :=
  ⟨'\x7b' :: (memberText kv ++ moreMembersText kvs)⟩

/-- The object of string members, in the order given. -/
def stringObject (kvs : List (String × String)) : Json :=
  .object (kvs.map fun kv => (kv.1, .string kv.2))

/-- Key and value are plain. -/
def PlainMember (kv : String × String) : Prop :=
  (∀ c ∈ kv.1.data, plain c) ∧ ∀ c ∈ kv.2.data, plain c

theorem length_lt_moreMembersText (kvs : List (String × String)) :
    kvs.length < (moreMembersText kvs).length := by
  induction kvs with
  | nil => simp [moreMembersText]
  | cons kv kvs ih => simp only [moreMembersText, List.length_cons, List.length_append]; omega

/-- Plain members followed by the closing brace read as those members, after the ones before. -/
theorem members_memberText {kv : String × String} {kvs : List (String × String)}
    (h : ∀ m ∈ kv :: kvs, PlainMember m) {fuel : Nat} (hfuel : kvs.length + 2 ≤ fuel)
    (acc : List (String × Json)) (rest : List Char) :
    members fuel (memberText kv ++ moreMembersText kvs ++ rest) acc =
      some (.object (acc ++ (kv :: kvs).map fun kv => (kv.1, .string kv.2)), rest) := by
  induction kvs generalizing kv acc fuel with
  | nil =>
    obtain ⟨f, rfl⟩ : ∃ f, fuel = f + 1 + 1 := ⟨fuel - 2, by omega⟩
    obtain ⟨hk, hv⟩ := h kv (List.mem_singleton_self kv)
    simp only [memberText, moreMembersText, List.cons_append, List.append_assoc,
      List.nil_append]
    rw [members_close hk (value_string hv f _)]
    rfl
  | cons kv' kvs ih =>
    obtain ⟨f, rfl⟩ : ∃ f, fuel = f + 1 + 1 := ⟨fuel - 2, by omega⟩
    obtain ⟨hk, hv⟩ := h kv (List.mem_cons_self kv _)
    have hmore := ih (fun m hm => h m (List.mem_cons_of_mem _ hm))
      (show kvs.length + 2 ≤ f + 1 by simp only [List.length_cons] at hfuel; omega)
      (acc ++ [(⟨kv.1.data⟩, .string ⟨kv.2.data⟩)])
    simp only [memberText, moreMembersText, List.cons_append, List.append_assoc,
      List.nil_append] at hmore ⊢
    rw [members_comma hk (value_string hv f _), hmore]
    simp

/-- The compact text of an object of plain strings denotes that object. -/
theorem decode_objectText {kv : String × String} {kvs : List (String × String)}
    (h : ∀ m ∈ kv :: kvs, PlainMember m) :
    decode (objectText kv kvs) = some (stringObject (kv :: kvs)) := by
  have hfuel : kvs.length + 2 ≤ (objectText kv kvs).length := by
    have := length_lt_moreMembersText kvs
    simp only [objectText, String.length, memberText, List.length_cons, List.length_append]
    omega
  have hread := members_memberText h hfuel [] []
  rw [List.append_nil, List.nil_append] at hread
  have hvalue : value ((objectText kv kvs).length + 1) (objectText kv kvs).data =
      some (stringObject (kv :: kvs), []) := (value_object _ _).trans hread
  simp only [decode, hvalue]
  rfl

example : decode "\x7b\"type\":\"subscribe\",\"instrument\":\"BTC-PERPETUAL\"\x7d" =
    some (stringObject [("type", "subscribe"), ("instrument", "BTC-PERPETUAL")]) := rfl

/-! ## Indented texts

A text written one member a line has whitespace before its keys, its values and its closing
brackets. Each lemma below reads one step of such a text from what the text holds after its
whitespace, whatever follows the step. -/

/-- A string literal of plain characters, after whitespace. -/
theorem value_skip_string {s l r : List Char} (hs : skipWhitespace s = '"' :: (l ++ '"' :: r))
    (hl : ∀ c ∈ l, plain c) (fuel : Nat) : value (fuel + 1) s = some (.string ⟨l⟩, r) := by
  simp [value, hs, stringChars_plain hl]

/-- An object with members, after whitespace. -/
theorem value_skip_object {s t : List Char} (hs : skipWhitespace s = '\x7b' :: t)
    (ht : startsWith '\x7d' t = false) (fuel : Nat) : value (fuel + 1) s = members fuel t [] := by
  simp [value, hs, ht]

/-- An array with elements, after whitespace. -/
theorem value_skip_array {s t : List Char} (hs : skipWhitespace s = '[' :: t)
    (ht : startsWith ']' t = false) (fuel : Nat) : value (fuel + 1) s = elements fuel t [] := by
  simp [value, hs, ht]

/-- A member with a plain key, its value followed by a comma. -/
theorem members_skip_comma {s k t u r : List Char} {fuel : Nat} {v : Json}
    (hs : skipWhitespace s = '"' :: (k ++ '"' :: ':' :: t)) (hk : ∀ c ∈ k, plain c)
    (hv : value fuel t = some (v, u)) (hu : skipWhitespace u = ',' :: r)
    (acc : List (String × Json)) :
    members (fuel + 1) s acc = members fuel r (acc ++ [(⟨k⟩, v)]) := by
  have hcolon : skipWhitespace (':' :: t) = ':' :: t := rfl
  simp only [members, hs]
  simp [stringChars_plain hk, hcolon, hv, hu]

/-- A member with a plain key, its value followed by the closing brace. -/
theorem members_skip_close {s k t u r : List Char} {fuel : Nat} {v : Json}
    (hs : skipWhitespace s = '"' :: (k ++ '"' :: ':' :: t)) (hk : ∀ c ∈ k, plain c)
    (hv : value fuel t = some (v, u)) (hu : skipWhitespace u = '\x7d' :: r)
    (acc : List (String × Json)) :
    members (fuel + 1) s acc = some (.object (acc ++ [(⟨k⟩, v)]), r) := by
  have hcolon : skipWhitespace (':' :: t) = ':' :: t := rfl
  simp only [members, hs]
  simp [stringChars_plain hk, hcolon, hv, hu]

/-- An element followed by the closing bracket. -/
theorem elements_skip_close {s u r : List Char} {fuel : Nat} {v : Json}
    (hv : value fuel s = some (v, u)) (hu : skipWhitespace u = ']' :: r) (acc : List Json) :
    elements (fuel + 1) s acc = some (.array (acc ++ [v]), r) := by
  simp [elements, hv, hu]

/-- A text denotes the value that `value` reads from it, with no more than whitespace after it,
given fuel `n` above the nesting the reading needs. -/
theorem decode_of_value {text : String} {v : Json} (n : Nat) (hn : n ≤ text.length)
    (hv : ∀ fuel, value (fuel + n + 1) text.data = some (v, [])) : decode text = some v := by
  rw [decode, show text.length + 1 = text.length - n + n + 1 by omega, hv]
  rfl

/-! ## Decimal numerals

`toString n` writes the digits of `n` with no leading zero, so the number grammar reads them
back as `n` when what follows cannot continue a number. -/

theorem isDigit_digitChar {k : Nat} (h : k < 10) : isDigit (Nat.digitChar k) := by
  revert k; decide

/-- `Nat.toDigitsCore` adds only digits. -/
theorem isDigit_of_mem_toDigitsCore (fuel n : Nat) {ds : List Char} (hds : ∀ c ∈ ds, isDigit c) :
    ∀ c ∈ Nat.toDigitsCore 10 fuel n ds, isDigit c := by
  induction fuel generalizing n ds with
  | zero => exact hds
  | succ fuel ih =>
    have hd := isDigit_digitChar (Nat.mod_lt n (show 10 > 0 by omega))
    have hds' : ∀ c ∈ Nat.digitChar (n % 10) :: ds, isDigit c := by simpa [hd] using hds
    show ∀ c ∈ (if n / 10 = 0 then Nat.digitChar (n % 10) :: ds
      else Nat.toDigitsCore 10 fuel (n / 10) (Nat.digitChar (n % 10) :: ds)), isDigit c
    split
    · exact hds'
    · exact ih _ hds'

theorem isDigit_of_mem_toDigits {n : Nat} : ∀ c ∈ Nat.toDigits 10 n, isDigit c :=
  isDigit_of_mem_toDigitsCore (n + 1) n (by simp)

/-- The first digit `Nat.toDigitsCore` writes for a positive number is not zero. -/
theorem toDigitsCore_lead (fuel n : Nat) (ds : List Char) (hn : 0 < n) (hf : n < fuel) :
    ∃ k rest, 0 < k ∧ k < 10 ∧ Nat.toDigitsCore 10 fuel n ds = Nat.digitChar k :: rest := by
  induction fuel generalizing n ds with
  | zero => omega
  | succ fuel ih =>
    show ∃ k rest, 0 < k ∧ k < 10 ∧ (if n / 10 = 0 then Nat.digitChar (n % 10) :: ds
      else Nat.toDigitsCore 10 fuel (n / 10) (Nat.digitChar (n % 10) :: ds)) = _
    split
    · exact ⟨n % 10, ds, by omega, by omega, rfl⟩
    · exact ih _ _ (by omega) (by omega)

/-- No decimal numeral has a leading zero. -/
theorem toDigits_ne_zero_cons (n : Nat) (a : Char) (l : List Char) :
    Nat.toDigits 10 n ≠ '0' :: a :: l := by
  rcases Nat.eq_zero_or_pos n with rfl | hn
  · intro h
    cases h
  · obtain ⟨k, rest, hk, hk', h⟩ := toDigitsCore_lead (n + 1) n [] hn (by omega)
    have hne : ∀ k < 10, 0 < k → Nat.digitChar k ≠ '0' := by decide
    show Nat.toDigitsCore 10 (n + 1) n [] ≠ _
    rw [h]
    exact fun h' => hne k hk' hk (List.cons.inj h').1

theorem toDigits_ne_nil (n : Nat) : Nat.toDigits 10 n ≠ [] := fun h => by
  have hn := decimalValue_toDigits n
  rw [h] at hn
  subst hn
  exact absurd h (by decide)

/-- The text after a number: it starts with no digit, no fraction and no exponent. -/
def EndsNumber (r : List Char) : Prop :=
  ∀ c ∈ r.head?, isDigit c = false ∧ c ≠ '.' ∧ c ≠ 'e' ∧ c ≠ 'E'

theorem endsNumber_cons {c : Char} (hc : isDigit c = false ∧ c ≠ '.' ∧ c ≠ 'e' ∧ c ≠ 'E')
    (r : List Char) : EndsNumber (c :: r) :=
  fun _ hd => Option.mem_some_iff.mp hd ▸ hc

theorem fraction_of_endsNumber {r : List Char} (hr : EndsNumber r) : fraction r = some ([], r) := by
  unfold fraction
  split
  · exact absurd rfl (hr '.' rfl).2.1
  · rfl

theorem exponent_of_endsNumber {r : List Char} (hr : EndsNumber r) : exponent r = some (0, r) := by
  unfold exponent
  split <;> first | rfl | exact absurd rfl (hr _ rfl).2.2.1 | exact absurd rfl (hr _ rfl).2.2.2

theorem span_toDigits (n : Nat) {r : List Char} (hr : EndsNumber r) :
    (Nat.toDigits 10 n ++ r).span isDigit = (Nat.toDigits 10 n, r) := by
  rw [List.span_eq_take_drop, List.takeWhile_append_of_pos isDigit_of_mem_toDigits,
    List.dropWhile_append_of_pos isDigit_of_mem_toDigits]
  cases r with
  | nil => simp
  | cons c r => simp [List.takeWhile_cons, List.dropWhile_cons, (hr c rfl).1]

theorem number_toDigits (n : Nat) {r : List Char} (hr : EndsNumber r) :
    number (Nat.toDigits 10 n ++ r) = some ((n : ℚ), r) := by
  unfold number
  split
  · rename_i h
    obtain ⟨c, ds, hcd⟩ := List.exists_cons_of_ne_nil (toDigits_ne_nil n)
    rw [hcd, List.cons_append, List.cons.injEq] at h
    exact absurd (isDigit_of_mem_toDigits c (hcd ▸ List.mem_cons_self c ds)) (by rw [h.1]; decide)
  · unfold unsignedNumber
    rw [span_toDigits n hr]
    split <;> rename_i h <;> obtain ⟨hint, rfl⟩ := Prod.mk.inj h
    · exact absurd hint (toDigits_ne_nil n)
    · exact absurd hint (toDigits_ne_zero_cons n _ _)
    · subst hint
      simp [fraction_of_endsNumber hr, exponent_of_endsNumber hr, scientific, decimalValue_toDigits]

/-- A natural number followed by text that cannot continue it, both after the same whitespace
as `s`: the digits are no whitespace, so `s` holds them once its whitespace is skipped. -/
theorem value_skip_nat (n : Nat) {s r : List Char}
    (hs : skipWhitespace s = skipWhitespace ((toString n).data ++ r)) (hr : EndsNumber r)
    (fuel : Nat) : value (fuel + 1) s = some (.number n, r) := by
  obtain ⟨c, ds, hcd⟩ := List.exists_cons_of_ne_nil (toDigits_ne_nil n)
  have hc : isDigit c := isDigit_of_mem_toDigits c (hcd ▸ List.mem_cons_self c ds)
  have hnot : c ≠ '\x7b' ∧ c ≠ '[' ∧ c ≠ '"' ∧ c ≠ 't' ∧ c ≠ 'f' ∧ c ≠ 'n' := by
    refine ⟨?_, ?_, ?_, ?_, ?_, ?_⟩ <;> rintro rfl <;> exact absurd hc (by decide)
  have hws : isWhitespace c = false := Bool.eq_false_iff.mpr fun h => by
    simp only [isWhitespace, Bool.or_eq_true, beq_iff_eq] at h
    rcases h with ((rfl | rfl) | rfl) | rfl <;> exact absurd hc (by decide)
  have hnum := number_toDigits n hr
  rw [hcd, List.cons_append] at hnum
  rw [show (toString n).data = Nat.toDigits 10 n from rfl, hcd, List.cons_append,
    show skipWhitespace (c :: (ds ++ r)) = c :: (ds ++ r) from
      List.dropWhile_cons_of_neg (by simp [hws])] at hs
  simp only [value, hs, if_neg hnot.1, if_neg hnot.2.1, if_neg hnot.2.2.1, if_neg hnot.2.2.2.1,
    if_neg hnot.2.2.2.2.1, if_neg hnot.2.2.2.2.2, hnum, Option.map_some']

end DeribitTrader.JsonText
