import Mathlib.Data.List.Basic

/-!
# `std::string` search and `std::to_string`

The command parser of the server and the channel parser of the market-data client read their
input with `std::string::find` and `substr`. `find s pat pos` is `s.find(pat, pos)`, with
`npos` as `none`; `substr s pos n` is `s.substr(pos, n)`. Every call site passes a position at
most `size()`, where `substr` does not throw.

Positions here count characters, where `std::string` counts the bytes of the UTF-8 text. The
two searches find the same occurrence of a pattern of ASCII characters, since no byte of a
multi-byte character is an ASCII byte, and they cut the same text wherever an offset is a found
position or a pattern's length. The one offset that is neither is the `+ 1` by which the command
parser steps past the character after `"instrument":`: one character here, one byte in C++. The
two agree when that character is ASCII, and the law on acknowledgements is stated for such
frames (`WebSocketServer.asciiAfterInstrumentKey`).

`std::to_string` of an integer is `toString`: the decimal digits, after a minus sign for a
negative value. Reading the digits back gives the number (`decimalValue_toDigits`), so different
integers print differently (`toString_int_injective`); the order ids rest on it.
-/

set_option autoImplicit false

namespace DeribitTrader

/-- The first index, counting from `i`, at which `pat` starts in `s`. -/
def scanFor (pat : List Char) : List Char → Nat → Option Nat
  | [], i => if pat.isPrefixOf [] then some i else none
  | c :: t, i => if pat.isPrefixOf (c :: t) then some i else scanFor pat t (i + 1)

/-- `s.find(pat, pos)`: the first index `≥ pos` at which `pat` occurs, `none` for `npos`. -/
def find (s pat : String) (pos : Nat) : Option Nat :=
  if pos ≤ s.length then scanFor pat.data (s.data.drop pos) pos else none

theorem scanFor_ge {pat : List Char} {s : List Char} {i j : Nat} (h : scanFor pat s i = some j) :
    i ≤ j := by
  induction s generalizing i with
  | nil => simp only [scanFor] at h; split at h <;> simp_all
  | cons c t ih =>
    simp only [scanFor] at h
    split at h
    · simp_all
    · exact Nat.le_of_succ_le (ih h)

/-- `s.find(pat) == 0` holds exactly when `s` starts with `pat`. -/
theorem find_eq_zero {s pat : String} : find s pat 0 = some 0 ↔ pat.data.isPrefixOf s.data := by
  unfold find
  rw [if_pos (Nat.zero_le _), List.drop_zero]
  cases h : s.data with
  | nil => simp only [scanFor]; split <;> simp_all
  | cons c t =>
    simp only [scanFor]
    split
    · simp_all
    · rename_i hp
      simp only [hp, Bool.false_eq_true, iff_false]
      exact fun he => absurd (scanFor_ge he) (by omega)

/-- The search steps over text that does not hold the pattern's first character. -/
theorem scanFor_append_of_not_mem {p : Char} {ps l : List Char} (h : p ∉ l) (rest : List Char)
    (i : Nat) : scanFor (p :: ps) (l ++ rest) i = scanFor (p :: ps) rest (i + l.length) := by
  induction l generalizing i with
  | nil => rfl
  | cons c t ih =>
    have hc : (p == c) = false := beq_false_of_ne fun hp => h (hp ▸ List.mem_cons_self p t)
    rw [List.cons_append, scanFor, List.isPrefixOf, hc, Bool.false_and, if_neg Bool.false_ne_true,
      ih fun ht => h (List.mem_cons_of_mem c ht), List.length_cons, Nat.add_assoc, Nat.add_comm 1]

/-- A text the pattern starts is found where it starts. -/
theorem scanFor_of_isPrefixOf {pat l : List Char} (h : pat.isPrefixOf l) (i : Nat) :
    scanFor pat l i = some i := by
  cases l <;> simp [scanFor, h]

/-- A pattern whose first `q` is followed by `a` does not start a text whose first `q` is
followed by `b ≠ a`. -/
theorem isPrefixOf_of_ne {q a b : Char} {w s ws bs : List Char} (hw : q ∉ w) (hs : q ∉ s)
    (hab : a ≠ b) : (w ++ q :: a :: ws).isPrefixOf (s ++ q :: b :: bs) = false := by
  induction w generalizing s with
  | nil =>
    cases s with
    | nil => simp [List.isPrefixOf, hab]
    | cons c s => simp [List.isPrefixOf, List.ne_of_not_mem_cons hs]
  | cons d w ih =>
    cases s with
    | nil => simp [List.isPrefixOf, Ne.symm (List.ne_of_not_mem_cons hw)]
    | cons c s =>
      rw [List.cons_append, List.cons_append, List.isPrefixOf,
        ih (List.not_mem_of_not_mem_cons hw) (List.not_mem_of_not_mem_cons hs), Bool.and_false]

/-- The search steps over a quoted text with no quote inside when the pattern, also a quoted
text, goes on after its closing quote otherwise than the text does. -/
theorem scanFor_quoted {q a b : Char} {w s ws bs : List Char} (hw : q ∉ w) (hs : q ∉ s)
    (hab : a ≠ b) (i : Nat) :
    scanFor (q :: (w ++ q :: a :: ws)) (q :: (s ++ q :: b :: bs)) i =
      scanFor (q :: (w ++ q :: a :: ws)) (q :: b :: bs) (i + 1 + s.length) := by
  rw [scanFor, List.isPrefixOf_cons₂_self, isPrefixOf_of_ne hw hs hab, if_neg Bool.false_ne_true,
    scanFor_append_of_not_mem hs]

/-- The text a search for one character passes over does not hold it. -/
theorem not_mem_take_of_scanFor {c : Char} {l : List Char} {i j : Nat}
    (h : scanFor [c] l i = some j) : c ∉ l.take (j - i) := by
  induction l generalizing i with
  | nil => simp [scanFor, List.isPrefixOf] at h
  | cons d t ih =>
    by_cases hd : d = c
    · subst hd
      simp only [scanFor, List.isPrefixOf, beq_self_eq_true, Bool.and_self, if_true,
        Option.some.injEq] at h
      simp [h]
    · have hc : (c == d) = false := beq_false_of_ne (Ne.symm hd)
      simp only [scanFor, List.isPrefixOf, hc, Bool.false_and, if_neg Bool.false_ne_true] at h
      have hj := scanFor_ge h
      obtain ⟨k, rfl⟩ : ∃ k, j = i + 1 + k := ⟨j - (i + 1), by omega⟩
      have ht := ih h
      rw [show i + 1 + k - i = k + 1 by omega, List.take_succ_cons]
      rw [show i + 1 + k - (i + 1) = k by omega] at ht
      exact List.not_mem_cons_of_ne_of_not_mem (Ne.symm hd) ht

/-- `s.substr(pos, n)`. -/
def substr (s : String) (pos n : Nat) : String := ⟨(s.data.drop pos).take n⟩

/-- A character that occurs is found after the characters before its first occurrence. -/
theorem scanFor_char {c : Char} {l : List Char} (h : c ∈ l) (i : Nat) :
    scanFor [c] l i = some (i + (l.takeWhile (· != c)).length) := by
  induction l generalizing i with
  | nil => exact absurd h (List.not_mem_nil c)
  | cons d t ih =>
    by_cases hd : d = c
    · subst hd
      simp [scanFor, List.isPrefixOf]
    · have ht : c ∈ t := (List.mem_cons.mp h).resolve_left (Ne.symm hd)
      simp [scanFor, List.isPrefixOf, Ne.symm hd, hd, ih ht, Nat.add_assoc, Nat.add_comm 1]

/-- Cutting a string at the first occurrence of a character it holds leaves the text before
that occurrence. -/
theorem substr_find_char {s : String} {c : Char} (h : c ∈ s.data) :
    (find s ⟨[c]⟩ 0).map (substr s 0) = some ⟨s.data.takeWhile (· != c)⟩ := by
  have hcut : s.data.take (s.data.takeWhile (· != c)).length = s.data.takeWhile (· != c) :=
    calc s.data.take (s.data.takeWhile (· != c)).length
        = (s.data.takeWhile (· != c) ++ s.data.dropWhile (· != c)).take
            (s.data.takeWhile (· != c)).length := by rw [List.takeWhile_append_dropWhile]
      _ = s.data.takeWhile (· != c) := List.take_left' rfl
  simp [find, scanFor_char h, substr, hcut]

/-! ## `std::to_string` -/

/-- The number that decimal digits denote, most significant first, read after digits worth
`a`. -/
def decimalValue : List Char → Nat → Nat
  | [], a => a
  | c :: cs, a => decimalValue cs (10 * a + (c.toNat - 48))

theorem toNat_digitChar {k : Nat} (h : k < 10) : (Nat.digitChar k).toNat - 48 = k := by
  revert k; decide

/-- `Nat.toDigitsCore` puts the digits of `n` before `ds`, given fuel for each digit. -/
theorem decimalValue_toDigitsCore (fuel n : Nat) (ds : List Char) (h : n < fuel) :
    decimalValue (Nat.toDigitsCore 10 fuel n ds) 0 = decimalValue ds n := by
  induction fuel generalizing n ds with
  | zero => omega
  | succ fuel ih =>
    show decimalValue (if n / 10 = 0 then Nat.digitChar (n % 10) :: ds
      else Nat.toDigitsCore 10 fuel (n / 10) (Nat.digitChar (n % 10) :: ds)) 0 = _
    split
    · rw [decimalValue, toNat_digitChar (Nat.mod_lt n (by omega)), Nat.mod_eq_of_lt (by omega),
        Nat.mul_zero, Nat.zero_add]
    · rw [ih _ _ (by omega), decimalValue, toNat_digitChar (Nat.mod_lt n (by omega)),
        Nat.div_add_mod]

/-- Reading back the decimal digits of `n` gives `n`. -/
theorem decimalValue_toDigits (n : Nat) : decimalValue (Nat.toDigits 10 n) 0 = n :=
  decimalValue_toDigitsCore _ _ _ (Nat.lt_succ_self n)

theorem toDigits_injective : Function.Injective (Nat.toDigits 10) := fun a b h => by
  simpa only [decimalValue_toDigits] using congrArg (decimalValue · 0) h

/-- No decimal numeral is another one after a minus sign: the sign reads as a zero digit, so
the two would denote one number and have different lengths. -/
theorem toDigits_ne_minus_cons (a b : Nat) : Nat.toDigits 10 a ≠ '-' :: Nat.toDigits 10 b := by
  intro h
  have hab : a = b := (decimalValue_toDigits a).symm.trans
    ((congrArg (decimalValue · 0) h).trans (decimalValue_toDigits b))
  subst hab
  exact List.cons_ne_self _ _ h.symm

theorem toString_int_data (i : Int) :
    (toString i).data = match i with
      | .ofNat m => Nat.toDigits 10 m
      | .negSucc m => '-' :: Nat.toDigits 10 (m + 1) := by
  cases i <;> rfl

/-- Different integers print differently. -/
theorem toString_int_injective : Function.Injective (toString : Int → String) := by
  intro a b h
  have h := congrArg String.data h
  cases a <;> cases b <;> simp only [toString_int_data, List.cons.injEq, true_and] at h
  · exact congrArg _ (toDigits_injective h)
  · exact absurd h (toDigits_ne_minus_cons _ _)
  · exact absurd h.symm (toDigits_ne_minus_cons _ _)
  · exact congrArg _ (Nat.succ_injective (toDigits_injective h))

/-- A fixed prefix and a decimal integer determine the integer. -/
theorem append_toString_injective (s : String) :
    Function.Injective fun i : Int => s ++ toString i := fun a b h => by
  have h : s.data ++ (toString a).data = s.data ++ (toString b).data := by
    simpa using congrArg String.data h
  exact toString_int_injective (String.ext (List.append_cancel_left h))

end DeribitTrader
