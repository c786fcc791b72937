import Gridwalk.Json.Printer
import Gridwalk.Json.Reader

/-!
# Integers read back

The digits of a number are read as that number, whatever follows them that could not go on a
number.  This is what the reader of JSON needs of the numbers that its printer writes.
-/

set_option autoImplicit false

namespace Gridwalk

open Gridwalk.Text

namespace Text

/-- The value of an ASCII digit is its distance from zero. -/
theorem asciiDigit?_of_isDigit {c : Char} (h : c.isDigit = true) :
    asciiDigit? c = some (c.toNat - 0x30) := by
  have hrange : 48 ≤ c.toNat ∧ c.toNat ≤ 57 := by
    simpa [Char.isDigit, UInt32.le_iff_toNat_le] using h
  unfold asciiDigit?
  rw [if_pos (by simp only [Bool.and_eq_true, decide_eq_true_eq]; omega)]

/-- Digits have as many values. -/
theorem length_values {cs : List Char} (h : ∀ c ∈ cs, c.isDigit = true) :
    (cs.filterMap asciiDigit?).length = cs.length := by
  induction cs with
  | nil => rfl
  | cons c cs ih =>
      rw [List.filterMap_cons, asciiDigit?_of_isDigit (h c List.mem_cons_self)]
      exact congrArg Nat.succ (ih fun d hd => h d (List.mem_cons_of_mem _ hd))

/-- What is written of a number are digits. -/
theorem isDigit_of_mem_decimalDigits {n : Nat} {c : Char} (h : c ∈ decimalDigits n) :
    c.isDigit = true :=
  Nat.isDigit_of_mem_toDigits (by decide) (by decide) h

/-- A number that is not zero does not begin with a zero. -/
theorem exists_decimalDigits_cons {n : Nat} (hn : n ≠ 0) :
    ∃ c cs, decimalDigits n = c :: cs ∧ c ≠ '0' := by
  induction n using Nat.strongRecOn with
  | ind n ih =>
      by_cases hsmall : n < 10
      · refine ⟨_, [], Nat.toDigits_of_lt_base hsmall, ?_⟩
        have hfew : ∀ d : Fin 10, d.val ≠ 0 → d.val.digitChar ≠ '0' := by decide
        exact hfew ⟨n, hsmall⟩ hn
      · obtain ⟨c, cs, hcs, hc⟩ := ih (n / 10) (by omega) (by omega)
        refine ⟨c, cs ++ [(n % 10).digitChar], ?_, hc⟩
        have hstep : decimalDigits n = decimalDigits (n / 10) ++ [(n % 10).digitChar] :=
          Nat.toDigits_of_base_le (by decide) (by omega)
        rw [hstep, hcs, List.cons_append]

/-- The values of the digits of a number make up the number. -/
theorem Numeral.ofDigits_decimalDigits (n : Nat) :
    Numeral.ofDigits ((decimalDigits n).filterMap asciiDigit?) = n := by
  have hvalues (cs : List Char) (hcs : ∀ c ∈ cs, c.isDigit = true) (start : Nat) :
      (cs.filterMap asciiDigit?).foldl (fun n d => 10 * n + d) start =
        Nat.ofDigitChars 10 cs start := by
    induction cs generalizing start with
    | nil => rfl
    | cons c cs ih =>
        rw [List.filterMap_cons, asciiDigit?_of_isDigit (hcs c List.mem_cons_self)]
        exact ih (fun d hd => hcs d (List.mem_cons_of_mem _ hd)) _
  have hback : Nat.ofDigitChars 10 (decimalDigits n) 0 = n :=
    Nat.ofDigitChars_toDigits (by decide) (by decide)
  unfold Numeral.ofDigits
  rw [hvalues _ (fun c hc => isDigit_of_mem_decimalDigits hc), hback]

/-- At least one digit is written of a number. -/
theorem decimalDigits_ne_nil (n : Nat) : decimalDigits n ≠ [] :=
  List.ne_nil_of_length_pos Nat.length_toDigits_pos

/-- An integer begins with a minus sign or a digit, and a minus sign has a digit behind it. -/
theorem exists_decimal_cons (n : Int) : ∃ c cs, decimal n = c :: cs ∧
    (c.isDigit = true ∨ c = '-' ∧ ∃ d ds, cs = d :: ds ∧ d.isDigit = true) := by
  have hdigits (k : Nat) : ∃ d ds, decimalDigits k = d :: ds ∧ d.isDigit = true := by
    obtain ⟨d, ds, hds⟩ := List.exists_cons_of_ne_nil (decimalDigits_ne_nil k)
    exact ⟨d, ds, hds, isDigit_of_mem_decimalDigits (by rw [hds]; exact List.mem_cons_self)⟩
  cases n with
  | ofNat k =>
      obtain ⟨d, ds, hds, hd⟩ := hdigits k
      exact ⟨d, ds, hds, .inl hd⟩
  | negSucc k =>
      obtain ⟨d, ds, hds, hd⟩ := hdigits (k + 1)
      exact ⟨'-', d :: ds, congrArg _ hds, .inr ⟨rfl, d, ds, rfl, hd⟩⟩

/-- A digit is none of the characters with which anything else begins. -/
theorem ne_of_isDigit {c d : Char} (hc : c.isDigit = true) (hd : d.isDigit = false) : c ≠ d := by
  rintro rfl
  rw [hc] at hd
  cases hd

end Text

namespace Json

/-- A text that goes on with no digit, point or exponent. -/
def Ends (rest : List Letter) : Prop :=
  ∀ letter ∈ rest.head?, isDecimal letter = false ∧ letter ≠ .char '.' ∧ letter ≠ .char 'e' ∧
    letter ≠ .char 'E'

section Numbers

variable {rest : List Letter} (hrest : Ends rest)

/-- A digit is decimal. -/
theorem isDecimal_of_isDigit {c : Char} (h : c.isDigit = true) : isDecimal (.char c) = true := by
  show (asciiDigit? c).isSome = true
  rw [asciiDigit?_of_isDigit h]
  rfl

/-- No word begins with a digit. -/
theorem word?_of_isDigit {c : Char} (hc : c.isDigit = true) (cs : List Letter) :
    word? (.char c :: cs) = none := by
  have hn := ne_of_isDigit hc (d := 'n') (by decide)
  have ht := ne_of_isDigit hc (d := 't') (by decide)
  have hf := ne_of_isDigit hc (d := 'f') (by decide)
  have hN := ne_of_isDigit hc (d := 'N') (by decide)
  have hI := ne_of_isDigit hc (d := 'I') (by decide)
  have hminus := ne_of_isDigit hc (d := '-') (by decide)
  simp [word?, hn, ht, hf, hN, hI, hminus]

include hrest

/-- The digits of a number are read as they were written. -/
theorem digitRun_decimalDigits (n : Nat) :
    digitRun ((decimalDigits n).map .char ++ rest) =
      ((decimalDigits n).filterMap asciiDigit?, rest) := by
  have hdigits : ∀ letter ∈ (decimalDigits n).map Letter.char, isDecimal letter = true := by
    intro letter hletter
    obtain ⟨c, hc, rfl⟩ := List.mem_map.mp hletter
    exact isDecimal_of_isDigit (isDigit_of_mem_decimalDigits hc)
  have hnone : rest.takeWhile isDecimal = [] ∧ rest.dropWhile isDecimal = rest := by
    cases rest with
    | nil => exact ⟨rfl, rfl⟩
    | cons letter rest =>
        have hletter := (hrest letter rfl).1
        simp [List.takeWhile, List.dropWhile, hletter]
  unfold digitRun
  rw [List.takeWhile_append_of_pos hdigits, List.dropWhile_append_of_pos hdigits, hnone.1, hnone.2,
    List.append_nil, List.filterMap_map]
  rfl

/-- The digits before a point are read as they were written. -/
theorem wholePart?_decimalDigits (n : Nat) :
    wholePart? ((decimalDigits n).map .char ++ rest) =
      some ((decimalDigits n).filterMap asciiDigit?, rest) := by
  by_cases hn : n = 0
  · subst hn
    rfl
  · obtain ⟨c, cs, hcs, hc⟩ := exists_decimalDigits_cons hn
    have hrun := digitRun_decimalDigits hrest n
    have hdigit : c.isDigit = true :=
      isDigit_of_mem_decimalDigits (by rw [hcs]; exact List.mem_cons_self)
    rw [hcs] at hrun ⊢
    unfold wholePart?
    split
    · next rest' heq =>
      simp only [List.map_cons, List.cons_append, List.cons.injEq, Letter.char.injEq] at heq
      exact absurd heq.1 hc
    · rw [hrun, List.filterMap_cons, asciiDigit?_of_isDigit hdigit]

/-- Where a number ends, it has no fraction. -/
theorem fractionPart_of_ends : fractionPart rest = (none, rest) := by
  unfold fractionPart
  split
  · exact absurd rfl (hrest _ rfl).2.1
  · rfl

/-- Where a number ends, it has no exponent. -/
theorem exponentPart_of_ends : exponentPart rest = (none, rest) := by
  cases rest with
  | nil => rfl
  | cons mark rest =>
      obtain ⟨-, -, hlower, hupper⟩ := hrest mark rfl
      simp [exponentPart, hlower, hupper]

/-- An integer is read as it was written, if it has not too many digits. -/
theorem number_decimal {limits : Limits} {n : Int}
    (hdigits : admits limits.digits (decimalDigits n.natAbs).length = true) :
    number limits ((decimal n).map .char ++ rest) = .ok (.int n, rest) := by
  have hlength (k : Nat) :
      ((decimalDigits k).filterMap asciiDigit?).length = (decimalDigits k).length :=
    length_values fun _ hc => isDigit_of_mem_decimalDigits hc
  cases n with
  | negSucc k =>
      have hcs : (decimal (.negSucc k)).map Letter.char ++ rest =
          .char '-' :: ((decimalDigits (k + 1)).map .char ++ rest) := rfl
      have hadmits : admits limits.digits (decimalDigits (k + 1)).length = true := hdigits
      rw [hcs]
      simp only [number, wholePart?_decimalDigits hrest, fractionPart_of_ends hrest,
        exponentPart_of_ends hrest, Numeral.ofDigits_decimalDigits, hlength, hadmits]
      rfl
  | ofNat k =>
      obtain ⟨c, cs, hcs⟩ := List.exists_cons_of_ne_nil (decimalDigits_ne_nil k)
      have hdigit : c.isDigit = true :=
        isDigit_of_mem_decimalDigits (n := k) (by rw [hcs]; exact List.mem_cons_self)
      have hminus : c ≠ '-' := by
        rintro rfl
        cases hdigit
      have hwhole := wholePart?_decimalDigits hrest k
      have hvalue := Numeral.ofDigits_decimalDigits k
      have hadmits : admits limits.digits ((decimalDigits k).filterMap asciiDigit?).length = true :=
        (hlength k).symm ▸ hdigits
      show number limits ((decimalDigits k).map .char ++ rest) = _
      rw [hcs] at hwhole hvalue hadmits ⊢
      simp only [List.map_cons, List.cons_append] at hwhole ⊢
      simp [number, hminus, hwhole, hvalue, fractionPart_of_ends hrest, exponentPart_of_ends hrest,
        hadmits, Real.signed]

/-- An integer is read as it was written, if it has not too many digits. -/
theorem value_decimal {limits : Limits} {n : Int}
    (hdigits : admits limits.digits (decimalDigits n.natAbs).length = true) (fuel level : Nat) :
    value limits (fuel + 1) level ((decimal n).map .char ++ rest) = .ok (.int n, rest) := by
  have hnumber := number_decimal hrest hdigits
  obtain ⟨c, cs, hcs, hc⟩ := exists_decimal_cons n
  rw [hcs] at hnumber ⊢
  simp only [List.map_cons, List.cons_append] at hnumber ⊢
  rcases hc with hc | ⟨rfl, d, ds, rfl, hd⟩
  · have hword : word? (.char c :: (cs.map .char ++ rest)) = none := word?_of_isDigit hc _
    rw [value]
    · simp only [hword]
      exact hnumber
    all_goals
      intro rest' heq
      simp only [List.cons.injEq, Letter.char.injEq] at heq
      exact absurd heq.1 (ne_of_isDigit hc (by decide))
  · have hword : word? (.char '-' :: ((d :: ds).map .char ++ rest)) = none := by
      have hI := ne_of_isDigit hd (d := 'I') (by decide)
      simp [word?, hI]
    rw [value]
    · simp only [hword]
      exact hnumber
    all_goals
      intro rest' heq
      simp at heq

end Numbers

end Json

end Gridwalk
