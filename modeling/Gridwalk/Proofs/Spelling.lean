import Gridwalk.Json.Printer
import Gridwalk.Json.Reader

/-!
# Texts read back

Between double quotes a character stands for itself, or letters behind a backslash stand for
it.  `Json.Spells` says of letters which code points the reader takes them for; every character
is written with letters that spell it, one beyond U+FFFF by the two halves of a pair.
-/

set_option autoImplicit false

namespace Gridwalk

open Gridwalk.Text

/-- A digit is read back from its hexadecimal letter. -/
theorem Text.hexDigit?_hexDigit {d : Nat} (h : d < 16) : hexDigit? (hexDigit d) = some d := by
  have hall : ∀ d : Fin 16, hexDigit? (hexDigit d.val) = some d.val := by decide
  exact hall ⟨d, h⟩

namespace Json

/-- Letters that are read between quotes as pieces for some code points, before whatever follows
them. -/
def Spells (cs : List Letter) (codes : List Nat) : Prop :=
  ∃ ps, (∀ start rest, rest ≠ [] → pieces start (cs ++ rest) =
      (pieces start rest).map fun (more, rest) => (ps ++ more, rest)) ∧
    ∀ more, codesOf (ps ++ more) = codes ++ codesOf more

/-- The empty text spells the empty text. -/
theorem spells_nil : Spells [] [] := by
  refine ⟨[], fun start rest _ => ?_, fun _ => rfl⟩
  cases h : pieces start rest <;> simp [h, Except.map]

/-- Letters side by side spell code points side by side. -/
theorem Spells.append {cs ds : List Letter} {codes others : List Nat} (h : Spells cs codes)
    (hds : Spells ds others) : Spells (cs ++ ds) (codes ++ others) := by
  obtain ⟨ps, hps, hcodes⟩ := h
  obtain ⟨qs, hqs, hothers⟩ := hds
  refine ⟨ps ++ qs, fun start rest hrest => ?_, fun more => ?_⟩
  · rw [List.append_assoc, hps start _ (List.append_ne_nil_of_right_ne_nil ds hrest),
      hqs start rest hrest]
    cases pieces start rest <;> simp [Except.map]
  · rw [List.append_assoc, hcodes, hothers, List.append_assoc]

/-- A unit behind a backslash is read as it was written. -/
theorem pieces_encodeUnit {n : Nat} (hn : n < 0x10000) (start : List Letter)
    {rest : List Letter} (hrest : rest ≠ []) :
    pieces start ((encodeUnit n).map .char ++ rest) = (pieces start rest).cons (.unit n) := by
  have hdigits : hexDigits 4 n = [hexDigit (n / 16 / 16 / 16 % 16), hexDigit (n / 16 / 16 % 16),
      hexDigit (n / 16 % 16), hexDigit (n % 16)] := rfl
  have hvalue (d : Nat) : hexValue? (.char (hexDigit (d % 16))) = some (d % 16) :=
    hexDigit?_hexDigit (Nat.mod_lt d (by decide))
  have hunit : unit? (.char (hexDigit (n / 16 / 16 / 16 % 16)))
      (.char (hexDigit (n / 16 / 16 % 16))) (.char (hexDigit (n / 16 % 16)))
      (.char (hexDigit (n % 16))) = some n := by
    simp only [unit?, hvalue, Option.bind_eq_bind, Option.bind_some, Option.pure_def,
      Option.some.injEq]
    omega
  have hempty : rest.isEmpty = false := by simpa using hrest
  simp only [encodeUnit, hdigits, List.cons_append, List.nil_append, List.map_cons, List.map_nil]
  rw [pieces]
  simp only [hempty, hunit]

/-- A unit behind a backslash that is no half of a pair spells itself. -/
theorem spells_encodeUnit {n : Nat} (hn : n < 0x10000) (hhalf : Letter.isHalf n = false) :
    Spells ((encodeUnit n).map .char) [n] := by
  refine ⟨[.unit n], fun start rest hrest => pieces_encodeUnit hn start hrest, fun more => ?_⟩
  have hhigh : Letter.isHighHalf n = false := (Bool.or_eq_false_iff.mp hhalf).1
  show codesOf (.unit n :: more) = n :: codesOf more
  cases more with
  | nil => rfl
  | cons piece more => cases piece <;> simp [codesOf, hhigh]

/-- The two halves of a pair spell the code point that they stand for. -/
theorem spells_pair {n : Nat} (hlow : 0x10000 ≤ n) (hhigh : n < 0x110000) :
    Spells ((encodeUnit (0xD800 + (n - 0x10000) / 0x400) ++
      encodeUnit (0xDC00 + (n - 0x10000) % 0x400)).map .char) [n] := by
  refine ⟨[.unit (0xD800 + (n - 0x10000) / 0x400), .unit (0xDC00 + (n - 0x10000) % 0x400)],
    fun start rest hrest => ?_, fun more => ?_⟩
  · rw [List.map_append, List.append_assoc, pieces_encodeUnit (by omega) start,
      pieces_encodeUnit (by omega) start hrest]
    · cases pieces start rest <;> rfl
    · exact List.append_ne_nil_of_right_ne_nil _ hrest
  · have hpair : (Letter.isHighHalf (0xD800 + (n - 0x10000) / 0x400) &&
        Letter.isLowHalf (0xDC00 + (n - 0x10000) % 0x400)) = true := by
      simp only [Letter.isHighHalf, Letter.isLowHalf, Bool.and_eq_true, decide_eq_true_eq]
      omega
    have hjoined : Letter.joined (0xD800 + (n - 0x10000) / 0x400)
        (0xDC00 + (n - 0x10000) % 0x400) = n := by
      unfold Letter.joined
      omega
    simp only [List.cons_append, List.nil_append, codesOf]
    rw [if_pos hpair, hjoined]

/-- A letter behind a backslash spells the character that it stands for. -/
theorem spells_short {c x : Char} (hc : c ≠ 'u') (hx : shortEscape? (.char c) = some x) :
    Spells [.char '\\', .char c] [x.toNat] := by
  refine ⟨[.code x.toNat], fun start rest _ => ?_, fun more => rfl⟩
  show pieces start (.char '\\' :: .char c :: rest) = (pieces start rest).cons (.code x.toNat)
  rw [pieces]
  · simp only [Letter.char.injEq, hc, if_false, hx]
  · simp [hc]

/-- A character that is written as itself spells itself. -/
theorem spells_plain {c : Char} (hquote : c ≠ '"') (hescape : c ≠ '\\') (hlow : 0x20 ≤ c.toNat) :
    Spells [.char c] [c.toNat] := by
  refine ⟨[.code c.toNat], fun start rest _ => ?_, fun more => rfl⟩
  show pieces start (.char c :: rest) = (pieces start rest).cons (.code c.toNat)
  rw [pieces]
  · exact if_neg (Nat.not_lt.mpr hlow)
  all_goals simp_all

/-- A character is written with letters that spell it. -/
theorem spells_encodeCode (c : Char) : Spells ((encodeCode c.toNat).map .char) [c.toNat] := by
  unfold encodeCode
  split
  · next h => exact h ▸ spells_short (c := '"') (by decide) rfl
  split
  · next h => exact h ▸ spells_short (c := '\\') (by decide) rfl
  split
  · next h => exact h ▸ spells_short (c := 'n') (by decide) rfl
  split
  · next h => exact h ▸ spells_short (c := 'r') (by decide) rfl
  split
  · next h => exact h ▸ spells_short (c := 't') (by decide) rfl
  split
  · next h => exact h ▸ spells_short (c := 'b') (by decide) rfl
  split
  · next h => exact h ▸ spells_short (c := 'f') (by decide) rfl
  split
  · next hquote hescape _ _ _ _ _ hplain =>
    rw [Char.ofNat_toNat]
    simp only [Bool.and_eq_true, decide_eq_true_eq] at hplain
    refine spells_plain ?_ ?_ hplain.1
    · rintro rfl
      exact hquote rfl
    · rintro rfl
      exact hescape rfl
  split
  · next hsmall => exact spells_encodeUnit hsmall (Letter.isHalf_toNat c)
  · next hlarge =>
    have hvalid : c.toNat < 0x110000 := by
      rcases c.valid with h | h
      · exact Nat.lt_trans h (by decide)
      · exact h.2
    exact spells_pair (Nat.not_lt.mp hlarge) hvalid

/-- A text is written with letters that spell it. -/
theorem spells_flatMap (cs : List Char) :
    Spells (((cs.map Char.toNat).flatMap encodeCode).map .char) (cs.map Char.toNat) := by
  induction cs with
  | nil => exact spells_nil
  | cons c cs ih =>
      have happend := (spells_encodeCode c).append ih
      simpa using happend

/-- A text between quotes is read as it was written. -/
theorem textRest_encodeText (s : String) (start rest : List Letter) :
    textRest start (((Phrase.codes (.whole s)).flatMap encodeCode ++ ['"']).map .char ++ rest) =
      .ok (.whole s, rest) := by
  obtain ⟨ps, hps, hcodes⟩ := spells_flatMap s.toList
  have hread := hps start (.char '"' :: rest) (by simp)
  have hquote : pieces start (.char '"' :: rest) = .ok ([], rest) := by rw [pieces]
  rw [hquote] at hread
  have hback := hcodes []
  simp only [codesOf, List.append_nil] at hback
  have hphrase : Phrase.ofCodes (codesOf ps) = .whole s := by
    rw [hback]
    exact Phrase.ofCodes_codes_whole s
  simp only [Phrase.codes, List.map_append, List.append_assoc, List.map_cons, List.map_nil,
    List.cons_append, List.nil_append]
  unfold textRest
  rw [hread]
  simp [Except.map, hphrase]

end Json

end Gridwalk
