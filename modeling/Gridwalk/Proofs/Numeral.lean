import Gridwalk.Text.Numeral
import Mathlib.Data.List.TakeWhile
import Mathlib.Data.Nat.Digits.Defs

/-!
# What integer texts denote

`Numeral.Denotes` is the grammar of integer texts: white space, perhaps a sign, a row of digits,
white space.  The digits may come from any scripts, also mixed, and between any two of them one
underscore may stand (`Numeral.Spells`).  The number denoted is that of the values of the digits
in base ten, with the sign.

Reading a text finds exactly the integer that it denotes, unless the text has too many digits
(`Numeral.ofText?_eq_some_iff`).  A number has many texts (`Numeral.Renders`): zeros in front,
underscores, scripts, white space and the sign of what is no negative number are free.
-/

set_option autoImplicit false

namespace Gridwalk.Text

/-! ## Digits -/

/-- A character is the digit of a value in one of the scripts that have digits. -/
def IsDigit (c : Char) (d : Nat) : Prop :=
  d < 10 ∧ ∃ z ∈ zeros, c.toNat = z + d

/-- The digits of two scripts have nothing in common. -/
theorem pairwise_zeros : zeros.Pairwise fun z other => z + 10 ≤ other := by
  decide

/-- The digit of a value is read as that value, and nothing else is read. -/
theorem digit?_eq_some_iff {c : Char} {d : Nat} : digit? c = some d ↔ IsDigit c d := by
  unfold digit? IsDigit
  constructor
  · intro h
    obtain ⟨z, hfind, rfl⟩ := Option.map_eq_some_iff.mp h
    have hrange := List.find?_some hfind
    simp only [Bool.and_eq_true, decide_eq_true_eq] at hrange
    exact ⟨by omega, z, List.mem_of_find?_eq_some hfind, by omega⟩
  · rintro ⟨hd, z, hz, hc⟩
    obtain ⟨before, after, hsplit⟩ := List.append_of_mem hz
    have hapart := pairwise_zeros
    rw [hsplit, List.pairwise_append] at hapart
    rw [hsplit, List.find?_append]
    -- The scripts in front end before the digit, so that none of them is found.
    have hbefore : before.find? (fun z => z ≤ c.toNat && c.toNat < z + 10) = none := by
      rw [List.find?_eq_none]
      intro other hother
      have hfar := hapart.2.2 other hother z List.mem_cons_self
      simp only [Bool.and_eq_true, decide_eq_true_eq]
      omega
    have hfound : (z :: after).find? (fun z => z ≤ c.toNat && c.toNat < z + 10) = some z := by
      refine List.find?_cons_of_pos ?_
      simp only [Bool.and_eq_true, decide_eq_true_eq]
      omega
    rw [hbefore, hfound]
    show some (c.toNat - z) = some d
    congr 1
    omega

/-- No digit is spacing. -/
theorem IsDigit.isSpacing_eq_false {c : Char} {d : Nat} (h : IsDigit c d) :
    isSpacing c = false := by
  have hapart : ∀ z ∈ zeros, ∀ d < 10, ∀ n, n = z + d →
      ((0x09 ≤ n && n ≤ 0x0D) || n == 0x20 || n == 0x85 || n == 0xA0 || n == 0x1680 ||
        (0x2000 ≤ n && n ≤ 0x200A) || n == 0x2028 || n == 0x2029 || n == 0x202F ||
        n == 0x205F || n == 0x3000 || (0x1C ≤ n && n ≤ 0x1F)) = false := by
    simp only [forall_eq]
    decide +kernel
  obtain ⟨hd, z, hz, hc⟩ := h
  exact hapart z hz d hd c.toNat hc

/-- No digit is blank. -/
theorem IsDigit.isBlank_eq_false {c : Char} {d : Nat} (h : IsDigit c d) : isBlank c = false :=
  (Bool.or_eq_false_iff.mp h.isSpacing_eq_false).1

/-- What is no digit is another character than a digit. -/
theorem IsDigit.ne {c other : Char} {d : Nat} (h : IsDigit c d) (hother : digit? other = none) :
    c ≠ other := by
  rintro rfl
  rw [digit?_eq_some_iff.mpr h] at hother
  cases hother

/-- What is blank is no digit. -/
theorem digit?_of_isBlank {c : Char} (h : isBlank c = true) : digit? c = none := by
  cases hc : digit? c with
  | none => rfl
  | some d =>
      rw [(digit?_eq_some_iff.mp hc).isBlank_eq_false] at h
      cases h

/-- How many digits there are in a text. -/
def digitCount (text : List Char) : Nat := text.countP fun c => (digit? c).isSome

/-! ## Blanks at the ends -/

/-- What is trimmed from a text stood at its ends. -/
theorem exists_trim (drop : Char → Bool) (cs : List Char) :
    ∃ before after, cs = before ++ trim drop cs ++ after ∧ (∀ c ∈ before, drop c = true) ∧
      ∀ c ∈ after, drop c = true := by
  let rest := cs.dropWhile drop
  refine ⟨cs.takeWhile drop, (rest.reverse.takeWhile drop).reverse, ?_,
    fun c hc => List.mem_takeWhile_imp hc, fun c hc => ?_⟩
  · have hrest : trim drop cs ++ (rest.reverse.takeWhile drop).reverse = rest := by
      show (rest.reverse.dropWhile drop).reverse ++ _ = rest
      rw [← List.reverse_append, List.takeWhile_append_dropWhile, List.reverse_reverse]
    rw [List.append_assoc, hrest, List.takeWhile_append_dropWhile]
  · exact List.mem_takeWhile_imp (List.mem_reverse.mp hc)

/-- Characters that are dropped in front do not matter. -/
theorem dropWhile_append_of_all {drop : Char → Bool} {before : List Char}
    (hbefore : ∀ c ∈ before, drop c = true) (rest : List Char) :
    (before ++ rest).dropWhile drop = rest.dropWhile drop := by
  rw [List.dropWhile_append, List.dropWhile_eq_nil_iff.mpr hbefore]
  rfl

/-- A text is trimmed to what begins and ends with characters that stay. -/
theorem trim_of_ends {drop : Char → Bool} {before core after : List Char}
    (hbefore : ∀ c ∈ before, drop c = true) (hafter : ∀ c ∈ after, drop c = true)
    (hfirst : ∀ c ∈ core.head?, drop c = false) (hlast : ∀ c ∈ core.getLast?, drop c = false)
    (hcore : core ≠ []) : trim drop (before ++ core ++ after) = core := by
  have hstays {cs : List Char} (hcs : cs ≠ []) (h : ∀ c ∈ cs.head?, drop c = false)
      (rest : List Char) : (cs ++ rest).dropWhile drop = cs ++ rest := by
    obtain ⟨c, cs, rfl⟩ := List.exists_cons_of_ne_nil hcs
    exact List.dropWhile_cons_of_neg (by simp [h c rfl])
  unfold trim
  rw [List.append_assoc, dropWhile_append_of_all hbefore, hstays hcore hfirst,
    List.reverse_append, dropWhile_append_of_all (fun c hc => hafter c (List.mem_reverse.mp hc))]
  have hback := hstays (List.reverse_ne_nil_iff.mpr hcore) (by simpa using hlast) []
  rw [List.append_nil] at hback
  rw [hback, List.reverse_reverse]

/-! ## Numerals -/

namespace Numeral

/-- A row of digits, with at most one underscore between any two of them, and their values. -/
inductive Spells : List Char → List Nat → Prop
  | last {c : Char} {d : Nat} (h : IsDigit c d) : Spells [c] [d]
  | next {c : Char} {d : Nat} {cs : List Char} {ds : List Nat} (h : IsDigit c d)
      (hrest : Spells cs ds) : Spells (c :: cs) (d :: ds)
  | apart {c : Char} {d : Nat} {cs : List Char} {ds : List Nat} (h : IsDigit c d)
      (hrest : Spells cs ds) : Spells (c :: '_' :: cs) (d :: ds)

/-- The sign of a numeral, which may be left out. -/
inductive Sign where
  | bare
  | plus
  | minus
  deriving DecidableEq, Repr

/-- A sign as it is written. -/
def Sign.text : Sign → List Char
  | .bare => []
  | .plus => ['+']
  | .minus => ['-']

/-- What a sign makes of a number. -/
def Sign.apply : Sign → Nat → Int
  | .minus, n => -n
  | _, n => n

/-- A text denotes an integer: white space, perhaps a sign, a row of digits, white space. -/
inductive Denotes : List Char → Int → Prop
  | numeral {before body after : List Char} {ds : List Nat} (sign : Sign)
      (hbefore : ∀ c ∈ before, isBlank c = true) (hbody : Spells body ds)
      (hafter : ∀ c ∈ after, isBlank c = true) :
      Denotes (before ++ (sign.text ++ body) ++ after) (sign.apply (Nat.ofDigits 10 ds.reverse))

/-- A row of digits begins with a digit. -/
theorem Spells.exists_cons {cs : List Char} {ds : List Nat} (h : Spells cs ds) :
    ∃ c d rest, cs = c :: rest ∧ IsDigit c d := by
  cases h with
  | last h => exact ⟨_, _, _, rfl, h⟩
  | next h _ => exact ⟨_, _, _, rfl, h⟩
  | apart h _ => exact ⟨_, _, _, rfl, h⟩

/-- A row of digits ends with a digit. -/
theorem Spells.exists_getLast {cs : List Char} {ds : List Nat} (h : Spells cs ds) :
    ∃ c d, cs.getLast? = some c ∧ IsDigit c d := by
  induction h with
  | last h => exact ⟨_, _, rfl, h⟩
  | next h hrest ih =>
      obtain ⟨c, d, hlast, hc⟩ := ih
      exact ⟨c, d, by simp [List.getLast?_cons, hlast], hc⟩
  | apart h hrest ih =>
      obtain ⟨c, d, hlast, hc⟩ := ih
      exact ⟨c, d, by simp [List.getLast?_cons, hlast], hc⟩

/-- Digits are read from what spells them, and from nothing else. -/
theorem digits?_eq_some_iff {cs : List Char} {ds : List Nat} :
    digits? digit? cs = some ds ↔ Spells cs ds := by
  constructor
  · intro h
    induction cs using digits?.induct generalizing ds with
    | case1 => cases h
    | case2 c =>
        obtain ⟨d, hd, rfl⟩ := Option.map_eq_some_iff.mp h
        exact .last (digit?_eq_some_iff.mp hd)
    | case3 c rest ih =>
        simp only [digits?, bind, Option.bind_eq_some_iff, pure, Option.some.injEq] at h
        obtain ⟨d, hd, ds, hds, rfl⟩ := h
        exact .apart (digit?_eq_some_iff.mp hd) (ih hds)
    | case4 c next rest hnext ih =>
        rw [digits?.eq_4 _ _ _ _ hnext] at h
        simp only [bind, Option.bind_eq_some_iff, pure, Option.some.injEq] at h
        obtain ⟨d, hd, ds, hds, rfl⟩ := h
        exact .next (digit?_eq_some_iff.mp hd) (ih hds)
  · intro h
    induction h with
    | last h => simp [digits?, digit?_eq_some_iff.mpr h]
    | next h hrest ih =>
        obtain ⟨c, d, rest, rfl, hc⟩ := hrest.exists_cons
        rw [digits?.eq_4 _ _ _ _ (hc.ne (by decide)), digit?_eq_some_iff.mpr h, ih]
        rfl
    | apart h hrest ih =>
        simp only [digits?, digit?_eq_some_iff.mpr h, ih]
        rfl

/-- The number of some digits is that in base ten. -/
theorem ofDigits_eq (ds : List Nat) : ofDigits ds = Nat.ofDigits 10 ds.reverse := by
  rw [Nat.ofDigits_eq_foldr, List.foldr_reverse]
  unfold ofDigits
  congr 1
  funext n d
  exact Nat.add_comm _ _

/-- An integer is read from its sign and its digits, and from nothing else. -/
theorem int?_eq_some_iff {cs : List Char} {n : Int} :
    int? digit? cs = some n ↔ ∃ (sign : Sign) (body : List Char) (ds : List Nat),
      cs = sign.text ++ body ∧ Spells body ds ∧ n = sign.apply (Nat.ofDigits 10 ds.reverse) := by
  constructor
  · intro h
    unfold int? at h
    split at h
    next rest =>
      obtain ⟨ds, hds, rfl⟩ := Option.map_eq_some_iff.mp h
      exact ⟨.plus, rest, ds, rfl, digits?_eq_some_iff.mp hds, by rw [ofDigits_eq]; rfl⟩
    next rest =>
      obtain ⟨ds, hds, rfl⟩ := Option.map_eq_some_iff.mp h
      exact ⟨.minus, rest, ds, rfl, digits?_eq_some_iff.mp hds, by rw [ofDigits_eq]; rfl⟩
    next =>
      obtain ⟨ds, hds, rfl⟩ := Option.map_eq_some_iff.mp h
      exact ⟨.bare, cs, ds, rfl, digits?_eq_some_iff.mp hds, by rw [ofDigits_eq]; rfl⟩
  · rintro ⟨sign, body, ds, rfl, hbody, rfl⟩
    have hds := digits?_eq_some_iff.mpr hbody
    cases sign with
    | bare =>
        obtain ⟨c, d, rest, rfl, hc⟩ := hbody.exists_cons
        show int? digit? (c :: rest) = _
        have hplus : c ≠ '+' := hc.ne (by decide)
        have hminus : c ≠ '-' := hc.ne (by decide)
        rw [int?.eq_3 _ _ (fun _ h => hplus (List.cons.inj h).1)
          (fun _ h => hminus (List.cons.inj h).1), hds, Option.map_some, ofDigits_eq]
        rfl
    | plus =>
        show (digits? digit? body).map _ = _
        rw [hds, Option.map_some, ofDigits_eq]
        rfl
    | minus =>
        show (digits? digit? body).map _ = _
        rw [hds, Option.map_some, ofDigits_eq]
        rfl

/-- A text is read as the integer that it denotes, unless it has too many digits; no other text
is read. -/
theorem ofText?_eq_some_iff {text : String} {n : Int} :
    ofText? text = some n ↔ Denotes text.toList n ∧ digitCount text.toList ≤ mostDigits := by
  have hblank {cs : List Char} (hcs : ∀ c ∈ cs, isBlank c = true) : digitCount cs = 0 :=
    List.countP_eq_zero.mpr fun c hc => by simp [digit?_of_isBlank (hcs c hc)]
  have hcount {before core after : List Char} (hbefore : ∀ c ∈ before, isBlank c = true)
      (hafter : ∀ c ∈ after, isBlank c = true) :
      digitCount (before ++ core ++ after) = digitCount core := by
    have hsplit : digitCount (before ++ core ++ after) =
        digitCount before + digitCount core + digitCount after := by
      simp only [digitCount, List.countP_append]
    rw [hsplit, hblank hbefore, hblank hafter, Nat.zero_add, Nat.add_zero]
  have hread (core : List Char) (hcore : trim isBlank text.toList = core) :
      ofText? text = some n ↔ int? digit? core = some n ∧ digitCount core ≤ mostDigits := by
    show (if mostDigits < digitCount (trim isBlank text.toList) then none
      else int? digit? (trim isBlank text.toList)) = some n ↔ _
    rw [hcore]
    split
    next hmany => exact ⟨nofun, fun h => absurd h.2 (Nat.not_le.mpr hmany)⟩
    next hfew => exact ⟨fun h => ⟨h, Nat.not_lt.mp hfew⟩, And.left⟩
  constructor
  · intro h
    obtain ⟨hint, hfew⟩ := (hread _ rfl).mp h
    obtain ⟨before, after, hsplit, hbefore, hafter⟩ := exists_trim isBlank text.toList
    obtain ⟨sign, body, ds, hcore, hbody, rfl⟩ := int?_eq_some_iff.mp hint
    rw [← hcount hbefore hafter, ← hsplit] at hfew
    rw [hcore] at hsplit
    refine ⟨?_, hfew⟩
    rw [hsplit]
    exact .numeral sign hbefore hbody hafter
  · rintro ⟨hdenotes, hfew⟩
    generalize hcs : text.toList = cs at hdenotes hfew
    cases hdenotes with
    | @numeral before body after ds sign hbefore hbody hafter =>
        have hcore : trim isBlank text.toList = sign.text ++ body := by
          obtain ⟨first, _, rest, hrest, hfirst⟩ := hbody.exists_cons
          obtain ⟨last, _, hlast, hends⟩ := hbody.exists_getLast
          rw [hcs]
          refine trim_of_ends hbefore hafter ?_ ?_ (by simp [hrest])
          · rw [hrest]
            cases sign <;> simp [Sign.text, hfirst.isBlank_eq_false] <;> decide
          · rw [List.getLast?_append, hlast]
            simp [hends.isBlank_eq_false]
        refine (hread _ hcore).mpr ⟨int?_eq_some_iff.mpr ⟨sign, body, ds, rfl, hbody, rfl⟩, ?_⟩
        rw [← hcount hbefore hafter]
        exact hfew

/-- What denotes an integer is not blank. -/
theorem Denotes.exists_not_isSpacing {cs : List Char} {n : Int} (h : Denotes cs n) :
    ∃ c ∈ cs, isSpacing c = false := by
  cases h with
  | numeral sign hbefore hbody hafter =>
      obtain ⟨c, d, rest, rfl, hc⟩ := hbody.exists_cons
      exact ⟨c, by simp, hc.isSpacing_eq_false⟩

/-- The texts of an integer: its digits with zeros in front, written in any scripts and with
underscores between them, behind a sign that may be left out unless the integer is negative, and
with white space around. -/
inductive Renders : List Char → Int → Prop
  | numeral {n : Int} {before body after : List Char} (sign : Sign) (leading : Nat)
      (hsign : sign.apply n.natAbs = n) (hbefore : ∀ c ∈ before, isBlank c = true)
      (hbody : Spells body (List.replicate leading 0 ++ (Nat.digits 10 n.natAbs).reverse))
      (hafter : ∀ c ∈ after, isBlank c = true) : Renders (before ++ (sign.text ++ body) ++ after) n

/-- Whatever renders an integer denotes it. -/
theorem Renders.denotes {cs : List Char} {n : Int} (h : Renders cs n) : Denotes cs n := by
  cases h with
  | numeral sign leading hsign hbefore hbody hafter =>
      have hdenotes := Denotes.numeral sign hbefore hbody hafter
      rw [List.reverse_append, List.reverse_reverse, List.reverse_replicate, Nat.ofDigits_append,
        Nat.ofDigits_digits, Nat.ofDigits_replicate_zero, Nat.mul_zero, Nat.add_zero,
        hsign] at hdenotes
      exact hdenotes

end Numeral

end Gridwalk.Text
