import Mathlib.Data.List.TakeWhile
import Showcase.Proofs.Json.Spelling

/-!
# Numbers are read as they are written

The reader of numbers takes exactly the texts of the grammar and finds in each the number that it
spells, be it an integer or a decimal cut to its leading digits.
-/

namespace Showcase.Json

variable {text digits rest found chars : List Char}
  {start : Nat} {kept lost kept' lost' : List Char}
  {whole fraction exponent decimals keptDecimals lostDecimals : List Char} {scale : Int}

/-! ## Digits -/

theorem digits?_eq_some (read : digits? text = some (found, rest)) :
    text = found ++ rest ∧ IsDigits found := by
  unfold digits? at read
  split at read
  · cases read
  · rename_i nonempty
    cases read
    exact ⟨List.takeWhile_append_dropWhile.symm, nonempty, fun c => List.mem_takeWhile_imp⟩

theorem digits?_append (isDigits : IsDigits found)
    (ended : ∀ c, rest.head? = some c → c.isDigit = false) :
    digits? (found ++ rest) = some (found, rest) := by
  have stops : rest.takeWhile Char.isDigit = [] ∧ rest.dropWhile Char.isDigit = rest := by
    cases rest with
    | nil => exact ⟨rfl, rfl⟩
    | cons c rest => simp [ended c rfl]
  unfold digits?
  rw [List.takeWhile_append_of_pos isDigits.2, List.dropWhile_append_of_pos isDigits.2, stops.1,
    stops.2, List.append_nil]
  cases found with
  | nil => exact absurd rfl isDigits.1
  | cons c found => rfl

theorem IsDigits.exists_cons (isDigits : IsDigits digits) :
    ∃ c more, digits = c :: more ∧ c.isDigit = true ∧ ∀ c ∈ more, c.isDigit = true := by
  obtain ⟨nonempty, all⟩ := isDigits
  obtain ⟨c, more, rfl⟩ := List.exists_cons_of_ne_nil nonempty
  exact ⟨c, more, rfl, List.forall_mem_cons.mp all⟩

theorem IsDigits.ne_cons {c : Char} (isDigits : IsDigits digits) (other : c.isDigit = false) :
    digits ≠ c :: rest := by
  rintro rfl
  rw [isDigits.2 c List.mem_cons_self] at other
  cases other

theorem ofDigitChars_cons (c : Char) (digits : List Char) (start : Nat) :
    Nat.ofDigitChars 10 (c :: digits) start =
      Nat.ofDigitChars 10 digits (start * 10 + digitValue c) := by
  rw [Nat.ofDigitChars_cons, Nat.mul_comm]
  rfl

theorem le_ofDigitChars (digits : List Char) (start : Nat) :
    start ≤ Nat.ofDigitChars 10 digits start := by
  induction digits generalizing start with
  | nil => exact Nat.le_refl _
  | cons c digits ih =>
      rw [ofDigitChars_cons]
      exact Nat.le_trans (by omega) (ih _)

theorem gather_cons (start : Nat) (c : Char) (digits : List Char) :
    gather start (c :: digits) =
      if start * 10 + digitValue c ≤ wordLimit then gather (start * 10 + digitValue c) digits
      else (start, digits.length + 1) := rfl

/-! ## Leading digits -/

theorem Leading.all (fits : Nat.ofDigitChars 10 digits start ≤ wordLimit) :
    Leading start digits digits [] where
  append_eq := List.append_nil digits
  fits := fits
  longest := fun _ starts _ => starts

/-- The next digit is kept if the number still fits with it. -/
theorem Leading.cons {c : Char} (leading : Leading (start * 10 + digitValue c) digits kept lost) :
    Leading start (c :: digits) (c :: kept) lost where
  append_eq := congrArg (c :: ·) leading.append_eq
  fits := by
    rw [ofDigitChars_cons]
    exact leading.fits
  longest := fun candidate starts fits => by
    cases candidate with
    | nil => exact List.nil_prefix
    | cons first candidate =>
        obtain ⟨rfl, further⟩ := List.cons_prefix_cons.mp starts
        rw [ofDigitChars_cons] at fits
        exact List.cons_prefix_cons.mpr ⟨rfl, leading.longest candidate further fits⟩

/-- Nothing is kept from the first digit on with which the number does not fit. -/
theorem Leading.stop {c : Char} (fits : start ≤ wordLimit)
    (beyond : wordLimit < start * 10 + digitValue c) :
    Leading start (c :: digits) [] (c :: digits) where
  append_eq := rfl
  fits := fits
  longest := fun candidate starts fits => by
    cases candidate with
    | nil => exact List.nil_prefix
    | cons first candidate =>
        obtain ⟨rfl, -⟩ := List.cons_prefix_cons.mp starts
        rw [ofDigitChars_cons] at fits
        exact absurd (Nat.le_trans (le_ofDigitChars candidate _) fits) (Nat.not_le.mpr beyond)

/-- Of any digits the leading ones are gathered, and the others are counted. -/
theorem exists_leading (fits : start ≤ wordLimit) (digits : List Char) :
    ∃ kept lost, Leading start digits kept lost ∧
      gather start digits = (Nat.ofDigitChars 10 kept start, lost.length) := by
  induction digits generalizing start with
  | nil => exact ⟨[], [], .all fits, rfl⟩
  | cons c digits ih =>
      rw [gather_cons]
      split
      · rename_i next
        obtain ⟨kept, lost, leading, gathered⟩ := ih next
        refine ⟨c :: kept, lost, leading.cons, ?_⟩
        rw [gathered, ofDigitChars_cons]
      · rename_i beyond
        exact ⟨[], c :: digits, .stop fits (Nat.not_le.mp beyond), rfl⟩

/-- The digits settle which of them are kept. -/
theorem Leading.unique (first : Leading start digits kept lost)
    (second : Leading start digits kept' lost') : kept = kept' ∧ lost = lost' := by
  have ahead : kept <+: kept' := second.longest kept ⟨lost, first.append_eq⟩ first.fits
  have behind : kept' <+: kept := first.longest kept' ⟨lost', second.append_eq⟩ second.fits
  obtain rfl : kept = kept' := ahead.eq_of_length_le behind.length_le
  exact ⟨rfl, List.append_cancel_left (first.append_eq.trans second.append_eq.symm)⟩

theorem Leading.gather_eq (leading : Leading start digits kept lost) (fits : start ≤ wordLimit) :
    gather start digits = (Nat.ofDigitChars 10 kept start, lost.length) := by
  obtain ⟨kept', lost', other, gathered⟩ := exists_leading fits digits
  obtain ⟨rfl, rfl⟩ := leading.unique other
  exact gathered

/-- No digit is lost where the number fits. -/
theorem Leading.lost_eq_nil (leading : Leading start digits kept lost) :
    lost = [] ↔ Nat.ofDigitChars 10 digits start ≤ wordLimit := by
  constructor
  · rintro rfl
    rw [← leading.append_eq, List.append_nil]
    exact leading.fits
  · intro fits
    have all : digits <+: kept := leading.longest digits (List.prefix_refl _) fits
    have length_eq : kept.length + lost.length = digits.length := by
      rw [← List.length_append, leading.append_eq]
    have length_le := all.length_le
    exact List.eq_nil_of_length_eq_zero (by omega)

/-! ## The parts of a number -/

theorem foldl_eq_ofDigitChars (digits : List Char) (start : Nat) :
    digits.foldl (fun (value : Int) c => value * 10 + digitValue c) (start : Int) =
      Nat.ofDigitChars 10 digits start := by
  induction digits generalizing start with
  | nil => rfl
  | cons c digits ih =>
      rw [List.foldl_cons, ofDigitChars_cons, ← ih]
      rfl

theorem foldl_eq_decimalValue (digits : List Char) :
    digits.foldl (fun (value : Int) c => value * 10 + digitValue c) 0 = decimalValue digits :=
  foldl_eq_ofDigitChars digits 0

theorem isExponent_of_exponent? :
    exponent? text = some scale → IsExponent text scale := by
  fun_cases exponent? text with
  | case1 =>
      rintro ⟨⟩
      exact .missing
  | case2 mark rest marks negative unsigned signed digits found value =>
      intro read
      have marks : mark = 'e' ∨ mark = 'E' := by simpa using marks
      obtain ⟨whole, isDigits⟩ := digits?_eq_some found
      rw [List.append_nil] at whole
      have value_eq : value = decimalValue digits := foldl_eq_decimalValue digits
      subst whole
      split at signed
      · obtain ⟨rfl, rfl⟩ := Prod.mk.inj signed
        cases read
        exact value_eq ▸ .lowered marks isDigits
      · obtain ⟨rfl, rfl⟩ := Prod.mk.inj signed
        cases read
        exact value_eq ▸ .raised marks (.inr rfl) isDigits
      · obtain ⟨rfl, rfl⟩ := Prod.mk.inj signed
        cases read
        exact value_eq ▸ .raised marks (.inl rfl) isDigits
  | case3 => exact fun read => nomatch read
  | case4 => exact fun read => nomatch read

theorem IsExponent.head (isExponent : IsExponent exponent scale) :
    ∀ c, exponent.head? = some c → c = 'e' ∨ c = 'E' := by
  cases isExponent with
  | missing => exact fun c first => nomatch first
  | raised marks | lowered marks =>
      rintro c ⟨⟩
      exact marks

theorem exponent?_of_isExponent (isExponent : IsExponent exponent scale) :
    exponent? exponent = some scale := by
  have whole {chars : List Char} (isDigits : IsDigits chars) :
      digits? chars = some (chars, []) := by
    have found : digits? (chars ++ []) = some (chars, []) :=
      digits?_append isDigits fun c first => nomatch first
    rwa [List.append_nil] at found
  cases isExponent with
  | missing => rfl
  | @raised mark sign chars marks signs isDigits =>
      rcases signs with rfl | rfl
      · rw [List.nil_append, exponent?, if_pos (by simpa using marks), whole isDigits]
        · exact congrArg some (foldl_eq_decimalValue chars)
        · exact fun rest => isDigits.ne_cons rfl
        · exact fun rest => isDigits.ne_cons rfl
      · simpa [exponent?, marks, whole isDigits] using foldl_eq_decimalValue chars
  | @lowered mark chars marks isDigits =>
      simpa [exponent?, marks, whole isDigits] using foldl_eq_decimalValue chars

theorem isFraction_of_fraction? (read : fraction? text = some (found, rest)) :
    ∃ fraction, text = fraction ++ rest ∧ IsFraction fraction found := by
  unfold fraction? at read
  split at read
  · obtain ⟨rfl, isDigits⟩ := digits?_eq_some read
    exact ⟨'.' :: found, rfl, .digits isDigits⟩
  · cases read
    exact ⟨[], rfl, .missing⟩

theorem fraction?_append (isFraction : IsFraction fraction decimals)
    (isExponent : IsExponent exponent scale) :
    fraction? (fraction ++ exponent) = some (decimals, exponent) := by
  have marked := isExponent.head
  cases isFraction with
  | missing =>
      rw [List.nil_append]
      unfold fraction?
      split
      · rename_i rest
        rcases marked '.' rfl with mark | mark <;> cases mark
      · rfl
  | digits isDigits =>
      refine digits?_append isDigits fun c first => ?_
      rcases marked c first with rfl | rfl <;> rfl

/-- No digit follows those before the point. -/
theorem not_isDigit_of_head (isFraction : IsFraction fraction decimals)
    (isExponent : IsExponent exponent scale) :
    ∀ c, (fraction ++ exponent).head? = some c → c.isDigit = false := by
  intro c first
  cases isFraction with
  | missing => rcases isExponent.head c first with rfl | rfl <;> rfl
  | digits => cases first; rfl

/-- Only a number without a fraction and an exponent is made of digits. -/
theorem isWhole_append (isWhole : IsWhole whole) (isFraction : IsFraction fraction decimals)
    (isExponent : IsExponent exponent scale) :
    IsWhole (whole ++ (fraction ++ exponent)) ↔ fraction ++ exponent = [] := by
  constructor
  · rintro ⟨⟨-, all⟩, -⟩
    by_contra further
    obtain ⟨c, chars, same⟩ := List.exists_cons_of_ne_nil further
    have digit : c.isDigit = true := all c (by simp [same])
    have other := not_isDigit_of_head isFraction isExponent c (by simp [same])
    rw [digit] at other
    cases other
  · intro nothing
    rwa [nothing, List.append_nil]

/-! ## Numbers without a sign -/

theorem exists_parts {result : Nat × Int × Bool} (read : unsigned? text = some result) :
    ∃ whole fraction exponent decimals scale, text = whole ++ (fraction ++ exponent) ∧
      IsWhole whole ∧ IsFraction fraction decimals ∧ IsExponent exponent scale := by
  unfold unsigned? at read
  simp only [Option.bind_eq_bind, Option.bind_eq_some_iff] at read
  obtain ⟨⟨whole, rest⟩, found, read⟩ := read
  obtain ⟨rfl, isDigits⟩ := digits?_eq_some found
  split at read
  · cases read
  · rename_i leading
    have isWhole : IsWhole whole := by
      refine ⟨isDigits, fun zero => ?_⟩
      have short : ¬ 1 < whole.length := by simpa [zero] using leading
      have positive := List.length_pos_iff.mpr isDigits.1
      omega
    obtain ⟨⟨decimals, exponent⟩, point, read⟩ := Option.bind_eq_some_iff.mp read
    obtain ⟨scale, scaled, -⟩ := Option.bind_eq_some_iff.mp read
    obtain ⟨fraction, rfl, isFraction⟩ := isFraction_of_fraction? point
    exact ⟨whole, fraction, exponent, decimals, scale, rfl, isWhole, isFraction,
      isExponent_of_exponent? scaled⟩

/-- What is read from the parts of a number. -/
theorem unsigned?_append (isWhole : IsWhole whole) (isFraction : IsFraction fraction decimals)
    (isExponent : IsExponent exponent scale) (leading : Leading 0 whole kept lost)
    (further : Leading (decimalValue kept) decimals keptDecimals lostDecimals) :
    unsigned? (whole ++ (fraction ++ exponent)) =
      some (decimalValue (kept ++ keptDecimals), scale + lost.length - keptDecimals.length,
        (fraction ++ exponent).isEmpty && lost.length == 0) := by
  obtain ⟨isDigits, single⟩ := isWhole
  have found := digits?_append isDigits (not_isDigit_of_head isFraction isExponent)
  have point := fraction?_append isFraction isExponent
  have scaled := exponent?_of_isExponent isExponent
  have gathered := leading.gather_eq (Nat.zero_le _)
  have gatheredDecimals := further.gather_eq leading.fits
  have kept_eq : decimals.length - lostDecimals.length = keptDecimals.length := by
    rw [← further.append_eq, List.length_append]
    omega
  have short (zero : whole.head? = some '0') : ¬ 1 < whole.length := by
    rw [single zero]
    exact Nat.lt_irrefl 1
  have value_eq : Nat.ofDigitChars 10 keptDecimals (decimalValue kept) =
      decimalValue (kept ++ keptDecimals) := (Nat.ofDigitChars_append 0).symm
  rw [value_eq] at gatheredDecimals
  rw [← decimalValue] at gathered
  simpa [unsigned?, found, point, scaled, gathered, gatheredDecimals, kept_eq] using short

/-- An integer of 64 bits has no further parts and loses no digit. -/
theorem integer_iff (isWhole : IsWhole whole) (isFraction : IsFraction fraction decimals)
    (isExponent : IsExponent exponent scale) (leading : Leading 0 whole kept lost) :
    ((fraction ++ exponent).isEmpty && lost.length == 0) = true ↔
      IsWhole (whole ++ (fraction ++ exponent)) ∧
        decimalValue (whole ++ (fraction ++ exponent)) ≤ wordLimit := by
  rw [isWhole_append isWhole isFraction isExponent, Bool.and_eq_true, List.isEmpty_iff,
    beq_iff_eq, List.length_eq_zero_iff]
  refine and_congr_right fun nothing => ?_
  rw [nothing, List.append_nil]
  exact leading.lost_eq_nil

/-- A number without a sign is read as the grammar says, and the reader tells whether it is an
integer of 64 bits. -/
theorem unsigned?_eq_some_iff {significand : Nat} {power : Int} {integer : Bool} :
    unsigned? text = some (significand, power, integer) ↔
      UnsignedText text significand power ∧
        (integer = true ↔ IsWhole text ∧ decimalValue text ≤ wordLimit) := by
  constructor
  · intro read
    obtain ⟨whole, fraction, exponent, decimals, scale, rfl, isWhole, isFraction, isExponent⟩ :=
      exists_parts read
    obtain ⟨kept, lost, leading, -⟩ := exists_leading (Nat.zero_le wordLimit) whole
    obtain ⟨keptDecimals, lostDecimals, further, -⟩ := exists_leading leading.fits decimals
    rw [unsigned?_append isWhole isFraction isExponent leading further] at read
    cases read
    exact ⟨.parts isWhole isFraction isExponent leading further,
      integer_iff isWhole isFraction isExponent leading⟩
  · rintro ⟨⟨isWhole, isFraction, isExponent, leading, further⟩, told⟩
    have same := (integer_iff isWhole isFraction isExponent leading).trans told.symm
    rw [unsigned?_append isWhole isFraction isExponent leading further, Bool.eq_iff_iff.mpr same]

theorem UnsignedText.not_minus {significand : Nat} {power : Int}
    (spelled : UnsignedText text significand power) : text ≠ '-' :: rest := by
  cases spelled with
  | @parts whole _ _ _ _ _ _ _ _ isWhole =>
      obtain ⟨c, more, rfl, digit, -⟩ := isWhole.1.exists_cons
      intro minus
      obtain ⟨rfl, -⟩ := List.cons.inj minus
      cases digit

/-- An integer of 64 bits keeps its value. -/
theorem UnsignedText.eq_decimalValue {significand : Nat} {power : Int}
    (spelled : UnsignedText text significand power) (isWhole : IsWhole text)
    (fits : decimalValue text ≤ wordLimit) : significand = decimalValue text := by
  cases spelled with
  | parts isWhole' isFraction isExponent leading further =>
      have nothing := (isWhole_append isWhole' isFraction isExponent).mp isWhole
      obtain ⟨rfl, rfl⟩ := List.append_eq_nil_iff.mp nothing
      cases isFraction
      obtain ⟨rfl, -⟩ := List.append_eq_nil_iff.mp further.append_eq
      rw [List.append_nil, List.append_nil] at fits ⊢
      obtain rfl := leading.lost_eq_nil.mpr fits
      rw [← leading.append_eq, List.append_nil, List.append_nil]

/-- Where the reader tells of an integer, it is one of 64 bits and read with its value. -/
theorem integer_of_unsigned? {significand : Nat} {power : Int}
    (read : unsigned? text = some (significand, power, true)) :
    IsWhole text ∧ decimalValue text ≤ wordLimit ∧ significand = decimalValue text := by
  obtain ⟨spelled, told⟩ := unsigned?_eq_some_iff.mp read
  obtain ⟨isWhole, fits⟩ := told.mp rfl
  exact ⟨isWhole, fits, spelled.eq_decimalValue isWhole fits⟩

theorem unsigned?_of_isWhole (isWhole : IsWhole digits) (fits : decimalValue digits ≤ wordLimit) :
    unsigned? digits = some (decimalValue digits, 0, true) := by
  have leading : Leading 0 digits digits [] := .all fits
  have further : Leading (decimalValue digits) [] [] [] := .all fits
  have read := unsigned?_append isWhole .missing .missing leading further
  rwa [List.append_nil, List.append_nil] at read

/-! ## Numbers -/

theorem ofChars?_minus (rest : List Char) : Number.ofChars? ('-' :: rest) =
    (unsigned? rest).map fun (significand, power, integer) =>
      if integer && 0 < significand && significand ≤ Nat.pow 2 63 then .negative significand
      else .decimal significand power := by
  rw [Number.ofChars?]
  cases unsigned? rest with
  | none => rfl
  | some parts => simp only [Option.bind_eq_bind, Option.bind_some, Option.map_some]; split <;> rfl

theorem ofChars?_plain (unsigned : ∀ rest, text ≠ '-' :: rest) : Number.ofChars? text =
    (unsigned? text).map fun (significand, power, integer) =>
      if integer then .natural significand else .decimal significand power := by
  rw [Number.ofChars?.eq_def]
  split
  · rename_i rest
    exact absurd rfl (unsigned rest)
  · cases unsigned? text with
    | none => rfl
    | some parts =>
        simp only [Option.bind_eq_bind, Option.bind_some, Option.map_some]
        split <;> rfl

theorem numberText_of_ofChars? {number : Number} (read : Number.ofChars? chars = some number) :
    NumberText chars number := by
  by_cases minus : ∃ rest, chars = '-' :: rest
  · obtain ⟨rest, rfl⟩ := minus
    rw [ofChars?_minus] at read
    obtain ⟨⟨significand, power, integer⟩, found, made⟩ := Option.map_eq_some_iff.mp read
    dsimp only at made
    split at made
    · rename_i small
      obtain ⟨⟨rfl, positive⟩, fits⟩ : (integer = true ∧ 0 < significand) ∧ _ := by
        simpa using small
      obtain ⟨isWhole, -, rfl⟩ := integer_of_unsigned? found
      rw [← made]
      exact .negative isWhole positive fits
    · rename_i other
      obtain ⟨spelled, told⟩ := unsigned?_eq_some_iff.mp found
      subst made
      refine .negativeDecimal spelled fun ⟨isWhole, positive, fits⟩ => other ?_
      obtain rfl := told.mpr ⟨isWhole, fits.trans (by decide)⟩
      obtain ⟨-, -, rfl⟩ := integer_of_unsigned? found
      simp [positive, fits]
  · have unsigned : ∀ rest, chars ≠ '-' :: rest := fun rest same => minus ⟨rest, same⟩
    rw [ofChars?_plain unsigned] at read
    obtain ⟨⟨significand, power, integer⟩, found, made⟩ := Option.map_eq_some_iff.mp read
    dsimp only at made
    split at made
    · rename_i integral
      subst integral
      obtain ⟨isWhole, fits, rfl⟩ := integer_of_unsigned? found
      rw [← made]
      exact .natural isWhole fits
    · rename_i other
      obtain ⟨spelled, told⟩ := unsigned?_eq_some_iff.mp found
      subst made
      exact .decimal spelled fun integral => other (told.mpr integral)

theorem ofChars?_of_numberText {number : Number} (spelled : NumberText chars number) :
    Number.ofChars? chars = some number := by
  cases spelled with
  | natural whole fits =>
      rw [ofChars?_plain fun rest => whole.1.ne_cons rfl, unsigned?_of_isWhole whole fits]
      rfl
  | negative whole positive fits =>
      have word : decimalValue _ ≤ wordLimit := fits.trans (by decide)
      rw [ofChars?_minus, unsigned?_of_isWhole whole word]
      simp [positive, fits]
  | decimal spelled unfit =>
      have read := unsigned?_eq_some_iff.mpr ⟨spelled, iff_of_false Bool.false_ne_true unfit⟩
      rw [ofChars?_plain fun rest => spelled.not_minus, read]
      rfl
  | @negativeDecimal chars significand power spelled unfit =>
      rw [ofChars?_minus]
      by_cases integral : IsWhole chars ∧ decimalValue chars ≤ wordLimit
      · have read := unsigned?_eq_some_iff.mpr ⟨spelled, iff_of_true rfl integral⟩
        obtain ⟨-, -, rfl⟩ := integer_of_unsigned? read
        have large : ¬ (0 < decimalValue chars ∧ decimalValue chars ≤ Nat.pow 2 63) :=
          fun bounds => unfit ⟨integral.1, bounds⟩
        simpa [read] using large
      · have read := unsigned?_eq_some_iff.mpr ⟨spelled, iff_of_false Bool.false_ne_true integral⟩
        rw [read]
        rfl

end Showcase.Json
