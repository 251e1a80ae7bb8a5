import Mathlib.Tactic.SplitIfs
import Showcase.Proofs.Text.Measuring
import Showcase.Proofs.Text.Wrapping

/-!
# Columns that a text adds

A text may take more columns than its characters do one by one, but only where a control character
is in it, which counts as one column, and where a selector widens the character before it. A flag
that is read together with others gives columns up before it takes them again; what it gave up is
`saved`.
-/

namespace Showcase.Text

/-! ## Tables without common characters -/

/-- Whether no code point is in both tables. Ranges of the second one that end before a range of the
first one are not looked at again. -/
def Ranges.apart : Ranges → Ranges → Bool
  | [], _ => true
  | (low, high) :: rest, others =>
      let further := others.dropWhile fun other => other.2 < low
      (further.head?.all fun other => high < other.1) && Ranges.apart rest further

theorem Ranges.contains_dropWhile {ranges : Ranges} {low code : Nat} (reached : low ≤ code)
    (found : ranges.contains code = true) :
    Ranges.contains (ranges.dropWhile fun range => range.2 < low) code = true := by
  induction ranges with
  | nil => exact found
  | cons range rest ih =>
      rw [List.dropWhile_cons]
      split
      · rename_i before
        refine ih ?_
        have beyond : ¬ code ≤ range.2 := by simp only [decide_eq_true_eq] at before; omega
        unfold Ranges.contains at found
        split at found
        · cases found
        · simpa [beyond] using found
      · exact found

theorem Ranges.contains_of_apart {ranges others : Ranges} {code : Nat}
    (apart : ranges.apart others = true) (found : ranges.contains code = true) :
    others.contains code = false := by
  induction ranges generalizing others with
  | nil => cases found
  | cons range rest ih =>
      obtain ⟨low, high⟩ := range
      unfold Ranges.contains at found
      split at found
      · cases found
      rename_i reached
      simp only [Ranges.apart, Bool.and_eq_true] at apart
      obtain ⟨beyond, apart⟩ := apart
      refine Bool.eq_false_iff.mpr fun inside => ?_
      have inside := Ranges.contains_dropWhile (Nat.le_of_not_lt reached) inside
      simp only [Bool.or_eq_true, decide_eq_true_eq] at found
      rcases found with within | later
      · generalize others.dropWhile _ = further at beyond inside
        cases further with
        | nil => cases inside
        | cons other further =>
            have above : high < other.1 := by simpa using beyond
            rw [Ranges.contains, if_pos (by omega)] at inside
            cases inside
      · rw [ih apart later] at inside
        cases inside

variable {c : Char} {next after : Following} {text : List Char}

/-- The characters without columns: control characters and marks. -/
def columnless : Ranges := (0x00, 0x1F) :: (0x7F, 0x9F) :: Columns.zeroWidth

theorem columns_pos (visible : columnless.contains c.toNat = false) : 1 ≤ columns c := by
  simp only [columnless, Ranges.contains, Nat.not_lt_zero, if_false, Bool.or_eq_false_iff,
    decide_eq_false_iff_not] at visible
  obtain ⟨high, visible⟩ := visible
  have printable : isControl c = false := by
    simp only [isControl, Bool.or_eq_false_iff, Bool.and_eq_false_iff, decide_eq_false_iff_not]
    by_cases ascii : c.toNat < 0x7F
    · omega
    · rw [if_neg ascii, Bool.or_eq_false_iff, decide_eq_false_iff_not] at visible
      omega
  simp only [columns, printable, Bool.false_eq_true, if_false, printableColumns]
  by_cases ascii : c.toNat < 0xA0
  · rw [if_pos ascii]
  · rw [if_neg (by omega), Bool.or_eq_false_iff] at visible
    simp only [visible.2, Bool.false_eq_true, if_false]
    split_ifs <;> omega

/-- The characters of a table have columns. -/
theorem columns_of_table {table : Ranges} (apart : table.apart columnless = true)
    (listed : table.contains c.toNat = true) : 1 ≤ columns c :=
  columns_pos (Ranges.contains_of_apart apart listed)

theorem columns_startsPicture (starts : startsPicture c = true) : 1 ≤ columns c :=
  columns_of_table (by decide +kernel) starts

theorem columns_startsTextVariant (starts : startsTextVariant c = true) : 1 ≤ columns c :=
  columns_of_table (by decide +kernel) starts

theorem columns_of_range {low high : Nat} (apart : Ranges.apart [(low, high)] columnless = true)
    (above : low ≤ c.toNat) (below : c.toNat ≤ high) : 1 ≤ columns c := by
  refine columns_of_table apart ?_
  simp [Ranges.contains, Nat.not_lt.mpr above, below]

theorem columns_of_code {code : Nat} (apart : Ranges.apart [(code, code)] columnless = true)
    (same : (c.toNat == code) = true) : 1 ≤ columns c :=
  columns_of_range apart (Nat.le_of_eq (beq_iff_eq.mp same).symm)
    (Nat.le_of_eq (beq_iff_eq.mp same))

theorem columns_flagHalf (half : isFlagHalf c = true) : 1 ≤ columns c := by
  simp only [isFlagHalf, Bool.and_eq_true, decide_eq_true_eq] at half
  exact columns_of_range (by decide +kernel) half.1 half.2

/-! ## Characters that a selector widens -/

def isCurlyQuote (c : Char) : Bool :=
  c.toNat == 0x2018 || c.toNat == 0x2019 || c.toNat == 0x201C || c.toNat == 0x201D

theorem columns_curlyQuote (quote : isCurlyQuote c = true) : 1 ≤ columns c := by
  have inside : 0x2018 ≤ c.toNat ∧ c.toNat ≤ 0x201D := by
    simp only [isCurlyQuote, Bool.or_eq_true, beq_iff_eq] at quote
    omega
  exact columns_of_range (by decide +kernel) inside.1 inside.2

/-- Whether a selector behind a character gives it a second column: a picture that is narrow without
it, or a quotation mark. -/
def widens (c selector : Char) : Bool :=
  selector == '\uFE0F' && startsPicture c && columns c == 1
    || selector == '\uFE01' && isCurlyQuote c

/-- How many characters of a text are widened. -/
def widened : List Char → Nat
  | [] => 0
  | c :: rest => (if rest.head?.any (widens c) then 1 else 0) + widened rest

theorem widened_append (first second : List Char) :
    widened first + widened second ≤ widened (first ++ second) := by
  induction first with
  | nil => simp [widened]
  | cons c rest ih =>
      have here : (if rest.head?.any (widens c) then 1 else 0) ≤
          (if (rest ++ second).head?.any (widens c) then 1 else 0) := by
        cases rest with
        | nil => simp
        | cons => exact Nat.le_refl _
      rw [List.cons_append, widened, widened]
      omega

/-! ## Selectors -/

/-- A character is a selector if it leaves one to the characters before it. -/
structure Selects (c : Char) (next : Following) : Prop where
  picture : next.pictureSelector = true → c = '\uFE0F'
  quote : next.shape = .rightQuoteSelector → c = '\uFE01'

theorem selects_of {shape : Shape} (other : shape ≠ .rightQuoteSelector) : Selects c (.of shape) :=
  ⟨nofun, fun same => absurd same other⟩

theorem selects_alone (c : Char) : Selects c (alone c).2 := by
  have letter {condition : Prop} [Decidable condition] {first second : Shape}
      (left : condition → Selects c (.of first)) (right : Selects c (.of second)) :
      Selects c (.of (if condition then first else second)) := by
    split
    · exact left ‹_›
    · exact right
  dsimp only [alone, shapeOf]
  refine iteInduction (fun _ => ⟨nofun, nofun⟩) fun _ => ?_
  refine iteInduction (fun _ => ⟨nofun, nofun⟩) fun _ => ?_
  refine iteInduction (fun same => ⟨fun _ => ?_, nofun⟩) fun _ => ?_
  · exact Char.toNat_inj.mp (beq_iff_eq.mp same)
  · have quote (same : (c.toNat == 0xFE01) = true) : Selects c (.of .rightQuoteSelector) :=
      ⟨nofun, fun _ => Char.toNat_inj.mp (beq_iff_eq.mp same)⟩
    refine letter quote ?_
    repeat' first
      | exact selects_of (by decide)
      | refine letter (fun _ => selects_of (by decide)) ?_

/-- What a ligature leaves is no selector. -/
theorem selects_ligature {change : Int} (found : ligature c next = some (change, after)) :
    Selects c after := by
  obtain ⟨shape, joiner, textSelector, pictureSelector⟩ := next
  cases shape with
  | plain | lineFeed | joinedKeycap => cases found
  | _ =>
      simp only [ligature] at found
      split_ifs at found
      all_goals
        cases found
        exact selects_of (by simp)

theorem Reads.selects {step : Int × Following} (reads : Reads c next step) : Selects c step.2 := by
  cases reads with
  | picture => exact ⟨nofun, nofun⟩
  | low _ _ after_eq => rcases after_eq with rfl | rfl <;> exact ⟨nofun, nofun⟩
  | alone => exact selects_alone c
  | passes keeps picture quote => exact ⟨picture, fun same => absurd same quote⟩
  | textVariant => exact ⟨nofun, nofun⟩
  | joins high keeps found => exact selects_ligature found

/-- A text leaves a selector only where it begins with it. -/
theorem head?_of_scan (text : List Char) :
    ((scan text).2.pictureSelector = true → text.head? = some '\uFE0F') ∧
      ((scan text).2.shape = .rightQuoteSelector → text.head? = some '\uFE01') := by
  cases text with
  | nil => exact ⟨nofun, nofun⟩
  | cons c rest =>
      have selects : Selects c (scan (c :: rest)).2 := (reads_widen c (scan rest).2).selects
      exact ⟨fun left => congrArg some (selects.picture left),
        fun left => congrArg some (selects.quote left)⟩

/-! ## What is given up -/

/-- The columns that flags gave up when they were read together. -/
def Shape.saved : Shape → Int
  | joinedFlagEven => 2
  | _ => 0

theorem saved_nonneg (shape : Shape) : 0 ≤ shape.saved := by
  cases shape <;> simp [Shape.saved]

theorem saved_keeps {shape : Shape} (keeps : next.Keeps shape) :
    shape.saved ≤ next.shape.saved := by
  rcases keeps with rfl | rfl
  · exact Int.le_refl _
  · exact saved_nonneg _

theorem saved_shapeOf (c : Char) : (shapeOf c).shape.saved = 0 := by
  have outer {condition : Prop} [Decidable condition] {first second : Following}
      (left : first.shape.saved = 0) (right : second.shape.saved = 0) :
      (if condition then first else second).shape.saved = 0 := by
    split <;> assumption
  have inner {condition : Prop} [Decidable condition] {first second : Shape}
      (left : first.saved = 0) (right : second.saved = 0) :
      (if condition then first else second).saved = 0 := by
    split <;> assumption
  refine outer rfl (outer rfl (outer rfl ?_))
  repeat' first | exact rfl | refine inner rfl ?_

/-- The column that a selector to the right adds to a character. -/
def gain (c : Char) (next : Following) : Nat :=
  if next.pictureSelector && startsPicture c && columns c == 1
    || next.shape == .rightQuoteSelector && isCurlyQuote c then 1 else 0

/-- A ligature takes no more than the columns of its characters, and what was given up before. -/
theorem ligature_le {change : Int} (found : ligature c next = some (change, after)) :
    change + after.shape.saved ≤ (columns c
      + if next.shape == .rightQuoteSelector && isCurlyQuote c then 1 else 0 : Nat)
        + next.shape.saved := by
  obtain ⟨shape, joiner, textSelector, pictureSelector⟩ := next
  cases shape with
  | plain | lineFeed | joinedKeycap => cases found
  | rightQuoteSelector =>
      simp only [ligature] at found
      split at found
      · rename_i quote
        cases found
        have quote : isCurlyQuote c = true := quote
        have one := columns_curlyQuote quote
        simp only [Shape.saved, Following.of, quote, BEq.rfl, Bool.and_self, if_true]
        omega
      · cases found
  | flagHalf | flagHalves | joinedPicture | joinedFlagHalf | joinedFlagOdd | joinedFlagEven
  | tifinaghConsonant | kiratVowelE =>
      -- These may add columns; what adds one has one on its own.
      have flag := columns_flagHalf (c := c)
      have tifinagh : (c.toNat == 0x2D7F) = true → 1 ≤ columns c :=
        columns_of_code (by decide +kernel)
      have kirat : (c.toNat == 0x16D68) = true → 1 ≤ columns c :=
        columns_of_code (by decide +kernel)
      simp only [ligature] at found
      split_ifs at found
      all_goals
        cases found
        simp_all only [Shape.saved, Following.of, true_implies]
        omega
  | _ =>
      simp only [ligature] at found
      split_ifs at found
      all_goals
        cases found
        simp only [Shape.saved, Following.of]
        omega

theorem columns_of_low (low : c.toNat ≤ 0xA0) (printable : isControl c = false) :
    1 ≤ columns c := by
  refine columns_pos ?_
  simp only [isControl, Bool.or_eq_false_iff, Bool.and_eq_false_iff, decide_eq_false_iff_not]
    at printable
  have none : Columns.zeroWidth.contains c.toNat = false := by
    rw [Columns.zeroWidth, Ranges.contains, if_pos (by omega)]
  simp only [columnless, Ranges.contains, none, Nat.not_lt_zero, if_false, Bool.or_false]
  split <;> simp <;> omega

/-- One character takes no more than its columns, one for a control character, what a selector adds,
and what was given up before. -/
theorem Reads.le {step : Int × Following} (reads : Reads c next step) :
    step.1 + step.2.shape.saved ≤
      (columns c + (if isControl c then 1 else 0) + gain c next : Nat) + next.shape.saved := by
  have held := saved_nonneg next.shape
  cases reads with
  | @picture count selected starts count_eq =>
      have some := columns_startsPicture starts
      have second : 2 ≤ columns c + gain c next := by
        unfold gain
        split
        · omega
        · rename_i wide
          simp only [selected, starts, Bool.and_self, Bool.true_and, Bool.or_eq_true,
            beq_iff_eq, not_or] at wide
          omega
      show count + 0 ≤ _
      omega
  | @low count after low count_eq after_eq =>
      have none : after.shape.saved = 0 := by rcases after_eq with rfl | rfl <;> rfl
      have one : 1 ≤ columns c + if isControl c then 1 else 0 := by
        cases printable : isControl c with
        | true =>
            rw [if_pos rfl]
            omega
        | false =>
            have one := columns_of_low low printable
            omega
      simp only [none]
      omega
  | alone high =>
      have printable : isControl c = false := by
        simp only [isControl, Bool.or_eq_false_iff, Bool.and_eq_false_iff,
          decide_eq_false_iff_not]
        omega
      have alone_eq : (Text.alone c).1 = columns c := by
        simp only [Text.alone, columns, printable, Bool.false_eq_true, if_false]
      have none : (Text.alone c).2.shape.saved = 0 := saved_shapeOf c
      omega
  | @passes after keeps _ _ =>
      have kept := saved_keeps keeps
      show 0 + after.shape.saved ≤ _
      omega
  | textVariant starts =>
      have some := columns_startsTextVariant starts
      show 1 + 0 ≤ _
      omega
  | @joins kept step high keeps found =>
      have taken := ligature_le found
      rcases keeps with same | plain
      · rw [same] at taken
        have grown : (if next.shape == .rightQuoteSelector && isCurlyQuote c then 1 else 0) ≤
            gain c next := by
          unfold gain
          cases next.shape == .rightQuoteSelector && isCurlyQuote c with
          | true => simp
          | false => exact Nat.zero_le _
        omega
      · rw [ligature, plain] at found
        cases found

theorem scan_le (text : List Char) : (scan text).1 + (scan text).2.shape.saved ≤
    extent columns text + text.countP isControl + widened text := by
  induction text with
  | nil => decide
  | cons c rest ih =>
      have step := (reads_widen c (scan rest).2).le
      obtain ⟨picture, quote⟩ := head?_of_scan rest
      have selected : gain c (scan rest).2 ≤ if rest.head?.any (widens c) then 1 else 0 := by
        unfold gain
        split
        · rename_i grows
          have widens : rest.head?.any (widens c) = true := by
            simp only [Bool.or_eq_true, Bool.and_eq_true, beq_iff_eq] at grows
            rcases grows with ⟨⟨selects, starts⟩, narrow⟩ | ⟨selects, curly⟩
            · simp [picture selects, widens, starts, narrow]
            · simp [quote selects, widens, curly]
          rw [widens]
          exact Nat.le_refl _
        · exact Nat.zero_le _
      rw [List.countP_cons, widened, extent_cons]
      show (scan rest).1 + (widen c (scan rest).2).1 + (widen c (scan rest).2).2.shape.saved ≤ _
      omega

/-- A text takes at most the columns of its characters, one for every control character, and one for
every character that a selector widens. -/
theorem measure_le (text : List Char) :
    measure text ≤ extent columns text + text.countP isControl + widened text := by
  have bound := scan_le text
  have held := saved_nonneg (scan text).2.shape
  rw [measure]
  omega

end Showcase.Text
