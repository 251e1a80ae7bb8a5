import Mathlib.Data.List.Chain
import Showcase.Proofs.Json.Numbers

/-!
# Texts are cut into the tokens that they spell

The scanner goes through a text character by character and the grammar token by token. `Opened` joins
the two: it says what the characters of a token that is still open must have been. The other way
round, a number or a word ends only where what follows cannot belong to it, so the scanner finds the
tokens of a text again where no two such tokens follow each other.
-/

namespace Showcase.Json

/-- The characters of the token that is open. -/
inductive Opened : Scanner → List Char → Prop where
  | between : Opened .between []
  | number (taken : List Char) : Opened (.number taken) taken.reverse
  | word (taken : List Char) : Opened (.word taken) taken.reverse
  | string {chars : List Char} {taken : List Nat} (spelled : Characters chars taken.reverse) :
      Opened (.string taken) ('"' :: chars)
  | escape {chars : List Char} {taken : List Nat} (spelled : Characters chars taken.reverse) :
      Opened (.escape taken) ('"' :: (chars ++ ['\\']))
  | hex {chars digits : List Char} {taken : List Nat} {code missing : Nat}
      (spelled : Characters chars taken.reverse) (four : digits.length + missing = 4)
      (waiting : 0 < missing) (value : hexValue? digits = some code) :
      Opened (.hex taken code missing) ('"' :: (chars ++ '\\' :: 'u' :: digits))

/-- A character belongs to the token that is open: the token goes on or is complete. -/
inductive Taken (chars : List Char) (c : Char) : Scanner → List Token → Prop where
  | goesOn {next : Scanner} (opened : Opened next (chars ++ [c])) : Taken chars c next []
  | ends {token : Token} (spelled : Spells (chars ++ [c]) token) : Taken chars c .between [token]

variable {chars rest more digits : List Char} {codes further : List Nat} {c : Char} {token : Token}
  {tokens : List Token}

/-! ## Strings -/

theorem Characters.append (first : Characters chars codes) (second : Characters more further) :
    Characters (chars ++ more) (codes ++ further) := by
  induction first with
  | nil => exact second
  | plain unquoted unescaped printed _ ih => exact .plain unquoted unescaped printed ih
  | letter named _ ih => exact .letter named ih
  | hex four spelled _ ih =>
      simp only [List.cons_append, List.append_assoc]
      exact .hex four spelled ih

theorem hexValue?_concat (digits : List Char) (c : Char) :
    hexValue? (digits ++ [c]) =
      (hexValue? digits).bind fun code => (hexDigit? c).map (code * 16 + ·) := by
  simp only [hexValue?, List.foldlM_append, List.foldlM_cons, List.foldlM_nil]
  cases digits.foldlM (fun code c => (hexDigit? c).map (code * 16 + ·)) 0 with
  | none => rfl
  | some code => cases hexDigit? c <;> rfl

/-! ## What the scanner finds -/

theorem Lexed.cons_blank (blank : isSpace c = true) (lexed : Lexed rest tokens) :
    Lexed (c :: rest) tokens := by
  cases lexed with
  | blank all => exact .blank (List.forall_mem_cons.mpr ⟨blank, all⟩)
  | @token blanks _ _ _ _ all spelled further =>
      exact @Lexed.token (c :: blanks) _ _ _ _ (List.forall_mem_cons.mpr ⟨blank, all⟩) spelled further

theorem Lexed.cons_token (spelled : Spells chars token) (lexed : Lexed rest tokens) :
    Lexed (chars ++ rest) (token :: tokens) :=
  @Lexed.token [] _ _ _ _ (List.forall_mem_nil _) spelled lexed

/-- The end of the text completes the open token. -/
theorem lexed_of_finish {scanner : Scanner} (opened : Opened scanner chars)
    (finished : scanner.finish = some tokens) : Lexed chars tokens := by
  have alone {token : Token} (spelled : Spells chars token) : Lexed chars [token] := by
    have lexed := Lexed.cons_token spelled (.blank (List.forall_mem_nil _))
    rwa [List.append_nil] at lexed
  cases opened with
  | between =>
      cases finished
      exact .blank (List.forall_mem_nil _)
  | number taken =>
      obtain ⟨number, read, rfl⟩ := Option.map_eq_some_iff.mp finished
      exact alone (.number (numberText_of_ofChars? read))
  | word taken =>
      obtain ⟨token, read, rfl⟩ := Option.map_eq_some_iff.mp finished
      exact alone (.word read)
  | string | escape | hex => cases finished

theorem tokensFrom_cons {scanner : Scanner} (read : tokensFrom scanner (c :: rest) = some tokens) :
    ∃ next here later, scanner.step c = some (next, here) ∧ tokensFrom next rest = some later ∧
      tokens = here ++ later := by
  obtain ⟨⟨next, here⟩, stepped, read⟩ := Option.bind_eq_some_iff.mp read
  obtain ⟨later, further, made⟩ := Option.bind_eq_some_iff.mp read
  exact ⟨next, here, later, stepped, further, (Option.some.inj made).symm⟩

/-- A character completes the open token and opens the next one, or is one. -/
theorem close_eq_some {next : Scanner} {here : List Token} {closed : Option Token}
    (stepped : Scanner.close closed c = some (next, here)) :
    ∃ token opened, closed = some token ∧ Scanner.start c = some (next, opened) ∧
      here = token :: opened := by
  obtain ⟨token, given, stepped⟩ := Option.bind_eq_some_iff.mp stepped
  obtain ⟨⟨scanner, opened⟩, started, made⟩ := Option.bind_eq_some_iff.mp stepped
  cases made
  exact ⟨token, opened, given, started, rfl⟩

/-- A character between tokens is white space, opens a token or is one. -/
theorem taken_of_start {next : Scanner} {here : List Token}
    (starts : Scanner.start c = some (next, here)) :
    (isSpace c = true ∧ next = .between ∧ here = []) ∨ Taken [] c next here := by
  unfold Scanner.start at starts
  split at starts
  · rename_i blank
    cases starts
    exact .inl ⟨blank, rfl, rfl⟩
  · right
    split at starts
    · rename_i quote
      cases starts
      obtain rfl : c = '"' := by simpa using quote
      exact .goesOn (.string .nil)
    · split at starts
      · cases starts
        exact .goesOn (.number [c])
      · split at starts
        · cases starts
          exact .goesOn (.word [c])
        · obtain ⟨token, marks, made⟩ := Option.map_eq_some_iff.mp starts
          cases made
          exact .ends (.mark marks)

theorem taken_of_string {taken : List Nat} {next : Scanner} {here : List Token}
    (spelled : Characters chars taken.reverse)
    (stepped : (Scanner.string taken).step c = some (next, here)) :
    Taken ('"' :: chars) c next here := by
  rw [Scanner.step] at stepped
  split at stepped
  · rename_i quote
    cases stepped
    obtain rfl : c = '"' := by simpa using quote
    exact .ends (.string spelled)
  · rename_i unquoted
    split at stepped
    · rename_i escape
      cases stepped
      obtain rfl : c = '\\' := by simpa using escape
      exact .goesOn (.escape spelled)
    · rename_i unescaped
      split at stepped
      · cases stepped
      · rename_i printed
        cases stepped
        refine .goesOn (.string ?_)
        rw [List.reverse_cons]
        exact spelled.append (.plain (by simpa using unquoted) (by simpa using unescaped)
          (Nat.le_of_not_lt printed) .nil)

theorem taken_of_escape {taken : List Nat} {next : Scanner} {here : List Token}
    (spelled : Characters chars taken.reverse)
    (stepped : (Scanner.escape taken).step c = some (next, here)) :
    Taken ('"' :: (chars ++ ['\\'])) c next here := by
  rw [Scanner.step] at stepped
  split at stepped
  · rename_i unicode
    cases stepped
    obtain rfl : c = 'u' := by simpa using unicode
    refine .goesOn ?_
    simp only [List.cons_append, List.append_assoc, List.nil_append]
    exact .hex spelled rfl (by decide) rfl
  · obtain ⟨code, named, made⟩ := Option.map_eq_some_iff.mp stepped
    cases made
    refine .goesOn ?_
    simp only [List.cons_append, List.append_assoc, List.nil_append]
    refine .string ?_
    rw [List.reverse_cons]
    exact spelled.append (.letter named .nil)

theorem taken_of_hex {taken : List Nat} {code missing : Nat} {next : Scanner} {here : List Token}
    (spelled : Characters chars taken.reverse) (four : digits.length + missing = 4)
    (waiting : 0 < missing) (value : hexValue? digits = some code)
    (stepped : (Scanner.hex taken code missing).step c = some (next, here)) :
    Taken ('"' :: (chars ++ '\\' :: 'u' :: digits)) c next here := by
  obtain ⟨digit, hexadecimal, made⟩ := Option.map_eq_some_iff.mp stepped
  have longer : hexValue? (digits ++ [c]) = some (code * 16 + digit) := by
    simp [hexValue?_concat, value, hexadecimal]
  have length : (digits ++ [c]).length = digits.length + 1 := by simp
  dsimp only at made
  split at made
  · rename_i last
    cases made
    refine .goesOn ?_
    simp only [List.cons_append, List.append_assoc]
    refine .string ?_
    rw [List.reverse_cons]
    have written := spelled.append (.hex (by omega) longer .nil)
    rwa [List.append_nil] at written
  · cases made
    refine .goesOn ?_
    simp only [List.cons_append, List.append_assoc]
    exact .hex spelled (by omega) (by omega) longer

/-- A character belongs to the open token, or it comes after a token, or none was open. -/
theorem Opened.taken {scanner next : Scanner} {here : List Token} (opened : Opened scanner chars)
    (stepped : scanner.step c = some (next, here)) :
    Taken chars c next here ∨ (chars = [] ∧ Scanner.start c = some (next, here)) ∨
      ∃ token others, Spells chars token ∧ Scanner.start c = some (next, others) ∧
        here = token :: others := by
  cases opened with
  | between => exact .inr (.inl ⟨rfl, stepped⟩)
  | number taken =>
      rw [Scanner.step] at stepped
      split at stepped
      · cases stepped
        refine .inl (.goesOn ?_)
        rw [← List.reverse_cons]
        exact .number (c :: taken)
      · obtain ⟨token, opened, closed, starts, rfl⟩ := close_eq_some stepped
        obtain ⟨number, spelled, rfl⟩ := Option.map_eq_some_iff.mp closed
        exact .inr (.inr ⟨_, _, .number (numberText_of_ofChars? spelled), starts, rfl⟩)
  | word taken =>
      rw [Scanner.step] at stepped
      split at stepped
      · cases stepped
        refine .inl (.goesOn ?_)
        rw [← List.reverse_cons]
        exact .word (c :: taken)
      · obtain ⟨token, opened, closed, starts, rfl⟩ := close_eq_some stepped
        exact .inr (.inr ⟨_, _, .word closed, starts, rfl⟩)
  | string spelled => exact .inl (taken_of_string spelled stepped)
  | escape spelled => exact .inl (taken_of_escape spelled stepped)
  | hex spelled four waiting value => exact .inl (taken_of_hex spelled four waiting value stepped)

/-- The tokens that the scanner finds are those that the text spells. -/
theorem lexed_of_tokensFrom {scanner : Scanner} (opened : Opened scanner chars)
    (read : tokensFrom scanner rest = some tokens) : Lexed (chars ++ rest) tokens := by
  induction rest generalizing scanner chars tokens with
  | nil =>
      rw [List.append_nil]
      exact lexed_of_finish opened read
  | cons c rest ih =>
      obtain ⟨next, here, later, stepped, further, rfl⟩ := tokensFrom_cons read
      have starting {here : List Token} (starts : Scanner.start c = some (next, here)) :
          Lexed (c :: rest) (here ++ later) := by
        rcases taken_of_start starts with ⟨blank, rfl, rfl⟩ | taken
        · exact (ih .between further).cons_blank blank
        · cases taken with
          | goesOn opened => exact ih opened further
          | ends spelled => exact (ih .between further).cons_token spelled
      rcases opened.taken stepped with taken | ⟨rfl, starts⟩ | ⟨token, others, spelled, starts, rfl⟩
      · cases taken with
        | goesOn opened =>
            have lexed := ih opened further
            rwa [List.append_assoc] at lexed
        | ends spelled =>
            have lexed := (ih .between further).cons_token spelled
            rwa [List.append_assoc] at lexed
      · exact starting starts
      · exact (starting starts).cons_token spelled

/-! ## What the scanner has to find -/

/-- A token whose end shows only in what follows it. -/
def Token.isOpenEnded : Token → Bool
  | .null | .bool _ | .number _ => true
  | _ => false

/-- Of two tokens that stand side by side, one shows where it ends or begins. -/
def Token.Apart (first second : Token) : Prop :=
  first.isOpenEnded = true → second.isOpenEnded = false

theorem tokensFrom_eq (scanner : Scanner) (c : Char) (rest : List Char) :
    tokensFrom scanner (c :: rest) =
      (scanner.step c).bind fun (next, here) => (tokensFrom next rest).map (here ++ ·) := by
  rw [tokensFrom]
  simp only [Option.bind_eq_bind, Option.map_eq_bind]
  rfl

theorem tokensFrom_start {next : Scanner} (starts : Scanner.start c = some (next, [])) :
    tokensFrom .between (c :: rest) = tokensFrom next rest := by
  rw [tokensFrom_eq, Scanner.step, starts, Option.bind_some]
  simp

theorem tokensFrom_step {scanner next : Scanner} (stepped : scanner.step c = some (next, [])) :
    tokensFrom scanner (c :: rest) = tokensFrom next rest := by
  rw [tokensFrom_eq, stepped, Option.bind_some]
  simp

theorem tokensFrom_token {scanner : Scanner} (stepped : scanner.step c = some (.between, [token])) :
    tokensFrom scanner (c :: rest) = (tokensFrom .between rest).map (token :: ·) := by
  rw [tokensFrom_eq, stepped, Option.bind_some]
  rfl

/-- A token of one kind of characters goes on as long as they come. -/
theorem tokensFrom_run (scanner : List Char → Scanner) (token? : List Char → Option Token)
    {inside : Char → Bool}
    (stays : ∀ taken c, inside c = true → (scanner taken).step c = some (scanner (c :: taken), []))
    (leaves : ∀ taken c, inside c = false →
      (scanner taken).step c = Scanner.close (token? taken.reverse) c)
    (ends : ∀ taken, (scanner taken).finish = (token? taken.reverse).map fun token => [token])
    {taken : List Char} (within : ∀ c ∈ more, inside c = true)
    (after : ∀ c, rest.head? = some c → inside c = false)
    (complete : token? (taken.reverse ++ more) = some token) :
    tokensFrom (scanner taken) (more ++ rest) = (tokensFrom .between rest).map (token :: ·) := by
  induction more generalizing taken with
  | nil =>
      rw [List.append_nil] at complete
      rw [List.nil_append]
      cases rest with
      | nil =>
          rw [tokensFrom, ends, complete]
          rfl
      | cons c rest =>
          rw [tokensFrom_eq, leaves taken c (after c rfl), complete, tokensFrom_eq, Scanner.step]
          cases starts : Scanner.start c with
          | none => simp [Scanner.close, starts]
          | some started => simp [Scanner.close, starts, Function.comp_def]
  | cons c more ih =>
      obtain ⟨first, others⟩ := List.forall_mem_cons.mp within
      rw [List.cons_append, tokensFrom_step (stays taken c first)]
      refine ih others ?_
      rwa [List.reverse_cons, List.append_assoc]

theorem tokensFrom_hex {taken : List Nat} {code value missing : Nat}
    (length : digits.length = missing) (waiting : 0 < missing)
    (spelled : digits.foldlM (fun code c => (hexDigit? c).map (code * 16 + ·)) code = some value) :
    tokensFrom (.hex taken code missing) (digits ++ rest) =
      tokensFrom (.string (value :: taken)) rest := by
  induction digits generalizing code missing with
  | nil =>
      rw [← length] at waiting
      cases waiting
  | cons c digits ih =>
      rw [List.foldlM_cons] at spelled
      obtain ⟨next, first, others⟩ := Option.bind_eq_some_iff.mp spelled
      obtain ⟨digit, hexadecimal, rfl⟩ := Option.map_eq_some_iff.mp first
      rw [List.length_cons] at length
      rw [List.cons_append]
      by_cases last : missing ≤ 1
      · obtain rfl : digits = [] := List.length_eq_zero_iff.mp (by omega)
        obtain rfl := Option.some.inj others
        refine tokensFrom_step ?_
        simp [Scanner.step, hexadecimal, last]
      · have stepped : (Scanner.hex taken code missing).step c =
            some (.hex taken (code * 16 + digit) (missing - 1), []) := by
          simp [Scanner.step, hexadecimal, last]
        rw [tokensFrom_step stepped]
        exact ih (by omega) (by omega) others

theorem tokensFrom_string {taken : List Nat} (spelled : Characters chars codes) :
    tokensFrom (.string taken) (chars ++ '"' :: rest) =
      (tokensFrom .between rest).map (.string (taken.reverse ++ codes) :: ·) := by
  induction spelled generalizing taken with
  | nil =>
      rw [List.append_nil]
      exact tokensFrom_token rfl
  | @plain c chars codes unquoted unescaped printed _ ih =>
      have stepped : (Scanner.string taken).step c = some (.string (c.toNat :: taken), []) := by
        simp [Scanner.step, unquoted, unescaped, printed]
      rw [List.cons_append, tokensFrom_step stepped, ih, List.reverse_cons, List.append_assoc]
      rfl
  | @letter letter chars code codes named _ ih =>
      have single : letter ≠ 'u' := by
        rintro rfl
        cases named
      have stepped : (Scanner.escape taken).step letter = some (.string (code :: taken), []) := by
        simp [Scanner.step, single, named]
      rw [List.cons_append, tokensFrom_step rfl, List.cons_append, tokensFrom_step stepped, ih,
        List.reverse_cons, List.append_assoc]
      rfl
  | @hex digits chars code codes four value _ ih =>
      rw [List.cons_append, tokensFrom_step rfl, List.cons_append, tokensFrom_step rfl,
        List.append_assoc, tokensFrom_hex four (by decide) value, ih, List.reverse_cons,
        List.append_assoc]
      rfl

/-! ## Where tokens begin and end -/

/-- The character belongs to no number and to no word. -/
def Delimits (c : Char) : Prop := Scanner.isNumberChar c = false ∧ c.isLower = false

theorem delimits_of_isSpace (blank : isSpace c = true) : Delimits c := by
  simp only [isSpace, Bool.or_eq_true, beq_iff_eq] at blank
  rcases blank with ((rfl | rfl) | rfl) | rfl <;> exact ⟨rfl, rfl⟩

theorem start_of_isSpace (blank : isSpace c = true) :
    Scanner.start c = some (.between, []) := by
  rw [Scanner.start, if_pos blank]

theorem start_of_punctuation (marks : punctuation? c = some token) :
    Delimits c ∧ Scanner.start c = some (.between, [token]) := by
  unfold punctuation? at marks
  split at marks <;> cases marks
  all_goals exact ⟨⟨rfl, rfl⟩, rfl⟩

theorem start_of_word (word : word? chars = some token) :
    ∃ c more, chars = c :: more ∧ Scanner.start c = some (.word [c], []) ∧
      ∀ c ∈ more, c.isLower = true := by
  unfold word? at word
  split at word <;> cases word
  all_goals exact ⟨_, _, rfl, rfl, List.all_eq_true.mp rfl⟩

theorem not_isSpace_of_isDigit (digit : c.isDigit = true) : isSpace c = false ∧ c ≠ '"' := by
  constructor
  · by_contra blank
    have delimits := delimits_of_isSpace (Bool.of_not_eq_false blank)
    simp [Delimits, Scanner.isNumberChar, digit] at delimits
  · rintro rfl
    cases digit

theorem start_of_isDigit (digit : c.isDigit = true) :
    Scanner.start c = some (.number [c], []) := by
  obtain ⟨visible, unquoted⟩ := not_isSpace_of_isDigit digit
  simp [Scanner.start, visible, unquoted, digit]

theorem isNumberChar_of_isDigit (digit : c.isDigit = true) : Scanner.isNumberChar c = true := by
  simp [Scanner.isNumberChar, digit]

theorem isNumberChar_of_isDigits (isDigits : IsDigits digits) :
    ∀ c ∈ digits, Scanner.isNumberChar c = true :=
  fun c member => isNumberChar_of_isDigit (isDigits.2 c member)

theorem isNumberChar_of_isFraction (isFraction : IsFraction chars digits) :
    ∀ c ∈ chars, Scanner.isNumberChar c = true := by
  cases isFraction with
  | missing => exact List.forall_mem_nil _
  | digits isDigits =>
      exact List.forall_mem_cons.mpr ⟨rfl, isNumberChar_of_isDigits isDigits⟩

theorem isNumberChar_of_isExponent {scale : Int} (isExponent : IsExponent chars scale) :
    ∀ c ∈ chars, Scanner.isNumberChar c = true := by
  have marking {mark : Char} (marks : mark = 'e' ∨ mark = 'E') :
      Scanner.isNumberChar mark = true := by
    rcases marks with rfl | rfl <;> rfl
  cases isExponent with
  | missing => exact List.forall_mem_nil _
  | raised marks signs isDigits =>
      refine List.forall_mem_cons.mpr ⟨marking marks, List.forall_mem_append.mpr
        ⟨?_, isNumberChar_of_isDigits isDigits⟩⟩
      rcases signs with rfl | rfl <;> exact List.all_eq_true.mp rfl
  | lowered marks isDigits =>
      exact List.forall_mem_cons.mpr ⟨marking marks, List.forall_mem_cons.mpr
        ⟨rfl, isNumberChar_of_isDigits isDigits⟩⟩

/-- A number without a sign begins with a digit. -/
theorem exists_digit_of_unsignedText {significand : Nat} {power : Int}
    (spelled : UnsignedText chars significand power) :
    ∃ c more, chars = c :: more ∧ c.isDigit = true ∧
      ∀ c ∈ more, Scanner.isNumberChar c = true := by
  cases spelled with
  | @parts whole _ _ _ _ _ _ _ _ isWhole isFraction isExponent =>
      obtain ⟨c, more, rfl, first, further⟩ := isWhole.1.exists_cons
      have later := List.forall_mem_append.mpr
        ⟨isNumberChar_of_isFraction isFraction, isNumberChar_of_isExponent isExponent⟩
      refine ⟨c, _, rfl, first, List.forall_mem_append.mpr ⟨?_, later⟩⟩
      exact fun c member => isNumberChar_of_isDigit (further c member)

/-- A number begins with a digit or a sign and has no character that belongs to no number. -/
theorem start_of_number {number : Number} (spelled : NumberText chars number) :
    ∃ c more, chars = c :: more ∧ Scanner.start c = some (.number [c], []) ∧
      ∀ c ∈ more, Scanner.isNumberChar c = true := by
  cases spelled with
  | natural whole fits =>
      obtain ⟨c, more, rfl, first, further⟩ := whole.1.exists_cons
      exact ⟨c, more, rfl, start_of_isDigit first,
        fun c member => isNumberChar_of_isDigit (further c member)⟩
  | negative whole positive fits =>
      exact ⟨'-', _, rfl, rfl, isNumberChar_of_isDigits whole.1⟩
  | decimal spelled unfit =>
      obtain ⟨c, more, rfl, first, within⟩ := exists_digit_of_unsignedText spelled
      exact ⟨c, more, rfl, start_of_isDigit first, within⟩
  | negativeDecimal spelled unfit =>
      obtain ⟨c, more, rfl, first, within⟩ := exists_digit_of_unsignedText spelled
      exact ⟨'-', _, rfl, rfl, List.forall_mem_cons.mpr ⟨isNumberChar_of_isDigit first, within⟩⟩

/-- Nothing that follows a number or a word belongs to it. -/
theorem Lexed.delimits (lexed : Lexed chars tokens)
    (apart : ∀ token, tokens.head? = some token → token.isOpenEnded = false) :
    ∀ c, chars.head? = some c → Delimits c := by
  intro c first
  cases lexed with
  | blank all => exact delimits_of_isSpace (all c (List.mem_of_mem_head? first))
  | @token blanks _ _ _ _ all spelled further =>
      cases blanks with
      | cons blank blanks =>
          obtain rfl := Option.some.inj first
          exact delimits_of_isSpace (all blank List.mem_cons_self)
      | nil =>
          have closed := apart _ rfl
          cases spelled with
          | mark marks =>
              obtain rfl := Option.some.inj first
              exact (start_of_punctuation marks).1
          | word word =>
              unfold word? at word
              split at word <;> cases word <;> cases closed
          | number => cases closed
          | string =>
              obtain rfl := Option.some.inj first
              exact ⟨rfl, rfl⟩

/-- The scanner passes over white space. -/
theorem tokensFrom_blank {blanks : List Char} (blank : IsBlank blanks) :
    tokensFrom .between (blanks ++ rest) = tokensFrom .between rest := by
  induction blanks with
  | nil => rfl
  | cons c blanks ih =>
      obtain ⟨first, further⟩ := List.forall_mem_cons.mp blank
      rw [List.cons_append, tokensFrom_start (start_of_isSpace first)]
      exact ih further

theorem tokensFrom_spelled (spelled : Spells chars token)
    (delimited : token.isOpenEnded = true → ∀ c, rest.head? = some c → Delimits c) :
    tokensFrom .between (chars ++ rest) = (tokensFrom .between rest).map (token :: ·) := by
  cases spelled with
  | mark marks => exact tokensFrom_token (start_of_punctuation marks).2
  | word word =>
      have openEnded : token.isOpenEnded = true := by
        unfold word? at word
        split at word <;> cases word <;> rfl
      obtain ⟨c, more, rfl, starts, within⟩ := start_of_word word
      rw [List.cons_append, tokensFrom_start starts]
      refine tokensFrom_run .word word? ?_ ?_ ?_ within ?_ word
      · intro taken c inside
        simp [Scanner.step, inside]
      · intro taken c outside
        simp [Scanner.step, outside]
      · exact fun taken => rfl
      · exact fun c first => (delimited openEnded c first).2
  | number spelled =>
      obtain ⟨c, more, rfl, starts, within⟩ := start_of_number spelled
      have read : (Number.ofChars? (c :: more)).map Token.number = some (.number _) :=
        congrArg (Option.map Token.number) (ofChars?_of_numberText spelled)
      rw [List.cons_append, tokensFrom_start starts]
      refine tokensFrom_run .number (fun taken => (Number.ofChars? taken).map .number)
        ?_ ?_ ?_ within ?_ read
      · intro taken c inside
        simp [Scanner.step, inside]
      · intro taken c outside
        simp [Scanner.step, outside]
      · intro taken
        simp [Scanner.finish, Function.comp_def]
      · exact fun c first => (delimited rfl c first).1

  | string spelled =>
      rw [List.cons_append, tokensFrom_step rfl, List.append_assoc]
      exact tokensFrom_string spelled

/-- The scanner finds the tokens that a text spells, where no two of them could be taken for one. -/
theorem tokens?_of_lexed (lexed : Lexed chars tokens) (apart : tokens.IsChain Token.Apart) :
    tokens? chars = some tokens := by
  rw [tokens?]
  induction lexed with
  | @blank chars blank =>
      have passed : tokensFrom .between (chars ++ []) = tokensFrom .between [] :=
        tokensFrom_blank blank
      rwa [List.append_nil] at passed
  | @token blanks chars rest token tokens blank spelled further ih =>
      rw [tokensFrom_blank blank, tokensFrom_spelled spelled, ih apart.tail]
      · rfl
      · intro openEnded
        refine further.delimits ?_
        intro next first
        cases tokens with
        | nil => cases first
        | cons other tokens =>
            obtain rfl := Option.some.inj first
            exact (List.isChain_cons_cons.mp apart).1 openEnded

end Showcase.Json
