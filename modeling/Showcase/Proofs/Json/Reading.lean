import Showcase.Proofs.Json.Lexing

/-!
# Texts are read as the values that they spell

The reader takes the tokens of a value one after the other. `Took` says for every state of the reader
which tokens must have brought it there; so it ends with a value after the tokens of that value only.
The other way round the tokens of a value lead it through, whatever stands around them.
-/

namespace Showcase.Json

open Value (commaItems commaMembers)

namespace Reader

/-! ## What the reader has taken -/

/-- The tokens before a place where an item, a member or the value of a member may stand. -/
def before : List Frame → List Token
  | [] => []
  | .array items :: frames =>
      before frames ++ .openArray :: (commaItems items.reverse ++ [Token.comma]).tail
  | .object members :: frames =>
      before frames ++ .openObject :: (commaMembers members.reverse ++ [Token.comma]).tail
  | .member key members :: frames =>
      before frames ++
        .openObject :: (commaMembers members.reverse ++ [Token.comma, .string key, .colon]).tail

/-- The tokens before a place where the innermost container may be closed. -/
def beforeClose : List Frame → List Token
  | .array items :: frames => before frames ++ .openArray :: (commaItems items.reverse).tail
  | .object members :: frames => before frames ++ .openObject :: (commaMembers members.reverse).tail
  | _ => []

/-- The tokens that lead to a state of the reader. -/
inductive Took : Reader → List Token → Prop where
  | value (frames : List Frame) : Took (.reading .value frames) (before frames)
  | valueOrClose (frames : List Frame) :
      Took (.reading .valueOrClose (.array [] :: frames)) (before frames ++ [.openArray])
  | key (frames : List Frame) : Took (.reading .key frames) (before frames)
  | keyOrClose (frames : List Frame) :
      Took (.reading .keyOrClose (.object [] :: frames)) (before frames ++ [.openObject])
  | colon {frames : List Frame} {tokens : List Token} (next : tokens ++ [.colon] = before frames) :
      Took (.reading .colon frames) tokens
  | separator {frames : List Frame} {tokens : List Token}
      (next : tokens ++ [.comma] = before frames) : Took (.reading .separator frames) tokens
  | finished (value : Value) : Took (.finished value) value.tokens

variable {reader next : Reader} {value : Value} {frames : List Frame} {token : Token}
  {taken tokens : List Token}

theorem commaItems_append (first second : List Value) :
    commaItems (first ++ second) = commaItems first ++ commaItems second := by
  induction first with
  | nil => rfl
  | cons item first ih => simp [commaItems, ih]

theorem commaMembers_append (first second : List (List Nat × Value)) :
    commaMembers (first ++ second) = commaMembers first ++ commaMembers second := by
  induction first with
  | nil => rfl
  | cons member first ih => simp [commaMembers, ih]

theorem tail_comma (tokens extra more : List Token) :
    (tokens ++ Token.comma :: extra).tail ++ more =
      (tokens ++ .comma :: (extra ++ more)).tail := by
  cases tokens <;> simp

/-- A comma stands where something stands before it in the innermost container. -/
theorem before_separator {mark : Token} {start : List Token} (different : mark ≠ .comma)
    (next : taken ++ [.comma] = start ++ mark :: (tokens ++ [Token.comma]).tail) :
    taken = start ++ mark :: tokens.tail := by
  cases tokens with
  | nil =>
      have last := (List.append_inj_right' next rfl)
      exact absurd (List.cons.inj last).1.symm different
  | cons first tokens =>
      rw [List.cons_append, List.tail_cons, ← List.cons_append, ← List.append_assoc] at next
      rw [List.append_cancel_right next, List.tail_cons]

/-- A complete value brings the reader to where a separator stands. -/
theorem Took.give (given : give value frames = some next) :
    Took next (before frames ++ value.tokens) := by
  unfold Reader.give at given
  split at given <;> cases given
  · exact .finished value
  · refine .separator ?_
    simp only [before, List.reverse_cons, commaItems_append, commaItems, List.append_assoc,
      List.cons_append, List.nil_append]
    rw [tail_comma, List.nil_append]
  · refine .separator ?_
    simp only [before, List.reverse_cons, commaMembers_append, commaMembers, List.append_assoc,
      List.cons_append, List.nil_append]
    rw [tail_comma, List.cons_append, List.cons_append, List.nil_append]

theorem Took.takeValue (taking : takeValue token frames = some next) :
    Took next (before frames ++ [token]) := by
  unfold Reader.takeValue at taking
  split at taking
  · cases taking
    exact .valueOrClose frames
  · cases taking
    exact .keyOrClose frames
  · obtain ⟨value, scalar, given⟩ := Option.bind_eq_some_iff.mp taking
    have same : value.tokens = [token] := by
      unfold scalar? at scalar
      split at scalar <;> cases scalar <;> rfl
    exact same ▸ Took.give given

theorem Took.takeKey (taking : takeKey token frames = some next) :
    Took next (before frames ++ [token]) := by
  unfold Reader.takeKey at taking
  split at taking <;> cases taking
  refine .colon ?_
  simp only [before, List.append_assoc, List.cons_append, List.nil_append]
  rw [tail_comma, List.nil_append]

theorem Took.takeClose (closing : takeClose token frames = some next) :
    Took next (beforeClose frames ++ [token]) := by
  unfold Reader.takeClose at closing
  split at closing
  · have took := Took.give closing
    simpa [beforeClose, Value.tokens] using took
  · have took := Took.give closing
    simpa [beforeClose, Value.tokens] using took
  · cases closing

theorem Took.step (took : Took reader taken) (stepped : reader.step token = some next) :
    Took next (taken ++ [token]) := by
  cases took with
  | value frames => exact Took.takeValue stepped
  | valueOrClose frames =>
      rw [Reader.step] at stepped
      split at stepped
      · exact Took.takeClose stepped
      · exact Took.takeValue stepped
  | key frames => exact Took.takeKey stepped
  | keyOrClose frames =>
      rw [Reader.step] at stepped
      split at stepped
      · exact Took.takeClose stepped
      · exact Took.takeKey stepped
  | @colon frames _ follows =>
      rw [Reader.step] at stepped
      split at stepped
      · rename_i colon
        cases stepped
        obtain rfl : token = .colon := by simpa using colon
        exact follows ▸ Took.value frames
      · cases stepped
  | @separator frames _ follows =>
      unfold Reader.step at stepped
      dsimp only at stepped
      split at stepped
      · cases stepped
        exact follows ▸ Took.value _
      · cases stepped
        exact follows ▸ Took.key _
      · have closes := Took.takeClose stepped
        have same : taken = beforeClose frames := by
          unfold Reader.takeClose at stepped
          split at stepped
          · exact before_separator (by decide) follows
          · exact before_separator (by decide) follows
          · cases stepped
        exact same ▸ closes
  | finished value => cases stepped

theorem Took.foldlM (took : Took reader taken) (read : tokens.foldlM Reader.step reader = some next) :
    Took next (taken ++ tokens) := by
  induction tokens generalizing reader taken with
  | nil =>
      obtain rfl := Option.some.inj read
      rwa [List.append_nil]
  | cons token tokens ih =>
      obtain ⟨between, stepped, further⟩ := Option.bind_eq_some_iff.mp read
      have ended := ih (took.step stepped) further
      rwa [List.append_assoc] at ended

/-- What the reader ends with is made up of the tokens that it took. -/
theorem tokens_of_finished
    (read : tokens.foldlM Reader.step (.reading .value []) = some (.finished value)) :
    tokens = value.tokens := by
  have took : Took (.finished value) ([] ++ tokens) := (Took.value []).foldlM read
  cases took
  rfl

/-! ## What the reader has to take -/

theorem tokens_eq_cons (value : Value) :
    ∃ first others, value.tokens = first :: others ∧ first ≠ .closeArray := by
  cases value with
  | null | bool | number | string => exact ⟨_, [], rfl, by simp⟩
  | array | object => exact ⟨_, _, rfl, by simp⟩

/-- Where an array begins, its first item may stand. -/
theorem foldlM_valueOrClose (value : Value) (frames : List Frame) (rest : List Token) :
    (value.tokens ++ rest).foldlM Reader.step (.reading .valueOrClose frames) =
      (value.tokens ++ rest).foldlM Reader.step (.reading .value frames) := by
  obtain ⟨first, others, shape, different⟩ := tokens_eq_cons value
  rw [shape]
  simp [Reader.step, different]

mutual

/-- The tokens of a value give that value. -/
theorem foldlM_tokens (value : Value) (frames : List Frame) (rest : List Token) :
    (value.tokens ++ rest).foldlM Reader.step (.reading .value frames) =
      (Reader.give value frames).bind fun reader => rest.foldlM Reader.step reader := by
  cases value with
  | null | bool | number | string => rfl
  | array items =>
      cases items with
      | nil => rfl
      | cons item items =>
          have first := foldlM_tokens item (.array [] :: frames)
            (commaItems items ++ .closeArray :: rest)
          have further := foldlM_items items [item] frames rest
          have shape : (Value.array (item :: items)).tokens ++ rest =
              .openArray :: (item.tokens ++ (commaItems items ++ .closeArray :: rest)) := by
            simp [Value.tokens, commaItems]
          rw [shape, List.foldlM_cons]
          exact (foldlM_valueOrClose item _ _).trans (first.trans further)
  | object members =>
      rcases members with _ | ⟨⟨key, value⟩, members⟩
      · rfl
      · have first := foldlM_tokens value (.member key [] :: frames)
          (commaMembers members ++ .closeObject :: rest)
        have further := foldlM_members members [(key, value)] frames rest
        have shape : (Value.object ((key, value) :: members)).tokens ++ rest =
            .openObject :: .string key :: .colon ::
              (value.tokens ++ (commaMembers members ++ .closeObject :: rest)) := by
          simp [Value.tokens, commaMembers]
        rw [shape, List.foldlM_cons]
        exact first.trans further

theorem foldlM_items (items taken : List Value) (frames : List Frame) (rest : List Token) :
    (commaItems items ++ .closeArray :: rest).foldlM Reader.step
        (.reading .separator (.array taken :: frames)) =
      (Reader.give (.array (taken.reverse ++ items)) frames).bind fun reader =>
        rest.foldlM Reader.step reader := by
  cases items with
  | nil =>
      rw [List.append_nil]
      rfl
  | cons item items =>
      have first := foldlM_tokens item (.array taken :: frames)
        (commaItems items ++ .closeArray :: rest)
      have further := foldlM_items items (item :: taken) frames rest
      rw [List.reverse_cons, List.append_assoc] at further
      rw [commaItems, List.cons_append, List.append_assoc, List.foldlM_cons]
      exact first.trans further

theorem foldlM_members (members taken : List (List Nat × Value)) (frames : List Frame)
    (rest : List Token) :
    (commaMembers members ++ .closeObject :: rest).foldlM Reader.step
        (.reading .separator (.object taken :: frames)) =
      (Reader.give (.object (taken.reverse ++ members)) frames).bind fun reader =>
        rest.foldlM Reader.step reader := by
  rcases members with _ | ⟨⟨key, value⟩, members⟩
  · rw [List.append_nil]
    rfl
  · have first := foldlM_tokens value (.member key taken :: frames)
      (commaMembers members ++ .closeObject :: rest)
    have further := foldlM_members members ((key, value) :: taken) frames rest
    rw [List.reverse_cons, List.append_assoc] at further
    rw [commaMembers, List.cons_append, List.cons_append, List.cons_append, List.append_assoc,
      List.foldlM_cons]
    exact first.trans further

end

theorem takeKey_of_openEnded (openEnded : token.isOpenEnded = true) (frames : List Frame) :
    Reader.takeKey token frames = none := by
  cases token with
  | null | bool | number => rfl
  | openArray | closeArray | openObject | closeObject | comma | colon | string => cases openEnded

theorem takeClose_of_openEnded (openEnded : token.isOpenEnded = true) (frames : List Frame) :
    Reader.takeClose token frames = none := by
  cases token with
  | null | bool | number => rfl
  | openArray | closeArray | openObject | closeObject | comma | colon | string => cases openEnded

/-- The reader waits for a separator, if anything. -/
def AfterValue : Reader → Prop
  | .finished _ => True
  | .reading expecting _ => expecting = .separator

theorem AfterValue.takeValue (openEnded : token.isOpenEnded = true)
    (taking : Reader.takeValue token frames = some next) : AfterValue next := by
  unfold Reader.takeValue at taking
  split at taking
  · cases openEnded
  · cases openEnded
  · obtain ⟨value, scalar, given⟩ := Option.bind_eq_some_iff.mp taking
    unfold Reader.give at given
    split at given <;> cases given
    · trivial
    · rfl
    · rfl

/-- A number or a word is taken where a value may stand. -/
theorem AfterValue.step (openEnded : token.isOpenEnded = true)
    (stepped : reader.step token = some next) : AfterValue next := by
  cases reader with
  | finished => cases stepped
  | reading expecting frames =>
      cases expecting with
      | value => exact AfterValue.takeValue openEnded stepped
      | valueOrClose =>
          rw [Reader.step, takeClose_of_openEnded openEnded] at stepped
          split at stepped
          · cases stepped
          · exact AfterValue.takeValue openEnded stepped
      | key =>
          rw [Reader.step, takeKey_of_openEnded openEnded] at stepped
          cases stepped
      | keyOrClose =>
          rw [Reader.step, takeClose_of_openEnded openEnded, takeKey_of_openEnded openEnded]
            at stepped
          split at stepped <;> cases stepped
      | colon =>
          rw [Reader.step] at stepped
          split at stepped
          · cases stepped
            rename_i colon
            obtain rfl : token = .colon := by simpa using colon
            cases openEnded
          · cases stepped
      | separator =>
          unfold Reader.step at stepped
          dsimp only at stepped
          split at stepped
          · cases openEnded
          · cases openEnded
          · rw [takeClose_of_openEnded openEnded] at stepped
            cases stepped

/-- What comes after a value is no number or word. -/
theorem AfterValue.closed (after : AfterValue reader) (stepped : reader.step token = some next) :
    token.isOpenEnded = false := by
  by_contra openEnded
  have openEnded := Bool.of_not_eq_false openEnded
  cases reader with
  | finished => cases stepped
  | reading expecting frames =>
      obtain rfl : expecting = .separator := after
      unfold Reader.step at stepped
      dsimp only at stepped
      split at stepped
      · cases openEnded
      · cases openEnded
      · rw [takeClose_of_openEnded openEnded] at stepped
        cases stepped

/-- The reader takes no two tokens that could be taken for one. -/
theorem apart_of_foldlM (read : tokens.foldlM Reader.step reader = some next) :
    tokens.IsChain Token.Apart := by
  induction tokens generalizing reader with
  | nil => exact .nil
  | cons first tokens ih =>
      obtain ⟨between, stepped, further⟩ := Option.bind_eq_some_iff.mp read
      have rest := ih further
      cases tokens with
      | nil => exact .singleton first
      | cons second tokens =>
          obtain ⟨later, taken, -⟩ := Option.bind_eq_some_iff.mp further
          refine List.isChain_cons_cons.mpr ⟨fun openEnded => ?_, rest⟩
          exact (AfterValue.step openEnded stepped).closed taken

theorem foldlM_tokens_eq (value : Value) :
    value.tokens.foldlM Reader.step (.reading .value []) = some (.finished value) := by
  have read := foldlM_tokens value [] []
  rw [List.append_nil] at read
  exact read

end Reader

/-- A text is read as a value exactly if it spells that value. -/
theorem parse?_eq_some_iff {text : String} {value : Value} :
    parse? text = some value ↔ Writes text value := by
  constructor
  · intro read
    obtain ⟨tokens, found, read⟩ := Option.bind_eq_some_iff.mp read
    obtain ⟨reader, taken, given⟩ := Option.bind_eq_some_iff.mp read
    cases reader with
    | reading => cases given
    | finished ended =>
        obtain rfl := Option.some.inj given
        obtain rfl := Reader.tokens_of_finished taken
        exact lexed_of_tokensFrom .between found
  · intro written
    have read := Reader.foldlM_tokens_eq value
    have found := tokens?_of_lexed written (Reader.apart_of_foldlM read)
    simp [parse?, found, read]

/-- A text spells at most one value. -/
theorem Writes.unique {text : String} {first second : Value} (one : Writes text first)
    (other : Writes text second) : first = second := by
  have read := parse?_eq_some_iff.mpr one
  rw [parse?_eq_some_iff.mpr other] at read
  exact (Option.some.inj read).symm

end Showcase.Json
