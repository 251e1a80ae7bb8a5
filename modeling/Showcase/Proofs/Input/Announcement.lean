import Mathlib.Data.List.Perm.Basic
import Mathlib.Tactic.IntervalCases
import Showcase.Proofs.Input.Classification
import Showcase.Session.Client

/-!
# Announcements of a size

A client announces the size of its screen in an envelope: an object with a kind and data, in any
order, with whatever else the client likes to say. However such an object is written, it is
understood: an allowed size is taken, and the text of any other one is raw input. The text that a
client writes itself is one of them.
-/

namespace Showcase

open Json (Value Number Writes)

namespace Json

/-! ## Text in codes -/

/-- The codes stand for the characters. One beyond the first 65536 may be written in two halves. -/
inductive Encodes : List Nat → List Char → Prop where
  | nil : Encodes [] []
  | whole {codes : List Nat} {chars : List Char} (c : Char) (further : Encodes codes chars) :
      Encodes (c.toNat :: codes) (c :: chars)
  | halves {codes : List Nat} {chars : List Char} {c : Char} {high low : Nat}
      (isHigh : isHighHalf high = true) (isLow : isLowHalf low = true)
      (joined : c.toNat = 0x10000 + (high - 0xD800) * 0x400 + (low - 0xDC00))
      (further : Encodes codes chars) : Encodes (high :: low :: codes) (c :: chars)

/-- The codes stand for some text. -/
def IsText (codes : List Nat) : Prop := ∃ chars, Encodes codes chars

variable {codes : List Nat} {chars : List Char}

/-- No character is half of another one. -/
theorem not_half_toNat (c : Char) : isHighHalf c.toNat = false ∧ isLowHalf c.toNat = false := by
  have valid : c.toNat < 0xD800 ∨ 0xDFFF < c.toNat ∧ c.toNat < 0x110000 := c.valid
  simp only [isHighHalf, isLowHalf, Bool.and_eq_false_iff, decide_eq_false_iff_not]
  omega

theorem Encodes.charsOf?_eq (encodes : Encodes codes chars) : charsOf? codes = some chars := by
  induction encodes with
  | nil => rfl
  | @whole codes chars c further ih =>
      obtain ⟨notHigh, notLow⟩ := not_half_toNat c
      rw [charsOf?.eq_def]
      simp [notHigh, notLow, ih]
  | halves isHigh isLow joined further ih =>
      rw [charsOf?]
      simp [isHigh, isLow, ih, ← joined]

theorem IsText.isSome (text : IsText codes) : (textOf? codes).isSome = true := by
  obtain ⟨chars, encodes⟩ := text
  simp [textOf?, encodes.charsOf?_eq]

theorem encodes_codesOf (name : String) : Encodes (Envelope.codesOf name) name.toList := by
  unfold Envelope.codesOf
  induction name.toList with
  | nil => exact .nil
  | cons c rest ih => exact .whole c ih

/-- A name of a few plain characters is spelled in one way only. -/
theorem Encodes.codes_eq {name : String} (encodes : Encodes codes name.toList)
    (low : ∀ c ∈ name.toList, 0 < c.toNat ∧ c.toNat < 0xD800) : codes = Envelope.codesOf name :=
  Envelope.codes_of_charsOf? encodes.charsOf?_eq low

theorem Encodes.codes_ne {name other : String} (encodes : Encodes codes name.toList)
    (different : name ≠ other) : codes ≠ Envelope.codesOf other := by
  rintro rfl
  have same := encodes.charsOf?_eq
  rw [(encodes_codesOf other).charsOf?_eq] at same
  exact different (String.toList_injective (Option.some.inj same)).symm

/-! ## Values that anyone can read -/

/-- The size of the number is below the limit. -/
def Number.IsBelow (limit : Nat) : Number → Prop
  | natural value => value < limit
  | negative value => value < limit
  | decimal significand exponent =>
      significand * 10 ^ exponent.toNat < limit * 10 ^ (-exponent).toNat

/-- A value with at most so many containers one in the other, of which all strings are text and all
numbers are so small that they have a place among the integers of a double. -/
inductive Plain : Nat → Value → Prop where
  | null (levels : Nat) : Plain levels .null
  | bool (levels : Nat) (value : Bool) : Plain levels (.bool value)
  | number (levels : Nat) {number : Number} (small : number.IsBelow (2 ^ 53)) :
      Plain levels (.number number)
  | string (levels : Nat) {codes : List Nat} (text : IsText codes) : Plain levels (.string codes)
  | array {levels : Nat} {items : List Value} (plain : ∀ item ∈ items, Plain levels item) :
      Plain (levels + 1) (.array items)
  | object {levels : Nat} {members : List (List Nat × Value)}
      (names : ∀ member ∈ members, IsText member.1)
      (plain : ∀ member ∈ members, Plain levels member.2) : Plain (levels + 1) (.object members)

theorem roundToDouble_eq {value : Nat} (small : value < 2 ^ 53) : roundToDouble value = value := by
  have spare : value.log2 + 1 - 53 = 0 := by
    rcases Nat.eq_zero_or_pos value with rfl | positive
    · rfl
    · have := (Nat.log2_lt (Nat.ne_of_gt positive)).mpr small
      omega
  simp [roundToDouble, spare, Nat.mod_one]

theorem Number.IsBelow.fitsDouble {number : Number} (small : number.IsBelow (2 ^ 53)) :
    number.fitsDouble = true := by
  cases number with
  | natural | negative => rfl
  | decimal significand exponent =>
      rw [Number.fitsDouble]
      split
      · rfl
      · rename_i large
        obtain ⟨positive, upward⟩ : significand ≠ 0 ∧ 0 ≤ exponent := by simpa using large
        have bounded : significand * 10 ^ exponent.toNat < 2 ^ 53 := by
          simpa [IsBelow, Int.toNat_of_nonpos (Int.neg_nonpos_of_nonneg upward)] using small
        have power : 10 ^ exponent.toNat < 2 ^ 53 :=
          Nat.lt_of_le_of_lt (Nat.le_mul_of_pos_left _ (Nat.pos_of_ne_zero positive)) bounded
        have factor : significand < 2 ^ 53 :=
          Nat.lt_of_le_of_lt (Nat.le_mul_of_pos_right _ (Nat.pow_pos (by decide))) bounded
        have few : exponent.toNat < 16 := by
          by_contra many
          have := Nat.pow_le_pow_right (n := 10) (by decide) (Nat.le_of_not_lt many)
          omega
        have finite : 2 ^ 53 ≤ doubleLimit := by decide +kernel
        rw [if_neg (by omega)]
        have powers : Nat.pow 10 exponent.toNat = 10 ^ exponent.toNat := rfl
        rw [powers, roundToDouble_eq factor, roundToDouble_eq power]
        exact decide_eq_true (Nat.lt_of_lt_of_le bounded finite)

/-! ## Plain values are sound -/

theorem areSound_iff {items : List Value} :
    Value.areSound items = true ↔ ∀ item ∈ items, item.isSound = true := by
  induction items with
  | nil => simp [Value.areSound]
  | cons item items ih => simp [Value.areSound, ih]

theorem areSoundMembers_iff {members : List (List Nat × Value)} :
    Value.areSoundMembers members = true ↔
      ∀ member ∈ members, (textOf? member.1).isSome = true ∧ member.2.isSound = true := by
  induction members with
  | nil => simp [Value.areSoundMembers]
  | cons member members ih => simp [Value.areSoundMembers, ih, and_assoc]

theorem depthItems_le_iff {items : List Value} {levels : Nat} :
    Value.depthItems items ≤ levels ↔ ∀ item ∈ items, item.depth ≤ levels := by
  induction items with
  | nil => simp [Value.depthItems]
  | cons item items ih =>
      rw [Value.depthItems, List.forall_mem_cons, ← ih]
      exact Nat.max_le

theorem depthMembers_le_iff {members : List (List Nat × Value)} {levels : Nat} :
    Value.depthMembers members ≤ levels ↔ ∀ member ∈ members, member.2.depth ≤ levels := by
  induction members with
  | nil => simp [Value.depthMembers]
  | cons member members ih =>
      rw [Value.depthMembers, List.forall_mem_cons, ← ih]
      exact Nat.max_le

variable {levels : Nat} {value : Value}

theorem Plain.isSound (plain : Plain levels value) : value.isSound = true := by
  induction plain with
  | null | bool => rfl
  | number levels small => exact small.fitsDouble
  | string levels text => exact text.isSome
  | array plain ih => exact areSound_iff.mpr ih
  | object names plain ih =>
      exact areSoundMembers_iff.mpr fun member present =>
        ⟨(names member present).isSome, ih member present⟩

theorem Plain.depth_le (plain : Plain levels value) : value.depth ≤ levels := by
  induction plain with
  | null | bool | number | string => exact Nat.zero_le _
  | array plain ih => exact Nat.succ_le_succ (depthItems_le_iff.mpr ih)
  | object names plain ih => exact Nat.succ_le_succ (depthMembers_le_iff.mpr ih)

end Json

namespace Envelope

open Json (Encodes IsText Plain)

/-! ## Announcements -/

/-- A member with a name other than those that count, and with a plain value nested fewer than 100
levels. -/
def Further (names : List String) (member : List Nat × Value) : Prop :=
  ∃ name levels, Encodes member.1 name.toList ∧ name ∉ names ∧ levels < 100 ∧
    Plain levels member.2

/-- The data of an announcement: an object with the columns, the rows and further members, in any
order. -/
inductive Sizes (columns rows : Nat) : Value → Prop where
  | object {members others : List (List Nat × Value)} {columnsKey rowsKey : List Nat}
      (columnsName : Encodes columnsKey "cols".toList) (rowsName : Encodes rowsKey "rows".toList)
      (further : ∀ member ∈ others, Further ["cols", "rows"] member)
      (order : members.Perm ((columnsKey, .number (.natural columns)) ::
        (rowsKey, .number (.natural rows)) :: others)) : Sizes columns rows (.object members)

/-- An announcement: an object with the kind, the data and further members, in any order. -/
inductive Announces (columns rows : Nat) : Value → Prop where
  | object {members others : List (List Nat × Value)} {kindKey dataKey kind : List Nat}
      {data : Value} (kindName : Encodes kindKey "type".toList)
      (kindText : Encodes kind "resize".toList) (dataName : Encodes dataKey "data".toList)
      (sizes : Sizes columns rows data)
      (further : ∀ member ∈ others, Further ["type", "data"] member)
      (order : members.Perm ((kindKey, .string kind) :: (dataKey, data) :: others)) :
      Announces columns rows (.object members)

variable {columns rows : Nat} {value data : Value} {members others : List (List Nat × Value)}
  {codes : List Nat} {name : String} {names : List String}

theorem membersNamed_cons_eq (encodes : Encodes codes name.toList)
    (low : ∀ c ∈ name.toList, 0 < c.toNat ∧ c.toNat < 0xD800) :
    membersNamed name ((codes, value) :: members) = value :: membersNamed name members := by
  obtain rfl := encodes.codes_eq low
  simp [membersNamed]

theorem membersNamed_cons_ne {other : String} (encodes : Encodes codes other.toList)
    (different : other ≠ name) :
    membersNamed name ((codes, value) :: members) = membersNamed name members := by
  have differs := encodes.codes_ne different
  simp [membersNamed, differs]

theorem membersNamed_further (present : name ∈ names)
    (further : ∀ member ∈ others, Further names member) : membersNamed name others = [] := by
  refine List.filterMap_eq_nil_iff.mpr fun member inside => ?_
  obtain ⟨other, levels, encodes, absent, -⟩ := further member inside
  have differs := encodes.codes_ne (ne_of_mem_of_not_mem present absent).symm
  simp [differs]

/-- Where a name stands once, the order of the members does not matter. -/
theorem membersNamed_of_perm (order : members.Perm others)
    (once : membersNamed name others = [value]) : membersNamed name members = [value] := by
  have same := order.filterMap fun member =>
    if member.1 == codesOf name then some member.2 else none
  exact List.perm_singleton.mp ((congrArg (List.Perm _) once).mp same)

theorem Further.isKey {member : List Nat × Value} (further : Further names member) :
    parts?.isKey member.1 = true := by
  obtain ⟨name, levels, encodes, -⟩ := further
  exact IsText.isSome ⟨_, encodes⟩

/-- The names that count are plain. -/
theorem low_of_counts : ∀ name ∈ ["type", "data", "cols", "rows", "resize"], ∀ c ∈ name.toList,
    0 < c.toNat ∧ c.toNat < 0xD800 := by simp

theorem Sizes.members_eq (sizes : Sizes columns rows (.object members)) :
    membersNamed "cols" members = [.number (.natural columns)] ∧
      membersNamed "rows" members = [.number (.natural rows)] := by
  cases sizes with
  | object columnsName rowsName further order =>
      constructor
      · refine membersNamed_of_perm order ?_
        rw [membersNamed_cons_eq columnsName (low_of_counts _ (by simp)),
          membersNamed_cons_ne rowsName (by decide), membersNamed_further (by simp) further]
      · refine membersNamed_of_perm order ?_
        rw [membersNamed_cons_ne columnsName (by decide),
          membersNamed_cons_eq rowsName (low_of_counts _ (by simp)),
          membersNamed_further (by simp) further]

/-- Nothing in the data keeps it from being read. -/
theorem Sizes.isData (sizes : Sizes columns rows data) : isData data = true := by
  cases sizes with
  | @object members others columnsKey rowsKey columnsName rowsName further order =>
      have all : ∀ member ∈ members,
          IsText member.1 ∧ member.2.isSound = true ∧ member.2.depth ≤ 99 := by
        intro member present
        rcases List.mem_cons.mp (order.mem_iff.mp present) with rfl | present
        · exact ⟨⟨_, columnsName⟩, rfl, Nat.zero_le _⟩
        · rcases List.mem_cons.mp present with rfl | present
          · exact ⟨⟨_, rowsName⟩, rfl, Nat.zero_le _⟩
          · obtain ⟨name, levels, encodes, -, few, plain⟩ := further member present
            exact ⟨⟨_, encodes⟩, plain.isSound, plain.depth_le.trans (Nat.le_of_lt_succ few)⟩
      have sound : (Value.object members).isSound = true :=
        Json.areSoundMembers_iff.mpr fun member present =>
          ⟨(all member present).1.isSome, (all member present).2.1⟩
      have shallow : (Value.object members).depth ≤ 100 :=
        Nat.succ_le_succ (Json.depthMembers_le_iff.mpr fun member present =>
          (all member present).2.2)
      have limited : (Value.object members).depth < nestingLimit :=
        Nat.lt_of_le_of_lt shallow (by decide)
      rw [Envelope.isData, sound, Bool.and_true]
      exact decide_eq_true limited

/-- The size of the data is the one that it tells. -/
theorem Sizes.measures_iff (sizes : Sizes columns rows data) {geometry : Geometry} :
    Measures data geometry ↔ geometry.columns = columns ∧ geometry.rows = rows := by
  cases sizes with
  | @object members others columnsKey rowsKey columnsName rowsName further order =>
      have named := (Sizes.object columnsName rowsName further order).members_eq
      constructor
      · intro measures
        cases measures with
        | object columnsLast rowsLast =>
            rw [named.1] at columnsLast
            rw [named.2] at rowsLast
            simp only [List.getLast?_singleton, Option.some.injEq, Value.number.injEq,
              Json.Number.natural.injEq] at columnsLast rowsLast
            exact ⟨columnsLast.symm, rowsLast.symm⟩
      · rintro ⟨rfl, rfl⟩
        exact .object (by rw [named.1]; rfl) (by rw [named.2]; rfl)

/-- An announcement is a resize message of the size that it tells, and of no other one. -/
theorem Announces.resizes_iff (announces : Announces columns rows value) {geometry : Geometry} :
    Resizes value geometry ↔ geometry.columns = columns ∧ geometry.rows = rows := by
  cases announces with
  | @object members others kindKey dataKey kind data kindName kindText dataName sizes further
      order =>
      have kinds : membersNamed "type" members = [.string kind] := by
        refine membersNamed_of_perm order ?_
        rw [membersNamed_cons_eq kindName (low_of_counts _ (by simp)),
          membersNamed_cons_ne dataName (by decide), membersNamed_further (by simp) further]
      have datas : membersNamed "data" members = [data] := by
        refine membersNamed_of_perm order ?_
        rw [membersNamed_cons_ne kindName (by decide),
          membersNamed_cons_eq dataName (low_of_counts _ (by simp)),
          membersNamed_further (by simp) further]
      obtain rfl := kindText.codes_eq (low_of_counts _ (by simp))
      have keys : ∀ member ∈ members, parts?.isKey member.1 = true := by
        intro member present
        rcases List.mem_cons.mp (order.mem_iff.mp present) with rfl | present
        · exact IsText.isSome ⟨_, kindName⟩
        · rcases List.mem_cons.mp present with rfl | present
          · exact IsText.isSome ⟨_, dataName⟩
          · exact (further member present).isKey
      rw [← sizes.measures_iff]
      constructor
      · intro resizes
        cases resizes with
        | object keys kind data_eq sound measures =>
            rw [datas] at data_eq
            obtain rfl := (List.cons_eq_cons.mp data_eq).1
            exact measures
      · exact fun measures => .object keys kinds datas sizes.isData measures

end Envelope

namespace Inbound

open Envelope (Announces)

/-- The frame is understood as an announcement of the size: an allowed size is taken, and with any
other one the frame is raw input as it stands. -/
def IsUnderstood (frame : Inbound) (columns rows : Nat) : Prop :=
  frame.classify =
    if allowed : (1 ≤ columns ∧ columns ≤ 1000) ∧ (1 ≤ rows ∧ rows ≤ 1000) then
      .control (.resize ⟨columns, rows, allowed.1.1, allowed.1.2, allowed.2.1, allowed.2.2⟩)
    else .raw frame.bytes

theorem isUnderstood_of_announces {content : String} {value : Value} {columns rows : Nat}
    (written : Writes content value) (announces : Announces columns rows value) :
    (text content).IsUnderstood columns rows := by
  unfold IsUnderstood
  split
  · exact classify_text_iff.mpr ⟨value, written, announces.resizes_iff.mpr ⟨rfl, rfl⟩⟩
  · rename_i forbidden
    rcases classify_text_eq content with ⟨geometry, classified⟩ | raw
    · obtain ⟨other, spelled, resizes⟩ := classify_text_iff.mp classified
      obtain rfl := spelled.unique written
      obtain ⟨rfl, rfl⟩ := announces.resizes_iff.mp resizes
      exact absurd ⟨⟨geometry.one_le_columns, geometry.columns_le⟩, geometry.one_le_rows,
        geometry.rows_le⟩ forbidden
    · exact raw

end Inbound

/-! ## The text of a client -/

namespace Json

/-- A positive number is written without leading zeros. -/
theorem head?_toDigits {number : Nat} (positive : 0 < number) :
    (Nat.toDigits 10 number).head? ≠ some '0' := by
  induction number using Nat.strong_induction_on with
  | _ number ih =>
      rw [Nat.toDigits_eq_if (by decide)]
      split
      · interval_cases number <;> decide
      · have leading := ih (number / 10) (by omega) (by omega)
        rwa [List.head?_append_of_ne_nil _ Nat.toDigits_ne_nil]

theorem isWhole_toDigits (number : Nat) : IsWhole (Nat.toDigits 10 number) := by
  refine ⟨⟨Nat.toDigits_ne_nil, fun c => Nat.isDigit_of_mem_toDigits (by decide) (by decide)⟩,
    fun leading => ?_⟩
  rcases Nat.eq_zero_or_pos number with rfl | positive
  · rfl
  · exact absurd leading (head?_toDigits positive)

theorem spells_number {number : Nat} (fits : number ≤ wordLimit) :
    Spells (toString number).toList (.number (.natural number)) := by
  have value : decimalValue (Nat.toDigits 10 number) = number := Nat.ofDigitChars_ten_toDigits
  have spelled := NumberText.natural (isWhole_toDigits number) (value.symm ▸ fits)
  rw [value] at spelled
  rw [Nat.toString_eq_ofList_toDigits, String.toList_ofList]
  exact .number spelled

theorem Lexed.cons_mark {c : Char} {token : Token} {chars : List Char} {tokens : List Token}
    (marks : punctuation? c = some token) (lexed : Lexed chars tokens) :
    Lexed (c :: chars) (token :: tokens) :=
  lexed.cons_token (.mark marks)

/-- A name between quotes. -/
def quoted (name : String) : List Char := '"' :: (name.toList ++ ['"'])

theorem Lexed.cons_quoted {name : String} {chars : List Char} {tokens : List Token}
    (plain : ∀ c ∈ name.toList, c ≠ '"' ∧ c ≠ '\\' ∧ 0x20 ≤ c.toNat)
    (lexed : Lexed chars tokens) :
    Lexed (quoted name ++ chars) (.string (Envelope.codesOf name) :: tokens) := by
  refine lexed.cons_token (.string ?_)
  unfold Envelope.codesOf
  generalize name.toList = letters at plain
  induction letters with
  | nil => exact .nil
  | cons c rest ih =>
      obtain ⟨⟨unquoted, unescaped, printed⟩, others⟩ := List.forall_mem_cons.mp plain
      exact .plain unquoted unescaped printed (ih others)

theorem Lexed.cons_name (name : String)
    (counts : name ∈ ["type", "data", "cols", "rows", "resize"]) {chars : List Char}
    {tokens : List Token} (lexed : Lexed chars tokens) :
    Lexed (quoted name ++ chars) (.string (Envelope.codesOf name) :: tokens) := by
  have plain : ∀ name ∈ ["type", "data", "cols", "rows", "resize"], ∀ c ∈ name.toList,
      c ≠ '"' ∧ c ≠ '\\' ∧ 0x20 ≤ c.toNat := by simp
  exact lexed.cons_quoted (plain name counts)

end Json

namespace Inbound

open Envelope (Announces codesOf)
open Json (Lexed Token quoted)

/-- What a client says that tells its size and nothing else. -/
def sizeValue (columns rows : Nat) : Value :=
  .object [(codesOf "type", .string (codesOf "resize")),
    (codesOf "data",
      .object [(codesOf "cols", .number (.natural columns)),
        (codesOf "rows", .number (.natural rows))])]

variable {columns rows : Nat}

theorem announces_sizeValue (columns rows : Nat) :
    Announces columns rows (sizeValue columns rows) := by
  have encodes := Json.encodes_codesOf
  refine .object (encodes _) (encodes _) (encodes _) ?_ (List.forall_mem_nil _) (.refl _)
  exact .object (encodes _) (encodes _) (List.forall_mem_nil _) (.refl _)

/-- The text is put together from its end. -/
theorem writes_resizeText (columnsFit : columns ≤ Json.wordLimit)
    (rowsFit : rows ≤ Json.wordLimit) :
    Writes (Session.resizeText columns rows) (sizeValue columns rows) := by
  have ends : Lexed ['}', '}'] [.closeObject, .closeObject] :=
    .cons_mark rfl (.cons_mark rfl (.blank (List.forall_mem_nil _)))
  have rowsValue := ends.cons_token (Json.spells_number rowsFit)
  have rowsMember := Lexed.cons_name "rows" (by simp) (rowsValue.cons_mark (c := ':') rfl)
  have columnsValue :=
    (rowsMember.cons_mark (c := ',') rfl).cons_token (Json.spells_number columnsFit)
  have columnsMember := Lexed.cons_name "cols" (by simp) (columnsValue.cons_mark (c := ':') rfl)
  have dataValue := columnsMember.cons_mark (c := '{') rfl
  have dataMember := Lexed.cons_name "data" (by simp) (dataValue.cons_mark (c := ':') rfl)
  have kindValue := Lexed.cons_name "resize" (by simp) (dataMember.cons_mark (c := ',') rfl)
  have kindMember := Lexed.cons_name "type" (by simp) (kindValue.cons_mark (c := ':') rfl)
  have whole := kindMember.cons_mark (c := '{') rfl
  have text_eq : (Session.resizeText columns rows).toList =
      '{' :: (quoted "type" ++ ':' :: (quoted "resize" ++ ',' :: (quoted "data" ++ ':' ::
        '{' :: (quoted "cols" ++ ':' :: ((toString columns).toList ++ ',' ::
          (quoted "rows" ++ ':' :: ((toString rows).toList ++ ['}', '}']))))))) := by
    have first : "\x7b\"type\":\"resize\",\"data\":\x7b\"cols\":".toList =
        '{' :: (quoted "type" ++ ':' :: (quoted "resize" ++ ',' :: (quoted "data" ++ ':' ::
          '{' :: (quoted "cols" ++ [':'])))) := by decide +kernel
    have second : ",\"rows\":".toList = ',' :: (quoted "rows" ++ [':']) := by decide +kernel
    have last : "\x7d\x7d".toList = ['}', '}'] := by decide +kernel
    unfold Session.resizeText
    simp only [String.toList_append, first, second, last, List.append_assoc, List.cons_append,
      List.nil_append]
  rw [Writes, text_eq]
  exact whole

/-- However a client announces the size of its screen, it is understood, and so is the text that a
client writes itself. -/
theorem announcements_understood :
    (∀ (content : String) (value : Value) (columns rows : Nat), Writes content value →
      Announces columns rows value → (text content).IsUnderstood columns rows) ∧
    ∀ columns rows, columns ≤ Json.wordLimit → rows ≤ Json.wordLimit →
      (text (Session.resizeText columns rows)).IsUnderstood columns rows :=
  ⟨fun _ _ _ _ written announces => isUnderstood_of_announces written announces,
    fun _ _ columnsFit rowsFit =>
      isUnderstood_of_announces (writes_resizeText columnsFit rowsFit) (announces_sizeValue _ _)⟩

/-- The order of the members, escapes in a name and a further member make no difference, and of
sizes that are too large the largest is raw input as well. -/
theorem announcements_understood_disordered :
    let disordered := "\x7b \"seen\" : [-3, \"\\ud83d\\ude00\", null], " ++
      "\"data\" :\x7b\"rows\":24 , \"cols\":80\x7d, \"ty\\u0070e\":\"resize\"\x7d"
    let largest := text (Session.resizeText Json.wordLimit Json.wordLimit)
    (text disordered).classify = .control (.resize (.clamp 80 24)) ∧
      largest.classify = .raw largest.bytes := by
  intro disordered largest
  let seen : Value := .array [.number (.negative 3), .string [0xD83D, 0xDE00], .null]
  let data : Value := .object [(codesOf "rows", .number (.natural 24)),
    (codesOf "cols", .number (.natural 80))]
  let whole : Value := .object [(codesOf "seen", seen), (codesOf "data", data),
    (codesOf "type", .string (codesOf "resize"))]
  have encodes := Json.encodes_codesOf
  have face : Json.IsText [0xD83D, 0xDE00] := ⟨['😀'], .halves rfl rfl (by decide) .nil⟩
  have plain : Json.Plain 1 seen := .array (by
    simp only [List.forall_mem_cons]
    exact ⟨.number 0 (by decide : 3 < 2 ^ 53), .string 0 face, .null 0, List.forall_mem_nil _⟩)
  have further : ∀ member ∈ [(codesOf "seen", seen)],
      Envelope.Further ["type", "data"] member :=
    List.forall_mem_singleton.mpr ⟨"seen", 1, encodes _, by decide, by decide, plain⟩
  have sizes : Envelope.Sizes 80 24 data :=
    .object (encodes _) (encodes _) (List.forall_mem_nil _) (.swap _ _ _)
  have announces : Announces 80 24 whole :=
    .object (encodes _) (encodes _) (encodes _) sizes further (List.reverse_perm [_, _, _])
  have found : Json.tokens? disordered.toList = some whole.tokens := by decide +kernel
  have written : Writes disordered whole := Json.lexed_of_tokensFrom .between found
  refine ⟨(announcements_understood.1 disordered whole 80 24 written announces).trans ?_,
    (announcements_understood.2 Json.wordLimit Json.wordLimit le_rfl le_rfl).trans ?_⟩
  · rw [dif_pos (by decide)]
    rfl
  · rw [dif_neg (by decide)]

end Inbound

end Showcase
