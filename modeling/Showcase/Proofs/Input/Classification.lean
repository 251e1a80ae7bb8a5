import Showcase.Input.Envelope
import Showcase.Proofs.Json.Reading

/-!
# Which frames are control messages

A frame is a resize message exactly if its text spells one of the values of `Resizes`; every other
frame is raw input and keeps its bytes. Among the values are objects with a kind and data, and arrays
that hold the two in this order.
-/

namespace Showcase

open Json (Value Writes)

namespace Geometry

theorem ofSize?_eq_some_iff {columns rows : Nat} {geometry : Geometry} :
    ofSize? columns rows = some geometry ↔ geometry.columns = columns ∧ geometry.rows = rows := by
  constructor
  · exact ofSize?_eq_some
  · rintro ⟨rfl, rfl⟩
    exact dif_pos ⟨⟨geometry.one_le_columns, geometry.columns_le⟩, geometry.one_le_rows,
      geometry.rows_le⟩

end Geometry

namespace Envelope

/-- The data of a resize message with a size; of members with one name the last one counts. -/
inductive Measures : Value → Geometry → Prop where
  | object {members : List (List Nat × Value)} {geometry : Geometry}
      (columns : (membersNamed "cols" members).getLast? =
        some (.number (.natural geometry.columns)))
      (rows : (membersNamed "rows" members).getLast? = some (.number (.natural geometry.rows))) :
      Measures (.object members) geometry
  | array {geometry : Geometry} :
      Measures (.array [.number (.natural geometry.columns), .number (.natural geometry.rows)])
        geometry

/-- A resize message with a size: an object with one kind and one member of data, or an array of the
two. All keys of the object are text, and the data is not nested too deep and holds sound values. -/
inductive Resizes : Value → Geometry → Prop where
  | object {members : List (List Nat × Value)} {data : Value} {geometry : Geometry}
      (keys : ∀ member ∈ members, parts?.isKey member.1 = true)
      (kind : membersNamed "type" members = [.string (codesOf "resize")])
      (data_eq : membersNamed "data" members = [data]) (sound : isData data = true)
      (measures : Measures data geometry) : Resizes (.object members) geometry
  | array {data : Value} {geometry : Geometry} (sound : isData data = true)
      (measures : Measures data geometry) :
      Resizes (.array [.string (codesOf "resize"), data]) geometry

variable {value data : Value} {geometry : Geometry}

/-! ## The kind -/

theorem toNat_ofNat (code : Nat) :
    (Char.ofNat code).toNat = if code.isValidChar then code else 0 := by
  by_cases valid : code.isValidChar
  · rw [Char.ofNat, dif_pos valid, if_pos valid]
    rfl
  · rw [Char.ofNat, dif_neg valid, if_neg valid]
    rfl

/-- Characters below the halves of characters have one spelling in codes. -/
theorem codes_of_charsOf? {codes : List Nat} {chars : List Char}
    (read : Json.charsOf? codes = some chars)
    (low : ∀ c ∈ chars, 0 < c.toNat ∧ c.toNat < 0xD800) : codes = chars.map Char.toNat := by
  have spelled {code : Nat} {rest : List Char}
      (within : ∀ c ∈ Char.ofNat code :: rest, 0 < c.toNat ∧ c.toNat < 0xD800) :
      code < 0xD800 ∧ (Char.ofNat code).toNat = code ∧
        ∀ c ∈ rest, 0 < c.toNat ∧ c.toNat < 0xD800 := by
    obtain ⟨first, others⟩ := List.forall_mem_cons.mp within
    rw [toNat_ofNat] at first ⊢
    split at first
    · rename_i valid
      rw [if_pos valid]
      exact ⟨first.2, rfl, others⟩
    · omega
  fun_induction Json.charsOf? codes generalizing chars with
  | case1 =>
      cases read
      rfl
  | case2 code isHigh half rest isLow ih =>
      obtain ⟨others, further, rfl⟩ := Option.map_eq_some_iff.mp read
      have small := (spelled low).1
      omega
  | case3 => cases read
  | case4 => cases read
  | case5 => cases read
  | case6 code rest isHigh isLow ih =>
      obtain ⟨others, further, rfl⟩ := Option.map_eq_some_iff.mp read
      obtain ⟨-, same, within⟩ := spelled low
      rw [List.map_cons, same, ih further within]

theorem text?_eq_resize_iff : text? value = some "resize" ↔ value = .string (codesOf "resize") := by
  constructor
  · intro read
    cases value with
    | string codes =>
        obtain ⟨chars, found, made⟩ := Option.map_eq_some_iff.mp read
        obtain rfl : chars = "resize".toList := by
          rw [← made, String.toList_ofList]
        have low : "resize".toList.all
            (fun c => decide (0 < c.toNat ∧ c.toNat < 0xD800)) = true := by decide +kernel
        rw [codesOf, codes_of_charsOf? found fun c member =>
          of_decide_eq_true (List.all_eq_true.mp low c member)]
    | null | bool | number | array | object => cases read
  · rintro rfl
    decide +kernel

/-! ## Kind, data and size -/

theorem natural?_eq_some_iff {natural : Nat} :
    natural? value = some natural ↔ value = .number (.natural natural) := by
  constructor
  · intro read
    unfold natural? at read
    split at read <;> cases read
    rfl
  · rintro rfl
    rfl

theorem size?_eq_some_iff : size? value = some geometry ↔ Measures value geometry := by
  constructor
  · intro read
    unfold size? at read
    split at read
    · simp only [Option.bind_eq_bind, Option.bind_eq_some_iff, natural?_eq_some_iff,
        Geometry.ofSize?_eq_some_iff] at read
      obtain ⟨_, columns, _, rows, _, rfl, _, rfl, rfl, rfl⟩ := read
      exact .object columns rows
    · simp only [Option.bind_eq_bind, Option.bind_eq_some_iff, natural?_eq_some_iff,
        Geometry.ofSize?_eq_some_iff] at read
      obtain ⟨_, rfl, _, rfl, rfl, rfl⟩ := read
      exact .array
    · cases read
  · intro measures
    have allowed : Geometry.ofSize? geometry.columns geometry.rows = some geometry :=
      Geometry.ofSize?_eq_some_iff.mpr ⟨rfl, rfl⟩
    cases measures with
    | object columns rows => simp [size?, columns, rows, natural?, allowed]
    | array => simp [size?, natural?, allowed]

/-- A value without data has no size. -/
theorem not_measures_null : ¬ Measures .null geometry := fun measures => nomatch measures

theorem resizes_iff :
    Resizes value geometry ↔ ∃ data, parts? value = some ("resize", data) ∧ Measures data geometry := by
  constructor
  · intro resizes
    cases resizes with
    | @object members data _ keys kind data_eq sound measures =>
        have all : (members.all fun member => parts?.isKey member.1) = true := by
          simpa using keys
        have named := text?_eq_resize_iff.mpr rfl
        exact ⟨data, by simp [parts?, all, kind, data_eq, sound, named], measures⟩
    | @array data _ sound measures =>
        have named := text?_eq_resize_iff.mpr rfl
        exact ⟨data, by simp [parts?, sound, named], measures⟩
  · rintro ⟨data, read, measures⟩
    unfold parts? at read
    split at read
    · split at read
      · rename_i all
        split at read
        · obtain ⟨kind, named, same⟩ := Option.map_eq_some_iff.mp read
          obtain ⟨-, rfl⟩ := Prod.mk.inj same
          exact absurd measures not_measures_null
        · rename_i kind data' type_eq data_eq
          split at read
          · rename_i sound
            obtain ⟨name, named, same⟩ := Option.map_eq_some_iff.mp read
            obtain ⟨rfl, rfl⟩ := Prod.mk.inj same
            obtain rfl := text?_eq_resize_iff.mp named
            exact .object (by simpa using all) type_eq data_eq sound measures
          · cases read
        · cases read
      · cases read
    · obtain ⟨kind, named, same⟩ := Option.map_eq_some_iff.mp read
      obtain ⟨-, rfl⟩ := Prod.mk.inj same
      exact absurd measures not_measures_null
    · split at read
      · rename_i sound
        obtain ⟨name, named, same⟩ := Option.map_eq_some_iff.mp read
        obtain ⟨rfl, rfl⟩ := Prod.mk.inj same
        obtain rfl := text?_eq_resize_iff.mp named
        exact .array sound measures
      · cases read
    · cases read

theorem parse?_eq_resize_iff {text : String} :
    parse? text = some (.control (.resize geometry)) ↔
      ∃ value, Writes text value ∧ Resizes value geometry := by
  simp only [resizes_iff, ← Json.parse?_eq_some_iff]
  constructor
  · intro read
    obtain ⟨value, spelled, read⟩ := Option.bind_eq_some_iff.mp read
    obtain ⟨⟨kind, data⟩, found, made⟩ := Option.bind_eq_some_iff.mp read
    have made := Option.some.inj made
    unfold ofParts at made
    split at made
    · rename_i resize
      obtain rfl : kind = "resize" := by simpa using resize
      split at made <;> cases made
      rename_i size
      exact ⟨value, spelled, data, found, size?_eq_some_iff.mp size⟩
    · cases made
  · rintro ⟨value, spelled, data, found, measures⟩
    simp [parse?, spelled, found, ofParts, size?_eq_some_iff.mpr measures]

end Envelope

namespace Inbound

open Envelope (Resizes)

theorem classify_text_iff {content : String} {geometry : Geometry} :
    (text content).classify = .control (.resize geometry) ↔
      ∃ value, Writes content value ∧ Resizes value geometry := by
  rw [← Envelope.parse?_eq_resize_iff]
  constructor
  · intro classified
    rw [classify] at classified
    split at classified
    · rename_i message found
      cases classified
      exact found
    · cases classified
  · intro found
    rw [classify, found]

theorem classify_text_eq (content : String) :
    (∃ geometry, (text content).classify = .control (.resize geometry)) ∨
      (text content).classify = .raw (text content).bytes := by
  rw [classify]
  split
  · rename_i message found
    cases message with
    | resize geometry => exact .inl ⟨geometry, rfl⟩
  · exact .inr rfl

/-- A frame is a control message exactly if it is a text that spells a resize message. Every other
frame is raw input with just the bytes that it has. -/
theorem classify_resizes (frame : Inbound) :
    (∀ geometry, frame.classify = .control (.resize geometry) ↔
      ∃ content value, frame = .text content ∧ Writes content value ∧ Resizes value geometry) ∧
    ((∀ content value geometry, frame = .text content → Writes content value →
      ¬ Resizes value geometry) → frame.classify = .raw frame.bytes) := by
  cases frame with
  | binary bytes =>
      refine ⟨fun geometry => ⟨fun classified => ?_, ?_⟩, fun _ => rfl⟩
      · cases classified
      · rintro ⟨content, value, same, -⟩
        cases same
  | text content =>
      constructor
      · intro geometry
        rw [classify_text_iff]
        constructor
        · rintro ⟨value, written, resizes⟩
          exact ⟨content, value, rfl, written, resizes⟩
        · rintro ⟨_, value, same, written, resizes⟩
          cases same
          exact ⟨value, written, resizes⟩
      · intro never
        rcases classify_text_eq content with ⟨geometry, classified⟩ | raw
        · obtain ⟨value, written, resizes⟩ := classify_text_iff.mp classified
          exact absurd resizes (never content value geometry rfl written)
        · exact raw

/-- An array of kind and data is a resize message as well, and its text spells no object. -/
theorem classify_resizes_array : ∃ content geometry,
    (text content).classify = .control (.resize geometry) ∧
      ∀ members, ¬ Writes content (.object members) := by
  let size : Geometry := .clamp 100 40
  have found : Json.tokens? "[\"resize\",[100,40]]".toList =
      some (Value.array [.string (Envelope.codesOf "resize"),
        .array [.number (.natural size.columns), .number (.natural size.rows)]]).tokens := by
    decide +kernel
  have written : Writes "[\"resize\",[100,40]]" _ := Json.lexed_of_tokensFrom .between found
  refine ⟨_, size, classify_text_iff.mpr ⟨_, written, .array rfl .array⟩, ?_⟩
  intro members other
  cases other.unique written

end Inbound

end Showcase
