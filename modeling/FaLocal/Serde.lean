import FaLocal.GnatSchema
import FaLocal.UuidText
import FaLocal.Library.Keyed

/-!
# Reading contract values

`serde_json::from_value` on the objects that a schema has let through, and that it reads
back what was serialised. How times are read is a parameter.
-/
namespace FaLocal

/-- `serde_json::from_value`; `none` is an error. -/
abbrev Decoder (β : Type) := Value → Option β

/-- The texts of times as they are written, checked and read. -/
structure TimeTexts extends DateTimes where
  parse : String → Option TimestampUtc

/-- A time of the years 0000 to 9999. -/
def FourDigitYear (t : TimestampUtc) : Prop :=
  -62167219200000000000 ≤ t ∧ t < 253402300800000000000

instance : DecidablePred FourDigitYear := fun t =>
  inferInstanceAs (Decidable (-62167219200000000000 ≤ t ∧ t < 253402300800000000000))

/-- RFC 3339 as `chrono` writes and reads it and `jsonschema` checks it: years have four
digits, and what is written is read back. -/
structure TimeTexts.Rfc3339 (times : TimeTexts) : Prop where
  printable : ∀ t, times.Printable t ↔ FourDigitYear t
  parse_text : ∀ t, FourDigitYear t → times.parse (times.text t) = some t

namespace Fixture

/-- An identifier of one byte but for its version and variant. -/
def idOf (k : IdKind) (byte low : UInt8) : UuidId k :=
  ⟨⟨((Vector.replicate 16 byte).setIfInBounds 6 (0x40 + low)).setIfInBounds 8 (0x80 + low)⟩⟩

/-- Times of the contract fixtures. -/
def fixtureTimes : List (TimestampUtc × String) := [
  (at2030 (-172800), "2029-12-30T00:00:00Z"),
  (at2030 0, "2030-01-01T00:00:00Z"),
  (at2030 511, "2030-01-01T00:08:31Z"),
  (at2030 570, "2030-01-01T00:09:30Z"),
  (at2030 585, "2030-01-01T00:09:45Z"),
  (at2030 601, "2030-01-01T00:10:01Z"),
  (at2030 605, "2030-01-01T00:10:05Z"),
  (at2030 607, "2030-01-01T00:10:07Z"),
  (at2030 630, "2030-01-01T00:10:30Z")]

/-- The texts of these times; any other time is counted. -/
def timeTexts : TimeTexts where
  text t := (fixtureTimes.lookup t).getD (String.ofList ('@' :: t.repr.toList))
  accepts s := (read s).isSome
  parse := read
where
  read (s : String) : Option TimestampUtc :=
    ((fixtureTimes.find? fun entry => entry.2 == s).map Prod.fst).or
      (match s.toList with
        | '@' :: digits => (String.ofList digits).toInt?.filter fun t => decide (FourDigitYear t)
        | _ => none)

theorem fixtureTimes_nodup : (fixtureTimes.map Prod.snd).Nodup := by decide

theorem fixtureTimes_years : fixtureTimes.all (fun entry => decide (FourDigitYear entry.1)) = true := by
  decide

theorem fixtureTimes_heads :
    fixtureTimes.all (fun entry => entry.2.toList.head? == some '2') = true := by
  decide +kernel

/-- A time that is counted is read back. -/
theorem read_counted (t : TimestampUtc) :
    timeTexts.read (String.ofList ('@' :: t.repr.toList)) =
      (some t).filter fun t => decide (FourDigitYear t) := by
  have hnone : fixtureTimes.find? (fun entry =>
      entry.2 == String.ofList ('@' :: t.repr.toList)) = none := by
    rw [List.find?_eq_none]
    intro entry hentry heq
    have hhead := List.all_eq_true.mp fixtureTimes_heads entry hentry
    rw [eq_of_beq heq, String.toList_ofList] at hhead
    simp at hhead
  rw [timeTexts.read, hnone, String.toList_ofList]
  simp only [String.ofList_toList, Int.toInt?_repr]
  rfl

theorem timeTexts_text (t : TimestampUtc) :
    timeTexts.text t = (fixtureTimes.lookup t).getD (String.ofList ('@' :: t.repr.toList)) := rfl

theorem timeTexts_rfc3339 : timeTexts.Rfc3339 := by
  have hread : ∀ t, timeTexts.read (timeTexts.text t) =
      (some t).filter fun t => decide (FourDigitYear t) := by
    intro t
    cases hl : fixtureTimes.lookup t with
    | none =>
      rw [timeTexts_text, hl]
      exact read_counted t
    | some s =>
      have hmem : (t, s) ∈ fixtureTimes := by
        obtain ⟨before, after, hsplit, -⟩ := List.lookup_eq_some_iff.mp hl
        rw [hsplit]
        simp
      have hyear : decide (FourDigitYear t) = true :=
        List.all_eq_true.mp fixtureTimes_years (t, s) hmem
      have hfind : fixtureTimes.find? (fun entry => entry.2 == s) = some (t, s) :=
        Keyed.find?_of_mem fixtureTimes_nodup hmem
      rw [timeTexts_text, hl, Option.getD_some, timeTexts.read, hfind, Option.filter_some,
        if_pos hyear]
      rfl
  constructor
  · intro t
    have haccepts : timeTexts.Printable t ↔ (timeTexts.read (timeTexts.text t)).isSome = true :=
      Iff.rfl
    rw [haccepts, hread, Option.filter_some]
    by_cases ht : FourDigitYear t <;> simp [ht]
  · intro t ht
    exact (hread t).trans (by rw [Option.filter_some, if_pos (decide_eq_true ht)])

end Fixture

/-- `deserialize_contract_value`; what goes wrong is not told apart. -/
def loadContract {β : Type} (schema : Schema) (fromValue : Decoder β) (value : Value) : Option β :=
  if schema value then fromValue value else none

theorem loadContract_eq_some {β : Type} {schema : Schema} {fromValue : Decoder β} {value : Value}
    {b : β} : loadContract schema fromValue value = some b ↔
      schema value = true ∧ fromValue value = some b := by
  rw [loadContract]
  split <;> simp_all

namespace Decoder

variable {β γ : Type}

def string : Decoder String
  | .string s => some s
  | _ => none

def bool : Decoder Bool
  | .bool b => some b
  | _ => none

/-- An unsigned integer of this many values. -/
def unsigned (size : Nat) : Decoder Nat
  | .number text => (Schema.decimal text.toList).filter (· < size)
  | _ => none

/-- A unit variant, by its name. -/
def variant (name : β → String) (variants : List β) : Decoder β
  | .string s => variants.find? fun v => name v == s
  | _ => none

def uuid {k : IdKind} : Decoder (UuidId k)
  | .string s => UuidId.ofText s
  | _ => none

def timestamp (times : TimeTexts) : Decoder TimestampUtc
  | .string s => times.parse s
  | _ => none

def option (d : Decoder β) : Decoder (Option β)
  | .null => some none
  | value => (d value).map some

def list (d : Decoder β) : Decoder (List β)
  | .array items => items.mapM d
  | _ => none

/-- A field of a derived `Deserialize`. -/
def field (key : String) (d : Decoder β) : Decoder β := fun value => (value.get key).bind d

/-- A field of a type `Option`: one that is missing is `None`. -/
def optionalField (key : String) (d : Decoder β) : Decoder (Option β) := fun value =>
  ((value.get key).map d.option).getD (some none)

/-! ## Serialised values are read back -/

@[simp] theorem string_string (s : String) : string (.string s) = some s := rfl

@[simp] theorem bool_bool (b : Bool) : bool (.bool b) = some b := rfl

theorem unsigned_natValue {size n : Nat} (h : n < size) : unsigned size (natValue n) = some n := by
  rw [natValue, unsigned, Schema.decimal_toString, Option.filter_some, if_pos (by simpa using h)]

theorem variant_name {name : β → String} {variants : List β} (hn : (variants.map name).Nodup)
    {b : β} (hb : b ∈ variants) : variant name variants (.string (name b)) = some b :=
  Keyed.find?_of_mem hn hb

@[simp] theorem uuid_toValue {k : IdKind} (i : UuidId k) : uuid i.toValue = some i :=
  i.ofText_display

theorem timestamp_text {times : TimeTexts} (h : times.Rfc3339) {t : TimestampUtc}
    (ht : FourDigitYear t) : timestamp times (.string (times.text t)) = some t :=
  h.parse_text t ht

/-- A value that is not `null` is read as it is. -/
theorem option_some {d : Decoder β} {value : Value} (h : Schema.null value = false) :
    d.option value = (d value).map some := by
  cases value with
  | null => cases h
  | _ => rfl

theorem option_optionValue {d : Decoder β} {f : β → Value} {o : Option β}
    (hnull : ∀ b, Schema.null (f b) = false) (h : ∀ b ∈ o, d (f b) = some b) :
    d.option (optionValue f o) = some o := by
  cases o with
  | none => rfl
  | some b =>
    rw [optionValue, option_some (hnull b), h b rfl]
    rfl

theorem list_map {d : Decoder β} {f : β → Value} {l : List β} (h : ∀ b ∈ l, d (f b) = some b) :
    d.list (.array (l.map f)) = some l := by
  rw [list, List.mapM_map]
  induction l with
  | nil => rfl
  | cons b l ih =>
    rw [List.mapM_cons, Function.comp_apply, h b List.mem_cons_self,
      ih fun c hc => h c (List.mem_cons_of_mem b hc)]
    rfl

/-- The fields of a record are read one by one. -/
theorem bind_field {d : Decoder β} {key : String} {value part : Value} {b : β}
    {rest : β → Option γ} (hget : value.get key = some part) (h : d part = some b) :
    (field key d value >>= rest) = rest b := by
  rw [field, hget, Option.bind_some, h]
  rfl

theorem bind_optionalField {d : Decoder β} {key : String} {value part : Value} {o : Option β}
    {rest : Option β → Option γ} (hget : value.get key = some part) (h : d.option part = some o) :
    (optionalField key d value >>= rest) = rest o := by
  rw [optionalField, hget, Option.map_some, Option.getD_some, h]
  rfl

end Decoder

end FaLocal
