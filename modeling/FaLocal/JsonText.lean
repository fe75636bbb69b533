import FaLocal.ReuseReconnaissance
import FaLocal.SqliteForensicStore

/-!
# The text of a JSON value

What `serde_json` writes without blanks can be read in one way only, as long as every
number is written with the characters of numbers.
-/
namespace FaLocal

/-- A character that can stand in a number. -/
def NumberChar (c : Char) : Prop := c.isDigit = true ∨ c ∈ ['-', '+', '.', 'e', 'E']

instance : DecidablePred NumberChar := fun c =>
  inferInstanceAs (Decidable (c.isDigit = true ∨ c ∈ ['-', '+', '.', 'e', 'E']))

/-- A value whose numbers are written as numbers. -/
inductive Value.Plain : Value → Prop where
  | null : Plain .null
  | bool (b : Bool) : Plain (.bool b)
  | number {text : String} (nonempty : text.toList ≠ [])
      (chars : ∀ c ∈ text.toList, NumberChar c) : Plain (.number text)
  | string (s : String) : Plain (.string s)
  | array {values : List Value} (items : ∀ value ∈ values, Plain value) : Plain (.array values)
  | object {members : List (String × Value)} (items : ∀ member ∈ members, Plain member.2) :
      Plain (.object members)

/-! ## The first character -/

inductive ValueKind where
  | null | bool | number | string | array | object
  deriving DecidableEq

def Value.kind : Value → ValueKind
  | .null => .null
  | .bool _ => .bool
  | .number _ => .number
  | .string _ => .string
  | .array _ => .array
  | .object _ => .object

/-- What a text is that starts with this character; none starts with a closing bracket. -/
def kindOf (c : Char) : Option ValueKind :=
  match c with
  | 'n' => some .null
  | 't' => some .bool
  | 'f' => some .bool
  | '"' => some .string
  | '[' => some .array
  | '{' => some .object
  | ']' => none
  | _ => some .number

theorem kindOf_numberChar {c : Char} (h : NumberChar c) : kindOf c = some .number := by
  have hopening : ∀ d ∈ ['n', 't', 'f', '"', '[', '{', ']'], ¬ NumberChar d := by
    simp [NumberChar]
  unfold kindOf
  split <;> first
    | rfl
    | exact absurd h (hopening _ (by decide))

/-- The first character tells what the value is. -/
theorem Value.Plain.head {value : Value} (h : value.Plain) :
    ∃ c rest, value.compact = c :: rest ∧ kindOf c = some value.kind := by
  cases h with
  | null => exact ⟨'n', _, rfl, rfl⟩
  | bool b =>
    cases b
    · exact ⟨'f', _, rfl, rfl⟩
    · exact ⟨'t', _, rfl, rfl⟩
  | @number text hne hchars =>
    obtain ⟨c, rest, hcons⟩ := List.exists_cons_of_ne_nil hne
    have hc : NumberChar c := hchars c (by rw [hcons]; exact List.mem_cons_self)
    exact ⟨c, rest, by rw [compact, hcons], kindOf_numberChar hc⟩
  | string s => exact ⟨'"', _, by rw [compact]; rfl, rfl⟩
  | @array values _ =>
    cases values with
    | nil => exact ⟨'[', _, by rw [compact], rfl⟩
    | cons value values => exact ⟨'[', _, by rw [compact], rfl⟩
  | @object members _ =>
    cases members with
    | nil => exact ⟨'{', _, by rw [compact], rfl⟩
    | cons member members => exact ⟨'{', _, by rw [compact], rfl⟩

/-! ## Reading back -/

/-- No number goes on here. -/
def Stops (x : List Char) : Prop := ∀ c ∈ x.head?, ¬ NumberChar c

/-- Behind this value and any other, only texts of the same value agree. -/
def Value.Cancels (value : Value) : Prop :=
  ∀ value' x y, value'.Plain → Stops x → Stops y →
    value.compact ++ x = value'.compact ++ y → value = value' ∧ x = y

theorem number_cancel {u v x y : List Char} (hu : ∀ c ∈ u, NumberChar c)
    (hv : ∀ c ∈ v, NumberChar c) (hx : Stops x) (hy : Stops y) (h : u ++ x = v ++ y) :
    u = v ∧ x = y := by
  induction u generalizing v with
  | nil =>
    cases v with
    | nil => exact ⟨rfl, h⟩
    | cons d v =>
      rw [List.nil_append] at h
      exact absurd (hv d List.mem_cons_self) (hx d (by rw [h]; rfl))
  | cons c u ih =>
    cases v with
    | nil =>
      rw [List.nil_append] at h
      exact absurd (hu c List.mem_cons_self) (hy c (by rw [← h]; rfl))
    | cons d v =>
      obtain ⟨rfl, htail⟩ := List.cons.inj h
      obtain ⟨rfl, hxy⟩ := ih (fun _ hm => hu _ (List.mem_cons_of_mem _ hm))
        (fun _ hm => hv _ (List.mem_cons_of_mem _ hm)) htail
      exact ⟨rfl, hxy⟩

theorem compactItems_stops (values : List Value) (x : List Char) :
    Stops (Value.compactItems values ++ x) := by
  have hstop : ∀ d ∈ [',', ']'], ¬ NumberChar d := by simp [NumberChar]
  cases values <;> rw [Value.compactItems] <;> rintro c ⟨⟩ <;> exact hstop _ (by decide)

theorem compactMembers_stops (members : List (String × Value)) (x : List Char) :
    Stops (Value.compactMembers members ++ x) := by
  have hstop : ∀ d ∈ [',', '}'], ¬ NumberChar d := by simp [NumberChar]
  cases members <;> rw [Value.compactMembers] <;> rintro c ⟨⟩ <;> exact hstop _ (by decide)

theorem compactItems_cancel {values values' : List Value} {x y : List Char}
    (hcancels : ∀ value ∈ values, value.Cancels) (hplain : ∀ value ∈ values', value.Plain)
    (h : Value.compactItems values ++ x = Value.compactItems values' ++ y) :
    values = values' ∧ x = y := by
  induction values generalizing values' with
  | nil =>
    cases values' with
    | nil => exact ⟨rfl, by simpa [Value.compactItems] using h⟩
    | cons value' values' => simp [Value.compactItems] at h
  | cons value values ih =>
    cases values' with
    | nil => simp [Value.compactItems] at h
    | cons value' values' =>
      simp only [Value.compactItems, List.cons_append, List.append_assoc, List.cons.injEq,
        true_and] at h
      obtain ⟨rfl, htail⟩ := hcancels value List.mem_cons_self value' _ _
        (hplain value' List.mem_cons_self) (compactItems_stops _ _) (compactItems_stops _ _) h
      obtain ⟨rfl, hxy⟩ := ih (fun _ hm => hcancels _ (List.mem_cons_of_mem _ hm))
        (fun _ hm => hplain _ (List.mem_cons_of_mem _ hm)) htail
      exact ⟨rfl, hxy⟩

/-- A member is read back with its key. -/
theorem member_cancel {member member' : String × Value} {x y : List Char}
    (hcancels : member.2.Cancels) (hplain : member'.2.Plain) (hx : Stops x) (hy : Stops y)
    (h : Delimited.quoted member.1 ++ ':' :: (member.2.compact ++ x) =
      Delimited.quoted member'.1 ++ ':' :: (member'.2.compact ++ y)) :
    member = member' ∧ x = y := by
  obtain ⟨hkey, htail⟩ := Delimited.quoted_selfDelimiting.cancel h
  obtain ⟨hvalue, hxy⟩ := hcancels _ _ _ hplain hx hy (List.cons.inj htail).2
  exact ⟨Prod.ext hkey hvalue, hxy⟩

theorem compactMembers_cancel {members members' : List (String × Value)} {x y : List Char}
    (hcancels : ∀ member ∈ members, member.2.Cancels)
    (hplain : ∀ member ∈ members', member.2.Plain)
    (h : Value.compactMembers members ++ x = Value.compactMembers members' ++ y) :
    members = members' ∧ x = y := by
  induction members generalizing members' with
  | nil =>
    cases members' with
    | nil => exact ⟨rfl, by simpa [Value.compactMembers] using h⟩
    | cons member' members' => simp [Value.compactMembers] at h
  | cons member members ih =>
    cases members' with
    | nil => simp [Value.compactMembers] at h
    | cons member' members' =>
      simp only [Value.compactMembers, List.cons_append, List.append_assoc, List.cons.injEq,
        true_and] at h
      obtain ⟨rfl, htail⟩ := member_cancel (hcancels member List.mem_cons_self)
        (hplain member' List.mem_cons_self) (compactMembers_stops _ _)
        (compactMembers_stops _ _) h
      obtain ⟨rfl, hxy⟩ := ih (fun _ hm => hcancels _ (List.mem_cons_of_mem _ hm))
        (fun _ hm => hplain _ (List.mem_cons_of_mem _ hm)) htail
      exact ⟨rfl, hxy⟩

theorem array_cancel {values values' : List Value} {x y : List Char}
    (hcancels : ∀ value ∈ values, value.Cancels) (hplain : ∀ value ∈ values, value.Plain)
    (hplain' : ∀ value ∈ values', value.Plain)
    (h : (Value.array values).compact ++ x = (Value.array values').compact ++ y) :
    values = values' ∧ x = y := by
  have hopens : ∀ value : Value, value.Plain → ∀ u v, value.compact ++ u ≠ ']' :: v := by
    intro value hvalue u v heq
    obtain ⟨c, rest, hc, hkind⟩ := hvalue.head
    rw [hc] at heq
    rw [(List.cons.inj heq).1] at hkind
    cases hkind
  cases values with
  | nil =>
    cases values' with
    | nil => exact ⟨rfl, List.append_cancel_left h⟩
    | cons value' values' =>
      simp only [Value.compact, List.cons_append, List.append_assoc, List.nil_append,
        List.cons.injEq, true_and] at h
      exact absurd h.symm (hopens value' (hplain' value' List.mem_cons_self) _ _)
  | cons value values =>
    cases values' with
    | nil =>
      simp only [Value.compact, List.cons_append, List.append_assoc, List.nil_append,
        List.cons.injEq, true_and] at h
      exact absurd h (hopens value (hplain value List.mem_cons_self) _ _)
    | cons value' values' =>
      -- behind the bracket both go on like items behind a comma
      refine compactItems_cancel hcancels hplain' ?_
      simpa only [Value.compact, Value.compactItems, List.cons_append, List.cons.injEq,
        true_and] using h

theorem object_cancel {members members' : List (String × Value)} {x y : List Char}
    (hcancels : ∀ member ∈ members, member.2.Cancels)
    (hplain : ∀ member ∈ members', member.2.Plain)
    (h : (Value.object members).compact ++ x = (Value.object members').compact ++ y) :
    members = members' ∧ x = y := by
  cases members with
  | nil =>
    cases members' with
    | nil => exact ⟨rfl, List.append_cancel_left h⟩
    | cons member' members' => simp [Value.compact, Delimited.quoted] at h
  | cons member members =>
    cases members' with
    | nil => simp [Value.compact, Delimited.quoted] at h
    | cons member' members' =>
      refine compactMembers_cancel hcancels hplain ?_
      simpa only [Value.compact, Value.compactMembers, List.cons_append, List.cons.injEq,
        true_and] using h

/-- Values whose texts agree start with the same character. -/
theorem kind_eq {value value' : Value} {x y : List Char} (hplain : value.Plain)
    (hplain' : value'.Plain) (h : value.compact ++ x = value'.compact ++ y) :
    value.kind = value'.kind := by
  obtain ⟨c, rest, hc, hkind⟩ := hplain.head
  obtain ⟨c', rest', hc', hkind'⟩ := hplain'.head
  rw [hc, hc'] at h
  rw [(List.cons.inj h).1, hkind'] at hkind
  exact (Option.some.inj hkind).symm

/-- The text of a plain value tells which value it is and where it ends. -/
theorem Value.Plain.cancels {value : Value} (h : value.Plain) : value.Cancels := by
  have hkinds : ∀ {value' : Value} {x y : List Char}, value'.Plain →
      value.compact ++ x = value'.compact ++ y → value.kind = value'.kind :=
    fun hplain' heq => kind_eq h hplain' heq
  induction h with
  | null =>
    intro value' x y hplain _ _ heq
    have hkind := hkinds hplain heq
    cases hplain <;> cases hkind
    exact ⟨rfl, List.append_cancel_left heq⟩
  | bool b =>
    intro value' x y hplain _ _ heq
    have hkind := hkinds hplain heq
    cases hplain <;> cases hkind
    rename_i b'
    cases b <;> cases b'
    · exact ⟨rfl, List.append_cancel_left heq⟩
    · cases heq
    · cases heq
    · exact ⟨rfl, List.append_cancel_left heq⟩
  | @number text _ hchars =>
    intro value' x y hplain hx hy heq
    have hkind := hkinds hplain heq
    cases hplain <;> cases hkind
    rename_i text' _ hchars'
    rw [compact, compact] at heq
    obtain ⟨htext, hxy⟩ := number_cancel hchars hchars' hx hy heq
    exact ⟨congrArg Value.number (String.toList_injective htext), hxy⟩
  | string s =>
    intro value' x y hplain _ _ heq
    have hkind := hkinds hplain heq
    cases hplain <;> cases hkind
    rw [compact, compact] at heq
    obtain ⟨rfl, hxy⟩ := Delimited.quoted_selfDelimiting.cancel heq
    exact ⟨rfl, hxy⟩
  | @array values items ih =>
    intro value' x y hplain _ _ heq
    have hkind := hkinds hplain heq
    cases hplain <;> cases hkind
    rename_i values' items'
    have hcancels : ∀ value ∈ values, value.Cancels := fun value hvalue =>
      ih value hvalue fun hplain' heq => kind_eq (items value hvalue) hplain' heq
    obtain ⟨rfl, hxy⟩ := array_cancel hcancels items items' heq
    exact ⟨rfl, hxy⟩
  | @object members items ih =>
    intro value' x y hplain _ _ heq
    have hkind := hkinds hplain heq
    cases hplain <;> cases hkind
    rename_i members' items'
    have hcancels : ∀ member ∈ members, member.2.Cancels := fun member hmember =>
      ih member hmember fun hplain' heq => kind_eq (items member hmember) hplain' heq
    obtain ⟨rfl, hxy⟩ := object_cancel hcancels items' heq
    exact ⟨rfl, hxy⟩

theorem compact_injective {value value' : Value} (h : value.Plain) (h' : value'.Plain)
    (heq : value.compact = value'.compact) : value = value' := by
  have hend : Stops [] := by rintro c ⟨⟩
  exact (h.cancels value' [] [] h' hend hend (by rw [heq])).1

end FaLocal
