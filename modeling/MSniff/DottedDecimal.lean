/-
Texts of decimal numbers between dots, over the codes of their characters: which of
them are four numbers of a byte each, what they denote, and the canonical text for
given numbers, which is the only one without leading zeros.
-/

import Mathlib.Algebra.Group.Nat.Defs
import Mathlib.Data.List.GetD
import Mathlib.Data.List.Induction

namespace MSniff.DottedDecimal

/-! ### Decimal numbers -/

def isDigit (c : UInt8) : Bool := 48 ≤ c ∧ c ≤ 57

def value (digits : List UInt8) : Nat :=
  digits.foldl (fun total c => 10 * total + (c.toNat - 48)) 0

def charCode (c : Char) : UInt8 := UInt8.ofNat c.toNat

def render (n : Nat) : List UInt8 := (Nat.toDigits 10 n).map charCode

def digitCode (digit : Nat) : UInt8 := UInt8.ofNat (48 + digit)

theorem isDigit_iff (c : UInt8) : isDigit c = true ↔ 48 ≤ c.toNat ∧ c.toNat ≤ 57 := by
  simp only [isDigit, decide_eq_true_eq, UInt8.le_iff_toNat_le]
  exact Iff.rfl

theorem toNat_digitCode {digit : Nat} (small : digit < 10) :
    (digitCode digit).toNat = 48 + digit := by
  rw [digitCode, UInt8.toNat_ofNat', Nat.mod_eq_of_lt (by omega)]

theorem isDigit_digitCode {digit : Nat} (small : digit < 10) :
    isDigit (digitCode digit) = true := by
  rw [isDigit_iff, toNat_digitCode small]
  omega

theorem digitCode_of_isDigit {c : UInt8} (digit : isDigit c = true) :
    digitCode (c.toNat - 48) = c := by
  have bounds := (isDigit_iff c).mp digit
  rw [← UInt8.toNat_inj, toNat_digitCode (by omega)]
  omega

theorem value_append_singleton (digits : List UInt8) (c : UInt8) :
    value (digits ++ [c]) = 10 * value digits + (c.toNat - 48) := by
  rw [value, List.foldl_append]
  rfl

theorem value_le_append (digits more : List UInt8) : value digits ≤ value (digits ++ more) := by
  induction more using List.reverseRecOn with
  | nil => exact Nat.le_of_eq (congrArg value (List.append_nil digits).symm)
  | append_singleton more c ih =>
      rw [← List.append_assoc, value_append_singleton]
      omega

theorem render_eq (n : Nat) :
    render n = if n < 10 then [digitCode n] else render (n / 10) ++ [digitCode (n % 10)] := by
  have code : ∀ digit < 10, charCode digit.digitChar = digitCode digit := by
    intro digit small
    rw [charCode, Nat.toNat_digitChar_of_lt_ten small, digitCode]
  rw [render, Nat.toDigits_eq_if (by omega)]
  by_cases small : n < 10
  · rw [if_pos small, if_pos small, List.map_singleton, code n small]
  · rw [if_neg small, if_neg small, List.map_append, List.map_singleton,
      code (n % 10) (Nat.mod_lt n (by omega)), render]

theorem value_render (n : Nat) : value (render n) = n := by
  induction n using Nat.strongRecOn with
  | ind n ih =>
      rw [render_eq]
      by_cases small : n < 10
      · rw [if_pos small]
        change 10 * 0 + ((digitCode n).toNat - 48) = n
        rw [toNat_digitCode small]
        omega
      · have last : n % 10 < 10 := Nat.mod_lt n (by omega)
        rw [if_neg small, value_append_singleton, ih (n / 10) (by omega), toNat_digitCode last]
        omega

theorem render_ne_nil (n : Nat) : render n ≠ [] := by
  rw [render, ne_eq, List.map_eq_nil_iff]
  exact Nat.toDigits_ne_nil

theorem isDigit_of_mem_render {n : Nat} {c : UInt8} (member : c ∈ render n) :
    isDigit c = true := by
  induction n using Nat.strongRecOn with
  | ind n ih =>
      rw [render_eq] at member
      by_cases small : n < 10
      · rw [if_pos small, List.mem_singleton] at member
        rw [member]
        exact isDigit_digitCode small
      · rw [if_neg small] at member
        rcases List.mem_append.mp member with earlier | last
        · exact ih (n / 10) (by omega) earlier
        · rw [List.mem_singleton.mp last]
          exact isDigit_digitCode (Nat.mod_lt n (by omega))

theorem length_render_le {n width : Nat} (positive : 0 < width) (small : n < 10 ^ width) :
    (render n).length ≤ width := by
  rw [render, List.length_map]
  exact (Nat.length_toDigits_le_iff (by omega) positive).mpr small

/-! ### Leading zeros -/

/-- A nonempty run of digits that begins with zero only where it is zero. -/
structure Canonical (digits : List UInt8) : Prop where
  nonempty : digits ≠ []
  decimal : ∀ c ∈ digits, isDigit c = true
  noLeadingZero : 1 < digits.length → digits.head? ≠ some 48

theorem head_append {digits : List UInt8} (nonempty : digits ≠ []) (c : UInt8) :
    (digits ++ [c]).head? = digits.head? := by
  cases digits with
  | nil => exact absurd rfl nonempty
  | cons first rest => rfl

/-- A digit string without leading zeros is what its value is rendered as. -/
theorem Canonical.render_value {digits : List UInt8} (canonical : Canonical digits) :
    render (value digits) = digits := by
  induction digits using List.reverseRecOn with
  | nil => exact absurd rfl canonical.nonempty
  | append_singleton digits c ih =>
      have digit : isDigit c = true :=
        canonical.decimal c (List.mem_append_right _ (List.mem_singleton_self c))
      have bounds := (isDigit_iff c).mp digit
      cases digits with
      | nil =>
          have alone : value ([] ++ [c]) = c.toNat - 48 := Nat.zero_add _
          rw [alone, render_eq, if_pos (by omega), digitCode_of_isDigit digit, List.nil_append]
      | cons first rest =>
          have head := canonical.noLeadingZero (by simp)
          have shorter : Canonical (first :: rest) :=
            { nonempty := List.cons_ne_nil _ _
              decimal := fun other member => canonical.decimal other (List.mem_append_left _ member)
              noLeadingZero := fun _ => head }
          have rendered := ih shorter
          have positive : 0 < value (first :: rest) := by
            apply Nat.pos_of_ne_zero
            intro zero
            rw [zero] at rendered
            apply head
            rw [head_append (List.cons_ne_nil _ _), ← rendered]
            rfl
          have front : (10 * value (first :: rest) + (c.toNat - 48)) / 10 =
              value (first :: rest) := by omega
          have back : (10 * value (first :: rest) + (c.toNat - 48)) % 10 = c.toNat - 48 := by
            omega
          rw [value_append_singleton, render_eq, if_neg (by omega), front, back, rendered,
            digitCode_of_isDigit digit]

theorem canonical_render (n : Nat) : Canonical (render n) where
  nonempty := render_ne_nil n
  decimal := fun _ => isDigit_of_mem_render
  noLeadingZero := by
    induction n using Nat.strongRecOn with
    | ind n ih =>
        intro long zero
        rw [render_eq] at long zero
        by_cases small : n < 10
        · rw [if_pos small] at long
          exact absurd long (Nat.lt_irrefl 1)
        · rw [if_neg small] at zero
          rw [head_append (render_ne_nil _)] at zero
          by_cases two : 1 < (render (n / 10)).length
          · exact ih (n / 10) (by omega) two zero
          · rw [render_eq] at zero two
            by_cases tens : n / 10 < 10
            · rw [if_pos tens, List.head?_cons, Option.some.injEq, ← UInt8.toNat_inj,
                toNat_digitCode tens] at zero
              have code : (48 : UInt8).toNat = 48 := rfl
              omega
            · rw [if_neg tens, List.length_append] at two
              have nonempty := List.length_pos_iff.mpr (render_ne_nil (n / 10 / 10))
              simp only [List.length_singleton] at two
              omega

/-! ### Dotted texts -/

def dot : UInt8 := 46

def fields (text : List UInt8) : List (List UInt8) := text.splitOn dot

theorem fields_ne_nil (text : List UInt8) : fields text ≠ [] := List.splitOn_ne_nil dot text

/-- Digits, possibly none, of a number that fits a byte. -/
structure Readable (field : List UInt8) : Prop where
  decimal : ∀ c ∈ field, isDigit c = true
  small : value field ≤ 255

instance decidableDecimal (field : List UInt8) : Decidable (∀ c ∈ field, isDigit c = true) :=
  List.decidableBAll _ field

theorem readable_iff (field : List UInt8) :
    Readable field ↔ (∀ c ∈ field, isDigit c = true) ∧ value field ≤ 255 := by
  constructor
  · intro readable
    exact ⟨readable.decimal, readable.small⟩
  · intro both
    exact ⟨both.1, both.2⟩

instance decidableReadable (field : List UInt8) : Decidable (Readable field) :=
  decidable_of_iff _ (readable_iff field).symm

structure WellFormed (text : List UInt8) : Prop where
  four : (fields text).length = 4
  octets : ∀ field ∈ fields text, field ≠ [] ∧ Readable field

instance decidableWellFormed (text : List UInt8) : Decidable (WellFormed text) :=
  decidable_of_iff
    ((fields text).length = 4 ∧ ∀ field ∈ fields text, field ≠ [] ∧ Readable field)
    ⟨fun both => ⟨both.1, both.2⟩, fun wellFormed => ⟨wellFormed.four, wellFormed.octets⟩⟩

/-- The number between the dots at a place of the text. -/
def octetAt (text : List UInt8) (place : Nat) : Nat := value ((fields text).getD place [])

def Denotes (text : List UInt8) (bytes : Fin 4 → UInt8) : Prop :=
  WellFormed text ∧ ∀ place : Fin 4, (bytes place).toNat = octetAt text place

def CanonicalText (text : List UInt8) : Prop := ∀ field ∈ fields text, Canonical field

def dotted (octets : List Nat) : List UInt8 := [dot].intercalate (octets.map render)

theorem dot_not_mem {field : List UInt8} (decimal : ∀ c ∈ field, isDigit c = true) :
    dot ∉ field := by
  intro member
  cases decimal dot member

theorem fields_dotted {octets : List Nat} (nonempty : octets ≠ []) :
    fields (dotted octets) = octets.map render := by
  apply List.splitOn_intercalate
  · intro field member
    obtain ⟨n, _, rfl⟩ := List.mem_map.mp member
    exact dot_not_mem fun _ => isDigit_of_mem_render
  · rwa [ne_eq, List.map_eq_nil_iff]

theorem canonicalText_dotted {octets : List Nat} (nonempty : octets ≠ []) :
    CanonicalText (dotted octets) := by
  intro field member
  rw [fields_dotted nonempty] at member
  obtain ⟨n, _, rfl⟩ := List.mem_map.mp member
  exact canonical_render n

theorem octetAt_dotted {octets : List Nat} (nonempty : octets ≠ []) {place : Nat}
    (inside : place < octets.length) : octetAt (dotted octets) place = octets[place] := by
  have insideFields : place < (octets.map render).length := by
    rw [List.length_map]
    exact inside
  rw [octetAt, fields_dotted nonempty, List.getD_eq_getElem _ _ insideFields, List.getElem_map,
    value_render]

theorem wellFormed_dotted {octets : List Nat} (four : octets.length = 4)
    (small : ∀ octet ∈ octets, octet ≤ 255) : WellFormed (dotted octets) := by
  have nonempty : octets ≠ [] := fun none => by
    rw [none] at four
    cases four
  constructor
  · rw [fields_dotted nonempty, List.length_map]
    exact four
  · intro field member
    rw [fields_dotted nonempty] at member
    obtain ⟨octet, listed, rfl⟩ := List.mem_map.mp member
    refine ⟨render_ne_nil octet, fun _ => isDigit_of_mem_render, ?_⟩
    rw [value_render]
    exact small octet listed

theorem length_dotted_lt {octets : List Nat} (nonempty : octets ≠ [])
    (small : ∀ octet ∈ octets, octet ≤ 255) : (dotted octets).length < 4 * octets.length := by
  induction octets with
  | nil => exact absurd rfl nonempty
  | cons octet rest ih =>
      have bounded : octet < 10 ^ 3 :=
        Nat.lt_of_le_of_lt (small octet List.mem_cons_self) (by omega)
      have first := length_render_le (by omega) bounded
      cases rest with
      | nil =>
          rw [dotted, List.map_singleton, List.intercalate_singleton, List.length_singleton]
          omega
      | cons next rest =>
          have later := ih (List.cons_ne_nil _ _) fun other member =>
            small other (List.mem_cons_of_mem _ member)
          rw [dotted, List.map_cons, List.map_cons, List.intercalate_cons_cons, ← List.map_cons,
            ← dotted]
          simp only [List.length_append, List.length_cons, List.length_nil] at later ⊢
          omega

theorem mem_dotted {octets : List Nat} {c : UInt8} (member : c ∈ dotted octets) :
    c = dot ∨ isDigit c = true := by
  induction octets with
  | nil => cases member
  | cons octet rest ih =>
      cases rest with
      | nil =>
          rw [dotted, List.map_singleton, List.intercalate_singleton] at member
          exact Or.inr (isDigit_of_mem_render member)
      | cons next rest =>
          rw [dotted, List.map_cons, List.map_cons, List.intercalate_cons_cons, ← List.map_cons,
            ← dotted, List.mem_append, List.mem_append, List.mem_singleton] at member
          rcases member with (first | separator) | later
          · exact Or.inr (isDigit_of_mem_render first)
          · exact Or.inl separator
          · exact ih later

theorem CanonicalText.eq_dotted {text : List UInt8} (canonical : CanonicalText text) :
    text = dotted ((fields text).map value) := by
  have rendered : ((fields text).map value).map render = fields text := by
    have same : ∀ field ∈ fields text, (render ∘ value) field = id field :=
      fun field member => (canonical field member).render_value
    rw [List.map_map, List.map_congr_left same, List.map_id]
  rw [dotted, rendered]
  exact (List.intercalate_splitOn dot).symm

theorem denotes_unique {text : List UInt8} {left right : Fin 4 → UInt8}
    (denotesLeft : Denotes text left) (denotesRight : Denotes text right) : left = right := by
  funext place
  rw [← UInt8.toNat_inj, denotesLeft.2 place, denotesRight.2 place]

/-- Of the texts that denote four bytes one is canonical. -/
theorem canonicalText_unique {first second : List UInt8} {bytes : Fin 4 → UInt8}
    (firstCanonical : CanonicalText first) (secondCanonical : CanonicalText second)
    (firstDenotes : Denotes first bytes) (secondDenotes : Denotes second bytes) :
    first = second := by
  rw [firstCanonical.eq_dotted, secondCanonical.eq_dotted]
  apply congrArg dotted
  apply List.ext_getElem
  · rw [List.length_map, List.length_map, firstDenotes.1.four, secondDenotes.1.four]
  · intro place inFirst inSecond
    rw [List.length_map] at inFirst inSecond
    have same := (firstDenotes.2 ⟨place, firstDenotes.1.four ▸ inFirst⟩).symm.trans
      (secondDenotes.2 ⟨place, firstDenotes.1.four ▸ inFirst⟩)
    rw [octetAt, octetAt, List.getD_eq_getElem _ _ inFirst, List.getD_eq_getElem _ _ inSecond]
      at same
    rw [List.getElem_map, List.getElem_map]
    exact same

end MSniff.DottedDecimal
