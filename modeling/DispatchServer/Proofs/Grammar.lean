import Mathlib.Algebra.Group.Nat.Defs
import Mathlib.Data.List.Basic
import DispatchServer.Json.Reader

/-! The grammar of the texts that a reader takes, and that the readers of strings and of whole
numbers keep to it. -/
namespace DispatchServer.Json

/-- Space between the parts of a text. -/
def Blank (written : List Char) : Prop := ∀ c ∈ written, c ∈ [' ', '\n', '\t', '\r']

inductive HexDigit : Char → Nat → Prop
  | decimal {d : Nat} (less : d < 10) : HexDigit (Char.ofNat (0x30 + d)) d
  | lower {d : Nat} (less : d < 6) : HexDigit (Char.ofNat (0x61 + d)) (10 + d)
  | upper {d : Nat} (less : d < 6) : HexDigit (Char.ofNat (0x41 + d)) (10 + d)

/-- Four hexadecimal digits. -/
inductive Hex : List Char → Nat → Prop
  | digits {a b c d : Char} {i j k l : Nat} (first : HexDigit a i) (second : HexDigit b j)
      (third : HexDigit c k) (fourth : HexDigit d l) :
      Hex [a, b, c, d] (i * 16 ^ 3 + j * 16 ^ 2 + k * 16 + l)

def escapes : List (Char × Char) :=
  [('"', '"'), ('\\', '\\'), ('/', '/'), ('b', '\x08'), ('f', '\x0c'), ('n', '\n'), ('r', '\r'),
    ('t', '\t')]

/-- What stands between quotes, and what it means. -/
inductive Spells : List Char → List Char → Prop
  | nil : Spells [] []
  | plain {c : Char} {written meant : List Char} (printable : ' ' ≤ c) (unquoted : c ≠ '"')
      (unescaped : c ≠ '\\') (rest : Spells written meant) : Spells (c :: written) (c :: meant)
  | escape {c e : Char} {written meant : List Char} (known : (c, e) ∈ escapes)
      (rest : Spells written meant) : Spells ('\\' :: c :: written) (e :: meant)
  | unit {hex written meant : List Char} {n : Nat} (code : Hex hex n)
      (scalar : n < 0xD800 ∨ 0xDFFF < n) (rest : Spells written meant) :
      Spells ('\\' :: 'u' :: (hex ++ written)) (Char.ofNat n :: meant)
  | pair {high low written meant : List Char} {m n : Nat} (first : Hex high m)
      (leads : 0xD800 ≤ m ∧ m ≤ 0xDBFF) (second : Hex low n) (trails : 0xDC00 ≤ n ∧ n ≤ 0xDFFF)
      (rest : Spells written meant) :
      Spells ('\\' :: 'u' :: (high ++ '\\' :: 'u' :: (low ++ written)))
        (Char.ofNat ((m - 0xD800) * 0x400 + (n - 0xDC00) + 0x10000) :: meant)

/-- A whole number. -/
inductive Integer : List Char → Nat → Prop
  | digits {space : List Char} {n : Nat} (blank : Blank space) :
      Integer (space ++ Nat.toDigits 10 n) n

inductive Truth : List Char → Bool → Prop
  | true {space : List Char} (blank : Blank space) : Truth (space ++ ['t', 'r', 'u', 'e']) true
  | false {space : List Char} (blank : Blank space) :
      Truth (space ++ ['f', 'a', 'l', 's', 'e']) false

/-- A string. -/
inductive Quoted : List Char → String → Prop
  | string {space written : List Char} {name : String} (blank : Blank space)
      (spells : Spells written name.toList) : Quoted (space ++ '"' :: (written ++ ['"'])) name

/-- A name, which may also be the only key of an object with null for its value. -/
inductive Choice : List Char → String → Prop
  | string {quoted : List Char} {name : String} (named : Quoted quoted name) : Choice quoted name
  | object {first second third last quoted : List Char} {name : String} (opens : Blank first)
      (named : Quoted quoted name) (colon : Blank second) (null : Blank third)
      (closes : Blank last) :
      Choice (first ++ '\x7b' :: (quoted ++ (second ++ ':' :: (third ++
        'n' :: 'u' :: 'l' :: 'l' :: (last ++ ['\x7d']))))) name

inductive Lead : (first : Bool) → List Char → Prop
  | first : Lead true []
  | comma {space : List Char} (blank : Blank space) : Lead false (space ++ [','])

section

variable {α : Type} (item : List Char → α → Prop)

inductive Series : (first : Bool) → List Char → List α → Prop
  | ends {first : Bool} {space : List Char} (blank : Blank space) : Series first space []
  | more {first : Bool} {lead one others : List Char} {value : α} {values : List α}
      (leads : Lead first lead) (reads : item one value) (rest : Series false others values) :
      Series first (lead ++ (one ++ others)) (value :: values)

inductive Listed : List Char → List α → Prop
  | list {space written : List Char} {values : List α} (blank : Blank space)
      (series : Series item true written values) :
      Listed (space ++ '[' :: (written ++ [']'])) values

end

theorem hexDigit?_eq_some_iff {c : Char} {n : Nat} : hexDigit? c = some n ↔ HexDigit c n := by
  constructor
  · intro h
    have named {first : Nat} (row : first ≤ c.toNat) :
        c = Char.ofNat (first + (c.toNat - first)) := by
      rw [Nat.add_sub_cancel' row, Char.ofNat_toNat]
    have decimal {d : Nat} (same : c = Char.ofNat (0x30 + d)) (less : d < 10) : HexDigit c d :=
      same ▸ .decimal less
    have lower {d : Nat} (same : c = Char.ofNat (0x61 + d)) (less : d < 6) :
        HexDigit c (10 + d) := same ▸ .lower less
    have upper {d : Nat} (same : c = Char.ofNat (0x41 + d)) (less : d < 6) :
        HexDigit c (10 + d) := same ▸ .upper less
    unfold hexDigit? at h
    split at h
    · rename_i range
      have low : 0x30 ≤ c.toNat := range.1
      have high : c.toNat ≤ 0x39 := range.2
      cases h
      exact decimal (named low) (by omega)
    split at h
    · rename_i range
      have low : 0x61 ≤ c.toNat := range.1
      have high : c.toNat ≤ 0x66 := range.2
      cases h
      rw [show c.toNat - 87 = 10 + (c.toNat - 0x61) by omega]
      exact lower (named low) (by omega)
    split at h
    · rename_i range
      have low : 0x41 ≤ c.toNat := range.1
      have high : c.toNat ≤ 0x46 := range.2
      cases h
      rw [show c.toNat - 55 = 10 + (c.toNat - 0x41) by omega]
      exact upper (named low) (by omega)
    · cases h
  · intro digit
    cases digit with
    | decimal less =>
      revert n
      decide
    | @lower d less =>
      revert d
      decide
    | @upper d less =>
      revert d
      decide

theorem simpleEscape?_eq_some_iff {c e : Char} : simpleEscape? c = some e ↔ (c, e) ∈ escapes := by
  constructor
  · intro h
    unfold simpleEscape? at h
    split at h <;> cases h <;> decide
  · intro h
    simp only [escapes, List.mem_cons, Prod.mk.injEq, List.not_mem_nil, or_false] at h
    rcases h with ⟨rfl, rfl⟩ | ⟨rfl, rfl⟩ | ⟨rfl, rfl⟩ | ⟨rfl, rfl⟩ | ⟨rfl, rfl⟩ | ⟨rfl, rfl⟩ |
      ⟨rfl, rfl⟩ | ⟨rfl, rfl⟩ <;> rfl

theorem hexValue?_eq_some_iff {a b c d : Char} {n : Nat} :
    hexValue? a b c d = some n ↔ Hex [a, b, c, d] n := by
  constructor
  · intro h
    simp only [hexValue?, Option.bind_eq_bind, Option.bind_eq_some_iff, hexDigit?_eq_some_iff,
      Option.pure_def, Option.some.injEq] at h
    obtain ⟨i, first, j, second, k, third, l, fourth, rfl⟩ := h
    rw [show ((i * 16 + j) * 16 + k) * 16 + l = i * 16 ^ 3 + j * 16 ^ 2 + k * 16 + l by omega]
    exact .digits first second third fourth
  · rintro ⟨first, second, third, fourth⟩
    simp only [hexValue?, hexDigit?_eq_some_iff.2 first, hexDigit?_eq_some_iff.2 second,
      hexDigit?_eq_some_iff.2 third, hexDigit?_eq_some_iff.2 fourth, Option.bind_eq_bind,
      Option.bind_some, Option.pure_def, Option.some.injEq]
    omega

theorem hexFault_ne_ok {α : Type} (left : List Char) (read : α × List Char) :
    hexFault left ≠ .ok read := by
  unfold hexFault
  split <;> exact nofun

theorem spells_of_string {left before rest : List Char} {s : String}
    (h : string left before = .ok (s, rest)) : ∃ written meant,
      left = written ++ '"' :: rest ∧ Spells written meant ∧
        s = String.ofList (before.reverse ++ meant) := by
  fun_induction string left before
  -- What stands in front is read already, and the rest is a string.
  case case6 code _ scalar ih =>
    obtain ⟨written, meant, rfl, spells, rfl⟩ := ih h
    exact ⟨_, _, rfl, .unit (hexValue?_eq_some_iff.1 code) (by omega) spells, by simp⟩
  case case11 first _ _ _ _ _ _ _ _ second _ ih =>
    obtain ⟨written, meant, rfl, spells, rfl⟩ := ih h
    exact ⟨_, _, rfl, .pair (hexValue?_eq_some_iff.1 first) (by omega)
      (hexValue?_eq_some_iff.1 second) (by omega) spells, by simp⟩
  case case17 known ih =>
    obtain ⟨written, meant, rfl, spells, rfl⟩ := ih h
    exact ⟨_, _, rfl, .escape (simpleEscape?_eq_some_iff.1 known) spells, by simp⟩
  case case19 c _ _ unquoted single _ _ escaped printable ih =>
    obtain ⟨written, meant, rfl, spells, rfl⟩ := ih h
    refine ⟨_, _, rfl, .plain (Char.not_lt.1 printable) unquoted (fun same => ?_) spells, by simp⟩
    cases written with
    | nil => exact escaped _ _ same rfl
    | cons => exact escaped _ _ same rfl
  case case2 =>
    cases h
    exact ⟨[], [], rfl, .nil, by simp⟩
  all_goals first | cases h | exact absurd h (hexFault_ne_ok _ _)

theorem string_of_spells {written meant : List Char} (spells : Spells written meant)
    (before rest : List Char) : string (written ++ '"' :: rest) before =
      .ok (String.ofList (before.reverse ++ meant), rest) := by
  induction spells generalizing before with
  | nil => simp [string]
  | plain printable unquoted unescaped _ ih =>
    rw [List.cons_append, string, if_neg (Char.not_lt.2 printable), ih]
    · simp
    all_goals simp [unquoted, unescaped]
  | @escape c e written meant known _ ih =>
    have apart : c ≠ 'u' := by
      rintro rfl
      revert known
      simp [escapes]
    rw [List.cons_append, List.cons_append, string, simpleEscape?_eq_some_iff.2 known]
    · dsimp only
      rw [ih]
      simp
    all_goals simp [apart]
  | unit code scalar _ ih =>
    cases code with
    | digits first second third fourth =>
      have value := hexValue?_eq_some_iff.2 (.digits first second third fourth)
      simp only [List.cons_append, List.nil_append, string, value]
      rw [if_neg (by omega), if_pos (by omega), ih]
      simp
  | pair first leads second trails _ ih =>
    cases first with
    | digits a b c d =>
      cases second with
      | digits e f g h =>
        have high := hexValue?_eq_some_iff.2 (.digits a b c d)
        have low := hexValue?_eq_some_iff.2 (.digits e f g h)
        simp only [List.cons_append, List.nil_append, string, high, low]
        rw [if_neg (by omega), if_neg (by omega), if_neg (by omega), ih]
        simp

/-- No number goes on here. -/
def Stops (left : List Char) : Prop :=
  ∀ c ∈ left.head?, c.isDigit = false ∧ c ≠ '.' ∧ c ≠ 'e' ∧ c ≠ 'E'

theorem isDigit_iff {c : Char} : c.isDigit = true ↔ 0x30 ≤ c.toNat ∧ c.toNat ≤ 0x39 := by
  simp only [Char.isDigit, Bool.and_eq_true, decide_eq_true_eq]
  rfl

theorem digit?_eq_some_iff {c : Char} {d : Nat} :
    digit? c = some d ↔ c.isDigit = true ∧ d = c.toNat - 48 := by
  have same : c.isDigit = true ↔ '0' ≤ c ∧ c ≤ '9' := isDigit_iff
  rw [digit?, same]
  split
  · rename_i range
    simp [range, eq_comm]
  · rename_i outside
    simp [outside]

theorem digitChar_of_isDigit {c : Char} (digit : c.isDigit = true) :
    Nat.digitChar (c.toNat - 48) = c := by
  have range := isDigit_iff.1 digit
  refine Char.toNat_inj.1 ?_
  rw [Nat.toNat_digitChar_of_lt_ten (by omega)]
  omega

/-- Digits behind a number that is not zero make it longer. -/
theorem toDigits_ofDigitChars {digits : List Char} (all : ∀ c ∈ digits, c.isDigit = true) {n : Nat}
    (some : 0 < n) :
    Nat.toDigits 10 (Nat.ofDigitChars 10 digits n) = Nat.toDigits 10 n ++ digits := by
  induction digits generalizing n with
  | nil => rw [Nat.ofDigitChars_nil, List.append_nil]
  | cons c digits ih =>
    obtain ⟨digit, all⟩ := List.forall_mem_cons.1 all
    have range := isDigit_iff.1 digit
    have less : c.toNat - '0'.toNat < 10 := by
      show c.toNat - 48 < 10
      omega
    rw [Nat.ofDigitChars_cons, ih all (by omega),
      ← Nat.toDigits_append_toDigits (by decide) some less, Nat.toDigits_of_lt_base less,
      List.append_assoc]
    exact congrArg (Nat.toDigits 10 n ++ · :: digits) (digitChar_of_isDigit digit)

/-- Only zero begins with a zero. -/
theorem head?_toDigits {n : Nat} (positive : 0 < n) : (Nat.toDigits 10 n).head? ≠ some '0' := by
  induction n using Nat.strongRecOn with
  | ind n ih =>
    rcases Nat.lt_or_ge n 10 with less | more
    · rw [Nat.toDigits_of_lt_base less, List.head?_cons, ne_eq, Option.some.injEq,
        Nat.digitChar_eq_zero]
      omega
    · rw [Nat.toDigits_of_base_le (by decide) more,
        List.head?_append_of_ne_nil _ Nat.toDigits_ne_nil]
      exact ih _ (by omega) (by omega)

theorem digit?_of_stops {c : Char} {rest : List Char} (stops : Stops (c :: rest)) :
    digit? c = none := by
  refine Option.eq_none_iff_forall_ne_some.2 fun d known => ?_
  exact Bool.false_ne_true ((stops c rfl).1.symm.trans (digit?_eq_some_iff.1 known).1)

theorem significand_append {digits : List Char} (all : ∀ c ∈ digits, c.isDigit = true)
    {value : Nat} (fits : Nat.ofDigitChars 10 digits value < 2 ^ 64) {rest : List Char}
    (stops : Stops rest) (count : Nat) :
    ∃ count', significand value count (digits ++ rest) =
      (Nat.ofDigitChars 10 digits value, count', false, rest) := by
  induction digits generalizing value count with
  | nil =>
    cases rest with
    | nil => exact ⟨_, rfl⟩
    | cons c rest => simp [significand, digit?_of_stops stops]
  | cons c digits ih =>
    obtain ⟨digit, all⟩ := List.forall_mem_cons.1 all
    rw [Nat.ofDigitChars_cons, Nat.mul_comm] at fits ⊢
    obtain ⟨count', read⟩ := ih all fits (count + 1)
    refine ⟨count', ?_⟩
    rw [List.cons_append, significand, digit?_eq_some_iff.2 ⟨digit, rfl⟩]
    rw [Nat.ofDigitChars_eq_ofDigitChars_zero] at fits
    have least := Nat.le_mul_of_pos_left (value * 10 + (c.toNat - '0'.toNat))
      (Nat.pow_pos (n := digits.length) (by decide : 0 < 10))
    have small : value * 10 + (c.toNat - 48) < UInt64.size := by
      show value * 10 + (c.toNat - '0'.toNat) < 2 ^ 64
      omega
    dsimp only
    rw [if_neg (Nat.not_le.2 small)]
    exact read

theorem significand_eq {value count count' v : Nat} {left rest : List Char}
    (h : significand value count left = (v, count', false, rest)) :
    ∃ digits, left = digits ++ rest ∧ (∀ c ∈ digits, c.isDigit = true) ∧
      v = Nat.ofDigitChars 10 digits value := by
  induction left generalizing value count with
  | nil =>
    cases h
    exact ⟨[], rfl, by simp, by simp⟩
  | cons c left ih =>
    unfold significand at h
    split at h
    · cases h
      exact ⟨[], rfl, by simp, by simp⟩
    · rename_i d known
      split at h
      · cases h
      · obtain ⟨digits, rfl, all, rfl⟩ := ih h
        obtain ⟨digit, rfl⟩ := digit?_eq_some_iff.1 known
        refine ⟨c :: digits, rfl, List.forall_mem_cons.2 ⟨digit, all⟩, ?_⟩
        rw [Nat.ofDigitChars_cons, Nat.mul_comm]
        rfl

section

variable {positive : Bool} {value n : Nat} {start : Int} {left rest : List Char}

theorem double_ne_unsigned : double positive value start left ≠ .ok (.unsigned n, rest) := by
  intro h
  unfold double at h
  dsimp only at h
  (repeat' split at h) <;> cases h

theorem exponent_ne_unsigned : exponent positive value start left ≠ .ok (.unsigned n, rest) := by
  intro h
  unfold exponent at h
  dsimp only at h
  (repeat' split at h) <;> first | cases h | exact double_ne_unsigned h

theorem afterDigits_ne_unsigned :
    afterDigits positive value start left ≠ .ok (.unsigned n, rest) := by
  intro h
  unfold afterDigits at h
  split at h
  · exact exponent_ne_unsigned h
  · exact exponent_ne_unsigned h
  · exact double_ne_unsigned h

theorem fraction_ne_unsigned : fraction positive value start left ≠ .ok (.unsigned n, rest) := by
  intro h
  unfold fraction at h
  split at h
  · exact afterDigits_ne_unsigned h
  · cases h
  · cases h
  · exact afterDigits_ne_unsigned h

theorem wholeNumber_eq_unsigned (h : wholeNumber positive value left = .ok (.unsigned n, rest)) :
    positive = true ∧ n = value ∧ rest = left := by
  unfold wholeNumber at h
  split at h
  · exact absurd h fraction_ne_unsigned
  · exact absurd h exponent_ne_unsigned
  · exact absurd h exponent_ne_unsigned
  · split at h
    · cases h
      exact ⟨‹_›, rfl, rfl⟩
    · split at h <;> cases h

theorem wholeNumber_of_stops (stops : Stops left) :
    wholeNumber true value left = .ok (.unsigned value, left) := by
  unfold wholeNumber
  split
  · exact absurd rfl (stops '.' rfl).2.1
  · exact absurd rfl (stops 'e' rfl).2.2.1
  · exact absurd rfl (stops 'E' rfl).2.2.2
  · rfl

/-- A whole number that fits a word is read digit by digit. -/
theorem toDigits_of_number (h : number positive left = .ok (.unsigned n, rest)) :
    positive = true ∧ left = Nat.toDigits 10 n ++ rest := by
  unfold number at h
  split at h
  · cases h
  · split at h
    · cases h
    · obtain ⟨rfl, rfl, rfl⟩ := wholeNumber_eq_unsigned h
      exact ⟨rfl, rfl⟩
  · rename_i c left apart
    split at h
    · cases h
    · rename_i d known
      split at h
      · rename_i read
        obtain ⟨rfl, rfl, rfl⟩ := wholeNumber_eq_unsigned h
        obtain ⟨digits, rfl, all, rfl⟩ := significand_eq read
        refine ⟨rfl, ?_⟩
        obtain ⟨digit, rfl⟩ := digit?_eq_some_iff.1 known
        have range := isDigit_iff.1 digit
        have first : c.toNat ≠ 0x30 := fun same => apart (Char.toNat_inj.1 same)
        rw [toDigits_ofDigitChars all (by omega), Nat.toDigits_of_lt_base (by omega),
          digitChar_of_isDigit digit]
        rfl
      · split at h
        · exact absurd h fraction_ne_unsigned
        · exact absurd h afterDigits_ne_unsigned

theorem number_toDigits (fits : n < 2 ^ 64) (stops : Stops rest) :
    number true (Nat.toDigits 10 n ++ rest) = .ok (.unsigned n, rest) := by
  rcases Nat.eq_zero_or_pos n with rfl | some
  · have none : rest.head?.bind digit? = none := by
      cases rest with
      | nil => rfl
      | cons c rest => exact digit?_of_stops stops
    show number true ('0' :: rest) = _
    simp only [number, none]
    exact wholeNumber_of_stops stops
  · have whole : Nat.ofDigitChars 10 (Nat.toDigits 10 n) 0 = n := Nat.ofDigitChars_ten_toDigits
    have first := head?_toDigits some
    have all (c) (member : c ∈ Nat.toDigits 10 n) : c.isDigit = true :=
      Nat.isDigit_of_mem_toDigits (by decide) (by decide) member
    cases written : Nat.toDigits 10 n with
    | nil => exact absurd written Nat.toDigits_ne_nil
    | cons c digits =>
      rw [written] at whole first all
      obtain ⟨digit, all⟩ := List.forall_mem_cons.1 all
      rw [Nat.ofDigitChars_cons, Nat.mul_zero, Nat.zero_add] at whole
      have fits := Nat.lt_of_le_of_lt (Nat.le_of_eq whole) fits
      obtain ⟨count, read⟩ := significand_append all fits stops 0
      have known := digit?_eq_some_iff.2 ⟨digit, rfl⟩
      rw [List.cons_append, number]
      · rw [known]
        dsimp only
        rw [show c.toNat - 48 = c.toNat - '0'.toNat from rfl, read, whole]
        exact wholeNumber_of_stops stops
      · rintro rfl
        exact first rfl

end

end DispatchServer.Json
