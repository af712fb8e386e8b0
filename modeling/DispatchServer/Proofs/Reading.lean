import DispatchServer.Proofs.Grammar

/-! The readers take what the grammar has and leave the rest. -/
namespace DispatchServer.Json

theorem isBlank_iff {c : Char} : isBlank c = true ↔ c ∈ [' ', '\n', '\t', '\r'] := by
  simp [isBlank, or_assoc]

section

variable {space left : List Char} {c : Char}

theorem skipBlank_append (blank : Blank space) : skipBlank (space ++ left) = skipBlank left := by
  induction space with
  | nil => rfl
  | cons c space ih =>
    obtain ⟨first, rest⟩ := List.forall_mem_cons.1 blank
    rw [List.cons_append, skipBlank, List.dropWhile_cons_of_pos (isBlank_iff.2 first)]
    exact ih rest

theorem skipBlank_cons (solid : c ∉ [' ', '\n', '\t', '\r']) : skipBlank (c :: left) = c :: left :=
  List.dropWhile_cons_of_neg (mt isBlank_iff.1 solid)

theorem exists_blank (left : List Char) :
    ∃ space, Blank space ∧ left = space ++ skipBlank left := by
  refine ⟨left.takeWhile isBlank, fun c member => ?_, List.takeWhile_append_dropWhile.symm⟩
  exact isBlank_iff.1 (List.all_eq_true.1 List.all_takeWhile c member)

theorem skipBlank_skipBlank : skipBlank (skipBlank left) = skipBlank left := by
  obtain ⟨space, blank, whole⟩ := exists_blank left
  rw [← skipBlank_append blank, ← whole]

end

/-- A reader takes what is written for a value and leaves the rest. -/
structure Reads {α : Type} (read : List Char → Read α) (item : List Char → α → Prop) : Prop where
  sound : ∀ {left rest value}, read left = .ok (value, rest) →
    ∃ written, left = written ++ rest ∧ item written value
  complete : ∀ {written rest value}, item written value → Stops rest →
    read (written ++ rest) = .ok (value, rest)
  blank : ∀ left, read (skipBlank left) = read left
  starts : ∀ {written value}, item written value → ∃ space c rest, Blank space ∧
    written = space ++ c :: rest ∧ c ∉ [' ', '\n', '\t', '\r', ']']

theorem toDigits_eq_cons (n : Nat) : ∃ c digits, Nat.toDigits 10 n = c :: digits ∧
    c.isDigit = true := by
  cases written : Nat.toDigits 10 n with
  | nil => exact absurd written Nat.toDigits_ne_nil
  | cons c digits =>
    exact ⟨c, digits, rfl, Nat.isDigit_of_mem_toDigits (by decide) (by decide)
      (written ▸ List.mem_cons_self)⟩

theorem solid_of_isDigit {c : Char} (digit : c.isDigit = true) :
    c ∉ [' ', '\n', '\t', '\r', ']'] ∧ c ≠ '-' := by
  have others : ∀ d ∈ ['-', ' ', '\n', '\t', '\r', ']'], d.isDigit = false := by simp
  refine ⟨fun member => ?_, fun same => ?_⟩
  · exact Bool.false_ne_true ((others c (List.mem_cons_of_mem _ member)).symm.trans digit)
  · exact Bool.false_ne_true ((others c (same ▸ List.mem_cons_self)).symm.trans digit)

theorem solid_of_start {c : Char} (start : c ∉ [' ', '\n', '\t', '\r', ']']) :
    c ∉ [' ', '\n', '\t', '\r'] := by
  refine fun member => start ?_
  rw [show [' ', '\n', '\t', '\r', ']'] = [' ', '\n', '\t', '\r'] ++ [']'] from rfl]
  exact List.mem_append_left _ member

theorem fitting_eq_ok {limit n : Nat} {expected : String} {read : Read Number}
    {rest : List Char} : fitting limit expected read = .ok (n, rest) ↔
      read = .ok (.unsigned n, rest) ∧ n < limit := by
  constructor
  · intro h
    unfold fitting at h
    split at h
    · cases h
    · split at h <;> cases h
      exact ⟨rfl, ‹_›⟩
    · cases h
    · cases h
  · rintro ⟨rfl, less⟩
    exact if_pos less

theorem reads_unsigned {limit : Nat} (word : limit ≤ 2 ^ 64) (expected : String) :
    Reads (unsigned limit expected) fun written n => Integer written n ∧ n < limit where
  sound {left rest n} h := by
    obtain ⟨space, blank, whole⟩ := exists_blank left
    unfold unsigned at h
    split at h
    · cases h
    · cases (toDigits_of_number (fitting_eq_ok.1 h).1).1
    · split at h
      · obtain ⟨read, less⟩ := fitting_eq_ok.1 h
        obtain ⟨-, digits⟩ := toDigits_of_number read
        refine ⟨_, ?_, .digits blank, less⟩
        rw [List.append_assoc, ← digits, ← whole]
      · cases h
  complete {written rest n} integer stops := by
    obtain ⟨⟨blank⟩, less⟩ := integer
    obtain ⟨c, digits, same, digit⟩ := toDigits_eq_cons n
    obtain ⟨solid, unsigned'⟩ := solid_of_isDigit digit
    have read := number_toDigits (Nat.lt_of_lt_of_le less word) stops
    rw [same, List.cons_append] at read
    have known : (digit? c).isSome = true := by
      rw [digit?_eq_some_iff.2 ⟨digit, rfl⟩]
      rfl
    unfold unsigned
    rw [List.append_assoc, skipBlank_append blank, same, List.cons_append,
      skipBlank_cons (solid_of_start solid)]
    split
    · rename_i none
      cases none
    · rename_i signed
      exact absurd (List.cons.inj signed).1 unsigned'
    · rw [List.head?_cons, Option.bind_some, if_pos known]
      exact fitting_eq_ok.2 ⟨read, less⟩
  blank left := by simp only [unsigned, skipBlank_skipBlank]
  starts := by
    rintro written n ⟨⟨blank⟩, -⟩
    obtain ⟨c, digits, same, digit⟩ := toDigits_eq_cons n
    exact ⟨_, c, digits, blank, by rw [same], (solid_of_isDigit digit).1⟩

section

variable {left rest : List Char}

theorem word_iff {expected : List Char} : word expected left = .ok ((), rest) ↔
    left = expected ++ rest := by
  induction expected generalizing left with
  | nil => simp [word]
  | cons e expected ih =>
    cases left with
    | nil => simp [word, stop]
    | cons c left =>
      unfold word
      split
      · rename_i same
        rw [ih, same, List.cons_append, List.cons.injEq, eq_self_iff_true, true_and]
      · rename_i other
        simp [stop, other]

/-- The text goes on with the character, behind space. -/
theorem eq_of_skipBlank {c : Char} (h : skipBlank left = c :: rest) :
    ∃ space, Blank space ∧ left = space ++ c :: rest := by
  obtain ⟨space, blank, whole⟩ := exists_blank left
  exact ⟨space, blank, by rwa [h] at whole⟩

theorem skipBlank_solid {space : List Char} {c : Char} (blank : Blank space)
    (solid : c ∉ [' ', '\n', '\t', '\r']) : skipBlank (space ++ c :: rest) = c :: rest := by
  rw [skipBlank_append blank, skipBlank_cons solid]

theorem map_eq_ok {α β : Type} {read : Except Fault α} {f : α → β} {result : β} :
    read.map f = .ok result ↔ ∃ got, read = .ok got ∧ f got = result := by
  cases read <;> simp [Except.map]

/-- What is made of what was read. -/
theorem Reads.map {α β : Type} {read : List Char → Read α} {item : List Char → α → Prop}
    (reads : Reads read item) (f : α → β) :
    Reads (fun left => (read left).map fun (value, left) => (f value, left))
      fun written result => ∃ value, item written value ∧ f value = result where
  sound h := by
    obtain ⟨⟨value, _⟩, got, ⟨⟩⟩ := map_eq_ok.1 h
    obtain ⟨written, whole, one⟩ := reads.sound got
    exact ⟨written, whole, value, one, rfl⟩
  complete one stops := by
    obtain ⟨value, one, rfl⟩ := one
    exact map_eq_ok.2 ⟨_, reads.complete one stops, rfl⟩
  blank left := by simp only [reads.blank]
  starts one := reads.starts one.choose_spec.1

theorem Reads.congr {α : Type} {read : List Char → Read α} {item same : List Char → α → Prop}
    (reads : Reads read item) (iff : ∀ written value, item written value ↔ same written value) :
    Reads read same := by
  obtain rfl : item = same := funext fun written => funext fun value => propext (iff written value)
  exact reads

theorem reads_boolean : Reads boolean Truth where
  sound {left rest b} h := by
    unfold boolean at h
    split at h
    · cases h
    · rename_i opens
      obtain ⟨⟨_, _⟩, read, ⟨⟩⟩ := map_eq_ok.1 h
      obtain ⟨space, blank, rfl⟩ := eq_of_skipBlank opens
      rw [word_iff] at read
      exact ⟨_, by rw [read]; simp, .true blank⟩
    · rename_i opens
      obtain ⟨⟨_, _⟩, read, ⟨⟩⟩ := map_eq_ok.1 h
      obtain ⟨space, blank, rfl⟩ := eq_of_skipBlank opens
      rw [word_iff] at read
      exact ⟨_, by rw [read]; simp, .false blank⟩
    · cases h
  complete {written rest b} truth _ := by
    cases truth with
    | true blank =>
      rw [List.append_assoc, List.cons_append, boolean, skipBlank_solid blank (by decide)]
      exact map_eq_ok.2 ⟨((), rest), word_iff.2 rfl, rfl⟩
    | false blank =>
      rw [List.append_assoc, List.cons_append, boolean, skipBlank_solid blank (by decide)]
      exact map_eq_ok.2 ⟨((), rest), word_iff.2 rfl, rfl⟩
  blank left := by simp only [boolean, skipBlank_skipBlank]
  starts truth := by
    cases truth with
    | true blank | false blank => exact ⟨_, _, _, blank, rfl, by decide⟩

theorem colon_iff : colon left = .ok ((), rest) ↔
    ∃ space, Blank space ∧ left = space ++ ':' :: rest := by
  constructor
  · intro h
    unfold colon at h
    split at h <;> cases h
    exact eq_of_skipBlank ‹_›
  · rintro ⟨space, blank, rfl⟩
    rw [colon, skipBlank_solid blank (by decide)]
    rfl

theorem null_iff {expected : String} : null expected left = .ok ((), rest) ↔
    ∃ space, Blank space ∧ left = space ++ 'n' :: 'u' :: 'l' :: 'l' :: rest := by
  constructor
  · intro h
    unfold null at h
    split at h
    · cases h
    · obtain ⟨space, blank, rfl⟩ := eq_of_skipBlank ‹_›
      rw [word_iff] at h
      exact ⟨space, blank, by rw [h]; rfl⟩
    · cases h
  · rintro ⟨space, blank, rfl⟩
    rw [null, skipBlank_solid blank (by decide)]
    exact word_iff.2 rfl

theorem string_iff {s : String} : string left [] = .ok (s, rest) ↔
    ∃ written, left = written ++ '"' :: rest ∧ Spells written s.toList := by
  constructor
  · intro h
    obtain ⟨written, meant, rfl, spells, rfl⟩ := spells_of_string h
    exact ⟨written, rfl, by simpa using spells⟩
  · rintro ⟨written, rfl, spells⟩
    rw [string_of_spells spells]
    simp

variable {α : Type} {names : String → Option α} {expected : String} {value : α}

theorem nameOf_iff : nameOf names expected left = .ok (value, rest) ↔
    ∃ written name, left = written ++ '"' :: rest ∧ Spells written name.toList ∧
      names name = some value := by
  constructor
  · intro h
    unfold nameOf at h
    split at h
    · cases h
    · rename_i read
      obtain ⟨written, rfl, spells⟩ := string_iff.1 read
      split at h <;> cases h
      exact ⟨written, _, rfl, spells, ‹_›⟩
  · rintro ⟨written, name, rfl, spells, known⟩
    rw [nameOf, string_iff.2 ⟨written, rfl, spells⟩]
    simp only [known]

theorem nameKey_iff : nameKey names expected left = .ok (value, rest) ↔
    ∃ quoted name, left = quoted ++ rest ∧ Quoted quoted name ∧ names name = some value := by
  constructor
  · intro h
    unfold nameKey at h
    split at h
    · cases h
    · obtain ⟨space, blank, rfl⟩ := eq_of_skipBlank ‹_›
      obtain ⟨written, name, rfl, spells, known⟩ := nameOf_iff.1 h
      exact ⟨_, name, by simp, .string blank spells, known⟩
    · cases h
    · cases h
  · rintro ⟨_, name, rfl, ⟨blank, spells⟩, known⟩
    rw [nameKey, List.append_assoc, List.cons_append, skipBlank_solid blank (by decide),
      List.append_assoc]
    exact nameOf_iff.2 ⟨_, name, rfl, spells, known⟩

theorem nameEntry_iff : nameEntry names expected left = .ok (value, rest) ↔
    ∃ quoted name first second, left = quoted ++ (first ++ ':' :: (second ++
        'n' :: 'u' :: 'l' :: 'l' :: rest)) ∧
      Quoted quoted name ∧ Blank first ∧ Blank second ∧ names name = some value := by
  constructor
  · intro h
    unfold nameEntry at h
    split at h
    · cases h
    · rename_i key
      obtain ⟨quoted, name, rfl, named, known⟩ := nameKey_iff.1 key
      split at h
      · cases h
      · rename_i told
        obtain ⟨first, colon, rfl⟩ := colon_iff.1 told
        obtain ⟨⟨_, _⟩, ends, ⟨⟩⟩ := map_eq_ok.1 h
        obtain ⟨second, null, rfl⟩ := null_iff.1 ends
        exact ⟨quoted, name, first, second, rfl, named, colon, null, known⟩
  · rintro ⟨quoted, name, first, second, rfl, named, colon, null, known⟩
    simp only [nameEntry, nameKey_iff.2 ⟨quoted, name, rfl, named, known⟩,
      colon_iff.2 ⟨first, colon, rfl⟩, null_iff.2 ⟨second, null, rfl⟩, Except.map]

theorem reads_variant (names : String → Option α) (expected : String) :
    Reads (variant names expected)
      fun written value => ∃ name, Choice written name ∧ names name = some value where
  sound {left rest value} h := by
    unfold variant at h
    split at h
    · cases h
    · obtain ⟨space, blank, rfl⟩ := eq_of_skipBlank ‹_›
      obtain ⟨written, name, rfl, spells, known⟩ := nameOf_iff.1 h
      exact ⟨_, by simp, name, .string (.string blank spells), known⟩
    · obtain ⟨first, opens, rfl⟩ := eq_of_skipBlank ‹_›
      split at h
      · cases h
      · rename_i entry
        obtain ⟨quoted, name, second, third, rfl, named, colon, null, known⟩ :=
          nameEntry_iff.1 entry
        split at h <;> cases h
        obtain ⟨last, closes, rfl⟩ := eq_of_skipBlank ‹_›
        exact ⟨_, by simp, name, .object opens named colon null closes, known⟩
    · cases h
  complete {written rest value} choice _ := by
    obtain ⟨name, choice, known⟩ := choice
    cases choice with
    | string named =>
      obtain ⟨blank, spells⟩ := named
      rw [variant, List.append_assoc, List.cons_append, skipBlank_solid blank (by decide),
        List.append_assoc]
      exact nameOf_iff.2 ⟨_, name, rfl, spells, known⟩
    | object opens named colon null closes =>
      rw [variant, List.append_assoc, List.cons_append, skipBlank_solid opens (by decide)]
      simp only [List.append_assoc, List.cons_append,
        nameEntry_iff.2 ⟨_, name, _, _, rfl, named, colon, null, known⟩]
      rw [skipBlank_solid closes (by decide)]
      rfl
  blank left := by simp only [variant, skipBlank_skipBlank]
  starts choice := by
    obtain ⟨name, choice, known⟩ := choice
    cases choice with
    | string named =>
      obtain ⟨blank, spells⟩ := named
      exact ⟨_, _, _, blank, rfl, by decide⟩
    | object opens => exact ⟨_, _, _, opens, rfl, by decide⟩

end

section

variable {α : Type} {element : List Char → Read α} {item : List Char → α → Prop}
  {first : Bool} {left rest written : List Char} {values : List α} {fuel : Nat}

/-- What follows a value goes on with no number. -/
theorem stops_of_blank {space : List Char} {c : Char} (blank : Blank space)
    (ends : c ∈ [',', ']', '\x7d']) : Stops (space ++ c :: rest) := by
  have apart : ∀ d ∈ [',', ']', '\x7d'] ++ [' ', '\n', '\t', '\r'],
      d.isDigit = false ∧ d ≠ '.' ∧ d ≠ 'e' ∧ d ≠ 'E' := by simp
  cases space with
  | nil =>
    rintro _ ⟨⟩
    exact apart c (List.mem_append_left _ ends)
  | cons d space =>
    rintro _ ⟨⟩
    exact apart d (List.mem_append_right _ (blank d List.mem_cons_self))

theorem Series.stops (series : Series item false written values) {c : Char}
    (ends : c ∈ [',', ']', '\x7d']) (rest : List Char) : Stops (written ++ c :: rest) := by
  cases series with
  | ends blank => exact stops_of_blank blank ends
  | more leads =>
    cases leads with
    | comma blank =>
      rw [List.append_assoc, List.append_assoc]
      exact stops_of_blank blank (by decide)

theorem Series.append (series : Series item first written values) {space : List Char}
    (blank : Blank space) : Series item first (written ++ space) values := by
  induction series with
  | ends before => exact .ends (List.forall_mem_append.2 ⟨before, blank⟩)
  | more leads one _ ih =>
    rw [List.append_assoc, List.append_assoc]
    exact .more leads one ih

theorem key_iff {name : String} : key left = .ok (name, rest) ↔
    ∃ written, left = '"' :: (written ++ '"' :: rest) ∧ Spells written name.toList := by
  constructor
  · intro h
    unfold key at h
    split at h
    · obtain ⟨written, rfl, spells⟩ := string_iff.1 h
      exact ⟨written, rfl, spells⟩
    all_goals cases h
  · rintro ⟨written, rfl, spells⟩
    exact string_iff.2 ⟨written, rfl, spells⟩

theorem nextKey_none_iff : nextKey first left = .ok (none, rest) ↔
    ∃ space after, Blank space ∧ left = space ++ rest ∧ rest = '\x7d' :: after := by
  constructor
  · intro h
    unfold nextKey at h
    split at h
    · cases h
    · cases h
      obtain ⟨space, blank, whole⟩ := eq_of_skipBlank ‹_›
      exact ⟨space, _, blank, whole, rfl⟩
    · split at h
      · obtain ⟨_, -, ⟨⟩⟩ := map_eq_ok.1 h
      · split at h
        · obtain ⟨_, -, ⟨⟩⟩ := map_eq_ok.1 h
        · cases h
  · rintro ⟨space, after, blank, rfl, rfl⟩
    rw [nextKey, skipBlank_solid blank (by decide)]
    rfl

theorem nextKey_some_iff {name : String} : nextKey first left = .ok (some name, rest) ↔
    ∃ lead quoted, Lead first lead ∧ left = lead ++ (quoted ++ rest) ∧ Quoted quoted name := by
  constructor
  · intro h
    unfold nextKey at h
    split at h
    · cases h
    · cases h
    · rename_i opens
      split at h
      · rename_i first
        cases first
        obtain ⟨_, read, ⟨⟩⟩ := map_eq_ok.1 h
        obtain ⟨written, whole, spells⟩ := key_iff.1 read
        rw [whole] at opens
        obtain ⟨space, blank, rfl⟩ := eq_of_skipBlank opens
        exact ⟨[], _, .first, by simp, .string blank spells⟩
      · rename_i second
        obtain rfl : first = false := by simpa using second
        split at h
        · rename_i comma
          subst comma
          obtain ⟨before, lead, rfl⟩ := eq_of_skipBlank opens
          obtain ⟨_, read, ⟨⟩⟩ := map_eq_ok.1 h
          obtain ⟨written, whole, spells⟩ := key_iff.1 read
          obtain ⟨space, blank, rfl⟩ := eq_of_skipBlank whole
          exact ⟨_, _, .comma lead, by simp, .string blank spells⟩
        · cases h
  · rintro ⟨lead, quoted, leads, rfl, ⟨blank, spells⟩⟩
    have read : key ('"' :: (_ ++ '"' :: rest)) = .ok (name, rest) := key_iff.2 ⟨_, rfl, spells⟩
    cases leads with
    | first =>
      rw [List.nil_append, List.append_assoc, List.cons_append, List.append_assoc, nextKey,
        skipBlank_solid blank (by decide)]
      exact congrArg (Except.map _) read
    | comma before =>
      simp only [List.append_assoc, List.cons_append, List.nil_append, nextKey]
      rw [skipBlank_solid before (by decide)]
      show Except.map _ (key (skipBlank _)) = _
      rw [skipBlank_solid blank (by decide)]
      exact congrArg (Except.map _) read

theorem endText_iff : (∃ read, endText left = .ok read) ↔ Blank left := by
  constructor
  · rintro ⟨read, h⟩
    unfold endText at h
    split at h
    · rename_i ends
      obtain ⟨space, blank, whole⟩ := exists_blank left
      rw [ends, List.append_nil] at whole
      exact whole ▸ blank
    · cases h
  · intro blank
    have ends : skipBlank left = [] := by
      rw [← List.append_nil left, skipBlank_append blank]
      rfl
    exact ⟨((), []), by rw [endText, ends]⟩

theorem nextElement_false_iff : nextElement first left = .ok (false, rest) ↔
    ∃ space after, Blank space ∧ left = space ++ rest ∧ rest = ']' :: after := by
  constructor
  · intro h
    unfold nextElement at h
    split at h
    · cases h
    · cases h
      obtain ⟨space, blank, whole⟩ := eq_of_skipBlank ‹_›
      exact ⟨space, _, blank, whole, rfl⟩
    · split at h
      · cases h
      · split at h
        · split at h <;> cases h
        · cases h
  · rintro ⟨space, after, blank, rfl, rfl⟩
    rw [nextElement, skipBlank_solid blank (by decide)]
    rfl

theorem nextElement_true_iff : nextElement first left = .ok (true, rest) ↔
    ∃ lead after, Lead first lead ∧ left = lead ++ after ∧ skipBlank after = rest ∧
      ∃ c tail, rest = c :: tail ∧ c ≠ ']' := by
  constructor
  · intro h
    unfold nextElement at h
    split at h
    · cases h
    · cases h
    · rename_i more opens
      split at h
      · rename_i first
        cases h
        cases first
        exact ⟨[], left, .first, rfl, opens, _, _, rfl, more⟩
      · rename_i second
        obtain rfl : first = false := by simpa using second
        split at h
        · rename_i comma
          subst comma
          obtain ⟨space, blank, rfl⟩ := eq_of_skipBlank opens
          split at h <;> cases h
          rename_i some more
          refine ⟨space ++ [','], _, .comma blank, by simp, rfl, ?_⟩
          cases rest : skipBlank _ with
          | nil => exact absurd rest some
          | cons c tail => exact ⟨c, tail, rfl, fun ends => more tail (ends ▸ rest)⟩
        · cases h
  · rintro ⟨lead, after, leads, rfl, opens, c, tail, rfl, more⟩
    cases leads with
    | first => simp [nextElement, opens]
    | comma blank =>
      rw [List.append_assoc, List.cons_append, nextElement, skipBlank_solid blank (by decide)]
      simp [opens, more]

theorem endList_iff : endList left = .ok ((), rest) ↔
    ∃ space, Blank space ∧ left = space ++ ']' :: rest := by
  constructor
  · intro h
    unfold endList at h
    split at h
    · cases h
    · cases h
      exact eq_of_skipBlank ‹_›
    · split at h <;> cases h
    · cases h
  · rintro ⟨space, blank, rfl⟩
    rw [endList, skipBlank_solid blank (by decide)]
    rfl

variable (reads : Reads element item)
include reads

theorem series_of_elements (h : elements element fuel first left = .ok (values, rest)) :
    ∃ written after, left = written ++ rest ∧ rest = ']' :: after ∧
      Series item first written values := by
  induction fuel generalizing first left values with
  | zero => cases h
  | succ fuel ih =>
    unfold elements at h
    split at h
    · cases h
    · rename_i next
      cases h
      obtain ⟨space, after, blank, rfl, rfl⟩ := nextElement_false_iff.1 next
      exact ⟨space, after, rfl, rfl, .ends blank⟩
    · rename_i next
      obtain ⟨lead, after, leads, rfl, rfl, -⟩ := nextElement_true_iff.1 next
      split at h
      · cases h
      · rename_i one
        rw [reads.blank] at one
        obtain ⟨written, rfl, value⟩ := reads.sound one
        split at h
        · cases h
        · rename_i others
          cases h
          obtain ⟨others, after, rfl, rfl, series⟩ := ih others
          exact ⟨_, after, by simp, rfl, .more leads value series⟩

/-- What is written for a value can be an element, and is read as one. -/
theorem Reads.next {value : α} {lead : List Char} (leads : Lead first lead)
    (one : item written value) (stops : Stops rest) :
    ∃ next, nextElement first (lead ++ (written ++ rest)) = .ok (true, next) ∧
      element next = .ok (value, rest) := by
  refine ⟨skipBlank (written ++ rest), nextElement_true_iff.2 ⟨lead, _, leads, rfl, rfl, ?_⟩, ?_⟩
  · obtain ⟨space, c, after, blank, rfl, start⟩ := reads.starts one
    refine ⟨c, after ++ rest, ?_, fun ends => start (by simp [ends])⟩
    rw [List.append_assoc, List.cons_append, skipBlank_solid blank (solid_of_start start)]
  · rw [reads.blank, reads.complete one stops]

theorem Reads.length_pos {value : α} (one : item written value) : 0 < written.length := by
  obtain ⟨_, _, _, -, rfl, -⟩ := reads.starts one
  rw [List.length_append, List.length_cons]
  omega

theorem elements_of_series (series : Series item first written values)
    (enough : written.length < fuel) :
    elements element fuel first (written ++ ']' :: rest) = .ok (values, ']' :: rest) := by
  induction series generalizing fuel with
  | @ends first space blank =>
    obtain ⟨fuel, rfl⟩ := Nat.exists_eq_add_of_lt enough
    rw [elements, nextElement_false_iff.2 ⟨space, rest, blank, rfl, rfl⟩]
  | more leads one series ih =>
    obtain ⟨fuel, rfl⟩ := Nat.exists_eq_add_of_lt enough
    obtain ⟨next, more, read⟩ := reads.next leads one
      (series.stops (c := ']') (by decide) rest)
    have some := reads.length_pos one
    rw [List.append_assoc, List.append_assoc, elements, more]
    simp only [read]
    rw [ih (by simp only [List.length_append]; omega)]

theorem reads_list : Reads (list element) (Listed item) where
  sound {left rest values} h := by
    unfold list at h
    split at h
    · cases h
    · obtain ⟨space, blank, rfl⟩ := eq_of_skipBlank ‹_›
      split at h
      · cases h
      · rename_i read
        obtain ⟨written, after, rfl, rfl, series⟩ := series_of_elements reads read
        cases h
        exact ⟨_, by simp, .list blank series⟩
    · cases h
  complete {_ rest values} listed _ := by
    obtain @⟨space, written, _, blank, series⟩ := listed
    rw [List.append_assoc, List.cons_append, List.append_assoc, list,
      skipBlank_solid blank (by decide)]
    have enough : written.length < (written ++ ([']'] ++ rest)).length + 1 := by
      rw [List.length_append]
      omega
    have read : elements element _ true (written ++ ([']'] ++ rest)) = _ :=
      elements_of_series reads series enough
    simp only [read]
    rfl
  blank left := by simp only [list, skipBlank_skipBlank]
  starts listed := by
    obtain ⟨blank, series⟩ := listed
    exact ⟨_, _, _, blank, rfl, by decide⟩

end

end DispatchServer.Json
