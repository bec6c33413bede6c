import Chip8.Proofs.NumeralGrammar
import Chip8.Proofs.Reading

/-! Values read as integers. An integer stands for itself, and a text for the integer that it is a
numeral of; everything else is refused as no integer. What escapes is a value that cannot be written
into the refusal, and these are the lists and the mappings that hold an integer of more than 4300
digits. -/

namespace Chip8

namespace Text

theorem trimEnd_concat {c : Char} (cs : List Char) (plain : isBlank c = false) :
    trimEnd (cs ++ [c]) = cs ++ [c] := by
  simp [trimEnd, plain]

namespace Numeral

/-- Flaws that no numeral has. -/
inductive Flawed : List Char → Prop
  /-- White space or signs before the mark. -/
  | early {before rest : List Char} {mark : Char} (some : before ≠ [])
      (each : ∀ c ∈ before, c.toNat ∈ spaces ∨ c = '+' ∨ c = '-') (marks : IsMark mark) :
      Flawed (before ++ '0' :: mark :: rest)
  /-- A mark and nothing behind it. -/
  | bare {after : List Char} {mark : Char} (marks : IsMark mark) (blank : AllBlank after) :
      Flawed ('0' :: mark :: after)
  | doubled {cs : List Char} (twice : ['_', '_'] <:+: cs) : Flawed cs
  /-- An underscore at the end. -/
  | trailing {after : List Char} (before : List Char) (blank : AllBlank after) :
      Flawed (before ++ '_' :: after)

variable {cs : List Char} {ds : List Nat}

theorem twice_of_cons {c : Char} (other : c ≠ '_') (twice : ['_', '_'] <:+: c :: cs) :
    ['_', '_'] <:+: cs := by
  obtain first | later := List.infix_cons_iff.mp twice
  · exact absurd (List.cons_prefix_cons.mp first).1.symm other
  · exact later

theorem twice_of_append_left {before : List Char} (none : '_' ∉ before)
    (twice : ['_', '_'] <:+: before ++ cs) : ['_', '_'] <:+: cs := by
  induction before with
  | nil => exact twice
  | cons c rest ih =>
    rw [List.mem_cons, not_or] at none
    exact ih none.2 (twice_of_cons (Ne.symm none.1) twice)

theorem twice_of_append_right {after : List Char} (none : '_' ∉ after)
    (twice : ['_', '_'] <:+: cs ++ after) : ['_', '_'] <:+: cs := by
  rw [← List.reverse_infix, List.reverse_append] at twice
  exact List.reverse_infix.mp (twice_of_append_left (by simpa using none) twice)

namespace Grouped

variable {shows : Char → Nat → Prop} (underscore : ∀ {c d}, shows c d → c ≠ '_')
include underscore

/-- An underscore before digits has none behind it. -/
theorem twice_of_cons (grouped : Grouped shows cs ds) (twice : ['_', '_'] <:+: '_' :: cs) :
    ['_', '_'] <:+: cs := by
  obtain ⟨c, d, rest, shown, rfl⟩ := grouped.exists_cons
  obtain first | later := List.infix_cons_iff.mp twice
  · have second := (List.cons_prefix_cons.mp first).2
    exact absurd (List.cons_prefix_cons.mp second).1.symm (underscore shown)
  · exact later

theorem not_twice (grouped : Grouped shows cs ds) : ¬ ['_', '_'] <:+: cs := by
  induction grouped with
  | single shown =>
    intro twice
    have length := twice.length_le
    simp at length
  | adjacent shown rest ih =>
    intro twice
    exact ih (Numeral.twice_of_cons (underscore shown) twice)
  | separated shown rest ih =>
    intro twice
    exact ih (rest.twice_of_cons underscore (Numeral.twice_of_cons (underscore shown) twice))

end Grouped

theorem Hexadecimal.not_twice {n : Nat} (behind : Hexadecimal cs n) : ¬ ['_', '_'] <:+: cs := by
  obtain ⟨underscore, grouped, blank⟩ := behind
  have digits := grouped.not_twice IsHexadecimal.ne_underscore
  intro twice
  have twice := twice_of_append_right (blank.not_mem (by decide)) twice
  obtain rfl | rfl := underscore
  · exact digits twice
  · exact digits (grouped.twice_of_cons IsHexadecimal.ne_underscore twice)

theorem Decimal.not_twice {n : Int} (numeral : Decimal cs n) : ¬ ['_', '_'] <:+: cs := by
  obtain ⟨blankBefore, signed, grouped, _, blankAfter⟩ := numeral
  have digits := grouped.not_twice fun shown => IsHexadecimal.ne_underscore (.inl shown)
  intro twice
  have twice := twice_of_append_right (blankAfter.not_mem (by decide)) twice
  have twice := twice_of_append_left (blankBefore.not_mem (by decide)) twice
  exact digits (twice_of_append_left (not_mem_of_signed signed (by decide)) twice)

theorem Denotes.not_twice {n : Int} (denotes : Denotes cs n) : ¬ ['_', '_'] <:+: cs := by
  cases denotes with
  | @hexadecimal mark rest n marks behind =>
    have none : '_' ∉ ['0', mark] := by obtain rfl | rfl := marks <;> decide
    exact fun twice => behind.not_twice (twice_of_append_left none twice)
  | decimal _ numeral => exact numeral.not_twice

/-- A numeral ends in a digit, up to white space. -/
theorem Denotes.exists_last {n : Int} (denotes : Denotes cs n) :
    ∃ before c d after, IsHexadecimal c d ∧ AllBlank after ∧ cs = before ++ [c] ++ after := by
  cases denotes with
  | @hexadecimal mark rest n marks behind =>
    obtain @⟨lead, cs, after, ds, underscore, grouped, blank⟩ := behind
    obtain ⟨rest, c, d, shown, rfl⟩ := grouped.exists_concat
    exact ⟨'0' :: mark :: (lead ++ rest), c, d, after, shown, blank, by simp⟩
  | decimal _ numeral =>
    obtain @⟨before, sign, cs, after, factor, ds, _, signed, grouped, _, blank⟩ := numeral
    obtain ⟨rest, c, d, shown, rfl⟩ := grouped.exists_concat
    exact ⟨before ++ (sign ++ rest), c, d, after, .inl shown, blank, by simp⟩

theorem Flawed.not_denotes {n : Int} (flawed : Flawed cs) : ¬ Denotes cs n := by
  intro denotes
  cases flawed with
  | @early before rest mark some each marks =>
    generalize whole : before ++ '0' :: mark :: rest = cs at denotes
    cases denotes with
    | hexadecimal =>
      cases before with
      | nil => contradiction
      | cons c more =>
        obtain rfl : c = '0' := (List.cons.inj whole).1
        exact absurd (each '0' List.mem_cons_self) (by decide)
    | decimal _ numeral =>
      exact numeral.not_mem_mark marks (by simp [← whole])
  | @bare after mark marks blank =>
    cases denotes with
    | hexadecimal _ behind =>
      obtain ⟨_, grouped, _⟩ := behind
      obtain ⟨c, d, rest, shown, rfl⟩ := grouped.exists_cons
      exact shown.not_space (blank c (by simp))
    | decimal unmarked _ => exact unmarked ⟨mark, after, marks, rfl⟩
  | doubled twice => exact denotes.not_twice twice
  | @trailing after before blank =>
    obtain ⟨rest, c, d, tail, shown, blankTail, same⟩ := denotes.exists_last
    have cut : trimEnd (before ++ ['_'] ++ after) = trimEnd (rest ++ [c] ++ tail) := by
      rw [← same, List.append_assoc, List.singleton_append]
    rw [trimEnd_append _ blank, trimEnd_append _ blankTail, trimEnd_concat before (by decide),
      trimEnd_concat rest shown.plain] at cut
    exact shown.ne_underscore (List.concat_inj.mp (by simpa using cut)).2.symm

end Numeral

end Text

namespace Document

/-- The value is the integer, or a list or a mapping with the integer in it, at any depth. -/
inductive Holds (n : Int) : Document → Prop
  | self : Holds n (.int n)
  | item {items : List Document} {item : Document} (member : item ∈ items)
      (inside : Holds n item) : Holds n (.list items)
  | key {entries : List (Document × Document)} {entry : Document × Document}
      (member : entry ∈ entries) (inside : Holds n entry.1) : Holds n (.mapping entries)
  | value {entries : List (Document × Document)} {entry : Document × Document}
      (member : entry ∈ entries) (inside : Holds n entry.2) : Holds n (.mapping entries)

theorem isSome_nestedItems? (items : List Document) :
    (nestedItems? items).isSome ↔ ∀ item ∈ items, (nested? item).isSome := by
  induction items with
  | nil => simp [nestedItems?]
  | cons item rest ih =>
    rw [List.forall_mem_cons, ← ih, nestedItems?]
    cases nested? item <;> cases nestedItems? rest <;> simp

/-- The integer has at most 4300 decimal digits. -/
def IsShort (n : Int) : Prop :=
  (Nat.toDigits 10 n.natAbs).length ≤ 4300

theorem isSome_intText? (n : Int) : (intText? n).isSome ↔ IsShort n := by
  have digits : n.natAbs < 10 ^ Text.Numeral.maxDecimalDigits ↔ IsShort n :=
    (Nat.length_toDigits_le_iff (by decide) (by decide)).symm
  rw [intText?, Option.isSome_ite, Nat.pow_eq, digits]

theorem holds_int_iff {n other : Int} : Holds n (.int other) ↔ n = other := by
  constructor
  · rintro ⟨⟩
    rfl
  · rintro rfl
    exact .self

theorem holds_list_iff {n : Int} {items : List Document} :
    Holds n (.list items) ↔ ∃ item ∈ items, Holds n item := by
  constructor
  · rintro ⟨⟩
    exact ⟨_, ‹_›, ‹_›⟩
  · rintro ⟨item, member, inside⟩
    exact .item member inside

theorem holds_mapping_iff {n : Int} {entries : List (Document × Document)} :
    Holds n (.mapping entries) ↔ ∃ entry ∈ entries, Holds n entry.1 ∨ Holds n entry.2 := by
  constructor
  · intro holds
    cases holds with
    | key member inside => exact ⟨_, member, .inl inside⟩
    | value member inside => exact ⟨_, member, .inr inside⟩
  · rintro ⟨entry, member, inside | inside⟩
    · exact .key member inside
    · exact .value member inside

/-- A value can be written exactly if every integer in it has at most 4300 digits. -/
theorem isSome_nested?_iff (value : Document) :
    (nested? value).isSome ↔ ∀ n, Holds n value → IsShort n := by
  cases value with
  | null | bool _ | float _ | text _ => exact iff_of_true rfl nofun
  | int n =>
    simp only [nested?, isSome_intText?, holds_int_iff, forall_eq]
  | list items =>
    simp only [nested?, Option.isSome_map, isSome_nestedItems?, holds_list_iff]
    constructor
    · rintro written n ⟨item, member, inside⟩
      exact (isSome_nested?_iff item).mp (written item member) n inside
    · intro short item member
      exact (isSome_nested?_iff item).mpr fun n inside => short n ⟨item, member, inside⟩
  | mapping entries =>
    simp only [nested?, Option.isSome_map, isSome_nestedEntries?, holds_mapping_iff]
    constructor
    · rintro written n ⟨⟨key, value⟩, member, inside | inside⟩
      · exact (isSome_nested?_iff key).mp (written _ member).1 n inside
      · exact (isSome_nested?_iff value).mp (written _ member).2 n inside
    · rintro short ⟨key, value⟩ member
      exact ⟨(isSome_nested?_iff key).mpr fun n inside => short n ⟨_, member, .inl inside⟩,
        (isSome_nested?_iff value).mpr fun n inside => short n ⟨_, member, .inr inside⟩⟩
termination_by sizeOf value
decreasing_by
  all_goals
    have smaller := List.sizeOf_lt_of_mem member
    simp at smaller ⊢
    omega

/-- The value is the integer or a numeral of it. -/
inductive StandsFor : Document → Int → Prop
  | integer (n : Int) : StandsFor (.int n) n
  | numeral {cs : List Char} {n : Int} (denotes : Text.Numeral.Denotes cs n) :
      StandsFor (.text (.ofChars cs)) n

theorem integer?_iff_standsFor {value : Document} {n : Int} :
    value.integer? = some n ↔ StandsFor value n := by
  constructor
  · intro number
    cases value with
    | int m =>
      obtain rfl : m = n := Option.some.inj number
      exact .integer m
    | text s =>
      obtain ⟨cs, rfl, denotes⟩ := Text.Numeral.integer?_eq_some_iff.mp number
      exact .numeral denotes
    | null | bool _ | float _ | list _ | mapping _ => contradiction
  · intro stands
    cases stands with
    | integer => rfl
    | numeral denotes => exact Text.Numeral.integer?_eq_some_iff.mpr ⟨_, rfl, denotes⟩

end Document

namespace Config

open Document Text.Numeral

variable {value : Document}

theorem readInt_ok_iff {n : Int} : readInt value = .ok n ↔ StandsFor value n := by
  rw [← integer?_iff_standsFor]
  refine ⟨integer?_of_readInt, ?_⟩
  intro number
  rw [readInt_eq, number]

theorem readInt_of_other (other : ∀ n, ¬ StandsFor value n) : readInt value = notInteger value := by
  have none : value.integer? = none := by
    rw [Option.eq_none_iff_forall_ne_some]
    exact fun n number => other n (integer?_iff_standsFor.mp number)
  rw [readInt_eq, none]

theorem not_standsFor_of_flawed {cs : List Char} (flawed : Flawed cs) (n : Int) :
    ¬ StandsFor (.text (.ofChars cs)) n := by
  generalize same : Text.ofChars cs = s
  intro stands
  cases stands with
  | numeral denotes =>
    have read := congrArg Text.chars? same
    rw [Text.chars?_ofChars, Text.chars?_ofChars] at read
    exact flawed.not_denotes (Option.some.inj read ▸ denotes)

/-- What is no integer is refused if it can be written, and escapes if not. -/
theorem notInteger_iff (value : Document) :
    ((∃ s, value.text? = some s ∧ notInteger value = .error (.invalid (.notInteger s))) ↔
      ∀ n, Holds n value → IsShort n) ∧
    (notInteger value = .error .tooLong ↔ ∃ n, Holds n value ∧ ¬ IsShort n) := by
  have long : (∃ n, Holds n value ∧ ¬ IsShort n) ↔ ¬ value.text?.isSome := by
    rw [isSome_text?, isSome_nested?_iff]
    simp
  rw [long, ← isSome_nested?_iff, ← isSome_text?]
  cases written : value.text? <;> simp [notInteger, written]

theorem readInt_list_of_long {n : Int} (long : intText? n = none) :
    readInt (.list [.int n]) = .error .tooLong := by
  have large : ¬ IsShort n := by
    rw [← isSome_intText?, long]
    simp
  have read : readInt (.list [.int n]) = notInteger (.list [.int n]) := rfl
  rw [read, (notInteger_iff _).2]
  exact ⟨n, .item List.mem_cons_self .self, large⟩

/-- Reading takes an integer for itself and a text for the integer that it is a numeral of, and it
refuses every other text, those with a flaw among them. A value of another kind is refused if every
integer in it has at most 4300 digits, and otherwise the refusal itself cannot be written. -/
theorem readInt_takes_numerals (value : Document) :
    (∀ n, readInt value = .ok n ↔ StandsFor value n) ∧
    (∀ s, value = .text s → (∀ n, ¬ StandsFor value n) →
      readInt value = .error (.invalid (.notInteger s))) ∧
    (∀ cs, value = .text (.ofChars cs) → Flawed cs →
      readInt value = .error (.invalid (.notInteger (.ofChars cs)))) ∧
    ((∀ n, value ≠ .int n) → (∀ s, value ≠ .text s) →
      ((∃ s, value.text? = some s ∧ readInt value = .error (.invalid (.notInteger s))) ↔
        ∀ n, Holds n value → IsShort n) ∧
      (readInt value = .error .tooLong ↔ ∃ n, Holds n value ∧ ¬ IsShort n)) := by
  refine ⟨fun n => readInt_ok_iff, ?_, ?_, ?_⟩
  · rintro s rfl other
    exact readInt_of_other other
  · rintro cs rfl flawed
    exact readInt_of_other (not_standsFor_of_flawed flawed)
  · intro notInt notText
    have other : ∀ n, ¬ StandsFor value n := by
      intro n stands
      cases stands with
      | integer => exact notInt n rfl
      | numeral => exact notText _ rfl
    rw [readInt_of_other other]
    exact notInteger_iff value

/-- A numeral in two scripts, a sign before the mark, a word, a doubled underscore and a truth value
in a list. -/
theorem readInt_takes_numerals_scripts :
    readInt (.text " -1_٢ ") = .ok (-12) ∧
    readInt (.text "+0x5") = .error (.invalid (.notInteger "+0x5")) ∧
    readInt (.text "fast") = .error (.invalid (.notInteger "fast")) ∧
    readInt (.text "1__0") = .error (.invalid (.notInteger "1__0")) ∧
    ∃ s, readInt (.list [.bool true]) = .error (.invalid (.notInteger s)) := by
  refine ⟨?_, ?_, ?_, ?_, ?_⟩
  · have grouped : Grouped IsDecimal ['1', '_', '٢'] [1, 2] :=
      .separated (by decide) (.single (by decide))
    have numeral : Decimal ([' '] ++ (['-'] ++ ['1', '_', '٢']) ++ [' '])
        (-1 * (Nat.ofDigits 10 [1, 2].reverse : Nat)) :=
      .digits (by decide) (by decide) grouped (by decide) (by decide)
    obtain ⟨exactly, _⟩ := readInt_takes_numerals (.text " -1_٢ ")
    exact (exactly (-12)).mpr (.numeral numeral.denotes)
  · have sign : ∀ c ∈ ['+'], c.toNat ∈ Text.spaces ∨ c = '+' ∨ c = '-' := by simp
    have flawed : Flawed (['+'] ++ '0' :: 'x' :: ['5']) := .early (by simp) sign (.inl rfl)
    exact (readInt_takes_numerals (.text "+0x5")).2.2.1 _ rfl flawed
  · have read : readInt (.text "fast") = .error (.invalid (.notInteger "fast")) := rfl
    obtain ⟨exactly, refused, _⟩ := readInt_takes_numerals (.text "fast")
    refine refused _ rfl ?_
    intro n stands
    have number := (exactly n).mpr stands
    rw [read] at number
    contradiction
  · have flawed : Flawed ['1', '_', '_', '0'] := .doubled (by decide)
    exact (readInt_takes_numerals (.text "1__0")).2.2.1 _ rfl flawed
  · have short : ∀ n, Holds n (.list [.bool true]) → IsShort n := by
      simp only [holds_list_iff, List.mem_singleton]
      rintro n ⟨item, rfl, inside⟩
      cases inside
    obtain ⟨refused, _⟩ := (readInt_takes_numerals (.list [.bool true])).2.2.2 (by simp) (by simp)
    obtain ⟨s, _, read⟩ := refused.mpr short
    exact ⟨s, read⟩

/-- A list with an integer of more than 4300 digits is no integer, but it is not refused with an
error of the configuration. -/
theorem long_item_escapes :
    ¬ ∃ error, readInt (.list [.int (Nat.pow 16 3572 : Nat)]) = .error (.invalid error) := by
  have long : intText? (Nat.pow 16 3572 : Nat) = none := by decide +kernel
  rintro ⟨error, refused⟩
  cases (readInt_list_of_long long).symm.trans refused

end Config

end Chip8
